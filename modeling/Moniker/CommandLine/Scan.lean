import Moniker.CommandLine.Arguments

/-!
# Scanning

The words of a command line are scanned from left to right.  A slot takes its
value from its own word or from the next one.  In the second case the value is
looked at only when the next known option comes or the words end, so a word that
is no option and no value is noticed before a bad value that stands before it.
-/

namespace Moniker
namespace CommandLine

/-!
# Words

A word is a long option, perhaps with a value behind an equals sign, a row of
letters, the mark behind which there are no options, or a plain word.  A single
hyphen is plain.
-/

inductive Word where
  | long (name : Text) (value? : Option Text)
  | letters (row : Text)
  | mark
  | plain (text : Text)
  deriving DecidableEq

namespace Word

def ofLong (body : Text) : Word :=
  match body.span (· ≠ '=') with
  | (name, _ :: value) => long name (some value)
  | (name, []) => long name none

def of : Text -> Word
  | ['-', '-'] => mark
  | '-' :: '-' :: body => ofLong body
  | '-' :: letter :: rest => letters (letter :: rest)
  | text => plain text

end Word

/-!
# Steps
-/

structure Scan where
  draft : Draft := {}
  /-- A slot whose value was not looked at yet, and the value if it has come. -/
  pending? : Option (Slot × Option Text) := none
  deriving DecidableEq

namespace Scan

/-- Looks at the value of the slot that waits. -/
def settle (scan : Scan) : Except Refusal Draft :=
  match scan.pending? with
  | none => .ok scan.draft
  | some (slot, none) => .error (.missingValue slot)
  | some (slot, some value) => scan.draft.fill slot value

def turnOn (scan : Scan) (switch : Switch) : Except Refusal Scan := do
  let draft ← scan.settle
  return { draft := ← draft.turnOn switch }

def fill (scan : Scan) (slot : Slot) (value : Text) : Except Refusal Scan := do
  let draft ← scan.settle
  return { draft := ← draft.fill slot value }

def await (scan : Scan) (slot : Slot) : Except Refusal Scan := do
  return { draft := ← scan.settle, pending? := some (slot, none) }

/-- The letters of switches, up to a slot, whose value is the rest of the word
without an equals sign at its front. -/
def scanLetters : Text -> Scan -> Except Refusal Scan
  | [], scan => .ok scan
  | letter :: rest, scan =>
      match Key.ofShort? letter with
      | none => .error (.unknown ['-', letter])
      | some (.switch switch) => do scanLetters rest (← scan.turnOn switch)
      | some (.slot slot) =>
          match rest with
          | [] => scan.await slot
          | '=' :: value => scan.fill slot value
          | value => scan.fill slot value

def scanLong (name : Text) (value? : Option Text) (scan : Scan) : Except Refusal Scan :=
  match Key.ofLong? name, value? with
  | none, _ => .error (.unknown ('-' :: '-' :: name))
  | some (.switch switch), some _ => .error (.surplusValue switch)
  | some (.switch switch), none => scan.turnOn switch
  | some (.slot slot), some value => scan.fill slot value
  | some (.slot slot), none => scan.await slot

def scanPlain (text : Text) (scan : Scan) : Except Refusal Scan :=
  match scan.pending? with
  | some (slot, none) => .ok { scan with pending? := some (slot, some text) }
  | _ => .error (.unknown text)

def scanAll : List Text -> Scan -> Except Refusal Scan
  | [], scan => .ok scan
  | word :: rest, scan =>
      match Word.of word with
      | .mark =>
          match rest with
          | [] => .ok scan
          | text :: _ => .error (.unknown text)
      | .long name value? => do scanAll rest (← scanLong name value? scan)
      | .letters row => do scanAll rest (← scanLetters row scan)
      | .plain text => do scanAll rest (← scanPlain text scan)

end Scan

/-- The arguments that the words of a command line give. -/
def Arguments.read (words : List Text) : Except Refusal Arguments := do
  let scan ← Scan.scanAll words {}
  let draft ← scan.settle
  draft.finish

end CommandLine
end Moniker
