import Moniker.Json.Value
import Moniker.Text.Decimal

/-!
# Reading JSON

Each reader takes a text and returns what it read with the rest of the text, or
nothing.  Strings, numbers and white space are read by recursion on the text.
Arrays and objects nest, so their readers take a bound on the depth of the
calls; every call reads at least one character, and the length of the document
is enough.
-/

namespace Moniker
namespace Json

def isSpace (c : Char) : Bool :=
  c = ' ' || c = '\n' || c = '\r' || c = '\t'

def skipSpace (s : Text) : Text :=
  s.dropWhile isSpace

/-!
# Strings

The characters of a string are read one unit at a time.  A unit is a character
that stands for itself, an escaped character, or a number of sixteen bits.
-/

def hexValue? (c : Char) : Option Nat :=
  if '0' ≤ c ∧ c ≤ '9' then some (c.toNat - '0'.toNat)
  else if 'a' ≤ c ∧ c ≤ 'f' then some (c.toNat - 'a'.toNat + 10)
  else if 'A' ≤ c ∧ c ≤ 'F' then some (c.toNat - 'A'.toNat + 10)
  else none

def fourDigits? (a b c d : Char) : Option Nat := do
  let w ← hexValue? a
  let x ← hexValue? b
  let y ← hexValue? c
  let z ← hexValue? d
  return ((w * 16 + x) * 16 + y) * 16 + z

def shortEscape? (c : Char) : Option Char :=
  match c with
  | '"' => some '"'
  | '\\' => some '\\'
  | '/' => some '/'
  | 'b' => some (Char.ofNat 8)
  | 'f' => some (Char.ofNat 12)
  | 'n' => some '\n'
  | 'r' => some '\r'
  | 't' => some '\t'
  | _ => none

inductive Unit16 where
  | plain (c : Char)
  | coded (n : Nat)

/-- The units up to the closing quote, and what follows the quote. -/
def readUnits : Text -> Option (List Unit16 × Text)
  | '"' :: rest => some ([], rest)
  | '\\' :: 'u' :: a :: b :: c :: d :: rest => do
      let n ← fourDigits? a b c d
      let (units, rest) ← readUnits rest
      return (.coded n :: units, rest)
  | '\\' :: e :: rest => do
      let c ← shortEscape? e
      let (units, rest) ← readUnits rest
      return (.plain c :: units, rest)
  | c :: rest =>
      if c.toNat < 32 then
        none
      else do
        let (units, rest) ← readUnits rest
        return (.plain c :: units, rest)
  | [] => none

def isHighHalf (n : Nat) : Bool :=
  0xD800 ≤ n && n < 0xDC00

def isLowHalf (n : Nat) : Bool :=
  0xDC00 ≤ n && n < 0xE000

/-- Joins the halves of surrogate pairs; a half that stands alone has no text. -/
def unitsText : List Unit16 -> Option Text
  | [] => some []
  | .plain c :: rest => (unitsText rest).map (c :: ·)
  | .coded n :: rest =>
      if isHighHalf n then
        match rest with
        | .coded m :: rest =>
            if isLowHalf m then
              (unitsText rest).map
                (Char.ofNat (0x10000 + (n - 0xD800) * 1024 + (m - 0xDC00)) :: ·)
            else
              none
        | _ => none
      else if isLowHalf n then
        none
      else
        (unitsText rest).map (Char.ofNat n :: ·)

def readString : Text -> Option (Option Text × Text)
  | '"' :: rest => (readUnits rest).map fun (units, rest) => (unitsText units, rest)
  | _ => none

/-!
# Numbers

A number is an optional minus, digits without leading zeros, an optional
fraction and an optional exponent.
-/

def digitsOf (s : Text) : Text × Text :=
  s.span Char.isDigit

def readFraction (s : Text) : Option (Text × Text) :=
  match s with
  | '.' :: rest =>
      match digitsOf rest with
      | ([], _) => none
      | (digits, rest) => some ('.' :: digits, rest)
  | _ => some ([], s)

def readExponent (s : Text) : Option (Text × Text) :=
  match s with
  | e :: rest =>
      if e = 'e' ∨ e = 'E' then
        let (sign, rest) :=
          match rest with
          | '+' :: rest => (['+'], rest)
          | '-' :: rest => (['-'], rest)
          | _ => ([], rest)
        match digitsOf rest with
        | ([], _) => none
        | (digits, rest) => some (e :: sign ++ digits, rest)
      else
        some ([], s)
  | [] => some ([], s)

def readWhole (s : Text) : Option (Text × Text) :=
  match digitsOf s with
  | ([], _) => none
  | ('0' :: _ :: _, _) => none
  | (digits, rest) => some (digits, rest)

def readNumber (s : Text) : Option (Text × Text) := do
  let (sign, rest) :=
    match s with
    | '-' :: rest => (['-'], rest)
    | _ => ([], s)
  let (whole, rest) ← readWhole rest
  let (fraction, rest) ← readFraction rest
  let (exponent, rest) ← readExponent rest
  return (sign ++ whole ++ fraction ++ exponent, rest)

/-!
# Values

An array or object is empty, or holds items parted by single commas.
-/

def readWord (word : Text) (v : Value) (s : Text) : Option (Value × Text) :=
  (Text.stripFront word s).map fun rest => (v, rest)

mutual

def readValue : Nat -> Text -> Option (Value × Text)
  | 0, _ => none
  | depth + 1, s =>
      match s with
      | 'n' :: _ => readWord "null".toList .null s
      | 't' :: _ => readWord "true".toList (.boolean true) s
      | 'f' :: _ => readWord "false".toList (.boolean false) s
      | '"' :: _ => (readString s).map fun (text, rest) => (.string text, rest)
      | '[' :: rest =>
          match skipSpace rest with
          | ']' :: rest => some (.array [], rest)
          | rest => (readItems depth rest).map fun (items, rest) => (.array items, rest)
      | '{' :: rest =>
          match skipSpace rest with
          | '}' :: rest => some (.object [], rest)
          | rest => (readMembers depth rest).map fun (members, rest) => (.object members, rest)
      | _ => (readNumber s).map fun (written, rest) => (.number written, rest)

def readItems : Nat -> Text -> Option (List Value × Text)
  | 0, _ => none
  | depth + 1, s => do
      let (item, rest) ← readValue depth s
      match skipSpace rest with
      | ']' :: rest => return ([item], rest)
      | ',' :: rest =>
          let (items, rest) ← readItems depth (skipSpace rest)
          return (item :: items, rest)
      | _ => none

def readMembers : Nat -> Text -> Option (List (Option Text × Value) × Text)
  | 0, _ => none
  | depth + 1, s => do
      let (key, rest) ← readString s
      match skipSpace rest with
      | ':' :: rest =>
          let (value, rest) ← readValue depth (skipSpace rest)
          match skipSpace rest with
          | '}' :: rest => return ([(key, value)], rest)
          | ',' :: rest =>
              let (members, rest) ← readMembers depth (skipSpace rest)
              return ((key, value) :: members, rest)
          | _ => none
      | _ => none

end

/-- The first value of a document, and the text behind it. -/
def readFirst? (document : Text) : Option (Value × Text) :=
  readValue (document.length + 1) (skipSpace document)

/-- The value of a document: one value with nothing but white space around it. -/
def read? (document : Text) : Option Value := do
  let (value, rest) ← readFirst? document
  if (skipSpace rest).isEmpty then some value else none

/-!
# Words of 64 bits

A number is read as a word only if it is written with digits alone.
-/

namespace Value

def word? : Value -> Option Nat
  | number written => Decimal.readWord? written
  | _ => none

/-- A word, or `null` for its absence. -/
def optionalWord? : Value -> Option (Option Nat)
  | null => some none
  | v => v.word?.map some

end Value
end Json
end Moniker
