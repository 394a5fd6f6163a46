import Moniker.Host
import Moniker.Text.Lines

/-!
# Reading lines

A line reader holds what is left of a file.  Each step gives the next line, or
nothing at the end.  A line whose bytes are not UTF-8 is a failure of that step
only, and the line behind it comes next.  Reading from a folder fails at every
step.
-/

namespace Moniker

structure LineReader where
  path : Text
  /-- The lines that are left; a folder has none that can be read. -/
  rest? : Option (List (List UInt8))

namespace LineReader

def ofContents (path : Text) : Contents -> LineReader
  | .bytes content => { path := path, rest? := some (Lines.pieces content) }
  | .folder => { path := path, rest? := none }

def start {σ : Type} (host : Host σ) (path : Text) (state : σ) : Except Failure LineReader :=
  (host.openOrFail path state).map (ofContents path)

def lineText (path : Text) (piece : List UInt8) : Except Failure Text :=
  match Lines.text? piece with
  | some line => .ok line
  | none => .error (.unreadable path .notUtf8)

def next (r : LineReader) : Except Failure (Option Text) × LineReader :=
  match r.rest? with
  | none => (.error (.unreadable r.path .isFolder), r)
  | some [] => (.ok none, r)
  | some (piece :: rest) =>
      ((lineText r.path piece).map some, { r with rest? := some rest })

/-- All lines that are left, unless one of them cannot be read. -/
def remaining (r : LineReader) : Except Failure (List Text) :=
  match r.rest? with
  | none => .error (.unreadable r.path .isFolder)
  | some pieces => pieces.mapM (lineText r.path)

end LineReader

def readLines {σ : Type} (host : Host σ) (path : Text) (state : σ) :
    Except Failure (List Text) := do
  (← LineReader.start host path state).remaining

end Moniker
