import Moniker.Failure

/-!
# Bindings

Bindings give data to the variables of a template.  A variable is one of the
letters `a` to `z`.  The entries are kept in the order of their letters, each
letter at most once, so two bindings with the same data are equal.
-/

namespace Moniker

def isVariable (key : Char) : Bool :=
  'a' ≤ key && key ≤ 'z'

structure Bindings where
  entries : List (Char × Text) := []
  deriving DecidableEq

namespace Bindings

def empty : Bindings := {}

def get? (b : Bindings) (key : Char) : Option Text :=
  b.entries.lookup key

def size (b : Bindings) : Nat :=
  b.entries.length

/-!
# Setting a variable

A later value replaces an earlier one.  A key that is no variable changes
nothing and is reported.
-/

def insertEntry (key : Char) (data : Text) : List (Char × Text) -> List (Char × Text)
  | [] => [(key, data)]
  | (k, d) :: rest =>
      if key < k then
        (key, data) :: (k, d) :: rest
      else if key = k then
        (key, data) :: rest
      else
        (k, d) :: insertEntry key data rest

def set (b : Bindings) (key : Char) (data : Text) : Change Bindings :=
  if isVariable key then
    (.ok (), { entries := insertEntry key data b.entries })
  else
    (.error (.badKey [key]), b)

/-- The bindings with the variable set, to go on with. -/
def having (b : Bindings) (key : Char) (data : Text) : Except Failure Bindings :=
  (b.set key data).made

def setAll (b : Bindings) : List (Char × Text) -> Except Failure Bindings
  | [] => .ok b
  | (key, data) :: rest => do
      let b ← b.having key data
      b.setAll rest

/-!
# Assignments

An assignment is a variable, `=`, and its data, which may be empty and may hold
further `=` signs.  A refused assignment is reported by the text before its
first `=`, or by all of it if it has none.
-/

def splitAssignment (s : Text) : Option (Text × Text) :=
  match s.span (· ≠ '=') with
  | (key, _ :: data) => some (key, data)
  | (_, []) => none

def assign (b : Bindings) (assignment : Text) : Change Bindings :=
  match splitAssignment assignment with
  | none => (.error (.badKey assignment), b)
  | some ([key], data) => b.set key data
  | some (key, _) => (.error (.badKey key), b)

def assignAll (b : Bindings) : List Text -> Except Failure Bindings
  | [] => .ok b
  | assignment :: rest => do
      let b ← (b.assign assignment).made
      b.assignAll rest

end Bindings
end Moniker
