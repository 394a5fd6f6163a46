import Moniker.Text.Blank

/-!
# Sets of code points

A set of code points is given by the places at which it begins and ends: a number
belongs to the set if an odd number of places lies at or below it.  So the places of
two sets together give their symmetric difference, and the place 0 gives the
complement.

Tables of sets are kept as text.  A letter is a digit in base 26, a small letter is
the last digit of a number, and a number is the distance of a place from the one
before it.
-/

namespace Moniker
namespace Pattern

structure CodePoints where
  places : List Nat
  deriving DecidableEq

/-- Of two equal places in a row neither counts. -/
def cancel : List Nat -> List Nat
  | place :: next :: rest =>
      if place = next then cancel rest else place :: cancel (next :: rest)
  | places => places

/-- The numbers of a table, the digits so far being those of `high`. -/
def readNumbers (high : Nat) : Text -> List Nat
  | [] => []
  | c :: rest =>
      if c.isUpper then
        readNumbers (26 * high + (c.toNat - 'A'.toNat)) rest
      else
        (26 * high + (c.toNat - 'a'.toNat)) :: readNumbers 0 rest

def placesFrom (start : Nat) : List Nat -> List Nat
  | [] => []
  | distance :: rest => (start + distance) :: placesFrom (start + distance) rest

namespace CodePoints

def contains (a : CodePoints) (n : Nat) : Bool :=
  a.places.foldr (fun place inside => inside != decide (place ≤ n)) false

def symmetricDifference (a b : CodePoints) : CodePoints :=
  { places := cancel (a.places ++ b.places).mergeSort }

def ofCode (code : String) : CodePoints :=
  { places := placesFrom 0 (readNumbers 0 code.toList) }

end CodePoints

/-- A line of a table: the names of a set, and how it differs from the union of the
general categories that are named as its bases. -/
structure Entry where
  names : String
  bases : String
  code : String

def Entry.isNamed (e : Entry) (name : Text) : Bool :=
  (Text.words e.names.toList).contains name

end Pattern
end Moniker
