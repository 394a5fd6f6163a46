import Moniker.Pattern.Tree

/-!
# Matching

A text of `n` characters has `n + 1` places, the place `i` standing before the
character `i`.  A set of places is a number whose bit `i` says whether `i`
belongs to it.  A tree moves a set of places to the set of places where its
matches from there end.
-/

namespace Moniker
namespace Pattern

/-- The places before a character of the set. -/
def places (set : CharSet) : Text -> Nat
  | [] => 0
  | c :: rest => 2 * places set rest + (set.contains c).toNat

/-- Whether an edge lies where words stand or do not stand on both sides. -/
def WordEdge.holds (before after : Bool) : WordEdge -> Bool
  | edge => before != after
  | noEdge => before == after
  | start => !before && after
  | stop => before && !after
  | startHalf => !before
  | stopHalf => !after

/-- Whether a boundary holds between two neighbours, which may be missing. -/
def Boundary.holds (before after : Option Char) : Boundary -> Bool
  | textStart => before.isNone
  | textEnd => after.isNone
  | lineStart crlf =>
      before.all (· = '\n') || crlf && before = some '\r' && after != some '\n'
  | lineEnd crlf =>
      if crlf then
        after.all (· = '\r') || after = some '\n' && before != some '\r'
      else
        after.all (· = '\n')
  | word shape unicode =>
      let inWord := (CharSet.words.of unicode).contains
      shape.holds (before.any inWord) (after.any inWord)

/-- The places where a boundary holds, the first one having the given neighbour. -/
def boundaryPlaces (b : Boundary) (before : Option Char) : Text -> Nat
  | [] => (b.holds before none).toNat
  | c :: rest =>
      2 * boundaryPlaces b (some c) rest + (b.holds before (some c)).toNat

def iterate (f : Nat -> Nat) : Nat -> Nat -> Nat
  | 0, m => m
  | n + 1, m => iterate f n (f m)

/-- As many rounds as there are places show all that further rounds could reach. -/
def Tree.ends (s : Text) : Tree -> Nat -> Nat
  | empty, m => m
  | one set, m => (m &&& places set s) <<< 1
  | boundary b, m => m &&& boundaryPlaces b none s
  | both first second, m => second.ends s (first.ends s m)
  | either left right, m => left.ends s m ||| right.ends s m
  | rounds least most body, m =>
      let bound := s.length + 1
      let further :=
        match most with
        | none => bound
        | some most => min (most - least) bound
      iterate (fun m => m ||| body.ends s m) further (iterate (body.ends s) (min least bound) m)

/-- Whether the tree matches anywhere in the text. -/
def Tree.isMatch (t : Tree) (s : Text) : Bool :=
  t.ends s ((1 <<< (s.length + 1)) - 1) != 0

end Pattern
end Moniker
