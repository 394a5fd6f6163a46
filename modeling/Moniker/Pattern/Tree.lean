import Moniker.Pattern.CharSet

/-!
# Pattern trees

What a pattern means once its text was read.  Repetitions do not say whether
they prefer few or many rounds, since that never changes whether a text matches.
-/

namespace Moniker
namespace Pattern

/-- Conditions on the words before and behind a place. -/
inductive WordEdge where
  | edge
  | noEdge
  | start
  | stop
  | startHalf
  | stopHalf
  deriving DecidableEq

/-- Conditions on the place between two characters.  With `crlf` a carriage return ends
a line as well, and none is empty between it and a line feed. -/
inductive Boundary where
  | textStart
  | textEnd
  | lineStart (crlf : Bool)
  | lineEnd (crlf : Bool)
  | word (shape : WordEdge) (unicode : Bool)
  deriving DecidableEq

inductive Tree where
  | empty
  | one (set : CharSet)
  | boundary (b : Boundary)
  | both (first second : Tree)
  | either (left right : Tree)
  /-- At least `least` rounds, and at most `most` if there is a bound. -/
  | rounds (least : Nat) (most : Option Nat) (body : Tree)
  deriving DecidableEq

namespace Tree

/-- Whether every match is empty. -/
def isWeightless : Tree -> Bool
  | empty => true
  | one _ => false
  | boundary _ => true
  | both a b => a.isWeightless && b.isWeightless
  | either a b => a.isWeightless && b.isWeightless
  | rounds _ most body => body.isWeightless || most = some 0

/-- How many steps a machine for the pattern has, every round having its own. -/
def weight : Tree -> Nat
  | empty => 1
  | one set => set.weight
  | boundary _ => 1
  | both a b => a.weight + b.weight
  | either a b => a.weight + b.weight + 2
  | rounds least most body =>
      if body.isWeightless then
        body.weight + 1
      else
        match most with
        | none => max 1 least * body.weight + 1
        | some most => least * body.weight + (most - least) * (body.weight + 1) + 1

end Tree
end Pattern
end Moniker
