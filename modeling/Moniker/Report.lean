import Moniker.Text

/-!
# Reports

A report tells what a finished run has found, how many candidates it built, and
how well it met its target.
-/

namespace Moniker

/-- A run is short if it found some identifiers but fewer than its target. -/
inductive Fulfillment where
  | complete
  | short
  | empty
  deriving DecidableEq

namespace Fulfillment

def name : Fulfillment -> Text
  | complete => "complete".toList
  | short => "partial".toList
  | empty => "empty".toList

def of (target : Nat) (ids : List Text) : Fulfillment :=
  if ids = [] then empty
  else if ids.length < target then short
  else complete

end Fulfillment

structure Report where
  /-- In the order in which they were found. -/
  ids : List Text
  attempts : Nat
  target : Nat
  fulfillment : Fulfillment
  deriving DecidableEq

namespace Report

def ofIds (target attempts : Nat) (ids : List Text) : Report :=
  { ids := ids
    attempts := attempts
    target := target
    fulfillment := Fulfillment.of target ids }

end Report
end Moniker
