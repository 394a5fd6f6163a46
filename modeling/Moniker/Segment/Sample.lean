import Moniker.Text
import Moniker.Capacity
import Moniker.Random.Chance

/-!
# Samples

A sample draws characters from its alphabet, each of them anew.  It does not
remember what it gave; it counts as live until it gave five times as many values
as there are.
-/

namespace Moniker

structure Sample (ρ : Type) where
  alphabet : Text
  length : Nat
  stream : ρ
  given : Nat := 0
  deriving DecidableEq

namespace Sample

variable {ρ : Type}

/-- How often the number of different values is sampled over. -/
def overcoverage : Nat :=
  5

def alternatives (s : Sample ρ) : Nat :=
  (Capacity.power? s.alphabet.length s.length).getD Capacity.max

def limit (s : Sample ρ) : Nat :=
  Capacity.scaled overcoverage s.alternatives

def draw [Chance ρ] (alphabet : Text) (h : 0 < alphabet.length) : Nat -> ρ -> Text × ρ
  | 0, stream => ([], stream)
  | n + 1, stream =>
      let (i, stream) := Chance.below alphabet.length h stream
      let (rest, stream) := draw alphabet h n stream
      (alphabet.get i :: rest, stream)

def next [Chance ρ] (s : Sample ρ) : Text × Sample ρ :=
  if h : 0 < s.alphabet.length then
    let (value, stream) := draw s.alphabet h s.length s.stream
    (value, { s with stream := stream, given := min (s.given + 1) Capacity.max })
  else
    ([], s)

def live (s : Sample ρ) : Bool :=
  s.given < s.limit

def complete (s : Sample ρ) : Bool :=
  !s.alphabet.isEmpty && 0 < s.length

end Sample
end Moniker
