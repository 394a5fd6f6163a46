/-!
# Chance

A random number generator starts from a seed of 64 bits or is split off from another
one, and gives numbers below a bound.
-/

namespace Moniker

/-- The states of a generator.  Nothing more is asked of a number than that it lies below
its bound. -/
class Chance (ρ : Type) where
  ofSeed : UInt64 -> ρ
  /-- The generator that is split off, and what is left of the other one. -/
  split : ρ -> ρ × ρ
  below : (n : Nat) -> 0 < n -> ρ -> Fin n × ρ

end Moniker
