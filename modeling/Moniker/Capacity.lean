/-!
# Capacities

How many different values a segment can give is counted in 128 bits.  A power
that does not fit has no exact count.  Exponents are at most 32 bits wide: a
wider exponent counts as a power that does not fit, whatever the base.
-/

namespace Moniker
namespace Capacity

/-- The largest number of 128 bits. -/
def max : Nat :=
  0xFFFFFFFFFFFFFFFFFFFFFFFFFFFFFFFF

/-- The largest exponent. -/
def maxExponent : Nat :=
  0xFFFFFFFF

/-- A power with a base of at least two does not fit from the 128th on, so it
need not be computed. -/
def fittingPower? (base exponent : Nat) : Option Nat :=
  if base ≤ 1 then
    some (if exponent = 0 then 1 else base)
  else if exponent < 128 then
    (some (base.pow exponent)).filter (· ≤ max)
  else
    none

def power? (base exponent : Nat) : Option Nat :=
  if exponent ≤ maxExponent then fittingPower? base exponent else none

theorem max_lt_pow {base exponent : Nat} (hbase : 2 ≤ base) (hexponent : 128 ≤ exponent) :
    max < base.pow exponent := by
  have hmax : max < Nat.pow 2 128 := by decide
  exact Nat.lt_of_lt_of_le hmax
    (Nat.le_trans (Nat.pow_le_pow_right (by decide) hexponent)
      (Nat.pow_le_pow_left hbase exponent))

theorem fittingPower?_eq (base exponent : Nat) :
    fittingPower? base exponent = (some (base.pow exponent)).filter (· ≤ max) := by
  unfold fittingPower?
  split
  · rename_i hbase
    have hcases : base = 0 ∨ base = 1 := by omega
    cases hcases with
    | inl h =>
        subst h
        cases exponent with
        | zero =>
            simp [max, Option.filter]
        | succ n =>
            simp [max, Option.filter]
    | inr h =>
        subst h
        simp [max, Option.filter]
  · split
    · rfl
    · have hlarge : ¬ base.pow exponent ≤ max :=
        Nat.not_le_of_lt (max_lt_pow (by omega) (by omega))
      rw [Option.filter_some, if_neg (by simpa only [decide_eq_true_eq] using hlarge)]

theorem eq_pow_of_power? {base exponent n : Nat} (h : power? base exponent = some n) :
    n = base.pow exponent := by
  unfold power? at h
  split at h
  · rw [fittingPower?_eq] at h
    rcases Option.filter_eq_some_iff.mp h with ⟨hsome, _⟩
    exact (Option.some.inj hsome).symm
  · cases h

theorem le_max_of_power? {base exponent n : Nat} (h : power? base exponent = some n) :
    n ≤ max := by
  unfold power? at h
  split at h
  · rw [fittingPower?_eq] at h
    rcases Option.filter_eq_some_iff.mp h with ⟨_, hle⟩
    exact of_decide_eq_true hle
  · cases h

theorem pos_of_power? {base exponent n : Nat} (hbase : 0 < base)
    (h : power? base exponent = some n) : 0 < n := by
  rw [eq_pow_of_power? h]
  exact Nat.pow_pos hbase

/-- A product, cut off at the largest count. -/
def scaled (factor n : Nat) : Nat :=
  min (factor * n) max

end Capacity
end Moniker
