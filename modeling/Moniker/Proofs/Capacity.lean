import Moniker.Segment.Counter
import Moniker.Segment.Sample

/-!
# Exact counts

A count is exact if it is the power itself, as far as 128 bits hold it.  An exponent
of more than 32 bits is taken for a power that does not fit.  From base two on it is
one, but the powers of zero and one always fit, and there the count is wrong.
-/

namespace Moniker

variable {ρ : Type}

namespace Capacity

/-- The power, if 128 bits hold it. -/
def exactPower? (base exponent : Nat) : Option Nat :=
  if base.pow exponent ≤ max then some (base.pow exponent) else none

theorem exactPower?_of_le {base exponent : Nat} (h : base.pow exponent ≤ max) :
    exactPower? base exponent = some (base.pow exponent) :=
  if_pos h

theorem exactPower?_of_lt {base exponent : Nat} (h : max < base.pow exponent) :
    exactPower? base exponent = none :=
  if_neg (Nat.not_le_of_lt h)

theorem fittingPower?_eq_exactPower? (base exponent : Nat) :
    fittingPower? base exponent = exactPower? base exponent := by
  rw [fittingPower?_eq, exactPower?, Option.filter_some]
  simp only [decide_eq_true_eq]

theorem lt_pow_of_wide {base exponent : Nat} (hbase : 2 ≤ base) (h : maxExponent < exponent) :
    max < base.pow exponent := by
  have hwide : 128 ≤ maxExponent := by
    decide
  exact max_lt_pow hbase (Nat.le_trans hwide (Nat.le_of_lt h))

theorem pow_le_one {base : Nat} (h : base ≤ 1) (exponent : Nat) : base.pow exponent ≤ 1 :=
  calc
    base.pow exponent ≤ Nat.pow 1 exponent := Nat.pow_le_pow_left h exponent
    _ = 1 := Nat.one_pow exponent

theorem one_lt_max : 1 < max := by
  decide

theorem exactPower?_of_le_one {base : Nat} (h : base ≤ 1) (exponent : Nat) :
    exactPower? base exponent = some (base.pow exponent) :=
  exactPower?_of_le (Nat.le_trans (pow_le_one h exponent) (Nat.le_of_lt one_lt_max))

theorem exactPower?_one (exponent : Nat) : exactPower? 1 exponent = some 1 := by
  rw [exactPower?_of_le_one (Nat.le_refl 1)]
  exact congrArg some (Nat.one_pow exponent)

/-!
# When the count is right
-/

theorem power?_of_le {base exponent : Nat} (h : exponent ≤ maxExponent) :
    power? base exponent = exactPower? base exponent := by
  rw [power?, if_pos h, fittingPower?_eq_exactPower?]

theorem power?_of_wide {base exponent : Nat} (h : maxExponent < exponent) :
    power? base exponent = none :=
  if_neg (Nat.not_le_of_lt h)

theorem power?_eq_exactPower?_iff {base exponent : Nat} :
    power? base exponent = exactPower? base exponent <-> exponent ≤ maxExponent ∨ 2 ≤ base := by
  constructor
  · intro h
    by_cases hexponent : exponent ≤ maxExponent
    · exact Or.inl hexponent
    · rw [power?_of_wide (Nat.lt_of_not_le hexponent)] at h
      -- Below base two there is an exact count, and none was given.
      apply Or.inr
      apply Nat.lt_of_not_le
      intro hbase
      rw [exactPower?_of_le_one hbase] at h
      cases h
  · intro h
    by_cases hexponent : exponent ≤ maxExponent
    · exact power?_of_le hexponent
    · have hwide := Nat.lt_of_not_le hexponent
      rw [power?_of_wide hwide, exactPower?_of_lt (lt_pow_of_wide (h.resolve_left hexponent) hwide)]

theorem getD_exactPower? (base exponent : Nat) :
    (exactPower? base exponent).getD max = min (base.pow exponent) max := by
  by_cases h : base.pow exponent ≤ max
  · rw [exactPower?_of_le h, Option.getD_some, Nat.min_eq_left h]
  · have hlt := Nat.lt_of_not_le h
    rw [exactPower?_of_lt hlt, Option.getD_none, Nat.min_eq_right (Nat.le_of_lt hlt)]

theorem getD_power?_eq_iff {base exponent : Nat} :
    (power? base exponent).getD max = min (base.pow exponent) max <->
      exponent ≤ maxExponent ∨ 2 ≤ base := by
  constructor
  · intro h
    by_cases hexponent : exponent ≤ maxExponent
    · exact Or.inl hexponent
    · rw [power?_of_wide (Nat.lt_of_not_le hexponent), Option.getD_none] at h
      apply Or.inr
      apply Nat.lt_of_not_le
      intro hbase
      have hpow := pow_le_one hbase exponent
      have hmax := one_lt_max
      omega
  · intro h
    rw [power?_eq_exactPower?_iff.mpr h, getD_exactPower?]

/-- A counter knows the exact number of its numerals, or that 128 bits do not hold it,
and a sample that number cut off at the largest count, unless the exponent has more
than 32 bits and there are fewer than two characters. -/
theorem alternatives_exact_iff (counter : Counter) (sample : Sample ρ) :
    (counter.alternatives? = exactPower? counter.digits.length counter.width <->
        counter.width ≤ maxExponent ∨ 2 ≤ counter.digits.length) ∧
      (sample.alternatives = min (sample.alphabet.length.pow sample.length) max <->
        sample.length ≤ maxExponent ∨ 2 ≤ sample.alphabet.length) :=
  ⟨power?_eq_exactPower?_iff, getD_power?_eq_iff⟩

/-- One letter that is written 2^32 times is one text.  The counter has no count for it,
and the sample has the largest one. -/
theorem alternatives_of_one_letter :
    exactPower? 1 0x100000000 = some 1 ∧
      ({ digits := ['x'], width := 0x100000000 } : Counter).alternatives? = none ∧
      forall {ρ : Type} (stream : ρ),
        ({ alphabet := ['x'], length := 0x100000000, stream := stream } : Sample ρ).alternatives =
          max := by
  have hnone : power? 1 0x100000000 = none := power?_of_wide (by decide)
  refine ⟨exactPower?_one _, hnone, ?_⟩
  intro ρ stream
  exact congrArg (Option.getD · max) hnone

end Capacity
end Moniker
