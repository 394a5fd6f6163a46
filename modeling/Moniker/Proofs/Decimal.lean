import Moniker.Text.Decimal
import Mathlib.Data.List.Basic
import Mathlib.Data.List.Induction

/-!
# Numerals without leading zero

Reading a numeral and writing it are inverse to each other on the numerals that
do not start with a zero.
-/

namespace Moniker
namespace Decimal

theorem value_render (n : Nat) : value (render n) = n :=
  Nat.ofDigitChars_ten_toDigits

theorem value_append_singleton (digits : Text) (d : Char) :
    value (digits ++ [d]) = 10 * value digits + digitValue d := by
  simp [value]

theorem digitValue_lt {d : Char} (h : d.isDigit = true) : digitValue d < 10 := by
  have hbounds := Char.isDigit_iff_toNat.mp h
  change 48 ≤ d.toNat ∧ d.toNat ≤ 57 at hbounds
  show d.toNat - 48 < 10
  omega

theorem digitChar_digitValue {d : Char} (h : d.isDigit = true) :
    Nat.digitChar (digitValue d) = d := by
  have hbounds := Char.isDigit_iff_toNat.mp h
  change 48 ≤ d.toNat ∧ d.toNat ≤ 57 at hbounds
  have hvalue : digitValue d = d.toNat - 48 := rfl
  apply Char.toNat_inj.mp
  rw [Nat.toNat_digitChar_of_lt_ten (digitValue_lt h), hvalue]
  omega

/-!
# Writing and reading back
-/

theorem render_of_lt {n : Nat} (h : n < 10) : render n = [Nat.digitChar n] :=
  Nat.toDigits_of_lt_base h

theorem render_append_singleton {n d : Nat} (hn : 0 < n) (hd : d < 10) :
    render (10 * n + d) = render n ++ [Nat.digitChar d] := by
  rw [← render_of_lt hd]
  exact (Nat.toDigits_append_toDigits (by decide) hn hd).symm

theorem render_ne_nil (n : Nat) : render n ≠ [] :=
  Nat.toDigits_ne_nil

theorem isDigit_of_mem_render {n : Nat} {c : Char} (h : c ∈ render n) : c.isDigit = true :=
  Nat.isDigit_of_mem_toDigits (by decide) (by decide) h

theorem head_render_ne_zero {n : Nat} (h : 0 < n) : (render n).head? ≠ some '0' := by
  induction n using Nat.strongRecOn with
  | ind n ih =>
      by_cases hlt : n < 10
      · rw [render_of_lt hlt]
        intro hhead
        have hzero : n = 0 := Nat.digitChar_eq_zero.mp (Option.some.inj hhead)
        omega
      · have hn : n = 10 * (n / 10) + n % 10 := by
          omega
        rw [hn, render_append_singleton (by omega) (by omega),
          List.head?_append_of_ne_nil _ (render_ne_nil _)]
        exact ih (n / 10) (by omega) (by omega)

theorem value_pos_of_head {digits : Text} (hhead : digits.head? ≠ some '0')
    (hrender : render (value digits) = digits) : 0 < value digits := by
  apply Nat.pos_of_ne_zero
  intro hzero
  rw [hzero] at hrender
  apply hhead
  rw [← hrender]
  rfl

theorem render_value {digits : Text} (hne : digits ≠ []) (hdigits : digits.all Char.isDigit = true)
    (hhead : digits.head? ≠ some '0') : render (value digits) = digits := by
  induction digits using List.reverseRecOn with
  | nil =>
      exact absurd rfl hne
  | append_singleton digits d ih =>
      rw [List.all_append, Bool.and_eq_true] at hdigits
      have hd : d.isDigit = true := by
        simpa using hdigits.right
      rw [value_append_singleton]
      by_cases hempty : digits = []
      · subst hempty
        rw [show 10 * value [] + digitValue d = digitValue d from Nat.zero_add _,
          render_of_lt (digitValue_lt hd), digitChar_digitValue hd]
        rfl
      · have hhead' : digits.head? ≠ some '0' := by
          rwa [List.head?_append_of_ne_nil _ hempty] at hhead
        have hdigits' := ih hempty hdigits.left hhead'
        rw [render_append_singleton (value_pos_of_head hhead' hdigits') (digitValue_lt hd),
          hdigits', digitChar_digitValue hd]

theorem readWord?_render {n : Nat} (h : n ≤ maxWord) : readWord? (render n) = some n := by
  have hdigits : render n ≠ [] ∧ (render n).all Char.isDigit = true :=
    ⟨render_ne_nil n, List.all_eq_true.mpr fun c hc => isDigit_of_mem_render hc⟩
  rw [readWord?, read?, if_pos hdigits, value_render]
  exact Option.filter_eq_some_iff.mpr ⟨rfl, decide_eq_true h⟩

theorem readWord?_eq_some_iff {digits : Text} {n : Nat} :
    readWord? digits = some n ∧ digits.head? ≠ some '0' <->
      digits = render n ∧ 0 < n ∧ n ≤ maxWord := by
  constructor
  · intro h
    rw [readWord?, Option.filter_eq_some_iff, read?] at h
    rcases h with ⟨⟨hread, hle⟩, hhead⟩
    split at hread
    · rename_i hdigits
      cases hread
      have hrender := render_value hdigits.left hdigits.right hhead
      exact ⟨hrender.symm, value_pos_of_head hhead hrender, of_decide_eq_true hle⟩
    · cases hread
  · intro h
    rcases h with ⟨rfl, hpos, hle⟩
    exact ⟨readWord?_render hle, head_render_ne_zero hpos⟩

end Decimal
end Moniker
