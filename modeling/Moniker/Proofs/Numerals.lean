import Moniker.Segment.Counter
import Mathlib.Algebra.Ring.Nat
import Mathlib.Data.List.Nodup

/-!
# Numerals of a fixed width

The numerals of a width over some digits are all the texts of that width over
them.  Counting from zero gives them in lexicographic order, in which one digit
stands before another if it does so among the digits.
-/

namespace Moniker
namespace Counter

/-- All texts of the given width over the digits: first those that start with the
first digit, then those that start with the second, and so on. -/
def numerals (digits : Text) : Nat -> List Text
  | 0 => [[]]
  | width + 1 => digits.flatMap fun d => (numerals digits width).map (d :: ·)

def Before (digits : Text) (a b : Char) : Prop :=
  digits.idxOf a < digits.idxOf b

theorem mem_numerals (digits : Text) (width : Nat) (w : Text) :
    w ∈ numerals digits width <-> w.length = width ∧ forall c, c ∈ w -> c ∈ digits := by
  induction width generalizing w with
  | zero =>
      rw [numerals, List.mem_singleton, List.length_eq_zero_iff]
      constructor
      · intro hw
        subst hw
        exact ⟨rfl, fun c hc => absurd hc List.not_mem_nil⟩
      · intro hw
        exact hw.left
  | succ width ih =>
      rw [numerals, List.mem_flatMap]
      constructor
      · intro hw
        rcases hw with ⟨d, hd, hmem⟩
        rcases List.mem_map.mp hmem with ⟨v, hv, rfl⟩
        rcases (ih v).mp hv with ⟨hlength, hdigits⟩
        constructor
        · rw [List.length_cons, hlength]
        · intro c hc
          cases hc with
          | head =>
              exact hd
          | tail _ hc =>
              exact hdigits c hc
      · intro hw
        rcases hw with ⟨hlength, hdigits⟩
        cases w with
        | nil =>
            cases hlength
        | cons d v =>
            exists d
            refine ⟨hdigits d List.mem_cons_self, List.mem_map.mpr ⟨v, (ih v).mpr ?_, rfl⟩⟩
            exact ⟨Nat.succ.inj hlength, fun c hc => hdigits c (List.mem_cons_of_mem d hc)⟩

theorem pairwise_before {digits : Text} (h : digits.Nodup) : digits.Pairwise (Before digits) := by
  rw [List.pairwise_iff_getElem]
  intro i j hi hj hij
  rw [Before, h.idxOf_getElem i hi, h.idxOf_getElem j hj]
  exact hij

theorem pairwise_lex_numerals {digits : Text} (h : digits.Nodup) (width : Nat) :
    (numerals digits width).Pairwise (List.Lex (Before digits)) := by
  induction width with
  | zero =>
      exact List.pairwise_singleton _ _
  | succ width ih =>
      rw [numerals, List.pairwise_flatMap]
      constructor
      · intro d hd
        rw [List.pairwise_map]
        exact ih.imp fun hlex => List.Lex.cons hlex
      · apply (pairwise_before h).imp
        intro a b hab v hv w hw
        rcases List.mem_map.mp hv with ⟨v', _, rfl⟩
        rcases List.mem_map.mp hw with ⟨w', _, rfl⟩
        exact List.Lex.rel hab

theorem nodup_numerals {digits : Text} (h : digits.Nodup) (width : Nat) :
    (numerals digits width).Nodup := by
  apply (pairwise_lex_numerals h width).imp
  intro v w hlex heq
  subst heq
  exact List.lex_irrefl (fun d => Nat.lt_irrefl (digits.idxOf d)) v hlex

/-!
# Counting gives the numerals in order

The numeral of `n` has at each place, counted from the right, the digit of that
place in the positional notation of `n`.
-/

/-- The digit of `n` at a place. -/
def digitAt (zero : Char) (digits : Text) (n place : Nat) : Char :=
  digits.getD (n / digits.length ^ place % digits.length) zero

def numeral (zero : Char) (digits : Text) (width n : Nat) : Text :=
  (List.range width).reverse.map (digitAt zero digits n)

theorem numeralOnto_eq_numeral (zero : Char) (digits : Text) (width n : Nat) (written : Text) :
    numeralOnto zero digits width n written = numeral zero digits width n ++ written := by
  induction width generalizing n written with
  | zero =>
      rfl
  | succ width ih =>
      have hshift : forall place,
          digitAt zero digits (n / digits.length) place = digitAt zero digits n (place + 1) := by
        intro place
        rw [digitAt, digitAt, Nat.div_div_eq_div_mul, Nat.pow_succ']
      have hlast : digitAt zero digits n 0 = digits.getD (n % digits.length) zero := by
        rw [digitAt, Nat.pow_zero, Nat.div_one]
      rw [numeralOnto, ih, numeral, numeral, List.range_succ_eq_map, List.reverse_cons,
        List.map_append, ← List.map_reverse, List.map_map, List.append_assoc]
      congr 1
      · apply List.map_congr_left
        intro place _
        exact hshift place
      · rw [List.map_singleton, hlast]
        rfl

theorem numeral_succ (zero : Char) (digits : Text) (width n : Nat) :
    numeral zero digits (width + 1) n =
      digitAt zero digits n width :: numeral zero digits width n := by
  rw [numeral, List.range_succ, List.reverse_append]
  rfl

theorem mul_pow_add_div_pow_mod (base : Nat) {width place : Nat} (hplace : place < width)
    (i n : Nat) :
    (i * base ^ width + n) / base ^ place % base = n / base ^ place % base := by
  rcases Nat.exists_eq_add_of_lt hplace with ⟨k, hk⟩
  have hpow : i * base ^ width = base ^ place * (base * (i * base ^ k)) := by
    rw [hk, Nat.pow_succ, Nat.pow_add]
    ac_rfl
  cases Nat.eq_zero_or_pos base with
  | inl hzero =>
      rw [hpow, hzero, Nat.zero_mul, Nat.mul_zero, Nat.zero_add]
  | inr hpos =>
      rw [hpow, Nat.mul_add_div (Nat.pow_pos hpos), Nat.mul_add_mod]

theorem mul_pow_add_div_pow_mod_top {base width i n : Nat} (hi : i < base)
    (hn : n < base ^ width) : (i * base ^ width + n) / base ^ width % base = i := by
  have hpos : 0 < base ^ width := Nat.zero_lt_of_lt hn
  rw [Nat.mul_comm, Nat.mul_add_div hpos, Nat.div_eq_of_lt hn, Nat.add_zero,
    Nat.mod_eq_of_lt hi]

theorem digitAt_add_mul (zero : Char) (digits : Text) {width place : Nat} (hplace : place < width)
    (i n : Nat) :
    digitAt zero digits (i * digits.length ^ width + n) place = digitAt zero digits n place := by
  rw [digitAt, digitAt, mul_pow_add_div_pow_mod digits.length hplace]

theorem range_mul (b m : Nat) :
    List.range (b * m) = (List.range b).flatMap fun i => (List.range m).map (i * m + ·) := by
  induction b with
  | zero =>
      simp
  | succ b ih =>
      rw [Nat.succ_mul, List.range_add, ih, List.range_succ, List.flatMap_append]
      simp

theorem digitAt_top (zero : Char) {digits : Text} {width i n : Nat} (hi : i < digits.length)
    (hn : n < digits.length ^ width) :
    digitAt zero digits (i * digits.length ^ width + n) width = digits.getD i zero := by
  rw [digitAt, mul_pow_add_div_pow_mod_top hi hn]

theorem eq_map_getD (zero : Char) (digits : Text) :
    digits = (List.range digits.length).map fun i => digits.getD i zero := by
  apply List.ext_getElem
  · simp
  · intro i hi _
    simp [hi]

theorem numerals_eq_map_numeral (zero : Char) (digits : Text) (width : Nat) :
    numerals digits width =
      (List.range (digits.length ^ width)).map (numeral zero digits width) := by
  induction width with
  | zero =>
      rfl
  | succ width ih =>
      have hsplit : numerals digits (width + 1) =
          (List.range digits.length).flatMap fun i =>
            (numerals digits width).map (digits.getD i zero :: ·) := by
        calc
          numerals digits (width + 1) =
              digits.flatMap fun d => (numerals digits width).map (d :: ·) := rfl
          _ = ((List.range digits.length).map fun i => digits.getD i zero).flatMap
                fun d => (numerals digits width).map (d :: ·) := by
                  rw [← eq_map_getD zero digits]
          _ = _ := List.flatMap_map _ _ _
      rw [hsplit, Nat.pow_succ', range_mul, List.map_flatMap]
      apply List.flatMap_congr
      intro i hi
      rw [ih, List.map_map, List.map_map]
      apply List.map_congr_left
      intro n hn
      have hi' : i < digits.length := List.mem_range.mp hi
      have hn' : n < digits.length ^ width := List.mem_range.mp hn
      show digits.getD i zero :: numeral zero digits width n =
        numeral zero digits (width + 1) (i * digits.length ^ width + n)
      rw [numeral_succ, digitAt_top zero hi' hn']
      congr 1
      apply List.map_congr_left
      intro place hplace
      rw [List.mem_reverse, List.mem_range] at hplace
      exact (digitAt_add_mul zero digits hplace i n).symm

theorem numeral_injOn {digits : Text} (h : digits.Nodup) (zero : Char) {width i j : Nat}
    (hi : i < digits.length ^ width) (hj : j < digits.length ^ width)
    (heq : numeral zero digits width i = numeral zero digits width j) : i = j := by
  have hnodup := nodup_numerals h width
  rw [numerals_eq_map_numeral zero] at hnodup
  exact List.inj_on_of_nodup_map hnodup (List.mem_range.mpr hi) (List.mem_range.mpr hj) heq

theorem length_numeral (zero : Char) (digits : Text) (width n : Nat) :
    (numeral zero digits width n).length = width := by
  rw [numeral, List.length_map, List.length_reverse, List.length_range]

theorem length_numerals (digits : Text) (width : Nat) :
    (numerals digits width).length = digits.length ^ width := by
  rw [numerals_eq_map_numeral ' ', List.length_map, List.length_range]

end Counter
end Moniker
