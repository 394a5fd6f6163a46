import Moniker.Proofs.Enumeration

/-!
# Counting

A counter writes the number of its step in positional notation, its alphabet being
the digits.  If the number of numerals fits 128 bits, that many steps give every row
of places in the alphabet once, in lexicographic order, and the next step gives the
first one again.  A counter with more numerals goes on up to the largest count.
-/

namespace Moniker
namespace Counter

/-!
# Positional notation
-/

/-- The places of the digits of `n` in their alphabet, from left to right. -/
def places (base width n : Nat) : List Nat :=
  (List.range width).reverse.map fun place => n / base ^ place % base

theorem places_succ (base width n : Nat) :
    places base (width + 1) n = n / base ^ width % base :: places base width n := by
  rw [places, List.range_succ, List.reverse_append]
  rfl

theorem length_places (base width n : Nat) : (places base width n).length = width := by
  rw [places, List.length_map, List.length_reverse, List.length_range]

theorem lt_of_mem_places {base width n i : Nat} (hbase : 0 < base)
    (h : i ∈ places base width n) : i < base := by
  rcases List.mem_map.mp h with ⟨place, _, rfl⟩
  exact Nat.mod_lt _ hbase

theorem places_mul_add (base width i n : Nat) :
    places base width (i * base ^ width + n) = places base width n := by
  apply List.map_congr_left
  intro place hplace
  rw [List.mem_reverse, List.mem_range] at hplace
  exact mul_pow_add_div_pow_mod base hplace i n

theorem places_mod (base width n : Nat) :
    places base width (n % base ^ width) = places base width n := by
  have hsplit : n / base ^ width * base ^ width + n % base ^ width = n :=
    Nat.div_add_mod' n (base ^ width)
  rw [← places_mul_add base width (n / base ^ width) (n % base ^ width), hsplit]

theorem lex_places {base width n m : Nat} (hn : n < m) (hm : m < base ^ width) :
    List.Lex (· < ·) (places base width n) (places base width m) := by
  induction width generalizing n m with
  | zero =>
      rw [Nat.pow_zero, Nat.lt_one_iff] at hm
      exact absurd (hm ▸ hn) (Nat.not_lt_zero n)
  | succ width ih =>
      rw [Nat.pow_succ] at hm
      have hpos : 0 < base ^ width := Nat.pos_of_mul_pos_right (Nat.zero_lt_of_lt hm)
      have htop : m / base ^ width < base := Nat.div_lt_of_lt_mul hm
      have hle : n / base ^ width ≤ m / base ^ width := Nat.div_le_div_right (Nat.le_of_lt hn)
      rw [places_succ, places_succ, Nat.mod_eq_of_lt htop,
        Nat.mod_eq_of_lt (Nat.lt_of_le_of_lt hle htop)]
      -- The first places differ, or they are the same and the others decide.
      rcases Nat.lt_or_eq_of_le hle with hlt | heq
      · exact List.Lex.rel hlt
      · rw [heq, ← places_mod base width n, ← places_mod base width m]
        apply List.Lex.cons
        apply ih _ (Nat.mod_lt m hpos)
        have hsplit := Nat.div_add_mod n (base ^ width)
        have hsplit' := Nat.div_add_mod m (base ^ width)
        rw [heq] at hsplit
        omega

theorem exists_places_eq {base width : Nat} {row : List Nat} (hlength : row.length = width)
    (hrow : forall i, i ∈ row -> i < base) :
    exists n, n < base ^ width ∧ places base width n = row := by
  induction row generalizing width with
  | nil =>
      subst hlength
      exact ⟨0, Nat.one_pos, rfl⟩
  | cons i row ih =>
      subst hlength
      rcases List.forall_mem_cons.mp hrow with ⟨hi, hrest⟩
      rcases ih rfl hrest with ⟨n, hn, hplaces⟩
      refine ⟨i * base ^ row.length + n, ?_, ?_⟩
      · calc
          i * base ^ row.length + n < i * base ^ row.length + base ^ row.length :=
            Nat.add_lt_add_left hn _
          _ = (i + 1) * base ^ row.length := (Nat.succ_mul i _).symm
          _ ≤ base * base ^ row.length := Nat.mul_le_mul_right _ hi
          _ = base ^ (row.length + 1) := Nat.pow_succ'.symm
      · rw [List.length_cons, places_succ, places_mul_add, hplaces,
          mul_pow_add_div_pow_mod_top hi hn]

/-- All rows of places, in the order of the numbers that they are written for. -/
def rowsOfPlaces (base width : Nat) : List (List Nat) :=
  (List.range (base ^ width)).map (places base width)

theorem pairwise_lex_rowsOfPlaces (base width : Nat) :
    (rowsOfPlaces base width).Pairwise (List.Lex (· < ·)) := by
  rw [rowsOfPlaces, List.pairwise_map]
  apply List.pairwise_lt_range.imp_of_mem
  intro n m _ hm hlt
  exact lex_places hlt (List.mem_range.mp hm)

theorem mem_rowsOfPlaces {base : Nat} (hbase : 0 < base) (width : Nat) (row : List Nat) :
    row ∈ rowsOfPlaces base width <-> row.length = width ∧ forall i, i ∈ row -> i < base := by
  constructor
  · intro h
    rcases List.mem_map.mp h with ⟨n, _, rfl⟩
    exact ⟨length_places base width n, fun i => lt_of_mem_places hbase⟩
  · intro h
    rcases exists_places_eq h.left h.right with ⟨n, hn, rfl⟩
    exact List.mem_map.mpr ⟨n, List.mem_range.mpr hn, rfl⟩

/-!
# Numerals

A numeral is a row of places, each spelled by the digit that stands there.
-/

/-- The text has the digits of the number, each at its place counted from the right. -/
structure Shows (digits : Text) (width n : Nat) (s : Text) : Prop where
  length_eq : s.length = width
  digit_eq : forall place, place < width ->
    s.reverse[place]? = digits[n / digits.length ^ place % digits.length]?

theorem some_digitAt (zero : Char) {digits : Text} (h : digits ≠ []) (n place : Nat) :
    some (digitAt zero digits n place) =
      digits[n / digits.length ^ place % digits.length]? := by
  have hlt : n / digits.length ^ place % digits.length < digits.length :=
    Nat.mod_lt _ (List.length_pos_iff.mpr h)
  rw [digitAt, List.getD_eq_getElem?_getD, List.getElem?_eq_getElem hlt, Option.getD_some]

theorem shows_numeral (zero : Char) {digits : Text} (h : digits ≠ []) (width n : Nat) :
    Shows digits width n (numeral zero digits width n) where
  length_eq := length_numeral zero digits width n
  digit_eq := by
    intro place hplace
    rw [numeral, List.map_reverse, List.reverse_reverse, List.getElem?_map,
      List.getElem?_range hplace]
    exact some_digitAt zero h n place

theorem map_some_numeral (zero : Char) {digits : Text} (h : digits ≠ []) (width n : Nat) :
    (numeral zero digits width n).map some =
      (places digits.length width n).map fun i => digits[i]? := by
  rw [numeral, places, List.map_map, List.map_map]
  apply List.map_congr_left
  intro place _
  exact some_digitAt zero h n place

/-!
# Steps of a counter
-/

def start (digits : Text) (width : Nat) : Counter :=
  { digits := digits, width := width }

def given (c : Counter) (k : Nat) : Text :=
  (after next k c).next.1

variable {digits : Text}

theorem exists_given_eq (h : digits ≠ []) (width : Nat) :
    exists zero, forall k, (start digits width).given k =
      numeral zero digits width ((start digits width).countAt k) := by
  cases digits with
  | nil =>
      exact absurd rfl h
  | cons zero rest =>
      exact ⟨zero, piece_after rfl rfl rfl⟩

theorem shows_given (h : digits ≠ []) (width k : Nat) :
    Shows digits width ((start digits width).countAt k) ((start digits width).given k) := by
  rcases exists_given_eq h width with ⟨zero, hgiven⟩
  rw [hgiven]
  exact shows_numeral zero h width _

theorem countAt_of_some {c : Counter} {n : Nat} (hn : c.alternatives? = some n) (k : Nat) :
    c.countAt k = k % n := by
  simp only [countAt, hn]

theorem countAt_of_none {c : Counter} (hn : c.alternatives? = none) (k : Nat) :
    c.countAt k = min k Capacity.max := by
  simp only [countAt, hn]

theorem live_after_start (h : digits ≠ []) (width k : Nat) :
    (after next k (start digits width)).live = true <->
      forall n, (start digits width).alternatives? = some n -> k < n := by
  have hlive : (after next k (start digits width)).live = (start digits width).liveAt k := by
    rw [after_eq h rfl rfl]
  rw [hlive, liveAt]
  cases (start digits width).alternatives? with
  | none =>
      exact iff_of_true rfl fun n hn => absurd hn (Option.some_ne_none n).symm
  | some n =>
      simp

theorem map_given (h : digits ≠ []) {width n : Nat}
    (hn : (start digits width).alternatives? = some n) :
    (List.range n).map (fun k => ((start digits width).given k).map some) =
      (rowsOfPlaces digits.length width).map (List.map fun i => digits[i]?) := by
  rcases exists_given_eq h width with ⟨zero, hgiven⟩
  have hpow : n = digits.length ^ width := Capacity.eq_pow_of_power? hn
  rw [rowsOfPlaces, ← hpow, List.map_map]
  apply List.map_congr_left
  intro k hk
  rw [hgiven, countAt_of_some hn, Nat.mod_eq_of_lt (List.mem_range.mp hk),
    map_some_numeral zero h]
  rfl

/-- Every step of a counter shows its number, and the counter is live until all
numerals were given.  Then each row of places was spelled once, in lexicographic
order, and the first one comes again. -/
theorem counts_in_order (h : digits ≠ []) (width : Nat) :
    (forall n, (start digits width).alternatives? = some n ->
        forall k, Shows digits width (k % n) ((start digits width).given k)) ∧
      ((start digits width).alternatives? = none ->
        forall k, Shows digits width (min k Capacity.max) ((start digits width).given k)) ∧
      (forall k, (after next k (start digits width)).live = true <->
        forall n, (start digits width).alternatives? = some n -> k < n) ∧
      forall n, (start digits width).alternatives? = some n ->
        n = digits.length ^ width ∧
        (exists rows : List (List Nat),
          rows.Pairwise (List.Lex (· < ·)) ∧
          (forall row, row ∈ rows <->
            row.length = width ∧ forall i, i ∈ row -> i < digits.length) ∧
          (List.range n).map (fun k => ((start digits width).given k).map some) =
            rows.map (List.map fun i => digits[i]?)) ∧
        (start digits width).given n = (start digits width).given 0 := by
  refine ⟨?_, ?_, live_after_start h width, ?_⟩
  · intro n hn k
    rw [← countAt_of_some hn]
    exact shows_given h width k
  · intro hn k
    rw [← countAt_of_none hn]
    exact shows_given h width k
  · intro n hn
    refine ⟨Capacity.eq_pow_of_power? hn, ⟨rowsOfPlaces digits.length width,
      pairwise_lex_rowsOfPlaces _ _, mem_rowsOfPlaces (List.length_pos_iff.mpr h) width,
      map_given h hn⟩, ?_⟩
    rcases exists_given_eq h width with ⟨zero, hgiven⟩
    rw [hgiven, hgiven, countAt_of_some hn, countAt_of_some hn, Nat.mod_self, Nat.zero_mod]

/-- Two digits, three places: eight numerals, and the first one again. -/
theorem counts_in_order_letters :
    "ab".toList ≠ [] ∧ (start "ab".toList 3).alternatives? = some 8 ∧
      Shows "ab".toList 3 6 ((start "ab".toList 3).given 14) ∧
      (start "ab".toList 3).given 8 = "aaa".toList := by
  have hdigits : "ab".toList ≠ [] := by
    decide
  have hcounts := counts_in_order hdigits 3
  have hlast := hcounts.right.right.right 8 rfl
  exact ⟨hdigits, rfl, hcounts.left 8 rfl 14, hlast.right.right⟩

end Counter
end Moniker
