import Mathlib.Data.Nat.Bitwise
import Moniker.Pattern.Matcher

/-!
# What a pattern matches

A tree stands for a relation between the places of a text, and the matcher finds the
places that it leads to.  The matcher goes no more rounds than there are places.  These
are enough: one of further rounds stays where it is, so it can be left out, and made as
often as one likes.
-/

namespace Moniker
namespace Pattern

/-!
# Sets of code points
-/

namespace CodePoints

theorem contains_of_perm {places places' : List Nat} (h : places.Perm places') (n : Nat) :
    contains { places := places } n = contains { places := places' } n := by
  apply h.foldr_eq'
  intro place _ place' _ inside
  exact Bool.xor_right_comm inside _ _

theorem contains_cancel (places : List Nat) (n : Nat) :
    contains { places := cancel places } n = contains { places := places } n := by
  induction places using cancel.induct with
  | case1 place rest ih =>
      rw [cancel, if_pos rfl, ih]
      simp [contains]
  | case2 place next rest hne ih =>
      rw [cancel, if_neg hne]
      simp only [contains, List.foldr_cons] at ih ⊢
      rw [ih]
  | case3 places hplaces =>
      cases places with
      | nil =>
          rfl
      | cons place rest =>
          cases rest with
          | nil =>
              rfl
          | cons next rest =>
              exact absurd rfl (hplaces place next rest)

theorem contains_append (places places' : List Nat) (n : Nat) :
    contains { places := places ++ places' } n =
      (contains { places := places } n != contains { places := places' } n) := by
  induction places with
  | nil =>
      simp [contains]
  | cons place places ih =>
      simp only [contains, List.cons_append, List.foldr_cons] at ih ⊢
      rw [ih]
      exact Bool.xor_right_comm _ _ _

theorem contains_symmetricDifference (a b : CodePoints) (n : Nat) :
    (a.symmetricDifference b).contains n = (a.contains n != b.contains n) := by
  rw [symmetricDifference, contains_cancel, contains_of_perm (List.mergeSort_perm _ _),
    contains_append]

end CodePoints

/-!
# Rounds
-/

/-- So many steps of a relation, one after the other. -/
inductive Rounds (R : Nat -> Nat -> Prop) : Nat -> Nat -> Nat -> Prop where
  | none {i : Nat} : Rounds R 0 i i
  | round {n i j k : Nat} : R i j -> Rounds R n j k -> Rounds R (n + 1) i k

/-- A step of the relation, or none. -/
def orStay (R : Nat -> Nat -> Prop) (i j : Nat) : Prop :=
  i = j ∨ R i j

namespace Rounds

variable {R : Nat -> Nat -> Prop} {n m i j k : Nat}

theorem append (h : Rounds R n i j) (h' : Rounds R m j k) : Rounds R (n + m) i k := by
  induction h with
  | none =>
      rwa [Nat.zero_add]
  | round hstep _ ih =>
      rw [Nat.add_right_comm]
      exact .round hstep (ih h')

theorem split (h : Rounds R (n + m) i k) : exists j, Rounds R n i j ∧ Rounds R m j k := by
  induction n generalizing i with
  | zero =>
      rw [Nat.zero_add] at h
      exact ⟨i, .none, h⟩
  | succ n ih =>
      rw [Nat.add_right_comm] at h
      cases h with
      | round hstep hrest =>
          rcases ih hrest with ⟨j, hleft, hright⟩
          exact ⟨j, .round hstep hleft, hright⟩

theorem concat (h : Rounds R n i j) (hstep : R j k) : Rounds R (n + 1) i k :=
  h.append (.round hstep .none)

theorem le (hforward : forall i j, R i j -> i ≤ j) (h : Rounds R n i j) : i ≤ j := by
  induction h with
  | none =>
      exact Nat.le_refl _
  | round hstep _ ih =>
      exact Nat.le_trans (hforward _ _ hstep) ih

/-- Of more rounds than there are places between the ends, one stays where it is. -/
theorem exists_rest (hforward : forall i j, R i j -> i ≤ j) (h : Rounds R n i k)
    (hmany : k - i < n) :
    exists before behind j, Rounds R before i j ∧ R j j ∧ Rounds R behind j k ∧
      n = before + behind + 1 := by
  induction h with
  | none =>
      exact absurd hmany (Nat.not_lt_zero _)
  | @round n i j k hstep hrest ih =>
      by_cases hstays : i = j
      · subst hstays
        exact ⟨0, n, i, .none, hstep, hrest, by rw [Nat.zero_add]⟩
      · have hle := hforward i j hstep
        have hle' := hrest.le hforward
        rcases ih (by omega) with ⟨before, behind, p, hbefore, hp, hbehind, hn⟩
        exact ⟨before + 1, behind, p, .round hstep hbefore, hp, hbehind, by omega⟩

theorem succ_iff (hforward : forall i j, R i j -> i ≤ j) (hmany : k - i < n) :
    Rounds R (n + 1) i k <-> Rounds R n i k := by
  constructor
  · intro h
    rcases h.exists_rest hforward (Nat.lt_succ_of_lt hmany) with
      ⟨before, behind, j, hbefore, _, hbehind, hn⟩
    cases hn
    exact hbefore.append hbehind
  · intro h
    rcases h.exists_rest hforward hmany with ⟨before, behind, j, hbefore, hj, hbehind, hn⟩
    have hrounds := (hbefore.concat hj).append (.round hj hbehind)
    rwa [hn, show before + behind + 1 + 1 = before + 1 + (behind + 1) by omega]

theorem iff_of_le (hforward : forall i j, R i j -> i ≤ j) (hmany : k - i < m) (hle : m ≤ n) :
    Rounds R n i k <-> Rounds R m i k := by
  induction hle with
  | refl =>
      exact Iff.rfl
  | step hle ih =>
      exact (succ_iff hforward (Nat.lt_of_lt_of_le hmany hle)).trans ih

theorem stay (n i : Nat) : Rounds (orStay R) n i i := by
  induction n with
  | zero =>
      exact .none
  | succ n ih =>
      exact .round (Or.inl rfl) ih

theorem or_stay (h : Rounds R n i j) : Rounds (orStay R) n i j := by
  induction h with
  | none =>
      exact .none
  | round hstep _ ih =>
      exact .round (Or.inr hstep) ih

/-- Rounds that may stay where they are stand for any smaller number of rounds. -/
theorem or_stay_iff : Rounds (orStay R) n i j <-> exists k, k ≤ n ∧ Rounds R k i j := by
  constructor
  · intro h
    induction h with
    | none =>
        exact ⟨0, Nat.le_refl 0, .none⟩
    | round hfirst _ ih =>
        rcases ih with ⟨k, hk, hrest⟩
        rcases hfirst with rfl | hstep
        · exact ⟨k, Nat.le_succ_of_le hk, hrest⟩
        · exact ⟨k + 1, Nat.succ_le_succ hk, .round hstep hrest⟩
  · intro hfewer
    rcases hfewer with ⟨k, hk, h⟩
    rw [← Nat.add_sub_cancel' hk]
    exact h.or_stay.append (stay (n - k) j)

end Rounds

/-!
# Matches
-/

def charBefore (before : Option Char) (s : Text) : Nat -> Option Char
  | 0 => before
  | i + 1 => s[i]?

/-- A match of the tree leads from the first place to the second one.  A bound on the
rounds that lies below the least number of them counts for nothing. -/
def Tree.Spans (s : Text) : Tree -> Nat -> Nat -> Prop
  | empty, i, j => i = j
  | one set, i, j => (exists c, s[i]? = some c ∧ set.contains c = true) ∧ j = i + 1
  | boundary b, i, j => (i ≤ s.length ∧ b.holds (charBefore none s i) s[i]? = true) ∧ i = j
  | both first second, i, k => exists j, first.Spans s i j ∧ second.Spans s j k
  | either left right, i, j => left.Spans s i j ∨ right.Spans s i j
  | rounds least most body, i, j =>
      exists n, least ≤ n ∧ (forall m, most = some m -> n ≤ max least m) ∧
        Rounds (body.Spans s) n i j

/-- A match goes forward, and if it goes anywhere it ends within the text. -/
def Forward (s : Text) (R : Nat -> Nat -> Prop) : Prop :=
  forall i j, R i j -> i = j ∨ (i < j ∧ j ≤ s.length)

namespace Forward

variable {s : Text} {R : Nat -> Nat -> Prop} {n i j : Nat}

theorem le (h : Forward s R) (i j : Nat) (hstep : R i j) : i ≤ j := by
  rcases h i j hstep with heq | hlt
  · exact Nat.le_of_eq heq
  · exact Nat.le_of_lt hlt.left

theorem rounds (h : Forward s R) (n : Nat) : Forward s (Rounds R n) := by
  intro i j hrounds
  induction hrounds with
  | none =>
      exact Or.inl rfl
  | round hstep _ ih =>
      have hfirst := h _ _ hstep
      omega

theorem rounds_iff (h : Forward s R) (hle : s.length + 1 ≤ n) :
    Rounds R n i j <-> Rounds R (s.length + 1) i j := by
  by_cases hspan : j - i < s.length + 1
  · exact Rounds.iff_of_le h.le hspan hle
  · constructor
    · intro hrounds
      have := h.rounds n i j hrounds
      omega
    · intro hrounds
      have := h.rounds _ i j hrounds
      omega

theorem rounds_min_iff (h : Forward s R) :
    Rounds R (min n (s.length + 1)) i j <-> Rounds R n i j := by
  by_cases hle : n ≤ s.length + 1
  · rw [Nat.min_eq_left hle]
  · have hle' := Nat.le_of_not_le hle
    rw [Nat.min_eq_right hle', h.rounds_iff hle']

end Forward

theorem Tree.forward_spans (s : Text) (t : Tree) : Forward s (t.Spans s) := by
  induction t with
  | empty =>
      exact fun i j h => Or.inl h
  | one set =>
      intro i j h
      rcases h with ⟨⟨c, hc, _⟩, rfl⟩
      exact Or.inr ⟨Nat.lt_succ_self i, (List.getElem?_eq_some_iff.mp hc).choose⟩
  | boundary b =>
      exact fun i j h => Or.inl h.right
  | both first second ihfirst ihsecond =>
      intro i k h
      rcases h with ⟨j, hleft, hright⟩
      have hij := ihfirst i j hleft
      have hjk := ihsecond j k hright
      omega
  | either left right ihleft ihright =>
      intro i j h
      exact h.elim (ihleft i j) (ihright i j)
  | rounds least most body ih =>
      intro i j h
      rcases h with ⟨n, _, _, hrounds⟩
      exact ih.rounds n i j hrounds

/-!
# Sets of places

Whether a place belongs to a set is told by a bit of the number.
-/

/-- A step of the matcher leads to the places that the relation leads to. -/
def Leads (f : Nat -> Nat) (R : Nat -> Nat -> Prop) : Prop :=
  forall m j, (f m).testBit j = true <-> exists i, m.testBit i = true ∧ R i j

theorem testBit_two_mul_add (n i : Nat) (b : Bool) :
    (2 * n + b.toNat).testBit i = if i = 0 then b else n.testBit (i - 1) := by
  rw [← Nat.bit_val]
  cases i with
  | zero =>
      exact Nat.testBit_bit_zero b n
  | succ i =>
      exact Nat.testBit_bit_succ i b n

theorem testBit_places (set : CharSet) (s : Text) (i : Nat) :
    (places set s).testBit i = true <-> exists c, s[i]? = some c ∧ set.contains c = true := by
  induction s generalizing i with
  | nil =>
      simp [places]
  | cons c s ih =>
      rw [places, testBit_two_mul_add]
      cases i with
      | zero =>
          simp
      | succ i =>
          simpa using ih i

theorem testBit_boundaryPlaces (b : Boundary) (before : Option Char) (s : Text) (i : Nat) :
    (boundaryPlaces b before s).testBit i = true <->
      i ≤ s.length ∧ b.holds (charBefore before s i) s[i]? = true := by
  induction s generalizing before i with
  | nil =>
      rw [boundaryPlaces, ← Nat.zero_add (Bool.toNat _), ← Nat.mul_zero 2, testBit_two_mul_add]
      cases i with
      | zero =>
          simp [charBefore]
      | succ i =>
          simp
  | cons c s ih =>
      rw [boundaryPlaces, testBit_two_mul_add]
      cases i with
      | zero =>
          simp [charBefore]
      | succ i =>
          have hbefore : charBefore before (c :: s) (i + 1) = charBefore (some c) s i := by
            cases i <;> rfl
          simpa [hbefore] using ih (some c) i

section Iterating

variable {f : Nat -> Nat} {R : Nat -> Nat -> Prop}

theorem Leads.iterate (h : Leads f R) (n : Nat) : Leads (iterate f n) (Rounds R n) := by
  induction n with
  | zero =>
      intro m j
      constructor
      · exact fun hj => ⟨j, hj, .none⟩
      · intro hreach
        rcases hreach with ⟨i, hi, hrounds⟩
        cases hrounds
        exact hi
  | succ n ih =>
      intro m j
      rw [Pattern.iterate, ih]
      constructor
      · intro hreach
        rcases hreach with ⟨p, hp, hrounds⟩
        rcases (h m p).mp hp with ⟨i, hi, hstep⟩
        exact ⟨i, hi, .round hstep hrounds⟩
      · intro hreach
        rcases hreach with ⟨i, hi, hrounds⟩
        cases hrounds with
        | round hstep hrest =>
            exact ⟨_, (h m _).mpr ⟨i, hi, hstep⟩, hrest⟩

theorem Leads.or_stay (h : Leads f R) : Leads (fun m => m ||| f m) (orStay R) := by
  intro m j
  rw [Nat.testBit_or, Bool.or_eq_true, h m j]
  constructor
  · intro hor
    rcases hor with hj | ⟨i, hi, hij⟩
    · exact ⟨j, hj, Or.inl rfl⟩
    · exact ⟨i, hi, Or.inr hij⟩
  · intro hsome
    rcases hsome with ⟨i, hi, rfl | hij⟩
    · exact Or.inl hi
    · exact Or.inr ⟨i, hi, hij⟩

theorem Leads.iterate_or (h : Leads f R) (n : Nat) :
    Leads (Pattern.iterate (fun m => m ||| f m) n) fun i j => exists k, k ≤ n ∧ Rounds R k i j := by
  intro m j
  rw [h.or_stay.iterate n m j]
  simp only [Rounds.or_stay_iff]

end Iterating

/-!
# The matcher
-/

theorem exists_rounds_iff {s : Text} {R : Nat -> Nat -> Prop} (h : Forward s R) (least : Nat)
    (most : Option Nat) (i j : Nat) :
    (exists n, least ≤ n ∧ (forall m, most = some m -> n ≤ max least m) ∧ Rounds R n i j) <->
      exists p, Rounds R (min least (s.length + 1)) i p ∧ exists k,
        k ≤ (most.elim (s.length + 1) fun m => min (m - least) (s.length + 1)) ∧
          Rounds R k p j := by
  constructor
  · intro hfound
    rcases hfound with ⟨n, hle, hbound, hrounds⟩
    rw [← Nat.add_sub_cancel' hle] at hrounds
    rcases hrounds.split with ⟨p, hleast, hfurther⟩
    refine ⟨p, h.rounds_min_iff.mpr hleast, min (n - least) (s.length + 1), ?_,
      h.rounds_min_iff.mpr hfurther⟩
    cases most with
    | none =>
        exact Nat.min_le_right _ _
    | some m =>
        have := hbound m rfl
        simp only [Option.elim_some]
        omega
  · intro hfound
    rcases hfound with ⟨p, hleast, k, hk, hfurther⟩
    refine ⟨least + k, Nat.le_add_right least k, ?_,
      (h.rounds_min_iff.mp hleast).append hfurther⟩
    intro m hmost
    cases hmost
    simp only [Option.elim_some] at hk
    omega

theorem Tree.leads_ends (s : Text) (t : Tree) : Leads (t.ends s) (t.Spans s) := by
  induction t with
  | empty =>
      intro m j
      simp [ends, Spans]
  | one set =>
      intro m j
      cases j with
      | zero =>
          simp [ends, Spans]
      | succ j =>
          simp [ends, Spans, testBit_places]
  | boundary b =>
      intro m j
      simp only [ends, Spans, Nat.testBit_and, Bool.and_eq_true, testBit_boundaryPlaces]
      constructor
      · intro hpath
        rcases hpath with ⟨hj, hholds⟩
        exact ⟨j, hj, hholds, rfl⟩
      · intro hpath
        rcases hpath with ⟨i, hi, hholds, rfl⟩
        exact ⟨hi, hholds⟩
  | both first second ihfirst ihsecond =>
      intro m k
      rw [ends, ihsecond]
      simp only [ihfirst m, Spans]
      constructor
      · intro hpath
        rcases hpath with ⟨j, ⟨i, hi, hij⟩, hjk⟩
        exact ⟨i, hi, j, hij, hjk⟩
      · intro hpath
        rcases hpath with ⟨i, hi, j, hij, hjk⟩
        exact ⟨j, ⟨i, hi, hij⟩, hjk⟩
  | either left right ihleft ihright =>
      intro m j
      simp only [ends, Spans, Nat.testBit_or, Bool.or_eq_true, ihleft m j, ihright m j,
        ← exists_or, ← and_or_left]
  | rounds least most body ih =>
      intro m j
      have hforward := body.forward_spans s
      have hends : (rounds least most body).ends s m =
          iterate (fun m => m ||| body.ends s m)
            (most.elim (s.length + 1) fun m => min (m - least) (s.length + 1))
            (iterate (body.ends s) (min least (s.length + 1)) m) := by
        cases most <;> rfl
      rw [hends, ih.iterate_or]
      simp only [ih.iterate _ m, Spans, exists_rounds_iff hforward]
      constructor
      · intro hpath
        rcases hpath with ⟨p, ⟨i, hi, hleast⟩, hfurther⟩
        exact ⟨i, hi, p, hleast, hfurther⟩
      · intro hpath
        rcases hpath with ⟨i, hi, p, hleast, hfurther⟩
        exact ⟨p, ⟨i, hi, hleast⟩, hfurther⟩

/-- A text matches if a match leads from a place of the text to another one. -/
theorem Tree.isMatch_iff (t : Tree) (s : Text) :
    t.isMatch s = true <-> exists i j, i ≤ s.length ∧ t.Spans s i j := by
  have hstart : forall i,
      ((1 <<< (s.length + 1)) - 1).testBit i = true <-> i ≤ s.length := by
    intro i
    rw [Nat.one_shiftLeft, Nat.testBit_two_pow_sub_one, decide_eq_true_iff, Nat.lt_succ_iff]
  have hends := t.leads_ends s ((1 <<< (s.length + 1)) - 1)
  simp only [hstart] at hends
  rw [isMatch, bne_iff_ne]
  constructor
  · intro hne
    rcases Nat.exists_testBit_of_ne_zero hne with ⟨j, hj⟩
    rcases (hends j).mp hj with ⟨i, hi, hspans⟩
    exact ⟨i, j, hi, hspans⟩
  · intro hfound hzero
    rcases hfound with ⟨i, j, hi, hspans⟩
    have hj := (hends j).mpr ⟨i, hi, hspans⟩
    rw [hzero, Nat.zero_testBit] at hj
    cases hj

end Pattern
end Moniker
