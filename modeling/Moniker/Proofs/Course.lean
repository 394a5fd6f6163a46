import Moniker.Template
import Mathlib.Logic.Function.Iterate

/-!
# The course of a template

A template is asked for one candidate after the other.  This module follows it
through any number of steps: every segment before the leftmost one that does not
fit its data goes its own way, one step for each candidate, and that segment and
all behind it stay as they were.
-/

namespace Moniker

variable {ρ : Type} [Chance ρ]

/-!
# Repeated steps

Segments, rows of segments and templates all give something and move on.  What
they have become after some steps depends on the steps alone, so facts about it
are proved once for anything that moves on.
-/

variable {α β γ δ : Type}

def after (next : α -> β × α) (k : Nat) (a : α) : α :=
  (fun a => (next a).2)^[k] a

@[simp] theorem after_zero (next : α -> β × α) (a : α) : after next 0 a = a := rfl

theorem after_succ (next : α -> β × α) (k : Nat) (a : α) :
    after next (k + 1) a = after next k (next a).2 := rfl

theorem after_succ_eq_next (next : α -> β × α) (k : Nat) (a : α) :
    after next (k + 1) a = (next (after next k a)).2 :=
  Function.iterate_succ_apply' (fun a => (next a).2) k a

theorem after_add (next : α -> β × α) (k l : Nat) (a : α) :
    after next (k + l) a = after next l (after next k a) := by
  rw [Nat.add_comm]
  exact Function.iterate_add_apply (fun a => (next a).2) l k a

theorem after_map {next : α -> β × α} {next' : γ -> δ × γ} {f : α -> γ}
    (h : forall a, (next' (f a)).2 = f (next a).2) (k : Nat) (a : α) :
    after next' k (f a) = f (after next k a) := by
  induction k generalizing a with
  | zero =>
      rfl
  | succ k ih =>
      rw [after_succ, after_succ, h a, ih]

theorem after_preserves {next : α -> β × α} {P : α -> Prop}
    (h : forall a, P a -> P (next a).2) (k : Nat) {a : α} (ha : P a) :
    P (after next k a) := by
  induction k generalizing a with
  | zero =>
      exact ha
  | succ k ih =>
      exact ih (h a ha)

theorem after_relates {next : α -> β × α} {next' : γ -> δ × γ} {R : α -> γ -> Prop}
    (h : forall a c, R a c -> R (next a).2 (next' c).2) (k : Nat) {a : α} {c : γ} (hac : R a c) :
    R (after next k a) (after next' k c) := by
  induction k generalizing a c with
  | zero =>
      exact hac
  | succ k ih =>
      exact ih (h a c hac)

/-!
# Spans that fit

Whether an excerpt can give its part is decided by its span and the number of
its characters, and neither ever changes.
-/

/-- A span fits `n` characters if it does not end before it starts or behind them. -/
def Span.Fits (n : Nat) : Span -> Prop
  | .range start stop => start ≤ stop ∧ stop ≤ n
  | .last count => count ≤ n
  | .toEnd start => start ≤ n

instance (n : Nat) : (span : Span) -> Decidable (span.Fits n)
  | .range start stop => inferInstanceAs (Decidable (start ≤ stop ∧ stop ≤ n))
  | .last count => inferInstanceAs (Decidable (count ≤ n))
  | .toEnd start => inferInstanceAs (Decidable (start ≤ n))

theorem Span.positions_of_fits {n : Nat} {span : Span} (h : span.Fits n) :
    exists start stop, span.positions n = .ok (start, stop) := by
  cases span with
  | range start stop =>
      exact ⟨start, stop, if_pos h⟩
  | last count =>
      exact ⟨n - count, n, if_pos h⟩
  | toEnd start =>
      exact ⟨start, n, if_pos h⟩

def Span.reported (n : Nat) : Span -> Nat × Nat
  | .range start stop => (start, stop)
  | .last count => (0, count)
  | .toEnd start => (start, n)

theorem Span.positions_of_not_fits {n : Nat} {span : Span} (h : ¬ span.Fits n) :
    span.positions n = .error (span.reported n) := by
  cases span with
  | range start stop | last count | toEnd start =>
      exact if_neg h

def Source.Fits : Source ρ -> Prop
  | .part x => x.span.Fits x.data.length
  | _ => True

instance : (source : Source ρ) -> Decidable source.Fits
  | .part x => inferInstanceAs (Decidable (x.span.Fits x.data.length))
  | .literal _ | .whole _ | .sample _ | .counter _ => isTrue trivial

theorem Excerpt.next_of_fits {x : Excerpt} (h : x.span.Fits x.data.length) :
    exists piece, x.next = (.ok piece, { x with live := false }) := by
  rcases Span.positions_of_fits h with ⟨start, stop, hpositions⟩
  exact ⟨slice start stop x.data, by simp [next, value, hpositions]⟩

def Excerpt.misfit (x : Excerpt) : Failure :=
  .outOfBounds x.fragment x.data (x.span.reported x.data.length).1
    (x.span.reported x.data.length).2

theorem Excerpt.next_of_not_fits {x : Excerpt} (h : ¬ x.span.Fits x.data.length) :
    x.next = (.error x.misfit, x) := by
  simp [next, value, Span.positions_of_not_fits h, misfit]

namespace Source

theorem next_of_fits {source : Source ρ} (h : source.Fits) :
    exists piece, source.next.1 = .ok piece := by
  cases source with
  | part x =>
      rcases Excerpt.next_of_fits h with ⟨piece, hnext⟩
      exact ⟨piece, by simp [next, hnext]⟩
  | literal f =>
      exact ⟨f.next.1, rfl⟩
  | whole f =>
      exact ⟨f.next.1, rfl⟩
  | sample x =>
      exact ⟨x.next.1, rfl⟩
  | counter c =>
      exact ⟨c.next.1, rfl⟩

theorem next_of_not_fits {x : Excerpt} (h : ¬ x.span.Fits x.data.length) :
    (part x : Source ρ).next = (.error x.misfit, part x) := by
  simp [next, Excerpt.next_of_not_fits h]

theorem exists_part_of_not_fits {ρ : Type} {source : Source ρ} (h : ¬ source.Fits) :
    exists x, source = .part x ∧ ¬ x.span.Fits x.data.length := by
  cases source with
  | part x =>
      exact ⟨x, rfl, h⟩
  | literal f | whole f | sample x | counter c =>
      exact absurd trivial h

theorem fits_next (source : Source ρ) : source.next.2.Fits <-> source.Fits := by
  cases source with
  | part x =>
      by_cases hx : x.span.Fits x.data.length
      · rcases Excerpt.next_of_fits hx with ⟨piece, hnext⟩
        simp [next, Fits, hnext]
      · simp [next, Fits, Excerpt.next_of_not_fits hx]
  | literal f | whole f | sample x | counter c =>
      exact Iff.rfl

end Source

/-!
# Rows of segments
-/

namespace Segment

def Fits (s : Segment ρ) : Prop :=
  s.source.Fits

instance (s : Segment ρ) : Decidable s.Fits :=
  inferInstanceAs (Decidable s.source.Fits)

theorem fits_next (s : Segment ρ) : s.next.2.Fits <-> s.Fits :=
  s.source.fits_next

def piece (s : Segment ρ) : Text :=
  s.next.1.toOption.getD []

theorem next_of_fits {s : Segment ρ} (h : s.Fits) : s.next = (.ok s.piece, s.next.2) := by
  rcases Source.next_of_fits h with ⟨piece, hpiece⟩
  have hs : s.next.1 = .ok piece := hpiece
  rw [Segment.piece, hs]
  exact Prod.ext hs rfl

def Misfits (s : Segment ρ) (failure : Failure) : Prop :=
  exists x, s.source = .part x ∧ ¬ x.span.Fits x.data.length ∧ failure = x.misfit

theorem exists_misfits_of_not_fits {ρ : Type} {s : Segment ρ} (h : ¬ s.Fits) :
    exists failure, s.Misfits failure := by
  rcases Source.exists_part_of_not_fits h with ⟨x, hx, hfits⟩
  exact ⟨x.misfit, x, hx, hfits, rfl⟩

theorem Misfits.not_fits {ρ : Type} {s : Segment ρ} {failure : Failure} (h : s.Misfits failure) :
    ¬ s.Fits := by
  rcases h with ⟨x, hx, hfits, _⟩
  rw [Fits, hx]
  exact hfits

theorem Misfits.next_eq {s : Segment ρ} {failure : Failure} (h : s.Misfits failure) :
    s.next = (.error failure, s) := by
  rcases s with ⟨text, resolver, source⟩
  rcases h with ⟨x, rfl, hfits, rfl⟩
  rw [next, Source.next_of_not_fits hfits]

/-- The place of the leftmost segment that does not fit, or the number of all of
them if they fit. -/
def firstMisfit (row : List (Segment ρ)) : Nat :=
  row.findIdx fun s => decide (¬ s.Fits)

theorem firstMisfit_cons_of_fits {ρ : Type} {s : Segment ρ} (row : List (Segment ρ)) (h : s.Fits) :
    firstMisfit (s :: row) = firstMisfit row + 1 := by
  simp [firstMisfit, List.findIdx_cons, h]

theorem firstMisfit_cons_of_not_fits {ρ : Type} {s : Segment ρ} (row : List (Segment ρ))
    (h : ¬ s.Fits) :
    firstMisfit (s :: row) = 0 := by
  simp [firstMisfit, List.findIdx_cons, h]

theorem firstMisfit_of_fits {ρ : Type} {row : List (Segment ρ)} (h : forall s, s ∈ row -> s.Fits) :
    firstMisfit row = row.length := by
  rw [firstMisfit, List.findIdx_eq_length]
  intro s hs
  simp [h s hs]

theorem nextAll_cons_of_fits {s : Segment ρ} (row : List (Segment ρ)) (h : s.Fits) :
    nextAll (s :: row) =
      ((nextAll row).1.map (s.piece ++ ·), s.next.2 :: (nextAll row).2) := by
  rw [nextAll, next_of_fits h]
  rcases hrow : nextAll row with ⟨answer, row'⟩
  cases answer with
  | error failure =>
      simp [Except.map]
  | ok pieces =>
      simp [Except.map]

theorem nextAll_cons_of_misfits {s : Segment ρ} {failure : Failure} (row : List (Segment ρ))
    (h : s.Misfits failure) : nextAll (s :: row) = (.error failure, s :: row) := by
  simp [nextAll, h.next_eq]

theorem firstMisfit_nextAll (row : List (Segment ρ)) :
    firstMisfit (nextAll row).2 = firstMisfit row := by
  induction row with
  | nil =>
      rfl
  | cons s row ih =>
      by_cases hs : s.Fits
      · rw [nextAll_cons_of_fits row hs, firstMisfit_cons_of_fits _ ((fits_next s).mpr hs),
          firstMisfit_cons_of_fits row hs, ih]
      · rcases exists_misfits_of_not_fits hs with ⟨failure, hmisfits⟩
        rw [nextAll_cons_of_misfits row hmisfits]

theorem mapIdx_unchanged (row : List (Segment ρ)) : row.mapIdx (fun _ s => s) = row := by
  apply List.ext_getElem?
  intro i
  simp

theorem nextAll_snd (row : List (Segment ρ)) :
    (nextAll row).2 = row.mapIdx fun i s => if i < firstMisfit row then s.next.2 else s := by
  induction row with
  | nil =>
      rfl
  | cons s row ih =>
      by_cases hs : s.Fits
      · rw [nextAll_cons_of_fits row hs, firstMisfit_cons_of_fits row hs, List.mapIdx_cons, ih]
        simp
      · rcases exists_misfits_of_not_fits hs with ⟨failure, hmisfits⟩
        rw [nextAll_cons_of_misfits row hmisfits, firstMisfit_cons_of_not_fits row hs]
        simp [mapIdx_unchanged]

theorem after_nextAll (row : List (Segment ρ)) (k : Nat) :
    after nextAll k row =
      row.mapIdx fun i s => if i < firstMisfit row then after next k s else s := by
  induction k generalizing row with
  | zero =>
      simp [mapIdx_unchanged]
  | succ k ih =>
      rw [after_succ, ih, firstMisfit_nextAll, nextAll_snd, List.mapIdx_mapIdx]
      congr 1
      funext i s
      by_cases hi : i < firstMisfit row
      · simp [hi, after_succ]
      · simp [hi]

theorem nextAll_fst_of_fits {row : List (Segment ρ)} (h : forall s, s ∈ row -> s.Fits) :
    (nextAll row).1 = .ok (row.flatMap piece) := by
  induction row with
  | nil =>
      rfl
  | cons s row ih =>
      have hs : s.Fits := h s List.mem_cons_self
      have hrow : (nextAll row).1 = .ok (row.flatMap piece) :=
        ih fun r hr => h r (List.mem_cons_of_mem s hr)
      rw [nextAll_cons_of_fits row hs, hrow]
      rfl

end Segment

/-!
# Candidates

The candidates of a template are what it gives in the course of its steps.  A
template that never fails gives one at every step, and a template whose segments
all fit never fails.
-/

namespace Template

theorem after_next (t : Template ρ) (k : Nat) :
    after next k t = { t with segments := after Segment.nextAll k t.segments } :=
  after_map (f := fun segments => { t with segments := segments }) (fun _ => rfl) k t.segments

/-- The candidate that comes after `k` others; nothing if that step fails. -/
def candidate (t : Template ρ) (k : Nat) : Text :=
  (after next k t).next.1.toOption.getD []

def candidates (t : Template ρ) (n : Nat) : List Text :=
  (List.range n).map t.candidate

theorem candidates_succ (t : Template ρ) (n : Nat) :
    t.candidates (n + 1) = t.candidates n ++ [t.candidate n] := by
  simp [candidates, List.range_succ]

theorem candidate_after (t : Template ρ) (k i : Nat) :
    (after next k t).candidate i = t.candidate (k + i) := by
  rw [candidate, candidate, after_add]

theorem candidates_add (t : Template ρ) (k n : Nat) :
    t.candidates (k + n) = t.candidates k ++ (after next k t).candidates n := by
  rw [candidates, List.range_add, List.map_append, List.map_map]
  congr 1
  apply List.map_congr_left
  intro i _
  exact (t.candidate_after k i).symm

def NeverFails (t : Template ρ) : Prop :=
  forall k, exists candidate, (after next k t).next.1 = .ok candidate

theorem NeverFails.after {t : Template ρ} (h : t.NeverFails) (k : Nat) :
    (after next k t).NeverFails := by
  intro l
  rw [← after_add]
  exact h (k + l)

theorem next_after {t : Template ρ} (h : t.NeverFails) (k : Nat) :
    (after next k t).next = (.ok (t.candidate k), after next (k + 1) t) := by
  rcases h k with ⟨candidate, hcandidate⟩
  have hfst : (after next k t).next.1 = .ok (t.candidate k) := by
    rw [Template.candidate, hcandidate]
    rfl
  exact Prod.ext hfst (after_succ_eq_next next k t).symm

def Fits (t : Template ρ) : Prop :=
  forall s, s ∈ t.segments -> s.Fits

instance (t : Template ρ) : Decidable t.Fits :=
  inferInstanceAs (Decidable (forall s, s ∈ t.segments -> s.Fits))

theorem segments_after_of_fits {t : Template ρ} (h : t.Fits) (k : Nat) :
    (after next k t).segments = t.segments.map (after Segment.next k) := by
  rw [after_next, Segment.after_nextAll]
  apply List.ext_getElem?
  intro i
  rw [List.getElem?_mapIdx, List.getElem?_map]
  cases hs : t.segments[i]? with
  | none =>
      rfl
  | some s =>
      have hi : i < Segment.firstMisfit t.segments := by
        rw [Segment.firstMisfit_of_fits h]
        exact (List.getElem?_eq_some_iff.mp hs).choose
      simp [hi]

theorem next_fst_after_of_fits {t : Template ρ} (h : t.Fits) (k : Nat) :
    (after next k t).next.1 =
      .ok (t.segments.flatMap fun s => (after Segment.next k s).piece) := by
  have hfits : forall s, s ∈ (after next k t).segments -> s.Fits := by
    rw [segments_after_of_fits h]
    intro s hs
    rcases List.mem_map.mp hs with ⟨r, hr, rfl⟩
    exact after_preserves (fun s => (Segment.fits_next s).mpr) k (h r hr)
  have hnext := Segment.nextAll_fst_of_fits hfits
  rw [segments_after_of_fits h, List.flatMap_map] at hnext
  rw [← hnext, ← segments_after_of_fits h]
  rfl

theorem neverFails_of_fits {t : Template ρ} (h : t.Fits) : t.NeverFails :=
  fun k => ⟨_, next_fst_after_of_fits h k⟩

theorem candidate_of_fits {t : Template ρ} (h : t.Fits) (k : Nat) :
    t.candidate k = t.segments.flatMap fun s => (after Segment.next k s).piece := by
  rw [candidate, next_fst_after_of_fits h]
  rfl

end Template
end Moniker
