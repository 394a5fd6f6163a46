import Moniker.Proofs.Course
import Moniker.Proofs.Template.Plan

/-!
# Templates that fail

A step of a template fails if one of its excerpts does not fit its data, and
reports the leftmost one.  The segments before that one have moved on then, it
and those behind it have not.  No step changes which segments fit, so a template
fails at every step, and always in the same way, or at none.
-/

namespace Moniker

variable {ρ : Type} [Chance ρ]

/-!
# Rows with a misfit
-/

namespace Segment

theorem fits_or_leftmost_misfit {ρ : Type} (row : List (Segment ρ)) :
    (forall s, s ∈ row -> s.Fits) ∨
      exists before s behind failure, row = before ++ s :: behind ∧
        (forall r, r ∈ before -> r.Fits) ∧ s.Misfits failure := by
  induction row with
  | nil =>
      exact Or.inl fun s hs => absurd hs List.not_mem_nil
  | cons s row ih =>
      by_cases hs : s.Fits
      · rcases ih with hfits | ⟨before, r, behind, failure, rfl, hbefore, hr⟩
        · exact Or.inl (List.forall_mem_cons.mpr ⟨hs, hfits⟩)
        · exact Or.inr ⟨s :: before, r, behind, failure, rfl,
            List.forall_mem_cons.mpr ⟨hs, hbefore⟩, hr⟩
      · rcases exists_misfits_of_not_fits hs with ⟨failure, hmisfits⟩
        exact Or.inr ⟨[], s, row, failure, rfl, fun r hr => absurd hr List.not_mem_nil, hmisfits⟩

/-- The segments before the leftmost misfit move on, and nothing else does. -/
theorem nextAll_of_leftmost_misfit {before behind : List (Segment ρ)} {s : Segment ρ}
    {failure : Failure} (hbefore : forall r, r ∈ before -> r.Fits) (hs : s.Misfits failure) :
    nextAll (before ++ s :: behind) =
      (.error failure, before.map (fun r => r.next.2) ++ s :: behind) := by
  induction before with
  | nil =>
      exact nextAll_cons_of_misfits behind hs
  | cons r before ih =>
      have hrest := ih fun r' hr' => hbefore r' (List.mem_cons_of_mem r hr')
      rw [List.cons_append, nextAll_cons_of_fits _ (hbefore r List.mem_cons_self), hrest]
      rfl

theorem forall_mem_nextAll {P : Segment ρ -> Prop} (h : forall s, P s -> P s.next.2)
    {row : List (Segment ρ)} (hrow : forall s, s ∈ row -> P s) :
    forall s, s ∈ (nextAll row).2 -> P s := by
  intro s hs
  rw [nextAll_snd] at hs
  rcases List.mem_mapIdx.mp hs with ⟨i, hi, rfl⟩
  split
  · exact h _ (hrow _ (List.getElem_mem hi))
  · exact hrow _ (List.getElem_mem hi)

end Segment

/-!
# Templates with a misfit
-/

namespace Template

theorem forall_mem_after {P : Segment ρ -> Prop} (h : forall s, P s -> P s.next.2) {t : Template ρ}
    (ht : forall s, s ∈ t.segments -> P s) (k : Nat) :
    forall s, s ∈ (after next k t).segments -> P s :=
  after_preserves (P := fun t : Template ρ => forall s, s ∈ t.segments -> P s)
    (fun _ => Segment.forall_mem_nextAll h) k ht

/-- The segment behind `before` is the leftmost misfit of the template. -/
structure Breaks (t : Template ρ) (before : List (Segment ρ)) (s : Segment ρ)
    (behind : List (Segment ρ)) (failure : Failure) : Prop where
  segments_eq : t.segments = before ++ s :: behind
  before_fits : forall r, r ∈ before -> r.Fits
  misfits : s.Misfits failure

variable {t : Template ρ} {before behind : List (Segment ρ)} {s : Segment ρ} {failure : Failure}

theorem fits_or_breaks {ρ : Type} (t : Template ρ) :
    t.Fits ∨ exists before s behind failure, t.Breaks before s behind failure := by
  rcases Segment.fits_or_leftmost_misfit t.segments with
    hfits | ⟨before, s, behind, failure, hsegments, hbefore, hs⟩
  · exact Or.inl hfits
  · exact Or.inr ⟨before, s, behind, failure, hsegments, hbefore, hs⟩

namespace Breaks

theorem mem_segments {ρ : Type} {t : Template ρ} {before behind : List (Segment ρ)}
    {s : Segment ρ} (h : t.Breaks before s behind failure) : s ∈ t.segments := by
  rw [h.segments_eq]
  exact List.mem_append_right before List.mem_cons_self

theorem next_eq (h : t.Breaks before s behind failure) :
    t.next = (.error failure,
      { t with segments := before.map (fun r => r.next.2) ++ s :: behind }) := by
  rw [next, h.segments_eq, Segment.nextAll_of_leftmost_misfit h.before_fits h.misfits]

theorem next_breaks (h : t.Breaks before s behind failure) :
    t.next.2.Breaks (before.map fun r => r.next.2) s behind failure where
  segments_eq := by
    rw [h.next_eq]
  before_fits := by
    intro r hr
    rcases List.mem_map.mp hr with ⟨r', hr', rfl⟩
    exact (Segment.fits_next r').mpr (h.before_fits r' hr')
  misfits := h.misfits

theorem fails (h : t.Breaks before s behind failure) (k : Nat) :
    (after next k t).next.1 = .error failure := by
  induction k generalizing t before with
  | zero =>
      rw [after_zero, h.next_eq]
  | succ k ih =>
      exact ih h.next_breaks

end Breaks

theorem next_eq_error_iff :
    t.next.1 = .error failure <-> exists before s behind, t.Breaks before s behind failure := by
  constructor
  · intro h
    rcases fits_or_breaks t with hfits | ⟨before, s, behind, failure', hbreaks⟩
    · rcases neverFails_of_fits hfits 0 with ⟨candidate, hcandidate⟩
      rw [after_zero, h] at hcandidate
      cases hcandidate
    · rw [hbreaks.next_eq] at h
      cases h
      exact ⟨before, s, behind, hbreaks⟩
  · intro h
    rcases h with ⟨before, s, behind, hbreaks⟩
    exact hbreaks.fails 0

theorem fails_or_neverFails (t : Template ρ) :
    (exists failure, forall k, (after next k t).next.1 = .error failure) ∨ t.NeverFails := by
  rcases fits_or_breaks t with hfits | ⟨before, s, behind, failure, hbreaks⟩
  · exact Or.inr (neverFails_of_fits hfits)
  · exact Or.inl ⟨failure, hbreaks.fails⟩

theorem next_error_of_after {k : Nat} (h : (after next k t).next.1 = .error failure) :
    t.next.1 = .error failure := by
  rcases t.fails_or_neverFails with ⟨failure', hfails⟩ | hnever
  · rw [hfails k] at h
    cases h
    exact hfails 0
  · rcases hnever k with ⟨candidate, hcandidate⟩
    rw [hcandidate] at h
    cases h

theorem fits_of_neverFails (h : t.NeverFails) : t.Fits := by
  rcases fits_or_breaks t with hfits | ⟨before, s, behind, failure, hbreaks⟩
  · exact hfits
  · rcases h 0 with ⟨candidate, hcandidate⟩
    rw [hbreaks.fails 0] at hcandidate
    cases hcandidate

theorem fails_iff_misfit :
    (exists failure, t.next.1 = .error failure) <->
      exists s x, s ∈ t.segments ∧ s.source = .part x ∧ ¬ x.span.Fits x.data.length := by
  constructor
  · intro h
    rcases h with ⟨failure, hfailure⟩
    rcases next_eq_error_iff.mp hfailure with ⟨before, s, behind, hbreaks⟩
    rcases hbreaks.misfits with ⟨x, hx, hfits, _⟩
    exact ⟨s, x, hbreaks.mem_segments, hx, hfits⟩
  · intro h
    rcases h with ⟨s, x, hs, hx, hfits⟩
    rcases fits_or_breaks t with hall | ⟨before, r, behind, failure, hbreaks⟩
    · have hmisfits : s.Misfits x.misfit := ⟨x, hx, hfits, rfl⟩
      exact absurd (hall s hs) hmisfits.not_fits
    · exact ⟨failure, hbreaks.fails 0⟩

end Template

/-!
# The fragment that is reported

The excerpts of a compiled template know the text of their fragment.
-/

def Segment.Labelled (s : Segment ρ) : Prop :=
  forall x, s.source = .part x -> x.fragment = s.text

theorem Excerpt.fragment_next (x : Excerpt) : x.next.2.fragment = x.fragment := by
  unfold next
  cases x.value with
  | ok s | error failure =>
      rfl

theorem Segment.Labelled.next {s : Segment ρ} (h : s.Labelled) : s.next.2.Labelled := by
  rcases s with ⟨text, resolver, source⟩
  intro x hx
  cases source with
  | part y =>
      cases hx
      rw [Excerpt.fragment_next]
      exact h y rfl
  | literal f | whole f | sample y | counter c =>
      cases hx

namespace Template

theorem labelled_of_compile {master : ρ} {source : Text} {bindings : Bindings}
    {t : Template ρ} (h : compile master source bindings = .ok t) :
    forall s, s ∈ t.segments -> s.Labelled := by
  intro s hs
  rcases segment_of_compile h hs with ⟨⟨⟨text, resolver, form⟩, data⟩, stream, _, rfl⟩
  intro x hx
  cases form with
  | literal payload =>
      cases hx
  | data key use =>
      cases use with
      | part span =>
          cases hx
          rfl
      | whole | sample length | counter width =>
          cases hx

end Template
end Moniker
