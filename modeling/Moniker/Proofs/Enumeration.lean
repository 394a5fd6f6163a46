import Moniker.Proofs.Lifetime
import Moniker.Proofs.Numerals
import Moniker.Proofs.Template.Compilation

/-!
# Templates around one counter

When nothing but one counter changes in a template, its candidates are the
numerals of the counter between two fixed texts, and the template is live until
all of them were given.
-/

namespace Moniker

variable {ρ : Type} [Chance ρ]

/-!
# Constant segments

Literals, whole data and excerpts give the same piece at every step.
-/

def Source.Constant : Source ρ -> Prop
  | .literal _ | .whole _ | .part _ => True
  | .sample _ | .counter _ => False

theorem Excerpt.next_fst (x : Excerpt) : x.next.1 = x.value := by
  unfold next
  cases x.value with
  | ok s =>
      rfl
  | error failure =>
      rfl

theorem Excerpt.value_next (x : Excerpt) : x.next.2.value = x.value := by
  unfold next
  cases hvalue : x.value with
  | ok s =>
      exact hvalue
  | error failure =>
      exact hvalue

theorem Source.next_of_constant {source : Source ρ} (h : source.Constant) :
    source.next.2.Constant ∧ source.next.2.next.1 = source.next.1 := by
  cases source with
  | literal f | whole f =>
      exact ⟨trivial, rfl⟩
  | part x =>
      constructor
      · exact trivial
      · change x.next.2.next.1 = x.next.1
        rw [Excerpt.next_fst, Excerpt.next_fst, Excerpt.value_next]
  | sample x | counter c =>
      cases h

theorem Source.lifetime_of_constant {ρ : Type} {source : Source ρ} (h : source.Constant) :
    source.lifetime = 1 := by
  cases source with
  | literal f | whole f | part x =>
      rfl
  | sample x | counter c =>
      cases h

theorem Segment.piece_after {s : Segment ρ} (h : s.source.Constant) (k : Nat) :
    (after next k s).piece = s.piece := by
  induction k generalizing s with
  | zero =>
      rfl
  | succ k ih =>
      rcases Source.next_of_constant h with ⟨hconstant, hpiece⟩
      have hstep : s.next.2.piece = s.piece := by
        show (s.source.next.2.next.1).toOption.getD [] = (s.source.next.1).toOption.getD []
        rw [hpiece]
      rw [after_succ, ih hconstant, hstep]

theorem Segment.flatMap_piece_after {row : List (Segment ρ)}
    (h : forall r, r ∈ row -> r.source.Constant) (k : Nat) :
    row.flatMap (fun r => (after Segment.next k r).piece) = row.flatMap Segment.piece := by
  apply List.flatMap_congr
  intro r hr
  exact Segment.piece_after (h r hr) k

/-!
# Numerals between constants
-/

theorem Counter.piece_after {c : Counter} (hcount : c.count = 0) (hlive : c.live = true)
    {zero : Char} {digits : Text} (hdigits : c.digits = zero :: digits) (k : Nat) :
    (after next k c).next.1 = numeral zero c.digits c.width (c.countAt k) := by
  have hne : c.digits ≠ [] := by
    rw [hdigits]
    exact List.cons_ne_nil zero digits
  rw [after_eq hne hcount hlive, next]
  simp only [hdigits]
  rw [numeralOnto_eq_numeral, List.append_nil]

theorem Segment.piece_after_counter {s : Segment ρ} {c : Counter} (hs : s.source = .counter c)
    (hfresh : s.source.Fresh) {zero : Char} {digits : Text} (hdigits : c.digits = zero :: digits)
    (k : Nat) :
    (after next k s).piece = Counter.numeral zero c.digits c.width (c.countAt k) := by
  rw [hs] at hfresh
  rw [Segment.after_eq, hs, after_map (f := Source.counter) (fun _ => rfl)]
  exact Counter.piece_after hfresh.left hfresh.right hdigits k

def spelled (before behind : List (Segment ρ)) (w : Text) : Text :=
  before.flatMap Segment.piece ++ w ++ behind.flatMap Segment.piece

/-- A fresh template whose only changing segment is a counter that keeps it live. -/
structure Template.Around (t : Template ρ) (before : List (Segment ρ)) (s : Segment ρ) (c : Counter)
    (behind : List (Segment ρ)) : Prop where
  segments_eq : t.segments = before ++ s :: behind
  source_eq : s.source = .counter c
  resolver_eq : s.resolver = false
  constant : forall r, r ∈ before ++ behind -> r.source.Constant
  fits : t.Fits
  fresh : t.Fresh

namespace Template

variable {t : Template ρ} {before behind : List (Segment ρ)} {s : Segment ρ} {c : Counter} {n : Nat}

theorem lifetime_of_fits {ρ : Type} {t : Template ρ} (h : t.Fits) {place : Nat}
    {r : Segment ρ} (hr : t.segments[place]? = some r) :
    t.lifetime place r = r.source.lifetime := by
  rw [lifetime, Segment.firstMisfit_of_fits h]
  exact if_pos (List.getElem?_eq_some_iff.mp hr).choose

theorem lifetime_of_alternatives {ρ : Type} (hn : c.alternatives? = some n) :
    (Source.counter c : Source ρ).lifetime = (n : ℕ∞) := by
  simp [Source.lifetime, hn]

theorem Fresh.digits_ne_nil {ρ : Type} {t : Template ρ} {s : Segment ρ} (h : t.Fresh)
    (hs : s ∈ t.segments) (hsource : s.source = .counter c) : c.digits ≠ [] := by
  have hcomplete := (h s hs).right
  rw [hsource] at hcomplete
  exact Counter.digits_ne_nil hcomplete

theorem not_isCounter_of_mem {master : ρ} {source : Text} {bindings : Bindings}
    (h : compile master source bindings = .ok t) (hsegments : t.segments = before ++ s :: behind)
    (hs : s.source = .counter c) {r : Segment ρ} (hr : r ∈ before ++ behind) :
    r.source.isCounter ≠ true := by
  have hcounter : s.source.isCounter = true := by
    rw [hs]
    rfl
  have hone := oneCounter_of_compile h
  rw [hsegments] at hone
  rcases List.pairwise_append.mp hone with ⟨_, hbehind, hbefore⟩
  intro hcounter'
  rcases List.mem_append.mp hr with hleft | hright
  · exact hbefore r hleft s List.mem_cons_self ⟨hcounter', hcounter⟩
  · exact (List.pairwise_cons.mp hbehind).left r hright ⟨hcounter, hcounter'⟩

theorem eq_or_mem_of_mem_segments {ρ : Type} {t : Template ρ} {before behind : List (Segment ρ)}
    {r s : Segment ρ} (hsegments : t.segments = before ++ s :: behind) (hr : r ∈ t.segments) :
    r = s ∨ r ∈ before ++ behind := by
  rw [hsegments] at hr
  simpa [or_left_comm] using hr

theorem mem_segments_of_mem {ρ : Type} {t : Template ρ} {before behind : List (Segment ρ)}
    {r s : Segment ρ} (hsegments : t.segments = before ++ s :: behind)
    (hr : r ∈ before ++ behind) : r ∈ t.segments := by
  rw [hsegments]
  rcases List.mem_append.mp hr with hleft | hright
  · exact List.mem_append_left _ hleft
  · exact List.mem_append_right before (List.mem_cons_of_mem s hright)

theorem around_of_compile {master : ρ} {source : Text} {bindings : Bindings}
    (h : compile master source bindings = .ok t) (hfits : t.Fits)
    (hsamples : forall r, r ∈ t.segments -> forall x, r.source ≠ .sample x)
    (hsegments : t.segments = before ++ s :: behind) (hs : s.source = .counter c)
    (hresolver : s.resolver = false) : t.Around before s c behind where
  segments_eq := hsegments
  source_eq := hs
  resolver_eq := hresolver
  fits := hfits
  fresh := fresh_of_compile h
  constant := by
    intro r hr
    cases hsource : r.source with
    | literal f | whole f | part x =>
        exact trivial
    | sample x =>
        exact absurd hsource (hsamples r (mem_segments_of_mem hsegments hr) x)
    | counter c' =>
        have hcounter : r.source.isCounter = true := by
          rw [hsource]
          rfl
        exact absurd hcounter (not_isCounter_of_mem h hsegments hs hr)

namespace Around

theorem mem_segments {ρ : Type} {t : Template ρ} {before behind : List (Segment ρ)}
    {s : Segment ρ} (h : t.Around before s c behind) : s ∈ t.segments := by
  rw [h.segments_eq]
  exact List.mem_append_right before List.mem_cons_self

theorem digits_ne_nil {ρ : Type} {t : Template ρ} {before behind : List (Segment ρ)}
    {s : Segment ρ} (h : t.Around before s c behind) : c.digits ≠ [] :=
  h.fresh.digits_ne_nil h.mem_segments h.source_eq

theorem candidate_eq (h : t.Around before s c behind) {zero : Char} {digits : Text}
    (hdigits : c.digits = zero :: digits) (k : Nat) :
    t.candidate k =
      spelled before behind (Counter.numeral zero c.digits c.width (c.countAt k)) := by
  have hbefore : forall r, r ∈ before -> r.source.Constant :=
    fun r hr => h.constant r (List.mem_append_left behind hr)
  have hbehind : forall r, r ∈ behind -> r.source.Constant :=
    fun r hr => h.constant r (List.mem_append_right before hr)
  rw [candidate_of_fits h.fits, h.segments_eq, List.flatMap_append, List.flatMap_cons,
    Segment.flatMap_piece_after hbefore, Segment.flatMap_piece_after hbehind,
    Segment.piece_after_counter h.source_eq (h.fresh s h.mem_segments).left hdigits,
    spelled, List.append_assoc]

theorem candidates_eq (h : t.Around before s c behind) (hn : c.alternatives? = some n) {k : Nat}
    (hk : k ≤ n) :
    t.candidates k =
      ((Counter.numerals c.digits c.width).take k).map (spelled before behind) := by
  cases hdigits : c.digits with
  | nil =>
      exact absurd hdigits h.digits_ne_nil
  | cons zero digits =>
      have hpow : n = c.digits.length ^ c.width := Capacity.eq_pow_of_power? hn
      rw [candidates, ← hdigits, Counter.numerals_eq_map_numeral zero, ← List.map_take,
        List.take_range, ← hpow, Nat.min_eq_left hk, List.map_map]
      apply List.map_congr_left
      intro i hi
      have hcount : c.countAt i = i := by
        have hlt : i < n := Nat.lt_of_lt_of_le (List.mem_range.mp hi) hk
        simp [Counter.countAt, hn, Nat.mod_eq_of_lt hlt]
      rw [h.candidate_eq hdigits, hcount]
      rfl

theorem live_iff (h : t.Around before s c behind) (hn : c.alternatives? = some n) (k : Nat) :
    (after next k t).live = true <-> k < n := by
  have hpos : 0 < n := Counter.alternatives_pos h.digits_ne_nil hn
  have hplace : t.segments[before.length]? = some s := by
    rw [h.segments_eq, List.getElem?_append_right (Nat.le_refl _), Nat.sub_self]
    rfl
  rw [live_after_iff h.fresh]
  constructor
  · intro hexists
    rcases hexists with ⟨place, r, hr, _, hlt⟩
    rw [lifetime_of_fits h.fits hr] at hlt
    cases eq_or_mem_of_mem_segments h.segments_eq (List.mem_of_getElem? hr) with
    | inl heq =>
        rw [heq, h.source_eq, lifetime_of_alternatives hn] at hlt
        exact ENat.natCast_lt_natCast.mp hlt
    | inr hconstant =>
        rw [Source.lifetime_of_constant (h.constant r hconstant)] at hlt
        have hk : k < 1 := ENat.natCast_lt_natCast.mp hlt
        omega
  · intro hk
    refine ⟨before.length, s, hplace, h.resolver_eq, ?_⟩
    rw [lifetime_of_fits h.fits hplace, h.source_eq, lifetime_of_alternatives hn]
    exact ENat.natCast_lt_natCast.mpr hk

end Around
end Template
end Moniker
