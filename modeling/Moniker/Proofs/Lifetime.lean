import Moniker.Proofs.Course
import Moniker.Proofs.Template.Plan
import Moniker.Random.Stream
import Mathlib.Data.ENat.Basic

/-!
# How long a template is live

Every segment of a template that was just compiled has a lifetime: the number of
steps after which it is no longer live.  It is told by the fragment and its data
alone.  A template is live for as long as one of its segments that are no
resolvers.
-/

namespace Moniker

variable {ρ : Type} [Chance ρ]

/-!
# Lifetimes
-/

/-- The number of steps that a segment is live for, if it moves on at every step. -/
def Source.lifetime : Source ρ -> ℕ∞
  | .literal _ | .whole _ | .part _ => 1
  | .sample s => (min (5 * s.alternatives) Capacity.max : Nat)
  | .counter c =>
      match c.alternatives? with
      | some n => (n : ℕ∞)
      | none => ⊤

/-- The lifetime of the segment at a place of a template.  The leftmost segment
that does not fit, and all behind it, never move on. -/
def Template.lifetime (t : Template ρ) (place : Nat) (s : Segment ρ) : ℕ∞ :=
  if place < Segment.firstMisfit t.segments then s.source.lifetime else ⊤

def Source.Fresh : Source ρ -> Prop
  | .literal f | .whole f => f.live = true
  | .sample s => s.given = 0
  | .part x => x.live = true
  | .counter c => c.count = 0 ∧ c.live = true

/-!
# Fixed segments and excerpts

Both are live until their first step.
-/

theorem Fixed.live_after {f : Fixed} (h : f.live = true) (k : Nat) :
    (after next k f).live = true <-> k = 0 := by
  cases k with
  | zero =>
      simp [h]
  | succ k =>
      rw [after_succ_eq_next]
      simp [next]

theorem Excerpt.live_after {x : Excerpt} (hfits : x.span.Fits x.data.length)
    (hlive : x.live = true) (k : Nat) : (after next k x).live = true <-> k = 0 := by
  cases k with
  | zero =>
      simp [hlive]
  | succ k =>
      have hafter : (after next k x).span.Fits (after next k x).data.length := by
        apply after_preserves (P := fun x : Excerpt => x.span.Fits x.data.length) _ k hfits
        intro x hx
        rcases next_of_fits hx with ⟨piece, hnext⟩
        rw [hnext]
        exact hx
      rcases next_of_fits hafter with ⟨piece, hnext⟩
      rw [after_succ_eq_next, hnext]
      simp

/-!
# Samples

A sample counts what it gave, up to the largest count, and its limit is at most
that.
-/

theorem Sample.alphabet_ne_nil {ρ : Type} {s : Sample ρ} (h : s.complete = true) :
    s.alphabet ≠ [] := by
  simp only [complete, Bool.and_eq_true] at h
  simpa using h.left

theorem Sample.next_snd {s : Sample ρ} (h : s.alphabet ≠ []) :
    exists stream, s.next.2 =
      { s with stream := stream, given := min (s.given + 1) Capacity.max } := by
  have hpos : 0 < s.alphabet.length := List.length_pos_iff.mpr h
  exact ⟨(draw s.alphabet hpos s.length s.stream).2, by simp [next, hpos]⟩

theorem Sample.after_eq {s : Sample ρ} (halphabet : s.alphabet ≠ []) (hgiven : s.given = 0)
    (k : Nat) :
    exists stream, after next k s = { s with stream := stream, given := min k Capacity.max } := by
  induction k with
  | zero =>
      exists s.stream
      cases s with
      | mk alphabet length stream given =>
          cases hgiven
          rfl
  | succ k ih =>
      rcases ih with ⟨stream, ih⟩
      rw [after_succ_eq_next, ih]
      have hnext := Sample.next_snd (s := { s with stream := stream, given := min k Capacity.max })
        halphabet
      rcases hnext with ⟨stream', hnext⟩
      exists stream'
      rw [hnext]
      have hgiven : min (min k Capacity.max + 1) Capacity.max = min (k + 1) Capacity.max := by
        omega
      rw [hgiven]

theorem Sample.alternatives_pos {ρ : Type} {s : Sample ρ} (h : s.alphabet ≠ []) :
    0 < s.alternatives := by
  unfold Sample.alternatives
  cases hn : Capacity.power? s.alphabet.length s.length with
  | none =>
      decide
  | some n =>
      exact Capacity.pos_of_power? (List.length_pos_iff.mpr h) hn

theorem Sample.limit_eq {ρ : Type} (s : Sample ρ) :
    s.limit = min (5 * s.alternatives) Capacity.max := rfl

theorem Sample.live_after {s : Sample ρ} (halphabet : s.alphabet ≠ []) (hgiven : s.given = 0)
    (k : Nat) : (after next k s).live = true <-> k < s.limit := by
  rcases Sample.after_eq halphabet hgiven k with ⟨stream, hafter⟩
  have hlive : (after next k s).live = decide (min k Capacity.max < s.limit) := by
    rw [hafter]
    rfl
  have hlimit : s.limit ≤ Capacity.max := by
    rw [Sample.limit_eq]
    exact Nat.min_le_right _ _
  rw [hlive, decide_eq_true_iff]
  omega

/-!
# Counters

A counter with `n` numerals stands at `k` modulo `n` after `k` steps, and the
first `n` steps are those that do not bring it back to zero.
-/

namespace Counter

def countAt (c : Counter) (k : Nat) : Nat :=
  match c.alternatives? with
  | some n => k % n
  | none => min k Capacity.max

def liveAt (c : Counter) (k : Nat) : Bool :=
  match c.alternatives? with
  | some n => k < n
  | none => true

theorem digits_ne_nil {c : Counter} (h : c.complete = true) : c.digits ≠ [] := by
  simp only [complete, Bool.and_eq_true] at h
  simpa using h.left

theorem next_snd {c : Counter} (h : c.digits ≠ []) :
    c.next.2 = { c with count := c.successor, live := c.live && c.successor != 0 } := by
  cases hdigits : c.digits with
  | nil =>
      exact absurd hdigits h
  | cons zero digits =>
      simp [next, hdigits]

theorem alternatives_pos {c : Counter} (h : c.digits ≠ []) {n : Nat}
    (hn : c.alternatives? = some n) : 0 < n :=
  Capacity.pos_of_power? (List.length_pos_iff.mpr h) hn

theorem successor_eq_countAt {c : Counter} {k : Nat} (h : c.count = c.countAt k) :
    c.successor = c.countAt (k + 1) := by
  unfold successor countAt at *
  cases hn : c.alternatives? with
  | none =>
      simp only [hn] at h
      simp only [h]
      omega
  | some n =>
      simp only [hn] at h
      simp only [h, Nat.mod_add_mod]

theorem liveAt_succ {c : Counter} (hdigits : c.digits ≠ []) (k : Nat) :
    c.liveAt (k + 1) = (c.liveAt k && c.countAt (k + 1) != 0) := by
  unfold liveAt countAt
  cases hn : c.alternatives? with
  | none =>
      have hmax : min (k + 1) Capacity.max ≠ 0 := by
        simp [Capacity.max]
      simp [hmax]
  | some n =>
      have hpos : 0 < n := alternatives_pos hdigits hn
      by_cases hlt : k + 1 < n
      · simp [Nat.mod_eq_of_lt hlt, hlt, Nat.lt_of_succ_lt hlt]
      · by_cases heq : k + 1 = n
        · simp [heq]
        · simp [hlt]
          omega

theorem countAt_zero (c : Counter) : c.countAt 0 = 0 := by
  unfold countAt
  cases c.alternatives? with
  | none =>
      exact Nat.zero_min _
  | some n =>
      exact Nat.zero_mod n

theorem liveAt_zero {c : Counter} (hdigits : c.digits ≠ []) : c.liveAt 0 = true := by
  unfold liveAt
  cases hn : c.alternatives? with
  | none =>
      rfl
  | some n =>
      exact decide_eq_true (alternatives_pos hdigits hn)

theorem after_eq {c : Counter} (hdigits : c.digits ≠ []) (hcount : c.count = 0)
    (hlive : c.live = true) (k : Nat) :
    after next k c = { c with count := c.countAt k, live := c.liveAt k } := by
  induction k with
  | zero =>
      rw [countAt_zero, liveAt_zero hdigits]
      cases c with
      | mk digits width count live =>
          cases hcount
          cases hlive
          rfl
  | succ k ih =>
      have hsuccessor : successor { c with count := c.countAt k, live := c.liveAt k } =
          c.countAt (k + 1) :=
        successor_eq_countAt (c := { c with count := c.countAt k, live := c.liveAt k }) rfl
      have hnext := next_snd (c := { c with count := c.countAt k, live := c.liveAt k }) hdigits
      rw [after_succ_eq_next, ih, hnext, hsuccessor, liveAt_succ hdigits]

end Counter

/-!
# Segments
-/

namespace Source

theorem lt_lifetime_counter {ρ : Type} (c : Counter) (k : Nat) :
    (k : ℕ∞) < (counter c : Source ρ).lifetime <-> c.liveAt k = true := by
  cases hn : c.alternatives? with
  | none =>
      simp [lifetime, Counter.liveAt, hn]
  | some n =>
      simp [lifetime, Counter.liveAt, hn]

theorem live_after {source : Source ρ} (hfresh : source.Fresh) (hcomplete : source.complete = true)
    (hfits : source.Fits) (k : Nat) :
    (after next k source).live = true <-> (k : ℕ∞) < source.lifetime := by
  have hone : k = 0 <-> (k : ℕ∞) < 1 := by
    simp
  cases source with
  | literal f =>
      rw [after_map (f := literal) (fun _ => rfl)]
      show (after Fixed.next k f).live = true <-> (k : ℕ∞) < 1
      rw [Fixed.live_after hfresh, hone]
  | whole f =>
      rw [after_map (f := whole) (fun _ => rfl)]
      show (after Fixed.next k f).live = true <-> (k : ℕ∞) < 1
      rw [Fixed.live_after hfresh, hone]
  | part x =>
      rw [after_map (f := part) (fun _ => rfl)]
      show (after Excerpt.next k x).live = true <-> (k : ℕ∞) < 1
      rw [Excerpt.live_after hfits hfresh, hone]
  | sample s =>
      have halphabet : s.alphabet ≠ [] := Sample.alphabet_ne_nil hcomplete
      rw [after_map (f := sample) (fun _ => rfl)]
      show (after Sample.next k s).live = true <-> _
      rw [Sample.live_after halphabet hfresh]
      exact ENat.natCast_lt_natCast.symm
  | counter c =>
      have hdigits : c.digits ≠ [] := Counter.digits_ne_nil hcomplete
      rw [after_map (f := counter) (fun _ => rfl),
        Counter.after_eq hdigits hfresh.left hfresh.right, lt_lifetime_counter]
      rfl

theorem live_of_fresh {ρ : Type} {source : Source ρ} (hfresh : source.Fresh)
    (hcomplete : source.complete = true) : source.live = true := by
  cases source with
  | literal f | whole f | part x =>
      exact hfresh
  | counter c =>
      exact hfresh.right
  | sample s =>
      have halphabet : s.alphabet ≠ [] := Sample.alphabet_ne_nil hcomplete
      have hlimit : 0 < s.limit := by
        rw [Sample.limit_eq]
        apply Nat.lt_min.mpr
        exact ⟨Nat.mul_pos (by decide) (Sample.alternatives_pos halphabet), by decide⟩
      show decide (s.given < s.limit) = true
      rw [hfresh]
      exact decide_eq_true hlimit

theorem fresh_ofForm {ρ : Type} (text data : Text) (stream : ρ) (form : Form) :
    (ofForm text data stream form).Fresh := by
  cases form with
  | literal payload =>
      rfl
  | data key use =>
      cases use with
      | whole | sample length | part span =>
          rfl
      | counter width =>
          exact ⟨rfl, rfl⟩

end Source

/-!
# Templates
-/

namespace Segment

theorem after_eq (s : Segment ρ) (k : Nat) :
    after next k s = { s with source := after Source.next k s.source } :=
  after_map (f := fun source => { s with source := source }) (fun _ => rfl) k s.source

/-- What a segment contributes to the life of its template: whether it is a
resolver, its lifetime, and whether it stops the row. -/
def outlook (s : Segment ρ) : Bool × ℕ∞ × Bool :=
  (s.resolver, s.source.lifetime, decide (¬ s.Fits))

theorem firstMisfit_eq_outlook {ρ : Type} (row : List (Segment ρ)) :
    firstMisfit row = (row.map outlook).findIdx fun outlook => outlook.2.2 := by
  rw [List.findIdx_map]
  rfl

theorem outlook_segment {ρ : Type} (part : Part) (stream stream' : ρ) :
    (part.segment stream).outlook = (part.segment stream').outlook := by
  rcases part with ⟨⟨text, resolver, form⟩, data⟩
  cases form with
  | literal payload =>
      rfl
  | data key use =>
      cases use with
      | whole | sample length | part span | counter width =>
          rfl

theorem resolver_after (s : Segment ρ) (k : Nat) : (after next k s).resolver = s.resolver := by
  rw [after_eq]

end Segment

namespace Template

def Fresh (t : Template ρ) : Prop :=
  forall s, s ∈ t.segments -> s.source.Fresh ∧ s.source.complete = true

theorem fresh_of_compile {master : ρ} {source : Text} {bindings : Bindings} {t : Template ρ}
    (h : compile master source bindings = .ok t) : t.Fresh := by
  intro s hs
  rcases segment_of_compile h hs with ⟨part, stream, hcomplete, rfl⟩
  constructor
  · exact Source.fresh_ofForm _ _ _ _
  · have hsegment : (part.segment stream).complete = true := by
      rw [Part.complete_segment, hcomplete]
    simp only [Segment.complete, Bool.and_eq_true] at hsegment
    exact hsegment.left

theorem live_segment_after {t : Template ρ} (h : t.Fresh) {place : Nat} {s : Segment ρ}
    (hs : t.segments[place]? = some s) (k : Nat) :
    (if place < Segment.firstMisfit t.segments then after Segment.next k s else s).live = true <->
      (k : ℕ∞) < t.lifetime place s := by
  rcases h s (List.mem_of_getElem? hs) with ⟨hfresh, hcomplete⟩
  unfold lifetime
  by_cases hplace : place < Segment.firstMisfit t.segments
  · have hfits : s.Fits := by
      rcases List.getElem?_eq_some_iff.mp hs with ⟨hlt, hget⟩
      have hnot := List.not_of_lt_findIdx hplace
      simpa [hget] using hnot
    rw [if_pos hplace, if_pos hplace, Segment.after_eq]
    exact Source.live_after hfresh hcomplete hfits k
  · rw [if_neg hplace, if_neg hplace]
    have hlive : s.live = true := Source.live_of_fresh hfresh hcomplete
    simp [hlive]

theorem live_after_iff {t : Template ρ} (h : t.Fresh) (k : Nat) :
    (after next k t).live = true <->
      exists place s, t.segments[place]? = some s ∧ s.resolver = false ∧
        (k : ℕ∞) < t.lifetime place s := by
  rw [after_next, live, Segment.after_nextAll, List.any_eq_true]
  constructor
  · intro hany
    rcases hany with ⟨s', hmem, hlive⟩
    rcases List.mem_iff_getElem?.mp hmem with ⟨place, hplace⟩
    rw [List.getElem?_mapIdx] at hplace
    rcases Option.map_eq_some_iff.mp hplace with ⟨s, hs, rfl⟩
    exists place, s
    simp only [Bool.and_eq_true, Bool.not_eq_true'] at hlive
    refine ⟨hs, ?_, (live_segment_after h hs k).mp hlive.right⟩
    have hresolver := hlive.left
    split at hresolver
    · rwa [Segment.resolver_after] at hresolver
    · exact hresolver
  · intro hexists
    rcases hexists with ⟨place, s, hs, hresolver, hlt⟩
    exists if place < Segment.firstMisfit t.segments then after Segment.next k s else s
    constructor
    · apply List.mem_iff_getElem?.mpr
      exists place
      rw [List.getElem?_mapIdx, hs]
      rfl
    · rw [(live_segment_after h hs k).mpr hlt]
      split
      · rw [Segment.resolver_after, hresolver]
        rfl
      · rw [hresolver]
        rfl

/-!
Compiling the same text with the same bindings gives segments that differ in
their random streams only, and no lifetime depends on a stream.
-/

theorem live_after_congr {t t' : Template ρ} (h : t.Fresh) (h' : t'.Fresh)
    (hsegments : t'.segments.map Segment.outlook = t.segments.map Segment.outlook) {k : Nat}
    (hlive : (after next k t).live = true) : (after next k t').live = true := by
  rcases (live_after_iff h k).mp hlive with ⟨place, s, hs, hresolver, hlt⟩
  have hplace : (t'.segments.map Segment.outlook)[place]? = some s.outlook := by
    rw [hsegments, List.getElem?_map, hs]
    rfl
  rw [List.getElem?_map] at hplace
  rcases Option.map_eq_some_iff.mp hplace with ⟨s', hs', houtlook⟩
  have hmisfit : Segment.firstMisfit t'.segments = Segment.firstMisfit t.segments := by
    rw [Segment.firstMisfit_eq_outlook, Segment.firstMisfit_eq_outlook, hsegments]
  apply (live_after_iff h' k).mpr
  refine ⟨place, s', hs', ?_, ?_⟩
  · rw [← hresolver]
    exact congrArg Prod.fst houtlook
  · have hsource : s'.source.lifetime = s.source.lifetime :=
      congrArg (fun outlook => outlook.2.1) houtlook
    rw [lifetime, hmisfit, hsource]
    exact hlt

/-- A compiled template is live for the longest lifetime of its segments that are
no resolvers.  So it never comes back to life, resolvers alone do not make it
live, and the random streams have no say in it. -/
theorem live_after_compile {master : ρ} {source : Text} {bindings : Bindings} {t : Template ρ}
    (h : compile master source bindings = .ok t) :
    (forall k, (after next k t).live = true <->
      exists place s, t.segments[place]? = some s ∧ s.resolver = false ∧
        (k : ℕ∞) < t.lifetime place s) ∧
      (forall k l, k ≤ l -> (after next k t).live = false -> (after next l t).live = false) ∧
      ((forall s, s ∈ t.segments -> s.resolver = true) -> t.live = false) ∧
      (forall (master' : ρ) t', compile master' source bindings = .ok t' ->
        forall k, (after next k t').live = (after next k t).live) := by
  have hfresh : t.Fresh := fresh_of_compile h
  refine ⟨live_after_iff hfresh, ?_, ?_, ?_⟩
  · intro k l hkl hdead
    apply Bool.eq_false_iff.mpr
    intro hlive
    rcases (live_after_iff hfresh l).mp hlive with ⟨place, s, hs, hresolver, hlt⟩
    have hk : (k : ℕ∞) < t.lifetime place s :=
      lt_of_le_of_lt (ENat.natCast_le_natCast.mpr hkl) hlt
    rw [(live_after_iff hfresh k).mpr ⟨place, s, hs, hresolver, hk⟩] at hdead
    cases hdead
  · intro hresolvers
    apply Bool.eq_false_iff.mpr
    intro hlive
    rcases (live_after_iff hfresh 0).mp hlive with ⟨place, s, hs, hresolver, _⟩
    rw [hresolvers s (List.mem_of_getElem? hs)] at hresolver
    cases hresolver
  · intro master' t' h' k
    have hfresh' : t'.Fresh := fresh_of_compile h'
    have hsegments := map_segments_of_compile Segment.outlook_segment h h'
    apply Bool.eq_iff_iff.mpr
    constructor
    · exact live_after_congr hfresh' hfresh hsegments
    · exact live_after_congr hfresh hfresh' hsegments.symm

/-- Five times the two letters of the sample; the numerals of the resolver do not count. -/
theorem live_after_compile_sample :
    exists t, compile (Stream.ofSeed 3) "b+:[n++]".toList
        { entries := [('b', "ab".toList), ('n', "01".toList)] } = .ok t ∧
      forall k, (after next k t).live = true <-> k < 10 := by
  generalize Stream.ofSeed 3 = master
  have hcompile := compile_eq_plan master "b+:[n++]".toList
    { entries := [('b', "ab".toList), ('n', "01".toList)] }
  refine ⟨_, hcompile, ?_⟩
  intro k
  rw [(live_after_compile hcompile).left k]
  constructor
  · intro h
    rcases h with ⟨place, s, hs, hresolver, hlt⟩
    cases place with
    | zero =>
        cases hs
        exact ENat.natCast_lt_natCast.mp hlt
    | succ place =>
        cases place with
        | zero =>
            cases hs
            cases hresolver
        | succ place =>
            cases hs
  · intro h
    exact ⟨0, _, rfl, rfl, ENat.natCast_lt_natCast.mpr h⟩

end Template
end Moniker
