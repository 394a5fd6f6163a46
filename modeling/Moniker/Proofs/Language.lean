import Moniker.Proofs.Generator.Succession
import Moniker.Random.Stream
import Mathlib.Data.List.GetD

/-!
# The language of a template

A template fixes what each of its segments may give: one text, a part of its
data, or some number of characters out of an alphabet.  Every candidate is spelled
in this way, segment after segment, and as the segments never change the number of
their characters, all candidates of a template are equally long.
-/

namespace Moniker

variable {ρ : Type} [Chance ρ]

/-!
# What a segment may give
-/

/-- The characters of the data that a span stands for. -/
def Span.Selects (data : Text) : Span -> Text -> Prop
  | .range start stop, piece =>
      exists before behind, data = before ++ piece ++ behind ∧ before.length = start ∧
        start + piece.length = stop
  | .last count, piece => exists before, data = before ++ piece ∧ piece.length = count
  | .toEnd start, piece => exists before, data = before ++ piece ∧ before.length = start

def Span.width (n : Nat) : Span -> Nat
  | .range start stop => stop - start
  | .last count => count
  | .toEnd start => n - start

namespace Source

def Spells : Source ρ -> Text -> Prop
  | .literal x, piece | .whole x, piece => piece = x.text
  | .part x, piece => x.span.Selects x.data piece
  | .sample s, piece => piece.length = s.length ∧ forall c, c ∈ piece -> c ∈ s.alphabet
  | .counter c, piece => piece.length = c.width ∧ forall d, d ∈ piece -> d ∈ c.digits

def width : Source ρ -> Nat
  | .literal x | .whole x => x.text.length
  | .part x => x.span.width x.data.length
  | .sample s => s.length
  | .counter c => c.width

end Source

theorem Span.Selects.length_eq {data piece : Text} {span : Span} (h : span.Selects data piece) :
    piece.length = span.width data.length := by
  cases span with
  | range start stop =>
      rcases h with ⟨before, behind, _, _, hstop⟩
      rw [width, ← hstop, Nat.add_sub_cancel_left]
  | last count =>
      rcases h with ⟨before, _, hcount⟩
      exact hcount
  | toEnd start =>
      rcases h with ⟨before, rfl, rfl⟩
      rw [width, List.length_append, Nat.add_sub_cancel_left]

theorem Source.Spells.length_eq {ρ : Type} {source : Source ρ} {piece : Text}
    (h : source.Spells piece) :
    piece.length = source.width := by
  cases source with
  | literal x | whole x =>
      exact congrArg List.length h
  | part x =>
      exact Span.Selects.length_eq h
  | sample s | counter c =>
      exact h.left

/-!
# Excerpts
-/

namespace Excerpt

theorem eq_append_slice {start stop : Nat} (hstart : start ≤ stop) (s : Text) :
    s = s.take start ++ slice start stop s ++ s.drop stop := by
  have hrest : s.drop stop = (s.drop start).drop (stop - start) := by
    rw [List.drop_drop, Nat.add_sub_cancel' hstart]
  rw [slice, hrest, List.append_assoc, List.take_append_drop, List.take_append_drop]

theorem length_slice {start stop : Nat} {s : Text} (hstop : stop ≤ s.length) :
    (slice start stop s).length = stop - start := by
  rw [slice, List.length_take, List.length_drop]
  exact Nat.min_eq_left (Nat.sub_le_sub_right hstop start)

theorem selects_of_fits {x : Excerpt} (h : x.span.Fits x.data.length) :
    exists piece, x.next.1 = .ok piece ∧ x.span.Selects x.data piece := by
  rw [next_fst, value]
  cases hspan : x.span with
  | range start stop =>
      rw [hspan] at h
      refine ⟨slice start stop x.data, by simp [Span.positions, h.left, h.right],
        x.data.take start, x.data.drop stop, eq_append_slice h.left x.data, ?_, ?_⟩
      · rw [List.length_take]
        exact Nat.min_eq_left (Nat.le_trans h.left h.right)
      · rw [length_slice h.right, Nat.add_sub_cancel' h.left]
  | last count =>
      rw [hspan] at h
      change count ≤ x.data.length at h
      refine ⟨slice (x.data.length - count) x.data.length x.data, by simp [Span.positions, h],
        x.data.take (x.data.length - count), ?_, ?_⟩
      · have hdata := eq_append_slice (Nat.sub_le x.data.length count) x.data
        rwa [List.drop_length, List.append_nil] at hdata
      · rw [length_slice (Nat.le_refl _), Nat.sub_sub_self h]
  | toEnd start =>
      rw [hspan] at h
      change start ≤ x.data.length at h
      refine ⟨slice start x.data.length x.data, by simp [Span.positions, h],
        x.data.take start, ?_, ?_⟩
      · have hdata := eq_append_slice h x.data
        rwa [List.drop_length, List.append_nil] at hdata
      · rw [List.length_take]
        exact Nat.min_eq_left h

end Excerpt

/-!
# Samples and counters
-/

theorem Sample.mem_alphabet_of_mem_draw {alphabet : Text} (h : 0 < alphabet.length) (n : Nat)
    (stream : ρ) {c : Char} (hc : c ∈ (draw alphabet h n stream).1) : c ∈ alphabet := by
  induction n generalizing stream with
  | zero =>
      cases hc
  | succ n ih =>
      rw [draw] at hc
      cases hc with
      | head =>
          exact List.get_mem _ _
      | tail _ htail =>
          exact ih _ htail

theorem Sample.spells_next {s : Sample ρ} (h : s.alphabet ≠ []) :
    (Source.sample s).Spells s.next.1 := by
  refine ⟨length_next h, ?_⟩
  intro c hc
  have hpos : 0 < s.alphabet.length := List.length_pos_iff.mpr h
  rw [next, dif_pos hpos] at hc
  exact mem_alphabet_of_mem_draw hpos s.length s.stream hc

theorem Counter.mem_digits_of_mem_numeral {zero : Char} {digits : Text} (h : digits ≠ [])
    {width n : Nat} {d : Char} (hd : d ∈ numeral zero digits width n) : d ∈ digits := by
  rcases List.mem_map.mp hd with ⟨place, _, rfl⟩
  rw [digitAt, List.getD_eq_getElem _ _ (Nat.mod_lt _ (List.length_pos_iff.mpr h))]
  exact List.getElem_mem _

theorem Counter.spells_next {ρ : Type} {c : Counter} (h : c.digits ≠ []) :
    (Source.counter c : Source ρ).Spells c.next.1 := by
  refine ⟨length_next h, ?_⟩
  intro d hd
  cases hdigits : c.digits with
  | nil =>
      exact absurd hdigits h
  | cons zero digits =>
      simp only [next, hdigits] at hd
      rw [numeralOnto_eq_numeral, List.append_nil] at hd
      exact mem_digits_of_mem_numeral (List.cons_ne_nil zero digits) hd

/-!
# Steps

A segment is completed when it is compiled.  It stays so, and what it may give
does not change.
-/

namespace Source

theorem complete_next (source : Source ρ) : source.next.2.complete = source.complete := by
  cases source with
  | literal x | whole x =>
      rfl
  | part x =>
      by_cases hx : x.span.Fits x.data.length
      · rcases Excerpt.next_of_fits hx with ⟨piece, hnext⟩
        simp [next, complete, Excerpt.complete, hnext]
      · simp [next, Excerpt.next_of_not_fits hx]
  | sample s =>
      by_cases hs : s.alphabet = []
      · simp [next, Sample.next_of_empty hs]
      · rcases Sample.next_snd hs with ⟨stream, hnext⟩
        simp [next, complete, Sample.complete, hnext]
  | counter c =>
      by_cases hc : c.digits = []
      · simp [next, Counter.next_of_empty hc]
      · simp [next, complete, Counter.complete, Counter.next_snd hc]

theorem spells_next_iff (source : Source ρ) (piece : Text) :
    source.next.2.Spells piece <-> source.Spells piece := by
  cases source with
  | literal x | whole x =>
      exact Iff.rfl
  | part x =>
      by_cases hx : x.span.Fits x.data.length
      · rcases Excerpt.next_of_fits hx with ⟨given, hnext⟩
        simp [next, Spells, hnext]
      · simp [next, Excerpt.next_of_not_fits hx]
  | sample s =>
      by_cases hs : s.alphabet = []
      · simp [next, Sample.next_of_empty hs]
      · rcases Sample.next_snd hs with ⟨stream, hnext⟩
        simp [next, Spells, hnext]
  | counter c =>
      by_cases hc : c.digits = []
      · simp [next, Counter.next_of_empty hc]
      · simp [next, Spells, Counter.next_snd hc]

theorem spells_of_fits {source : Source ρ} (hcomplete : source.complete = true)
    (hfits : source.Fits) : exists piece, source.next.1 = .ok piece ∧ source.Spells piece := by
  cases source with
  | literal x | whole x =>
      exact ⟨x.text, rfl, rfl⟩
  | part x =>
      exact x.selects_of_fits hfits
  | sample s =>
      exact ⟨s.next.1, rfl, Sample.spells_next (Sample.alphabet_ne_nil hcomplete)⟩
  | counter c =>
      exact ⟨c.next.1, rfl, Counter.spells_next (Counter.digits_ne_nil hcomplete)⟩

end Source

theorem Segment.spells_after {s : Segment ρ} (hcomplete : s.source.complete = true)
    (hfits : s.Fits) (k : Nat) : s.source.Spells (after next k s).piece := by
  have hkept : (after next k s).source.complete = true ∧ (after next k s).Fits ∧
      forall piece, (after next k s).source.Spells piece <-> s.source.Spells piece := by
    apply after_preserves (P := fun r : Segment ρ => r.source.complete = true ∧ r.Fits ∧
      forall piece, r.source.Spells piece <-> s.source.Spells piece) _ k
    · exact ⟨hcomplete, hfits, fun _ => Iff.rfl⟩
    · intro r hr
      rcases hr with ⟨hcomplete, hfits, hspells⟩
      exact ⟨r.source.complete_next.trans hcomplete, r.fits_next.mpr hfits,
        fun piece => (r.source.spells_next_iff piece).trans (hspells piece)⟩
  rcases hkept with ⟨hcomplete, hfits, hspells⟩
  rcases Source.spells_of_fits hcomplete hfits with ⟨piece, hnext, hpiece⟩
  have hfst : (after next k s).next.1 = .ok piece := hnext
  rw [Segment.piece, hfst]
  exact (hspells piece).mp hpiece

namespace Template

/-- Text that is made of one piece for each segment, in their order. -/
def Spells (t : Template ρ) (candidate : Text) : Prop :=
  exists pieces, List.Forall₂ (fun s piece => s.source.Spells piece) t.segments pieces ∧
    candidate = pieces.flatten

def width (t : Template ρ) : Nat :=
  (t.segments.map fun s => s.source.width).sum

theorem Spells.length_eq {ρ : Type} {t : Template ρ} {candidate : Text} (h : t.Spells candidate) :
    candidate.length = t.width := by
  rcases h with ⟨pieces, hpieces, rfl⟩
  rw [width, List.length_flatten]
  congr 1
  generalize t.segments = row at hpieces
  induction hpieces with
  | nil =>
      rfl
  | cons hpiece _ ih =>
      rw [List.map_cons, List.map_cons, hpiece.length_eq, ih]

theorem spells_candidate {t : Template ρ} (hfresh : t.Fresh) (hfits : t.Fits) (k : Nat) :
    t.Spells (t.candidate k) := by
  refine ⟨t.segments.map fun s => (after Segment.next k s).piece, ?_, ?_⟩
  · rw [List.forall₂_map_right_iff, List.forall₂_same]
    intro s hs
    exact Segment.spells_after (hfresh s hs).right (hfits s hs) k
  · rw [candidate_of_fits hfits, List.flatMap_def]

/-- Every candidate of a template is made of one piece for each segment, spelled as
the segment has it, so all are equally long.  The same goes for the identifiers in
all reports of a generator, whatever its filters do. -/
theorem spells_of_compile {master : ρ} {source : Text} {bindings : Bindings} {t : Template ρ}
    (h : compile master source bindings = .ok t) (hnever : t.NeverFails) :
    (forall k, exists candidate, (after next k t).next.1 = .ok candidate ∧
        t.Spells candidate ∧ candidate.length = t.width) ∧
      forall {σ : Type} (g : Generator ρ σ) (state : σ) (k : Nat),
        g.template = after next k t ->
          forall runs id, id ∈ g.reported state runs -> t.Spells id ∧ id.length = t.width := by
  have hspells := spells_candidate (fresh_of_compile h) (fits_of_neverFails hnever)
  constructor
  · intro k
    refine ⟨t.candidate k, ?_, hspells k, (hspells k).length_eq⟩
    rw [next_after hnever]
  · intro σ g state k htemplate runs id hid
    have hnever' : g.template.NeverFails := by
      rw [htemplate]
      exact hnever.after k
    have hmem := (g.turns_spend state hnever' runs).ids_sublist.mem hid
    rcases List.mem_map.mp hmem with ⟨place, _, rfl⟩
    rw [htemplate, candidate_after]
    exact ⟨hspells _, (hspells _).length_eq⟩

/-- One segment of every kind, the counter in brackets: all candidates have ten
characters. -/
theorem spells_of_compile_motley :
    exists t, compile (Stream.ofSeed 3) "b3+:=x:b:2b:[n++]".toList
        { entries := [('b', "abc".toList), ('n', "01".toList)] } = .ok t ∧
      (forall k, exists candidate, (after next k t).next.1 = .ok candidate ∧
        t.Spells candidate ∧ candidate.length = 10) ∧
      forall {σ : Type} (g : Generator Stream σ) (state : σ), g.template = t ->
        forall runs id, id ∈ g.reported state runs -> t.Spells id ∧ id.length = 10 := by
  generalize Stream.ofSeed 3 = master
  have hcompile := compile_eq_plan master "b3+:=x:b:2b:[n++]".toList
    { entries := [('b', "abc".toList), ('n', "01".toList)] }
  refine ⟨_, hcompile, ?_⟩
  have hspells := spells_of_compile hcompile (neverFails_of_fits ?_)
  · exact ⟨hspells.left, fun g state htemplate => hspells.right g state 0 htemplate⟩
  · -- Only the excerpt could fail to fit.
    refine List.forall_mem_cons.mpr ⟨trivial, List.forall_mem_cons.mpr ⟨trivial, ?_⟩⟩
    refine List.forall_mem_cons.mpr ⟨trivial, List.forall_mem_cons.mpr ⟨⟨?_, ?_⟩, ?_⟩⟩
    · decide
    · decide
    · exact List.forall_mem_singleton.mpr trivial

end Template
end Moniker
