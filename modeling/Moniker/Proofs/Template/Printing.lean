import Moniker.Proofs.Template.Respelling
import Moniker.Proofs.Template.Streams
import Moniker.Random.Stream

/-!
# Printed templates

A segment keeps the text of its fragment and whether it had brackets, so a template can
be printed.  What is printed is the text that was compiled, whatever has become of the
segments since, and compiled once more it gives the template from its start.
-/

namespace Moniker

variable {ρ : Type} [Chance ρ]

def Segment.printed (s : Segment ρ) : Text :=
  marked s.resolver s.text

def Template.printed (t : Template ρ) : Text :=
  [':'].intercalate (t.segments.map Segment.printed)

/-!
# Pieces
-/

theorem length_splitOn (separator : Char) (s : Text) :
    (s.splitOn separator).length = s.count separator + 1 := by
  induction s with
  | nil =>
      rfl
  | cons c s ih =>
      rw [List.splitOn_cons_eq_if_modifyHead, List.count_cons]
      split
      · rw [List.length_cons, ih]
      · rw [List.length_modifyHead, ih]

namespace Template

variable {master : ρ} {source : Text} {bindings : Bindings} {t : Template ρ}

theorem printed_of_realizes {ρ : Type} {raw : Text} {s : Segment ρ} (h : Realizes bindings raw s) :
    s.printed = raw := by
  rcases h with ⟨fragment, data, hnames, _, htext, hresolver, _⟩
  rw [Segment.printed, htext, hresolver, ← eq_marked_of_bare hnames.bare]

theorem map_printed_of_realizes {ρ : Type} {pieces : List Text} {row : List (Segment ρ)}
    (h : List.Forall₂ (Realizes bindings) pieces row) : row.map Segment.printed = pieces := by
  induction h with
  | nil =>
      rfl
  | cons hfirst _ ih =>
      rw [List.map_cons, printed_of_realizes hfirst, ih]

theorem map_printed_of_compile (h : compile master source bindings = .ok t) :
    t.segments.map Segment.printed = source.splitOn ':' :=
  map_printed_of_realizes (realizes_of_compile h).right

/-!
# Steps
-/

theorem map_printed_nextAll (row : List (Segment ρ)) :
    (Segment.nextAll row).2.map Segment.printed = row.map Segment.printed := by
  rw [Segment.nextAll_snd]
  apply List.ext_getElem?
  intro i
  rw [List.getElem?_map, List.getElem?_mapIdx, List.getElem?_map, Option.map_map]
  congr 1
  funext s
  dsimp only [Function.comp]
  split <;> rfl

theorem map_printed_after (t : Template ρ) (k : Nat) :
    (after next k t).segments.map Segment.printed = t.segments.map Segment.printed := by
  rw [after_next]
  exact after_preserves
    (P := fun row : List (Segment ρ) => row.map Segment.printed = t.segments.map Segment.printed)
    (fun row hrow => (map_printed_nextAll row).trans hrow) k rfl

theorem printed_after (h : compile master source bindings = .ok t) (k : Nat) :
    (after next k t).printed = source := by
  rw [printed, map_printed_after, map_printed_of_compile h, List.intercalate_splitOn]

theorem length_segments_after (h : compile master source bindings = .ok t) (k : Nat) :
    (after next k t).segments.length = source.count ':' + 1 := by
  have hpieces := congrArg List.length ((map_printed_after t k).trans (map_printed_of_compile h))
  rwa [List.length_map, length_splitOn] at hpieces

theorem source_after (h : compile master source bindings = .ok t) (k : Nat) :
    (after next k t).source = source := by
  rw [after_next]
  exact (realizes_of_compile h).left

/-!
# Compiling what was printed
-/

theorem live_after_eq_of_compile (h : compile master source bindings = .ok t)
    {master' : ρ} {t' : Template ρ} (h' : compile master' source bindings = .ok t')
    (k : Nat) : (after next k t').live = (after next k t).live := by
  have houtlook := map_segments_of_compile Segment.outlook_segment h h'
  apply Bool.eq_iff_iff.mpr
  constructor
  · exact live_after_congr (fresh_of_compile h') (fresh_of_compile h) houtlook
  · exact live_after_congr (fresh_of_compile h) (fresh_of_compile h') houtlook.symm

/-- At every step a compiled template still prints its text, and has one segment more than
the text has colons.  What it prints compiles again, to a template that is live for as
long from its start, and that gives the same candidates if it takes the same streams or
draws nothing from them. -/
theorem printed_of_compile (h : compile master source bindings = .ok t) (k : Nat) :
    (after next k t).printed = source ∧
      (after next k t).source = source ∧
      (after next k t).segments.length = source.count ':' + 1 ∧
      forall master' : ρ, exists t', compile master' (after next k t).printed bindings = .ok t' ∧
        (forall l, (after next l t').live = (after next l t).live) ∧
        ((master' = master ∨ forall s, s ∈ t.segments -> forall x, s.source ≠ .sample x) ->
          forall l, (after next l t').next.1 = (after next l t).next.1) := by
  refine ⟨printed_after h k, source_after h k, length_segments_after h k, ?_⟩
  intro master'
  rw [printed_after h k]
  have hcompiles : exists t', compile master' source bindings = .ok t' :=
    exists_compile_iff.mpr (wellFormed_of_compile h)
  rcases hcompiles with ⟨t', h'⟩
  refine ⟨t', h', live_after_eq_of_compile h h', ?_⟩
  rintro (rfl | hsamples) l
  · rw [h] at h'
    cases h'
    rfl
  · rw [compile_eq_of_no_samples h hsamples master'] at h'
    cases h'
    rfl

/-- A counter in brackets, and an excerpt that fails at every step. -/
theorem printed_of_compile_failing :
    exists t, compile (Stream.ofSeed 3) "b2+:[n2++]:b9".toList
        { entries := [('b', "xy".toList), ('n', "01".toList)] } = .ok t ∧
      (after next 5 t).printed = "b2+:[n2++]:b9".toList ∧
      (after next 5 t).segments.length = 3 ∧
      exists t', compile (Stream.ofSeed 3) (after next 5 t).printed
          { entries := [('b', "xy".toList), ('n', "01".toList)] } = .ok t' ∧
        forall l, (after next l t').next.1 = (after next l t).next.1 := by
  generalize Stream.ofSeed 3 = master
  have hcompile := compile_eq_plan master "b2+:[n2++]:b9".toList
    { entries := [('b', "xy".toList), ('n', "01".toList)] }
  rcases printed_of_compile hcompile 5 with ⟨hprinted, _, hlength, hagain⟩
  rcases hagain master with ⟨t', h', _, hnext⟩
  exact ⟨_, hcompile, hprinted, hlength, t', h', hnext (Or.inl rfl)⟩

end Template
end Moniker
