import Moniker.Proofs.Lifetime
import Moniker.Proofs.Template.Misfit
import Moniker.Random.Stream

/-!
# The random streams of a template

Every fragment of a template gets a stream of its own, whether it draws or not.
So the stream of a fragment is told by the master stream and the place of the
fragment alone, and nothing that the other fragments do reaches what it draws.
-/

namespace Moniker

variable {ρ : Type} [Chance ρ]

/-!
# What a segment gives
-/

namespace Part

theorem segment_eq_of_not_sample {ρ : Type} {part : Part} {stream : ρ}
    (h : forall x, (part.segment stream).source ≠ .sample x) (stream' : ρ) :
    part.segment stream' = part.segment stream := by
  rcases part with ⟨⟨text, resolver, form⟩, data⟩
  cases form with
  | literal payload =>
      rfl
  | data key use =>
      cases use with
      | sample length =>
          exact absurd rfl (h _)
      | whole | part span | counter width =>
          rfl

end Part

namespace Template

/-!
# The supply of streams

The master stream is split once for every fragment, from left to right.
-/

theorem supplied_eq_of_no_samples {parts : List Part} {master : ρ}
    (h : forall s, s ∈ supplied parts master -> forall x, s.source ≠ .sample x)
    (master' : ρ) : supplied parts master' = supplied parts master := by
  induction parts generalizing master master' with
  | nil =>
      rfl
  | cons part rest ih =>
      rcases List.forall_mem_cons.mp h with ⟨hpart, hrest⟩
      rw [supplied, supplied, Part.segment_eq_of_not_sample hpart, ih hrest]

variable {master : ρ} {source : Text} {bindings : Bindings} {t : Template ρ}

theorem compile_eq_of_no_samples (h : compile master source bindings = .ok t)
    (hsamples : forall s, s ∈ t.segments -> forall x, s.source ≠ .sample x) (master' : ρ) :
    compile master' source bindings = .ok t := by
  rcases plan_of_compile h with ⟨parts, hplan, rfl⟩
  rw [compile_eq_plan, hplan, ← supplied_eq_of_no_samples hsamples master']
  rfl

/-!
# The pieces of a candidate
-/

/-- What the segments contribute to the candidate that comes after `k` others. -/
def pieces (t : Template ρ) (k : Nat) : List Text :=
  (after next k t).segments.map Segment.piece

end Template
end Moniker
