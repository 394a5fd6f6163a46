import Moniker.Template

/-!
# Plans

What a template is made of does not depend on the random streams.  This module
splits compilation in two: a plan finds the fragments and their data, or the
failure, from the text and the bindings alone, and every fragment of the plan
then gets a stream of its own from the master stream.
-/

namespace Moniker

variable {ρ : Type} [Chance ρ]

/-!
# Parts

A part of a plan is a fragment with the data of its variable.
-/

structure Part where
  fragment : Fragment
  data : Text
  deriving DecidableEq

namespace Part

def segment (p : Part) (stream : ρ) : Segment ρ :=
  Segment.ofFragment p.fragment p.data stream

def sufficient (data : Text) : Form -> Bool
  | .literal payload => !payload.isEmpty
  | .data _ .whole => !data.isEmpty
  | .data _ (.sample length) => !data.isEmpty && 0 < length
  | .data _ (.part _) => !data.isEmpty
  | .data _ (.counter width) => !data.isEmpty && 0 < width

def complete (p : Part) : Bool :=
  sufficient p.data p.fragment.form && !p.fragment.text.isEmpty

theorem complete_segment {ρ : Type} (p : Part) (stream : ρ) :
    (p.segment stream).complete = p.complete := by
  rcases p with ⟨⟨text, resolver, form⟩, data⟩
  cases form with
  | literal payload =>
      rfl
  | data key use =>
      cases use with
      | whole =>
          rfl
      | sample length =>
          rfl
      | counter width =>
          rfl
      | part span =>
          show ((!text.isEmpty && !data.isEmpty) && !text.isEmpty) =
            (!data.isEmpty && !text.isEmpty)
          rw [Bool.and_right_comm, Bool.and_self, Bool.and_comm]

end Part

namespace Template

/-!
# Planning

The pieces are planned from left to right in one reading session, and the first
failure ends the plan.
-/

def partOf (bindings : Bindings) (raw : Text) (fragment : Fragment) : Except Failure Part :=
  match dataFor bindings fragment with
  | .error failure => .error failure
  | .ok data =>
      if Part.complete { fragment := fragment, data := data } then
        .ok { fragment := fragment, data := data }
      else
        .error (.incomplete raw)

def planPiece (bindings : Bindings) (session : Session) (raw : Text) :
    Except Failure Part × Session :=
  match session.read raw with
  | (.error failure, session) => (.error failure, session)
  | (.ok fragment, session) => (partOf bindings raw fragment, session)

def plan (bindings : Bindings) : List Text -> Session -> Except Failure (List Part)
  | [], _ => .ok []
  | raw :: rest, session =>
      match planPiece bindings session raw with
      | (.error failure, _) => .error failure
      | (.ok part, session) => (plan bindings rest session).map (part :: ·)

/-- Every part gets the next stream that the master stream splits off. -/
def supplied : List Part -> ρ -> List (Segment ρ)
  | [], _ => []
  | part :: rest, master =>
      part.segment (Chance.split master).1 :: supplied rest (Chance.split master).2

theorem compileSegment_eq_partOf {ρ : Type} (bindings : Bindings) (raw : Text) (fragment : Fragment)
    (stream : ρ) :
    compileSegment bindings raw fragment stream =
      (partOf bindings raw fragment).map (Part.segment · stream) := by
  unfold compileSegment partOf
  cases dataFor bindings fragment with
  | error failure =>
      rfl
  | ok data =>
      have hcomplete : (Segment.ofFragment fragment data stream).complete =
          Part.complete { fragment := fragment, data := data } :=
        Part.complete_segment { fragment := fragment, data := data } stream
      show (if (Segment.ofFragment fragment data stream).complete = true then _ else _) = _
      rw [hcomplete]
      by_cases hpart : Part.complete { fragment := fragment, data := data } = true
      · simp only [if_pos hpart]
        rfl
      · simp only [if_neg hpart]
        rfl

theorem compilePieces_eq_plan (bindings : Bindings) (pieces : List Text) (session : Session)
    (master : ρ) :
    compilePieces bindings pieces session master =
      (plan bindings pieces session).map (supplied · master) := by
  induction pieces generalizing session master with
  | nil =>
      rfl
  | cons raw rest ih =>
      rw [compilePieces, plan, planPiece]
      rcases session.read raw with ⟨answer, session'⟩
      cases answer with
      | error failure =>
          rfl
      | ok fragment =>
          simp only [compileSegment_eq_partOf, ih]
          cases partOf bindings raw fragment with
          | error failure =>
              rfl
          | ok part =>
              show _ = ((plan bindings rest session').map (part :: ·)).map (supplied · master)
              cases plan bindings rest session' with
              | error failure =>
                  rfl
              | ok parts =>
                  rfl

theorem compile_eq_plan (master : ρ) (source : Text) (bindings : Bindings) :
    compile master source bindings =
      (plan bindings (Text.cut delimiter source) {}).map fun parts =>
        { source := source, segments := supplied parts master } := by
  rw [compile, compilePieces_eq_plan]
  cases plan bindings (Text.cut delimiter source) {} with
  | error failure =>
      rfl
  | ok parts =>
      rfl

/-!
# Segments of a compiled template
-/

theorem complete_of_partOf {bindings : Bindings} {raw : Text} {fragment : Fragment} {part : Part}
    (h : partOf bindings raw fragment = .ok part) : part.complete = true := by
  unfold partOf at h
  cases hdata : dataFor bindings fragment with
  | error failure =>
      rw [hdata] at h
      cases h
  | ok data =>
      simp only [hdata] at h
      split at h
      · rename_i hcomplete
        cases h
        exact hcomplete
      · cases h

theorem complete_of_mem_plan {bindings : Bindings} {pieces : List Text} {session : Session}
    {parts : List Part} (h : plan bindings pieces session = .ok parts) {part : Part}
    (hpart : part ∈ parts) : part.complete = true := by
  induction pieces generalizing session parts with
  | nil =>
      cases h
      cases hpart
  | cons raw rest ih =>
      rw [plan, planPiece] at h
      rcases hread : session.read raw with ⟨answer, session'⟩
      rw [hread] at h
      cases answer with
      | error failure =>
          cases h
      | ok fragment =>
          cases hpartOf : partOf bindings raw fragment with
          | error failure =>
              simp [hpartOf] at h
          | ok first =>
              simp only [hpartOf] at h
              cases hplan : plan bindings rest session' with
              | error failure =>
                  rw [hplan] at h
                  cases h
              | ok others =>
                  rw [hplan] at h
                  cases h
                  cases hpart with
                  | head =>
                      exact complete_of_partOf hpartOf
                  | tail _ hmem =>
                      exact ih hplan hmem

theorem mem_supplied {parts : List Part} {master : ρ} {s : Segment ρ}
    (h : s ∈ supplied parts master) :
    exists part, part ∈ parts ∧ exists stream, s = part.segment stream := by
  induction parts generalizing master with
  | nil =>
      cases h
  | cons part rest ih =>
      cases h with
      | head =>
          exact ⟨part, List.mem_cons_self, (Chance.split master).1, rfl⟩
      | tail _ htail =>
          rcases ih htail with ⟨other, hother, hs⟩
          exact ⟨other, List.mem_cons_of_mem part hother, hs⟩

/-- What does not look at the stream of a segment is the same for every master stream. -/
theorem map_supplied {γ : Type} {f : Segment ρ -> γ}
    (h : forall (part : Part) stream stream', f (part.segment stream) = f (part.segment stream'))
    (parts : List Part) (master master' : ρ) :
    (supplied parts master).map f = (supplied parts master').map f := by
  induction parts generalizing master master' with
  | nil =>
      rfl
  | cons part rest ih =>
      rw [supplied, supplied, List.map_cons, List.map_cons, h part _ (Chance.split master').1,
        ih _ (Chance.split master').2]

theorem plan_of_compile {master : ρ} {source : Text} {bindings : Bindings} {t : Template ρ}
    (h : compile master source bindings = .ok t) :
    exists parts, plan bindings (Text.cut delimiter source) {} = .ok parts ∧
      t = { source := source, segments := supplied parts master } := by
  rw [compile_eq_plan] at h
  cases hplan : plan bindings (Text.cut delimiter source) {} with
  | error failure =>
      rw [hplan] at h
      cases h
  | ok parts =>
      rw [hplan] at h
      cases h
      exact ⟨parts, rfl, rfl⟩

theorem segment_of_compile {master : ρ} {source : Text} {bindings : Bindings} {t : Template ρ}
    (h : compile master source bindings = .ok t) {s : Segment ρ} (hs : s ∈ t.segments) :
    exists part stream, Part.complete part = true ∧ s = part.segment stream := by
  rcases plan_of_compile h with ⟨parts, hplan, rfl⟩
  rcases mem_supplied hs with ⟨part, hpart, stream, hsegment⟩
  exact ⟨part, stream, complete_of_mem_plan hplan hpart, hsegment⟩

theorem map_segments_of_compile {γ : Type} {f : Segment ρ -> γ}
    (hf : forall (part : Part) stream stream', f (part.segment stream) = f (part.segment stream'))
    {master master' : ρ} {source : Text} {bindings : Bindings} {t t' : Template ρ}
    (h : compile master source bindings = .ok t)
    (h' : compile master' source bindings = .ok t') :
    t.segments.map f = t'.segments.map f := by
  rcases plan_of_compile h with ⟨parts, hplan, rfl⟩
  rcases plan_of_compile h' with ⟨parts', hplan', rfl⟩
  rw [hplan] at hplan'
  cases hplan'
  exact map_supplied hf parts master master'

end Template
end Moniker
