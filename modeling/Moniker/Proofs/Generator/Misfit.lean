import Moniker.Proofs.Generator.Minutes
import Moniker.Proofs.Template.Misfit
import Moniker.Random.Stream

/-!
# Runs on templates that fail

A template that fails does so for the first candidate that is asked for.  So a
run that ends with this failure has empty minutes: no filter was called and no
identifier was kept.  Any other failure of a run is one of its filters', or its
ceiling.
-/

namespace Moniker

variable {ρ σ : Type} [Chance ρ]

namespace Minutes

variable {ids : List Text} {t : Template ρ} {target : Nat} {log : List Call}
  {notes : List Note} {failure : Failure}

theorem eq_nil_of_fails (h : Minutes ids t target log notes)
    (hfailure : t.next.1 = .error failure) : notes = [] := by
  cases notes with
  | nil =>
      rfl
  | cons note rest =>
      have hbuilt := h.built 0 note rfl
      rw [after_zero, hfailure] at hbuilt
      cases hbuilt

theorem neverFails_of_ne_nil (h : Minutes ids t target log notes) (hnotes : notes ≠ []) :
    t.NeverFails := by
  rcases t.fails_or_neverFails with ⟨failure, hfails⟩ | hnever
  · exact absurd (h.eq_nil_of_fails (hfails 0)) hnotes
  · exact hnever

theorem exists_call_of_error (h : Minutes ids t target log notes) {note : Note}
    (hnote : note ∈ notes) (houtcome : note.outcome = .error failure) :
    exists call, call ∈ log ∧ call.answer = .error failure := by
  rcases h.proper_of_mem hnote with ⟨kept, hproper⟩
  rcases hproper.eq_concat_of_error houtcome with ⟨before, id, hcalls, _⟩
  refine ⟨{ filter := id, candidate := note.candidate, answer := .error failure }, ?_, rfl⟩
  rw [h.log_eq]
  apply List.mem_flatMap.mpr
  refine ⟨note, hnote, ?_⟩
  rw [hcalls]
  exact List.mem_append_right before List.mem_cons_self

end Minutes

/-!
# The failure of a run
-/

namespace Generator

def calls (g : Generator ρ σ) (state : σ) : List Call :=
  (g.watched.generate (state, [])).2.2.2

theorem calls_eq_log (g : Generator ρ σ) (state : σ) :
    g.calls state = (g.watched.ran (state, [])).2.state.2 := by
  rw [calls, generate_watched]

/-- An attempt that fails does so with one of the filters if the template never
fails, and before any filter is called otherwise. -/
theorem filter_or_template_of_failed (g : Generator ρ σ) (state : σ) {failure : Failure}
    (h : (g.ran state).1 = .failed failure) :
    (g.template.NeverFails ∧
        exists call, call ∈ g.calls state ∧ call.answer = .error failure) ∨
      g.template.next.1 = .error failure ∧ g.calls state = [] ∧
        (g.ran state).2.kept.toList = [] := by
  rcases g.ran_closes state with ⟨notes, hcloses⟩
  rw [calls_eq_log]
  rw [ran_eq_unwatched g state] at h ⊢
  generalize g.watched.ran (state, []) = last at hcloses h ⊢
  cases hcloses with
  | finished hnoted hharmless hceiling | limit hnoted hharmless hceiling =>
      cases h
  | filterFailed hnoted hharmless hceiling houtcome =>
      rename_i earlier note failure' run
      cases h
      have hlast : note ∈ earlier ++ [note] := List.mem_append_right earlier List.mem_cons_self
      have hnever : g.template.NeverFails :=
        hnoted.minutes.neverFails_of_ne_nil (List.ne_nil_of_mem hlast)
      exact Or.inl ⟨hnever, hnoted.minutes.exists_call_of_error hlast houtcome⟩
  | templateFailed hnoted hharmless hceiling hnext =>
      rename_i failure' run
      cases h
      rw [hnoted.template_eq] at hnext
      -- The template fails at every step, so the run cannot have got further than the first.
      have hfirst : g.template.next.1 = .error failure := Template.next_error_of_after hnext
      have hnil : notes = [] := hnoted.minutes.eq_nil_of_fails hfirst
      subst hnil
      exact Or.inr ⟨hfirst, hnoted.minutes.log_eq, hnoted.kept_eq⟩

theorem filter_or_template_of_error (g : Generator ρ σ) (state : σ) {failure : Failure}
    (h : (g.generate state).1 = .error failure)
    (hlimit : forall maxAttempts accepted, failure ≠ .attemptLimit maxAttempts accepted) :
    (g.template.NeverFails ∧
        exists call, call ∈ g.calls state ∧ call.answer = .error failure) ∨
      g.template.next.1 = .error failure ∧ g.calls state = [] ∧
        (g.ran state).2.kept.toList = [] := by
  rcases g.failed_or_limit_of_error state h with hfailed | ⟨_, hfailure⟩
  · exact g.filter_or_template_of_failed state hfailed
  · exact absurd hfailure (hlimit _ _)

end Generator

/-!
# Compiled templates with a misfit
-/

namespace Template

/-- Which steps of a compiled template fail, with what, and what they leave
behind.  All of them fail or none does.  A run that reports such a failure has
it from a filter, or has called no filter and kept nothing. -/
theorem misfit_after_compile {master : ρ} {source : Text} {bindings : Bindings}
    {t : Template ρ} (h : compile master source bindings = .ok t) :
    (forall k, (exists failure, (after next k t).next.1 = .error failure) <->
      exists s x, s ∈ (after next k t).segments ∧ s.source = .part x ∧
        ¬ x.span.Fits x.data.length) ∧
      (forall k before s behind x, (after next k t).segments = before ++ s :: behind ->
        (forall r, r ∈ before -> r.Fits) -> s.source = .part x ->
          ¬ x.span.Fits x.data.length ->
            (after next k t).next =
              (.error (.outOfBounds s.text x.data (x.span.reported x.data.length).1
                (x.span.reported x.data.length).2),
                { after next k t with
                  segments := before.map (fun r => r.next.2) ++ s :: behind })) ∧
      ((exists failure, forall k, (after next k t).next.1 = .error failure) ∨
        forall k, exists candidate, (after next k t).next.1 = .ok candidate) ∧
      forall {σ : Type} (g : Generator ρ σ) (state : σ) fragment data start stop,
        (g.generate state).1 = .error (.outOfBounds fragment data start stop) ->
          (g.template.NeverFails ∧ exists call, call ∈ g.calls state ∧
            call.answer = .error (.outOfBounds fragment data start stop)) ∨
            g.template.next.1 = .error (.outOfBounds fragment data start stop) ∧
              g.calls state = [] ∧ (g.ran state).2.kept.toList = [] := by
  refine ⟨fun k => fails_iff_misfit, ?_, fails_or_neverFails t, ?_⟩
  · intro k before s behind x hsegments hbefore hx hfits
    have hbreaks : (after next k t).Breaks before s behind x.misfit :=
      ⟨hsegments, hbefore, x, hx, hfits, rfl⟩
    have hlabelled : s.Labelled :=
      forall_mem_after (fun _ => Segment.Labelled.next) (labelled_of_compile h) k s
        hbreaks.mem_segments
    rw [hbreaks.next_eq, Excerpt.misfit, hlabelled x hx]
  · intro σ g state fragment data start stop hfailure
    apply g.filter_or_template_of_error state hfailure
    intro maxAttempts accepted hlimit
    cases hlimit

/-- A literal, the first three letters of `ab`, and a resolver. -/
def short (stream : Stream) : Template Stream where
  source := "=u:3b:[b+]".toList
  segments :=
    [{ text := "=u".toList, resolver := false, source := .literal { text := "u".toList } },
      { text := "3b".toList
        resolver := false
        source := .part
          { fragment := "3b".toList, data := "ab".toList, span := .range 0 3 } },
      { text := "b+".toList
        resolver := true
        source := .sample { alphabet := "ab".toList, length := 1, stream := stream } }]

/-- A generator on this template; its filter is never asked. -/
def stalled (stream : Stream) : Generator Stream Unit where
  template := short stream
  chain := { filters := [Blacklist.filter { words := ["u".toList] }] }
  settings := { target := 1, maxAttempts := 2 }

/-- Every step fails like the first one, which moves the literal on, and no run
asks the filter. -/
theorem misfit_after_compile_short :
    exists stream, compile (Stream.ofSeed 3) "=u:3b:[b+]".toList
        { entries := [('b', "ab".toList)] } = .ok (short stream) ∧
      (short stream).segments.map Segment.live = [true, true, true] ∧
      (short stream).next.2.segments.map Segment.live = [false, true, true] ∧
      (forall k, (after next k (short stream)).next.1 =
        .error (.outOfBounds "3b".toList "ab".toList 0 3)) ∧
      (stalled stream).calls () = [] ∧ ((stalled stream).ran ()).2.kept.toList = [] := by
  generalize Stream.ofSeed 3 = master
  have hcompile : compile master "=u:3b:[b+]".toList { entries := [('b', "ab".toList)] } =
      .ok (short (Chance.split (Chance.split (Chance.split master).2).2).1) :=
    compile_eq_plan master "=u:3b:[b+]".toList { entries := [('b', "ab".toList)] }
  generalize (Chance.split (Chance.split (Chance.split master).2).2).1 = stream at hcompile
  rcases misfit_after_compile hcompile with ⟨_, hframe, hall, hruns⟩
  have hbefore : forall r, r ∈ (short stream).segments.take 1 -> r.Fits :=
    List.forall_mem_singleton.mpr trivial
  have hnext := hframe 0 ((short stream).segments.take 1) _ ((short stream).segments.drop 2)
    { fragment := "3b".toList, data := "ab".toList, span := .range 0 3 } rfl hbefore rfl
    (by decide)
  rw [after_zero] at hnext
  refine ⟨stream, hcompile, rfl, ?_, ?_, ?_⟩
  · rw [hnext]
    rfl
  · rcases hall with ⟨failure, hfails⟩ | hnever
    · have hfirst := hfails 0
      rw [after_zero, hnext] at hfirst
      cases hfirst
      exact hfails
    · rcases hnever 0 with ⟨candidate, hcandidate⟩
      rw [after_zero, hnext] at hcandidate
      cases hcandidate
  · have hgenerate : ((stalled stream).generate ()).1 =
        .error (.outOfBounds "3b".toList "ab".toList 0 3) := rfl
    rcases hruns (stalled stream) () _ _ _ _ hgenerate with ⟨_, call, hcall, _⟩ | ⟨_, hnone⟩
    · exact absurd hcall List.not_mem_nil
    · exact hnone

end Template
end Moniker
