import Moniker.Proofs.Generator.Misfit
import Moniker.Proofs.Generator.Succession

/-!
# The phases of a generator

A generator can be called again and again.  Its phase tells how the last call
ended: with a report, at the ceiling of its attempts, or with a failure of the
template or of a filter.  A report that falls short of its target leaves a spent
template, and all calls behind it find nothing.
-/

namespace Moniker

variable {ρ σ : Type} [Chance ρ]

/-!
# Fulfillment

A report grades itself by its own identifiers.
-/

namespace Report

structure Graded (target : Nat) (report : Report) : Prop where
  empty_iff : report.fulfillment = .empty <-> report.ids = []
  complete_iff :
    report.fulfillment = .complete <-> report.ids ≠ [] ∧ report.ids.length = target
  short_iff : report.fulfillment = .short <-> report.ids ≠ [] ∧ report.ids.length ≠ target

theorem graded_ofIds {target : Nat} {ids : List Text} (h : ids.length ≤ target)
    (attempts : Nat) : (ofIds target attempts ids).Graded target := by
  by_cases hempty : ids = []
  · subst hempty
    have hgrade : Fulfillment.of target [] = .empty := rfl
    constructor <;> simp [ofIds, hgrade]
  · by_cases hshort : ids.length < target
    · have hgrade : Fulfillment.of target ids = .short := by
        rw [Fulfillment.of, if_neg hempty, if_pos hshort]
      constructor <;> simp [ofIds, hgrade, hempty, Nat.ne_of_lt hshort]
    · have hgrade : Fulfillment.of target ids = .complete := by
        rw [Fulfillment.of, if_neg hempty, if_neg hshort]
      have hlength : ids.length = target := Nat.le_antisymm h (Nat.le_of_not_lt hshort)
      constructor <;> simp [ofIds, hgrade, hempty, hlength]

end Report

/-!
# How one run ends
-/

namespace Run

variable {chain : Chain σ} {target left : Nat} {run : Run ρ σ}

theorem finished_of_toEnd (h : (run.toEnd chain target left).1 = .finished) :
    (run.toEnd chain target left).2.finished target = true := by
  have hends := toEnd_ends chain target left run
  generalize run.toEnd chain target left = last at h hends ⊢
  cases hends with
  | finished _ _ hfinished =>
      exact hfinished
  | limit _ _ | failed _ _ _ _ =>
      cases h

theorem not_finished_of_toEnd (h : (run.toEnd chain target left).1 = .limit) :
    (run.toEnd chain target left).2.finished target = false := by
  have hends := toEnd_ends chain target left run
  generalize run.toEnd chain target left = last at h hends ⊢
  cases hends with
  | limit _ hopen =>
      exact hopen
  | finished _ _ _ | failed _ _ _ _ =>
      cases h

end Run

namespace Template

def Builds (t : Template ρ) (count : Nat) (t' : Template ρ) : Prop :=
  t' = after next count t ∧
    forall i, i < count -> exists candidate, (after next i t).next.1 = .ok candidate

theorem outOfBounds_of_next_error {t : Template ρ} {failure : Failure}
    (h : t.next.1 = .error failure) :
    exists fragment data start stop, failure = .outOfBounds fragment data start stop := by
  rcases next_eq_error_iff.mp h with ⟨before, s, behind, hbreaks⟩
  rcases hbreaks.misfits with ⟨x, _, _, hfailure⟩
  exact ⟨_, _, _, _, hfailure⟩

end Template

namespace Generator

def FilterFails (g : Generator ρ σ) (state : σ) (failure : Failure) : Prop :=
  exists call, call ∈ g.calls state ∧ call.answer = .error failure

theorem failed_of_filterFails {g : Generator ρ σ} {state : σ} {failure : Failure}
    (h : g.FilterFails state failure) : (g.ran state).1 = .failed failure := by
  rcases h with ⟨call, hcall, hanswer⟩
  rcases g.ran_closes state with ⟨notes, hcloses⟩
  rw [calls_eq_log] at hcall
  rcases List.append_of_mem hcall with ⟨before, behind, hlog⟩
  rw [ran_eq_unwatched]
  exact (hcloses.of_failed_call hlog hanswer).right.left

theorem length_kept_le (g : Generator ρ σ) (state : σ) :
    (g.ran state).2.kept.toList.length ≤ g.settings.target := by
  rcases g.ran_closes state with ⟨notes, hcloses⟩
  have hkept : (g.ran state).2.kept.toList = Note.kept notes := by
    rw [ran_eq_unwatched]
    exact hcloses.kept_eq
  rw [hkept]
  exact hcloses.minutes.length_kept_le

theorem builds_of_limit {g : Generator ρ σ} {state : σ} (h : (g.ran state).1 = .limit) :
    g.template.Builds g.settings.maxAttempts (g.ran state).2.template := by
  rcases g.ran_closes state with ⟨notes, hcloses⟩
  rw [ran_eq_unwatched g state] at h ⊢
  generalize g.watched.ran (state, []) = last at hcloses h ⊢
  cases hcloses with
  | limit hnoted _ hlength =>
      rw [← hlength]
      refine ⟨hnoted.template_eq, ?_⟩
      intro i hi
      exact ⟨_, hnoted.minutes.built i _ (List.getElem?_eq_getElem hi)⟩
  | finished _ _ _ | filterFailed _ _ _ _ | templateFailed _ _ _ _ =>
      cases h

theorem limit_of_error {g : Generator ρ σ} {state : σ} {maxAttempts accepted : Nat}
    (h : (g.generate state).1 = .error (.attemptLimit maxAttempts accepted))
    (hfilters : ¬ g.FilterFails state (.attemptLimit maxAttempts accepted)) :
    (g.ran state).1 = .limit ∧ maxAttempts = g.settings.maxAttempts ∧
      accepted = (g.ran state).2.kept.size := by
  rcases g.failed_or_limit_of_error state h with hfailed | ⟨hlimit, hfailure⟩
  · rcases g.filter_or_template_of_failed state hfailed with ⟨_, hcall⟩ | ⟨hnext, _⟩
    · exact absurd hcall hfilters
    · rcases Template.outOfBounds_of_next_error hnext with ⟨_, _, _, _, hfailure⟩
      cases hfailure
  · cases hfailure
    exact ⟨hlimit, rfl, rfl⟩

/-!
# One call
-/

/-- What a call of a generator says and in which phase it leaves it. -/
structure Conducts (settings : Settings) (p : Generator ρ σ × σ) : Prop where
  exhausted : forall report, (turn p).1 = .ok report ->
    (turn p).2.1.phase = .exhausted ∧
      (report.ids.length = settings.target ∨ (turn p).2.1.template.live = false)
  graded : forall report, (turn p).1 = .ok report -> report.Graded settings.target
  aborted : forall maxAttempts accepted,
    (turn p).1 = .error (.attemptLimit maxAttempts accepted) ->
      ¬ p.1.FilterFails p.2 (.attemptLimit maxAttempts accepted) ->
        (turn p).2.1.phase = .aborted ∧ maxAttempts = settings.maxAttempts ∧
          p.1.template.Builds maxAttempts (turn p).2.1.template ∧
          accepted < settings.target ∧ (turn p).2.1.template.live = true
  collecting : forall failure, (turn p).1 = .error failure ->
    (p.1.FilterFails p.2 failure ∨
      forall maxAttempts accepted, failure ≠ .attemptLimit maxAttempts accepted) ->
        (turn p).2.1.phase = .collecting

theorem phase_generate (g : Generator ρ σ) (state : σ) :
    (g.generate state).2.1.phase = Phase.ofEnding (g.ran state).1 := rfl

theorem conducts (g : Generator ρ σ) (state : σ) : Conducts g.settings (g, state) where
  exhausted := by
    intro report hreport
    rcases report_of_ok hreport with ⟨hending, rfl⟩
    constructor
    · rw [turn, phase_generate, hending]
      rfl
    · cases (Run.finished_eq_true_iff _ _).mp (Run.finished_of_toEnd hending) with
      | inl hspent =>
          exact Or.inr hspent
      | inr hquota =>
          exact Or.inl (Nat.le_antisymm (g.length_kept_le state) hquota)
  graded := by
    intro report hreport
    rcases report_of_ok hreport with ⟨_, rfl⟩
    exact Report.graded_ofIds (g.length_kept_le state) _
  aborted := by
    intro maxAttempts accepted hanswer hfilters
    rcases limit_of_error hanswer hfilters with ⟨hlimit, rfl, rfl⟩
    have hopen := Run.not_finished_of_toEnd hlimit
    simp only [Run.finished, Bool.or_eq_false_iff, Bool.not_eq_false',
      decide_eq_false_iff_not, Nat.not_le] at hopen
    refine ⟨?_, rfl, builds_of_limit hlimit, hopen.right, hopen.left⟩
    rw [turn, phase_generate, hlimit]
    rfl
  collecting := by
    intro failure hanswer hcause
    have hfailed : (g.ran state).1 = .failed failure := by
      cases hcause with
      | inl hfilters =>
          exact failed_of_filterFails hfilters
      | inr hother =>
          rcases g.failed_or_limit_of_error state hanswer with hfailed | ⟨_, hlimit⟩
          · exact hfailed
          · exact absurd hlimit (hother _ _)
    rw [turn, phase_generate, hfailed]
    rfl

/-!
# Calls on a spent template

A call on a template that is spent builds nothing and leaves it spent.
-/

theorem ran_of_spent {g : Generator ρ σ} (h : g.template.live = false) (state : σ) :
    g.ran state = (.finished, Run.start g.template state) := by
  have hfinished : (Run.start g.template state).finished g.settings.target = true :=
    (Run.finished_eq_true_iff _ _).mpr (Or.inl h)
  rw [ran]
  cases g.settings.maxAttempts with
  | zero | succ left =>
      simp [Run.toEnd, hfinished]

theorem generate_of_spent {g : Generator ρ σ} (h : g.template.live = false) (state : σ) :
    g.generate state =
      (.ok { ids := [], attempts := 0, target := g.settings.target, fulfillment := .empty },
        { g with phase := .exhausted }, state) := by
  rw [generate_eq_ran, ran_of_spent h]
  rfl

theorem calls_of_spent {g : Generator ρ σ} (h : g.template.live = false) (state : σ) :
    g.calls state = [] := by
  rw [calls_eq_log, ran_of_spent (g := g.watched) h]
  rfl

theorem spent_after_turns {p : Generator ρ σ × σ} (h : p.1.template.live = false) (k : Nat) :
    (after turn k p).1.template.live = false := by
  apply after_preserves (P := fun p : Generator ρ σ × σ => p.1.template.live = false) _ k h
  intro p hp
  rw [turn, generate_of_spent hp]
  exact hp

/-!
# Any number of calls
-/

def fresh (t : Template ρ) (chain : Chain σ) (settings : Settings) : Generator ρ σ where
  template := t
  chain := chain
  settings := settings

theorem settings_after_turns (p : Generator ρ σ × σ) (k : Nat) :
    (after turn k p).1.settings = p.1.settings :=
  after_preserves (P := fun q : Generator ρ σ × σ => q.1.settings = p.1.settings)
    (fun _ hq => hq) k rfl

/-- A generator collects before its first call, and after every call its phase is
the one of the end of this call.  Once a report has fallen short of the target,
all later calls report nothing, build nothing and ask no filter. -/
theorem phase_turns (t : Template ρ) (chain : Chain σ) (settings : Settings) (state : σ) :
    (fresh t chain settings).phase = .collecting ∧
      forall k,
        Conducts settings (after turn k (fresh t chain settings, state)) ∧
          forall report, (turn (after turn k (fresh t chain settings, state))).1 = .ok report ->
            report.ids.length < settings.target ->
              forall l, k < l ->
                (turn (after turn l (fresh t chain settings, state))).1 =
                    .ok
                      { ids := []
                        attempts := 0
                        target := settings.target
                        fulfillment := .empty } ∧
                  (after turn l (fresh t chain settings, state)).1.calls
                    (after turn l (fresh t chain settings, state)).2 = [] := by
  refine ⟨rfl, ?_⟩
  intro k
  have hsettings := settings_after_turns (fresh t chain settings, state)
  have hconducts : Conducts settings (after turn k (fresh t chain settings, state)) := by
    have hturn := conducts (after turn k (fresh t chain settings, state)).1
      (after turn k (fresh t chain settings, state)).2
    rwa [hsettings] at hturn
  refine ⟨hconducts, ?_⟩
  intro report hreport hshort l hl
  have hspent : (after turn (k + 1) (fresh t chain settings, state)).1.template.live = false := by
    rw [after_succ_eq_next]
    cases (hconducts.exhausted report hreport).right with
    | inl hquota =>
        exact absurd hquota (Nat.ne_of_lt hshort)
    | inr hlive =>
        exact hlive
  rcases Nat.exists_eq_add_of_le hl with ⟨rest, rfl⟩
  have hlater := spent_after_turns hspent rest
  rw [← after_add] at hlater
  constructor
  · rw [turn, generate_of_spent hlater, hsettings]
    rfl
  · exact calls_of_spent hlater _

/-- Four numerals over `a` and `b`, three of them at a time. -/
def bits : Generator Stream Unit :=
  fresh
    { source := "b2++".toList
      segments :=
        [{ text := "b2++".toList
           resolver := false
           source := .counter { digits := "ab".toList, width := 2 } }] }
    {} { target := 3 }

example : (List.range 3).map (fun k => (turn (after turn k (bits, ()))).1) =
    [.ok
      { ids := ["aa".toList, "ab".toList, "ba".toList]
        attempts := 3
        target := 3
        fulfillment := .complete },
      .ok { ids := ["bb".toList], attempts := 1, target := 3, fulfillment := .short },
      .ok { ids := [], attempts := 0, target := 3, fulfillment := .empty }] := by
  rfl

end Generator
end Moniker
