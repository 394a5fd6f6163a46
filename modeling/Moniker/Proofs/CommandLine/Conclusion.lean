import Moniker.CommandLine.Run
import Moniker.Proofs.CommandLine.Checks
import Moniker.Proofs.Generator.Phases
import Moniker.Proofs.Report.Document
import Moniker.Proofs.Steps
import Moniker.Random.Stream

/-!
# How a command line ends

A run of a command line has five stages, and any of them may fail.  This module
says what each stage needs and when it fails, that the first failing stage is the
one that is reported, and that the status tells failures, empty reports and other
reports apart.
-/

namespace Moniker

variable {ρ : Type} [Chance ρ]

/-!
# Statuses

The codes of failures fit a byte, and none is the status of a report.
-/

namespace Failure

theorem exitCode_bounds (failure : Failure) :
    1 < failure.exitCode ∧ failure.exitCode < UInt8.size := by
  cases failure <;> exact of_decide_eq_true rfl

end Failure

namespace CommandLine

namespace Conclusion

theorem exitStatus_error (failure : Failure) :
    exitStatus (.error failure) = failure.exitCode := by
  show narrowed failure.exitCode = failure.exitCode
  rw [narrowed, if_pos failure.exitCode_bounds.right]

theorem exitStatus_eq_zero_iff {fulfillment : Fulfillment} :
    exitStatus (.ok fulfillment) = 0 <-> fulfillment ≠ .empty := by
  cases fulfillment <;> decide

theorem exitStatus_eq_one_iff {fulfillment : Fulfillment} :
    exitStatus (.ok fulfillment) = 1 <-> fulfillment = .empty := by
  cases fulfillment <;> decide

end Conclusion

/-!
# Stages

Bindings, settings and filters are made from the arguments and the files alone.
A template is compiled with bindings and settings, and the run needs them all.
-/

inductive Stage where
  | bindings
  | settings
  | filters
  | template
  | generation
  deriving DecidableEq

namespace Stage

def earlier : Stage -> List Stage
  | bindings => []
  | settings => [bindings]
  | filters => [bindings, settings]
  | template => [bindings, settings, filters]
  | generation => [bindings, settings, filters, template]

end Stage

namespace Arguments

variable {σ : Type}

inductive Asks (host : Host σ) (dialect : Dialect) (a : Arguments) (unseeded : ρ)
    (state : σ) : Generator ρ σ -> Prop
  | of {bindings : Bindings} {settings : Settings} {chain : Chain σ} {template : Template ρ} :
      a.bindings = .ok bindings ->
      a.settings host state = .ok settings ->
      a.chain host dialect state = .ok chain ->
      Template.compile (Generator.master settings unseeded) a.template bindings =
        .ok template ->
      Asks host dialect a unseeded state
        { template := template, chain := chain, settings := settings }

/-- A stage fails, whatever the other stages do that it does not need. -/
inductive Fails (host : Host σ) (dialect : Dialect) (a : Arguments) (unseeded : ρ)
    (state : σ) : Stage -> Failure -> Prop
  | bindings {failure : Failure} :
      a.bindings = .error failure -> Fails host dialect a unseeded state .bindings failure
  | settings {failure : Failure} :
      a.settings host state = .error failure ->
        Fails host dialect a unseeded state .settings failure
  | filters {failure : Failure} :
      a.chain host dialect state = .error failure ->
        Fails host dialect a unseeded state .filters failure
  | template {bindings : Bindings} {settings : Settings} {failure : Failure} :
      a.bindings = .ok bindings ->
      a.settings host state = .ok settings ->
      Template.compile (Generator.master settings unseeded) a.template bindings =
        .error failure ->
      Fails host dialect a unseeded state .template failure
  | generation {g : Generator ρ σ} {failure : Failure} :
      Asks host dialect a unseeded state g ->
      (g.generate state).1 = .error failure ->
      Fails host dialect a unseeded state .generation failure

/-- The stage fails, and no earlier one does. -/
structure FailsFirst (host : Host σ) (dialect : Dialect) (a : Arguments) (unseeded : ρ)
    (state : σ) (stage : Stage) (failure : Failure) : Prop where
  fails : Fails host dialect a unseeded state stage failure
  first : forall before, before ∈ stage.earlier ->
    forall other, ¬ Fails host dialect a unseeded state before other

variable {host : Host σ} {dialect : Dialect} {a : Arguments} {unseeded : ρ} {state : σ}

/-!
# The generator of a command line

The stages before the run make the generator, or the first of them that fails is
reported.
-/

theorem generator_of_asks {g : Generator ρ σ} (h : Asks host dialect a unseeded state g) :
    a.generator host dialect unseeded state = .ok g := by
  cases h with
  | of hbindings hsettings hchain htemplate =>
      unfold generator Generator.ofTemplate
      rw [hbindings, hsettings, hchain]
      show Template.compile _ _ _ >>= _ = _
      rw [htemplate]
      rfl

theorem generator_of_failsFirst {stage : Stage} {failure : Failure}
    (h : FailsFirst host dialect a unseeded state stage failure) (hstage : stage ≠ .generation) :
    a.generator host dialect unseeded state = .error failure := by
  -- What the stages before the failing one have made.
  have hmade (hbefore : Stage.bindings ∈ stage.earlier) :=
    Steps.exists_ok_of_forall_ne_error fun other hother =>
      h.first _ hbefore other (.bindings hother)
  have hset (hbefore : Stage.settings ∈ stage.earlier) :=
    Steps.exists_ok_of_forall_ne_error fun other hother =>
      h.first _ hbefore other (.settings hother)
  have hchained (hbefore : Stage.filters ∈ stage.earlier) :=
    Steps.exists_ok_of_forall_ne_error fun other hother =>
      h.first _ hbefore other (.filters hother)
  unfold generator Generator.ofTemplate
  cases h.fails with
  | bindings hfails =>
      rw [hfails]
      rfl
  | settings hfails =>
      rcases hmade (by decide) with ⟨bindings, hbindings⟩
      rw [hbindings, hfails]
      rfl
  | filters hfails =>
      rcases hmade (by decide) with ⟨bindings, hbindings⟩
      rcases hset (by decide) with ⟨settings, hsettings⟩
      rw [hbindings, hsettings, hfails]
      rfl
  | template hbindings hsettings hfails =>
      rcases hchained (by decide) with ⟨chain, hchain⟩
      rw [hbindings, hsettings, hchain]
      show Template.compile _ _ _ >>= _ = _
      rw [hfails]
      rfl
  | generation hasks hfails =>
      exact absurd rfl hstage

/-!
# The first failure
-/

theorem not_fails_bindings {bindings : Bindings} (h : a.bindings = .ok bindings)
    (other : Failure) : ¬ Fails host dialect a unseeded state .bindings other := by
  intro hfails
  cases hfails with
  | bindings hfails =>
      cases h.symm.trans hfails

theorem not_fails_settings {settings : Settings} (h : a.settings host state = .ok settings)
    (other : Failure) : ¬ Fails host dialect a unseeded state .settings other := by
  intro hfails
  cases hfails with
  | settings hfails =>
      cases h.symm.trans hfails

theorem not_fails_filters {chain : Chain σ} (h : a.chain host dialect state = .ok chain)
    (other : Failure) : ¬ Fails host dialect a unseeded state .filters other := by
  intro hfails
  cases hfails with
  | filters hfails =>
      cases h.symm.trans hfails

theorem not_fails_template {g : Generator ρ σ} (h : Asks host dialect a unseeded state g)
    (other : Failure) : ¬ Fails host dialect a unseeded state .template other := by
  cases h with
  | of hbindings hsettings hchain htemplate =>
      intro hfails
      cases hfails with
      | template hbindings' hsettings' hfails =>
          cases hbindings.symm.trans hbindings'
          cases hsettings.symm.trans hsettings'
          cases htemplate.symm.trans hfails

theorem asks_or_failsFirst (host : Host σ) (dialect : Dialect) (a : Arguments)
    (unseeded : ρ) (state : σ) :
    (exists g, Asks host dialect a unseeded state g) ∨
      exists stage failure, stage ≠ .generation ∧
        FailsFirst host dialect a unseeded state stage failure := by
  rcases Steps.error_or_ok a.bindings with ⟨failure, hfails⟩ | ⟨bindings, hbindings⟩
  · exact Or.inr ⟨.bindings, failure, by decide, .bindings hfails, by simp [Stage.earlier]⟩
  rcases Steps.error_or_ok (a.settings host state) with ⟨failure, hfails⟩ | ⟨settings, hsettings⟩
  · refine Or.inr ⟨.settings, failure, by decide, .settings hfails, ?_⟩
    simpa [Stage.earlier] using not_fails_bindings hbindings
  rcases Steps.error_or_ok (a.chain host dialect state) with
    ⟨failure, hfails⟩ | ⟨chain, hchain⟩
  · refine Or.inr ⟨.filters, failure, by decide, .filters hfails, ?_⟩
    simpa [Stage.earlier] using ⟨not_fails_bindings hbindings, not_fails_settings hsettings⟩
  rcases Steps.error_or_ok
      (Template.compile (Generator.master settings unseeded) a.template bindings) with
    ⟨failure, hfails⟩ | ⟨template, htemplate⟩
  · refine Or.inr ⟨.template, failure, by decide, .template hbindings hsettings hfails, ?_⟩
    simpa [Stage.earlier] using
      ⟨not_fails_bindings hbindings, not_fails_settings hsettings, not_fails_filters hchain⟩
  · exact Or.inl ⟨_, .of hbindings hsettings hchain htemplate⟩

theorem failsFirst_generation {g : Generator ρ σ} {failure : Failure}
    (h : Asks host dialect a unseeded state g) (hfails : (g.generate state).1 = .error failure) :
    FailsFirst host dialect a unseeded state .generation failure := by
  refine ⟨.generation h hfails, ?_⟩
  have htemplate := not_fails_template h
  cases h with
  | of hbindings hsettings hchain =>
      simpa [Stage.earlier] using
        ⟨not_fails_bindings hbindings, not_fails_settings hsettings,
          not_fails_filters hchain, htemplate⟩

/-!
# Conclusions
-/

theorem run_of_error {failure : Failure}
    (h : a.generator host dialect unseeded state = .error failure) :
    a.run host dialect unseeded state = ({ outcome := .error failure }, state) := by
  rw [run, h]

theorem run_of_ok {g : Generator ρ σ} (h : a.generator host dialect unseeded state = .ok g) :
    a.run host dialect unseeded state =
      (Conclusion.ofReport a.layout (g.generate state).1, (g.generate state).2.2) := by
  rw [run, h]

theorem outcome_ofReport_eq_error_iff {layout : Report.Layout} {answer : Except Failure Report}
    {failure : Failure} :
    (Conclusion.ofReport layout answer).outcome = .error failure <-> answer = .error failure := by
  cases answer with
  | error other =>
      simp [Conclusion.ofReport]
  | ok report =>
      simp [Conclusion.ofReport]

theorem outcome_eq_error_iff (host : Host σ) (dialect : Dialect) (a : Arguments)
    (unseeded : ρ) (state : σ) (failure : Failure) :
    (a.run host dialect unseeded state).1.outcome = .error failure <->
      exists stage, FailsFirst host dialect a unseeded state stage failure := by
  constructor
  · intro h
    rcases asks_or_failsFirst host dialect a unseeded state with
      ⟨g, hasks⟩ | ⟨stage, other, hstage, hfirst⟩
    · rw [run_of_ok (generator_of_asks hasks)] at h
      exact ⟨.generation, failsFirst_generation hasks (outcome_ofReport_eq_error_iff.mp h)⟩
    · rw [run_of_error (generator_of_failsFirst hfirst hstage)] at h
      cases h
      exact ⟨stage, hfirst⟩
  · rintro ⟨stage, hfirst⟩
    by_cases hstage : stage = .generation
    · subst hstage
      cases hfirst.fails with
      | generation hasks hfails =>
          rw [run_of_ok (generator_of_asks hasks)]
          exact outcome_ofReport_eq_error_iff.mpr hfails
    · rw [run_of_error (generator_of_failsFirst hfirst hstage)]

theorem conclusion_of_error {failure : Failure}
    (h : (a.run host dialect unseeded state).1.outcome = .error failure) :
    (a.run host dialect unseeded state).1 = { outcome := .error failure } := by
  rcases Steps.error_or_ok (a.generator host dialect unseeded state) with
    ⟨other, hgenerator⟩ | ⟨g, hgenerator⟩
  · rw [run_of_error hgenerator] at h ⊢
    cases h
    rfl
  · rw [run_of_ok hgenerator] at h ⊢
    rw [outcome_ofReport_eq_error_iff.mp h]
    rfl

theorem exists_report_of_ok {fulfillment : Fulfillment}
    (h : (a.run host dialect unseeded state).1.outcome = .ok fulfillment) :
    exists g report, Asks host dialect a unseeded state g ∧ (g.generate state).1 = .ok report ∧
      a.run host dialect unseeded state =
        ({ outcome := .ok report.fulfillment, printed := report.text a.layout },
          (g.generate state).2.2) := by
  rcases asks_or_failsFirst host dialect a unseeded state with
    ⟨g, hasks⟩ | ⟨stage, other, hstage, hfirst⟩
  · cases hanswer : (g.generate state).1 with
    | error other =>
        rw [run_of_ok (generator_of_asks hasks), outcome_ofReport_eq_error_iff.mpr hanswer] at h
        cases h
    | ok report =>
        refine ⟨g, report, hasks, hanswer, ?_⟩
        rw [run_of_ok (generator_of_asks hasks), hanswer]
        rfl
  · rw [run_of_error (generator_of_failsFirst hfirst hstage)] at h
    cases h

theorem text_layout (a : Arguments) (report : Report) :
    report.text a.layout =
      if a.json then report.document
      else if a.columns then Report.columns report.ids a.width
      else Report.lines report.ids := by
  unfold layout
  cases a.json with
  | true =>
      rfl
  | false =>
      cases a.columns <;> rfl

/-- The first stage that fails is reported, nothing is printed then, and the status is
the code of the failure.  Otherwise the report of the one run of the generator is
printed in the layout that was asked for, JSON holding all of it, and the status tells
whether it is empty. -/
theorem run_prints_all_or_nothing (host : Host σ) (dialect : Dialect) (a : Arguments)
    (unseeded : ρ) (state : σ) :
    (forall failure, (a.run host dialect unseeded state).1.outcome = .error failure <->
        exists stage, FailsFirst host dialect a unseeded state stage failure) ∧
      (forall failure, (a.run host dialect unseeded state).1.outcome = .error failure ->
        (a.run host dialect unseeded state).1.printed = [] ∧
        Conclusion.exitStatus (a.run host dialect unseeded state).1.outcome = failure.exitCode ∧
        failure.exitCode ≠ 0 ∧ failure.exitCode ≠ 1) ∧
      forall fulfillment, (a.run host dialect unseeded state).1.outcome = .ok fulfillment ->
        exists g report, Asks host dialect a unseeded state g ∧
          (g.generate state).1 = .ok report ∧
          (a.run host dialect unseeded state).2 = (g.generate state).2.2 ∧
          fulfillment = report.fulfillment ∧
          (a.run host dialect unseeded state).1.printed =
            (if a.json then report.document
              else if a.columns then Report.columns report.ids a.width
              else Report.lines report.ids) ∧
          (a.json = true -> Json.read? (a.run host dialect unseeded state).1.printed =
            some report.value) ∧
          (Conclusion.exitStatus (a.run host dialect unseeded state).1.outcome = 0 <->
            report.ids ≠ []) ∧
          (Conclusion.exitStatus (a.run host dialect unseeded state).1.outcome = 1 <->
            report.ids = []) := by
  refine ⟨outcome_eq_error_iff host dialect a unseeded state, ?_, ?_⟩
  · intro failure h
    have hcode := failure.exitCode_bounds.left
    rw [conclusion_of_error h]
    exact ⟨rfl, Conclusion.exitStatus_error failure,
      Nat.ne_of_gt (Nat.zero_lt_of_lt hcode), Nat.ne_of_gt hcode⟩
  · intro fulfillment h
    rcases exists_report_of_ok h with ⟨g, report, hasks, hreport, hrun⟩
    have hempty := ((g.conducts state).graded report hreport).empty_iff
    rw [hrun] at h ⊢
    refine ⟨g, report, hasks, hreport, rfl, (Except.ok.inj h).symm, text_layout a report, ?_,
      Conclusion.exitStatus_eq_zero_iff.trans hempty.not,
      Conclusion.exitStatus_eq_one_iff.trans hempty⟩
    intro hjson
    show Json.read? (report.text a.layout) = _
    rw [text_layout, if_pos hjson, report.read?_document]

/-- A host without files, on which every command fails. -/
def bareHost : Host Unit where
  openFile _ _ := .error .notFound
  runCommand _ _ state := (.ok false, state)

def unsigned : Arguments where
  template := []
  data := ["no".toList]
  blacklist := true

def counted : Arguments where
  template := "n++".toList
  data := ["n=01".toList]
  target? := some 2
  json := true

def barred : Arguments where
  template := "=ab".toList
  patterns := ["a".toList]

def pair : Report :=
  Report.ofIds 2 2 ["0".toList, "1".toList]

/-- The data are reported and not the word list.  Two identifiers are printed in each of
the layouts, with success.  Nothing is printed, without success, if a pattern refuses the
only candidate. -/
theorem run_prints_all_or_nothing_bare :
    ((unsigned.run bareHost lettersOnly (Stream.ofSeed 3) ()).1.printed = [] ∧
      exists stage, FailsFirst bareHost lettersOnly unsigned (Stream.ofSeed 3) () stage
        (.badKey "no".toList)) ∧
      ((counted.run bareHost lettersOnly (Stream.ofSeed 3) ()).1.printed = pair.document ∧
        pair.document =
          "\x7b\n  \"ids\": [\n    \"0\",\n    \"1\"\n  ],\n  \"attempts\": 2,\n".toList
            ++ "  \"target_count\": 2,\n  \"fulfillment\": \"complete\"\n\x7d".toList ∧
        Json.read? pair.document = some pair.value ∧
        Conclusion.exitStatus
          (counted.run bareHost lettersOnly (Stream.ofSeed 3) ()).1.outcome = 0) ∧
      ({ counted with json := false, columns := true }.run bareHost lettersOnly
        (Stream.ofSeed 3) ()).1.printed = "0 1\n".toList ∧
      ({ counted with json := false }.run bareHost lettersOnly
        (Stream.ofSeed 3) ()).1.printed = "0\n1\n".toList ∧
      (barred.run bareHost lettersOnly (Stream.ofSeed 3) ()).1.printed = [] ∧
      Conclusion.exitStatus (barred.run bareHost lettersOnly (Stream.ofSeed 3) ()).1.outcome =
        1 := by
  generalize Stream.ofSeed 3 = unseeded
  refine ⟨?_, ?_, ?_, rfl, rfl, rfl⟩
  · have hrun := run_prints_all_or_nothing bareHost lettersOnly unsigned unseeded ()
    exact ⟨(hrun.right.left _ rfl).left, (hrun.left _).mp rfl⟩
  · have hrun := run_prints_all_or_nothing bareHost lettersOnly counted unseeded ()
    have hprinted : (counted.run bareHost lettersOnly unseeded ()).1.printed = pair.document :=
      rfl
    rcases hrun.right.right .complete rfl with ⟨_, report, _, _, _, _, hlayout, hread, _, _⟩
    have hreport : report = pair :=
      Report.document_injective (hlayout.symm.trans hprinted)
    rw [hprinted, hreport] at hread
    exact ⟨hprinted, rfl, hread rfl, rfl⟩
  · have hprinted : ({ counted with json := false, columns := true }.run bareHost lettersOnly
        unseeded ()).1.printed = Report.columns pair.ids 80 :=
      rfl
    rw [hprinted]
    decide +kernel

end Arguments
end CommandLine
end Moniker
