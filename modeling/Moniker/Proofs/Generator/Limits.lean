import Moniker.Proofs.Generator.Minutes

/-!
# The limits of a run

The attempts of a run know neither its target nor its ceiling.  So two runs that
differ in nothing else are in step until one of them stops: a higher ceiling does
not change a run that finished below it, and a smaller target only stops it
earlier.
-/

namespace Moniker

variable {ρ σ : Type} [Chance ρ]

namespace Run

variable {chain : Chain σ} {target target' left left' j k : Nat} {run last : Run ρ σ}

/-!
# What attempts leave

An attempt is counted, and keeps at most one more identifier.
-/

theorem judge_frame {ρ : Type} (chain : Chain σ) (candidate : Text) (run : Run ρ σ) :
    (run.judge chain candidate).2.attempts = run.attempts ∧
      exists ids, (run.judge chain candidate).2.kept.toList = run.kept.toList ++ ids ∧
        ids.length ≤ 1 := by
  cases hkept : run.kept.contains candidate with
  | true =>
      exact ⟨by simp [judge, hkept], [], by simp [judge, hkept], Nat.zero_le 1⟩
  | false =>
      rcases hanswer : chain.accepts candidate run.state with ⟨answer, state⟩
      cases answer with
      | error failure =>
          exact ⟨by simp [judge, hkept, hanswer], [], by simp [judge, hkept, hanswer],
            Nat.zero_le 1⟩
      | ok accepted =>
          cases accepted with
          | false =>
              exact ⟨by simp [judge, hkept, hanswer], [], by simp [judge, hkept, hanswer],
                Nat.zero_le 1⟩
          | true =>
              exact ⟨by simp [judge, hkept, hanswer], [candidate],
                by simp [judge, hkept, hanswer], Nat.le_refl 1⟩

theorem attempt_frame (chain : Chain σ) (run : Run ρ σ) :
    (run.attempt chain).2.attempts = run.attempts + 1 ∧
      exists ids, (run.attempt chain).2.kept.toList = run.kept.toList ++ ids ∧
        ids.length ≤ 1 := by
  cases hnext : run.template.next.1 with
  | error failure =>
      rw [attempt_of_next_error hnext]
      exact ⟨rfl, [], (List.append_nil _).symm, Nat.zero_le 1⟩
  | ok candidate =>
      rw [attempt_of_next_ok hnext]
      exact judge_frame chain candidate _

theorem attempts_after (chain : Chain σ) (run : Run ρ σ) (k : Nat) :
    (after (attempt chain) k run).attempts = run.attempts + k := by
  induction k with
  | zero =>
      rfl
  | succ k ih =>
      rw [after_succ_eq_next, (attempt_frame chain _).left, ih, Nat.add_assoc]

theorem kept_prefix_after (chain : Chain σ) (run : Run ρ σ) (h : j ≤ k) :
    (after (attempt chain) j run).kept.toList <+: (after (attempt chain) k run).kept.toList := by
  rcases Nat.exists_eq_add_of_le h with ⟨rest, rfl⟩
  rw [after_add]
  apply after_preserves
    (P := fun r : Run ρ σ => (after (attempt chain) j run).kept.toList <+: r.kept.toList) _ rest
    (List.prefix_refl _)
  intro r hr
  rcases (attempt_frame chain r).right with ⟨ids, hids, _⟩
  rw [hids]
  exact hr.trans (List.prefix_append _ _)

theorem Proceeds.length_kept_le (h : Proceeds chain target run k)
    (hkept : run.kept.toList.length ≤ target) :
    (after (attempt chain) k run).kept.toList.length ≤ target := by
  cases k with
  | zero =>
      exact hkept
  | succ k =>
      have hopen : ¬ target ≤ (after (attempt chain) k run).kept.toList.length := by
        intro hquota
        have hfinished := (finished_eq_true_iff _ target).mpr (Or.inr hquota)
        rw [(h k (Nat.lt_succ_self k)).left] at hfinished
        cases hfinished
      rcases (attempt_frame chain (after (attempt chain) k run)).right with ⟨ids, hids, hlength⟩
      rw [after_succ_eq_next, hids, List.length_append]
      omega

/-!
# Runs that finish
-/

theorem Proceeds.tail (h : Proceeds chain target run (k + 1)) :
    Proceeds chain target (run.attempt chain).2 k :=
  fun i hi => h (i + 1) (Nat.succ_lt_succ hi)

theorem toEnd_of_proceeds (hk : k ≤ left) (h : Proceeds chain target run k)
    (hfinished : (after (attempt chain) k run).finished target = true) :
    run.toEnd chain target left = (.finished, after (attempt chain) k run) := by
  induction k generalizing run left with
  | zero =>
      rw [after_zero] at hfinished
      cases left with
      | zero | succ left =>
          simp [toEnd, hfinished]
  | succ k ih =>
      cases left with
      | zero =>
          exact absurd hk (Nat.not_succ_le_zero k)
      | succ left =>
          rcases h 0 (Nat.succ_pos k) with ⟨hopen, hok⟩
          rw [after_zero] at hopen hok
          have hrest := ih (Nat.le_of_succ_le_succ hk) h.tail hfinished
          rcases hattempt : run.attempt chain with ⟨answer, run'⟩
          rw [hattempt] at hok hrest
          cases hok
          rw [after_succ, toEnd, hopen, hattempt]
          exact hrest

theorem toEnd_eq_finished_iff :
    run.toEnd chain target left = (.finished, last) <->
      exists k, k ≤ left ∧ Proceeds chain target run k ∧ last = after (attempt chain) k run ∧
        last.finished target = true := by
  constructor
  · intro h
    have hends := toEnd_ends chain target left run
    rw [h] at hends
    cases hends with
    | finished hk hproceeds hfinished =>
        exact ⟨_, hk, hproceeds, rfl, hfinished⟩
  · intro h
    rcases h with ⟨k, hk, hproceeds, rfl, hfinished⟩
    exact toEnd_of_proceeds hk hproceeds hfinished

theorem toEnd_of_le (h : run.toEnd chain target left = (.finished, last)) (hleft : left ≤ left') :
    run.toEnd chain target left' = (.finished, last) := by
  rcases toEnd_eq_finished_iff.mp h with ⟨k, hk, hrest⟩
  exact toEnd_eq_finished_iff.mpr ⟨k, Nat.le_trans hk hleft, hrest⟩

theorem finished_of_le {ρ : Type} {run : Run ρ σ} (h : run.finished target = true)
    (hle : target' ≤ target) :
    run.finished target' = true := by
  apply (finished_eq_true_iff run target').mpr
  cases (finished_eq_true_iff run target).mp h with
  | inl hspent =>
      exact Or.inl hspent
  | inr hquota =>
      exact Or.inr (Nat.le_trans hle hquota)

theorem Proceeds.exists_first (h : Proceeds chain target run k)
    (hfinished : (after (attempt chain) k run).finished target' = true) :
    exists j, j ≤ k ∧ Proceeds chain target' run j ∧
      (after (attempt chain) j run).finished target' = true := by
  have hexists : exists j, (after (attempt chain) j run).finished target' = true :=
    ⟨k, hfinished⟩
  have hle : Nat.find hexists ≤ k := Nat.find_min' hexists hfinished
  refine ⟨Nat.find hexists, hle, ?_, Nat.find_spec hexists⟩
  intro i hi
  exact ⟨Bool.eq_false_iff.mpr (Nat.find_min hexists hi),
    (h i (Nat.lt_of_lt_of_le hi hle)).right⟩

theorem toEnd_of_target_le (h : run.toEnd chain target left = (.finished, last))
    (hle : target' ≤ target) (hkept : run.kept.toList.length ≤ target') :
    exists last', run.toEnd chain target' left = (.finished, last') ∧
      last'.kept.toList = last.kept.toList.take target' ∧ last'.attempts ≤ last.attempts := by
  rcases toEnd_eq_finished_iff.mp h with ⟨k, hk, hproceeds, rfl, hfinished⟩
  rcases hproceeds.exists_first (finished_of_le hfinished hle) with
    ⟨j, hj, hproceeds', hfinished'⟩
  have hlength := hproceeds'.length_kept_le hkept
  refine ⟨_, toEnd_of_proceeds (Nat.le_trans hj hk) hproceeds' hfinished', ?_, ?_⟩
  · cases (finished_eq_true_iff _ target').mp hfinished' with
    | inr hquota =>
        have hprefix := List.prefix_iff_eq_take.mp (kept_prefix_after chain run hj)
        rwa [Nat.le_antisymm hlength hquota] at hprefix
    | inl hspent =>
        -- A spent template stops the run for any target, so the two runs stop together.
        have hstopped : (after (attempt chain) j run).finished target = true :=
          (finished_eq_true_iff _ target).mpr (Or.inl hspent)
        have hjk : j = k := by
          apply Nat.le_antisymm hj
          apply Nat.le_of_not_lt
          intro hlt
          rw [(hproceeds j hlt).left] at hstopped
          cases hstopped
        subst hjk
        exact (List.take_of_length_le hlength).symm
  · rw [attempts_after, attempts_after]
    exact Nat.add_le_add_left hj run.attempts

end Run

/-!
# Two generators

The second generator starts from the template, the filters and the state of the
filters of the first one.
-/

namespace Generator

theorem ran_of_eq {g g' : Generator ρ σ} (htemplate : g'.template = g.template)
    (hchain : g'.chain = g.chain) (state : σ) :
    g'.ran state =
      (Run.start g.template state).toEnd g.chain g'.settings.target g'.settings.maxAttempts := by
  rw [ran, htemplate, hchain]

/-- A report is the same under any higher ceiling, and so is what the run leaves.
Under a smaller target there is a report of the first identifiers, after no more
attempts. -/
theorem generate_limits (g g' : Generator ρ σ) {g₁ : Generator ρ σ} {state state₁ : σ}
    {report : Report} (htemplate : g'.template = g.template) (hchain : g'.chain = g.chain)
    (h : g.generate state = (.ok report, g₁, state₁)) :
    (g'.settings.target = g.settings.target ->
        g.settings.maxAttempts ≤ g'.settings.maxAttempts ->
          g'.generate state =
            (.ok report, { g' with template := g₁.template, phase := g₁.phase }, state₁)) ∧
      (g'.settings.target ≤ g.settings.target ->
        g'.settings.maxAttempts = g.settings.maxAttempts ->
          exists report', (g'.generate state).1 = .ok report' ∧
            report'.ids = report.ids.take (min g'.settings.target report.ids.length) ∧
            report'.attempts ≤ report.attempts) := by
  have hreport := report_of_ok (congrArg Prod.fst h)
  rw [generate_eq_ran] at h
  have hran : (Run.start g.template state).toEnd g.chain g.settings.target
      g.settings.maxAttempts = (.finished, (g.ran state).2) :=
    Prod.ext hreport.left rfl
  rw [hreport.left] at h
  cases h
  constructor
  · intro htarget hceiling
    rw [generate_eq_ran, ran_of_eq htemplate hchain, htarget, Run.toEnd_of_le hran hceiling]
    simp only [answer, htarget]
  · intro htarget hceiling
    rcases Run.toEnd_of_target_le hran htarget (Nat.zero_le _) with
      ⟨last', hlast', hkept, hattempts⟩
    refine ⟨Report.ofIds g'.settings.target last'.attempts last'.kept.toList, ?_,
      hkept.trans List.take_eq_take_min, hattempts⟩
    rw [generate_eq_ran, ran_of_eq htemplate hchain, hceiling, hlast']
    rfl

/-- Two identifiers are found in three attempts, and so they are if five are
allowed; one identifier is the first of them. -/
theorem generate_limits_pairs :
    (exists g', (pairs 5).generate () =
      (.ok
        { ids := ["xaa".toList, "xba".toList]
          attempts := 3
          target := 2
          fulfillment := .complete }, g', ())) ∧
      exists report,
        (({ pairs 3 with settings := { target := 1, maxAttempts := 3 } } :
            Generator Stream Unit).generate ()).1 = .ok report ∧
          report.ids = ["xaa".toList] ∧ report.attempts ≤ 3 := by
  have h : (pairs 3).generate () =
      (.ok
        { ids := ["xaa".toList, "xba".toList]
          attempts := 3
          target := 2
          fulfillment := .complete }, ((pairs 3).generate ()).2.1, ()) := rfl
  constructor
  · exact ⟨_, (generate_limits (pairs 3) (pairs 5) rfl rfl h).left rfl (by decide)⟩
  · rcases (generate_limits (pairs 3)
      { pairs 3 with settings := { target := 1, maxAttempts := 3 } } rfl rfl h).right
      (by decide) rfl with ⟨report, hreport, hids, hattempts⟩
    exact ⟨report, hreport, hids, hattempts⟩

end Generator
end Moniker
