import Moniker.Filter.Blacklist
import Moniker.Generator
import Moniker.Proofs.Course
import Moniker.Random.Stream
import Mathlib.Data.Nat.Find
import Mathlib.Order.Bounds.Basic

/-!
# What a generator collects

A run makes one attempt after the other until it is finished, its attempts are
used up or one of them fails.  When the filters decide by a predicate, the whole
run is a function of the candidates of the template: it keeps the accepted ones
in the order in which they first come up, and it stops at the first candidate
that fills the quota or spends the template.
-/

namespace Moniker

variable {ρ : Type} [Chance ρ]

/-!
# Runs as repeated attempts

What `toEnd` answers is told by the first attempt at which the run does not go
on.
-/

namespace Run

variable {σ : Type}

theorem finished_eq_true_iff {ρ : Type} (run : Run ρ σ) (target : Nat) :
    run.finished target = true <->
      run.template.live = false ∨ target ≤ run.kept.toList.length := by
  rw [finished, run.kept.size_eq_length]
  simp

/-- The first `k` attempts of a run are made, and none of them fails. -/
def Proceeds (chain : Chain σ) (target : Nat) (run : Run ρ σ) (k : Nat) : Prop :=
  forall i, i < k ->
    (after (attempt chain) i run).finished target = false ∧
      ((after (attempt chain) i run).attempt chain).1 = .ok ()

theorem Proceeds.cons {chain : Chain σ} {target : Nat} {run : Run ρ σ} {k : Nat}
    (hfinished : run.finished target = false) (hok : (run.attempt chain).1 = .ok ())
    (h : Proceeds chain target (run.attempt chain).2 k) :
    Proceeds chain target run (k + 1) := by
  intro i hi
  cases i with
  | zero =>
      exact ⟨hfinished, hok⟩
  | succ i =>
      exact h i (Nat.lt_of_succ_lt_succ hi)

/-- How a run ends that has some attempts left: it is finished, it has used them
up, or the next attempt fails. -/
inductive Ends (chain : Chain σ) (target left : Nat) (run : Run ρ σ) :
    Ending × Run ρ σ -> Prop where
  | finished {k : Nat} :
      k ≤ left -> Proceeds chain target run k ->
        (after (attempt chain) k run).finished target = true ->
        Ends chain target left run (.finished, after (attempt chain) k run)
  | limit :
      Proceeds chain target run left ->
        (after (attempt chain) left run).finished target = false ->
        Ends chain target left run (.limit, after (attempt chain) left run)
  | failed {k : Nat} {failure : Failure} :
      k < left -> Proceeds chain target run k ->
        (after (attempt chain) k run).finished target = false ->
        ((after (attempt chain) k run).attempt chain).1 = .error failure ->
        Ends chain target left run (.failed failure, after (attempt chain) (k + 1) run)

theorem Proceeds.zero (chain : Chain σ) (target : Nat) (run : Run ρ σ) :
    Proceeds chain target run 0 :=
  fun i hi => absurd hi (Nat.not_lt_zero i)

theorem Ends.cons {chain : Chain σ} {target left : Nat} {run : Run ρ σ} {ending : Ending × Run ρ σ}
    (hfinished : run.finished target = false) (hok : (run.attempt chain).1 = .ok ())
    (h : Ends chain target left (run.attempt chain).2 ending) :
    Ends chain target (left + 1) run ending := by
  cases h with
  | finished hk hproceeds hend =>
      exact .finished (Nat.succ_le_succ hk) (hproceeds.cons hfinished hok) hend
  | limit hproceeds hend =>
      exact .limit (hproceeds.cons hfinished hok) hend
  | failed hk hproceeds hend hfailure =>
      exact .failed (Nat.succ_lt_succ hk) (hproceeds.cons hfinished hok) hend hfailure

theorem toEnd_ends (chain : Chain σ) (target left : Nat) (run : Run ρ σ) :
    Ends chain target left run (run.toEnd chain target left) := by
  induction left generalizing run with
  | zero =>
      cases hfinished : run.finished target with
      | true =>
          have hend : run.toEnd chain target 0 = (.finished, run) := by
            simp [toEnd, hfinished]
          rw [hend]
          exact .finished (Nat.le_refl 0) (Proceeds.zero chain target run) hfinished
      | false =>
          have hend : run.toEnd chain target 0 = (.limit, run) := by
            simp [toEnd, hfinished]
          rw [hend]
          exact .limit (Proceeds.zero chain target run) hfinished
  | succ left ih =>
      cases hfinished : run.finished target with
      | true =>
          have hend : run.toEnd chain target (left + 1) = (.finished, run) := by
            simp [toEnd, hfinished]
          rw [hend]
          exact .finished (Nat.zero_le _) (Proceeds.zero chain target run) hfinished
      | false =>
          rcases hattempt : run.attempt chain with ⟨answer, run'⟩
          cases answer with
          | error failure =>
              have hend : run.toEnd chain target (left + 1) = (.failed failure, run') := by
                simp [toEnd, hfinished, hattempt]
              have hrun : run' = after (attempt chain) 1 run := by
                rw [after_succ, hattempt]
                rfl
              have hfailure : (run.attempt chain).1 = .error failure := by
                rw [hattempt]
              rw [hend, hrun]
              exact .failed (Nat.succ_pos left) (Proceeds.zero chain target run) hfinished hfailure
          | ok _ =>
              have hend : run.toEnd chain target (left + 1) =
                  (run.attempt chain).2.toEnd chain target left := by
                simp [toEnd, hfinished, hattempt]
              have hok : (run.attempt chain).1 = .ok () := by
                rw [hattempt]
              rw [hend]
              exact (ih (run.attempt chain).2).cons hfinished hok

end Run

/-!
# The accepted candidates

Of the first candidates of a template, those that a predicate accepts are kept,
each where it first came up.
-/

theorem eraseDups_concat (texts : List Text) (text : Text) :
    (texts ++ [text]).eraseDups =
      if text ∈ texts then texts.eraseDups else texts.eraseDups ++ [text] := by
  rw [List.eraseDups_append]
  by_cases h : text ∈ texts
  · simp [List.removeAll, h]
  · simp [List.removeAll, h, List.eraseDups_cons]

namespace Template

/-- The different accepted texts among the first `n` candidates, in the order in
which they first come up. -/
def accepted (t : Template ρ) (accepts : Text -> Bool) (n : Nat) : List Text :=
  ((t.candidates n).filter accepts).eraseDups

theorem accepted_succ (t : Template ρ) (accepts : Text -> Bool) (n : Nat) :
    t.accepted accepts (n + 1) =
      if accepts (t.candidate n) = true ∧ t.candidate n ∉ t.accepted accepts n then
        t.accepted accepts n ++ [t.candidate n]
      else
        t.accepted accepts n := by
  rw [accepted, accepted, candidates_succ, List.filter_append]
  by_cases h : accepts (t.candidate n) = true
  · rw [List.filter_cons_of_pos h, List.filter_nil, eraseDups_concat]
    by_cases hmem : t.candidate n ∈ (t.candidates n).filter accepts
    · simp [hmem, List.mem_eraseDups]
    · simp [hmem, h, List.mem_eraseDups]
  · simp [h]

end Template

/-!
# Filters that decide

A filter decides by a predicate if no judgement fails and none depends on the
state that the filters have come to.  A chain of such filters decides by all
their predicates together.
-/

def Filter.Decides {σ : Type} (f : Filter σ) (accepts : Text -> Bool) : Prop :=
  forall candidate state, (f.accepts candidate state).1 = .ok (accepts candidate)

def Chain.Decides {σ : Type} (chain : Chain σ) (accepts : Text -> Bool) : Prop :=
  forall candidate state, (chain.accepts candidate state).1 = .ok (accepts candidate)

theorem Chain.acceptsBy_of_decides {σ : Type} {filters : List (Filter σ)}
    {accepts : Filter σ -> Text -> Bool}
    (h : forall f, f ∈ filters -> f.Decides (accepts f)) (candidate : Text) (state : σ) :
    (acceptsBy filters candidate state).1 = .ok (filters.all (accepts · candidate)) := by
  induction filters generalizing state with
  | nil =>
      rfl
  | cons f rest ih =>
      have hf := h f List.mem_cons_self candidate state
      have hrest := ih fun g hg => h g (List.mem_cons_of_mem f hg)
      rw [List.all_cons]
      cases haccepts : accepts f candidate with
      | true =>
          rw [haccepts] at hf
          rw [acceptsBy_cons_of_accepts hf, hrest, Bool.true_and]
      | false =>
          rw [haccepts] at hf
          rw [acceptsBy_cons_of_not_accepts (by simp [hf]), hf, Bool.false_and]

theorem Chain.decides_of_filters {σ : Type} {chain : Chain σ} {accepts : Text -> Bool}
    {p : Filter σ -> Text -> Bool} (h : forall f, f ∈ chain.filters -> f.Decides (p f))
    (hall : forall candidate, chain.filters.all (p · candidate) = accepts candidate) :
    chain.Decides accepts := by
  intro candidate state
  rw [Chain.accepts, acceptsBy_of_decides h, hall]

theorem Chain.decides_blacklist {σ : Type} (list : Blacklist) :
    ({ filters := [list.filter] } : Chain σ).Decides list.accepts := by
  apply decides_of_filters (p := fun _ => list.accepts)
  · intro f hf candidate state
    cases List.mem_singleton.mp hf
    rfl
  · intro candidate
    exact Bool.and_true _

/-!
# Runs with a chain that decides

After `n` attempts the run holds the template after `n` steps and the accepted
ones among the first `n` candidates.  No attempt fails.
-/

namespace Run

variable {σ : Type} {chain : Chain σ} {accepts : Text -> Bool}

theorem judge_of_decides {ρ : Type} (hchain : chain.Decides accepts) (candidate : Text)
    (run : Run ρ σ) :
    (run.judge chain candidate).1 = .ok () ∧
      (run.judge chain candidate).2.template = run.template ∧
      (run.judge chain candidate).2.attempts = run.attempts ∧
      (run.judge chain candidate).2.kept.toList =
        if accepts candidate = true ∧ candidate ∉ run.kept.toList then
          run.kept.toList ++ [candidate]
        else
          run.kept.toList := by
  by_cases hkept : run.kept.contains candidate = true
  · have hmem : candidate ∈ run.kept.toList := (run.kept.contains_iff candidate).mp hkept
    simp [judge, hkept, hmem]
  · have hmem : candidate ∉ run.kept.toList :=
      fun h => hkept ((run.kept.contains_iff candidate).mpr h)
    rcases hjudgement : chain.accepts candidate run.state with ⟨answer, state⟩
    have hanswer : answer = .ok (accepts candidate) := by
      rw [← hchain candidate run.state, hjudgement]
    cases haccepts : accepts candidate with
    | true =>
        simp [judge, hkept, hjudgement, hanswer, haccepts, hmem]
    | false =>
        simp [judge, hkept, hjudgement, hanswer, haccepts]

/-- What a run has come to after `n` attempts on a template. -/
structure At (t : Template ρ) (accepts : Text -> Bool) (n : Nat) (run : Run ρ σ) : Prop where
  template_eq : run.template = after Template.next n t
  kept_eq : run.kept.toList = t.accepted accepts n
  attempts_eq : run.attempts = n

theorem At.start (t : Template ρ) (accepts : Text -> Bool) (state : σ) :
    At t accepts 0 { template := t, state := state } where
  template_eq := rfl
  kept_eq := rfl
  attempts_eq := rfl

theorem At.attempt {t : Template ρ} {n : Nat} {run : Run ρ σ} (hchain : chain.Decides accepts)
    (htemplate : t.NeverFails) (h : At t accepts n run) :
    (run.attempt chain).1 = .ok () ∧ At t accepts (n + 1) (run.attempt chain).2 := by
  have hnext : run.template.next = (.ok (t.candidate n), after Template.next (n + 1) t) := by
    rw [h.template_eq, Template.next_after htemplate]
  have hattempt : run.attempt chain =
      Run.judge chain (t.candidate n)
        { run with
          template := after Template.next (n + 1) t
          attempts := run.attempts + 1 } := by
    simp [Run.attempt, hnext]
  rcases judge_of_decides hchain (t.candidate n)
      { run with
        template := after Template.next (n + 1) t
        attempts := run.attempts + 1 } with ⟨hok, htemplate', hattempts, hkept⟩
  rw [hattempt]
  refine ⟨hok, htemplate', ?_, ?_⟩
  · rw [hkept, t.accepted_succ, h.kept_eq]
  · rw [hattempts, h.attempts_eq]

theorem At.after_attempts {t : Template ρ} (hchain : chain.Decides accepts)
    (htemplate : t.NeverFails) (state : σ) (n : Nat) :
    At t accepts n (after (Run.attempt chain) n { template := t, state := state }) := by
  induction n with
  | zero =>
      exact At.start t accepts state
  | succ n ih =>
      rw [after_succ_eq_next]
      exact (ih.attempt hchain htemplate).right

end Run

/-!
# Where a run stops

A run is done after `n` candidates if the template is spent by then or the quota
filled.  It stops at the least such number, if that is within its ceiling.
-/

namespace Template

/-- The template first is no longer live after `n` steps. -/
def SpentAt (t : Template ρ) (n : Nat) : Prop :=
  IsLeast { k | (after next k t).live = false } n

/-- The least number of candidates that spend the template or fill the quota. -/
def StopsAt (t : Template ρ) (accepts : Text -> Bool) (target n : Nat) : Prop :=
  IsLeast { k | t.SpentAt k ∨ target ≤ (t.accepted accepts k).length } n

def Done (t : Template ρ) (accepts : Text -> Bool) (target n : Nat) : Prop :=
  (after next n t).live = false ∨ target ≤ (t.accepted accepts n).length

instance (t : Template ρ) (accepts : Text -> Bool) (target n : Nat) :
    Decidable (t.Done accepts target n) :=
  inferInstanceAs (Decidable (_ ∨ _))

theorem spentAt_of_not_live {t : Template ρ} {n : Nat} (h : (after next n t).live = false) :
    exists k, k ≤ n ∧ t.SpentAt k := by
  have hexists : exists k, (after next k t).live = false := ⟨n, h⟩
  exists Nat.find hexists
  exact ⟨Nat.find_min' hexists h, Nat.find_spec hexists,
    fun k hk => Nat.find_min' hexists hk⟩

theorem stopsAt_iff {t : Template ρ} {accepts : Text -> Bool} {target n : Nat} :
    t.StopsAt accepts target n <->
      t.Done accepts target n ∧ forall k, k < n -> ¬ t.Done accepts target k := by
  constructor
  · intro h
    constructor
    · cases h.left with
      | inl hspent =>
          exact Or.inl hspent.left
      | inr hquota =>
          exact Or.inr hquota
    · intro k hk hdone
      cases hdone with
      | inl hlive =>
          rcases spentAt_of_not_live hlive with ⟨r, hr, hspent⟩
          have hle : n ≤ r := h.right (Or.inl hspent)
          omega
      | inr hquota =>
          have hle : n ≤ k := h.right (Or.inr hquota)
          omega
  · intro h
    rcases h with ⟨hdone, hleast⟩
    have hbound : forall k, t.Done accepts target k -> n ≤ k := by
      intro k hk
      apply Nat.le_of_not_lt
      intro hlt
      exact hleast k hlt hk
    constructor
    · cases hdone with
      | inl hlive =>
          exact Or.inl ⟨hlive, fun k hk => hbound k (Or.inl hk)⟩
      | inr hquota =>
          exact Or.inr hquota
    · intro k hk
      cases hk with
      | inl hspent =>
          exact hbound k (Or.inl hspent.left)
      | inr hquota =>
          exact hbound k (Or.inr hquota)

theorem exists_stopsAt {t : Template ρ} {accepts : Text -> Bool} {target n : Nat}
    (h : t.Done accepts target n) : exists k, k ≤ n ∧ t.StopsAt accepts target k := by
  classical
  have hexists : exists k, t.Done accepts target k := ⟨n, h⟩
  exists Nat.find hexists
  exact ⟨Nat.find_min' hexists h,
    stopsAt_iff.mpr ⟨Nat.find_spec hexists, fun k hk => Nat.find_min hexists hk⟩⟩

end Template

namespace Run

variable {σ : Type} {chain : Chain σ} {accepts : Text -> Bool}

theorem At.finished_iff {t : Template ρ} {n : Nat} {run : Run ρ σ} (h : At t accepts n run)
    (target : Nat) : run.finished target = true <-> t.Done accepts target n := by
  rw [finished_eq_true_iff, Template.Done, h.kept_eq, h.template_eq]

theorem toEnd_of_decides {t : Template ρ} (hchain : chain.Decides accepts)
    (htemplate : t.NeverFails) (target ceiling : Nat) (state : σ) :
    (exists n run, n ≤ ceiling ∧ t.StopsAt accepts target n ∧ At t accepts n run ∧
        ({ template := t, state := state } : Run ρ σ).toEnd chain target ceiling =
          (.finished, run)) ∨
      ((forall n, n ≤ ceiling -> ¬ t.Done accepts target n) ∧
        exists run, At t accepts ceiling run ∧
          ({ template := t, state := state } : Run ρ σ).toEnd chain target ceiling =
            (.limit, run)) := by
  have hat := At.after_attempts hchain htemplate state
  have hopen : forall n,
      (after (attempt chain) n ({ template := t, state := state } : Run ρ σ)).finished target =
        false -> ¬ t.Done accepts target n := by
    intro n hfinished hdone
    rw [((hat n).finished_iff target).mpr hdone] at hfinished
    cases hfinished
  have hbefore : forall {k}, Proceeds chain target { template := t, state := state } k ->
      forall n, n < k -> ¬ t.Done accepts target n :=
    fun hproceeds n hn => hopen n (hproceeds n hn).left
  cases hend : ({ template := t, state := state } : Run ρ σ).toEnd chain target ceiling with
  | mk ending run =>
      have hends := toEnd_ends chain target ceiling { template := t, state := state }
      rw [hend] at hends
      cases hends with
      | finished hk hproceeds hfinished =>
          rename_i k
          have hdone : t.Done accepts target k := ((hat k).finished_iff target).mp hfinished
          have hstops := Template.stopsAt_iff.mpr ⟨hdone, hbefore hproceeds⟩
          exact Or.inl ⟨k, _, hk, hstops, hat k, rfl⟩
      | limit hproceeds hfinished =>
          refine Or.inr ⟨?_, _, hat ceiling, rfl⟩
          intro n hn
          cases Nat.lt_or_eq_of_le hn with
          | inl hlt =>
              exact hbefore hproceeds n hlt
          | inr heq =>
              rw [heq]
              exact hopen ceiling hfinished
      | failed hk hproceeds hfinished hfailure =>
          rename_i k failure
          rw [((hat k).attempt hchain htemplate).left] at hfailure
          cases hfailure

end Run

namespace Generator

variable {σ : Type}

def collection (g : Generator ρ σ) (accepts : Text -> Bool) (n : Nat) : Report where
  ids := g.template.accepted accepts n
  attempts := n
  target := g.settings.target
  fulfillment := Fulfillment.of g.settings.target (g.template.accepted accepts n)

theorem generate_of_stopsAt (g : Generator ρ σ) {accepts : Text -> Bool} {n : Nat} (state : σ)
    (htemplate : g.template.NeverFails) (hchain : g.chain.Decides accepts)
    (hstops : g.template.StopsAt accepts g.settings.target n)
    (hn : n ≤ g.settings.maxAttempts) :
    exists state', g.generate state =
      (.ok (g.collection accepts n),
        { g with template := after Template.next n g.template, phase := .exhausted },
        state') := by
  rcases Run.toEnd_of_decides hchain htemplate g.settings.target g.settings.maxAttempts state with
    ⟨k, run, _, hk, hat, hend⟩ | ⟨hopen, _⟩
  · have hkn : k = n := IsLeast.unique hk hstops
    subst hkn
    exists run.state
    rw [generate, hend]
    simp only [answer, Report.ofIds, hat.kept_eq, hat.attempts_eq, hat.template_eq]
    rfl
  · exact absurd (Template.stopsAt_iff.mp hstops).left (hopen n hn)

theorem generate_of_not_stopsAt (g : Generator ρ σ) {accepts : Text -> Bool} (state : σ)
    (htemplate : g.template.NeverFails) (hchain : g.chain.Decides accepts)
    (hstops : forall n, n ≤ g.settings.maxAttempts ->
      ¬ g.template.StopsAt accepts g.settings.target n) :
    exists state', g.generate state =
      (.error (.attemptLimit g.settings.maxAttempts
        (g.template.accepted accepts g.settings.maxAttempts).length),
        { g with
          template := after Template.next g.settings.maxAttempts g.template
          phase := .aborted },
        state') := by
  rcases Run.toEnd_of_decides hchain htemplate g.settings.target g.settings.maxAttempts state with
    ⟨k, _, hle, hk, _⟩ | ⟨_, run, hat, hend⟩
  · exact absurd hk (hstops k hle)
  · exists run.state
    rw [generate, hend]
    simp only [answer, run.kept.size_eq_length, hat.kept_eq, hat.template_eq]
    rfl

/-- The whole run of a generator, told by the candidates of its template: it
reports the accepted ones up to the first number of candidates that fills the
quota or spends the template, and fails at its ceiling if there is none so far. -/
theorem generate_eq_collection (g : Generator ρ σ) (accepts : Text -> Bool) (state : σ)
    (htemplate : g.template.NeverFails) (hchain : g.chain.Decides accepts) :
    (forall n, g.template.StopsAt accepts g.settings.target n ->
      n ≤ g.settings.maxAttempts ->
        exists state', g.generate state =
          (.ok (g.collection accepts n),
            { g with template := after Template.next n g.template, phase := .exhausted },
            state')) ∧
      ((¬ exists n, n ≤ g.settings.maxAttempts ∧
          g.template.StopsAt accepts g.settings.target n) ->
        exists state', g.generate state =
          (.error (.attemptLimit g.settings.maxAttempts
            (g.template.accepted accepts g.settings.maxAttempts).length),
            { g with
              template := after Template.next g.settings.maxAttempts g.template
              phase := .aborted },
            state')) := by
  constructor
  · intro n hstops hn
    exact g.generate_of_stopsAt state htemplate hchain hstops hn
  · intro hnone
    apply g.generate_of_not_stopsAt state htemplate hchain
    intro n hn hstops
    exact hnone ⟨n, hn, hstops⟩

/-- Two identifiers out of the numerals over `a` and `b`, without the word `ab`. -/
def pairs (maxAttempts : Nat) : Generator Stream Unit where
  template :=
    { source := "[=x]:b2++".toList
      segments :=
        [{ text := "=x".toList, resolver := true, source := .literal { text := "x".toList } },
          { text := "b2++".toList
            resolver := false
            source := .counter { digits := "ab".toList, width := 2 } }] }
  chain := { filters := [Blacklist.filter { words := ["ab".toList] }] }
  settings := { target := 2, maxAttempts := maxAttempts }

/-- The third candidate fills the quota: three attempts are enough, two are not. -/
theorem generate_pairs :
    (exists g state', (pairs 3).generate () =
      (.ok
        { ids := ["xaa".toList, "xba".toList]
          attempts := 3
          target := 2
          fulfillment := .complete }, g, state')) ∧
      exists g state', (pairs 2).generate () = (.error (.attemptLimit 2 1), g, state') := by
  have hchain := Chain.decides_blacklist (σ := Unit) { words := ["ab".toList] }
  have htemplate : (pairs 3).template.NeverFails := Template.neverFails_of_fits (by decide)
  have hbefore : forall k, k < 3 -> ¬ (pairs 3).template.Done
      (Blacklist.accepts { words := ["ab".toList] }) 2 k := by
    decide
  have hstops : (pairs 3).template.StopsAt (Blacklist.accepts { words := ["ab".toList] }) 2 3 :=
    Template.stopsAt_iff.mpr ⟨by decide, hbefore⟩
  have hnone : ¬ exists n, n ≤ 2 ∧ (pairs 2).template.StopsAt
      (Blacklist.accepts { words := ["ab".toList] }) 2 n := by
    intro hexists
    rcases hexists with ⟨n, hn, hstopsAt⟩
    exact hbefore n (Nat.lt_succ_of_le hn) (Template.stopsAt_iff.mp hstopsAt).left
  constructor
  · rcases (generate_eq_collection (pairs 3) _ () htemplate hchain).left 3 hstops
      (Nat.le_refl 3) with ⟨state', h⟩
    exact ⟨_, state', h⟩
  · rcases (generate_eq_collection (pairs 2) _ () htemplate hchain).right hnone with ⟨state', h⟩
    exact ⟨_, state', h⟩

end Generator
end Moniker
