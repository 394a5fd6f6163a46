import Moniker.Filter.Chain

/-!
# Calls of filters

A chain can be watched while it judges: every call of one of its filters is
written down in a log that the filters do not see.  The log shows that a chain
asks its filters in order, up to the first one that does not accept.
-/

namespace Moniker

/-- A filter, told by its name, is asked about a candidate. -/
structure Call where
  filter : Text
  candidate : Text
  answer : Except Failure Bool

variable {σ : Type}

def Filter.watched (f : Filter σ) : Filter (σ × List Call) where
  id := f.id
  description := f.description
  accepts candidate state :=
    ((f.accepts candidate state.1).1,
      (f.accepts candidate state.1).2,
      state.2 ++
        [{ filter := f.id
           candidate := candidate
           answer := (f.accepts candidate state.1).1 }])

namespace Chain

def watched (chain : Chain σ) : Chain (σ × List Call) where
  filters := chain.filters.map Filter.watched

/-!
# What a chain asks

The names of the filters, the answer of the chain and the calls belong together:
every filter accepts and the chain does, or the first one that does not gives the
answer of the chain.
-/

inductive Asks (candidate : Text) : List Text -> Except Failure Bool -> List Call -> Prop where
  | all : Asks candidate [] (.ok true) []
  | next {id : Text} {ids : List Text} {answer : Except Failure Bool} {calls : List Call} :
      Asks candidate ids answer calls ->
        Asks candidate (id :: ids) answer
          ({ filter := id, candidate := candidate, answer := .ok true } :: calls)
  | stop {id : Text} {ids : List Text} {answer : Except Failure Bool} :
      answer ≠ .ok true ->
        Asks candidate (id :: ids) answer
          [{ filter := id, candidate := candidate, answer := answer }]

theorem acceptsBy_watched (filters : List (Filter σ)) (candidate : Text) (state : σ)
    (log : List Call) :
    exists calls,
      Asks candidate (filters.map Filter.id) (acceptsBy filters candidate state).1 calls ∧
        acceptsBy (filters.map Filter.watched) candidate (state, log) =
          ((acceptsBy filters candidate state).1,
            (acceptsBy filters candidate state).2, log ++ calls) := by
  induction filters generalizing state log with
  | nil =>
      refine ⟨[], .all, ?_⟩
      rw [List.append_nil]
      rfl
  | cons f rest ih =>
      by_cases haccepts : (f.accepts candidate state).1 = .ok true
      · have hwatched : (f.watched.accepts candidate (state, log)).1 = .ok true := haccepts
        rcases ih (f.accepts candidate state).2
          (log ++ [{ filter := f.id, candidate := candidate, answer := .ok true }]) with
          ⟨calls, hasks, hrest⟩
        refine ⟨{ filter := f.id, candidate := candidate, answer := .ok true } :: calls, ?_, ?_⟩
        · rw [acceptsBy_cons_of_accepts haccepts]
          exact .next hasks
        · rw [acceptsBy_cons_of_accepts haccepts, List.append_cons, ← hrest, List.map_cons,
            acceptsBy_cons_of_accepts hwatched]
          simp only [Filter.watched, haccepts]
      · have hwatched : (f.watched.accepts candidate (state, log)).1 ≠ .ok true := haccepts
        refine ⟨[{ filter := f.id
                   candidate := candidate
                   answer := (f.accepts candidate state).1 }], ?_, ?_⟩
        · rw [acceptsBy_cons_of_not_accepts haccepts]
          exact .stop haccepts
        · rw [acceptsBy_cons_of_not_accepts haccepts, List.map_cons,
            acceptsBy_cons_of_not_accepts hwatched]
          rfl

theorem accepts_watched (chain : Chain σ) (candidate : Text) (state : σ) (log : List Call) :
    exists calls,
      Asks candidate chain.ids (chain.accepts candidate state).1 calls ∧
        chain.watched.accepts candidate (state, log) =
          ((chain.accepts candidate state).1, (chain.accepts candidate state).2, log ++ calls) :=
  acceptsBy_watched chain.filters candidate state log

/-!
# Calls that fail

Only the last call of a judgement can fail, and then the judgement fails with it.
-/

namespace Asks

variable {candidate : Text} {ids : List Text} {calls : List Call}

theorem ok_of_mem {answer : Bool} (h : Asks candidate ids (.ok answer) calls) {call : Call}
    (hcall : call ∈ calls) : exists accepted, call.answer = .ok accepted := by
  generalize hanswer : Except.ok answer = result at h
  induction h with
  | all =>
      cases hcall
  | next hrest ih =>
      cases hcall with
      | head =>
          exact ⟨true, rfl⟩
      | tail _ htail =>
          exact ih htail hanswer
  | stop hne =>
      rw [List.mem_singleton.mp hcall]
      exact ⟨answer, hanswer.symm⟩

theorem eq_concat_of_error {failure : Failure} (h : Asks candidate ids (.error failure) calls) :
    exists before id,
      calls = before ++ [{ filter := id, candidate := candidate, answer := .error failure }] ∧
        forall call, call ∈ before -> call.answer = .ok true := by
  generalize hanswer : Except.error failure = result at h
  induction h with
  | all =>
      cases hanswer
  | next hrest ih =>
      rename_i id' ids' answer calls'
      rcases ih hanswer with ⟨before, id, rfl, hbefore⟩
      exact ⟨_ :: before, id, rfl, List.forall_mem_cons.mpr ⟨rfl, hbefore⟩⟩
  | stop hne =>
      rename_i id ids' answer
      subst hanswer
      exact ⟨[], id, rfl, fun call hcall => absurd hcall List.not_mem_nil⟩

end Asks
end Chain
end Moniker
