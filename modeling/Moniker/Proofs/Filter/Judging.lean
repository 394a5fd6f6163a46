import Moniker.Proofs.Filter.Calls
import Moniker.Proofs.Filter.Register
import Moniker.Proofs.Generator.Collection

/-!
# Judging in order

A chain puts a candidate to one filter after the other, and a batch puts one
candidate after the other to a chain or to a filter.  In both, every judgement is
made in the state that the ones before it leave, and one of them may be the last.
This module says which judgements are made, what they make of the state, and what
is answered.
-/

namespace Moniker

variable {σ β : Type}

/-!
# Judgements one after the other
-/

namespace Judging

def answers (judge : β -> Judgement σ Bool) : List β -> σ -> List (Except Failure Bool)
  | [], _ => []
  | item :: rest, state => (judge item state).1 :: answers judge rest (judge item state).2

def left (judge : β -> Judgement σ Bool) : List β -> σ -> σ
  | [], state => state
  | item :: rest, state => left judge rest (judge item state).2

/-- The item is the first one whose answer is not as `p` wants it. -/
structure First (p : Except Failure Bool -> Prop) (judge : β -> Judgement σ Bool)
    (items before : List β) (item : β) (state : σ) : Prop where
  place : exists behind, items = before ++ item :: behind
  before_wanted : forall answer, answer ∈ answers judge before state -> p answer
  not_wanted : ¬ p (judge item (left judge before state)).1

variable {judge : β -> Judgement σ Bool}

theorem First.cons {p : Except Failure Bool -> Prop} {items before : List β} {item next : β}
    {state : σ} (hwanted : p (judge next state).1)
    (h : First p judge items before item (judge next state).2) :
    First p judge (next :: items) (next :: before) item state := by
  rcases h with ⟨⟨behind, rfl⟩, hbefore, hnot⟩
  exact ⟨⟨behind, rfl⟩, List.forall_mem_cons.mpr ⟨hwanted, hbefore⟩, hnot⟩

theorem all_or_first (p : Except Failure Bool -> Prop) (items : List β) (state : σ) :
    (forall answer, answer ∈ answers judge items state -> p answer) ∨
      exists before item, First p judge items before item state := by
  induction items generalizing state with
  | nil =>
      exact Or.inl fun answer h => absurd h List.not_mem_nil
  | cons item rest ih =>
      by_cases hwanted : p (judge item state).1
      · rcases ih (judge item state).2 with hrest | ⟨before, item', hfirst⟩
        · exact Or.inl (List.forall_mem_cons.mpr ⟨hwanted, hrest⟩)
        · exact Or.inr ⟨item :: before, item', hfirst.cons hwanted⟩
      · exact Or.inr ⟨[], item, ⟨rest, rfl⟩, fun answer h => absurd h List.not_mem_nil, hwanted⟩

theorem view_left {τ : Type} (view : σ -> τ) {items : List β}
    (h : forall item, item ∈ items -> forall state, view (judge item state).2 = view state)
    (state : σ) : view (left judge items state) = view state := by
  induction items generalizing state with
  | nil =>
      rfl
  | cons item rest ih =>
      rw [left, ih fun item' hitem' => h item' (List.mem_cons_of_mem item hitem')]
      exact h item List.mem_cons_self state

end Judging

open Judging

/-!
# One candidate

A filter that does not accept ends the judgement of a chain.
-/

/-- Nothing that the view shows is changed by the filter. -/
def Filter.Spares {τ : Type} (f : Filter σ) (view : σ -> τ) : Prop :=
  forall candidate state, view (f.accepts candidate state).2 = view state

namespace Chain

def call (candidate : Text) (answer : Except Failure Bool) (f : Filter σ) : Call :=
  { filter := f.id, candidate := candidate, answer := answer }

theorem acceptsBy_of_all {filters : List (Filter σ)} {candidate : Text} {state : σ}
    (h : forall answer, answer ∈ answers (Filter.accepts · candidate) filters state ->
      answer = .ok true) :
    acceptsBy filters candidate state =
      (.ok true, left (Filter.accepts · candidate) filters state) := by
  induction filters generalizing state with
  | nil =>
      rfl
  | cons f rest ih =>
      rw [answers, List.forall_mem_cons] at h
      rw [left, ← ih h.right, acceptsBy_cons_of_accepts h.left]

theorem acceptsBy_of_first {filters before : List (Filter σ)} {f : Filter σ}
    {candidate : Text} {state : σ}
    (h : First (· = .ok true) (Filter.accepts · candidate) filters before f state) :
    acceptsBy filters candidate state =
      f.accepts candidate (left (Filter.accepts · candidate) before state) := by
  rcases h with ⟨⟨behind, rfl⟩, hbefore, hnot⟩
  induction before generalizing state with
  | nil =>
      exact acceptsBy_cons_of_not_accepts hnot behind
  | cons g before ih =>
      rw [answers, List.forall_mem_cons] at hbefore
      rw [left, ← ih hbefore.right hnot, List.cons_append, acceptsBy_cons_of_accepts hbefore.left]

theorem left_watched {filters : List (Filter σ)} {candidate : Text} {state : σ}
    (h : forall answer, answer ∈ answers (Filter.accepts · candidate) filters state ->
      answer = .ok true) (log : List Call) :
    left (Filter.accepts · candidate) (filters.map Filter.watched) (state, log) =
      (left (Filter.accepts · candidate) filters state,
        log ++ filters.map (call candidate (.ok true))) := by
  induction filters generalizing state log with
  | nil =>
      rw [List.map_nil, List.map_nil, List.append_nil]
      rfl
  | cons f rest ih =>
      rw [answers, List.forall_mem_cons] at h
      rw [List.map_cons, left, left, List.map_cons, List.append_cons, ← ih h.right]
      simp [Filter.watched, call, h.left]

theorem answers_watched (filters : List (Filter σ)) (candidate : Text) (state : σ)
    (log : List Call) :
    answers (Filter.accepts · candidate) (filters.map Filter.watched) (state, log) =
      answers (Filter.accepts · candidate) filters state := by
  induction filters generalizing state log with
  | nil =>
      rfl
  | cons f rest ih =>
      rw [List.map_cons, answers, answers, ← ih]
      rfl

/-- How a chain judges one candidate.  If every filter accepts, each is called once.
If one is the first that does not, it is the last that is called, and its answer is
that of the chain. -/
structure JudgesOne (chain : Chain σ) (candidate : Text) (state : σ) : Prop where
  all_or_first :
    (forall answer, answer ∈ answers (Filter.accepts · candidate) chain.filters state ->
        answer = .ok true) ∨
      exists before f,
        First (· = .ok true) (Filter.accepts · candidate) chain.filters before f state
  of_all :
    (forall answer, answer ∈ answers (Filter.accepts · candidate) chain.filters state ->
        answer = .ok true) ->
      chain.accepts candidate state =
          (.ok true, left (Filter.accepts · candidate) chain.filters state) ∧
        forall log, chain.watched.accepts candidate (state, log) =
          (.ok true, left (Filter.accepts · candidate) chain.filters state,
            log ++ chain.filters.map (call candidate (.ok true)))
  of_first : forall before f,
    First (· = .ok true) (Filter.accepts · candidate) chain.filters before f state ->
      chain.accepts candidate state =
          f.accepts candidate (left (Filter.accepts · candidate) before state) ∧
        (forall log, chain.watched.accepts candidate (state, log) =
          ((chain.accepts candidate state).1, (chain.accepts candidate state).2,
            log ++ before.map (call candidate (.ok true)) ++
              [call candidate (chain.accepts candidate state).1 f])) ∧
        forall (τ : Type) (view : σ -> τ),
          (forall g, g ∈ before ++ [f] -> g.Spares view) ->
            view (chain.accepts candidate state).2 = view state

theorem judgesOne (chain : Chain σ) (candidate : Text) (state : σ) :
    chain.JudgesOne candidate state where
  all_or_first := Judging.all_or_first _ _ _
  of_all h := by
    refine ⟨acceptsBy_of_all h, fun log => ?_⟩
    rw [← left_watched h log]
    apply acceptsBy_of_all
    rw [watched, answers_watched]
    exact h
  of_first before f h := by
    have haccepts := acceptsBy_of_first h
    refine ⟨haccepts, fun log => ?_, fun τ view hspares => ?_⟩
    · have hwatched : First (· = .ok true) (Filter.accepts · candidate) chain.watched.filters
          (before.map Filter.watched) f.watched (state, log) := by
        rcases h with ⟨⟨behind, hfilters⟩, hbefore, hnot⟩
        refine ⟨⟨behind.map Filter.watched, ?_⟩, ?_, ?_⟩
        · rw [watched, hfilters, List.map_append, List.map_cons]
        · rw [answers_watched]
          exact hbefore
        · rw [left_watched hbefore]
          exact hnot
      rw [accepts, acceptsBy_of_first hwatched, left_watched h.before_wanted, accepts, haccepts]
      rfl
    · rw [accepts, haccepts, hspares f (by simp)]
      apply view_left view
      intro g hg
      exact hspares g (List.mem_append_left [f] hg) candidate

/-!
# Many candidates

A batch is judged candidate by candidate, by a chain or by a filter alone.  Only a
failure ends it early.
-/

inductive AsksEach (ids : List Text) :
    List Text -> List (Except Failure Bool) -> List Call -> Prop where
  | nil : AsksEach ids [] [] []
  | cons {candidate : Text} {rest : List Text} {answer : Except Failure Bool}
      {restAnswers : List (Except Failure Bool)} {calls restCalls : List Call} :
      Asks candidate ids answer calls -> AsksEach ids rest restAnswers restCalls ->
        AsksEach ids (candidate :: rest) (answer :: restAnswers) (calls ++ restCalls)

end Chain

open Chain

def kept (candidates : List Text) (answers : List (Except Failure Bool)) : List Text :=
  ((candidates.zip answers).filter fun judged => judged.2 = .ok true).map Prod.fst

def Answered (answer : Except Failure Bool) : Prop :=
  exists accepted, answer = .ok accepted

/-- Watching a judgement writes its calls into the log and changes nothing else. -/
def Watches (ids : List Text) (accepts : Text -> Judgement σ Bool)
    (watched : Text -> Judgement (σ × List Call) Bool) : Prop :=
  forall candidate state log, exists calls,
    Asks candidate ids (accepts candidate state).1 calls ∧
      watched candidate (state, log) =
        ((accepts candidate state).1, (accepts candidate state).2, log ++ calls)

/-- How a batch is judged by judging its candidates one after the other.  If no
judgement fails, the accepted candidates are answered, in order.  If one is the first
that fails, it is the last that is made, and its failure is the answer. -/
structure JudgesEach (ids : List Text) (accepts : Text -> Judgement σ Bool)
    (acceptsAll : List Text -> Judgement σ (List Text))
    (watchedAll : List Text -> Judgement (σ × List Call) (List Text))
    (candidates : List Text) (state : σ) : Prop where
  all_or_first :
    (forall answer, answer ∈ answers accepts candidates state -> Answered answer) ∨
      exists before candidate, First Answered accepts candidates before candidate state
  of_all :
    (forall answer, answer ∈ answers accepts candidates state -> Answered answer) ->
      acceptsAll candidates state =
          (.ok (kept candidates (answers accepts candidates state)),
            left accepts candidates state) ∧
        forall log, exists calls,
          AsksEach ids candidates (answers accepts candidates state) calls ∧
            watchedAll candidates (state, log) =
              ((acceptsAll candidates state).1, (acceptsAll candidates state).2, log ++ calls)
  of_first : forall before candidate,
    First Answered accepts candidates before candidate state ->
      (exists failure,
        (accepts candidate (left accepts before state)).1 = .error failure ∧
          acceptsAll candidates state =
            (.error failure, left accepts (before ++ [candidate]) state)) ∧
        forall log, exists calls,
          AsksEach ids (before ++ [candidate])
              (answers accepts (before ++ [candidate]) state) calls ∧
            watchedAll candidates (state, log) =
              ((acceptsAll candidates state).1, (acceptsAll candidates state).2, log ++ calls)

section Batch

variable {ids : List Text} {accepts : Text -> Judgement σ Bool}
  {watched : Text -> Judgement (σ × List Call) Bool}

theorem sieve_cons_of_ok {candidate : Text} {state : σ} {accepted : Bool}
    (h : (accepts candidate state).1 = .ok accepted) (rest : List Text) :
    sieve accepts (candidate :: rest) state =
      ((sieve accepts rest (accepts candidate state).2).1.map
          fun kept => if accepted then candidate :: kept else kept,
        (sieve accepts rest (accepts candidate state).2).2) := by
  rcases hjudgement : accepts candidate state with ⟨answer, state'⟩
  rw [hjudgement] at h
  cases h
  rcases hrest : sieve accepts rest state' with ⟨answer, state''⟩
  cases answer with
  | error failure | ok kept =>
      simp only [sieve, hjudgement, hrest]
      rfl

theorem sieve_cons_of_error {candidate : Text} {state : σ} {failure : Failure}
    (h : (accepts candidate state).1 = .error failure) (rest : List Text) :
    sieve accepts (candidate :: rest) state = (.error failure, (accepts candidate state).2) := by
  rcases hjudgement : accepts candidate state with ⟨answer, state'⟩
  rw [hjudgement] at h
  cases h
  simp only [sieve, hjudgement]

theorem kept_cons (candidate : Text) (rest : List Text) (accepted : Bool)
    (answers : List (Except Failure Bool)) :
    kept (candidate :: rest) (.ok accepted :: answers) =
      if accepted then candidate :: kept rest answers else kept rest answers := by
  cases accepted with
  | true | false =>
      simp [kept]

theorem sieve_of_all {candidates : List Text} {state : σ}
    (h : forall answer, answer ∈ answers accepts candidates state -> Answered answer) :
    sieve accepts candidates state =
      (.ok (kept candidates (answers accepts candidates state)),
        left accepts candidates state) := by
  induction candidates generalizing state with
  | nil =>
      rfl
  | cons candidate rest ih =>
      rw [answers, List.forall_mem_cons] at h
      rcases h with ⟨⟨accepted, haccepted⟩, hrest⟩
      rw [sieve_cons_of_ok haccepted, ih hrest, answers, haccepted, kept_cons]
      rfl

theorem sieve_of_first {candidates before : List Text} {candidate : Text} {state : σ}
    (h : First Answered accepts candidates before candidate state) :
    exists failure,
      (accepts candidate (left accepts before state)).1 = .error failure ∧
        sieve accepts candidates state =
          (.error failure, left accepts (before ++ [candidate]) state) := by
  rcases h with ⟨⟨behind, rfl⟩, hbefore, hnot⟩
  induction before generalizing state with
  | nil =>
      cases hanswer : (accepts candidate state).1 with
      | ok accepted =>
          exact absurd ⟨accepted, hanswer⟩ hnot
      | error failure =>
          exact ⟨failure, hanswer, sieve_cons_of_error hanswer behind⟩
  | cons first before ih =>
      rw [answers, List.forall_mem_cons] at hbefore
      rcases hbefore with ⟨⟨accepted, haccepted⟩, hbefore⟩
      rcases ih hbefore hnot with ⟨failure, hfailure, hsieve⟩
      refine ⟨failure, hfailure, ?_⟩
      rw [List.cons_append, sieve_cons_of_ok haccepted, hsieve]
      rfl

theorem Watches.each (h : Watches ids accepts watched) (candidates : List Text) (state : σ)
    (log : List Call) :
    exists calls,
      AsksEach ids candidates (answers accepts candidates state) calls ∧
        answers watched candidates (state, log) = answers accepts candidates state ∧
        left watched candidates (state, log) = (left accepts candidates state, log ++ calls) := by
  induction candidates generalizing state log with
  | nil =>
      refine ⟨[], .nil, rfl, ?_⟩
      rw [List.append_nil]
      rfl
  | cons candidate rest ih =>
      rcases h candidate state log with ⟨calls, hasks, hwatched⟩
      rcases ih (accepts candidate state).2 (log ++ calls) with
        ⟨restCalls, heach, hanswers, hleft⟩
      refine ⟨calls ++ restCalls, .cons hasks heach, ?_, ?_⟩
      · rw [answers, hwatched, hanswers, answers]
      · rw [left, hwatched, hleft, left, List.append_assoc]

theorem Watches.judgesEach (h : Watches ids accepts watched) (candidates : List Text)
    (state : σ) :
    JudgesEach ids accepts (sieve accepts) (sieve watched) candidates state where
  all_or_first := Judging.all_or_first _ _ _
  of_all hall := by
    refine ⟨sieve_of_all hall, fun log => ?_⟩
    rcases h.each candidates state log with ⟨calls, heach, hanswers, hleft⟩
    refine ⟨calls, heach, ?_⟩
    rw [sieve_of_all hall, sieve_of_all (by rw [hanswers]; exact hall), hanswers, hleft]
  of_first before candidate hfirst := by
    rcases sieve_of_first hfirst with ⟨failure, hfailure, hsieve⟩
    refine ⟨⟨failure, hfailure, hsieve⟩, fun log => ?_⟩
    rcases h.each before state log with ⟨_, _, hanswers, hleft⟩
    rcases h.each (before ++ [candidate]) state log with ⟨calls, heach, _, hleft'⟩
    refine ⟨calls, heach, ?_⟩
    have hanswer : (watched candidate (left watched before (state, log))).1 = .error failure := by
      rcases h candidate (left accepts before state) _ with ⟨_, _, hwatched⟩
      rw [hleft, hwatched, hfailure]
    have hwatched : First Answered watched candidates before candidate (state, log) := by
      refine ⟨hfirst.place, ?_, ?_⟩
      · rw [hanswers]
        exact hfirst.before_wanted
      · rintro ⟨accepted, haccepted⟩
        rw [hanswer] at haccepted
        cases haccepted
    rcases sieve_of_first hwatched with ⟨failure', hfailure', hsieve'⟩
    rw [hanswer] at hfailure'
    cases hfailure'
    rw [hsieve', hsieve, hleft']

end Batch

theorem Filter.watches (f : Filter σ) : Watches [f.id] f.accepts f.watched.accepts := by
  intro candidate state log
  refine ⟨[call candidate (f.accepts candidate state).1 f], ?_, rfl⟩
  by_cases haccepts : (f.accepts candidate state).1 = .ok true
  · rw [haccepts]
    exact .next .all
  · exact .stop haccepts

/-!
# Filters that decide

If the filters decide, the order of the filters and filters that decide alike make
no difference.
-/

theorem sieve_of_decides {accepts : Text -> Judgement σ Bool} {p : Text -> Bool}
    (h : forall candidate state, (accepts candidate state).1 = .ok (p candidate))
    (candidates : List Text) (state : σ) :
    (sieve accepts candidates state).1 = .ok (candidates.filter p) := by
  induction candidates generalizing state with
  | nil =>
      rfl
  | cons candidate rest ih =>
      rw [sieve_cons_of_ok (h candidate state), ih, List.filter_cons]
      rfl

namespace Chain

theorem acceptsAll_of_decides {chain : Chain σ} {p : Filter σ -> Text -> Bool}
    (h : forall f, f ∈ chain.filters -> f.Decides (p f)) (candidates : List Text) (state : σ) :
    (chain.acceptsAll candidates state).1 =
      .ok (candidates.filter fun candidate => chain.filters.all (p · candidate)) :=
  sieve_of_decides (decides_of_filters h fun _ => rfl) candidates state

theorem acceptsAll_perm {chain other : Chain σ} {p : Filter σ -> Text -> Bool}
    (h : forall f, f ∈ chain.filters -> f.Decides (p f)) (hperm : other.filters.Perm chain.filters)
    (candidates : List Text) (state : σ) :
    (other.acceptsAll candidates state).1 = (chain.acceptsAll candidates state).1 := by
  have hother : forall f, f ∈ other.filters -> f.Decides (p f) := fun f hf =>
    h f (hperm.mem_iff.mp hf)
  rw [acceptsAll_of_decides h, acceptsAll_of_decides hother]
  simp only [hperm.all_eq]

theorem acceptsBy_append (filters filters' : List (Filter σ)) (candidate : Text) (state : σ) :
    acceptsBy (filters ++ filters') candidate state =
      if (acceptsBy filters candidate state).1 = .ok true then
        acceptsBy filters' candidate (acceptsBy filters candidate state).2
      else
        acceptsBy filters candidate state := by
  induction filters generalizing state with
  | nil =>
      rfl
  | cons f rest ih =>
      by_cases haccepts : (f.accepts candidate state).1 = .ok true
      · rw [List.cons_append, acceptsBy_cons_of_accepts haccepts,
          acceptsBy_cons_of_accepts haccepts, ih]
      · rw [List.cons_append, acceptsBy_cons_of_not_accepts haccepts,
          acceptsBy_cons_of_not_accepts haccepts, if_neg haccepts]

theorem decides_add {chain : Chain σ} {p : Filter σ -> Text -> Bool}
    (h : forall f, f ∈ chain.filters -> f.Decides (p f)) {f twin : Filter σ}
    (hf : f ∈ chain.filters) (hid : twin.id ∉ chain.ids) (htwin : twin.Decides (p f)) :
    (chain.add twin).Decides fun candidate => chain.filters.all (p · candidate) := by
  intro candidate state
  have hchain := acceptsBy_of_decides h candidate state
  show (acceptsBy (insertFilter twin chain.filters) candidate state).1 = _
  rw [insertFilter_of_not_mem hid, acceptsBy_append]
  split
  · rename_i hall
    rw [hall] at hchain
    injection hchain with hchain
    have haccepts : p f candidate = true := List.all_eq_true.mp hchain.symm f hf
    have hanswer := htwin candidate (acceptsBy chain.filters candidate state).2
    rw [haccepts] at hanswer
    rw [acceptsBy_cons_of_accepts hanswer]
    exact congrArg Except.ok hchain
  · exact hchain

theorem acceptsAll_add {chain : Chain σ} {p : Filter σ -> Text -> Bool}
    (h : forall f, f ∈ chain.filters -> f.Decides (p f)) {f twin : Filter σ}
    (hf : f ∈ chain.filters) (hid : twin.id ∉ chain.ids) (htwin : twin.Decides (p f))
    (candidates : List Text) (state : σ) :
    ((chain.add twin).acceptsAll candidates state).1 = (chain.acceptsAll candidates state).1 := by
  rw [acceptsAll_of_decides h]
  exact sieve_of_decides (decides_add h hf hid htwin) candidates state

/-!
# Chains in use
-/

/-- A chain calls its filters in order up to the first that does not accept, a batch is
judged as its candidates are one after the other, by a chain and by a filter alone, and
of filters that decide neither the order nor the number matters. -/
theorem judges_in_order (chain : Chain σ) (f : Filter σ) (state : σ) :
    (forall candidate, chain.JudgesOne candidate state) ∧
      (forall candidates,
        JudgesEach chain.ids chain.accepts chain.acceptsAll chain.watched.acceptsAll
          candidates state) ∧
      (forall candidates,
        JudgesEach [f.id] f.accepts f.acceptsAll f.watched.acceptsAll candidates state) ∧
      forall p : Filter σ -> Text -> Bool, (forall g, g ∈ chain.filters -> g.Decides (p g)) ->
        forall candidates,
          (chain.acceptsAll candidates state).1 =
              .ok (candidates.filter fun candidate => chain.filters.all (p · candidate)) ∧
            (forall other : Chain σ, other.filters.Perm chain.filters ->
              (other.acceptsAll candidates state).1 = (chain.acceptsAll candidates state).1) ∧
            forall g twin : Filter σ, g ∈ chain.filters -> twin.id ∉ chain.ids ->
              twin.Decides (p g) ->
                ((chain.add twin).acceptsAll candidates state).1 =
                  (chain.acceptsAll candidates state).1 := by
  refine ⟨fun candidate => chain.judgesOne candidate state, fun candidates => ?_,
    fun candidates => f.watches.judgesEach candidates state, fun p h candidates => ?_⟩
  · exact (show Watches chain.ids _ _ from chain.accepts_watched).judgesEach candidates state
  · exact ⟨acceptsAll_of_decides h candidates state,
      fun other hperm => acceptsAll_perm h hperm candidates state,
      fun g twin hg hid htwin => acceptsAll_add h hg hid htwin candidates state⟩

/-- The second filter fails: neither the third one nor the second candidate is reached. -/
example :
    (({ filters :=
          [Filter.ofPredicate ['a'] [] fun _ => true,
            { id := ['b'], description := [], accepts := fun _ _ => (.error (.badKey []), ()) },
            Filter.ofPredicate ['c'] [] fun _ => true] } :
        Chain Unit).watched.acceptsAll [['x'], ['y']] ((), [])).2.2.map
          (fun call => (call.filter, call.candidate)) =
      [(['a'], ['x']), (['b'], ['x'])] := by
  decide

end Chain
end Moniker
