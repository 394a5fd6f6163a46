import Moniker.Proofs.Fragment.Reading

/-!
# Queries of one session

A session may be asked to read any number of texts.  All that it remembers is whether
it has given a counter, and this matters to nothing but the next counter.  So every
query is answered as a new session answers it, until a second counter is refused.
-/

namespace Moniker

inductive Query where
  | inner (s : Text)
  | piece (raw : Text)
  deriving DecidableEq

namespace Query

def text : Query -> Text
  | inner s => s
  | piece raw => (unbracket raw).1

def resolver : Query -> Bool
  | inner _ => false
  | piece raw => (unbracket raw).2

end Query

namespace Session

def ask (session : Session) : Query -> Except Failure Fragment × Session
  | .inner s => session.readInner s
  | .piece raw => session.read raw

def asked (session : Session) (queries : List Query) : Session :=
  queries.foldl (fun session query => (session.ask query).2) session

def answers (session : Session) : List Query -> List (Except Failure Fragment)
  | [] => []
  | query :: queries => (session.ask query).1 :: answers (session.ask query).2 queries

def givesCounter : Except Failure Fragment -> Bool
  | .ok fragment => fragment.form.isCounter
  | .error _ => false

/-- A new session gives a counter for the query. -/
def asksCounter (query : Query) : Bool :=
  givesCounter (ask {} query).1

theorem asked_cons (session : Session) (query : Query) (queries : List Query) :
    session.asked (query :: queries) = (session.ask query).2.asked queries :=
  rfl

theorem asked_concat (session : Session) (queries : List Query) (query : Query) :
    session.asked (queries ++ [query]) = ((session.asked queries).ask query).2 := by
  rw [asked, List.foldl_append]
  rfl

/-!
# One query
-/

theorem ask_eq_readWith (session : Session) (query : Query) :
    session.ask query = session.readWith query.text query.resolver := by
  cases query with
  | inner s | piece raw =>
      rfl

/-- What a session does with a query is told by what a new session does with it. -/
theorem ask_eq (session : Session) (query : Query) :
    session.ask query =
      (if asksCounter query && session.counterRead then
        .error (.secondCounter query.text)
      else
        (ask {} query).1,
      { counterRead := session.counterRead || asksCounter query }) := by
  rcases session with ⟨counterRead⟩
  rw [asksCounter, ask_eq_readWith, ask_eq_readWith, readWith, readWith]
  -- Which form the text has, if any, does not depend on the session.
  by_cases hwritten : exists form, Form.Written query.text form
  · rcases hwritten with ⟨form, hform⟩
    rw [readForm_of_written hform, readForm_of_written hform]
    cases hcounter : form.isCounter with
    | false =>
        simp [hcounter, givesCounter]
    | true =>
        cases counterRead with
        | false | true =>
            simp [hcounter, givesCounter]
  · have hunwritten := not_exists.mp hwritten
    rw [readForm_of_unwritten hunwritten, readForm_of_unwritten hunwritten]
    simp [givesCounter]

theorem ask_fst (session : Session) (query : Query) :
    (session.ask query).1 =
      if asksCounter query && session.counterRead then
        .error (.secondCounter query.text)
      else
        (ask {} query).1 :=
  congrArg Prod.fst (session.ask_eq query)

theorem counterRead_ask (session : Session) (query : Query) :
    (session.ask query).2.counterRead = (session.counterRead || asksCounter query) :=
  congrArg (fun step => step.2.counterRead) (session.ask_eq query)

theorem givesCounter_ask (session : Session) (query : Query) :
    givesCounter (session.ask query).1 = (asksCounter query && !session.counterRead) := by
  rw [ask_fst]
  cases hread : session.counterRead with
  | false =>
      rw [Bool.and_false, if_neg Bool.false_ne_true, Bool.not_false, Bool.and_true]
      rfl
  | true =>
      cases hcounter : asksCounter query with
      | false =>
          exact hcounter
      | true =>
          rfl

theorem ask_snd_of_error {session : Session} {query : Query} {failure : Failure}
    (h : (session.ask query).1 = .error failure) : (session.ask query).2 = session := by
  rcases session with ⟨counterRead⟩
  rw [ask_eq]
  -- No failure is a counter, so none was asked for or one was there before.
  have hgives := givesCounter_ask ⟨counterRead⟩ query
  rw [h] at hgives
  cases counterRead with
  | true =>
      rfl
  | false =>
      rw [← (hgives.trans (Bool.and_true _)), Bool.false_or]
      rfl

/-!
# Any number of queries
-/

theorem counterRead_asked (session : Session) (queries : List Query) :
    (session.asked queries).counterRead =
      (session.counterRead || queries.any asksCounter) := by
  induction queries generalizing session with
  | nil =>
      exact (Bool.or_false _).symm
  | cons query queries ih =>
      rw [asked_cons, ih, counterRead_ask, List.any_cons, Bool.or_assoc]

theorem asked_new_eq (queries : List Query) :
    asked {} queries = { counterRead := queries.any asksCounter } := by
  have hread := counterRead_asked {} queries
  rw [Bool.false_or] at hread
  rw [← hread]

theorem any_givesCounter_answers (session : Session) (queries : List Query) :
    (session.answers queries).any givesCounter =
      (queries.any asksCounter && !session.counterRead) := by
  induction queries generalizing session with
  | nil =>
      rfl
  | cons query queries ih =>
      rw [answers, List.any_cons, ih, givesCounter_ask, counterRead_ask, List.any_cons]
      cases asksCounter query with
      | false | true =>
          simp

theorem countP_givesCounter_answers (session : Session) (queries : List Query) :
    (session.answers queries).countP givesCounter ≤ if session.counterRead then 0 else 1 := by
  induction queries generalizing session with
  | nil =>
      exact Nat.zero_le _
  | cons query queries ih =>
      have hrest := ih (session.ask query).2
      rw [answers, List.countP_cons, givesCounter_ask]
      rw [counterRead_ask] at hrest
      cases hread : session.counterRead with
      | false =>
          cases hcounter : asksCounter query with
          | false | true =>
              simpa [hread, hcounter] using hrest
      | true =>
          simpa [hread] using hrest

/-- Every query is answered as a new session answers it, but a counter is refused, with
its text without brackets, behind a query that was answered with one.  At most one
answer is a counter.  A query that fails changes no answer behind it, and the others
change it only by whether one of them asks for a counter. -/
theorem answers_as_new :
    (forall queries query, ((asked {} queries).ask query).1 =
        if asksCounter query && (answers {} queries).any givesCounter then
          .error (.secondCounter query.text)
        else
          (ask {} query).1) ∧
      (forall queries, (answers {} queries).countP givesCounter ≤ 1) ∧
      (forall queries query failure, ((asked {} queries).ask query).1 = .error failure ->
        forall behind,
          (asked {} (queries ++ [query])).answers behind = (asked {} queries).answers behind) ∧
      forall queries queries',
        ((exists query, query ∈ queries ∧ asksCounter query = true) <->
          exists query, query ∈ queries' ∧ asksCounter query = true) ->
        forall behind, (asked {} queries).answers behind = (asked {} queries').answers behind := by
  refine ⟨?_, ?_, ?_, ?_⟩
  · intro queries query
    rw [ask_fst, asked_new_eq, any_givesCounter_answers, Bool.not_false, Bool.and_true]
  · exact countP_givesCounter_answers {}
  · intro queries query failure hfailure behind
    rw [asked_concat, ask_snd_of_error hfailure]
  · intro queries queries' h behind
    have hany : queries.any asksCounter = queries'.any asksCounter := by
      rw [Bool.eq_iff_iff, List.any_eq_true, List.any_eq_true]
      exact h
    rw [asked_new_eq, asked_new_eq, hany]

/-- A second counter in brackets is refused, a text that is no fragment changes nothing,
and neither do fragments that are no counters. -/
theorem answers_as_new_counters :
    ((asked {} [.inner "a++".toList]).ask (.piece "[b3++]".toList)).1 =
        .error (.secondCounter "b3++".toList) ∧
      (forall behind, (asked {} [.inner "a++".toList, .piece "[b3++]".toList]).answers behind =
        (asked {} [.inner "a++".toList]).answers behind) ∧
      forall behind, (asked {} [.piece "2b".toList, .inner "a++".toList]).answers behind =
        (asked {} [.inner "a++".toList, .piece "[=x]".toList, .inner "b".toList]).answers
          behind := by
  have hrefused : ((asked {} [.inner "a++".toList]).ask (.piece "[b3++]".toList)).1 =
      .error (.secondCounter "b3++".toList) :=
    answers_as_new.left _ _
  refine ⟨hrefused, answers_as_new.right.right.left _ _ _ hrefused,
    answers_as_new.right.right.right _ _ ?_⟩
  constructor
  · intro _
    exact ⟨_, List.mem_cons_self, rfl⟩
  · intro _
    exact ⟨_, List.mem_cons_of_mem _ List.mem_cons_self, rfl⟩

end Session
end Moniker
