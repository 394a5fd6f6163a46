import Moniker.Failure

/-!
# Runs of steps that may fail

A run takes its steps one after the other, and goes on with what each of them leaves,
whether it succeeded or not.
-/

namespace Moniker
namespace Steps

/-!
# Calls that report a failure
-/

theorem toOption_eq_some_iff {ε α : Type} {x : Except ε α} {a : α} :
    x.toOption = some a <-> x = .ok a := by
  cases x with
  | error failure =>
      exact iff_of_false (fun h => by cases h) fun h => by cases h
  | ok a' =>
      exact Option.some_inj.trans (Except.ok.injEq a' a).symm.to_iff

theorem error_or_ok {ε α : Type} (x : Except ε α) :
    (exists failure, x = .error failure) ∨ exists a, x = .ok a := by
  cases x with
  | error failure =>
      exact Or.inl ⟨failure, rfl⟩
  | ok a =>
      exact Or.inr ⟨a, rfl⟩

theorem exists_ok_of_forall_ne_error {ε α : Type} {x : Except ε α}
    (h : forall failure, x ≠ .error failure) : exists a, x = .ok a :=
  (error_or_ok x).resolve_left fun ⟨failure, hx⟩ => h failure hx

theorem bind_eq_ok_iff {ε α β : Type} {x : Except ε α} {f : α -> Except ε β} {b : β} :
    (x >>= f) = .ok b <-> exists a, x = .ok a ∧ f a = .ok b := by
  cases x with
  | error failure =>
      exact iff_of_false (fun h => by cases h) fun ⟨_, h, _⟩ => by cases h
  | ok a =>
      constructor
      · exact fun h => ⟨a, rfl, h⟩
      · rintro ⟨_, ha, h⟩
        cases ha
        exact h

theorem made_eq_ok_iff {α : Type} {change : Change α} {a : α} :
    change.made = .ok a <-> change = (.ok (), a) := by
  rcases change with ⟨_ | _, a'⟩
  · exact iff_of_false (fun h => by cases h) fun h => by cases h
  · simp [Change.made]

/-!
# Steps

A step tells whether it succeeded, beside the state that it leaves.
-/

def ofChange {α : Type} (change : Change α) : Bool × α :=
  (change.1.isOk, change.2)

/-- What is made takes the place of the state, if anything is made. -/
def replacing {α : Type} (a : α) : Option α -> Bool × α
  | some a' => (true, a')
  | none => (false, a)

theorem ofChange_eq_true_iff {α : Type} {change : Change α} {a : α} :
    ofChange change = (true, a) <-> change = (.ok (), a) := by
  rcases change with ⟨_ | _, a'⟩
  · simp [ofChange, Except.isOk, Except.toBool]
  · simp [ofChange, Except.isOk, Except.toBool]

theorem replacing_eq_true_iff {α : Type} {a a' : α} {made? : Option α} :
    replacing a made? = (true, a') <-> made? = some a' := by
  cases made? <;> simp [replacing]

theorem eq_of_replacing_eq_false {α : Type} {a a' : α} {made? : Option α}
    (h : replacing a made? = (false, a')) : a' = a := by
  cases made? with
  | none =>
      cases h
      rfl
  | some made =>
      cases h

/-!
# Runs
-/

variable {α β : Type} {perform : α -> β -> Bool × α} {a a' : α} {step : β}

def reached (perform : α -> β -> Bool × α) (a : α) (steps : List β) : α :=
  steps.foldl (fun a step => (perform a step).2) a

theorem reached_cons (a : α) (step : β) (steps : List β) :
    reached perform a (step :: steps) = reached perform (perform a step).2 steps :=
  rfl

theorem reached_concat (a : α) (steps : List β) (step : β) :
    reached perform a (steps ++ [step]) = (perform (reached perform a steps) step).2 := by
  rw [reached, List.foldl_append]
  rfl

theorem holds_reached {P : α -> Prop}
    (hstep : forall {a : α} (step : β), P a -> P (perform a step).2) (h : P a)
    (steps : List β) : P (reached perform a steps) := by
  induction steps generalizing a with
  | nil =>
      exact h
  | cons step steps ih =>
      exact ih (hstep step h)

/-!
# The first item that fails

Where the items of a list are taken one after the other, the first one that cannot be
taken ends the run.
-/

/-- The item is the first of the list that is not as `p` wants it. -/
inductive FirstNot (p : β -> Prop) : List β -> β -> Prop where
  | here {item : β} {rest : List β} : ¬ p item -> FirstNot p (item :: rest) item
  | later {first item : β} {rest : List β} :
      p first -> FirstNot p rest item -> FirstNot p (first :: rest) item

theorem all_or_firstNot (p : β -> Prop) (items : List β) :
    (forall item, item ∈ items -> p item) ∨ exists item, FirstNot p items item := by
  induction items with
  | nil =>
      exact Or.inl fun item h => absurd h List.not_mem_nil
  | cons item rest ih =>
      by_cases hitem : p item
      · rcases ih with hrest | ⟨item', hfirst⟩
        · exact Or.inl (List.forall_mem_cons.mpr ⟨hitem, hrest⟩)
        · exact Or.inr ⟨item', .later hitem hfirst⟩
      · exact Or.inr ⟨item, .here hitem⟩

theorem exists_firstNot_iff {p : β -> Prop} {items : List β} :
    (exists item, FirstNot p items item) <-> exists item, item ∈ items ∧ ¬ p item := by
  constructor
  · rintro ⟨item, hfirst⟩
    refine ⟨item, ?_⟩
    induction hfirst with
    | here hnot =>
        exact ⟨List.mem_cons_self, hnot⟩
    | later _ _ ih =>
        exact ⟨List.mem_cons_of_mem _ ih.left, ih.right⟩
  · rintro ⟨item, hmem, hnot⟩
    exact (all_or_firstNot p items).resolve_left fun hall => hnot (hall item hmem)

end Steps
end Moniker
