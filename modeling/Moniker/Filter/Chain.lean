import Moniker.Filter
import Moniker.Text.Quoted

/-!
# Filter chains

A chain is a row of filters with different names.  It accepts a candidate if
every filter does, and asks no filter behind the first one that does not.
-/

namespace Moniker

structure Chain (σ : Type) where
  filters : List (Filter σ) := []

namespace Chain

variable {σ : Type}

def empty : Chain σ := {}

def ids (chain : Chain σ) : List Text :=
  chain.filters.map Filter.id

def size (chain : Chain σ) : Nat :=
  chain.filters.length

def isEmpty (chain : Chain σ) : Bool :=
  chain.filters.isEmpty

/-!
# Changing a chain

A filter takes the place of the one with its name, or goes to the end.
-/

def insertFilter (f : Filter σ) : List (Filter σ) -> List (Filter σ)
  | [] => [f]
  | g :: rest => if g.id = f.id then f :: rest else g :: insertFilter f rest

def add (chain : Chain σ) (f : Filter σ) : Chain σ :=
  { filters := insertFilter f chain.filters }

def find? (chain : Chain σ) (id : Text) : Option (Filter σ) :=
  chain.filters.find? (·.id = id)

def eraseFilter (id : Text) : List (Filter σ) -> List (Filter σ)
  | [] => []
  | g :: rest => if g.id = id then rest else g :: eraseFilter id rest

/-- The filter with the given name, if there is one, and the chain without it. -/
def remove (chain : Chain σ) (id : Text) : Option (Filter σ) × Chain σ :=
  (chain.find? id, { filters := eraseFilter id chain.filters })

def clear (chain : Chain σ) : Chain σ :=
  { chain with filters := [] }

/-!
# Judging
-/

def acceptsBy : List (Filter σ) -> Text -> Judgement σ Bool
  | [], _, state => (.ok true, state)
  | f :: rest, candidate, state =>
      match f.accepts candidate state with
      | (.ok true, state) => acceptsBy rest candidate state
      | answer => answer

theorem acceptsBy_cons_of_accepts {f : Filter σ} {candidate : Text} {state : σ}
    (h : (f.accepts candidate state).1 = .ok true) (rest : List (Filter σ)) :
    acceptsBy (f :: rest) candidate state =
      acceptsBy rest candidate (f.accepts candidate state).2 := by
  rcases hjudgement : f.accepts candidate state with ⟨answer, state'⟩
  rw [hjudgement] at h
  cases h
  simp only [acceptsBy, hjudgement]

theorem acceptsBy_cons_of_not_accepts {f : Filter σ} {candidate : Text} {state : σ}
    (h : (f.accepts candidate state).1 ≠ .ok true) (rest : List (Filter σ)) :
    acceptsBy (f :: rest) candidate state = f.accepts candidate state := by
  rcases hjudgement : f.accepts candidate state with ⟨answer, state'⟩
  rw [hjudgement] at h
  simp [acceptsBy, hjudgement, h]

def accepts (chain : Chain σ) : Text -> Judgement σ Bool :=
  acceptsBy chain.filters

def acceptsAll (chain : Chain σ) (candidates : List Text) : Judgement σ (List Text) :=
  sieve chain.accepts candidates

/-- The names of the filters, in a form meant for people who look for faults. -/
def inspect (chain : Chain σ) : Text :=
  "FilterChain \x7b filters: ".toList ++ Text.inspectList chain.ids ++ " \x7d".toList

end Chain
end Moniker
