import Moniker.Failure

/-!
# Filters

A filter is a named judgement on candidates.  Judging may fail, and may read and
change a state; the state is kept when judging fails.  `σ` is the state of
everything that the filters in use know.
-/

namespace Moniker

/-- A judgement that may fail, with the state it leaves. -/
abbrev Judgement (σ α : Type) := σ -> Except Failure α × σ

structure Filter (σ : Type) where
  id : Text
  description : Text
  /-- Whether a candidate is acceptable. -/
  accepts : Text -> Judgement σ Bool

/-!
# Sieving

A sieve judges the members of a list in order and keeps the accepted ones.  The
first failure ends it, and no later member is judged.
-/

def sieve {σ : Type} (accepts : Text -> Judgement σ Bool) :
    List Text -> Judgement σ (List Text)
  | [], state => (.ok [], state)
  | candidate :: rest, state =>
      match accepts candidate state with
      | (.error failure, state) => (.error failure, state)
      | (.ok accepted, state) =>
          match sieve accepts rest state with
          | (.error failure, state) => (.error failure, state)
          | (.ok kept, state) => (.ok (if accepted then candidate :: kept else kept), state)

namespace Filter

def acceptsAll {σ : Type} (f : Filter σ) (candidates : List Text) :
    Judgement σ (List Text) :=
  sieve f.accepts candidates

/-- A filter that decides by a predicate, whatever the state. -/
def ofPredicate {σ : Type} (id description : Text) (p : Text -> Bool) : Filter σ :=
  { id := id, description := description, accepts := fun c state => (.ok (p c), state) }

end Filter
end Moniker
