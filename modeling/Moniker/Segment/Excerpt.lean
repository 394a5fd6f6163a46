import Moniker.Failure
import Moniker.Fragment

/-!
# Excerpts

An excerpt gives the characters of its data that a span selects.  A span that
reaches past the data, or ends before it starts, selects nothing and fails; a
failing excerpt stays as it was.
-/

namespace Moniker

/-- The first and the end position of a span in `n` characters.  A span that
does not fit gives the two positions that report it. -/
def Span.positions (n : Nat) : Span -> Except (Nat × Nat) (Nat × Nat)
  | .range start stop =>
      if start ≤ stop ∧ stop ≤ n then .ok (start, stop) else .error (start, stop)
  | .last count => if count ≤ n then .ok (n - count, n) else .error (0, count)
  | .toEnd start => if start ≤ n then .ok (start, n) else .error (start, n)

structure Excerpt where
  fragment : Text
  data : Text
  span : Span
  live : Bool := true
  deriving DecidableEq

namespace Excerpt

def slice (start stop : Nat) (s : Text) : Text :=
  (s.drop start).take (stop - start)

def value (x : Excerpt) : Except Failure Text :=
  match x.span.positions x.data.length with
  | .ok (start, stop) => .ok (slice start stop x.data)
  | .error (start, stop) => .error (.outOfBounds x.fragment x.data start stop)

def next (x : Excerpt) : Except Failure Text × Excerpt :=
  match x.value with
  | .ok s => (.ok s, { x with live := false })
  | .error failure => (.error failure, x)

def complete (x : Excerpt) : Bool :=
  !x.fragment.isEmpty && !x.data.isEmpty

end Excerpt
end Moniker
