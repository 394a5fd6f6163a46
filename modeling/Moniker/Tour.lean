import Moniker.Filter.Blacklist
import Moniker.Filter.Matching
import Moniker.Generator

/-!
# A tour

A fixed round through the library, with the lines that it prints: a refused
variable, a template driven by hand, a template that does not compile, a seeded
run with filters, and a run that its template does not let reach the target.
-/

namespace Moniker
namespace Tour

variable {ρ : Type} [Chance ρ]

def bindings : Except Failure Bindings := do
  let bindings ← Bindings.empty.setAll
    [('f', "Alice".toList), ('s', "Smith".toList), ('n', "0123456789".toList),
      ('l', "abcdefghijklmnopqrstuvwxyz".toList)]
  (bindings.assign "x=xyz".toList).made

/-- A line for something that is expected to fail. -/
def failureLine {α : Type} : Except Failure α -> Text
  | .error failure => failure.message
  | .ok _ => "Should not happen".toList

def candidateLines : Nat -> Template ρ -> Except Failure (List Text)
  | 0, _ => .ok []
  | n + 1, template => do
      let candidate ← template.next.1
      let rest ← candidateLines n template.next.2
      return ("Candidate: ".toList ++ candidate) :: rest

def idLine (position : Nat) (id : Text) : Text :=
  "Generated id ".toList ++ Decimal.render position ++ ": ".toList ++ id

def fulfillmentName : Fulfillment -> Text
  | .complete => "Complete".toList
  | .short => "Partial".toList
  | .empty => "Empty".toList

def attemptsLine (report : Report) : Text :=
  Decimal.render report.attempts ++ " attempt(s), ".toList
    ++ fulfillmentName report.fulfillment

def shortageLines (report : Report) : List Text :=
  if report.fulfillment = .short then
    ["Only ".toList ++ Decimal.render report.ids.length ++ " id(s): ".toList
      ++ Text.inspectList report.ids]
  else
    []

def filteredReport (dialect : Dialect) (bindings : Bindings) (unseeded : ρ) :
    Except Failure Report := do
  let pattern ← Matching.ofPattern dialect "z$".toList
  let chain := ((Chain.empty : Chain Unit).add
    ({ words := ["bad".toList] } : Blacklist).filter).add pattern.filter
  let settings ← ({ Settings.ofTarget 5 with seed := some 42 }.setMaxAttempts 1000).made
  let generator ←
    Generator.ofTemplate "2s:l3+:[n+]".toList bindings chain settings unseeded
  (generator.generate ()).1

def shortReport (bindings : Bindings) (unseeded : ρ) : Except Failure Report := do
  let generator ← Generator.ofTemplate "=u:n++".toList bindings (Chain.empty : Chain Unit)
    (Settings.ofTarget 20) unseeded
  (generator.generate ()).1

/-- The lines of the tour.  No line depends on the stream. -/
def linesFrom (dialect : Dialect) (unseeded : ρ) : Except Failure (List Text) := do
  let bindings ← bindings
  let template ← Template.compile unseeded "1f:s:n2++".toList bindings
  let candidates ← candidateLines 3 template
  let filtered ← filteredReport dialect bindings unseeded
  let short ← shortReport bindings unseeded
  return [failureLine (bindings.set 'F' "Alice".toList).1]
    ++ candidates
    ++ [failureLine (Template.compile unseeded "f:2q".toList bindings)]
    ++ filtered.ids.mapIdx (fun i id => idLine (i + 1) id)
    ++ [attemptsLine filtered]
    ++ shortageLines short

end Tour
end Moniker
