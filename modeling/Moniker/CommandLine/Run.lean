import Moniker.CommandLine.Request
import Moniker.Generator
import Moniker.Report.Document

/-!
# Running a command line

A command line makes one run of a generator and prints its report, or prints
nothing and fails.  Bindings are looked at first, then the settings, the filters
and the template.
-/

namespace Moniker
namespace CommandLine

structure Conclusion where
  outcome : Except Failure Fulfillment
  printed : Text := []

namespace Conclusion

/-- A status has one byte; a code that does not fit it becomes one. -/
def narrowed (code : Nat) : Nat :=
  if code < UInt8.size then code else 1

/-- A run that found nothing is no failure, but does not end with success. -/
def exitStatus : Except Failure Fulfillment -> Nat
  | .ok .complete | .ok .short => 0
  | .ok .empty => 1
  | .error failure => narrowed failure.exitCode

def ofReport (layout : Report.Layout) : Except Failure Report -> Conclusion
  | .ok report => { outcome := .ok report.fulfillment, printed := report.text layout }
  | .error failure => { outcome := .error failure }

end Conclusion

namespace Arguments

variable {ρ σ : Type} [Chance ρ]

def generator (host : Host σ) (dialect : Dialect) (a : Arguments) (unseeded : ρ)
    (state : σ) : Except Failure (Generator ρ σ) := do
  let bindings ← a.bindings
  let settings ← a.settings host state
  let chain ← a.chain host dialect state
  Generator.ofTemplate a.template bindings chain settings unseeded

def run (host : Host σ) (dialect : Dialect) (a : Arguments) (unseeded : ρ) (state : σ) :
    Conclusion × σ :=
  match a.generator host dialect unseeded state with
  | .error failure => ({ outcome := .error failure }, state)
  | .ok generator =>
      let (answer, _, state) := generator.generate state
      (Conclusion.ofReport a.layout answer, state)

end Arguments
end CommandLine
end Moniker
