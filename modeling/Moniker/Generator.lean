import Moniker.Filter.Chain
import Moniker.Report
import Moniker.Roster
import Moniker.Settings
import Moniker.Template

/-!
# Generators

A generator builds candidates from a template and keeps those that are new and
that its filters accept, until it has as many as were asked for or the template
is no longer live.  A candidate that was already kept does not reach the
filters; one that was refused is judged again when it comes up again.
-/

namespace Moniker

/-!
# Runs

A run under way holds the template as it has moved on, the identifiers kept so
far, the number of candidates built, and the state of the filters.
-/

structure Run (ρ σ : Type) where
  template : Template ρ
  kept : Roster := Roster.empty
  attempts : Nat := 0
  state : σ

namespace Run

variable {ρ σ : Type}

def finished (target : Nat) (run : Run ρ σ) : Bool :=
  !run.template.live || target ≤ run.kept.size

/-- Judges a candidate that was just built. -/
def judge (chain : Chain σ) (candidate : Text) (run : Run ρ σ) :
    Except Failure Unit × Run ρ σ :=
  if run.kept.contains candidate then
    (.ok (), run)
  else
    match chain.accepts candidate run.state with
    | (.error failure, state) => (.error failure, { run with state := state })
    | (.ok false, state) => (.ok (), { run with state := state })
    | (.ok true, state) =>
        (.ok (), { run with kept := run.kept.add candidate, state := state })

/-- Builds one candidate and judges it. -/
def attempt [Chance ρ] (chain : Chain σ) (run : Run ρ σ) : Except Failure Unit × Run ρ σ :=
  let (candidate, template) := run.template.next
  let run := { run with template := template, attempts := run.attempts + 1 }
  match candidate with
  | .error failure => (.error failure, run)
  | .ok candidate => run.judge chain candidate

/-!
# Endings

A run ends when it is finished, when its attempts are used up before that, or
with the failure of an attempt.
-/

inductive Ending where
  | finished
  | limit
  | failed (failure : Failure)
  deriving DecidableEq

/-- Goes on for at most the given number of attempts. -/
def toEnd [Chance ρ] (chain : Chain σ) (target : Nat) : Nat -> Run ρ σ -> Ending × Run ρ σ
  | 0, run => (if run.finished target then .finished else .limit, run)
  | left + 1, run =>
      if run.finished target then
        (.finished, run)
      else
        match run.attempt chain with
        | (.error failure, run) => (.failed failure, run)
        | (.ok (), run) => toEnd chain target left run

end Run

/-!
# Phases

A generator collects before its first run and while it runs, and still after a
run that failed.  A finished run leaves it exhausted, one that reached its
ceiling leaves it aborted.
-/

inductive Phase where
  | collecting
  | exhausted
  | aborted
  deriving DecidableEq

namespace Phase

def name : Phase -> Text
  | collecting => "collecting".toList
  | exhausted => "exhausted".toList
  | aborted => "aborted".toList

def ofEnding : Run.Ending -> Phase
  | .finished => exhausted
  | .limit => aborted
  | .failed _ => collecting

end Phase

structure Generator (ρ σ : Type) where
  template : Template ρ
  chain : Chain σ
  settings : Settings
  phase : Phase := .collecting

namespace Generator

variable {ρ σ : Type}

/-- The stream that the streams of the segments are split from: the one of the
seed, or the given one if the settings have no seed. -/
def master [Chance ρ] (settings : Settings) (unseeded : ρ) : ρ :=
  match settings.seed with
  | some seed => Chance.ofSeed seed
  | none => unseeded

def ofTemplate [Chance ρ] (source : Text) (bindings : Bindings) (chain : Chain σ)
    (settings : Settings) (unseeded : ρ) : Except Failure (Generator ρ σ) := do
  let template ← Template.compile (master settings unseeded) source bindings
  return { template := template, chain := chain, settings := settings }

/-- What is answered at the end of a run. -/
def answer (settings : Settings) (run : Run ρ σ) : Run.Ending -> Except Failure Report
  | .finished => .ok (Report.ofIds settings.target run.attempts run.kept.toList)
  | .limit => .error (.attemptLimit settings.maxAttempts run.kept.size)
  | .failed failure => .error failure

/-- One run.  The next one goes on with the template where this one left it. -/
def generate [Chance ρ] (g : Generator ρ σ) :
    σ -> Except Failure Report × Generator ρ σ × σ :=
  fun state =>
    let (ending, run) :=
      ({ template := g.template, state := state } : Run ρ σ).toEnd g.chain
        g.settings.target g.settings.maxAttempts
    (answer g.settings run ending,
      { g with template := run.template, phase := Phase.ofEnding ending },
      run.state)

end Generator
end Moniker
