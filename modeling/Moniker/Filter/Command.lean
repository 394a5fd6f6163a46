import Moniker.Filter
import Moniker.Host
import Moniker.Text.Blank

/-!
# Outside commands

A command template becomes a command line when every placeholder `%s` is
replaced by the candidate.  The line is split at blanks into a program and its
arguments; quotes have no meaning.  A command that succeeds says that the
candidate is taken.
-/

namespace Moniker

structure Command where
  template : Text
  deriving DecidableEq

namespace Command

def defaultTemplate : Text :=
  "./filter.sh %s".toList

/-- Fills the placeholders from left to right; what was filled in is not looked at again. -/
def fill (candidate : Text) : Text -> Text
  | '%' :: 's' :: rest => candidate ++ fill candidate rest
  | c :: rest => c :: fill candidate rest
  | [] => []

def line (command : Command) (candidate : Text) : Text :=
  fill candidate command.template

/-- Whether a command line fails, which leaves the candidate free. -/
def free {σ : Type} (host : Host σ) (line : Text) : Judgement σ Bool := fun state =>
  match Text.words line with
  | [] => (.error (.command line .noCommand), state)
  | program :: arguments =>
      let (answer, state) := host.runCommand program arguments state
      ((answer.map not).mapError (Failure.command line), state)

def filter {σ : Type} (host : Host σ) (command : Command) : Filter σ where
  id := "shellcmd".toList
  description := "Rejects ids for which an external command succeeds".toList
  accepts candidate := free host (command.line candidate)

end Command
end Moniker
