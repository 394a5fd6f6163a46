import Moniker.Bindings
import Moniker.CommandLine.Arguments
import Moniker.Filter.Chain
import Moniker.Filter.Matching
import Moniker.Report.Layout
import Moniker.Settings.Document
import Moniker.Text.Utf8

/-!
# Requests

What the arguments of a command line ask for: bindings, settings, filters, a
layout of the report, and how much is said about the work.
-/

namespace Moniker
namespace CommandLine

inductive Level where
  | warn
  | info
  | debug
  | trace
  deriving DecidableEq

namespace Level

def name : Level -> Text
  | warn => "WARN".toList
  | info => "INFO".toList
  | debug => "DEBUG".toList
  | trace => "TRACE".toList

def ofVerbosity : Nat -> Level
  | 0 => warn
  | 1 => info
  | 2 => debug
  | _ => trace

end Level

namespace Arguments

variable {σ : Type}

def level (a : Arguments) : Level :=
  Level.ofVerbosity a.verbosity

def layout (a : Arguments) : Report.Layout :=
  if a.json then .document
  else if a.columns then .columns a.width
  else .lines

def bindings (a : Arguments) : Except Failure Bindings :=
  Bindings.empty.assignAll a.data

/-!
# Settings

The file of settings is read first, if there is one, and what the options give
is laid over it.
-/

/-- The text of a whole file. -/
def wholeFile (host : Host σ) (path : Text) (state : σ) : Except Failure Text := do
  match ← host.openOrFail path state with
  | .folder => .error (.unreadable path .isFolder)
  | .bytes content =>
      match Utf8.decode content with
      | some text => .ok text
      | none => .error (.unreadable path .notUtf8)

/-- A document whose settings are refused is reported with its path. -/
def settingsOfDocument (path document : Text) : Except Failure Settings :=
  match Settings.ofDocument? document with
  | none => .error (.malformedSettings path)
  | some settings =>
      settings.mapError fun failure => .badSetting (path ++ ": ".toList ++ failure.message)

def baseSettings (host : Host σ) (path? : Option Text) (state : σ) : Except Failure Settings :=
  match path? with
  | none => .ok {}
  | some path => do settingsOfDocument path (← wholeFile host path state)

def overlay (a : Arguments) : Settings.Overlay :=
  { target? := a.target?
    seed? := a.seed?.map some
    maxAttempts? := a.maxAttempts? }

def settings (host : Host σ) (a : Arguments) (state : σ) : Except Failure Settings := do
  (← baseSettings host a.settingsFile? state).overlaid a.overlay

/-!
# Filters

The filters stand in a fixed order, whatever the order of the options: the word
list, the patterns, the accounts, the outside command.
-/

def blacklistFilters (host : Host σ) (a : Arguments) (state : σ) :
    Except Failure (List (Filter σ)) :=
  if a.blacklist then do
    return [(← Blacklist.ofFile host a.blacklistFile state).filter]
  else
    .ok []

def patternFilters (dialect : Dialect) : List Text -> Except Failure (List (Filter σ))
  | [] => .ok []
  | pattern :: rest => do
      let matching ← Matching.ofPattern dialect pattern
      return matching.filter :: (← patternFilters dialect rest)

def accountsFilters (host : Host σ) (a : Arguments) : List (Filter σ) :=
  if a.accounts then [Accounts.filter host { path := a.accountsFile }] else []

def commandFilters (host : Host σ) (a : Arguments) : List (Filter σ) :=
  if a.command then [Command.filter host { template := a.commandTemplate }] else []

def chain (host : Host σ) (dialect : Dialect) (a : Arguments) (state : σ) :
    Except Failure (Chain σ) := do
  let words ← blacklistFilters host a state
  let patterns ← patternFilters dialect a.patterns
  return (words ++ patterns ++ accountsFilters host a ++ commandFilters host a).foldl
    Chain.add Chain.empty

end Arguments
end CommandLine
end Moniker
