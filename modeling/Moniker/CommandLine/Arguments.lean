import Moniker.CommandLine.Refusal
import Moniker.Filter.Accounts
import Moniker.Filter.Blacklist
import Moniker.Filter.Command

/-!
# Arguments

The arguments of a command line, with defaults for what was not given.  A draft
holds what was given so far.  Data, patterns and the switch for verbosity may be
given any number of times, every other option once.
-/

namespace Moniker
namespace CommandLine

structure Arguments where
  template : Text
  data : List Text := []
  target? : Option Nat := none
  maxAttempts? : Option Nat := none
  seed? : Option UInt64 := none
  settingsFile? : Option Text := none
  blacklist : Bool := false
  blacklistFile : Text := Blacklist.defaultFile
  accounts : Bool := false
  accountsFile : Text := Accounts.defaultFile
  command : Bool := false
  commandTemplate : Text := Command.defaultTemplate
  patterns : List Text := []
  columns : Bool := false
  width : Nat := 80
  json : Bool := false
  verbosity : Nat := 0
  deriving DecidableEq

structure Draft where
  template? : Option Text := none
  data : List Text := []
  target? : Option Nat := none
  maxAttempts? : Option Nat := none
  seed? : Option UInt64 := none
  settingsFile? : Option Text := none
  blacklist : Bool := false
  blacklistFile? : Option Text := none
  accounts : Bool := false
  accountsFile? : Option Text := none
  command : Bool := false
  commandTemplate? : Option Text := none
  patterns : List Text := []
  columns : Bool := false
  width? : Option Nat := none
  json : Bool := false
  verbosity : Nat := 0
  deriving DecidableEq

namespace Draft

/-!
# Giving options

That an option was given already is noticed before its value is looked at.
-/

def once (given : Bool) (key : Key) : Except Refusal Unit :=
  if given then .error (.repeated key) else .ok ()

def wordOf (slot : Slot) (value : Text) : Except Refusal Nat :=
  match Decimal.readSigned? value with
  | some n => .ok n
  | none => .error (.unreadableValue slot value)

def pathOf (slot : Slot) (value : Text) : Except Refusal Text :=
  if value = [] then .error (.emptyPath slot) else .ok value

def fill (d : Draft) (slot : Slot) (value : Text) : Except Refusal Draft :=
  match slot with
  | .template => do
      once d.template?.isSome (.slot slot)
      return { d with template? := some value }
  | .data => .ok { d with data := d.data ++ [value] }
  | .target => do
      once d.target?.isSome (.slot slot)
      return { d with target? := some (← wordOf slot value) }
  | .maxAttempts => do
      once d.maxAttempts?.isSome (.slot slot)
      return { d with maxAttempts? := some (← wordOf slot value) }
  | .seed => do
      once d.seed?.isSome (.slot slot)
      return { d with seed? := some (UInt64.ofNat (← wordOf slot value)) }
  | .settings => do
      once d.settingsFile?.isSome (.slot slot)
      return { d with settingsFile? := some (← pathOf slot value) }
  | .blacklistFile => do
      once d.blacklistFile?.isSome (.slot slot)
      return { d with blacklistFile? := some (← pathOf slot value) }
  | .accountsFile => do
      once d.accountsFile?.isSome (.slot slot)
      return { d with accountsFile? := some (← pathOf slot value) }
  | .commandTemplate => do
      once d.commandTemplate?.isSome (.slot slot)
      return { d with commandTemplate? := some value }
  | .pattern => .ok { d with patterns := d.patterns ++ [value] }
  | .width => do
      once d.width?.isSome (.slot slot)
      return { d with width? := some (← wordOf slot value) }

def turnOn (d : Draft) (switch : Switch) : Except Refusal Draft :=
  match switch with
  | .blacklist => do
      once d.blacklist (.switch switch)
      return { d with blacklist := true }
  | .accounts => do
      once d.accounts (.switch switch)
      return { d with accounts := true }
  | .command => do
      once d.command (.switch switch)
      return { d with command := true }
  | .columns => do
      once d.columns (.switch switch)
      return { d with columns := true }
  | .json => do
      once d.json (.switch switch)
      return { d with json := true }
  | .verbose => .ok { d with verbosity := d.verbosity + 1 }
  | .help => .error .help
  | .version => .error .version

/-- The arguments of a finished draft. -/
def finish (d : Draft) : Except Refusal Arguments :=
  if d.json && d.columns then
    .error .jsonWithColumns
  else
    match d.template? with
    | none => .error .missingTemplate
    | some template =>
        .ok
          { template := template
            data := d.data
            target? := d.target?
            maxAttempts? := d.maxAttempts?
            seed? := d.seed?
            settingsFile? := d.settingsFile?
            blacklist := d.blacklist
            blacklistFile := d.blacklistFile?.getD Blacklist.defaultFile
            accounts := d.accounts
            accountsFile := d.accountsFile?.getD Accounts.defaultFile
            command := d.command
            commandTemplate := d.commandTemplate?.getD Command.defaultTemplate
            patterns := d.patterns
            columns := d.columns
            width := d.width?.getD 80
            json := d.json
            verbosity := d.verbosity }

end Draft
end CommandLine
end Moniker
