import Moniker.Text

/-!
# Options

An option of the command line is a switch, which stands alone, or a slot, which
takes one value.  Every option has a long name, and some have a letter.
-/

namespace Moniker
namespace CommandLine

inductive Switch where
  | blacklist
  | accounts
  | command
  | columns
  | json
  | verbose
  | help
  | version
  deriving DecidableEq

inductive Slot where
  | template
  | data
  | target
  | maxAttempts
  | seed
  | settings
  | blacklistFile
  | accountsFile
  | commandTemplate
  | pattern
  | width
  deriving DecidableEq

inductive Key where
  | switch (s : Switch)
  | slot (s : Slot)
  deriving DecidableEq

structure OptionRow where
  long : Text
  short? : Option Char
  key : Key

def optionRows : List OptionRow :=
  [{ long := "template".toList, short? := some 't', key := .slot .template },
    { long := "data".toList, short? := some 'd', key := .slot .data },
    { long := "number".toList, short? := some 'n', key := .slot .target },
    { long := "max-attempts".toList, short? := none, key := .slot .maxAttempts },
    { long := "seed".toList, short? := none, key := .slot .seed },
    { long := "settings".toList, short? := none, key := .slot .settings },
    { long := "blacklist".toList, short? := some 'B', key := .switch .blacklist },
    { long := "blacklist-file".toList, short? := none, key := .slot .blacklistFile },
    { long := "passwd".toList, short? := some 'P', key := .switch .accounts },
    { long := "passwd-file".toList, short? := none, key := .slot .accountsFile },
    { long := "shell-cmd".toList, short? := some 'S', key := .switch .command },
    { long := "shell-cmd-template".toList, short? := none, key := .slot .commandTemplate },
    { long := "reject-pattern".toList, short? := none, key := .slot .pattern },
    { long := "columns".toList, short? := some 'C', key := .switch .columns },
    { long := "width".toList, short? := some 'W', key := .slot .width },
    { long := "json".toList, short? := none, key := .switch .json },
    { long := "verbose".toList, short? := some 'v', key := .switch .verbose },
    { long := "help".toList, short? := some 'h', key := .switch .help },
    { long := "version".toList, short? := some 'V', key := .switch .version }]

namespace Key

def ofLong? (name : Text) : Option Key :=
  (optionRows.find? (·.long = name)).map OptionRow.key

def ofShort? (letter : Char) : Option Key :=
  (optionRows.find? (·.short? = some letter)).map OptionRow.key

/-- The long name of an option, as it is written. -/
def written (key : Key) : Text :=
  match optionRows.find? (·.key = key) with
  | some row => '-' :: '-' :: row.long
  | none => []

end Key
end CommandLine
end Moniker
