import Moniker.CommandLine.Option

/-!
# Refusals

A refusal is the reason why a command line is not run.  Asking for help or for
the version is one too, but ends with the status of success.
-/

namespace Moniker
namespace CommandLine

inductive Refusal where
  | help
  | version
  | unknown (argument : Text)
  | missingValue (slot : Slot)
  | emptyPath (slot : Slot)
  | surplusValue (switch : Switch)
  | unreadableValue (slot : Slot) (value : Text)
  | repeated (key : Key)
  | jsonWithColumns
  | missingTemplate
  deriving DecidableEq

namespace Refusal

def exitCode : Refusal -> Nat
  | help | version => 0
  | _ => 2

def message : Refusal -> Text
  | help => "help was asked for".toList
  | version => "the version was asked for".toList
  | unknown argument => "unexpected argument ".toList ++ argument
  | missingValue slot => "a value is required for ".toList ++ (Key.slot slot).written
  | emptyPath slot => "a file name is required for ".toList ++ (Key.slot slot).written
  | surplusValue switch => "no value is allowed for ".toList ++ (Key.switch switch).written
  | unreadableValue slot value =>
      "invalid value ".toList ++ value ++ " for ".toList ++ (Key.slot slot).written
  | repeated key => key.written ++ " cannot be used more than once".toList
  | jsonWithColumns =>
      (Key.switch .json).written ++ " cannot be used with ".toList
        ++ (Key.switch .columns).written
  | missingTemplate => (Key.slot .template).written ++ " is required".toList

end Refusal
end CommandLine
end Moniker
