import Moniker.Text.Decimal

/-!
# Failures

What can go wrong while identifiers are made, with the text that reports it and
the status that a command line run ends with.
-/

namespace Moniker

/-!
# Faults

A fault is the reason why a file could not be read or a command not be run.
-/

inductive Fault where
  | notFound
  | denied
  | notFolder
  | isFolder
  | nameTooLong
  | notUtf8
  | zeroInPath
  | zeroInArgument
  | noCommand
  | other (reason : Text)
  deriving DecidableEq

namespace Fault

def text : Fault -> Text
  | notFound => "No such file or directory (os error 2)".toList
  | denied => "Permission denied (os error 13)".toList
  | notFolder => "Not a directory (os error 20)".toList
  | isFolder => "Is a directory (os error 21)".toList
  | nameTooLong => "File name too long (os error 36)".toList
  | notUtf8 => "stream did not contain valid UTF-8".toList
  | zeroInPath => "file name contained an unexpected NUL byte".toList
  | zeroInArgument => "nul byte found in provided data".toList
  | noCommand => "empty command".toList
  | other reason => reason

end Fault

/-!
# Failures

`unknownForm`, `secondCounter`, `unbound` and `incomplete` come from reading a
template, `outOfBounds` from an excerpt that does not fit its data, and
`attemptLimit` from a run that reached its ceiling.
-/

inductive Failure where
  | unknownForm (fragment : Text)
  | secondCounter (fragment : Text)
  | unbound (key : Char) (fragment : Text)
  | badKey (key : Text)
  | incomplete (fragment : Text)
  | outOfBounds (fragment data : Text) (start stop : Nat)
  | attemptLimit (maxAttempts accepted : Nat)
  | missingFile (path : Text)
  | unreadable (path : Text) (fault : Fault)
  | command (line : Text) (fault : Fault)
  | badPattern (pattern : Text)
  | badSetting (reason : Text)
  | malformedSettings (path : Text)
  deriving DecidableEq

namespace Failure

def quoted (s : Text) : Text :=
  "'".toList ++ s ++ "'".toList

def message : Failure -> Text
  | unknownForm fragment =>
      "no template form matches fragment ".toList ++ quoted fragment
  | secondCounter fragment =>
      "only one counter element is allowed per template (second one: ".toList
        ++ quoted fragment ++ ")".toList
  | unbound key fragment =>
      "fragment ".toList ++ quoted fragment ++ " references unbound variable ".toList
        ++ quoted [key]
  | badKey key =>
      "invalid variable name ".toList ++ quoted key
        ++ ", expected a single lowercase letter".toList
  | incomplete fragment =>
      "element ".toList ++ quoted fragment
        ++ " is incomplete (empty data or invalid parameters)".toList
  | outOfBounds fragment data start stop =>
      "substring ".toList ++ quoted fragment ++ " is out of bounds for ".toList
        ++ quoted data ++ " (start=".toList ++ Decimal.render start
        ++ ", end=".toList ++ Decimal.render stop ++ ")".toList
  | attemptLimit maxAttempts accepted =>
      "maximum number of attempts reached (".toList ++ Decimal.render maxAttempts
        ++ "), ".toList ++ Decimal.render accepted ++ " id(s) accepted so far".toList
  | missingFile path => "file not found: ".toList ++ path
  | unreadable path fault => "failed to read ".toList ++ path ++ ": ".toList ++ fault.text
  | command line fault =>
      "failed to run command ".toList ++ quoted line ++ ": ".toList ++ fault.text
  | badPattern pattern => "invalid regular expression: ".toList ++ pattern
  | badSetting reason => "invalid setting: ".toList ++ reason
  | malformedSettings path =>
      "invalid setting: ".toList ++ path ++ ": not a settings document".toList

/-- The status that a run of the command line ends with after this failure. -/
def exitCode : Failure -> Nat
  | command .. => 120
  | badKey .. | badSetting .. | malformedSettings .. => 150
  | attemptLimit .. => 152
  | unknownForm .. | unbound .. | incomplete .. | badPattern .. => 170
  | secondCounter .. => 171
  | outOfBounds .. => 180
  | missingFile .. => 200
  | unreadable .. => 201

end Failure

/-!
# Changes

A change answers whether it was made, beside the state that it leaves.
-/

abbrev Change (α : Type) := Except Failure Unit × α

/-- The state that the change has made. -/
def Change.made {α : Type} : Change α -> Except Failure α
  | (.ok (), a) => .ok a
  | (.error failure, _) => .error failure

end Moniker
