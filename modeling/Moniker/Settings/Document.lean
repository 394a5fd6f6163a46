import Moniker.Json.Reader
import Moniker.Json.Writer
import Moniker.Settings

/-!
# Settings as JSON

Settings are written as an object of three members.  They are read from an
object with some of these members, other members being ignored, or from an
array of at most three values in the order in which they are written.  What is
not given takes its default.
-/

namespace Moniker
namespace Settings

def seedDocument : Option UInt64 -> Text
  | none => "null".toList
  | some seed => Decimal.render seed.toNat

def document (s : Settings) : Text :=
  Json.compactObject
    [("target_count".toList, Decimal.render s.target),
      ("seed".toList, seedDocument s.seed),
      ("max_attempts".toList, Decimal.render s.maxAttempts)]

/-!
# Reading

A member may be given once only, and a seed may be `null`.
-/

namespace Overlay

def readTarget? (layer : Overlay) (value : Json.Value) : Option Overlay := do
  let target ← value.word?
  if layer.target?.isSome then none else some { layer with target? := some target }

def readSeed? (layer : Overlay) (value : Json.Value) : Option Overlay := do
  let seed ← value.optionalWord?
  if layer.seed?.isSome then none
  else some { layer with seed? := some (seed.map UInt64.ofNat) }

def readMaxAttempts? (layer : Overlay) (value : Json.Value) : Option Overlay := do
  let maxAttempts ← value.word?
  if layer.maxAttempts?.isSome then none
  else some { layer with maxAttempts? := some maxAttempts }

def readMember? (layer : Overlay) : Option Text × Json.Value -> Option Overlay
  | (none, _) => none
  | (some key, value) =>
      if key = "target_count".toList then layer.readTarget? value
      else if key = "seed".toList then layer.readSeed? value
      else if key = "max_attempts".toList then layer.readMaxAttempts? value
      else some layer

def readMembers? (layer : Overlay) : List (Option Text × Json.Value) -> Option Overlay
  | [] => some layer
  | member :: rest => do (← layer.readMember? member).readMembers? rest

def ofValue? : Json.Value -> Option Overlay
  | .object members => ({} : Overlay).readMembers? members
  | .array [] => some {}
  | .array [target] => ({} : Overlay).readTarget? target
  | .array [target, seed] => do
      (← ({} : Overlay).readTarget? target).readSeed? seed
  | .array [target, seed, maxAttempts] => do
      (← (← ({} : Overlay).readTarget? target).readSeed? seed).readMaxAttempts? maxAttempts
  | _ => none

end Overlay

/-- The settings of a document, or nothing if it is malformed.  A ceiling of zero
is reported even if the value is followed by something that should not be there. -/
def ofDocument? (s : Text) : Option (Except Failure Settings) := do
  let (value, rest) ← Json.readFirst? s
  match ({} : Settings).overlaid (← Overlay.ofValue? value) with
  | .error failure => return .error failure
  | .ok settings =>
      if (Json.skipSpace rest).isEmpty then return .ok settings else none

end Settings
end Moniker
