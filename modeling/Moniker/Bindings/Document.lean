import Moniker.Bindings
import Moniker.Json.Reader
import Moniker.Json.Writer

/-!
# Bindings as JSON

Bindings are written as one object with a member for every variable, in the
order of the letters.  They are read from an object whose keys are variables and
whose values are strings; a repeated key takes its last value.
-/

namespace Moniker
namespace Bindings

def document (b : Bindings) : Text :=
  Json.compactObject (b.entries.map fun (key, data) => ([key], Json.quote data))

def entryOfMember? : Option Text × Json.Value -> Option (Char × Text)
  | (some [key], .string (some data)) => some (key, data)
  | _ => none

def ofValue? : Json.Value -> Option Bindings
  | .object members => do
      let entries ← members.mapM entryOfMember?
      (empty.setAll entries).toOption
  | _ => none

def ofDocument? (s : Text) : Option Bindings := do
  ofValue? (← Json.read? s)

end Bindings
end Moniker
