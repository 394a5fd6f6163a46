import Moniker.Text

/-!
# JSON values

A JSON document read without loss: members of an object keep their order and
their repetitions, and a number keeps its written form.  A string whose escapes
name half of a surrogate pair has no text.
-/

namespace Moniker
namespace Json

inductive Value where
  | null
  | boolean (b : Bool)
  | number (written : Text)
  | string (text? : Option Text)
  | array (items : List Value)
  | object (members : List (Option Text × Value))

end Json
end Moniker
