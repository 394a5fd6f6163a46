import Moniker.Filter.Matching
import Moniker.Pattern.Matcher
import Moniker.Pattern.Reader

/-!
# Regular expressions

The dialect of patterns that the program uses.
-/

namespace Moniker
namespace Pattern

def dialect : Dialect :=
  fun pattern => (read? pattern).map Tree.isMatch

end Pattern
end Moniker
