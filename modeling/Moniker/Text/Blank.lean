import Moniker.Text

/-!
# Blanks

The blank characters are those with the Unicode property White_Space.  Trimming
removes them at both ends of a text, and the words of a text are the longest
pieces without them.
-/

namespace Moniker
namespace Text

def isBlank (c : Char) : Bool :=
  let n := c.toNat
  (9 ≤ n && n ≤ 13) || n == 32 || n == 0x85 || n == 0xA0 || n == 0x1680
    || (0x2000 ≤ n && n ≤ 0x200A) || n == 0x2028 || n == 0x2029
    || n == 0x202F || n == 0x205F || n == 0x3000

def trimFront (s : Text) : Text :=
  s.dropWhile isBlank

def trim (s : Text) : Text :=
  (trimFront (trimFront s).reverse).reverse

def words (s : Text) : List Text :=
  (cutWhere isBlank s).filter fun piece => !piece.isEmpty

end Text
end Moniker
