import Moniker.Text.Utf8

/-!
# Lines of a file

The bytes of a file are cut after every line feed; a last line may lack it.
The text of a line drops the line feed and one carriage return directly before
it.  A carriage return at the end of a line without line feed stays.
-/

namespace Moniker
namespace Lines

def pieces : List UInt8 -> List (List UInt8)
  | [] => []
  | b :: rest =>
      if b = 10 then
        [b] :: pieces rest
      else
        match pieces rest with
        | [] => [[b]]
        | piece :: others => (b :: piece) :: others

def chomp (line : Text) : Text :=
  match line.reverse with
  | '\n' :: '\r' :: rest => rest.reverse
  | '\n' :: rest => rest.reverse
  | _ => line

/-- The text of one piece, if its bytes are UTF-8. -/
def text? (piece : List UInt8) : Option Text :=
  (Utf8.decode piece).map chomp

end Lines
end Moniker
