import Moniker.Text.Decimal

/-!
# Writing JSON

Strings are quoted with the short escapes where they exist; the other control
characters are written with four lowercase hexadecimal digits, and every other
character stands for itself.
-/

namespace Moniker
namespace Json

def hexDigit (n : Nat) : Char :=
  if n < 10 then Char.ofNat ('0'.toNat + n) else Char.ofNat ('a'.toNat + (n - 10))

def escape (c : Char) : Text :=
  match c with
  | '"' => ['\\', '"']
  | '\\' => ['\\', '\\']
  | '\n' => ['\\', 'n']
  | '\r' => ['\\', 'r']
  | '\t' => ['\\', 't']
  | c =>
      if c.toNat = 8 then ['\\', 'b']
      else if c.toNat = 12 then ['\\', 'f']
      else if c.toNat < 32 then
        ['\\', 'u', '0', '0', hexDigit (c.toNat / 16), hexDigit (c.toNat % 16)]
      else [c]

def quote (s : Text) : Text :=
  '"' :: s.flatMap escape ++ ['"']

/-- Pieces with a separator between any two neighbours. -/
def separated (separator : Text) (pieces : List Text) : Text :=
  List.intercalate separator pieces

/-- An object on one line, without spaces; the members' values are written already. -/
def compactObject (members : List (Text × Text)) : Text :=
  '{' :: separated [','] (members.map fun (key, value) => quote key ++ ':' :: value)
    ++ ['}']

end Json
end Moniker
