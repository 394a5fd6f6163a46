import Moniker.Text.Unprintable
import Moniker.Text

/-!
# Quoted texts

A text in double quotes, for people to look at: quotes and backslashes are
escaped, line ends and tabs have short escapes, and characters that cannot be
shown are given by their numbers.
-/

namespace Moniker
namespace Text

def hexDigits (n : Nat) : Text :=
  Nat.toDigits 16 n

def inspectChar (c : Char) : Text :=
  if c = Char.ofNat 0 then ['\\', '0']
  else if c = '\t' then ['\\', 't']
  else if c = '\r' then ['\\', 'r']
  else if c = '\n' then ['\\', 'n']
  else if c = '\\' then ['\\', '\\']
  else if c = '"' then ['\\', '"']
  else if isUnprintable c then ['\\', 'u', '{'] ++ hexDigits c.toNat ++ ['}']
  else [c]

def inspect (s : Text) : Text :=
  '"' :: s.flatMap inspectChar ++ ['"']

/-- A row of texts in square brackets. -/
def inspectList (items : List Text) : Text :=
  '[' :: List.intercalate ", ".toList (items.map inspect) ++ [']']

end Text
end Moniker
