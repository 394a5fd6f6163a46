import Moniker.Text

/-!
# Decimal numerals

Natural numbers are written with the digits `0` to `9`, without sign.  Reading
accepts leading zeros; `readWord?` also asks that the number fits 64 bits.
-/

namespace Moniker
namespace Decimal

def digitValue (c : Char) : Nat :=
  c.toNat - '0'.toNat

def value (digits : Text) : Nat :=
  digits.foldl (fun n c => 10 * n + digitValue c) 0

def read? (s : Text) : Option Nat :=
  if s ≠ [] ∧ s.all Char.isDigit then some (value s) else none

/-- The largest number of 64 bits. -/
def maxWord : Nat :=
  0xFFFFFFFFFFFFFFFF

def readWord? (s : Text) : Option Nat :=
  (read? s).filter (· ≤ maxWord)

/-- An optional leading `+` may stand before the digits. -/
def readSigned? : Text -> Option Nat
  | '+' :: s => readWord? s
  | s => readWord? s

def render (n : Nat) : Text :=
  Nat.toDigits 10 n

end Decimal
end Moniker
