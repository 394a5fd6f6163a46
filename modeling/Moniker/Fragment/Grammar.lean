import Moniker.Fragment
import Moniker.Text.Decimal

/-!
# The written forms

There are twelve rows.  With `x` a letter, `d` and `e` digits from 1 to 9 and
`D` a numeral without leading zero that fits 64 bits:

* `x` uses the data whole, `=text` is a literal of letters, digits and `_`;
* `x…x+` and `xD+` sample, `x…x++` and `xD++` count;
* `dx` and `x,d` take the first `d` characters, `xd` the last `d`;
* `dxe` and `xd,e` take the characters from `d` to `e`, `xd,` those from `d` on.

A text is read by the first row that fits.
-/

namespace Moniker
namespace Form

def isLetter (c : Char) : Bool :=
  ('a' ≤ c && c ≤ 'z') || ('A' ≤ c && c ≤ 'Z')

/-- A digit from 1 to 9, which counts positions from one. -/
def position? (c : Char) : Option Nat :=
  if '1' ≤ c ∧ c ≤ '9' then some (Decimal.digitValue c) else none

def isPayload (c : Char) : Bool :=
  isLetter c || c.isDigit || c = '_'

def letter? (c : Char) : Option Char :=
  if isLetter c then some c else none

/-!
# Lengths

A length is written by repeating the letter, or by a numeral behind it.
-/

/-- One letter, repeated, and then the mark. -/
def readRun (mark : Text) : Text -> Option (Char × Nat)
  | [] => none
  | x :: rest =>
      if isLetter x ∧ rest.dropWhile (· == x) = mark then
        some (x, (rest.takeWhile (· == x)).length + 1)
      else
        none

/-- One letter, a numeral, and then the mark. -/
def readCounted (mark : Text) : Text -> Option (Char × Nat)
  | [] => none
  | x :: rest => do
      let x ← letter? x
      let digits := rest.takeWhile Char.isDigit
      if rest.dropWhile Char.isDigit = mark ∧ digits.head? ≠ some '0' then
        let length ← Decimal.readWord? digits
        return (x, length)
      else
        none

/-!
# Rows
-/

def readWhole : Text -> Option Form
  | [x] => do
      return data (← letter? x) .whole
  | _ => none

def readLiteral : Text -> Option Form
  | '=' :: payload => if payload.all isPayload then some (literal payload) else none
  | _ => none

def readSampleRun (s : Text) : Option Form :=
  (readRun ['+'] s).map fun (x, length) => data x (.sample length)

def readSampleCounted (s : Text) : Option Form :=
  (readCounted ['+'] s).map fun (x, length) => data x (.sample length)

def readFirst : Text -> Option Form
  | [d, x] => do
      let d ← position? d
      return data (← letter? x) (.part (.range 0 d))
  | _ => none

def readLast : Text -> Option Form
  | [x, d] => do
      let x ← letter? x
      return data x (.part (.last (← position? d)))
  | _ => none

def readBetween : Text -> Option Form
  | [d, x, e] => do
      let d ← position? d
      let x ← letter? x
      return data x (.part (.range (d - 1) (← position? e)))
  | _ => none

def readBetweenComma : Text -> Option Form
  | [x, d, ',', e] => do
      let x ← letter? x
      let d ← position? d
      return data x (.part (.range (d - 1) (← position? e)))
  | _ => none

def readFromComma : Text -> Option Form
  | [x, d, ','] => do
      let x ← letter? x
      return data x (.part (.toEnd ((← position? d) - 1)))
  | _ => none

def readFirstComma : Text -> Option Form
  | [x, ',', d] => do
      let x ← letter? x
      return data x (.part (.range 0 (← position? d)))
  | _ => none

def readCounterRun (s : Text) : Option Form :=
  (readRun ['+', '+'] s).map fun (x, length) => data x (.counter length)

def readCounterCounted (s : Text) : Option Form :=
  (readCounted ['+', '+'] s).map fun (x, length) => data x (.counter length)

def rows : List (Text -> Option Form) :=
  [readWhole, readLiteral, readSampleRun, readSampleCounted, readFirst, readLast,
    readBetween, readBetweenComma, readFromComma, readFirstComma,
    readCounterRun, readCounterCounted]

def read? (s : Text) : Option Form :=
  rows.findSome? (· s)

end Form
end Moniker
