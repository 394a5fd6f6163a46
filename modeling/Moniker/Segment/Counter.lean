import Moniker.Text
import Moniker.Capacity

/-!
# Counters

A counter gives the numerals of a fixed width over its digits, the first digit
standing for zero.  After the last numeral it starts again with the first, and
is live until then.  If the number of numerals does not fit 128 bits the counter
stops at the largest count instead.
-/

namespace Moniker

structure Counter where
  digits : Text
  width : Nat
  count : Nat := 0
  live : Bool := true
  deriving DecidableEq

namespace Counter

def alternatives? (c : Counter) : Option Nat :=
  Capacity.power? c.digits.length c.width

/-- The last `width` digits of a number, before the digits already written. -/
def numeralOnto (zero : Char) (digits : Text) : Nat -> Nat -> Text -> Text
  | 0, _, written => written
  | width + 1, n, written =>
      numeralOnto zero digits width (n / digits.length)
        (digits.getD (n % digits.length) zero :: written)

def successor (c : Counter) : Nat :=
  match c.alternatives? with
  | some modulus => (c.count + 1) % modulus
  | none => min (c.count + 1) Capacity.max

def next (c : Counter) : Text × Counter :=
  match c.digits with
  | [] => ([], c)
  | zero :: _ =>
      (numeralOnto zero c.digits c.width c.count [],
        { c with count := c.successor, live := c.live && c.successor != 0 })

def complete (c : Counter) : Bool :=
  !c.digits.isEmpty && 0 < c.width

end Counter
end Moniker
