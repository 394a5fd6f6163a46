import Moniker.Text

/-!
# Fragments

A template is a row of fragments.  A fragment is a literal text, or names a
variable and how its data is used: whole, in part, as an alphabet to sample
from, or as the digits of a counter.  A fragment in brackets is a resolver: it
takes part in every candidate but does not keep a template going.
-/

namespace Moniker

/-!
# Spans

Positions count from zero and the end of a range is the first position that no
longer belongs to it.
-/

inductive Span where
  | range (start stop : Nat)
  | last (count : Nat)
  | toEnd (start : Nat)
  deriving DecidableEq

inductive Use where
  | whole
  | sample (length : Nat)
  | part (span : Span)
  | counter (length : Nat)
  deriving DecidableEq

inductive Form where
  | literal (payload : Text)
  | data (key : Char) (use : Use)
  deriving DecidableEq

namespace Form

def key? : Form -> Option Char
  | literal _ => none
  | data key _ => some key

def isCounter : Form -> Bool
  | data _ (.counter _) => true
  | _ => false

end Form

/-- The text is the one between the brackets, if there are any. -/
structure Fragment where
  text : Text
  resolver : Bool
  form : Form
  deriving DecidableEq

end Moniker
