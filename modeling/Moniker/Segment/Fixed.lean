import Moniker.Text

/-!
# Fixed segments

A fixed segment gives one text, over and over.  It is live until it gave it
once.
-/

namespace Moniker

structure Fixed where
  text : Text
  live : Bool := true
  deriving DecidableEq

namespace Fixed

def next (f : Fixed) : Text × Fixed :=
  (f.text, { f with live := false })

def complete (f : Fixed) : Bool :=
  !f.text.isEmpty

end Fixed
end Moniker
