import Moniker.Failure

/-!
# Settings

Settings say how many identifiers are wanted, how many candidates may be built
for them, and from which seed the random streams are made.  At least one
candidate may be built: a ceiling of zero is refused.
-/

namespace Moniker
namespace Settings

def defaultTarget : Nat :=
  1

def defaultMaxAttempts : Nat :=
  10000

end Settings

structure Settings where
  target : Nat := Settings.defaultTarget
  seed : Option UInt64 := none
  maxAttempts : Nat := Settings.defaultMaxAttempts
  deriving DecidableEq

namespace Settings

def ofTarget (target : Nat) : Settings :=
  { target := target }

def noAttempts : Failure :=
  .badSetting "max_attempts must be greater than 0".toList

def setMaxAttempts (s : Settings) (maxAttempts : Nat) : Change Settings :=
  if maxAttempts = 0 then
    (.error noAttempts, s)
  else
    (.ok (), { s with maxAttempts := maxAttempts })

/-!
# Overlays

An overlay gives some of the settings and leaves the others as they are.  To
give no seed is something else than to leave the seed as it is.
-/

structure Overlay where
  target? : Option Nat := none
  seed? : Option (Option UInt64) := none
  maxAttempts? : Option Nat := none
  deriving DecidableEq

def withMaxAttempts (s : Settings) : Option Nat -> Except Failure Settings
  | none => .ok s
  | some maxAttempts => (s.setMaxAttempts maxAttempts).made

def overlaid (s : Settings) (layer : Overlay) : Except Failure Settings :=
  { s with
    target := layer.target?.getD s.target
    seed := layer.seed?.getD s.seed }.withMaxAttempts layer.maxAttempts?

end Settings
end Moniker
