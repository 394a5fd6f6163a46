import Moniker.Failure

/-!
# Hosts

A host answers the two questions that reach outside: what stands in a file, and
does a command succeed.  Its answers may depend on a state, and running a
command may change the state.  Opening a folder succeeds; only reading from it
fails.
-/

namespace Moniker

inductive Contents where
  | bytes (content : List UInt8)
  | folder
  deriving DecidableEq

structure Host (σ : Type) where
  openFile : Text -> σ -> Except Fault Contents
  runCommand : Text -> List Text -> σ -> Except Fault Bool × σ

namespace Host

/-- How a file that could not be opened is reported. -/
def openFailure (path : Text) : Fault -> Failure
  | .notFound => .missingFile path
  | fault => .unreadable path fault

def openOrFail {σ : Type} (host : Host σ) (path : Text) (state : σ) : Except Failure Contents :=
  (host.openFile path state).mapError (openFailure path)

end Host
end Moniker
