import Moniker.Filter
import Moniker.LineReader

/-!
# Account databases

An account database has one account a line, its name being the text before the
first colon.  The filter refuses the names of accounts.  It reads the file again
for every candidate, up to the first line that decides.
-/

namespace Moniker

structure Accounts where
  path : Text
  deriving DecidableEq

namespace Accounts

def defaultFile : Text :=
  "/etc/passwd".toList

def nameOf (line : Text) : Text :=
  line.takeWhile (· ≠ ':')

/-- Whether no line has the name; a line that cannot be read before that fails. -/
def free (candidate : Text) : List (Except Failure Text) -> Except Failure Bool
  | [] => .ok true
  | .error failure :: _ => .error failure
  | .ok line :: rest => if nameOf line = candidate then .ok false else free candidate rest

def freeIn (candidate : Text) (reader : LineReader) : Except Failure Bool :=
  match reader.rest? with
  | none => .error (.unreadable reader.path .isFolder)
  | some pieces => free candidate (pieces.map (LineReader.lineText reader.path))

def filter {σ : Type} (host : Host σ) (accounts : Accounts) : Filter σ where
  id := "passwd".toList
  description := "Rejects ids that already exist as accounts".toList
  accepts candidate state :=
    (LineReader.start host accounts.path state >>= freeIn candidate, state)

end Accounts
end Moniker
