import Moniker.Filter
import Moniker.LineReader
import Moniker.Text.Blank

/-!
# Word lists

A word list refuses every candidate in which one of its words stands.  Words
that are added are trimmed first, and blank ones are left out; words that are
removed must be given exactly.
-/

namespace Moniker

structure Blacklist where
  words : List Text := []
  deriving DecidableEq

namespace Blacklist

def defaultFile : Text :=
  "blacklist".toList

/-- The list with a further word, and whether there was a word to add. -/
def add (list : Blacklist) (word : Text) : Bool × Blacklist :=
  let word := Text.trim word
  if word = [] then
    (false, list)
  else
    (true, { words := list.words ++ [word] })

/-- The list without the first place of a word, and whether it had one. -/
def remove (list : Blacklist) (word : Text) : Bool × Blacklist :=
  if word ∈ list.words then
    (true, { words := list.words.erase word })
  else
    (false, list)

def addAll (list : Blacklist) (lines : List Text) : Blacklist :=
  lines.foldl (fun list line => (list.add line).2) list

/-- One word a line; blank lines are left out. -/
def ofFile {σ : Type} (host : Host σ) (path : Text) (state : σ) :
    Except Failure Blacklist := do
  return ({} : Blacklist).addAll (← readLines host path state)

def accepts (list : Blacklist) (candidate : Text) : Bool :=
  !list.words.any (Text.occursIn · candidate)

def filter {σ : Type} (list : Blacklist) : Filter σ :=
  Filter.ofPredicate "blacklist".toList
    "Rejects ids containing a blacklisted word".toList list.accepts

end Blacklist
end Moniker
