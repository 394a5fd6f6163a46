import Moniker.Filter

/-!
# Refused patterns

The filter refuses every candidate that a pattern matches anywhere.  Its name
holds the pattern, so that one chain can have several.  What a pattern is, and
what it matches, is left to a dialect.
-/

namespace Moniker

/-- What each text matches as a pattern, if it is one. -/
abbrev Dialect := Text -> Option (Text -> Bool)

structure Matching where
  pattern : Text
  isMatch : Text -> Bool

namespace Matching

def idOf (pattern : Text) : Text :=
  "regex:".toList ++ pattern

def ofPattern (dialect : Dialect) (pattern : Text) : Except Failure Matching :=
  match dialect pattern with
  | some isMatch => .ok { pattern := pattern, isMatch := isMatch }
  | none => .error (.badPattern pattern)

def accepts (m : Matching) (candidate : Text) : Bool :=
  !m.isMatch candidate

def filter {σ : Type} (m : Matching) : Filter σ :=
  Filter.ofPredicate (idOf m.pattern)
    ("Rejects ids matching /".toList ++ m.pattern ++ "/".toList) m.accepts

end Matching
end Moniker
