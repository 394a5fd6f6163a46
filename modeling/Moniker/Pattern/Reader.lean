import Moniker.Pattern.Tree
import Moniker.Text.Decimal

/-!
# Reading patterns

The written form of patterns: characters, `.`, classes in brackets, escapes,
anchors, groups, alternatives, repetitions and flags.  Every reader gives what
it read with the rest of the text, or nothing if the text is no pattern.  The
readers that nest take a bound on the depth of the calls; each call reads a
character, so the length of the text is enough.
-/

namespace Moniker
namespace Pattern

/-!
# Flags

Flags hold from where they stand to the end of the group.  With `extended`,
blanks and comments between the parts of a pattern mean nothing.  Without `unicode`
the classes are those of ASCII, and a set must not go beyond it.
-/

structure Flags where
  ignoreCase : Bool := false
  lineAnchors : Bool := false
  dotAll : Bool := false
  extended : Bool := false
  unicode : Bool := true
  crlf : Bool := false
  deriving DecidableEq

namespace Flags

/-- The other case is of no importance, if the flags say so. -/
def fold (flags : Flags) (a : CharSet) : CharSet :=
  if !flags.ignoreCase then a
  else if flags.unicode then .folded a
  else .inter (.folded a) .ascii

def allows (flags : Flags) (c : Char) : Bool :=
  flags.unicode || CharSet.isAscii c

/-- A complement goes beyond ASCII. -/
def negate? (flags : Flags) (negate : Bool) (a : CharSet) : Option CharSet :=
  if !negate then some a
  else if flags.unicode then some (.complement a)
  else none

end Flags

def skipComment : Text -> Text
  | [] => []
  | c :: rest => if c = '\n' then c :: rest else skipComment rest

theorem length_skipComment_le (s : Text) : (skipComment s).length ≤ s.length := by
  induction s with
  | nil =>
      simp [skipComment]
  | cons c rest ih =>
      unfold skipComment
      split
      · simp
      · simp only [List.length_cons]
        omega

def skipBlanksAndComments : Text -> Text
  | [] => []
  | c :: rest =>
      if Text.isBlank c then skipBlanksAndComments rest
      else if c = '#' then skipBlanksAndComments (skipComment rest)
      else c :: rest
termination_by s => s.length
decreasing_by
  · simp
  · have := length_skipComment_le rest
    simp only [List.length_cons]
    omega

def skip (extended : Bool) (s : Text) : Text :=
  if extended then skipBlanksAndComments s else s

/-!
# Escapes

A backslash gives a character its plain meaning, or names a character, a class
or a boundary.  Backslash and digit is refused.
-/

inductive Escaped where
  | char (c : Char)
  | set (s : CharSet)
  | boundary (b : Boundary)

def isMeta (c : Char) : Bool :=
  "\\.+*?()|[]\x7b\x7d^$#&-~".toList.contains c

/-- The ASCII characters that are neither letters nor digits nor angle brackets. -/
def isEscapable (c : Char) : Bool :=
  isMeta c || (c.toNat < 128 && !c.isAlphanum && c ≠ '<' && c ≠ '>')

def hexDigit? (c : Char) : Option Nat :=
  if c.isDigit then some (c.toNat - '0'.toNat)
  else if 'a' ≤ c ∧ c ≤ 'f' then some (c.toNat - 'a'.toNat + 10)
  else if 'A' ≤ c ∧ c ≤ 'F' then some (c.toNat - 'A'.toNat + 10)
  else none

def hexNumber? (digits : Text) : Option Nat :=
  digits.foldlM (fun n c => (hexDigit? c).map (16 * n + ·)) 0

def charOfHex? (digits : Text) : Option Char := do
  let n ← hexNumber? digits
  if n.isValidChar then some (Char.ofNat n) else none

/-- Two digits stand for a byte where `unicode` is off, and a byte of its own must be ASCII. -/
def isPlainByte (flags : Flags) (count : Nat) (c : Char) : Bool :=
  count ≠ 2 || flags.allows c

def withoutSkipped (extended : Bool) (s : Text) : Text :=
  if extended then s.filter (fun c => !Text.isBlank c) else s

/-- Hexadecimal digits in braces, or as many as the letter asks for. -/
def readHex (flags : Flags) (count : Nat) (s : Text) : Option (Char × Text) :=
  match skip flags.extended s with
  | '{' :: rest =>
      match rest.span (· ≠ '}') with
      | (digits, _ :: rest) =>
          let digits := withoutSkipped flags.extended digits
          if digits = [] then none
          else (charOfHex? digits).map fun c => (c, rest)
      | (_, []) => none
  | s =>
      let digits := s.take count
      if digits.length = count then
        ((charOfHex? digits).filter (isPlainByte flags count)).map fun c => (c, s.drop count)
      else
        none

def edgeNamed? (name : Text) : Option WordEdge :=
  if name = "start".toList then some .start
  else if name = "end".toList then some .stop
  else if name = "start-half".toList then some .startHalf
  else if name = "end-half".toList then some .stopHalf
  else none

/-- Behind `\b`, a brace with a letter opens the name of a boundary; any other
brace opens a repetition. -/
def readWordEdge (flags : Flags) (s : Text) : Option (Escaped × Text) :=
  let bare : Escaped := .boundary (.word .edge flags.unicode)
  match s with
  | '{' :: rest =>
      let rest := skip flags.extended rest
      match rest with
      | [] => none
      | c :: _ =>
          if c.isAlpha || c = '-' then
            match rest.span fun c =>
                c.isAlpha || c = '-' || (flags.extended && Text.isBlank c) with
            | (name, '}' :: rest) =>
                (edgeNamed? (withoutSkipped flags.extended name)).map fun shape =>
                  (.boundary (.word shape flags.unicode), rest)
            | _ => none
          else
            some (bare, s)
  | _ => some (bare, s)

/-- A class that has a letter, the capital standing for what is not in it. -/
def readLetterClass (flags : Flags) (k : CharSet.Class) (letter : Char) (rest : Text) :
    Option (Escaped × Text) :=
  (flags.negate? letter.isUpper (k.of flags.unicode)).map fun set => (.set set, rest)

/-- The characters that have a property, which is one letter or stands in braces. -/
def readProperty (flags : Flags) (letter : Char) (s : Text) : Option (Escaped × Text) := do
  let (name, rest) ←
    match skip flags.extended s with
    | '{' :: rest =>
        match rest.span (· ≠ '}') with
        | (name, _ :: rest) => some (withoutSkipped flags.extended name, rest)
        | (_, []) => none
    | '\\' :: _ => none
    | c :: rest => some ([c], rest)
    | [] => none
  let (having, points) ← Property.query? name
  let set := flags.fold (.listed points)
  if flags.unicode then
    return (.set (if having = letter.isUpper then .complement set else set), rest)
  else
    none

def readEscape (flags : Flags) : Text -> Option (Escaped × Text)
  | [] => none
  | c :: rest =>
      if isEscapable c then some (.char c, rest)
      else
        match c with
        | 'x' => (readHex flags 2 rest).map fun (c, rest) => (.char c, rest)
        | 'u' => (readHex flags 4 rest).map fun (c, rest) => (.char c, rest)
        | 'U' => (readHex flags 8 rest).map fun (c, rest) => (.char c, rest)
        | 'd' | 'D' => readLetterClass flags CharSet.digits c rest
        | 's' | 'S' => readLetterClass flags CharSet.blanks c rest
        | 'w' | 'W' => readLetterClass flags CharSet.words c rest
        | 'p' | 'P' => readProperty flags c rest
        | 'a' => some (.char (Char.ofNat 7), rest)
        | 'f' => some (.char (Char.ofNat 12), rest)
        | 't' => some (.char '\t', rest)
        | 'n' => some (.char '\n', rest)
        | 'r' => some (.char '\r', rest)
        | 'v' => some (.char (Char.ofNat 11), rest)
        | 'A' => some (.boundary .textStart, rest)
        | 'z' => some (.boundary .textEnd, rest)
        | 'b' => readWordEdge flags rest
        | 'B' => some (.boundary (.word .noEdge flags.unicode), rest)
        | '<' => some (.boundary (.word .start flags.unicode), rest)
        | '>' => some (.boundary (.word .stop flags.unicode), rest)
        | _ => none

/-!
# Classes

A class in brackets is a union of characters, ranges, escaped and named classes
and further bracketed classes.  Unions are combined from left to right by the
operators for intersection, difference and symmetric difference.
-/

/-- What stood before an operator waits for the union behind it. -/
structure Waiting where
  combine : CharSet -> CharSet -> CharSet
  left : CharSet

def settle (flags : Flags) (waiting : Option Waiting) (right : CharSet) : CharSet :=
  match waiting with
  | none => right
  | some w => w.combine (flags.fold w.left) (flags.fold right)

/-- A named class, with its brackets and colons. -/
def readNamedClass (flags : Flags) : Text -> Option (Option CharSet × Text)
  | '[' :: ':' :: rest =>
      let (negate, rest) :=
        match rest with
        | '^' :: rest => (true, rest)
        | _ => (false, rest)
      match rest.span (· ≠ ':') with
      | (name, ':' :: ']' :: rest) =>
          (CharSet.named? name).map fun set => (flags.negate? negate (flags.fold set), rest)
      | _ => none
  | _ => none

/-- Dashes at the start of a class stand for themselves. -/
def skipDashes (extended : Bool) : Nat -> Text -> Bool × Text
  | 0, s => (false, s)
  | n + 1, s =>
      match s with
      | '-' :: rest => (true, (skipDashes extended n (skip extended rest)).2)
      | _ => (false, s)

structure ClassStart where
  negate : Bool
  items : CharSet
  rest : Text

/-- The start of a class behind its bracket: a negation, dashes, or one closing
bracket that stands for itself. -/
def readClassStart (extended : Bool) (s : Text) : ClassStart :=
  let s := skip extended s
  let (negate, s) :=
    match s with
    | '^' :: rest => (true, skip extended rest)
    | _ => (false, s)
  match skipDashes extended s.length s with
  | (true, rest) => { negate := negate, items := .one '-', rest := rest }
  | (false, _) =>
      match s with
      | ']' :: rest => { negate := negate, items := .one ']', rest := skip extended rest }
      | _ => { negate := negate, items := .none, rest := s }

def readClassAtom (flags : Flags) : Text -> Option (Escaped × Text)
  | [] => none
  | '\\' :: rest => readEscape flags rest
  | c :: rest => some (.char c, rest)

def rangeSet (flags : Flags) (a b : Char) : Option CharSet :=
  if a ≤ b ∧ flags.allows b then some (.range a b) else none

def atomSet (flags : Flags) : Escaped -> Option CharSet
  | .char c => rangeSet flags c c
  | .set s => some s
  | .boundary _ => none

/-- One item, or two items with a dash in between. -/
def readClassItem (flags : Flags) (s : Text) : Option (CharSet × Text) := do
  let (first, rest) ← readClassAtom flags s
  let rest := skip flags.extended rest
  let single := (atomSet flags first).map fun set => (set, rest)
  match rest with
  | [] => none
  | '-' :: behind =>
      match skip flags.extended behind with
      | [] => none
      | c :: rest =>
          if c = ']' ∨ c = '-' then
            single
          else do
            let (last, rest) ← readClassAtom flags (c :: rest)
            match first, last with
            | .char a, .char b => (rangeSet flags a b).map fun set => (set, rest)
            | _, _ => none
  | _ => single

def readClassItems (flags : Flags) :
    Nat -> Option Waiting -> CharSet -> Text -> Option (CharSet × Text)
  | 0, _, _, _ => none
  | depth + 1, waiting, items, s =>
      let combine (f : CharSet -> CharSet -> CharSet) (rest : Text) :=
        readClassItems flags depth
          (some { combine := f, left := settle flags waiting items }) .none rest
      match skip flags.extended s with
      | [] => none
      | ']' :: rest => some (settle flags waiting items, rest)
      | '&' :: '&' :: rest => combine .inter rest
      | '-' :: '-' :: rest => combine .difference rest
      | '~' :: '~' :: rest => combine .symmetricDifference rest
      | '[' :: rest =>
          match readNamedClass flags ('[' :: rest) with
          | some (named, rest) => do
              let set ← named
              readClassItems flags depth waiting (.union items set) rest
          | none => do
              let start := readClassStart flags.extended rest
              let (set, rest) ← readClassItems flags depth none start.items start.rest
              let set ← flags.negate? start.negate (flags.fold set)
              readClassItems flags depth waiting (.union items set) rest
      | s => do
          let (set, rest) ← readClassItem flags s
          readClassItems flags depth waiting (.union items set) rest

/-- A class, from behind its opening bracket. -/
def readClass (flags : Flags) (s : Text) : Option (CharSet × Text) := do
  let start := readClassStart flags.extended s
  let (set, rest) ← readClassItems flags (s.length + 1) none start.items start.rest
  let set ← flags.negate? start.negate (flags.fold set)
  return (set, rest)

/-!
# Repetitions
-/

def skipBlanks (s : Text) : Text :=
  s.dropWhile Text.isBlank

/-- The largest number of rounds that can be written. -/
def maxRounds : Nat :=
  0xFFFFFFFF

/-- A numeral with blanks around it, if there is one. -/
def readCount (extended : Bool) (s : Text) : Option Nat × Text :=
  let s := skipBlanks s
  let digits := s.takeWhile Char.isDigit
  let rest := skip extended (s.dropWhile Char.isDigit)
  ((Decimal.read? digits).filter (· ≤ maxRounds), skipBlanks rest)

/-- The bounds of a counted repetition, from behind the opening brace. -/
def readBounds (extended : Bool) (s : Text) : Option (Nat × Option Nat × Text) :=
  let (least, rest) := readCount extended (skip extended s)
  match least, rest with
  | some least, '}' :: rest => some (least, some least, rest)
  | some least, ',' :: rest =>
      match skip extended rest with
      | '}' :: rest => some (least, none, rest)
      | rest =>
          match readCount extended rest with
          | (some most, '}' :: rest) =>
              if least ≤ most then some (least, some most, rest) else none
          | _ => none
  | _, _ => none

/-- A question mark behind a repetition asks for few rounds. -/
def skipLazy : Text -> Text
  | '?' :: rest => rest
  | s => s

/-!
# Groups

A group is named or not, sets flags for its inside, or only sets flags.  Two
groups must not have one name.
-/

def isNameStart (c : Char) : Bool :=
  c = '_' || CharSet.letters.contains c

def isNameChar (c : Char) : Bool :=
  c = '.' || c = '[' || c = ']' || isNameStart c || CharSet.numbers.contains c

/-- A group's name up to its angle bracket. -/
def readName (s : Text) : Option (Text × Text) :=
  match s.span (· ≠ '>') with
  | (c :: name, _ :: rest) =>
      if isNameStart c && name.all isNameChar then some (c :: name, rest) else none
  | _ => none

def setFlag? (flags : Flags) (on : Bool) (c : Char) : Option Flags :=
  match c with
  | 'i' => some { flags with ignoreCase := on }
  | 'm' => some { flags with lineAnchors := on }
  | 's' => some { flags with dotAll := on }
  | 'x' => some { flags with extended := on }
  | 'u' => some { flags with unicode := on }
  | 'R' => some { flags with crlf := on }
  | 'U' => some flags
  | _ => none

/-- Flags up to a colon or a closing bracket.  A flag stands at most once, and
so does the dash, behind which flags are turned off. -/
def readFlags (flags : Flags) (on : Bool) (used : Text) : Text -> Option (Flags × Text)
  | [] => none
  | c :: rest =>
      if c = ':' ∨ c = ')' then
        if used.head? = some '-' then none else some (flags, c :: rest)
      else if used.contains c then
        none
      else if c = '-' then
        readFlags flags false ('-' :: used) rest
      else
        match setFlag? flags on c with
        | some flags => readFlags flags on (c :: used) rest
        | none => none

inductive GroupStart where
  | inside (flags : Flags) (name : Option Text) (rest : Text)
  | flagsOnly (flags : Flags) (rest : Text)

/-- The start of a group, from behind its opening bracket. -/
def readGroupStart (flags : Flags) (s : Text) : Option GroupStart :=
  match skip flags.extended s with
  | '?' :: 'P' :: '<' :: rest =>
      (readName rest).map fun (name, rest) => .inside flags (some name) rest
  | '?' :: '<' :: rest =>
      match rest with
      | '=' :: _ => none
      | '!' :: _ => none
      | _ => (readName rest).map fun (name, rest) => .inside flags (some name) rest
  | '?' :: rest =>
      match readFlags flags true [] rest with
      | some (flags, ':' :: inside) => some (.inside flags none inside)
      | some (flags, ')' :: behind) =>
          if rest.head? = some ')' then none else some (.flagsOnly flags behind)
      | _ => none
  | rest => some (.inside flags none rest)

/-!
# Patterns

The parts of a branch are collected in order.  A part is a tree with the depth
of its nesting, or a setting of flags, which cannot be repeated.
-/

inductive Part where
  | tree (t : Tree) (depth : Nat)
  | flags

structure Branch where
  tree : Tree
  depth : Nat

def Part.depth : Part -> Nat
  | tree _ depth => depth
  | flags => 0

def joinTrees : List Part -> Tree
  | [] => .empty
  | [.tree t _] => t
  | .tree t _ :: rest => .both t (joinTrees rest)
  | .flags :: rest => joinTrees rest

/-- The parts, last one first. -/
def Branch.ofParts (parts : List Part) : Branch :=
  match parts with
  | [part] => { tree := joinTrees [part], depth := part.depth }
  | [] => { tree := .empty, depth := 0 }
  | _ =>
      { tree := joinTrees parts.reverse
        depth := 1 + (parts.map Part.depth).foldl max 0 }

def eitherOf : List Tree -> Tree
  | [] => .empty
  | [t] => t
  | t :: rest => .either t (eitherOf rest)

def Branch.ofBranches (branches : List Branch) : Branch :=
  match branches with
  | [branch] => branch
  | _ =>
      { tree := eitherOf (branches.map Branch.tree)
        depth := 1 + (branches.map Branch.depth).foldl max 0 }

structure Reading where
  flags : Flags
  names : List Text
  rest : Text

def literal (flags : Flags) (c : Char) : Tree :=
  .one (if flags.allows c then flags.fold (.one c) else .one c)

def ofEscaped (flags : Flags) : Escaped -> Tree
  | .char c => literal flags c
  | .set s => .one s
  | .boundary b => .boundary b

/-- What a dot leaves out. -/
def lineBreaks (flags : Flags) : CharSet :=
  if flags.dotAll then .none
  else if flags.crlf then .ofRanges [('\n', '\n'), ('\r', '\r')]
  else .one '\n'

/-- A single character of a pattern that opens nothing. -/
def primitive? (flags : Flags) (c : Char) : Option Tree :=
  match c with
  | '.' => (flags.negate? true (lineBreaks flags)).map .one
  | '^' => some (.boundary (if flags.lineAnchors then .lineStart flags.crlf else .textStart))
  | '$' => some (.boundary (if flags.lineAnchors then .lineEnd flags.crlf else .textEnd))
  | c => some (literal flags c)

/-- The last part repeated; flags and an empty branch cannot be. -/
def repeatLast (least : Nat) (most : Option Nat) : List Part -> Option (List Part)
  | .tree t depth :: rest => some (.tree (.rounds least most t) (depth + 1) :: rest)
  | _ => none

/-- Reads branches up to a closing bracket or the end of the text. -/
def readBranches : Nat -> Reading -> List Part -> List Branch -> Option (Branch × Reading)
  | 0, _, _, _ => none
  | depth + 1, r, parts, branches =>
      let finish (rest : Text) :=
        some (Branch.ofBranches (Branch.ofParts parts :: branches).reverse, { r with rest := rest })
      let push (t : Tree) (nesting : Nat) (r : Reading) :=
        readBranches depth r (.tree t nesting :: parts) branches
      let repetition (least : Nat) (most : Option Nat) (rest : Text) := do
        let parts ← repeatLast least most parts
        readBranches depth { r with rest := skipLazy rest } parts branches
      match skip r.flags.extended r.rest with
      | [] => finish []
      | ')' :: rest => finish (')' :: rest)
      | '|' :: rest =>
          readBranches depth { r with rest := rest } [] (Branch.ofParts parts :: branches)
      | '(' :: rest =>
          match readGroupStart r.flags rest with
          | none => none
          | some (.flagsOnly flags rest) =>
              readBranches depth { r with flags := flags, rest := rest } (.flags :: parts) branches
          | some (.inside flags name rest) =>
              if name.any r.names.contains then
                none
              else
                let names := name.toList ++ r.names
                match readBranches depth { flags := flags, names := names, rest := rest } [] [] with
                | some (inside, { names := names, rest := ')' :: rest, .. }) =>
                    push inside.tree (inside.depth + 1) { r with names := names, rest := rest }
                | _ => none
      | '[' :: rest => do
          let (set, rest) ← readClass r.flags rest
          push (.one set) 1 { r with rest := rest }
      | '?' :: rest => repetition 0 (some 1) rest
      | '*' :: rest => repetition 0 none rest
      | '+' :: rest => repetition 1 none rest
      | '{' :: rest => do
          let (least, most, rest) ← readBounds r.flags.extended rest
          repetition least most (skip r.flags.extended rest)
      | '\\' :: rest => do
          let (escaped, rest) ← readEscape r.flags rest
          push (ofEscaped r.flags escaped) 0 { r with rest := rest }
      | c :: rest => do
          let t ← primitive? r.flags c
          push t 0 { r with rest := rest }

/-- The deepest nesting of a pattern. -/
def maxDepth : Nat :=
  250

/-- About the greatest weight of a pattern: the size of a compiled pattern is limited,
and the weight only comes near to it. -/
def maxWeight : Nat :=
  327680

/-- The tree of a whole pattern.  Patterns that nest too deep or repeat too often
are refused. -/
def read? (s : Text) : Option Tree :=
  match readBranches (s.length + 1) { flags := {}, names := [], rest := s } [] [] with
  | some (branch, { rest := [], .. }) =>
      if branch.depth ≤ maxDepth ∧ branch.tree.weight ≤ maxWeight then
        some branch.tree
      else
        none
  | _ => none

end Pattern
end Moniker
