import Moniker.Pattern.Property

/-!
# Character sets

The sets that a pattern can name: ranges, the sets of the Unicode tables, and what can
be made of them.  `folded s` holds every character that differs from a member of `s` by
case only.
-/

namespace Moniker
namespace Pattern

inductive CharSet where
  | none
  | range (first last : Char)
  | listed (a : CodePoints)
  | union (a b : CharSet)
  | inter (a b : CharSet)
  | complement (a : CharSet)
  | folded (a : CharSet)
  deriving DecidableEq

namespace CharSet

def contains : CharSet -> Char -> Bool
  | none, _ => false
  | range first last, c => first ≤ c && c ≤ last
  | listed a, c => a.contains c.toNat
  | union a b, c => a.contains c || b.contains c
  | inter a b, c => a.contains c && b.contains c
  | complement a, c => !a.contains c
  | folded a, c => (caseVariants c).any a.contains

def one (c : Char) : CharSet :=
  range c c

def all : CharSet :=
  complement none

def ofRanges : List (Char × Char) -> CharSet
  | [] => none
  | (first, last) :: rest => union (range first last) (ofRanges rest)

def difference (a b : CharSet) : CharSet :=
  inter a (complement b)

def symmetricDifference (a b : CharSet) : CharSet :=
  union (difference a b) (difference b a)

/-- The set of a name in the tables. -/
def ofName (name : String) : CharSet :=
  listed ((Property.named? name.toList).getD { places := [] })

def ascii : CharSet :=
  range (Char.ofNat 0) (Char.ofNat 127)

/-- A class of characters that has an escape, in all of Unicode and in ASCII. -/
structure Class where
  full : CharSet
  ascii : CharSet

def Class.of (k : Class) (unicode : Bool) : CharSet :=
  if unicode then k.full else k.ascii

def digits : Class where
  full := ofName "nd"
  ascii := range '0' '9'

def blanks : Class where
  full := ofName "space"
  ascii := ofRanges [(Char.ofNat 9, Char.ofNat 13), (' ', ' ')]

def words : Class where
  full := listed Unicode.word.codePoints
  ascii := ofRanges [('0', '9'), ('A', 'Z'), ('_', '_'), ('a', 'z')]

def letters : CharSet :=
  ofName "alpha"

def numbers : CharSet :=
  ofName "n"

/-!
A machine that reads UTF-8 byte by byte needs one step for a character of ASCII
and several for a set that reaches beyond; the greater classes are made of many
ranges.
-/

def isAscii (c : Char) : Bool :=
  c.toNat < 128

/-- About how many steps such a machine has for a set. -/
def weight : CharSet -> Nat
  | none => 1
  | range first last =>
      if first = last then first.utf8Size
      else if isAscii last then 2
      else 31
  | listed a => a.places.length + 1
  | union a b => a.weight + b.weight
  | inter a b => min a.weight b.weight
  | complement a => max 31 a.weight
  | folded a => a.weight

/-- The classes of ASCII characters that have names. -/
def named? (name : Text) : Option CharSet :=
  if name = "alnum".toList then some (ofRanges [('0', '9'), ('A', 'Z'), ('a', 'z')])
  else if name = "alpha".toList then some (ofRanges [('A', 'Z'), ('a', 'z')])
  else if name = "ascii".toList then some ascii
  else if name = "blank".toList then some (ofRanges [('\t', '\t'), (' ', ' ')])
  else if name = "cntrl".toList then
    some (ofRanges [(Char.ofNat 0, Char.ofNat 31), (Char.ofNat 127, Char.ofNat 127)])
  else if name = "digit".toList then some digits.ascii
  else if name = "graph".toList then some (range '!' '~')
  else if name = "lower".toList then some (range 'a' 'z')
  else if name = "print".toList then some (range ' ' '~')
  else if name = "punct".toList then
    some (ofRanges [('!', '/'), (':', '@'), ('[', Char.ofNat 96), ('{', '~')])
  else if name = "space".toList then some blanks.ascii
  else if name = "upper".toList then some (range 'A' 'Z')
  else if name = "word".toList then some words.ascii
  else if name = "xdigit".toList then
    some (ofRanges [('0', '9'), ('A', 'F'), ('a', 'f')])
  else Option.none

end CharSet
end Pattern
end Moniker
