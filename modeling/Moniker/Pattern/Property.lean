import Moniker.Pattern.Unicode

/-!
# Character properties

What a name of a property stands for: a property that a character has or has not, a
general category, or a script.  A property that takes a value stands before it.
-/

namespace Moniker
namespace Pattern

def Entry.codePoints (e : Entry) : CodePoints :=
  let bases := (Text.words e.bases.toList).filterMap fun name =>
    Unicode.categories.find? (·.isNamed name)
  bases.foldl (fun a base => a.symmetricDifference (.ofCode base.code)) (.ofCode e.code)

namespace Property

/-!
# Names

Names are compared without their case, without blanks, dashes and underscores, and
without `is` in front of them.
-/

def isFiller (c : Char) : Bool :=
  c = ' ' || c = '-' || c = '_' || 128 ≤ c.toNat

def plain (name : Text) : Text :=
  (name.filter fun c => !isFiller c).map Char.toLower

/-- `isc` is the name of a property of its own. -/
def normalize (name : Text) : Text :=
  if (name.take 2).map Char.toLower = "is".toList then
    if plain (name.drop 2) = ['c'] then "isc".toList else plain (name.drop 2)
  else
    plain name

/-!
# Tables
-/

def find? (table : List Entry) (name : Text) : Option CodePoints :=
  (table.find? (·.isNamed name)).map Entry.codePoints

def category? (name : Text) : Option CodePoints :=
  find? Unicode.categories name <|> find? Unicode.groups name

def scriptExtension? (name : Text) : Option CodePoints := do
  let own ← find? Unicode.scripts name
  return own.symmetricDifference ((find? Unicode.extensions name).getD { places := [] })

/-- The characters that are not newer than a version of the standard. -/
def age? (name : Text) (older : CodePoints) : List Entry -> Option CodePoints
  | [] => none
  | e :: rest =>
      let all := older.symmetricDifference e.codePoints
      if e.isNamed name then some all else age? name all rest

/-- The Hangul syllables that end in a vowel. -/
def openSyllables : CodePoints :=
  { places := (List.range 399).flatMap fun k => [0xAC00 + 28 * k, 0xAC00 + 28 * k + 1] }

def graphemeBreak? (name : Text) : Option CodePoints :=
  if name = "lv".toList then some openSyllables
  else if name = "lvt".toList then
    some (openSyllables.symmetricDifference { places := [0xAC00, 0xD7A4] })
  else find? Unicode.graphemeBreaks name

/-!
# Queries
-/

def named? (name : Text) : Option CodePoints :=
  let name := normalize name
  find? Unicode.properties name <|> category? name <|> find? Unicode.scripts name

def valued? (property value : Text) : Option CodePoints :=
  let property := normalize property
  let value := normalize value
  if property = "gc".toList ∨ property = "generalcategory".toList then category? value
  else if property = "sc".toList ∨ property = "script".toList then find? Unicode.scripts value
  else if property = "scx".toList ∨ property = "scriptextensions".toList then
    scriptExtension? value
  else if property = "age".toList then age? value { places := [] } Unicode.ages
  else if property = "gcb".toList ∨ property = "graphemeclusterbreak".toList then
    graphemeBreak? value
  else if property = "wb".toList ∨ property = "wordbreak".toList then
    find? Unicode.wordBreaks value
  else if property = "sb".toList ∨ property = "sentencebreak".toList then
    find? Unicode.sentenceBreaks value
  else none

/-- What stands before and behind the first `!=`. -/
def cutUnequal : Text -> Option (Text × Text)
  | '!' :: '=' :: value => some ([], value)
  | c :: rest => (cutUnequal rest).map fun (name, value) => (c :: name, value)
  | [] => none

/-- A name, or a name and a value with `!=`, `:` or `=` between them.  Whether the
characters of the set are meant or all others comes first. -/
def query? (s : Text) : Option (Bool × CodePoints) :=
  match cutUnequal s with
  | some (name, value) => (valued? name value).map fun a => (false, a)
  | none =>
      match s.span (· ≠ ':') with
      | (name, _ :: value) => (valued? name value).map fun a => (true, a)
      | _ =>
          match s.span (· ≠ '=') with
          | (name, _ :: value) => (valued? name value).map fun a => (true, a)
          | _ => (named? s).map fun a => (true, a)

end Property

/-!
# Case

Two characters are equal up to case if they are folded to the same one.
-/

structure Folding where
  first : Nat
  count : Nat
  step : Nat
  target : Nat

namespace Folding

/-- The place of a number among those of a run that starts at `start`. -/
def offset? (f : Folding) (start n : Nat) : Option Nat :=
  if start ≤ n ∧ n < start + f.count * f.step ∧ (n - start) % f.step = 0 then
    some (n - start)
  else
    none

def image? (f : Folding) (n : Nat) : Option Nat :=
  (f.offset? f.first n).map (f.target + ·)

def preimage? (f : Folding) (n : Nat) : Option Nat :=
  (f.offset? f.target n).map (f.first + ·)

def ofNumbers (before : Nat) : List Nat -> List Folding
  | distance :: count :: step :: target :: rest =>
      { first := before + distance, count := count, step := step, target := target } ::
        ofNumbers (before + distance) rest
  | _ => []

def all : List Folding :=
  ofNumbers 0 (readNumbers 0 Unicode.foldings.toList)

end Folding

def caseVariants (c : Char) : List Char :=
  let folded := (Folding.all.findSome? (·.image? c.toNat)).getD c.toNat
  (folded :: Folding.all.filterMap (·.preimage? folded)).map Char.ofNat

end Pattern
end Moniker
