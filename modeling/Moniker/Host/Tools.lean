import Moniker.Host.Tree
import Moniker.Text.Blank
import Moniker.Text.Decimal

/-!
# Tools

The commands that a tree offers: `true`, `false`, `echo` and `test`.  A program
named with a slash is looked up in the tree, where nothing may be executed; any
other name is unknown.
-/

namespace Moniker
namespace Tools

/-!
# Conditions

`test` evaluates a condition over its arguments.  Up to four arguments their
number decides how they are read; longer conditions join terms by `-a` and `-o`,
`-a` binding tighter.  A condition that cannot be read has no value.
-/

/-- A whole number with an optional sign and blanks around it. -/
def integer? (s : Text) : Option Int :=
  match Text.trim s with
  | '-' :: digits => (Decimal.read? digits).map fun n => -(n : Int)
  | '+' :: digits => (Decimal.read? digits).map fun n => (n : Int)
  | digits => (Decimal.read? digits).map fun n => (n : Int)

def compareIntegers (holds : Int -> Int -> Bool) (a b : Text) : Option Bool := do
  return holds (← integer? a) (← integer? b)

def isThere (tree : Tree) (path : Text) : Bool :=
  (tree.find path).toOption.isSome

/-- What a binary operator says of two arguments, if it is one.  Entries have no
ages: one is newer than another only if the other is missing. -/
def binary? (tree : Tree) (operator : Text) : Option (Text -> Text -> Option Bool) :=
  if operator = "=".toList ∨ operator = "==".toList then some fun a b => some (a = b)
  else if operator = "!=".toList then some fun a b => some (a ≠ b)
  else if operator = "-eq".toList then some (compareIntegers fun a b => a = b)
  else if operator = "-ne".toList then some (compareIntegers fun a b => a ≠ b)
  else if operator = "-lt".toList then some (compareIntegers fun a b => a < b)
  else if operator = "-le".toList then some (compareIntegers fun a b => a ≤ b)
  else if operator = "-gt".toList then some (compareIntegers fun a b => a > b)
  else if operator = "-ge".toList then some (compareIntegers fun a b => a ≥ b)
  else if operator = "-nt".toList then some fun a b => some (isThere tree a && !isThere tree b)
  else if operator = "-ot".toList then some fun a b => some (!isThere tree a && isThere tree b)
  else if operator = "-ef".toList then some fun _ _ => some false
  else none

/-- A dash and one more character. -/
def isUnary : Text -> Bool
  | ['-', _] => true
  | _ => false

def unary (tree : Tree) (operator argument : Text) : Option Bool :=
  let entry := (tree.find argument).toOption
  match operator with
  | ['-', 'n'] => some (argument ≠ [])
  | ['-', 'z'] => some (argument = [])
  | ['-', c] =>
      if c ∈ ['e', 'r', 'w', 'O', 'G'] then
        some entry.isSome
      else if c = 'f' then
        some (match entry with
          | some (.file _) => true
          | _ => false)
      else if c = 'd' ∨ c = 'x' then
        some (entry = some .folder)
      else if c = 's' then
        some (match entry with
          | some (.file content) => !content.isEmpty
          | some .folder => true
          | none => false)
      else if c = 't' then
        (integer? argument).map fun _ => false
      else if c ∈ ['b', 'c', 'g', 'h', 'k', 'L', 'N', 'p', 'S', 'u'] then
        some false
      else
        none
  | _ => none

def oneArgument (a : Text) : Bool :=
  a ≠ []

def twoArguments (tree : Tree) (a b : Text) : Option Bool :=
  if a = ['!'] then some (!oneArgument b)
  else if isUnary a then unary tree a b
  else none

/-!
Longer conditions are read from left to right; each reader gives the value and
the arguments that are left.
-/

mutual

def disjunction (tree : Tree) : Nat -> List Text -> Option (Bool × List Text)
  | 0, _ => none
  | depth + 1, arguments => do
      let (value, rest) ← conjunction tree depth arguments
      match rest with
      | ['-', 'o'] :: rest =>
          let (other, rest) ← disjunction tree depth rest
          return (value || other, rest)
      | _ => return (value, rest)

def conjunction (tree : Tree) : Nat -> List Text -> Option (Bool × List Text)
  | 0, _ => none
  | depth + 1, arguments => do
      let (value, rest) ← term tree depth arguments
      match rest with
      | ['-', 'a'] :: rest =>
          let (other, rest) ← conjunction tree depth rest
          return (value && other, rest)
      | _ => return (value, rest)

def term (tree : Tree) : Nat -> List Text -> Option (Bool × List Text)
  | 0, _ => none
  | depth + 1, arguments =>
      match arguments with
      | ['!'] :: rest => do
          let (value, rest) ← term tree depth rest
          return (!value, rest)
      | ['('] :: rest => do
          let (value, rest) ← disjunction tree depth rest
          match rest with
          | [')'] :: rest => return (value, rest)
          | _ => none
      | a :: operator :: b :: rest =>
          match binary? tree operator with
          | some holds => do
              return (← holds a b, rest)
          | none =>
              if isUnary a then do
                return (← unary tree a operator, b :: rest)
              else
                return (oneArgument a, operator :: b :: rest)
      | [a, b] =>
          if isUnary a then do
            return (← unary tree a b, [])
          else
            return (oneArgument a, [b])
      | [a] => if isUnary a then none else some (oneArgument a, [])
      | [] => none

end

def condition (tree : Tree) (arguments : List Text) : Option Bool :=
  match disjunction tree (4 * arguments.length + 4) arguments with
  | some (value, []) => some value
  | _ => none

def threeArguments (tree : Tree) (a b c : Text) : Option Bool :=
  match binary? tree b with
  | some holds => holds a c
  | none =>
      if a = ['!'] then (twoArguments tree b c).map not
      else if a = ['('] ∧ c = [')'] then some (oneArgument b)
      else if b = "-a".toList ∨ b = "-o".toList then condition tree [a, b, c]
      else none

def test (tree : Tree) (arguments : List Text) : Option Bool :=
  match arguments with
  | [] => some false
  | [a] => some (oneArgument a)
  | [a, b] => twoArguments tree a b
  | [a, b, c] => threeArguments tree a b c
  | [a, b, c, d] =>
      if a = ['!'] then (threeArguments tree b c d).map not
      else if a = ['('] ∧ d = [')'] then twoArguments tree b c
      else condition tree arguments
  | _ => condition tree arguments

/-!
# Running
-/

/-- Whether a program succeeds on its arguments; a condition without value fails. -/
def run (tree : Tree) (program : Text) (arguments : List Text) : Except Fault Bool :=
  if (program :: arguments).any (·.contains (Char.ofNat 0)) then
    .error .zeroInArgument
  else if program.contains '/' then
    match tree.find program with
    | .error fault => .error fault
    | .ok _ => .error .denied
  else if program = "true".toList ∨ program = "echo".toList then
    .ok true
  else if program = "false".toList then
    .ok false
  else if program = "test".toList then
    .ok ((test tree arguments).getD false)
  else if program = "[".toList then
    .ok (arguments.getLast? == some [']'] && (test tree arguments.dropLast).getD false)
  else if program = ['.'] ∨ program = ['.', '.'] then
    .error .denied
  else if Tree.maxNameBytes < Tree.byteLength program then
    .error .nameTooLong
  else
    .error .notFound

end Tools

/-- A host whose files and commands are those of a tree in its state. -/
def Host.ofTree {σ : Type} (tree : σ -> Tree) : Host σ where
  openFile path state := (tree state).contents path
  runCommand program arguments state := (Tools.run (tree state) program arguments, state)

end Moniker
