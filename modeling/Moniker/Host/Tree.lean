import Moniker.Host
import Moniker.Text.Utf8

/-!
# File trees

A tree holds files and folders below one folder, the place where every relative
path starts.  A path is walked name by name: `.` and the empty name stay, `..`
goes back, and any other name must be an entry of the folder reached so far.
Nothing is known about places outside the tree except that they are folders.
-/

namespace Moniker

inductive Entry where
  | file (content : List UInt8)
  | folder
  deriving DecidableEq

/-- The entries by the names that lead to them, innermost name first. -/
structure Tree where
  entries : List (List Text × Entry) := []

namespace Tree

inductive Place where
  | inside (names : List Text)
  | outside

def entryAt? (t : Tree) : Place -> Option Entry
  | .outside => some .folder
  | .inside [] => some .folder
  | .inside names => t.entries.lookup names

def up : Place -> Place
  | .inside (_ :: names) => .inside names
  | _ => .outside

def byteLength (s : Text) : Nat :=
  (Utf8.encode s).length

def maxNameBytes : Nat :=
  255

def maxPathBytes : Nat :=
  4095

/-- The place of a name in a folder. -/
def enter (t : Tree) (place : Place) (name : Text) : Except Fault Place :=
  if maxNameBytes < byteLength name then
    .error .nameTooLong
  else
    match place with
    | .outside => .error .notFound
    | .inside names =>
        match t.entryAt? (.inside (name :: names)) with
        | some _ => .ok (.inside (name :: names))
        | none => .error .notFound

def walk (t : Tree) : Place -> List Text -> Except Fault Place
  | place, [] => .ok place
  | place, name :: rest =>
      match t.entryAt? place with
      | some .folder =>
          if name = [] ∨ name = ['.'] then
            walk t place rest
          else if name = ['.', '.'] then
            walk t (up place) rest
          else
            match t.enter place name with
            | .ok place => walk t place rest
            | .error fault => .error fault
      | some (.file _) => .error .notFolder
      | none => .error .notFound

def find (t : Tree) (path : Text) : Except Fault Entry :=
  if path.contains (Char.ofNat 0) then
    .error .zeroInPath
  else if path = [] then
    .error .notFound
  else if maxPathBytes < byteLength path then
    .error .nameTooLong
  else
    let start := if path.head? = some '/' then Place.outside else Place.inside []
    match t.walk start (Text.cut '/' path) with
    | .error fault => .error fault
    | .ok place =>
        match t.entryAt? place with
        | some entry => .ok entry
        | none => .error .notFound

def contents (t : Tree) (path : Text) : Except Fault Contents :=
  (t.find path).map fun
    | .file content => .bytes content
    | .folder => .folder

/-!
# Changing a tree

An entry replaces the one with the same name.  Appending to a file that is not
there makes it.
-/

def names (path : Text) : List Text :=
  (Text.cut '/' path).reverse

def put (t : Tree) (path : Text) (entry : Entry) : Tree :=
  { entries := (names path, entry) :: t.entries.filter fun e => e.1 != names path }

def append (t : Tree) (path : Text) (content : List UInt8) : Tree :=
  match t.entries.lookup (names path) with
  | some (.file before) => t.put path (.file (before ++ content))
  | _ => t.put path (.file content)

end Tree
end Moniker
