import Moniker.Text
import Std.Data.TreeSet

/-!
# Rosters

A roster is a growing list of texts that is often asked for its members.  The
texts are kept newest first, together with an ordered index and their number.
`toList` gives them in the order in which they were added.
-/

namespace Moniker

structure Roster where
  newest : List Text
  index : Std.TreeSet Text
  size : Nat
  mem_index : forall id, id ∈ index <-> id ∈ newest
  size_eq : size = newest.length

namespace Roster

def empty : Roster where
  newest := []
  index := {}
  size := 0
  mem_index := by simp
  size_eq := rfl

def toList (r : Roster) : List Text :=
  r.newest.reverse

def contains (r : Roster) (id : Text) : Bool :=
  r.index.contains id

def add (r : Roster) (id : Text) : Roster where
  newest := id :: r.newest
  index := r.index.insert id
  size := r.size + 1
  mem_index other := by
    rw [Std.TreeSet.mem_insert, r.mem_index, Std.LawfulEqOrd.compare_eq_iff_eq,
      List.mem_cons, eq_comm]
  size_eq := by
    simp [r.size_eq]

@[simp] theorem toList_add (r : Roster) (id : Text) :
    (r.add id).toList = r.toList ++ [id] := by
  simp [toList, add]

theorem size_eq_length (r : Roster) : r.size = r.toList.length := by
  simp [toList, r.size_eq]

theorem contains_iff (r : Roster) (id : Text) : r.contains id = true <-> id ∈ r.toList := by
  simp [contains, toList, Std.TreeSet.contains_iff_mem, r.mem_index]

end Roster
end Moniker
