import Moniker.CommandLine.Request
import Moniker.Proofs.Bindings

/-!
# Assignments in their order

An assignment sets one variable, and a text that is none is reported by what stands
before its first `=`.  The data of a command line are assigned in their order, up to the
first text that is no assignment.  If there is no such text, every variable has the data
of its last assignment.
-/

namespace Moniker
namespace Bindings

/-!
# One text
-/

inductive Assigns : Text -> Char -> Text -> Prop where
  | of {key : Char} {data : Text} :
      'a' ≤ key ∧ key ≤ 'z' -> Assigns (key :: '=' :: data) key data

def IsAssignment (s : Text) : Prop :=
  exists key data, Assigns s key data

/-- What stands before the first `=`, or all of a text that has none. -/
inductive LeftSide : Text -> Text -> Prop where
  | whole {s : Text} : '=' ∉ s -> LeftSide s s
  | front {name rest : Text} : '=' ∉ name -> LeftSide (name ++ '=' :: rest) name

theorem Assigns.unique {s : Text} {key key' : Char} {data data' : Text}
    (h : Assigns s key data) (h' : Assigns s key' data') : key = key' ∧ data = data' := by
  cases h with
  | of _ =>
      cases h' with
      | of _ =>
          exact ⟨rfl, rfl⟩

theorem exists_leftSide (s : Text) : exists name, LeftSide s name := by
  by_cases hmem : '=' ∈ s
  · rcases List.eq_append_cons_of_mem hmem with ⟨name, rest, rfl, hname⟩
    exact ⟨name, .front hname⟩
  · exact ⟨s, .whole hmem⟩

theorem splitAssignment_eq_none_iff {s : Text} : splitAssignment s = none <-> '=' ∉ s := by
  constructor
  · intro hsplit hmem
    rcases List.eq_append_cons_of_mem hmem with ⟨name, rest, hs, hname⟩
    rw [splitAssignment_eq_some_iff.mpr ⟨hs, hname⟩] at hsplit
    cases hsplit
  · intro hmem
    cases hsplit : splitAssignment s with
    | none =>
        rfl
    | some sides =>
        rw [(splitAssignment_eq_some_iff.mp hsplit).left] at hmem
        exact absurd (List.mem_append_right _ List.mem_cons_self) hmem

theorem assign_of_assigns {s : Text} {key : Char} {data : Text} (h : Assigns s key data)
    (b : Bindings) : b.assign s = b.set key data := by
  cases h with
  | of hkey =>
      rcases exists_set (isVariable_iff.mpr hkey) b data with ⟨b', hset⟩
      rw [hset]
      exact assign_eq_ok_iff.mpr ⟨key, data, rfl, hset⟩

theorem assign_of_not_isAssignment {s name : Text} (h : ¬ IsAssignment s)
    (hname : LeftSide s name) (b : Bindings) :
    b.assign s = (.error (.badKey name), b) := by
  cases hname with
  | whole hmem =>
      rw [assign, splitAssignment_eq_none_iff.mpr hmem]
  | @front _ rest hmem =>
      rw [assign, splitAssignment_eq_some_iff.mpr ⟨rfl, hmem⟩]
      split
      · rename_i hsplit
        cases hsplit
      · rename_i key data hsplit
        cases hsplit
        -- A single character that is no letter is refused by the variable, not by the text.
        exact set_of_not_isVariable
          (fun hkey => h ⟨key, rest, .of (isVariable_iff.mp hkey)⟩) b rest
      · rename_i hsplit
        cases hsplit
        rfl

theorem assign_eq_error_iff {b : Bindings} {s : Text} {failure : Failure} :
    (b.assign s).1 = .error failure <->
      ¬ IsAssignment s ∧ exists name, LeftSide s name ∧ failure = .badKey name := by
  constructor
  · intro hfails
    have hnot : ¬ IsAssignment s := by
      rintro ⟨key, data, h⟩
      rw [assign_of_assigns h] at hfails
      cases h with
      | of hkey =>
          rcases exists_set (isVariable_iff.mpr hkey) b data with ⟨b', hset⟩
          rw [hset] at hfails
          cases hfails
    rcases exists_leftSide s with ⟨name, hname⟩
    rw [assign_of_not_isAssignment hnot hname] at hfails
    exact ⟨hnot, name, hname, (Except.error.inj hfails).symm⟩
  · rintro ⟨hnot, name, hname, rfl⟩
    rw [assign_of_not_isAssignment hnot hname]

theorem Assigns.exists_set {s : Text} {key : Char} {data : Text} (h : Assigns s key data)
    (b : Bindings) :
    exists b', b.set key data = (.ok (), b') ∧
      b'.get? = Function.update b.get? key (some data) := by
  cases h with
  | of hkey =>
      exact ⟨_, set_eq_ok_iff.mpr ⟨isVariable_iff.mpr hkey, rfl⟩,
        lookup_insertEntry key data b.entries⟩

/-!
# Many texts
-/

/-- The data are assigned to the key, and no later text assigns to it. -/
def LastAssigned (texts : List Text) (key : Char) (data : Text) : Prop :=
  exists before s behind, texts = before ++ s :: behind ∧ Assigns s key data ∧
    forall later, later ∈ behind -> forall data', ¬ Assigns later key data'

theorem lastAssigned_cons_iff {s : Text} {texts : List Text} {key : Char} {data : Text} :
    LastAssigned (s :: texts) key data <->
      LastAssigned texts key data ∨
        Assigns s key data ∧
          forall later, later ∈ texts -> forall data', ¬ Assigns later key data' := by
  constructor
  · rintro ⟨before, s', behind, htexts, hassigns, hbehind⟩
    cases before with
    | nil =>
        cases htexts
        exact Or.inr ⟨hassigns, hbehind⟩
    | cons first before =>
        cases htexts
        exact Or.inl ⟨before, s', behind, rfl, hassigns, hbehind⟩
  · rintro (⟨before, s', behind, rfl, hassigns, hbehind⟩ | ⟨hassigns, hbehind⟩)
    · exact ⟨s :: before, s', behind, rfl, hassigns, hbehind⟩
    · exact ⟨[], s, texts, rfl, hassigns, hbehind⟩

theorem LastAssigned.assigns {texts : List Text} {key : Char} {data : Text}
    (h : LastAssigned texts key data) :
    exists s, s ∈ texts ∧ Assigns s key data := by
  rcases h with ⟨before, s, behind, rfl, hassigns, _⟩
  exact ⟨s, List.mem_append_right before List.mem_cons_self, hassigns⟩

section

variable {b b' : Bindings} {s : Text} {texts : List Text}

theorem assignAll_cons_eq_ok_iff :
    b.assignAll (s :: texts) = .ok b' <->
      exists b₁, b.assign s = (.ok (), b₁) ∧ b₁.assignAll texts = .ok b' := by
  simp only [assignAll, Steps.bind_eq_ok_iff, Steps.made_eq_ok_iff]

theorem exists_assignAll_of_isAssignment
    (h : forall s, s ∈ texts -> IsAssignment s) (b : Bindings) :
    exists b', b.assignAll texts = .ok b' := by
  induction texts generalizing b with
  | nil =>
      exact ⟨b, rfl⟩
  | cons s texts ih =>
      rw [List.forall_mem_cons] at h
      rcases h.left with ⟨key, data, hassigns⟩
      rcases hassigns.exists_set b with ⟨b₁, hset, _⟩
      rcases ih h.right b₁ with ⟨b', hrest⟩
      exact ⟨b', assignAll_cons_eq_ok_iff.mpr
        ⟨b₁, (assign_of_assigns hassigns b).trans hset, hrest⟩⟩

/-- Nothing behind a text that is no assignment is looked at. -/
theorem assignAll_of_firstNot {name : Text} (h : Steps.FirstNot IsAssignment texts s)
    (hname : LeftSide s name) (b : Bindings) : b.assignAll texts = .error (.badKey name) := by
  induction h generalizing b with
  | here hnot =>
      rw [assignAll, assign_of_not_isAssignment hnot hname]
      rfl
  | later hassignment _ ih =>
      rcases hassignment with ⟨key, data, hassigns⟩
      rcases hassigns.exists_set b with ⟨b₁, hset, _⟩
      rw [assignAll, assign_of_assigns hassigns, hset]
      exact ih hname b₁

theorem exists_assignAll_iff :
    (exists b', b.assignAll texts = .ok b') <-> forall s, s ∈ texts -> IsAssignment s := by
  constructor
  · rintro ⟨b', hok⟩
    rcases Steps.all_or_firstNot IsAssignment texts with hall | ⟨s, hfirst⟩
    · exact hall
    · rcases exists_leftSide s with ⟨name, hname⟩
      rw [assignAll_of_firstNot hfirst hname] at hok
      cases hok
  · exact fun hall => exists_assignAll_of_isAssignment hall b

theorem assignAll_eq_error_iff {failure : Failure} :
    b.assignAll texts = .error failure <->
      exists s name, Steps.FirstNot IsAssignment texts s ∧ LeftSide s name ∧
        failure = .badKey name := by
  constructor
  · intro hfails
    rcases Steps.all_or_firstNot IsAssignment texts with hall | ⟨s, hfirst⟩
    · rcases exists_assignAll_of_isAssignment hall b with ⟨b', hok⟩
      rw [hok] at hfails
      cases hfails
    · rcases exists_leftSide s with ⟨name, hname⟩
      rw [assignAll_of_firstNot hfirst hname] at hfails
      exact ⟨s, name, hfirst, hname, (Except.error.inj hfails).symm⟩
  · rintro ⟨s, name, hfirst, hname, rfl⟩
    exact assignAll_of_firstNot hfirst hname b

theorem get?_assignAll_iff (h : b.assignAll texts = .ok b') {key : Char} {data : Text} :
    b'.get? key = some data <->
      LastAssigned texts key data ∨
        (forall s, s ∈ texts -> forall data', ¬ Assigns s key data') ∧
          b.get? key = some data := by
  induction texts generalizing b with
  | nil =>
      cases h
      have hnone : ¬ LastAssigned [] key data := fun hlast => by
        rcases hlast.assigns with ⟨s, hs, _⟩
        cases hs
      rw [or_iff_right hnone, and_iff_right (List.forall_mem_nil _)]
  | cons s texts ih =>
      rcases assignAll_cons_eq_ok_iff.mp h with ⟨b₁, hassign, hrest⟩
      rcases assign_eq_ok_iff.mp hassign with ⟨key₁, data₁, rfl, hset⟩
      have hassigns : Assigns (key₁ :: '=' :: data₁) key₁ data₁ :=
        .of (isVariable_iff.mp (set_eq_ok_iff.mp hset).left)
      rcases hassigns.exists_set b with ⟨_, hset', hget⟩
      cases hset.symm.trans hset'
      rw [ih hrest, lastAssigned_cons_iff, List.forall_mem_cons, hget, Function.update_apply]
      by_cases hkey : key = key₁
      · subst hkey
        have hdata : Assigns (key :: '=' :: data₁) key data <-> some data₁ = some data :=
          ⟨fun h' => congrArg some (hassigns.unique h').right, fun heq => by
            cases heq
            exact hassigns⟩
        have hnot : ¬ forall data', ¬ Assigns (key :: '=' :: data₁) key data' :=
          fun hnone => hnone data₁ hassigns
        simp only [if_true, hdata, hnot, false_and, or_false]
        rw [and_comm]
      · have hother : forall data', ¬ Assigns (key₁ :: '=' :: data₁) key data' :=
          fun data' h' => hkey (h'.unique hassigns).left
        simp only [if_neg hkey, hother, false_and, or_false, not_false_iff, implies_true, true_and]

theorem Arranged.assignAll (harranged : b.Arranged) (h : b.assignAll texts = .ok b') :
    b'.Arranged := by
  induction texts generalizing b with
  | nil =>
      cases h
      exact harranged
  | cons s texts ih =>
      rcases assignAll_cons_eq_ok_iff.mp h with ⟨b₁, hassign, hrest⟩
      rcases assign_eq_ok_iff.mp hassign with ⟨key, data, _, hset⟩
      exact ih (harranged.set hset).left hrest

end

/-!
# Assignments of a command line
-/

/-- A text is taken exactly if it is an assignment, and then does what setting the
variable does.  Any other text is reported by its left side and changes nothing.  A
command line fails with its first text that is no assignment.  Without such a text, its
bindings hold the data of the last assignment to each letter and nothing else. -/
theorem assigned_in_order (b : Bindings) (s : Text) (a : CommandLine.Arguments) :
    ((b.assign s).1 = .ok () <-> exists key data, Assigns s key data) ∧
      (forall key data, Assigns s key data ->
        b.assign s = b.set key data ∧
          exists b', b.set key data = (.ok (), b') ∧
            b'.get? = Function.update b.get? key (some data)) ∧
      (forall failure, (b.assign s).1 = .error failure <->
        ¬ IsAssignment s ∧ exists name, LeftSide s name ∧ failure = .badKey name) ∧
      (¬ IsAssignment s -> (b.assign s).2 = b) ∧
      ((exists b', a.bindings = .ok b') <-> forall text, text ∈ a.data -> IsAssignment text) ∧
      (forall failure, a.bindings = .error failure <->
        exists text name, Steps.FirstNot IsAssignment a.data text ∧ LeftSide text name ∧
          failure = .badKey name) ∧
      forall b', a.bindings = .ok b' ->
        b'.Arranged ∧
          forall key data, b'.get? key = some data <-> LastAssigned a.data key data := by
  have htaken : forall key data, Assigns s key data -> b.assign s = b.set key data ∧
      exists b', b.set key data = (.ok (), b') ∧
        b'.get? = Function.update b.get? key (some data) :=
    fun key data h => ⟨assign_of_assigns h b, h.exists_set b⟩
  refine ⟨⟨?_, ?_⟩, htaken, fun failure => assign_eq_error_iff, ?_, exists_assignAll_iff,
    fun failure => assignAll_eq_error_iff, ?_⟩
  · intro hok
    by_contra hnot
    rcases exists_leftSide s with ⟨name, hname⟩
    rw [assign_of_not_isAssignment hnot hname] at hok
    cases hok
  · rintro ⟨key, data, h⟩
    rcases htaken key data h with ⟨hassign, b', hset, _⟩
    rw [hassign, hset]
  · intro hnot
    rcases exists_leftSide s with ⟨name, hname⟩
    rw [assign_of_not_isAssignment hnot hname]
  · intro b' hok
    refine ⟨arranged_empty.assignAll hok, fun key data => ?_⟩
    have hempty : empty.get? key ≠ some data := fun h => by cases h
    rw [get?_assignAll_iff hok, or_iff_left fun h => hempty h.right]

/-- The second assignment to a letter counts, and all behind its first `=` is data. -/
example :
    ({ template := [], data := ["s=x".toList, "f=".toList, "s==y=".toList] } :
      CommandLine.Arguments).bindings =
        .ok { entries := [('f', []), ('s', "=y=".toList)] } := by
  rfl

end Bindings
end Moniker
