import Moniker.Filter.Chain
import Mathlib.Data.List.Induction
import Mathlib.Data.List.Nodup
import Mathlib.Data.Nat.Find
import Mathlib.Order.Bounds.Basic

/-!
# A chain as a register

A chain changes by edits: a filter is added, removed by its name, or all filters
are taken away.  The chain is searched for the first filter with a name, but as no
two filters in it have the same name, it acts as a register of filters by their
names.  Which filters stand in it, and in which order, can be told from the edits
alone.
-/

namespace Moniker

variable {σ : Type}

/-!
# Registers

A register lists filters with their names.  It is changed at every entry with a
name, not only at the first.
-/

abbrev Register (σ : Type) := List (Text × Filter σ)

namespace Register

def ids (r : Register σ) : List Text :=
  r.map Prod.fst

def add (r : Register σ) (f : Filter σ) : Register σ :=
  if r.ids.contains f.id then
    r.map fun entry => if entry.1 = f.id then (f.id, f) else entry
  else
    r ++ [(f.id, f)]

def remove (r : Register σ) (id : Text) : Option (Filter σ) × Register σ :=
  (r.lookup id, r.filter fun entry => entry.1 ≠ id)

end Register

/-!
# Edits
-/

inductive Edit (σ : Type) where
  | add (f : Filter σ)
  | remove (id : Text)
  | clear

def Chain.edit (chain : Chain σ) : Edit σ -> Option (Filter σ) × Chain σ
  | .add f => (none, chain.add f)
  | .remove id => chain.remove id
  | .clear => (none, chain.clear)

def Register.edit (r : Register σ) : Edit σ -> Option (Filter σ) × Register σ
  | .add f => (none, r.add f)
  | .remove id => r.remove id
  | .clear => (none, [])

def Chain.edited (edits : List (Edit σ)) : Chain σ :=
  edits.foldl (fun chain edit => (chain.edit edit).2) Chain.empty

def Register.edited (edits : List (Edit σ)) : Register σ :=
  edits.foldl (fun r edit => (r.edit edit).2) []

theorem Chain.edited_concat (edits : List (Edit σ)) (edit : Edit σ) :
    edited (edits ++ [edit]) = ((edited edits).edit edit).2 := by
  rw [edited, List.foldl_concat]
  rfl

theorem Register.edited_concat (edits : List (Edit σ)) (edit : Edit σ) :
    edited (edits ++ [edit]) = ((edited edits).edit edit).2 := by
  rw [edited, List.foldl_concat]
  rfl

/-!
# The history of a name

An edit adds a name, or drops it, or leaves it alone.  What stands under a name goes
back to the edits since the name was last dropped.
-/

namespace Edit

def Adds (id : Text) : Edit σ -> Prop
  | .add f => f.id = id
  | .remove _ => False
  | .clear => False

def Drops (id : Text) : Edit σ -> Prop
  | .add _ => False
  | .remove id' => id' = id
  | .clear => True

/-- The filter is added, and its name is neither added nor dropped again. -/
def LastAdded (edits : List (Edit σ)) (f : Filter σ) : Prop :=
  exists place : Nat, edits[place]? = some (Edit.add f) ∧
    forall (later : Nat) (edit : Edit σ), place < later -> edits[later]? = some edit ->
      ¬ edit.Adds f.id ∧ ¬ edit.Drops f.id

/-- The name is added at a place and not dropped behind it. -/
def Lasting (edits : List (Edit σ)) (id : Text) (place : Nat) : Prop :=
  (exists edit : Edit σ, edits[place]? = some edit ∧ edit.Adds id) ∧
    forall (later : Nat) (edit : Edit σ), place < later -> edits[later]? = some edit ->
      ¬ edit.Drops id

/-- The place at which a name was first added since it was last dropped. -/
def FirstAdded (edits : List (Edit σ)) (id : Text) (place : Nat) : Prop :=
  IsLeast { p | Lasting edits id p } place

theorem getElem?_concat_iff (edits : List (Edit σ)) (last edit : Edit σ) (place : Nat) :
    (edits ++ [last])[place]? = some edit <->
      edits[place]? = some edit ∨ place = edits.length ∧ last = edit := by
  rcases Nat.lt_or_ge place edits.length with hlt | hge
  · rw [List.getElem?_append_left hlt]
    exact ⟨Or.inl, fun h => h.resolve_right fun hlast => Nat.ne_of_lt hlt hlast.left⟩
  · have hnone : edits[place]? = none := List.getElem?_eq_none hge
    rw [List.getElem?_append_right hge, hnone, List.getElem?_singleton]
    by_cases hplace : place = edits.length
    · simp [hplace]
    · simp [hplace, show place - edits.length ≠ 0 by omega]

theorem lt_length_of_getElem? {edits : List (Edit σ)} {place : Nat} {edit : Edit σ}
    (h : edits[place]? = some edit) : place < edits.length :=
  (List.getElem?_eq_some_iff.mp h).choose

/-- What no edit behind a place does, no edit behind it does after one more edit. -/
theorem behind_concat_iff {edits : List (Edit σ)} {last : Edit σ} {place : Nat}
    (p : Edit σ -> Prop) (hplace : place < edits.length) :
    (forall later edit, place < later -> (edits ++ [last])[later]? = some edit -> p edit) <->
      p last ∧ forall later edit, place < later -> edits[later]? = some edit -> p edit := by
  constructor
  · intro h
    refine ⟨h edits.length last hplace ?_, fun later edit hlater hedit => ?_⟩
    · exact List.getElem?_concat_length
    · exact h later edit hlater ((getElem?_concat_iff edits last edit later).mpr (Or.inl hedit))
  · intro h later edit hlater hedit
    rcases (getElem?_concat_iff edits last edit later).mp hedit with hedit | ⟨_, rfl⟩
    · exact h.right later edit hlater hedit
    · exact h.left

theorem not_behind_concat {edits : List (Edit σ)} {last edit : Edit σ} {later : Nat}
    (hlater : edits.length < later) : (edits ++ [last])[later]? ≠ some edit := by
  intro hedit
  have hlength := lt_length_of_getElem? hedit
  rw [List.length_append, List.length_singleton] at hlength
  omega

theorem lastAdded_concat_iff (edits : List (Edit σ)) (last : Edit σ) (f : Filter σ) :
    LastAdded (edits ++ [last]) f <->
      last = Edit.add f ∨ (¬ last.Adds f.id ∧ ¬ last.Drops f.id) ∧ LastAdded edits f := by
  constructor
  · rintro ⟨place, hadd, hbehind⟩
    rcases (getElem?_concat_iff edits last _ place).mp hadd with hadd | ⟨_, hlast⟩
    · have hlength := lt_length_of_getElem? hadd
      rcases (behind_concat_iff _ hlength).mp hbehind with ⟨hlast, hbehind⟩
      exact Or.inr ⟨hlast, place, hadd, hbehind⟩
    · exact Or.inl hlast
  · rintro (rfl | ⟨hlast, place, hadd, hbehind⟩)
    · refine ⟨edits.length, ?_, fun later edit hlater hedit => ?_⟩
      · exact List.getElem?_concat_length
      · exact absurd hedit (not_behind_concat hlater)
    · refine ⟨place, (getElem?_concat_iff edits last _ place).mpr (Or.inl hadd), ?_⟩
      exact (behind_concat_iff _ (lt_length_of_getElem? hadd)).mpr ⟨hlast, hbehind⟩

theorem lasting_concat_iff (edits : List (Edit σ)) (last : Edit σ) (id : Text) (place : Nat) :
    Lasting (edits ++ [last]) id place <->
      place = edits.length ∧ last.Adds id ∨ ¬ last.Drops id ∧ Lasting edits id place := by
  constructor
  · rintro ⟨⟨edit, hedit, hadds⟩, hbehind⟩
    rcases (getElem?_concat_iff edits last edit place).mp hedit with hedit | ⟨hplace, rfl⟩
    · rcases (behind_concat_iff _ (lt_length_of_getElem? hedit)).mp hbehind with ⟨hlast, hbehind⟩
      exact Or.inr ⟨hlast, ⟨edit, hedit, hadds⟩, hbehind⟩
    · exact Or.inl ⟨hplace, hadds⟩
  · rintro (⟨rfl, hadds⟩ | ⟨hlast, ⟨edit, hedit, hadds⟩, hbehind⟩)
    · refine ⟨⟨last, ?_, hadds⟩, fun later edit hlater hedit => ?_⟩
      · exact List.getElem?_concat_length
      · exact absurd hedit (not_behind_concat hlater)
    · refine ⟨⟨edit, (getElem?_concat_iff edits last edit place).mpr (Or.inl hedit), hadds⟩, ?_⟩
      exact (behind_concat_iff _ (lt_length_of_getElem? hedit)).mpr ⟨hlast, hbehind⟩

theorem Lasting.lt_length {edits : List (Edit σ)} {id : Text} {place : Nat}
    (h : Lasting edits id place) : place < edits.length :=
  lt_length_of_getElem? h.left.choose_spec.left

theorem FirstAdded.concat {edits : List (Edit σ)} {last : Edit σ} {id : Text} {place : Nat}
    (h : FirstAdded edits id place) (hlast : ¬ last.Drops id) :
    FirstAdded (edits ++ [last]) id place := by
  refine ⟨(lasting_concat_iff edits last id place).mpr (Or.inr ⟨hlast, h.left⟩), ?_⟩
  intro place' hplace'
  rcases (lasting_concat_iff edits last id place').mp hplace' with ⟨rfl, _⟩ | ⟨_, hlasting⟩
  · exact Nat.le_of_lt (Lasting.lt_length h.left)
  · exact h.right hlasting

theorem firstAdded_length {edits : List (Edit σ)} {last : Edit σ} {id : Text}
    (hlast : last.Adds id) (hnone : forall place, ¬ Lasting edits id place) :
    FirstAdded (edits ++ [last]) id edits.length := by
  refine ⟨(lasting_concat_iff edits last id _).mpr (Or.inl ⟨rfl, hlast⟩), ?_⟩
  intro place hplace
  rcases (lasting_concat_iff edits last id place).mp hplace with ⟨rfl, _⟩ | ⟨_, hlasting⟩
  · exact Nat.le_refl _
  · exact absurd hlasting (hnone place)

/-- The first name was added before the second one, each since it was last dropped. -/
def Before (edits : List (Edit σ)) (id id' : Text) : Prop :=
  exists place place',
    FirstAdded edits id place ∧ FirstAdded edits id' place' ∧ place < place'

theorem Before.concat {edits : List (Edit σ)} {last : Edit σ} {id id' : Text}
    (h : Before edits id id') (hid : ¬ last.Drops id) (hid' : ¬ last.Drops id') :
    Before (edits ++ [last]) id id' := by
  rcases h with ⟨place, place', hplace, hplace', hlt⟩
  exact ⟨place, place', hplace.concat hid, hplace'.concat hid', hlt⟩

theorem exists_firstAdded_iff (edits : List (Edit σ)) (id : Text) :
    (exists place, FirstAdded edits id place) <-> exists place, Lasting edits id place := by
  classical
  constructor
  · rintro ⟨place, h⟩
    exact ⟨place, h.left⟩
  · intro h
    exact ⟨Nat.find h, Nat.find_spec h, fun place hplace => Nat.find_min' h hplace⟩

end Edit

/-!
# Filters with different names
-/

namespace Chain

def register (chain : Chain σ) : Register σ :=
  chain.filters.map fun f => (f.id, f)

theorem ids_register (chain : Chain σ) : chain.register.ids = chain.ids := by
  rw [register, Register.ids, List.map_map]
  rfl

theorem id_ne_of_mem {f g : Filter σ} {filters : List (Filter σ)}
    (h : f.id ∉ filters.map Filter.id) (hg : g ∈ filters) : g.id ≠ f.id := by
  intro heq
  rw [← heq] at h
  exact h (List.mem_map_of_mem hg)

theorem insertFilter_of_not_mem {f : Filter σ} {filters : List (Filter σ)}
    (h : f.id ∉ filters.map Filter.id) : insertFilter f filters = filters ++ [f] := by
  induction filters with
  | nil =>
      rfl
  | cons g rest ih =>
      rw [List.map_cons, List.mem_cons, not_or] at h
      rw [insertFilter, if_neg fun hid => h.left hid.symm, ih h.right, List.cons_append]

theorem insertFilter_of_mem {f : Filter σ} {filters : List (Filter σ)}
    (hnodup : (filters.map Filter.id).Nodup) (h : f.id ∈ filters.map Filter.id) :
    insertFilter f filters = filters.map fun g => if g.id = f.id then f else g := by
  induction filters with
  | nil =>
      cases h
  | cons g rest ih =>
      rw [List.map_cons, List.nodup_cons] at hnodup
      by_cases hid : g.id = f.id
      · have hrest : (rest.map fun g' => if g'.id = f.id then f else g') = rest.map id := by
          apply List.map_congr_left
          intro g' hg'
          rw [← hid, if_neg (id_ne_of_mem hnodup.left hg'), id]
        rw [insertFilter, if_pos hid, List.map_cons, if_pos hid, hrest, List.map_id]
      · rw [List.map_cons, List.mem_cons] at h
        have hmem : f.id ∈ rest.map Filter.id := h.resolve_left fun heq => hid heq.symm
        rw [insertFilter, if_neg hid, List.map_cons, if_neg hid, ih hnodup.right hmem]

theorem mem_insertFilter_iff {f g : Filter σ} {filters : List (Filter σ)}
    (hnodup : (filters.map Filter.id).Nodup) :
    g ∈ insertFilter f filters <-> f = g ∨ f.id ≠ g.id ∧ g ∈ filters := by
  induction filters with
  | nil =>
      simp [insertFilter, eq_comm]
  | cons g' rest ih =>
      rw [List.map_cons, List.nodup_cons] at hnodup
      by_cases hid : g'.id = f.id
      · have hrest : g ∈ rest -> f.id ≠ g.id := fun hg =>
          hid ▸ (id_ne_of_mem hnodup.left hg).symm
        rw [insertFilter, if_pos hid, List.mem_cons, List.mem_cons]
        grind
      · rw [insertFilter, if_neg hid, List.mem_cons, List.mem_cons, ih hnodup.right]
        grind

theorem eraseFilter_of_nodup (id : Text) {filters : List (Filter σ)}
    (hnodup : (filters.map Filter.id).Nodup) :
    eraseFilter id filters = filters.filter fun g => g.id ≠ id := by
  induction filters with
  | nil =>
      rfl
  | cons g rest ih =>
      rw [List.map_cons, List.nodup_cons] at hnodup
      by_cases hid : g.id = id
      · have hrest : (rest.filter fun g' => g'.id ≠ id) = rest := by
          apply List.filter_eq_self.mpr
          intro g' hg'
          rw [← hid]
          exact decide_eq_true (id_ne_of_mem hnodup.left hg')
        rw [eraseFilter, if_pos hid, List.filter_cons_of_neg (by simp [hid]), hrest]
      · rw [eraseFilter, if_neg hid, List.filter_cons_of_pos (by simp [hid]), ih hnodup.right]

theorem find?_eq_lookup (chain : Chain σ) (id : Text) :
    chain.find? id = chain.register.lookup id := by
  rw [find?, register]
  induction chain.filters with
  | nil =>
      rfl
  | cons g rest ih =>
      rw [List.map_cons, List.lookup_cons, ← ih]
      by_cases hid : g.id = id
      · have hbeq : (id == g.id) = true := beq_iff_eq.mpr hid.symm
        rw [List.find?_cons_of_pos (by simpa using hid), hbeq]
      · have hbeq : (id == g.id) = false := beq_eq_false_iff_ne.mpr (Ne.symm hid)
        rw [List.find?_cons_of_neg (by simpa using hid), hbeq]

/-!
# One edit
-/

variable {chain : Chain σ}

theorem edit_eq_register (h : chain.ids.Nodup) (edit : Edit σ) :
    (chain.edit edit).1 = (chain.register.edit edit).1 ∧
      (chain.edit edit).2.register = (chain.register.edit edit).2 := by
  cases edit with
  | clear =>
      exact ⟨rfl, rfl⟩
  | remove id =>
      refine ⟨chain.find?_eq_lookup id, ?_⟩
      show (eraseFilter id chain.filters).map (fun f => (f.id, f)) =
        chain.register.filter fun entry => entry.1 ≠ id
      rw [eraseFilter_of_nodup id h, register, List.filter_map]
      rfl
  | add f =>
      refine ⟨rfl, ?_⟩
      show (insertFilter f chain.filters).map (fun f => (f.id, f)) = chain.register.add f
      by_cases hmem : f.id ∈ chain.ids
      · rw [insertFilter_of_mem h hmem, Register.add, ids_register,
          if_pos (List.contains_iff_mem.mpr hmem), register, List.map_map, List.map_map]
        apply List.map_congr_left
        intro g _
        by_cases hid : g.id = f.id
        · simp [hid]
        · simp [hid]
      · rw [insertFilter_of_not_mem hmem, Register.add, ids_register,
          if_neg fun hcontains => hmem (List.contains_iff_mem.mp hcontains), register,
          List.map_append]
        rfl

theorem ids_add (h : chain.ids.Nodup) (f : Filter σ) :
    (chain.add f).ids = if f.id ∈ chain.ids then chain.ids else chain.ids ++ [f.id] := by
  show (insertFilter f chain.filters).map Filter.id = _
  split
  · rename_i hmem
    rw [insertFilter_of_mem h hmem, List.map_map]
    apply List.map_congr_left
    intro g _
    by_cases hid : g.id = f.id
    · simp [hid]
    · simp [hid]
  · rename_i hmem
    rw [insertFilter_of_not_mem hmem, List.map_append]
    rfl

theorem ids_remove (h : chain.ids.Nodup) (id : Text) :
    (chain.remove id).2.ids = chain.ids.filter (· ≠ id) := by
  show (eraseFilter id chain.filters).map Filter.id = _
  rw [eraseFilter_of_nodup id h, ids, List.filter_map]
  rfl

theorem nodup_edit (h : chain.ids.Nodup) (edit : Edit σ) : (chain.edit edit).2.ids.Nodup := by
  cases edit with
  | clear =>
      exact List.nodup_nil
  | remove id =>
      show (chain.remove id).2.ids.Nodup
      rw [ids_remove h]
      exact h.filter _
  | add f =>
      show (chain.add f).ids.Nodup
      rw [ids_add h]
      split
      · exact h
      · rename_i hmem
        rw [← List.concat_eq_append]
        exact h.concat hmem

theorem nodup_edited (edits : List (Edit σ)) : (edited edits).ids.Nodup := by
  induction edits using List.reverseRecOn with
  | nil =>
      exact List.nodup_nil
  | append_singleton edits edit ih =>
      rw [edited_concat]
      exact nodup_edit ih edit

theorem mem_ids_edit_iff (h : chain.ids.Nodup) (edit : Edit σ) (id : Text) :
    id ∈ (chain.edit edit).2.ids <-> edit.Adds id ∨ ¬ edit.Drops id ∧ id ∈ chain.ids := by
  cases edit with
  | clear =>
      simp [edit, clear, ids, Edit.Adds, Edit.Drops]
  | remove id' =>
      show id ∈ (chain.remove id').2.ids <-> False ∨ ¬ id' = id ∧ id ∈ chain.ids
      rw [ids_remove h, List.mem_filter, decide_eq_true_iff, false_or, and_comm, ne_comm]
  | add f =>
      show id ∈ (chain.add f).ids <-> f.id = id ∨ ¬ False ∧ id ∈ chain.ids
      rw [ids_add h, not_false_iff, true_and]
      split
      · rename_i hmem
        exact ⟨Or.inr, fun h => h.elim (fun hid => hid ▸ hmem) fun hid => hid⟩
      · rw [List.mem_append, List.mem_singleton, or_comm, eq_comm]

theorem mem_filters_edit_iff (h : chain.ids.Nodup) (edit : Edit σ) (g : Filter σ) :
    g ∈ (chain.edit edit).2.filters <->
      edit = Edit.add g ∨ (¬ edit.Adds g.id ∧ ¬ edit.Drops g.id) ∧ g ∈ chain.filters := by
  cases edit with
  | clear =>
      simp [edit, clear, Edit.Drops]
  | remove id =>
      show g ∈ eraseFilter id chain.filters <-> _
      rw [eraseFilter_of_nodup id h, List.mem_filter, decide_eq_true_iff]
      simp [Edit.Adds, Edit.Drops, and_comm, ne_comm]
  | add f =>
      show g ∈ insertFilter f chain.filters <-> _
      rw [mem_insertFilter_iff h, Edit.add.injEq]
      simp [Edit.Adds, Edit.Drops, eq_comm]

theorem register_edited (edits : List (Edit σ)) :
    (edited edits).register = Register.edited edits := by
  induction edits using List.reverseRecOn with
  | nil =>
      rfl
  | append_singleton edits edit ih =>
      rw [edited_concat, Register.edited_concat, (edit_eq_register (nodup_edited edits) edit).right,
        ih]

theorem mem_ids_edited_iff (edits : List (Edit σ)) (id : Text) :
    id ∈ (edited edits).ids <-> exists place, Edit.Lasting edits id place := by
  induction edits using List.reverseRecOn with
  | nil =>
      refine ⟨fun h => absurd h List.not_mem_nil, ?_⟩
      rintro ⟨place, hlasting⟩
      exact absurd hlasting.lt_length (Nat.not_lt_zero place)
  | append_singleton edits edit ih =>
      rw [edited_concat, mem_ids_edit_iff (nodup_edited edits), ih]
      simp [Edit.lasting_concat_iff, exists_or]

theorem mem_filters_edited_iff (edits : List (Edit σ)) (f : Filter σ) :
    f ∈ (edited edits).filters <-> Edit.LastAdded edits f := by
  induction edits using List.reverseRecOn with
  | nil =>
      refine ⟨fun h => absurd h List.not_mem_nil, ?_⟩
      rintro ⟨place, hadd, _⟩
      exact absurd (Edit.lt_length_of_getElem? hadd) (Nat.not_lt_zero place)
  | append_singleton edits edit ih =>
      rw [edited_concat, mem_filters_edit_iff (nodup_edited edits), ih, Edit.lastAdded_concat_iff]

theorem before_of_ids (edits : List (Edit σ)) :
    (edited edits).ids.Pairwise (Edit.Before edits) := by
  induction edits using List.reverseRecOn with
  | nil =>
      exact List.Pairwise.nil
  | append_singleton edits edit ih =>
      rw [edited_concat]
      cases edit with
      | clear =>
          exact List.Pairwise.nil
      | remove id =>
          show ((edited edits).remove id).2.ids.Pairwise _
          rw [ids_remove (nodup_edited edits)]
          apply (ih.filter (· ≠ id)).imp_of_mem
          intro a b ha hb hbefore
          have hne : forall c, c ∈ (edited edits).ids.filter (· ≠ id) -> ¬ id = c := fun c hc heq =>
            of_decide_eq_true (List.mem_filter.mp hc).right heq.symm
          exact hbefore.concat (hne a ha) (hne b hb)
      | add f =>
          have hkept : (edited edits).ids.Pairwise (Edit.Before (edits ++ [Edit.add f])) :=
            ih.imp fun hbefore => hbefore.concat not_false not_false
          show ((edited edits).add f).ids.Pairwise _
          rw [ids_add (nodup_edited edits)]
          split
          · exact hkept
          · rename_i hmem
            refine List.pairwise_append.mpr ⟨hkept, List.pairwise_singleton _ _, ?_⟩
            intro id hid id' hid'
            rw [List.mem_singleton.mp hid']
            rcases (Edit.exists_firstAdded_iff edits id).mpr
              ((mem_ids_edited_iff edits id).mp hid) with ⟨place, hplace⟩
            refine ⟨place, edits.length, hplace.concat not_false, ?_, hplace.left.lt_length⟩
            apply Edit.firstAdded_length (show (Edit.add f).Adds f.id from rfl)
            intro place' hlasting
            exact hmem ((mem_ids_edited_iff edits f.id).mpr ⟨place', hlasting⟩)

theorem remove_of_not_mem {id : Text} (h : chain.ids.Nodup) (hid : id ∉ chain.ids) :
    chain.remove id = (none, chain) := by
  have hne : forall g, g ∈ chain.filters -> g.id ≠ id := fun g hg heq =>
    hid (heq ▸ List.mem_map_of_mem hg)
  have hfind : chain.find? id = none :=
    List.find?_eq_none.mpr fun g hg => by simpa using hne g hg
  have herase : eraseFilter id chain.filters = chain.filters := by
    rw [eraseFilter_of_nodup id h]
    exact List.filter_eq_self.mpr fun g hg => decide_eq_true (hne g hg)
  rw [remove, hfind, herase]

/-!
# Chains and registers
-/

/-- A chain that was made by edits is the register that the same edits make, and
answers every further edit as the register does.  A name stands in it if it was added
since it was last dropped, the names stand in the order in which they were first added
since then, and the filter under a name is the one that was added last. -/
theorem edited_eq_register (edits : List (Edit σ)) :
    (edited edits).register = Register.edited edits ∧
      (forall edit, ((edited edits).edit edit).1 = ((Register.edited edits).edit edit).1) ∧
      (forall id, id ∉ (edited edits).ids -> (edited edits).remove id = (none, edited edits)) ∧
      (edited edits).ids = (Register.edited edits).ids ∧
      (edited edits).ids.Nodup ∧
      (edited edits).size = (Register.edited edits).length ∧
      ((edited edits).isEmpty = true <-> Register.edited edits = []) ∧
      (forall id, id ∈ (edited edits).ids <-> exists place, Edit.FirstAdded edits id place) ∧
      (edited edits).ids.Pairwise (Edit.Before edits) ∧
      forall f, f ∈ (edited edits).filters <-> Edit.LastAdded edits f := by
  have hnodup : (edited edits).ids.Nodup := nodup_edited edits
  refine ⟨register_edited edits, ?_, ?_, ?_, hnodup, ?_, ?_, ?_, before_of_ids edits,
    mem_filters_edited_iff edits⟩
  · intro edit
    rw [(edit_eq_register hnodup edit).left, register_edited]
  · intro id hid
    exact remove_of_not_mem hnodup hid
  · rw [← register_edited, ids_register]
  · rw [← register_edited, register, List.length_map, size]
  · rw [← register_edited, register, List.map_eq_nil_iff, isEmpty, List.isEmpty_iff]
  · intro id
    rw [mem_ids_edited_iff, Edit.exists_firstAdded_iff]

/-- A filter that is removed and added again goes to the end. -/
example :
    (edited
      [Edit.add (Filter.ofPredicate ['a'] [] fun _ => true : Filter Unit),
        Edit.add (Filter.ofPredicate ['b'] [] fun _ => true),
        Edit.remove ['a'],
        Edit.add (Filter.ofPredicate ['a'] [] fun _ => false)]).ids = [['b'], ['a']] := by
  decide

end Chain
end Moniker
