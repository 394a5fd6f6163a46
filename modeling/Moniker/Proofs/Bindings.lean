import Moniker.Bindings.Document
import Moniker.Proofs.Json
import Moniker.Proofs.Steps
import Mathlib.Data.Char
import Mathlib.Data.List.Nodup
import Mathlib.Data.List.TakeWhile
import Mathlib.Logic.Function.Basic

/-!
# Bindings as a finite map

Bindings are made from the empty ones by setting variables, by assignments and by
loading documents.  Whatever the steps, the entries stay in the order of their letters,
so the bindings are the finite map that the steps which succeed make, and their
document stands for them alone.
-/

namespace Moniker
namespace Bindings

/-!
# Entries
-/

/-- The keys are letters and stand in their order, each at most once. -/
structure Arranged (b : Bindings) : Prop where
  letters : forall entry, entry ∈ b.entries -> 'a' ≤ entry.1 ∧ entry.1 ≤ 'z'
  ascending : b.entries.Pairwise fun entry entry' => entry.1 < entry'.1

theorem arranged_empty : empty.Arranged where
  letters _ h := absurd h List.not_mem_nil
  ascending := List.Pairwise.nil

theorem isVariable_iff {key : Char} : isVariable key = true <-> 'a' ≤ key ∧ key ≤ 'z' := by
  rw [isVariable, Bool.and_eq_true, decide_eq_true_iff, decide_eq_true_iff]

theorem mem_insertEntry {key : Char} {data : Text} {entry : Char × Text}
    {entries : List (Char × Text)} (h : entry ∈ insertEntry key data entries) :
    entry = (key, data) ∨ entry ∈ entries := by
  induction entries with
  | nil =>
      exact Or.inl (List.mem_singleton.mp h)
  | cons first rest ih =>
      rw [insertEntry] at h
      split at h
      · exact List.mem_cons.mp h
      split at h
      · exact (List.mem_cons.mp h).imp_right (List.mem_cons_of_mem first)
      · rcases List.mem_cons.mp h with rfl | hrest
        · exact Or.inr List.mem_cons_self
        · exact (ih hrest).imp_right (List.mem_cons_of_mem first)

theorem ascending_insertEntry {entries : List (Char × Text)}
    (h : entries.Pairwise fun entry entry' => entry.1 < entry'.1) (key : Char) (data : Text) :
    (insertEntry key data entries).Pairwise fun entry entry' => entry.1 < entry'.1 := by
  induction entries with
  | nil =>
      exact List.pairwise_singleton _ _
  | cons first rest ih =>
      rw [insertEntry]
      split
      · rename_i hlt
        refine List.pairwise_cons.mpr ⟨?_, h⟩
        exact List.forall_mem_cons.mpr ⟨hlt, fun entry hentry =>
          lt_trans hlt ((List.pairwise_cons.mp h).left entry hentry)⟩
      rw [List.pairwise_cons] at h
      split
      · rename_i heq
        exact List.pairwise_cons.mpr ⟨heq ▸ h.left, h.right⟩
      · rename_i hlt hne
        refine List.pairwise_cons.mpr ⟨?_, ih h.right⟩
        intro entry hentry
        rcases mem_insertEntry hentry with rfl | hrest
        · exact lt_of_le_of_ne (not_lt.mp hlt) (Ne.symm hne)
        · exact h.left entry hrest

theorem lookup_cons_eq_ite (key : Char) (entry : Char × Text) (rest : List (Char × Text)) :
    (entry :: rest).lookup key = if key = entry.1 then some entry.2 else rest.lookup key := by
  rcases entry with ⟨key', data⟩
  rw [List.lookup_cons]
  by_cases h : key = key'
  · rw [if_pos h, beq_iff_eq.mpr h]
  · rw [if_neg h, beq_eq_false_iff_ne.mpr h]

theorem lookup_insertEntry (key : Char) (data : Text) (entries : List (Char × Text)) :
    (fun key' => (insertEntry key data entries).lookup key') =
      Function.update (fun key' => entries.lookup key') key (some data) := by
  funext key'
  rw [Function.update_apply]
  induction entries with
  | nil =>
      exact lookup_cons_eq_ite key' (key, data) []
  | cons first rest ih =>
      rw [insertEntry]
      split
      · exact lookup_cons_eq_ite key' (key, data) (first :: rest)
      split
      · rename_i heq
        rw [lookup_cons_eq_ite, lookup_cons_eq_ite, ← heq]
        exact ite_congr rfl (fun _ => rfl) fun hne => (if_neg hne).symm
      · rename_i hne
        rw [lookup_cons_eq_ite, ih, lookup_cons_eq_ite]
        by_cases h : key' = key
        · rw [if_pos h, if_pos h, if_neg (h ▸ hne)]
        · rw [if_neg h, if_neg h]

theorem lookup_eq_some_iff_mem {entries : List (Char × Text)}
    (h : (entries.map Prod.fst).Nodup) {key : Char} {data : Text} :
    entries.lookup key = some data <-> (key, data) ∈ entries := by
  induction entries with
  | nil =>
      exact iff_of_false (fun h => by cases h) List.not_mem_nil
  | cons first rest ih =>
      rw [List.map_cons, List.nodup_cons] at h
      rw [lookup_cons_eq_ite, List.mem_cons]
      by_cases hkey : key = first.1
      · subst hkey
        have hrest : (first.1, data) ∉ rest := fun hmem =>
          h.left (List.mem_map.mpr ⟨_, hmem, rfl⟩)
        rw [if_pos rfl, Option.some.injEq, or_iff_left hrest, Prod.ext_iff, and_iff_right rfl,
          eq_comm]
      · have hfirst : (key, data) ≠ first := fun heq => hkey (congrArg Prod.fst heq)
        rw [if_neg hkey, ih h.right, or_iff_right hfirst]

theorem set_eq_ok_iff {b b' : Bindings} {key : Char} {data : Text} :
    b.set key data = (.ok (), b') <->
      isVariable key = true ∧ b' = { entries := insertEntry key data b.entries } := by
  rw [Bindings.set]
  split
  · rename_i hkey
    rw [Prod.mk.injEq, and_iff_right rfl, and_iff_right hkey, eq_comm]
  · rename_i hkey
    exact iff_of_false (fun h => by cases h) fun h => hkey h.left

theorem exists_set {key : Char} (hkey : isVariable key = true) (b : Bindings) (data : Text) :
    exists b', b.set key data = (.ok (), b') :=
  ⟨_, set_eq_ok_iff.mpr ⟨hkey, rfl⟩⟩

theorem set_of_not_isVariable {key : Char} (hkey : ¬ isVariable key = true) (b : Bindings)
    (data : Text) : b.set key data = (.error (.badKey [key]), b) :=
  if_neg hkey

theorem having_eq_ok_iff {b b' : Bindings} {key : Char} {data : Text} :
    b.having key data = .ok b' <-> b.set key data = (.ok (), b') :=
  Steps.made_eq_ok_iff

theorem setAll_cons_eq_ok_iff {b b' : Bindings} {entry : Char × Text}
    {entries : List (Char × Text)} :
    b.setAll (entry :: entries) = .ok b' <->
      exists b₁, b.set entry.1 entry.2 = (.ok (), b₁) ∧ b₁.setAll entries = .ok b' := by
  simp only [setAll, Steps.bind_eq_ok_iff, having_eq_ok_iff]

theorem exists_setAll_iff {b : Bindings} {entries : List (Char × Text)} :
    (exists b', b.setAll entries = .ok b') <->
      forall entry, entry ∈ entries -> isVariable entry.1 = true := by
  induction entries generalizing b with
  | nil =>
      exact iff_of_true ⟨b, rfl⟩ fun _ h => absurd h List.not_mem_nil
  | cons entry entries ih =>
      simp only [setAll_cons_eq_ok_iff, set_eq_ok_iff, List.forall_mem_cons]
      constructor
      · rintro ⟨b', b₁, ⟨hkey, rfl⟩, hrest⟩
        exact ⟨hkey, ih.mp ⟨b', hrest⟩⟩
      · rintro ⟨hkey, hkeys⟩
        rcases ih.mpr hkeys with ⟨b', hrest⟩
        exact ⟨b', _, ⟨hkey, rfl⟩, hrest⟩

/-- A finite map with the given entries written over it, one after the other. -/
def overwritten (m : Char -> Option Text) (entries : List (Char × Text)) :
    Char -> Option Text :=
  entries.foldl (fun m entry => Function.update m entry.1 (some entry.2)) m

theorem overwritten_eq_lookup {entries : List (Char × Text)}
    (h : (entries.map Prod.fst).Nodup) (m : Char -> Option Text) :
    overwritten m entries = fun key => (entries.lookup key).or (m key) := by
  induction entries generalizing m with
  | nil =>
      rfl
  | cons first rest ih =>
      rw [List.map_cons, List.nodup_cons] at h
      rw [overwritten, List.foldl_cons, ← overwritten, ih h.right]
      funext key
      rw [Function.update_apply, lookup_cons_eq_ite]
      by_cases hkey : key = first.1
      · have hrest : rest.lookup key = none := by
          rw [List.lookup_eq_none_iff]
          intro entry hentry
          exact bne_iff_ne.mpr fun heq =>
            h.left (List.mem_map.mpr ⟨entry, hentry, heq.symm.trans hkey⟩)
        rw [if_pos hkey, if_pos hkey, hrest, Option.none_or, Option.some_or]
      · rw [if_neg hkey, if_neg hkey]

namespace Arranged

variable {b b' : Bindings}

theorem nodup_keys (h : b.Arranged) : (b.entries.map Prod.fst).Nodup :=
  List.pairwise_map.mpr (h.ascending.imp fun hlt => ne_of_lt hlt)

theorem get?_eq_some_iff (h : b.Arranged) {key : Char} {data : Text} :
    b.get? key = some data <-> (key, data) ∈ b.entries :=
  lookup_eq_some_iff_mem h.nodup_keys

theorem ext (h : b.Arranged) (h' : b'.Arranged) (hget : b.get? = b'.get?) : b = b' := by
  rcases b with ⟨entries⟩
  rcases b' with ⟨entries'⟩
  have hmem : forall entry, entry ∈ entries <-> entry ∈ entries' := by
    rintro ⟨key, data⟩
    exact h.get?_eq_some_iff.symm.trans ((iff_of_eq (by rw [hget])).trans h'.get?_eq_some_iff)
  have hperm : entries.Perm entries' :=
    (List.perm_ext_iff_of_nodup h.nodup_keys.of_map h'.nodup_keys.of_map).mpr hmem
  exact congrArg Bindings.mk (hperm.eq_of_pairwise
    (fun _ _ _ _ hlt hlt' => absurd hlt' (lt_asymm hlt)) h.ascending h'.ascending)

theorem set (h : b.Arranged) {key : Char} {data : Text} (hset : b.set key data = (.ok (), b')) :
    b'.Arranged ∧ b'.get? = Function.update b.get? key (some data) := by
  rcases set_eq_ok_iff.mp hset with ⟨hkey, rfl⟩
  refine ⟨⟨?_, ascending_insertEntry h.ascending key data⟩, lookup_insertEntry key data b.entries⟩
  intro entry hentry
  rcases mem_insertEntry hentry with rfl | hrest
  · exact isVariable_iff.mp hkey
  · exact h.letters entry hrest

theorem setAll (h : b.Arranged) {entries : List (Char × Text)}
    (hset : b.setAll entries = .ok b') :
    b'.Arranged ∧ b'.get? = overwritten b.get? entries := by
  induction entries generalizing b with
  | nil =>
      cases hset
      exact ⟨h, rfl⟩
  | cons entry entries ih =>
      rcases setAll_cons_eq_ok_iff.mp hset with ⟨b₁, hfirst, hrest⟩
      rcases h.set hfirst with ⟨h₁, hget⟩
      rw [overwritten, List.foldl_cons, ← hget]
      exact ih h₁ hrest

end Arranged

/-!
# Assignments

An assignment that is taken is a variable, `=`, and the data.
-/

theorem splitAssignment_eq_some_iff {s key data : Text} :
    splitAssignment s = some (key, data) <-> s = key ++ '=' :: data ∧ '=' ∉ key := by
  rw [splitAssignment, List.span_eq_takeWhile_dropWhile]
  constructor
  · intro h
    split at h
    · rename_i key' mark data' hspan
      cases h
      rcases Prod.mk.inj hspan with ⟨htake, hdrop⟩
      have hmark : mark = '=' := by
        have hhead := List.head?_dropWhile_not (fun c => decide (c ≠ '=')) s
        rw [hdrop] at hhead
        exact not_not.mp (of_decide_eq_false hhead)
      subst hmark
      refine ⟨?_, fun hmem => ?_⟩
      · rw [← htake, ← hdrop, List.takeWhile_append_dropWhile]
      · rw [← htake] at hmem
        exact absurd (List.mem_takeWhile_imp hmem) (by decide)
    · cases h
  · rintro ⟨rfl, hkey⟩
    have hbefore : forall c, c ∈ key -> decide (c ≠ '=') = true := by
      intro c hc
      exact decide_eq_true fun heq => hkey (heq ▸ hc)
    rw [List.takeWhile_append_of_pos hbefore, List.dropWhile_append_of_pos hbefore,
      List.takeWhile_cons_of_neg (by decide), List.dropWhile_cons_of_neg (by decide),
      List.append_nil]

theorem assign_eq_ok_iff {b b' : Bindings} {assignment : Text} :
    b.assign assignment = (.ok (), b') <->
      exists key data, assignment = key :: '=' :: data ∧ b.set key data = (.ok (), b') := by
  rw [assign]
  constructor
  · intro h
    split at h
    · cases h
    · rename_i key data hsplit
      exact ⟨key, data, (splitAssignment_eq_some_iff.mp hsplit).left, h⟩
    · cases h
  · rintro ⟨key, data, rfl, hset⟩
    have hkey : '=' ∉ [key] := by
      intro hmem
      rw [← List.mem_singleton.mp hmem] at hset
      cases hset
    have hsplit : splitAssignment (key :: '=' :: data) = some ([key], data) :=
      splitAssignment_eq_some_iff.mpr ⟨rfl, hkey⟩
    rw [hsplit]
    exact hset

/-!
# Documents

A document that is loaded is an object of strings whose keys are variables.
-/

def member (entry : Char × Text) : Option Text × Json.Value :=
  (some [entry.1], .string (some entry.2))

theorem entryOfMember?_eq_some_iff {m : Option Text × Json.Value} {entry : Char × Text} :
    entryOfMember? m = some entry <-> m = member entry := by
  constructor
  · intro h
    unfold entryOfMember? at h
    split at h <;> cases h
    rfl
  · rintro rfl
    rfl

theorem mapM_entryOfMember?_eq_some_iff {members : List (Option Text × Json.Value)}
    {entries : List (Char × Text)} :
    members.mapM entryOfMember? = some entries <-> members = entries.map member := by
  induction members generalizing entries with
  | nil =>
      rw [List.mapM_nil, eq_comm (a := []), List.map_eq_nil_iff]
      exact Option.some_inj.trans eq_comm
  | cons m members ih =>
      simp only [List.mapM_cons, Option.bind_eq_bind, Option.bind_eq_some_iff, Option.pure_def,
        Option.some_inj, entryOfMember?_eq_some_iff, ih, eq_comm (a := m :: members),
        List.map_eq_cons_iff]
      constructor
      · rintro ⟨entry, rfl, rest, rfl, rfl⟩
        exact ⟨entry, rest, rfl, rfl, rfl⟩
      · rintro ⟨entry, rest, rfl, rfl, rfl⟩
        exact ⟨entry, rfl, rest, rfl, rfl⟩

theorem ofDocument?_eq_some_iff {s : Text} {b : Bindings} :
    ofDocument? s = some b <->
      exists entries, Json.read? s = some (.object (entries.map member)) ∧
        empty.setAll entries = .ok b := by
  simp only [ofDocument?, Option.bind_eq_bind, Option.bind_eq_some_iff]
  constructor
  · rintro ⟨v, hread, hv⟩
    unfold ofValue? at hv
    split at hv
    · simp only [Option.bind_eq_bind, Option.bind_eq_some_iff, mapM_entryOfMember?_eq_some_iff,
        Steps.toOption_eq_some_iff] at hv
      rcases hv with ⟨entries, rfl, hset⟩
      exact ⟨entries, hread, hset⟩
    · cases hv
  · rintro ⟨entries, hread, hset⟩
    refine ⟨_, hread, ?_⟩
    rw [ofValue?, mapM_entryOfMember?_eq_some_iff.mpr rfl, Option.bind_eq_bind, Option.bind_some,
      hset]
    rfl

theorem Arranged.ofDocument?_document {b : Bindings} (h : b.Arranged) :
    ofDocument? b.document = some b := by
  have hread : Json.read? b.document = some (.object (b.entries.map member)) :=
    Json.read?_compactObject _ _ fun entry _ => .string entry.2
  have hkeys : forall entry, entry ∈ b.entries -> isVariable entry.1 = true :=
    fun entry hentry => isVariable_iff.mpr (h.letters entry hentry)
  rcases exists_setAll_iff.mpr hkeys with ⟨b', hset⟩
  rcases arranged_empty.setAll hset with ⟨h', hget⟩
  have heq : b' = b := by
    apply h'.ext h
    rw [hget, overwritten_eq_lookup h.nodup_keys]
    funext key
    exact Option.or_none
  exact ofDocument?_eq_some_iff.mpr ⟨b.entries, hread, heq ▸ hset⟩

/-!
# Steps

A step sets a variable in place or on the way to other bindings, assigns to one, or loads a
document.  Bindings that are made anew take the place of the old ones.
-/

inductive Step where
  | set (key : Char) (data : Text)
  | having (key : Char) (data : Text)
  | assign (assignment : Text)
  | load (document : Text)

def perform (b : Bindings) : Step -> Bool × Bindings
  | .set key data => Steps.ofChange (b.set key data)
  | .having key data => Steps.replacing b (b.having key data).toOption
  | .assign assignment => Steps.ofChange (b.assign assignment)
  | .load document => Steps.replacing b (ofDocument? document)

def reached (steps : List Step) : Bindings :=
  Steps.reached perform empty steps

theorem eq_of_set_fails {b b' : Bindings} {key : Char} {data : Text}
    (h : Steps.ofChange (b.set key data) = (false, b')) : b' = b := by
  by_cases hkey : isVariable key = true
  · rw [set_eq_ok_iff.mpr ⟨hkey, rfl⟩] at h
    cases h
  · rw [set_of_not_isVariable hkey] at h
    cases h
    rfl

theorem eq_of_perform_fails {b b' : Bindings} {step : Step} (h : b.perform step = (false, b')) :
    b' = b := by
  cases step with
  | set key data =>
      exact eq_of_set_fails h
  | having key data =>
      exact Steps.eq_of_replacing_eq_false h
  | assign assignment =>
      rw [perform, assign] at h
      split at h
      · cases h
        rfl
      · exact eq_of_set_fails h
      · cases h
        rfl
  | load document =>
      exact Steps.eq_of_replacing_eq_false h

/-- What a step makes of a finite map.  A step that fails makes nothing. -/
inductive Step.Makes (m : Char -> Option Text) : Step -> (Char -> Option Text) -> Prop where
  | set {key : Char} {data : Text} (hkey : 'a' ≤ key ∧ key ≤ 'z') :
      Makes m (.set key data) (Function.update m key (some data))
  | having {key : Char} {data : Text} (hkey : 'a' ≤ key ∧ key ≤ 'z') :
      Makes m (.having key data) (Function.update m key (some data))
  | assign {key : Char} {data : Text} (hkey : 'a' ≤ key ∧ key ≤ 'z') :
      Makes m (.assign (key :: '=' :: data)) (Function.update m key (some data))
  | load {document : Text} {entries : List (Char × Text)}
      (hread : Json.read? document = some (.object (entries.map member)))
      (hkeys : forall entry, entry ∈ entries -> 'a' ≤ entry.1 ∧ entry.1 ≤ 'z') :
      Makes m (.load document) (overwritten (fun _ => none) entries)

/-- A run goes on with what a step makes, and passes over a step that makes nothing. -/
inductive Traces : (Char -> Option Text) -> List Step -> (Char -> Option Text) -> Prop where
  | nil (m : Char -> Option Text) : Traces m [] m
  | made {m m₁ m' : Char -> Option Text} {step : Step} {steps : List Step}
      (hstep : step.Makes m m₁) (hrest : Traces m₁ steps m') : Traces m (step :: steps) m'
  | refused {m m' : Char -> Option Text} {step : Step} {steps : List Step}
      (hstep : forall m₁, ¬ step.Makes m m₁) (hrest : Traces m steps m') :
      Traces m (step :: steps) m'

namespace Arranged

variable {b b' : Bindings}

theorem perform (h : b.Arranged) {step : Step} (hmade : b.perform step = (true, b')) :
    b'.Arranged ∧ step.Makes b.get? b'.get? := by
  cases step with
  | set key data =>
      have hset := Steps.ofChange_eq_true_iff.mp hmade
      rcases h.set hset with ⟨h', hget⟩
      rw [hget]
      exact ⟨h', .set (isVariable_iff.mp (set_eq_ok_iff.mp hset).left)⟩
  | having key data =>
      have hset := having_eq_ok_iff.mp
        (Steps.toOption_eq_some_iff.mp (Steps.replacing_eq_true_iff.mp hmade))
      rcases h.set hset with ⟨h', hget⟩
      rw [hget]
      exact ⟨h', .having (isVariable_iff.mp (set_eq_ok_iff.mp hset).left)⟩
  | assign assignment =>
      rcases assign_eq_ok_iff.mp (Steps.ofChange_eq_true_iff.mp hmade) with
        ⟨key, data, rfl, hset⟩
      rcases h.set hset with ⟨h', hget⟩
      rw [hget]
      exact ⟨h', .assign (isVariable_iff.mp (set_eq_ok_iff.mp hset).left)⟩
  | load document =>
      rcases ofDocument?_eq_some_iff.mp (Steps.replacing_eq_true_iff.mp hmade) with
        ⟨entries, hread, hset⟩
      rcases arranged_empty.setAll hset with ⟨h', hget⟩
      rw [hget]
      exact ⟨h', .load hread fun entry hentry =>
        isVariable_iff.mp (exists_setAll_iff.mp ⟨b', hset⟩ entry hentry)⟩

theorem perform_arranged (h : b.Arranged) (step : Step) : (b.perform step).2.Arranged := by
  cases hdone : b.perform step with
  | mk succeeded b' =>
      cases succeeded with
      | false =>
          exact eq_of_perform_fails hdone ▸ h
      | true =>
          exact (h.perform hdone).left

theorem makes_iff (h : b.Arranged) {m : Char -> Option Text} {step : Step} :
    step.Makes b.get? m <-> exists b', b.perform step = (true, b') ∧ b'.get? = m := by
  constructor
  · intro hmakes
    cases hmakes with
    | set hkey =>
        rename_i key data
        rcases exists_set (isVariable_iff.mpr hkey) b data with ⟨b', hset⟩
        exact ⟨b', Steps.ofChange_eq_true_iff.mpr hset, (h.set hset).right⟩
    | having hkey =>
        rename_i key data
        rcases exists_set (isVariable_iff.mpr hkey) b data with ⟨b', hset⟩
        have hmade := Steps.toOption_eq_some_iff.mpr (having_eq_ok_iff.mpr hset)
        exact ⟨b', Steps.replacing_eq_true_iff.mpr hmade, (h.set hset).right⟩
    | assign hkey =>
        rename_i key data
        rcases exists_set (isVariable_iff.mpr hkey) b data with ⟨b', hset⟩
        have hassign := assign_eq_ok_iff.mpr ⟨key, data, rfl, hset⟩
        exact ⟨b', Steps.ofChange_eq_true_iff.mpr hassign, (h.set hset).right⟩
    | load hread hkeys =>
        rcases exists_setAll_iff.mpr fun entry hentry => isVariable_iff.mpr (hkeys entry hentry)
          with ⟨b', hset⟩
        have hmade := ofDocument?_eq_some_iff.mpr ⟨_, hread, hset⟩
        exact ⟨b', Steps.replacing_eq_true_iff.mpr hmade, (arranged_empty.setAll hset).right⟩
  · rintro ⟨b', hmade, rfl⟩
    exact (h.perform hmade).right

/-- From arranged bindings the steps that succeed make the finite map of the bindings
which the run ends with, and no other. -/
theorem traces_iff (h : b.Arranged) {steps : List Step} {m : Char -> Option Text} :
    Traces b.get? steps m <-> m = (Steps.reached Bindings.perform b steps).get? := by
  induction steps generalizing b with
  | nil =>
      constructor
      · intro htraces
        cases htraces
        rfl
      · rintro rfl
        exact Traces.nil b.get?
  | cons step steps ih =>
      rw [Steps.reached_cons, ← ih (h.perform_arranged step)]
      rcases hdone : b.perform step with ⟨succeeded, b'⟩
      cases succeeded with
      | false =>
          have hrefused : forall m₁, ¬ step.Makes b.get? m₁ := by
            intro m₁ hmakes
            rcases h.makes_iff.mp hmakes with ⟨b₁, hmade, _⟩
            rw [hdone] at hmade
            cases hmade
          rw [eq_of_perform_fails hdone]
          constructor
          · intro htraces
            cases htraces with
            | made hstep _ =>
                exact absurd hstep (hrefused _)
            | refused _ hrest =>
                exact hrest
          · exact Traces.refused hrefused
      | true =>
          constructor
          · intro htraces
            cases htraces with
            | made hstep hrest =>
                rcases h.makes_iff.mp hstep with ⟨b₁, hmade, rfl⟩
                rw [hdone] at hmade
                cases hmade
                exact hrest
            | refused hstep _ =>
                exact absurd (h.perform hdone).right (hstep b'.get?)
          · exact Traces.made (h.perform hdone).right

end Arranged

/-- Whatever the steps, the keys are letters, the bindings are the finite map made by the
steps that succeed, a step that fails leaves them as they were, and their document is loaded
to the same bindings. -/
theorem reached_is_map (steps : List Step) :
    (reached steps).Arranged ∧
      (forall m, Traces (fun _ => none) steps m <-> m = (reached steps).get?) ∧
      (forall step b, (reached steps).perform step = (true, b) ->
        step.Makes (reached steps).get? b.get? ∧ reached (steps ++ [step]) = b) ∧
      (forall step b, (reached steps).perform step = (false, b) ->
        (forall m, ¬ step.Makes (reached steps).get? m) ∧ b = reached steps ∧
          reached (steps ++ [step]) = reached steps) ∧
      ofDocument? (reached steps).document = some (reached steps) ∧
      (forall steps', (reached steps').get? = (reached steps).get? ->
        reached steps' = reached steps) ∧
      forall steps', (reached steps').document = (reached steps).document ->
        reached steps' = reached steps := by
  have harranged : forall steps, (reached steps).Arranged :=
    Steps.holds_reached (fun step h => h.perform_arranged step) arranged_empty
  have hlast : forall step, reached (steps ++ [step]) = ((reached steps).perform step).2 :=
    Steps.reached_concat empty steps
  refine ⟨harranged steps, fun m => arranged_empty.traces_iff, ?_, ?_,
    (harranged steps).ofDocument?_document, fun steps' => (harranged steps').ext (harranged steps),
    ?_⟩
  · intro step b hmade
    rw [hlast, hmade]
    exact ⟨((harranged steps).perform hmade).right, rfl⟩
  · intro step b hfails
    have hb := eq_of_perform_fails hfails
    rw [hlast, hfails]
    refine ⟨?_, hb, hb⟩
    intro m hmakes
    rcases (harranged steps).makes_iff.mp hmakes with ⟨b', hmade, _⟩
    rw [hfails] at hmade
    cases hmade
  · intro steps' hdocument
    have hload := (harranged steps').ofDocument?_document
    rw [hdocument, (harranged steps).ofDocument?_document] at hload
    exact (Option.some.inj hload).symm

example : reached [.assign "s=Smith".toList, .set 'S' "Ada".toList, .assign "s=x=".toList,
    .having 's' [], .assign "fs=x".toList, .load "[]".toList] = { entries := [('s', [])] } := by
  decide

end Bindings
end Moniker
