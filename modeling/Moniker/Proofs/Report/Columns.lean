import Moniker.Proofs.Generator.Succession
import Moniker.Proofs.Language
import Moniker.Random.Stream
import Moniker.Report.Document

/-!
# Columns that fit their width

Columns are sized by the first identifier alone.  All identifiers of a report are equally
long, since they are candidates of one template, and so every row fits the width whenever
a single column does, and no row could take one more identifier.
-/

namespace Moniker

variable {ρ : Type} [Chance ρ]
namespace Report

/-!
# Rows
-/

section

variable {α : Type}

theorem rows_nil (further : Nat) : rows further ([] : List α) = [] := by
  rw [rows]

theorem rows_cons (further : Nat) (item : α) (rest : List α) :
    rows further (item :: rest) =
      (item :: rest.take further) :: rows further (rest.drop further) := by
  rw [rows]

theorem flatten_rows (further : Nat) (items : List α) : (rows further items).flatten = items := by
  induction items using rows.induct further with
  | case1 =>
      rw [rows_nil]
      rfl
  | case2 item rest ih =>
      rw [rows_cons, List.flatten_cons, ih, List.cons_append, List.take_append_drop]

theorem length_of_mem_rows {further : Nat} {items row : List α} (h : row ∈ rows further items) :
    0 < row.length ∧ row.length ≤ further + 1 := by
  induction items using rows.induct further with
  | case1 =>
      rw [rows_nil] at h
      exact absurd h List.not_mem_nil
  | case2 item rest ih =>
      rw [rows_cons] at h
      rcases List.mem_cons.mp h with rfl | hrest
      · rw [List.length_cons, List.length_take]
        exact ⟨Nat.succ_pos _, Nat.succ_le_succ (Nat.min_le_left further rest.length)⟩
      · exact ih hrest

theorem length_of_mem_dropLast_rows {further : Nat} {items row : List α}
    (h : row ∈ (rows further items).dropLast) : row.length = further + 1 := by
  induction items using rows.induct further with
  | case1 =>
      rw [rows_nil] at h
      exact absurd h List.not_mem_nil
  | case2 item rest ih =>
      rw [rows_cons] at h
      by_cases hlast : rest.length ≤ further
      · rw [List.drop_eq_nil_of_le hlast, rows_nil] at h
        exact absurd h List.not_mem_nil
      have hmore : rows further (rest.drop further) ≠ [] := by
        intro hnil
        have hflatten := flatten_rows further (rest.drop further)
        rw [hnil] at hflatten
        exact hlast (List.drop_eq_nil_iff.mp hflatten.symm)
      rw [List.dropLast_cons_of_ne_nil hmore] at h
      rcases List.mem_cons.mp h with rfl | hrest
      · rw [List.length_cons, List.length_take, Nat.min_eq_left (Nat.le_of_not_le hlast)]
      · exact ih hrest

end

/-!
# Widths

A row of equally long identifiers takes one place more than they are long for each of
them, except for the last one, which no space follows.
-/

theorem length_rowText {w : Nat} {row : List Text} (hne : row ≠ [])
    (hrow : forall id, id ∈ row -> id.length = w) :
    (rowText row).length + 1 = row.length * (w + 1) := by
  induction row with
  | nil =>
      exact absurd rfl hne
  | cons id rest ih =>
      rw [List.forall_mem_cons] at hrow
      rw [rowText]
      cases rest with
      | nil =>
          rw [List.intercalate_singleton, hrow.left, List.length_singleton, Nat.one_mul]
      | cons id' rest =>
          have hrest := ih (List.cons_ne_nil id' rest) hrow.right
          have hlength : (id :: id' :: rest).length = (id' :: rest).length + 1 := List.length_cons
          rw [rowText] at hrest
          rw [List.intercalate_cons_cons, List.length_append, List.length_append, hrow.left,
            List.length_singleton, Nat.add_assoc, hrest, hlength, Nat.succ_mul, Nat.add_comm]

def firstLength (ids : List Text) : Nat :=
  (ids.head?.getD []).length

theorem length_eq_firstLength {ids : List Text} {w : Nat}
    (h : forall id, id ∈ ids -> id.length = w) {id : Text} (hid : id ∈ ids) :
    id.length = firstLength ids := by
  cases ids with
  | nil =>
      exact absurd hid List.not_mem_nil
  | cons first rest =>
      exact (h id hid).trans (h first List.mem_cons_self).symm

theorem columnCount_pos (ids : List Text) (width : Nat) : 0 < columnCount ids width :=
  Nat.le_max_left 1 _

theorem columnCount_mul_le {ids : List Text} {width : Nat} (h : firstLength ids < width) :
    columnCount ids width * (firstLength ids + 1) ≤ width := by
  have hdiv : 1 ≤ width / (firstLength ids + 1) :=
    Nat.div_pos h (Nat.succ_pos _)
  have hcount : columnCount ids width = width / (firstLength ids + 1) :=
    Nat.max_eq_right hdiv
  rw [hcount]
  exact Nat.div_mul_le_self width _

theorem columnCount_of_le {ids : List Text} {width : Nat} (h : width ≤ firstLength ids) :
    columnCount ids width = 1 := by
  have hdiv : width / (firstLength ids + 1) = 0 :=
    Nat.div_eq_of_lt (Nat.lt_succ_of_le h)
  exact (congrArg (max 1) hdiv).trans rfl

theorem lt_columnCount_succ_mul (ids : List Text) (width : Nat) :
    width < (columnCount ids width + 1) * (firstLength ids + 1) := by
  have hdiv : width / (firstLength ids + 1) < columnCount ids width + 1 :=
    Nat.lt_succ_of_le (Nat.le_max_right 1 _)
  exact (Nat.div_lt_iff_lt_mul (Nat.succ_pos _)).mp hdiv

/-- The rows hold the identifiers in their order, all rows but the last are full, and a
full row is as wide as the width allows. -/
structure Fills (ids : List Text) (width : Nat) (rows : List (List Text)) : Prop where
  flatten_eq : rows.flatten = ids
  full : forall row, row ∈ rows.dropLast -> row.length = columnCount ids width
  last : forall row, rows.getLast? = some row ->
    1 ≤ row.length ∧ row.length ≤ columnCount ids width
  narrow : firstLength ids < width -> forall row, row ∈ rows -> (rowText row).length ≤ width - 1
  wide : width ≤ firstLength ids -> forall row, row ∈ rows ->
    exists id, row = [id] ∧ (rowText row).length = firstLength ids
  tight : forall row : List Text, row.length = columnCount ids width + 1 ->
    (forall id, id ∈ row -> id.length = firstLength ids) -> width ≤ (rowText row).length

theorem fills_rows {ids : List Text} (h : forall id, id ∈ ids -> id.length = firstLength ids)
    (width : Nat) : Fills ids width (rows (columnCount ids width - 1) ids) := by
  have hcount : columnCount ids width - 1 + 1 = columnCount ids width :=
    Nat.sub_add_cancel (columnCount_pos ids width)
  have hflatten := flatten_rows (columnCount ids width - 1) ids
  have hlength : forall row, row ∈ rows (columnCount ids width - 1) ids ->
      0 < row.length ∧ row.length ≤ columnCount ids width := by
    intro row hrow
    rw [← hcount]
    exact length_of_mem_rows hrow
  have htext : forall row, row ∈ rows (columnCount ids width - 1) ids ->
      (rowText row).length + 1 = row.length * (firstLength ids + 1) := by
    intro row hrow
    apply length_rowText (List.ne_nil_of_length_pos (hlength row hrow).left)
    intro id hid
    apply h
    rw [← hflatten]
    exact List.mem_flatten_of_mem hrow hid
  refine ⟨hflatten, ?_, ?_, ?_, ?_, ?_⟩
  · intro row hrow
    exact (length_of_mem_dropLast_rows hrow).trans hcount
  · intro row hrow
    exact hlength row (List.mem_of_getLast? hrow)
  · intro hwidth row hrow
    apply Nat.le_sub_one_of_lt
    calc (rowText row).length + 1
        = row.length * (firstLength ids + 1) := htext row hrow
      _ ≤ columnCount ids width * (firstLength ids + 1) :=
          Nat.mul_le_mul_right _ (hlength row hrow).right
      _ ≤ width := columnCount_mul_le hwidth
  · intro hwidth row hrow
    have hone : row.length = 1 := by
      have hle := (hlength row hrow).right
      rw [columnCount_of_le hwidth] at hle
      exact Nat.le_antisymm hle (hlength row hrow).left
    rcases List.length_eq_one_iff.mp hone with ⟨id, hid⟩
    have hrowText := htext row hrow
    rw [hone, Nat.one_mul] at hrowText
    exact ⟨id, hid, Nat.succ_injective hrowText⟩
  · intro row hrow hids
    have hne : row ≠ [] := by
      rintro rfl
      cases hrow
    have hlt := lt_columnCount_succ_mul ids width
    rw [← hrow, ← length_rowText hne hids] at hlt
    exact Nat.le_of_lt_succ hlt

/-- A longer second identifier would not fit. -/
example : columns ["a".toList, "bbbb".toList] 4 = "a bbbb\n".toList := by
  cbv

end Report

/-!
# Identifiers of a report
-/

namespace Generator

variable {σ : Type} {t : Template ρ} {g : Generator ρ σ} {state : σ} {k : Nat} {report : Report}

theorem neverFails_template (hnever : t.NeverFails)
    (htemplate : g.template = after Template.next k t) : g.template.NeverFails := by
  rw [htemplate]
  exact hnever.after k

theorem length_of_mem_ids (hfresh : t.Fresh) (hnever : t.NeverFails)
    (htemplate : g.template = after Template.next k t)
    (hreport : (g.generate state).1 = .ok report) {id : Text} (hid : id ∈ report.ids) :
    id.length = t.width := by
  have hspends := g.generate_spends state (neverFails_template hnever htemplate)
  rw [hreport] at hspends
  rcases List.mem_map.mp (hspends.ids_sublist.mem hid) with ⟨place, _, rfl⟩
  rw [htemplate, Template.candidate_after]
  exact (Template.spells_candidate hfresh (Template.fits_of_neverFails hnever) _).length_eq

theorem template_after_turns (hnever : t.NeverFails)
    (htemplate : g.template = after Template.next k t) (runs : Nat) :
    (after turn runs (g, state)).1.template =
      after Template.next (k + g.built state runs) t := by
  have hspends := g.turns_spend state (neverFails_template hnever htemplate) runs
  rw [hspends.template_eq, htemplate, after_add]

/-- The report of any run on a compiled template that never fails is printed in rows that
fill the width, whatever the filters of the generator do. -/
theorem columns_of_compile {master : ρ} {source : Text} {bindings : Bindings}
    (h : Template.compile master source bindings = .ok t) (hnever : t.NeverFails)
    (htemplate : g.template = after Template.next k t) {runs : Nat}
    (hreport : (turn (after turn runs (g, state))).1 = .ok report) (width : Nat) :
    (forall id, id ∈ report.ids -> id.length = Report.firstLength report.ids) ∧
      exists rows, Report.Fills report.ids width rows ∧
        report.text (.columns width) =
          rows.flatMap fun row => Report.endLine (Report.rowText row) := by
  have hids : forall id, id ∈ report.ids -> id.length = t.width := fun id =>
    length_of_mem_ids (Template.fresh_of_compile h) hnever
      (template_after_turns hnever htemplate runs) hreport
  have hfirst : forall id, id ∈ report.ids -> id.length = Report.firstLength report.ids :=
    fun id => Report.length_eq_firstLength hids
  refine ⟨hfirst, _, Report.fills_rows hfirst width, ?_⟩
  rw [Report.text, Report.columns, List.flatMap_map]

/-- Two identifiers of three characters make a row of eight places. -/
theorem columns_of_compile_pairs :
    Template.compile (Stream.ofSeed 3) "[=x]:b2++".toList { entries := [('b', "ab".toList)] } =
        .ok (pairs 3).template ∧
      (pairs 3).template.NeverFails ∧
      exists report, ((pairs 3).generate ()).1 = .ok report ∧
        report.ids = ["xaa".toList, "xba".toList] ∧
        (exists rows, Report.Fills report.ids 8 rows ∧
          report.text (.columns 8) =
            rows.flatMap fun row => Report.endLine (Report.rowText row)) ∧
        exists rows, Report.Fills report.ids 3 rows ∧
          report.text (.columns 3) =
            rows.flatMap fun row => Report.endLine (Report.rowText row) := by
  have hcompile : Template.compile (Stream.ofSeed 3) "[=x]:b2++".toList
      { entries := [('b', "ab".toList)] } = .ok (pairs 3).template := by
    generalize Stream.ofSeed 3 = master
    exact Template.compile_eq_plan master "[=x]:b2++".toList { entries := [('b', "ab".toList)] }
  have hnever : (pairs 3).template.NeverFails := Template.neverFails_of_fits (by decide)
  have hreport : (turn (after turn 0 (pairs 3, ()))).1 =
      .ok (Report.ofIds 2 3 ["xaa".toList, "xba".toList]) := rfl
  have hcolumns := columns_of_compile (k := 0) hcompile hnever rfl hreport
  exact ⟨hcompile, hnever, _, hreport, rfl, (hcolumns 8).right, (hcolumns 3).right⟩

end Generator
end Moniker
