import Moniker.Proofs.Report.Columns

/-!
# Reports that are read back

What is printed one a line is read back by cutting at the line feeds, and what is printed
in columns by cutting the rows at the spaces as well.  The two ways to print agree where
the width leaves room for one column.
-/

namespace Moniker
namespace Report

/-!
# Lines
-/

theorem splitOn_flatMap_endLine {texts : List Text}
    (h : forall text, text ∈ texts -> '\n' ∉ text) :
    (texts.flatMap endLine).splitOn '\n' = texts ++ [[]] := by
  induction texts with
  | nil =>
      rfl
  | cons text texts ih =>
      rw [List.forall_mem_cons] at h
      rw [List.flatMap_cons, endLine, List.append_assoc, List.singleton_append,
        List.splitOn_append_cons_self_of_not_mem h.left, ih h.right]
      rfl

/-!
# Rows
-/

section Rows

variable {row : List Text}

theorem rowText_cons_cons (id id' : Text) (row : List Text) :
    rowText (id :: id' :: row) = id ++ ' ' :: rowText (id' :: row) := by
  rw [rowText, rowText, List.intercalate_cons_cons, List.append_assoc]
  rfl

theorem not_mem_rowText {c : Char} (hc : c ≠ ' ') (h : forall id, id ∈ row -> c ∉ id) :
    c ∉ rowText row := by
  induction row with
  | nil =>
      exact List.not_mem_nil
  | cons id row ih =>
      rw [List.forall_mem_cons] at h
      cases row with
      | nil =>
          rw [rowText, List.intercalate_singleton]
          exact h.left
      | cons id' row =>
          rw [rowText_cons_cons, List.mem_append, List.mem_cons, not_or, not_or]
          exact ⟨h.left, hc, ih h.right⟩

theorem getLast?_rowText {id : Text} {c : Char} (hlast : row.getLast? = some id)
    (hc : id.getLast? = some c) : (rowText row).getLast? = some c := by
  induction row with
  | nil =>
      cases hlast
  | cons first row ih =>
      cases row with
      | nil =>
          rw [List.getLast?_singleton, Option.some.injEq] at hlast
          rw [rowText, List.intercalate_singleton, hlast, hc]
      | cons id' row =>
          rw [List.getLast?_cons_cons] at hlast
          rw [rowText_cons_cons, List.getLast?_append, List.getLast?_cons, ih hlast]
          rfl

theorem getLast?_rowText_ne {id : Text} (h : forall id, id ∈ row -> ' ' ∉ id)
    (hlast : row.getLast? = some id) (hne : id ≠ []) : (rowText row).getLast? ≠ some ' ' := by
  have hc : id.getLast? = some (id.getLast hne) := List.getLast?_eq_some_getLast hne
  rw [getLast?_rowText hlast hc, Ne, Option.some.injEq]
  intro hspace
  exact h id (List.mem_of_getLast? hlast) (hspace ▸ List.getLast_mem hne)

end Rows

theorem mem_of_mem_rows {α : Type} {further : Nat} {items row : List α} {item : α}
    (hrow : row ∈ rows further items) (hitem : item ∈ row) : item ∈ items := by
  rw [← flatten_rows further items]
  exact List.mem_flatten.mpr ⟨row, hrow, hitem⟩

section Ids

variable {further : Nat} {ids : List Text} (h : forall id, id ∈ ids -> ' ' ∉ id)

include h

theorem splitOn_of_mem_rows {row : List Text} (hrow : row ∈ rows further ids) :
    (rowText row).splitOn ' ' = row :=
  List.splitOn_intercalate ' ' (fun id hid => h id (mem_of_mem_rows hrow hid))
    (List.ne_nil_of_length_pos (length_of_mem_rows hrow).left)

theorem flatMap_splitOn_rows :
    ((rows further ids).map rowText).flatMap (List.splitOn ' ') = ids := by
  have hrows : ((rows further ids).map rowText).map (List.splitOn ' ') = rows further ids := by
    rw [List.map_map]
    exact (List.map_congr_left fun _ => splitOn_of_mem_rows h).trans (List.map_id _)
  rw [List.flatMap_def, hrows, flatten_rows]

end Ids

/-!
# One column
-/

theorem columnCount_eq_one_iff {ids : List Text} {width : Nat} :
    columnCount ids width = 1 <-> width < 2 * firstLength ids + 2 := by
  have hcount : columnCount ids width = max 1 (width / (firstLength ids + 1)) := rfl
  have hdiv : width / (firstLength ids + 1) < 2 <-> width < 2 * (firstLength ids + 1) :=
    Nat.div_lt_iff_lt_mul (Nat.succ_pos (firstLength ids))
  omega

theorem map_rowText_rows_zero (ids : List Text) : (rows 0 ids).map rowText = ids := by
  induction ids with
  | nil =>
      rw [rows_nil]
      rfl
  | cons id ids ih =>
      rw [rows_cons, List.map_cons, List.drop_zero, ih, List.take_zero, rowText,
        List.intercalate_singleton]

theorem columns_of_columnCount {ids : List Text} {width : Nat} (h : columnCount ids width = 1) :
    columns ids width = lines ids := by
  rw [columns, h, map_rowText_rows_zero, lines]

theorem columns_ne_lines {id id' : Text} {ids : List Text} {width : Nat}
    (h : columnCount (id :: id' :: ids) width ≠ 1) :
    columns (id :: id' :: ids) width ≠ lines (id :: id' :: ids) := by
  have hpos := columnCount_pos (id :: id' :: ids) width
  rcases Nat.exists_eq_add_of_le (Nat.lt_of_le_of_ne hpos h.symm) with ⟨k, hk⟩
  have hfurther : columnCount (id :: id' :: ids) width - 1 = k + 1 := by
    omega
  rw [columns, lines, hfurther, rows_cons, List.take_succ_cons, List.map_cons, List.flatMap_cons,
    List.flatMap_cons, rowText_cons_cons, endLine, endLine]
  simp only [List.append_assoc, List.cons_append]
  intro heq
  exact absurd (List.cons.inj (List.append_cancel_left heq)).left (by decide)

theorem columns_singleton (id : Text) (width : Nat) : columns [id] width = lines [id] := by
  rw [columns, rows_cons, List.take_nil, List.drop_nil, rows_nil, List.map_singleton, rowText,
    List.intercalate_singleton, lines]

theorem columns_nil (width : Nat) : columns [] width = [] := by
  rw [columns, rows_nil]
  rfl

theorem columns_eq_lines_iff {ids : List Text} {width : Nat} :
    columns ids width = lines ids <-> columnCount ids width = 1 ∨ ids.length ≤ 1 := by
  match ids with
  | [] =>
      exact iff_of_true (columns_nil width) (Or.inr (Nat.zero_le 1))
  | [id] =>
      exact iff_of_true (columns_singleton id width) (Or.inr (Nat.le_refl 1))
  | id :: id' :: ids =>
      have hlong : ¬ (id :: id' :: ids).length ≤ 1 := by
        simp
      rw [or_iff_left hlong]
      exact ⟨not_imp_not.mp columns_ne_lines, columns_of_columnCount⟩

/-!
# Layouts
-/

/-- Lines are read back by cutting at the line feeds, and columns by cutting every row at the
spaces, where an empty identifier is what stands between two of them.  No space ends a row
unless its last identifier is empty.  The layouts agree exactly if there is one column or at
most one identifier, and there is one column exactly if the width has no room for two. -/
theorem layouts_read_back (ids : List Text) (width : Nat) :
    ((forall id, id ∈ ids -> '\n' ∉ id) -> (lines ids).splitOn '\n' = ids ++ [[]]) ∧
      ((forall id, id ∈ ids -> '\n' ∉ id ∧ ' ' ∉ id) ->
        exists rows : List (List Text),
          (columns ids width).splitOn '\n' = rows.map rowText ++ [[]] ∧
            (rows.map rowText).flatMap (List.splitOn ' ') = ids ∧
            forall row, row ∈ rows ->
              (rowText row).splitOn ' ' = row ∧
                forall id, row.getLast? = some id -> id ≠ [] ->
                  (rowText row).getLast? ≠ some ' ') ∧
      (columns ids width = lines ids <-> columnCount ids width = 1 ∨ ids.length ≤ 1) ∧
      (columnCount ids width = 1 <-> width < 2 * firstLength ids + 2) ∧
      columns [] width = [] ∧ lines [] = [] := by
  refine ⟨splitOn_flatMap_endLine, fun hids => ?_, columns_eq_lines_iff, columnCount_eq_one_iff,
    columns_nil width, rfl⟩
  have hfeed : forall row, row ∈ rows (columnCount ids width - 1) ids -> '\n' ∉ rowText row :=
    fun row hrow => not_mem_rowText (by decide) fun id hid =>
      (hids id (mem_of_mem_rows hrow hid)).left
  have hspace : forall id, id ∈ ids -> ' ' ∉ id := fun id hid => (hids id hid).right
  refine ⟨rows (columnCount ids width - 1) ids, ?_, flatMap_splitOn_rows hspace, ?_⟩
  · exact splitOn_flatMap_endLine (List.forall_mem_map.mpr hfeed)
  · intro row hrow
    refine ⟨splitOn_of_mem_rows hspace hrow, fun id hlast hne => ?_⟩
    exact getLast?_rowText_ne (fun id hid => hspace id (mem_of_mem_rows hrow hid)) hlast hne

/-- An empty identifier between two others, and one at the end. -/
example : columns ["a".toList, [], "b".toList, []] 6 = "a  b\n\n".toList := by
  cbv

end Report
end Moniker
