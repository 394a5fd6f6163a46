import Moniker.Report

/-!
# Layouts

Identifiers are laid out one a line, or in rows of columns.  The first
identifier says how wide a column is: a row has as many columns as fit the width
if every identifier takes one place more than the first one is long, and at
least one column.  Every line and every row ends with a line feed.
-/

namespace Moniker
namespace Report

def endLine (line : Text) : Text :=
  line ++ ['\n']

def lines (ids : List Text) : Text :=
  ids.flatMap endLine

def columnCount (ids : List Text) (width : Nat) : Nat :=
  max 1 (width / ((ids.head?.getD []).length + 1))

/-- Rows of one item and the given number of further items; the last may be shorter. -/
def rows {α : Type} (further : Nat) : List α -> List (List α)
  | [] => []
  | item :: rest => (item :: rest.take further) :: rows further (rest.drop further)
termination_by items => items.length
decreasing_by
  simp only [List.length_drop, List.length_cons]
  omega

def rowText (row : List Text) : Text :=
  List.intercalate [' '] row

def columns (ids : List Text) (width : Nat) : Text :=
  ((rows (columnCount ids width - 1) ids).map rowText).flatMap endLine

/-- The ways to print the identifiers of a report. -/
inductive Layout where
  | lines
  | columns (width : Nat)
  | document
  deriving DecidableEq

end Report
end Moniker
