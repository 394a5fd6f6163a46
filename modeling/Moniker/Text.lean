/-!
# Texts

A text is the list of its characters, so lengths and positions count characters
and never bytes.  This module cuts texts at separators and looks for one text
inside another.
-/

namespace Moniker

abbrev Text := List Char

namespace Text

/-!
# Cutting

A text is cut before and after every separator.  Empty pieces are kept, so a
text with `n` separators has `n + 1` pieces.
-/

def cutWhere (separates : Char -> Bool) : Text -> List Text
  | [] => [[]]
  | c :: rest =>
      if separates c then
        [] :: cutWhere separates rest
      else
        match cutWhere separates rest with
        | [] => [[c]]
        | piece :: pieces => (c :: piece) :: pieces

def cut (separator : Char) (s : Text) : List Text :=
  cutWhere (· == separator) s

theorem cutWhere_ne_nil (separates : Char -> Bool) (s : Text) :
    cutWhere separates s ≠ [] := by
  cases s with
  | nil =>
      simp [cutWhere]
  | cons c rest =>
      unfold cutWhere
      split
      · simp
      · split <;> simp

theorem cutWhere_cons (separates : Char -> Bool) (c : Char) (s : Text) :
    exists piece pieces, cutWhere separates s = piece :: pieces ∧
      cutWhere separates (c :: s) =
        if separates c then [] :: piece :: pieces else (c :: piece) :: pieces := by
  cases h : cutWhere separates s with
  | nil =>
      exact absurd h (cutWhere_ne_nil separates s)
  | cons piece pieces =>
      exact ⟨piece, pieces, rfl, by simp [cutWhere, h]⟩

/-!
# Looking inside

`stripFront` removes a leading text; `occursIn` asks whether a word stands
anywhere in a text.  The empty word stands in every text.
-/

def stripFront : Text -> Text -> Option Text
  | [], s => some s
  | _ :: _, [] => none
  | a :: front, c :: s => if a = c then stripFront front s else none

def occursIn (word : Text) : Text -> Bool
  | [] => word.isEmpty
  | c :: s => word.isPrefixOf (c :: s) || occursIn word s

end Text
end Moniker
