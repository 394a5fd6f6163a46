import Moniker.Host.Tools
import Moniker.LineReader
import Moniker.Proofs.Course
import Moniker.Proofs.Text.Lines
import Mathlib.Data.List.Forall2

/-!
# What a line reader gives

The steps of a line reader give the lines of its file one after the other and nothing
behind the last.  A line that is no text costs only its own step.  All lines are read
together exactly if the whole file is a text.
-/

namespace Moniker
namespace LineReader

/-!
# Steps
-/

def ofLines (path : Text) (lines : List (List UInt8)) : LineReader :=
  { path := path, rest? := some lines }

/-- What a step answers for the line it reads, or for the end of the file. -/
inductive Answers (path : Text) : Option (List UInt8) -> Except Failure (Option Text) -> Prop where
  | line {line : List UInt8} {s : Text} :
      Utf8.Valid line -> Utf8.encode s = Lines.bare line -> Answers path (some line) (.ok (some s))
  | unreadable {line : List UInt8} :
      ¬ Utf8.Valid line -> Answers path (some line) (.error (.unreadable path .notUtf8))
  | done : Answers path none (.ok none)

theorem lineText_of_valid (path : Text) {line : List UInt8} (h : Utf8.Valid line) :
    exists s, lineText path line = .ok s ∧ Utf8.encode s = Lines.bare line := by
  cases hs : Lines.text? line with
  | none =>
      exact absurd h (Lines.text?_eq_none_iff.mp hs)
  | some s =>
      exact ⟨s, by rw [lineText, hs], (Lines.text?_eq_some_iff.mp hs).right⟩

theorem lineText_of_not_valid {path : Text} {line : List UInt8} (h : ¬ Utf8.Valid line) :
    lineText path line = .error (.unreadable path .notUtf8) := by
  rw [lineText, Lines.text?_eq_none_iff.mpr h]

theorem answers_lineText (path : Text) (line : List UInt8) :
    Answers path (some line) ((lineText path line).map some) := by
  by_cases h : Utf8.Valid line
  · rcases lineText_of_valid path h with ⟨s, hs, hbare⟩
    rw [hs]
    exact Answers.line h hbare
  · rw [lineText_of_not_valid h]
    exact Answers.unreadable h

theorem next_ofLines_cons (path : Text) (line : List UInt8) (lines : List (List UInt8)) :
    (ofLines path (line :: lines)).next = ((lineText path line).map some, ofLines path lines) :=
  rfl

theorem after_ofLines (path : Text) (lines : List (List UInt8)) (k : Nat) :
    after next k (ofLines path lines) = ofLines path (lines.drop k) := by
  induction k generalizing lines with
  | zero =>
      rfl
  | succ k ih =>
      cases lines with
      | nil =>
          exact (ih []).trans (by rw [List.drop_nil, List.drop_nil])
      | cons line lines =>
          rw [after_succ, next_ofLines_cons, ih, List.drop_succ_cons]

theorem next_after_ofLines (path : Text) (lines : List (List UInt8)) (k : Nat) :
    (after next k (ofLines path lines)).next.1 =
      match lines[k]? with
      | none => .ok none
      | some line => (lineText path line).map some := by
  rw [after_ofLines, ← List.head?_drop]
  cases lines.drop k with
  | nil =>
      rfl
  | cons line rest =>
      rfl

theorem answers_after (path : Text) (lines : List (List UInt8)) (k : Nat) :
    Answers path lines[k]? (after next k (ofLines path lines)).next.1 := by
  rw [next_after_ofLines]
  cases lines[k]? with
  | none =>
      exact Answers.done
  | some line =>
      exact answers_lineText path line

/-!
# All lines together
-/

theorem remaining_cons (path : Text) (line : List UInt8) (lines : List (List UInt8)) :
    (ofLines path (line :: lines)).remaining = (do
      let s <- lineText path line
      let rest <- (ofLines path lines).remaining
      return s :: rest) :=
  List.mapM_cons

theorem remaining_of_valid (path : Text) {lines : List (List UInt8)}
    (h : forall line, line ∈ lines -> Utf8.Valid line) :
    exists texts, (ofLines path lines).remaining = .ok texts ∧
      List.Forall₂ (fun line s => Utf8.encode s = Lines.bare line) lines texts := by
  induction lines with
  | nil =>
      exact ⟨[], rfl, List.Forall₂.nil⟩
  | cons line lines ih =>
      rw [List.forall_mem_cons] at h
      rcases lineText_of_valid path h.left with ⟨s, hs, hbare⟩
      rcases ih h.right with ⟨texts, htexts, hbares⟩
      refine ⟨s :: texts, ?_, List.Forall₂.cons hbare hbares⟩
      rw [remaining_cons, hs, htexts]
      rfl

theorem remaining_of_not_valid {path : Text} {lines : List (List UInt8)}
    (h : ¬ forall line, line ∈ lines -> Utf8.Valid line) :
    (ofLines path lines).remaining = .error (.unreadable path .notUtf8) := by
  induction lines with
  | nil =>
      exact absurd (fun line hline => absurd hline List.not_mem_nil) h
  | cons line lines ih =>
      rw [List.forall_mem_cons, not_and] at h
      rw [remaining_cons]
      by_cases hline : Utf8.Valid line
      · rcases lineText_of_valid path hline with ⟨s, hs, _⟩
        rw [hs, ih (h hline)]
        rfl
      · rw [lineText_of_not_valid hline]
        rfl

theorem next_after_of_remaining {path : Text} {lines : List (List UInt8)} {texts : List Text}
    (h : (ofLines path lines).remaining = .ok texts) (k : Nat) :
    (after next k (ofLines path lines)).next.1 = .ok texts[k]? := by
  induction lines generalizing texts k with
  | nil =>
      have htexts : [] = texts := Except.ok.inj h
      rw [after_ofLines, List.drop_nil, ← htexts, List.getElem?_nil]
      rfl
  | cons line lines ih =>
      rw [remaining_cons] at h
      cases hs : lineText path line with
      | error failure =>
          rw [hs] at h
          cases h
      | ok s =>
          cases hrest : (ofLines path lines).remaining with
          | error failure =>
              rw [hs, hrest] at h
              cases h
          | ok rest =>
              rw [hs, hrest] at h
              cases h
              cases k with
              | zero =>
                  rw [after_zero, next_ofLines_cons, hs]
                  rfl
              | succ k =>
                  exact ih hrest k

/-!
# Written lines
-/

theorem lineText_encode (path s : Text) :
    lineText path (Utf8.encode s) = .ok (Lines.chomp s) := by
  rw [lineText, Lines.text?, Utf8.decode_encode]
  rfl

theorem remaining_written {lines : List (Text × Bool)}
    (h : forall line, line ∈ lines -> '\n' ∉ line.1 ∧ line.1.getLast? ≠ some '\r')
    (path : Text) :
    (ofLines path (Lines.pieces (Utf8.encode (Lines.written lines)))).remaining =
      .ok (lines.map Prod.fst) := by
  induction lines with
  | nil =>
      rfl
  | cons line lines ih =>
      rcases line with ⟨s, returns⟩
      rw [List.forall_mem_cons] at h
      rcases Lines.pieces_written h.left.left h.left.right returns lines with ⟨t, ht, hpieces⟩
      rw [hpieces, remaining_cons, lineText_encode, ih h.right, ht]
      rfl

/-!
# Files
-/

section Files

variable {σ : Type} {host : Host σ} {path : Text} {state : σ} {content : List UInt8}

theorem start_of_error {fault : Fault} (h : host.openFile path state = .error fault) :
    start host path state = .error (Host.openFailure path fault) := by
  rw [start, Host.openOrFail, h]
  rfl

theorem start_of_folder (h : host.openFile path state = .ok .folder) :
    start host path state = .ok { path := path, rest? := none } := by
  rw [start, Host.openOrFail, h]
  rfl

theorem start_of_bytes (h : host.openFile path state = .ok (.bytes content)) :
    start host path state = .ok (ofLines path (Lines.pieces content)) := by
  rw [start, Host.openOrFail, h]
  rfl

theorem readLines_of_bytes (h : host.openFile path state = .ok (.bytes content)) :
    readLines host path state = (ofLines path (Lines.pieces content)).remaining := by
  rw [readLines, start_of_bytes h]
  rfl

end Files

/-- The steps of a reader give the lines of its file in their order, each line that is no
text as a failure, and then nothing more.  The lines are read together exactly if the
file is a text, with the same outcome, and what was written as lines is read again. -/
theorem reads_lines {σ : Type} {host : Host σ} {path : Text} {state : σ} {content : List UInt8}
    (h : host.openFile path state = .ok (.bytes content)) :
    exists reader lines, start host path state = .ok reader ∧ Lines.CutsInto content lines ∧
      (forall k, Answers path lines[k]? (after next k reader).next.1) ∧
      (Utf8.Valid content -> exists texts, readLines host path state = .ok texts ∧
        List.Forall₂ (fun line s => Utf8.encode s = Lines.bare line) lines texts ∧
        forall k, (after next k reader).next.1 = .ok texts[k]?) ∧
      (¬ Utf8.Valid content ->
        readLines host path state = .error (.unreadable path .notUtf8)) ∧
      forall written : List (Text × Bool),
        (forall line, line ∈ written -> '\n' ∉ line.1 ∧ line.1.getLast? ≠ some '\r') ->
          content = Utf8.encode (Lines.written written) ->
            readLines host path state = .ok (written.map Prod.fst) := by
  have hcuts := Lines.cutsInto_pieces content
  have hstart : start host path state = .ok (ofLines path (Lines.pieces content)) := by
    rw [start, Host.openOrFail, h]
    rfl
  have hall : readLines host path state = (ofLines path (Lines.pieces content)).remaining := by
    rw [readLines, hstart]
    rfl
  refine ⟨ofLines path (Lines.pieces content), Lines.pieces content, hstart, hcuts,
    answers_after path _, ?_, ?_, ?_⟩
  · intro hvalid
    rcases remaining_of_valid path (hcuts.valid_iff.mp hvalid) with ⟨texts, htexts, hbare⟩
    exact ⟨texts, hall.trans htexts, hbare, next_after_of_remaining htexts⟩
  · intro hvalid
    rw [hall]
    exact remaining_of_not_valid (mt hcuts.valid_iff.mpr hvalid)
  · intro written hwritten hcontent
    rw [hall, hcontent]
    exact remaining_written hwritten path

/-- Three lines: the first one ends with a carriage return and a line feed, the second
one is no text, and the last one keeps its carriage return. -/
def broken : List UInt8 :=
  [0x61, 0x0D, 0x0A, 0xFF, 0x0A, 0x62, 0x0D]

def shelf : Tree where
  entries :=
    [(["broken".toList], .file broken),
      (["whole".toList], .file (Utf8.encode "a\r\n\nä\n".toList))]

theorem reads_lines_shelf :
    (Host.ofTree id).openFile "broken".toList shelf = .ok (.bytes broken) ∧
      (exists reader, start (Host.ofTree id) "broken".toList shelf = .ok reader ∧
        forall k, Answers "broken".toList
          [[0x61, 0x0D, 0x0A], [0xFF, 0x0A], [0x62, 0x0D]][k]? (after next k reader).next.1) ∧
      readLines (Host.ofTree id) "whole".toList shelf =
        .ok ["a".toList, [], "ä".toList] := by
  have hbroken : (Host.ofTree id).openFile "broken".toList shelf = .ok (.bytes broken) := by
    decide
  have hwhole : (Host.ofTree id).openFile "whole".toList shelf =
      .ok (.bytes (Utf8.encode "a\r\n\nä\n".toList)) := by
    decide
  refine ⟨hbroken, ?_, ?_⟩
  · rcases reads_lines hbroken with ⟨reader, lines, hstart, hcuts, hanswers, _⟩
    have hlines : lines = [[0x61, 0x0D, 0x0A], [0xFF, 0x0A], [0x62, 0x0D]] := hcuts.eq_pieces
    rw [hlines] at hanswers
    exact ⟨reader, hstart, hanswers⟩
  · rcases reads_lines hwhole with ⟨reader, lines, _, _, _, _, _, hwritten⟩
    exact hwritten [("a".toList, true), ([], false), ("ä".toList, false)] (by decide) rfl

end LineReader
end Moniker
