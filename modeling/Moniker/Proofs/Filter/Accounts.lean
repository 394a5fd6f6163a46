import Moniker.Filter.Accounts
import Moniker.Host.Tools
import Moniker.Proofs.LineReader
import Mathlib.Data.List.TakeWhile

/-!
# Account databases

The lines of an account database are looked at in their order, and the first one that
has the name of the candidate, or is no text, settles the matter.  Nothing is kept from
one call to the next.
-/

namespace Moniker
namespace Accounts

/-!
# Names
-/

/-- The line has the name before its first colon, or is the name. -/
def Names (line name : Text) : Prop :=
  ':' ∉ name ∧ (line = name ∨ exists rest, line = name ++ ':' :: rest)

theorem names_nameOf (line : Text) : Names line (nameOf line) := by
  have hcolon : ':' ∉ nameOf line := fun hmem =>
    absurd (List.mem_takeWhile_imp hmem) (by decide)
  have hline : nameOf line ++ line.dropWhile (· ≠ ':') = line := List.takeWhile_append_dropWhile
  refine ⟨hcolon, ?_⟩
  cases hrest : line.dropWhile (· ≠ ':') with
  | nil =>
      rw [hrest, List.append_nil] at hline
      exact Or.inl hline.symm
  | cons c rest =>
      have hc := List.head?_dropWhile_not (· ≠ ':') line
      rw [hrest] at hc
      have hcolon : c = ':' := by
        simpa using hc
      rw [hrest, hcolon] at hline
      exact Or.inr ⟨rest, hline.symm⟩

theorem Names.eq_nameOf {line name : Text} (h : Names line name) : nameOf line = name := by
  rcases h with ⟨hcolon, hline⟩
  have hname : forall c, c ∈ name -> decide (c ≠ ':') = true := by
    intro c hc
    exact decide_eq_true fun heq => hcolon (heq ▸ hc)
  rcases hline with rfl | ⟨rest, rfl⟩
  · exact List.takeWhile_eq_self_iff.mpr hname
  · rw [nameOf, List.takeWhile_append_of_pos hname, List.takeWhile_cons_of_neg (by decide),
      List.append_nil]

theorem names_iff {line name : Text} : Names line name <-> nameOf line = name :=
  ⟨Names.eq_nameOf, fun h => h ▸ names_nameOf line⟩

/-!
# Lines
-/

/-- A line settles the matter of a candidate if it is no text or has its name. -/
inductive Settles (path candidate : Text) : List UInt8 -> Except Failure Bool -> Prop where
  | unreadable {line : List UInt8} :
      ¬ Utf8.Valid line -> Settles path candidate line (.error (.unreadable path .notUtf8))
  | taken {line : List UInt8} {s : Text} :
      Utf8.Valid line -> Utf8.encode s = Lines.bare line -> Names s candidate ->
        Settles path candidate line (.ok false)

def Passes (path candidate : Text) (line : List UInt8) : Prop :=
  forall verdict, ¬ Settles path candidate line verdict

/-- What the lines say of a candidate. -/
def verdict (path candidate : Text) (lines : List (List UInt8)) : Except Failure Bool :=
  free candidate (lines.map (LineReader.lineText path))

section Lines

variable {path candidate : Text} {line : List UInt8}

theorem verdict_cons_of_settles {answer : Except Failure Bool}
    (h : Settles path candidate line answer) (lines : List (List UInt8)) :
    verdict path candidate (line :: lines) = answer := by
  cases h with
  | unreadable hvalid =>
      rw [verdict, List.map_cons, LineReader.lineText_of_not_valid hvalid]
      rfl
  | taken hvalid hbare hnames =>
      rcases LineReader.lineText_of_valid path hvalid with ⟨s, hs, hbare'⟩
      rw [← hbare] at hbare'
      rw [verdict, List.map_cons, hs, Utf8.encode_injective hbare']
      exact if_pos hnames.eq_nameOf

theorem passes_iff :
    Passes path candidate line <->
      exists s, Lines.text? line = some s ∧ nameOf s ≠ candidate := by
  constructor
  · intro h
    cases hs : Lines.text? line with
    | none =>
        exact absurd (.unreadable (Lines.text?_eq_none_iff.mp hs)) (h _)
    | some s =>
        rcases Lines.text?_eq_some_iff.mp hs with ⟨hvalid, hbare⟩
        exact ⟨s, rfl, fun heq => h _ (.taken hvalid hbare (names_iff.mpr heq))⟩
  · rintro ⟨s, hs, hname⟩ answer h
    rcases Lines.text?_eq_some_iff.mp hs with ⟨hvalid, hbare⟩
    cases h with
    | unreadable hnot =>
        exact hnot hvalid
    | taken _ hbare' hnames =>
        rw [← hbare] at hbare'
        rw [Utf8.encode_injective hbare'] at hnames
        exact hname hnames.eq_nameOf

theorem verdict_cons_of_passes (h : Passes path candidate line) (lines : List (List UInt8)) :
    verdict path candidate (line :: lines) = verdict path candidate lines := by
  rcases passes_iff.mp h with ⟨s, hs, hname⟩
  rw [verdict, List.map_cons, LineReader.lineText, hs]
  exact if_neg hname

theorem settles_or_passes (path candidate : Text) (line : List UInt8) :
    (exists answer, Settles path candidate line answer) ∨ Passes path candidate line :=
  (Classical.em _).imp_right fun h answer hsettles => h ⟨answer, hsettles⟩

theorem verdict_of_first {answer : Except Failure Bool} {before : List (List UInt8)}
    (hbefore : forall earlier, earlier ∈ before -> Passes path candidate earlier)
    (h : Settles path candidate line answer) (behind : List (List UInt8)) :
    verdict path candidate (before ++ line :: behind) = answer := by
  induction before with
  | nil =>
      exact verdict_cons_of_settles h behind
  | cons earlier before ih =>
      rw [List.forall_mem_cons] at hbefore
      rw [List.cons_append, verdict_cons_of_passes hbefore.left, ih hbefore.right]

theorem verdict_of_passes {lines : List (List UInt8)}
    (h : forall line, line ∈ lines -> Passes path candidate line) :
    verdict path candidate lines = .ok true := by
  induction lines with
  | nil =>
      rfl
  | cons line lines ih =>
      rw [List.forall_mem_cons] at h
      rw [verdict_cons_of_passes h.left, ih h.right]

theorem verdict_append_cons {answer : Except Failure Bool}
    (h : Settles path candidate line answer) (before behind : List (List UInt8)) :
    verdict path candidate (before ++ line :: behind) =
      verdict path candidate (before ++ [line]) := by
  induction before with
  | nil =>
      exact (verdict_cons_of_settles h behind).trans (verdict_cons_of_settles h []).symm
  | cons earlier before ih =>
      rw [List.cons_append, List.cons_append]
      rcases settles_or_passes path candidate earlier with ⟨answer', hearlier⟩ | hearlier
      · rw [verdict_cons_of_settles hearlier, verdict_cons_of_settles hearlier]
      · rw [verdict_cons_of_passes hearlier, verdict_cons_of_passes hearlier, ih]

theorem exists_settles_of_verdict {lines : List (List UInt8)}
    (h : verdict path candidate lines = .ok false) :
    exists line, line ∈ lines ∧ Settles path candidate line (.ok false) := by
  induction lines with
  | nil =>
      cases h
  | cons line lines ih =>
      rcases settles_or_passes path candidate line with ⟨answer, hline⟩ | hline
      · rw [verdict_cons_of_settles hline] at h
        subst h
        exact ⟨line, List.mem_cons_self, hline⟩
      · rw [verdict_cons_of_passes hline] at h
        rcases ih h with ⟨line', hmem, hline'⟩
        exact ⟨line', List.mem_cons_of_mem line hmem, hline'⟩

theorem not_mem_of_settles {content : List UInt8} {lines : List (List UInt8)}
    (hcuts : Lines.CutsInto content lines) (hline : line ∈ lines)
    (h : Settles path candidate line (.ok false)) : ':' ∉ candidate ∧ '\n' ∉ candidate := by
  cases h with
  | @taken s hvalid hbare hnames =>
      refine ⟨hnames.left, fun hfeed => hcuts.feed_not_mem_bare hline ?_⟩
      rw [← hbare]
      apply (Utf8.mem_encode_iff Lines.toNat_feed).mpr
      rcases hnames.right with rfl | ⟨rest, rfl⟩
      · exact hfeed
      · exact List.mem_append_left _ hfeed

end Lines

/-!
# Files that are written line by line
-/

def written (entries : List (Text × Text)) : Text :=
  Lines.written (entries.map fun entry => (entry.1 ++ ':' :: entry.2, false))

theorem exists_chomp_entry (name rest : Text) :
    exists rest', Lines.chomp (name ++ ':' :: rest ++ ['\n']) = name ++ ':' :: rest' := by
  rw [Lines.chomp_concat_feed]
  split
  · rename_i hreturn
    cases rest with
    | nil =>
        rw [List.getLast?_concat] at hreturn
        cases hreturn
    | cons c rest =>
        refine ⟨(c :: rest).dropLast, ?_⟩
        rw [List.dropLast_append_of_ne_nil (List.cons_ne_nil _ _)]
        rfl
  · exact ⟨rest, rfl⟩

theorem pieces_written_cons {name rest : Text} (h : '\n' ∉ name ++ ':' :: rest)
    (entries : List (Text × Text)) :
    Lines.pieces (Utf8.encode (written ((name, rest) :: entries))) =
      Utf8.encode (name ++ ':' :: rest ++ ['\n']) ::
        Lines.pieces (Utf8.encode (written entries)) := by
  rw [← Lines.pieces_encode_feed h, written, List.map_cons, Lines.written, List.flatMap_cons]
  simp only [Bool.false_eq_true, if_false, List.append_assoc]
  rfl

theorem verdict_written {entries : List (Text × Text)}
    (h : forall entry, entry ∈ entries -> ':' ∉ entry.1 ∧ '\n' ∉ entry.1 ∧ '\n' ∉ entry.2)
    (path candidate : Text) :
    verdict path candidate (Lines.pieces (Utf8.encode (written entries))) =
      .ok (decide (candidate ∉ entries.map Prod.fst)) := by
  induction entries with
  | nil =>
      rfl
  | cons entry entries ih =>
      rcases entry with ⟨name, rest⟩
      rw [List.forall_mem_cons] at h
      rcases h with ⟨⟨hcolon, hname, hrest⟩, h⟩
      have hfeed : '\n' ∉ name ++ ':' :: rest := by
        simp [hname, hrest]
      rcases exists_chomp_entry name rest with ⟨rest', hchomp⟩
      have hnames : nameOf (name ++ ':' :: rest') = name :=
        Names.eq_nameOf ⟨hcolon, Or.inr ⟨rest', rfl⟩⟩
      rw [pieces_written_cons hfeed, verdict, List.map_cons, LineReader.lineText_encode, hchomp,
        free, hnames]
      by_cases hcandidate : name = candidate
      · simp [hcandidate]
      · rw [if_neg hcandidate]
        refine (ih h).trans ?_
        simp [Ne.symm hcandidate]

/-!
# Calls
-/

variable {σ : Type} {host : Host σ} {accounts : Accounts} {state : σ}

theorem accepts_eq (candidate : Text) :
    (accounts.filter host).accepts candidate state =
      (LineReader.start host accounts.path state >>= freeIn candidate, state) :=
  rfl

theorem accepts_of_bytes {content : List UInt8}
    (h : host.openFile accounts.path state = .ok (.bytes content)) (candidate : Text) :
    (accounts.filter host).accepts candidate state =
      (verdict accounts.path candidate (Lines.pieces content), state) := by
  rw [accepts_eq, LineReader.start_of_bytes h]
  rfl

theorem accepts_ne_false_of_mem {candidate : Text} (h : ':' ∈ candidate ∨ '\n' ∈ candidate) :
    ((accounts.filter host).accepts candidate state).1 ≠ .ok false := by
  cases hopen : host.openFile accounts.path state with
  | error fault =>
      rw [accepts_eq, LineReader.start_of_error hopen]
      exact fun heq => by cases heq
  | ok contents =>
      cases contents with
      | folder =>
          rw [accepts_eq, LineReader.start_of_folder hopen]
          exact fun heq => by cases heq
      | bytes content =>
          rw [accepts_of_bytes hopen]
          intro hfalse
          rcases exists_settles_of_verdict hfalse with ⟨line, hline, hsettles⟩
          have hnot := not_mem_of_settles (Lines.cutsInto_pieces content) hline hsettles
          exact h.elim hnot.left hnot.right

/-- What happens around a call: the host changes, or there is another call. -/
inductive Moment (σ : Type) where
  | change (f : σ -> σ)
  | ask (candidate : Text)

def pass (host : Host σ) (accounts : Accounts) (state : σ) : Moment σ -> σ
  | .change f => f state
  | .ask candidate => ((accounts.filter host).accepts candidate state).2

def changed (state : σ) : Moment σ -> σ
  | .change f => f state
  | .ask _ => state

theorem foldl_pass (moments : List (Moment σ)) (state : σ) :
    moments.foldl (pass host accounts) state = moments.foldl changed state := by
  induction moments generalizing state with
  | nil =>
      rfl
  | cons moment moments ih =>
      cases moment with
      | change f =>
          exact ih (f state)
      | ask candidate =>
          exact ih state

theorem accepts_congr {state' : σ}
    (h : host.openFile accounts.path state = host.openFile accounts.path state')
    (candidate : Text) :
    ((accounts.filter host).accepts candidate state).1 =
      ((accounts.filter host).accepts candidate state').1 := by
  rw [accepts_eq, accepts_eq, LineReader.start, LineReader.start, Host.openOrFail,
    Host.openOrFail, h]

/-- The first line that is no text or has the name of the candidate settles the matter,
and no line behind it does.  A name has no colon and no line feed; of a file with one
line for each name exactly those names are taken.  An answer depends on the file at its
call alone. -/
theorem settled_by_first_line {σ : Type} (host : Host σ) (accounts : Accounts)
    (candidate : Text) :
    (forall state content lines,
      host.openFile accounts.path state = .ok (.bytes content) -> Lines.CutsInto content lines ->
        (exists reader, LineReader.start host accounts.path state = .ok reader ∧
          forall k, LineReader.Answers accounts.path lines[k]?
            (after LineReader.next k reader).next.1) ∧
        (forall before line behind answer, lines = before ++ line :: behind ->
          (forall earlier, earlier ∈ before -> Passes accounts.path candidate earlier) ->
            Settles accounts.path candidate line answer ->
              (accounts.filter host).accepts candidate state = (answer, state)) ∧
        ((forall line, line ∈ lines -> Passes accounts.path candidate line) ->
          (accounts.filter host).accepts candidate state = (.ok true, state))) ∧
    (forall state state' content content' before line behind behind' answer,
      host.openFile accounts.path state = .ok (.bytes content) ->
      host.openFile accounts.path state' = .ok (.bytes content') ->
      Lines.CutsInto content (before ++ line :: behind) ->
      Lines.CutsInto content' (before ++ line :: behind') ->
      Settles accounts.path candidate line answer ->
        ((accounts.filter host).accepts candidate state).1 =
          ((accounts.filter host).accepts candidate state').1) ∧
    (':' ∈ candidate ∨ '\n' ∈ candidate -> forall state,
      ((accounts.filter host).accepts candidate state).1 ≠ .ok false) ∧
    (forall state entries,
      (forall entry, entry ∈ entries -> ':' ∉ entry.1 ∧ '\n' ∉ entry.1 ∧ '\n' ∉ entry.2) ->
      host.openFile accounts.path state = .ok (.bytes (Utf8.encode (written entries))) ->
        (accounts.filter host).accepts candidate state =
          (.ok (decide (candidate ∉ entries.map Prod.fst)), state)) ∧
    forall (moments moments' : List (Moment σ)) (state state' : σ),
      host.openFile accounts.path (moments.foldl changed state) =
        host.openFile accounts.path (moments'.foldl changed state') ->
      ((accounts.filter host).accepts candidate
          (moments.foldl (pass host accounts) state)).1 =
        ((accounts.filter host).accepts candidate
          (moments'.foldl (pass host accounts) state')).1 := by
  refine ⟨?_, ?_, fun h state => accepts_ne_false_of_mem h, ?_, ?_⟩
  · intro state content lines hopen hcuts
    rw [accepts_of_bytes hopen, ← hcuts.eq_pieces]
    refine ⟨⟨LineReader.ofLines accounts.path lines, ?_, LineReader.answers_after _ lines⟩, ?_, ?_⟩
    · rw [hcuts.eq_pieces]
      exact LineReader.start_of_bytes hopen
    · rintro before line behind answer rfl hbefore hline
      rw [verdict_of_first hbefore hline]
    · intro hlines
      rw [verdict_of_passes hlines]
  · intro state state' content content' before line behind behind' answer hopen hopen' hcuts
      hcuts' hline
    rw [accepts_of_bytes hopen, accepts_of_bytes hopen', ← hcuts.eq_pieces, ← hcuts'.eq_pieces,
      verdict_append_cons hline before behind, verdict_append_cons hline before behind']
  · intro state entries hentries hopen
    rw [accepts_of_bytes hopen, verdict_written hentries]
  · intro moments moments' state state' hopen
    rw [foldl_pass, foldl_pass]
    exact accepts_congr hopen candidate

/-- Three lines: the second one is no text, and the third one ends with a carriage return
and a line feed. -/
def broken : List UInt8 :=
  Utf8.encode "ann:x\n".toList ++ [0xFF, 0x0A] ++ Utf8.encode "bob\r\n".toList

def whole : List (Text × Text) :=
  [("bob".toList, "\r".toList), ([], ":".toList)]

def registers : Tree where
  entries :=
    [(["broken".toList], .file broken),
      (["whole".toList], .file (Utf8.encode (written whole)))]

def brokenFile : Accounts where
  path := "broken".toList

def wholeFile : Accounts where
  path := "whole".toList

theorem settled_by_first_line_registers :
    (brokenFile.filter (Host.ofTree id)).accepts "ann".toList registers =
        (.ok false, registers) ∧
      (brokenFile.filter (Host.ofTree id)).accepts "bob".toList registers =
        (.error (.unreadable "broken".toList .notUtf8), registers) ∧
      forall candidate, (wholeFile.filter (Host.ofTree id)).accepts candidate registers =
        (.ok (decide (candidate ∉ ["bob".toList, []])), registers) := by
  have hbroken : (Host.ofTree id).openFile brokenFile.path registers = .ok (.bytes broken) := by
    decide
  have hwhole : (Host.ofTree id).openFile wholeFile.path registers =
      .ok (.bytes (Utf8.encode (written whole))) := by
    decide
  have hann : Settles brokenFile.path "ann".toList (Utf8.encode "ann:x\n".toList) (.ok false) :=
    .taken ⟨_, rfl⟩ (s := "ann:x".toList) rfl ⟨by decide, Or.inr ⟨"x".toList, rfl⟩⟩
  have hunreadable : Settles brokenFile.path "bob".toList [0xFF, 0x0A]
      (.error (.unreadable brokenFile.path .notUtf8)) :=
    .unreadable (Lines.text?_eq_none_iff.mp (by decide))
  have hbob : Passes brokenFile.path "bob".toList (Utf8.encode "ann:x\n".toList) :=
    passes_iff.mpr
      ⟨"ann:x".toList, Lines.text?_eq_some_iff.mpr ⟨⟨_, rfl⟩, rfl⟩, by decide⟩
  have hcuts : Lines.CutsInto broken ([Utf8.encode "ann:x\n".toList] ++
      [0xFF, 0x0A] :: [Utf8.encode "bob\r\n".toList]) :=
    Lines.cutsInto_pieces broken
  refine ⟨?_, ?_, ?_⟩
  · rcases settled_by_first_line (Host.ofTree id) brokenFile "ann".toList with ⟨hfirst, _⟩
    rcases hfirst registers broken _ hbroken hcuts with ⟨_, hsettled, _⟩
    exact hsettled [] _ _ _ rfl (List.forall_mem_nil _) hann
  · rcases settled_by_first_line (Host.ofTree id) brokenFile "bob".toList with ⟨hfirst, _⟩
    rcases hfirst registers broken _ hbroken hcuts with ⟨_, hsettled, _⟩
    exact hsettled _ _ _ _ rfl (List.forall_mem_singleton.mpr hbob) hunreadable
  · intro candidate
    rcases settled_by_first_line (Host.ofTree id) wholeFile candidate with ⟨_, _, _, hwritten, _⟩
    exact hwritten registers whole (by decide) hwhole

end Accounts
end Moniker
