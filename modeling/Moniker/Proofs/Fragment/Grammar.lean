import Moniker.Fragment.Grammar
import Moniker.Proofs.Decimal

/-!
# The grammar of fragments

The twelve rows read exactly the texts of a grammar, and no text is read by two
of them.  So the order in which the rows are tried does not matter.
-/

namespace Moniker
namespace Form

/-!
# Written forms
-/

def Position (d : Nat) (c : Char) : Prop :=
  1 ≤ d ∧ d ≤ 9 ∧ c = Nat.digitChar d

/-- A letter with a length: repeated that often, or with a numeral behind it. -/
inductive Measured (x : Char) : Text -> Nat -> Prop where
  | run {n : Nat} : 0 < n -> Measured x (List.replicate n x) n
  | numeral {n : Nat} : 0 < n -> n ≤ Decimal.maxWord -> Measured x (x :: Decimal.render n) n

inductive Written : Text -> Form -> Prop where
  | whole {x : Char} : x.isAlpha = true -> Written [x] (data x .whole)
  | literal {payload : Text} :
      (forall c, c ∈ payload -> c.isAlphanum = true ∨ c = '_') ->
        Written ('=' :: payload) (literal payload)
  | sample {x : Char} {s : Text} {n : Nat} :
      x.isAlpha = true -> Measured x s n -> Written (s ++ ['+']) (data x (.sample n))
  | counter {x : Char} {s : Text} {n : Nat} :
      x.isAlpha = true -> Measured x s n -> Written (s ++ ['+', '+']) (data x (.counter n))
  | first {x c : Char} {d : Nat} :
      x.isAlpha = true -> Position d c -> Written [c, x] (data x (.part (.range 0 d)))
  | firstComma {x c : Char} {d : Nat} :
      x.isAlpha = true -> Position d c -> Written [x, ',', c] (data x (.part (.range 0 d)))
  | last {x c : Char} {d : Nat} :
      x.isAlpha = true -> Position d c -> Written [x, c] (data x (.part (.last d)))
  | between {x c c' : Char} {d e : Nat} :
      x.isAlpha = true -> Position d c -> Position e c' ->
        Written [c, x, c'] (data x (.part (.range (d - 1) e)))
  | betweenComma {x c c' : Char} {d e : Nat} :
      x.isAlpha = true -> Position d c -> Position e c' ->
        Written [x, c, ',', c'] (data x (.part (.range (d - 1) e)))
  | fromComma {x c : Char} {d : Nat} :
      x.isAlpha = true -> Position d c -> Written [x, c, ','] (data x (.part (.toEnd (d - 1))))

/-!
# Characters
-/

theorem isLetter_eq_isAlpha (c : Char) : isLetter c = c.isAlpha := by
  show isLetter c = (decide (c.val ≥ 'A'.val ∧ c.val ≤ 'Z'.val) ||
    (decide (c.val ≥ 'a'.val) && decide (c.val ≤ 'z'.val)))
  rw [isLetter, Bool.or_comm, Bool.decide_and]
  rfl

theorem letter?_eq_some_iff {c x : Char} : letter? c = some x <-> c.isAlpha = true ∧ x = c := by
  rw [letter?, isLetter_eq_isAlpha]
  by_cases hc : c.isAlpha = true
  · simp [hc, eq_comm]
  · simp [hc]

theorem isPayload_iff {c : Char} : isPayload c = true <-> c.isAlphanum = true ∨ c = '_' := by
  rw [isPayload, isLetter_eq_isAlpha, Bool.or_eq_true, decide_eq_true_iff]
  exact Iff.rfl

theorem position?_eq_some_iff {c : Char} {d : Nat} : position? c = some d <-> Position d c := by
  unfold position? Position
  constructor
  · intro h
    split at h
    · rename_i hbounds
      cases h
      have hlow : 49 ≤ c.toNat := hbounds.left
      have hhigh : c.toNat ≤ 57 := hbounds.right
      have hdigit : c.isDigit = true := by
        apply Char.isDigit_iff_toNat.mpr
        show 48 ≤ c.toNat ∧ c.toNat ≤ 57
        omega
      have hvalue : Decimal.digitValue c = c.toNat - 48 := rfl
      refine ⟨by omega, by omega, (Decimal.digitChar_digitValue hdigit).symm⟩
    · cases h
  · intro h
    rcases h with ⟨hlow, hhigh, rfl⟩
    have hcases : d = 1 ∨ d = 2 ∨ d = 3 ∨ d = 4 ∨ d = 5 ∨ d = 6 ∨ d = 7 ∨ d = 8 ∨ d = 9 := by
      omega
    rcases hcases with rfl | rfl | rfl | rfl | rfl | rfl | rfl | rfl | rfl <;> rfl

/-!
# Lengths

A mark starts with a `+`, which is neither a letter nor a digit.  So a reader
that takes letters or digits stops in front of it.
-/

theorem takeWhile_append_mark {p : Char -> Bool} {run mark : Text}
    (hrun : forall c, c ∈ run -> p c = true) (hmark : mark.head? = some '+')
    (hplus : p '+' = false) : (run ++ mark).takeWhile p = run := by
  rcases List.head?_eq_some_iff.mp hmark with ⟨rest, rfl⟩
  rw [List.takeWhile_append_of_pos hrun, List.takeWhile_cons_of_neg (by simp [hplus]),
    List.append_nil]

theorem dropWhile_append_mark {p : Char -> Bool} {run mark : Text}
    (hrun : forall c, c ∈ run -> p c = true) (hmark : mark.head? = some '+')
    (hplus : p '+' = false) : (run ++ mark).dropWhile p = mark := by
  rcases List.head?_eq_some_iff.mp hmark with ⟨rest, rfl⟩
  rw [List.dropWhile_append_of_pos hrun, List.dropWhile_cons_of_neg (by simp [hplus])]

theorem eq_run_of_dropWhile {x : Char} {rest mark : Text} (h : rest.dropWhile (· == x) = mark) :
    rest = List.replicate (rest.takeWhile (· == x)).length x ++ mark := by
  have hrun : rest.takeWhile (· == x) = List.replicate (rest.takeWhile (· == x)).length x := by
    apply List.eq_replicate_length.mpr
    intro c hc
    have hcx := List.all_eq_true.mp (List.all_takeWhile (p := (· == x)) (l := rest)) c hc
    exact eq_of_beq hcx
  rw [← hrun, ← h, List.takeWhile_append_dropWhile]

theorem readRun_eq_some_iff {mark : Text} (hmark : mark.head? = some '+') {s : Text} {x : Char}
    {n : Nat} : readRun mark s = some (x, n) <->
      x.isAlpha = true ∧ 0 < n ∧ s = List.replicate n x ++ mark := by
  constructor
  · intro h
    cases s with
    | nil =>
        cases h
    | cons y rest =>
        rw [readRun] at h
        split at h
        · rename_i hread
          cases h
          rw [← isLetter_eq_isAlpha]
          refine ⟨hread.left, Nat.succ_pos _, ?_⟩
          rw [List.replicate_succ, List.cons_append, ← eq_run_of_dropWhile hread.right]
        · cases h
  · intro h
    rcases h with ⟨hx, hn, rfl⟩
    have hplus : ('+' == x) = false := by
      apply beq_eq_false_iff_ne.mpr
      intro heq
      subst heq
      cases hx
    cases n with
    | zero =>
        cases hn
    | succ n =>
        have hrun : forall c, c ∈ List.replicate n x -> (c == x) = true := by
          intro c hc
          exact beq_iff_eq.mpr (List.eq_of_mem_replicate hc)
        rw [List.replicate_succ, List.cons_append, readRun, dropWhile_append_mark hrun hmark hplus,
          takeWhile_append_mark hrun hmark hplus, List.length_replicate,
          if_pos ⟨isLetter_eq_isAlpha x ▸ hx, rfl⟩]

theorem readCounted_eq_some_iff {mark : Text} (hmark : mark.head? = some '+') {s : Text}
    {x : Char} {n : Nat} : readCounted mark s = some (x, n) <->
      x.isAlpha = true ∧ 0 < n ∧ n ≤ Decimal.maxWord ∧ s = x :: (Decimal.render n ++ mark) := by
  constructor
  · intro h
    cases s with
    | nil =>
        cases h
    | cons y rest =>
        rw [readCounted] at h
        rcases Option.bind_eq_some_iff.mp h with ⟨x', hx', hrest⟩
        rcases letter?_eq_some_iff.mp hx' with ⟨hletter, rfl⟩
        dsimp only at hrest
        split at hrest
        · rename_i hread
          rcases Option.bind_eq_some_iff.mp hrest with ⟨length, hlength, hpair⟩
          cases hpair
          rcases Decimal.readWord?_eq_some_iff.mp ⟨hlength, hread.right⟩ with ⟨hrender, hpos, hmax⟩
          refine ⟨hletter, hpos, hmax, ?_⟩
          rw [← hrender, ← hread.left, List.takeWhile_append_dropWhile]
        · cases hrest
  · intro h
    rcases h with ⟨hx, hpos, hmax, rfl⟩
    have hdigits : forall c, c ∈ Decimal.render n -> c.isDigit = true :=
      fun c hc => Decimal.isDigit_of_mem_render hc
    rcases Decimal.readWord?_eq_some_iff.mpr ⟨rfl, hpos, hmax⟩ with ⟨hword, hhead⟩
    rw [readCounted, letter?_eq_some_iff.mpr ⟨hx, rfl⟩]
    simp only [takeWhile_append_mark hdigits hmark rfl, dropWhile_append_mark hdigits hmark rfl,
      hword]
    exact if_pos ⟨trivial, hhead⟩

/-!
# One row for a text

The first and the last characters of a text, and its length, leave one row that
may read it.
-/

def numbered (s : Text) : Bool :=
  s[1]?.any Char.isDigit

/-- The place of the only row that may read a text. -/
def rowOf (s : Text) : Nat :=
  if s.head? = some '=' then
    1
  else if s.getLast? = some '+' then
    if s.dropLast.getLast? = some '+' then
      if numbered s then 11 else 10
    else
      if numbered s then 3 else 2
  else
    match s with
    | [_] => 0
    | [c, _] => if c.isDigit then 4 else 5
    | [c, c', _] => if c.isDigit then 6 else if c' = ',' then 9 else 8
    | _ => 7

/-- A row reads only written texts, and only those that are left to its place. -/
def Reads (row : Text -> Option Form) (place : Nat) : Prop :=
  forall s form, row s = some form -> Written s form ∧ rowOf s = place

theorem ne_of_isAlphanum {c c' : Char} (h : c.isAlphanum = true)
    (h' : c'.isAlphanum = false) : c ≠ c' := by
  intro heq
  rw [heq, h'] at h
  cases h

theorem not_isDigit_of_isAlpha {x : Char} (h : x.isAlpha = true) : x.isDigit = false := by
  apply Bool.eq_false_iff.mpr
  intro hdigit
  have hbounds := Char.isDigit_iff_toNat.mp hdigit
  change 48 ≤ x.toNat ∧ x.toNat ≤ 57 at hbounds
  rw [← isLetter_eq_isAlpha] at h
  simp only [isLetter, Bool.or_eq_true, Bool.and_eq_true, decide_eq_true_iff] at h
  change (97 ≤ x.toNat ∧ x.toNat ≤ 122) ∨ (65 ≤ x.toNat ∧ x.toNat ≤ 90) at h
  omega

theorem Position.isDigit {d : Nat} {c : Char} (h : Position d c) : c.isDigit = true := by
  rcases h with ⟨_, hd, rfl⟩
  rw [Nat.isDigit_digitChar]
  exact decide_eq_true (by omega)

theorem isAlphanum_of_isAlpha {x : Char} (h : x.isAlpha = true) : x.isAlphanum = true := by
  rw [Char.isAlphanum, h, Bool.true_or]

theorem isAlphanum_of_isDigit {c : Char} (h : c.isDigit = true) : c.isAlphanum = true := by
  rw [Char.isAlphanum, h, Bool.or_true]

/-!
# Reading a length
-/

theorem Measured.pos {x : Char} {s : Text} {n : Nat} (h : Measured x s n) : 0 < n := by
  cases h with
  | run hn =>
      exact hn
  | numeral hn hmax =>
      exact hn

theorem Measured.head {x : Char} {s : Text} {n : Nat} (h : Measured x s n) :
    s.head? = some x := by
  cases h with
  | run hn =>
      rw [List.head?_replicate, if_neg (by omega)]
  | numeral _ _ =>
      rfl

theorem Measured.isAlphanum {x : Char} {s : Text} {n : Nat} (h : Measured x s n)
    (hx : x.isAlpha = true) {c : Char} (hc : c ∈ s) : c.isAlphanum = true := by
  cases h with
  | run hn =>
      rw [List.eq_of_mem_replicate hc]
      exact isAlphanum_of_isAlpha hx
  | numeral hn hmax =>
      cases hc with
      | head =>
          exact isAlphanum_of_isAlpha hx
      | tail _ hc =>
          exact isAlphanum_of_isDigit (Decimal.isDigit_of_mem_render hc)

theorem head_append_of_measured {x : Char} {s : Text} {n : Nat} (h : Measured x s n)
    (hx : x.isAlpha = true) (mark : Text) : (s ++ mark).head? ≠ some '=' := by
  rw [List.head?_append, h.head]
  intro heq
  exact ne_of_isAlphanum (isAlphanum_of_isAlpha hx) rfl (Option.some.inj heq)

theorem getLast_of_measured {x : Char} {s : Text} {n : Nat} (h : Measured x s n)
    (hx : x.isAlpha = true) : s.getLast? ≠ some '+' := by
  intro hlast
  exact ne_of_isAlphanum (h.isAlphanum hx (List.mem_of_getLast? hlast)) rfl rfl

theorem rowOf_sample {x : Char} {s : Text} {n : Nat} (hx : x.isAlpha = true)
    (h : Measured x s n) : rowOf (s ++ ['+']) = if numbered (s ++ ['+']) then 3 else 2 := by
  unfold rowOf
  rw [if_neg (head_append_of_measured h hx _), if_pos List.getLast?_concat,
    List.dropLast_concat, if_neg (getLast_of_measured h hx)]

theorem rowOf_counter {x : Char} {s : Text} {n : Nat} (hx : x.isAlpha = true)
    (h : Measured x s n) :
    rowOf (s ++ ['+', '+']) = if numbered (s ++ ['+', '+']) then 11 else 10 := by
  have happend : s ++ ['+', '+'] = (s ++ ['+']) ++ ['+'] := List.append_cons s '+' ['+']
  have hhead := head_append_of_measured h hx ['+', '+']
  unfold rowOf
  rw [if_neg hhead, happend, if_pos List.getLast?_concat, List.dropLast_concat,
    if_pos List.getLast?_concat]

theorem numbered_run {x : Char} {mark : Text} (hx : x.isAlpha = true)
    (hmark : mark.head? = some '+') {n : Nat} (hn : 0 < n) :
    numbered (List.replicate n x ++ mark) = false := by
  rcases List.head?_eq_some_iff.mp hmark with ⟨rest, rfl⟩
  cases n with
  | zero =>
      cases hn
  | succ n =>
      cases n with
      | zero =>
          rfl
      | succ n =>
          exact not_isDigit_of_isAlpha hx

theorem numbered_numeral (x : Char) (mark : Text) (n : Nat) :
    numbered (x :: (Decimal.render n ++ mark)) = true := by
  cases hrender : Decimal.render n with
  | nil =>
      exact absurd hrender (Decimal.render_ne_nil n)
  | cons d digits =>
      apply Decimal.isDigit_of_mem_render (n := n)
      rw [hrender]
      exact List.mem_cons_self

theorem reads_sampleRun : Reads readSampleRun 2 := by
  intro s form h
  rcases Option.map_eq_some_iff.mp h with ⟨⟨x, n⟩, hread, rfl⟩
  rcases (readRun_eq_some_iff rfl).mp hread with ⟨hx, hn, rfl⟩
  constructor
  · exact .sample hx (.run hn)
  · rw [rowOf_sample hx (.run hn), numbered_run hx rfl hn]
    rfl

theorem reads_sampleCounted : Reads readSampleCounted 3 := by
  intro s form h
  rcases Option.map_eq_some_iff.mp h with ⟨⟨x, n⟩, hread, rfl⟩
  rcases (readCounted_eq_some_iff rfl).mp hread with ⟨hx, hn, hmax, rfl⟩
  rw [← List.cons_append]
  constructor
  · exact .sample hx (.numeral hn hmax)
  · rw [rowOf_sample hx (.numeral hn hmax), List.cons_append, numbered_numeral]
    rfl

theorem reads_counterRun : Reads readCounterRun 10 := by
  intro s form h
  rcases Option.map_eq_some_iff.mp h with ⟨⟨x, n⟩, hread, rfl⟩
  rcases (readRun_eq_some_iff rfl).mp hread with ⟨hx, hn, rfl⟩
  constructor
  · exact .counter hx (.run hn)
  · rw [rowOf_counter hx (.run hn), numbered_run hx rfl hn]
    rfl

theorem reads_counterCounted : Reads readCounterCounted 11 := by
  intro s form h
  rcases Option.map_eq_some_iff.mp h with ⟨⟨x, n⟩, hread, rfl⟩
  rcases (readCounted_eq_some_iff rfl).mp hread with ⟨hx, hn, hmax, rfl⟩
  rw [← List.cons_append]
  constructor
  · exact .counter hx (.numeral hn hmax)
  · rw [rowOf_counter hx (.numeral hn hmax), List.cons_append, numbered_numeral]
    rfl

/-!
# Reading the other forms
-/

theorem letter_ne {x c : Char} (hx : x.isAlpha = true) (hc : c.isAlphanum = false) : x ≠ c :=
  ne_of_isAlphanum (isAlphanum_of_isAlpha hx) hc

theorem Position.ne {d : Nat} {c c' : Char} (h : Position d c) (hc : c'.isAlphanum = false) :
    c ≠ c' :=
  ne_of_isAlphanum (isAlphanum_of_isDigit h.isDigit) hc

theorem reads_whole : Reads readWhole 0 := by
  intro s form h
  unfold readWhole at h
  split at h
  · rcases Option.bind_eq_some_iff.mp h with ⟨x, hx, hform⟩
    rcases letter?_eq_some_iff.mp hx with ⟨hletter, rfl⟩
    cases hform
    constructor
    · exact .whole hletter
    · simp [rowOf, letter_ne hletter]
  · cases h

theorem reads_literal : Reads readLiteral 1 := by
  intro s form h
  unfold readLiteral at h
  split at h
  · split at h
    · rename_i hpayload
      cases h
      constructor
      · apply Written.literal
        intro c hc
        exact isPayload_iff.mp (List.all_eq_true.mp hpayload c hc)
      · rfl
    · cases h
  · cases h

theorem reads_first : Reads readFirst 4 := by
  intro s form h
  unfold readFirst at h
  split at h
  · rcases Option.bind_eq_some_iff.mp h with ⟨d, hd, hrest⟩
    rcases Option.bind_eq_some_iff.mp hrest with ⟨x, hx, hform⟩
    rcases letter?_eq_some_iff.mp hx with ⟨hletter, rfl⟩
    have hposition := position?_eq_some_iff.mp hd
    cases hform
    constructor
    · exact .first hletter hposition
    · simp [rowOf, letter_ne hletter, hposition.ne, hposition.isDigit]
  · cases h

theorem reads_last : Reads readLast 5 := by
  intro s form h
  unfold readLast at h
  split at h
  · rcases Option.bind_eq_some_iff.mp h with ⟨x, hx, hrest⟩
    rcases Option.bind_eq_some_iff.mp hrest with ⟨d, hd, hform⟩
    rcases letter?_eq_some_iff.mp hx with ⟨hletter, rfl⟩
    have hposition := position?_eq_some_iff.mp hd
    cases hform
    constructor
    · exact .last hletter hposition
    · simp [rowOf, letter_ne hletter, hposition.ne, not_isDigit_of_isAlpha hletter]
  · cases h

theorem reads_between : Reads readBetween 6 := by
  intro s form h
  unfold readBetween at h
  split at h
  · rcases Option.bind_eq_some_iff.mp h with ⟨d, hd, hrest⟩
    rcases Option.bind_eq_some_iff.mp hrest with ⟨x, hx, hrest⟩
    rcases Option.bind_eq_some_iff.mp hrest with ⟨e, he, hform⟩
    rcases letter?_eq_some_iff.mp hx with ⟨hletter, rfl⟩
    have hposition := position?_eq_some_iff.mp hd
    have hposition' := position?_eq_some_iff.mp he
    cases hform
    constructor
    · exact .between hletter hposition hposition'
    · simp [rowOf, hposition.ne, hposition'.ne, hposition.isDigit]
  · cases h

theorem reads_betweenComma : Reads readBetweenComma 7 := by
  intro s form h
  unfold readBetweenComma at h
  split at h
  · rcases Option.bind_eq_some_iff.mp h with ⟨x, hx, hrest⟩
    rcases Option.bind_eq_some_iff.mp hrest with ⟨d, hd, hrest⟩
    rcases Option.bind_eq_some_iff.mp hrest with ⟨e, he, hform⟩
    rcases letter?_eq_some_iff.mp hx with ⟨hletter, rfl⟩
    have hposition := position?_eq_some_iff.mp hd
    have hposition' := position?_eq_some_iff.mp he
    cases hform
    constructor
    · exact .betweenComma hletter hposition hposition'
    · simp [rowOf, letter_ne hletter, hposition'.ne]
  · cases h

theorem reads_fromComma : Reads readFromComma 8 := by
  intro s form h
  unfold readFromComma at h
  split at h
  · rcases Option.bind_eq_some_iff.mp h with ⟨x, hx, hrest⟩
    rcases Option.bind_eq_some_iff.mp hrest with ⟨d, hd, hform⟩
    rcases letter?_eq_some_iff.mp hx with ⟨hletter, rfl⟩
    have hposition := position?_eq_some_iff.mp hd
    cases hform
    constructor
    · exact .fromComma hletter hposition
    · simp [rowOf, letter_ne hletter, hposition.ne, not_isDigit_of_isAlpha hletter]
  · cases h

theorem reads_firstComma : Reads readFirstComma 9 := by
  intro s form h
  unfold readFirstComma at h
  split at h
  · rcases Option.bind_eq_some_iff.mp h with ⟨x, hx, hrest⟩
    rcases Option.bind_eq_some_iff.mp hrest with ⟨d, hd, hform⟩
    rcases letter?_eq_some_iff.mp hx with ⟨hletter, rfl⟩
    have hposition := position?_eq_some_iff.mp hd
    cases hform
    constructor
    · exact .firstComma hletter hposition
    · simp [rowOf, letter_ne hletter, hposition.ne, not_isDigit_of_isAlpha hletter]
  · cases h

/-!
# All rows

Every written text is read by the row of its form, and by that row alone.
-/

theorem reads_rows {place : Nat} {row : Text -> Option Form} (h : rows[place]? = some row) :
    Reads row place := by
  have hplace : place < 12 := (List.getElem?_eq_some_iff.mp h).choose
  have hcases : place = 0 ∨ place = 1 ∨ place = 2 ∨ place = 3 ∨ place = 4 ∨ place = 5 ∨
      place = 6 ∨ place = 7 ∨ place = 8 ∨ place = 9 ∨ place = 10 ∨ place = 11 := by
    omega
  rcases hcases with rfl | rfl | rfl | rfl | rfl | rfl | rfl | rfl | rfl | rfl | rfl | rfl
  all_goals cases h
  · exact reads_whole
  · exact reads_literal
  · exact reads_sampleRun
  · exact reads_sampleCounted
  · exact reads_first
  · exact reads_last
  · exact reads_between
  · exact reads_betweenComma
  · exact reads_fromComma
  · exact reads_firstComma
  · exact reads_counterRun
  · exact reads_counterCounted

theorem exists_row_of_written {s : Text} {form : Form} (h : Written s form) :
    exists (place : Nat) (row : Text -> Option Form),
      rows[place]? = some row ∧ row s = some form := by
  cases h with
  | whole hx =>
      refine ⟨0, readWhole, rfl, ?_⟩
      simp [readWhole, letter?_eq_some_iff.mpr ⟨hx, rfl⟩]
  | literal hpayload =>
      refine ⟨1, readLiteral, rfl, ?_⟩
      rw [readLiteral, if_pos (List.all_eq_true.mpr fun c hc => isPayload_iff.mpr (hpayload c hc))]
  | sample hx hmeasured =>
      cases hmeasured with
      | run hn =>
          refine ⟨2, readSampleRun, rfl, ?_⟩
          rw [readSampleRun, (readRun_eq_some_iff rfl).mpr ⟨hx, hn, rfl⟩]
          rfl
      | numeral hn hmax =>
          refine ⟨3, readSampleCounted, rfl, ?_⟩
          rw [readSampleCounted, List.cons_append,
            (readCounted_eq_some_iff rfl).mpr ⟨hx, hn, hmax, rfl⟩]
          rfl
  | first hx hd =>
      refine ⟨4, readFirst, rfl, ?_⟩
      simp [readFirst, letter?_eq_some_iff.mpr ⟨hx, rfl⟩, position?_eq_some_iff.mpr hd]
  | last hx hd =>
      refine ⟨5, readLast, rfl, ?_⟩
      simp [readLast, letter?_eq_some_iff.mpr ⟨hx, rfl⟩, position?_eq_some_iff.mpr hd]
  | between hx hd he =>
      refine ⟨6, readBetween, rfl, ?_⟩
      simp [readBetween, letter?_eq_some_iff.mpr ⟨hx, rfl⟩, position?_eq_some_iff.mpr hd,
        position?_eq_some_iff.mpr he]
  | betweenComma hx hd he =>
      refine ⟨7, readBetweenComma, rfl, ?_⟩
      simp [readBetweenComma, letter?_eq_some_iff.mpr ⟨hx, rfl⟩, position?_eq_some_iff.mpr hd,
        position?_eq_some_iff.mpr he]
  | fromComma hx hd =>
      refine ⟨8, readFromComma, rfl, ?_⟩
      simp [readFromComma, letter?_eq_some_iff.mpr ⟨hx, rfl⟩, position?_eq_some_iff.mpr hd]
  | firstComma hx hd =>
      refine ⟨9, readFirstComma, rfl, ?_⟩
      simp [readFirstComma, letter?_eq_some_iff.mpr ⟨hx, rfl⟩, position?_eq_some_iff.mpr hd]
  | counter hx hmeasured =>
      cases hmeasured with
      | run hn =>
          refine ⟨10, readCounterRun, rfl, ?_⟩
          rw [readCounterRun, (readRun_eq_some_iff rfl).mpr ⟨hx, hn, rfl⟩]
          rfl
      | numeral hn hmax =>
          refine ⟨11, readCounterCounted, rfl, ?_⟩
          rw [readCounterCounted, List.cons_append,
            (readCounted_eq_some_iff rfl).mpr ⟨hx, hn, hmax, rfl⟩]
          rfl

theorem rows_agree {place place' : Nat} {row row' : Text -> Option Form} {s : Text}
    {form form' : Form} (h : rows[place]? = some row) (h' : rows[place']? = some row')
    (hread : row s = some form) (hread' : row' s = some form') :
    place = place' ∧ form = form' := by
  have hplace : rowOf s = place := (reads_rows h s form hread).right
  have hplace' : rowOf s = place' := (reads_rows h' s form' hread').right
  have heq : place = place' := hplace.symm.trans hplace'
  subst heq
  rw [h] at h'
  cases h'
  rw [hread] at hread'
  exact ⟨rfl, Option.some.inj hread'⟩

theorem findSome?_eq_some_iff {rows' : List (Text -> Option Form)}
    (hrows : forall row, row ∈ rows' <-> row ∈ rows) {s : Text} {form : Form} :
    rows'.findSome? (· s) = some form <-> Written s form := by
  constructor
  · intro h
    rcases List.exists_of_findSome?_eq_some h with ⟨row, hrow, hread⟩
    rcases List.mem_iff_getElem?.mp ((hrows row).mp hrow) with ⟨place, hplace⟩
    exact (reads_rows hplace s form hread).left
  · intro h
    rcases exists_row_of_written h with ⟨place, row, hplace, hread⟩
    have hsome : (rows'.findSome? (· s)).isSome = true := by
      rw [List.findSome?_isSome_iff]
      exact ⟨row, (hrows row).mpr (List.mem_of_getElem? hplace), by rw [hread]; rfl⟩
    rcases Option.isSome_iff_exists.mp hsome with ⟨form', hform'⟩
    rcases List.exists_of_findSome?_eq_some hform' with ⟨row', hrow', hread'⟩
    rcases List.mem_iff_getElem?.mp ((hrows row').mp hrow') with ⟨place', hplace'⟩
    rw [hform', (rows_agree hplace hplace' hread hread').right]

theorem read?_eq_some_iff {s : Text} {form : Form} :
    read? s = some form <-> Written s form :=
  findSome?_eq_some_iff fun _ => Iff.rfl

theorem read?_eq_none_iff {s : Text} : read? s = none <-> forall form, ¬ Written s form := by
  rw [Option.eq_none_iff_forall_ne_some]
  constructor
  · intro h form hwritten
    exact h form (read?_eq_some_iff.mpr hwritten)
  · intro h form hread
    exact h form (read?_eq_some_iff.mp hread)

theorem findSome?_eq_read? {rows' : List (Text -> Option Form)} (hrows : rows'.Perm rows)
    (s : Text) : rows'.findSome? (· s) = read? s := by
  apply Option.ext
  intro form
  rw [findSome?_eq_some_iff fun row => hrows.mem_iff, read?_eq_some_iff]

/-!
# Characters of written texts

A written text has no line feed, no bracket and no colon in it.
-/

theorem Written.isAlphanum_or_mem {text : Text} {form : Form} (h : Written text form) :
    forall c, c ∈ text -> c.isAlphanum = true ∨ c ∈ ['_', '=', '+', ','] := by
  cases h with
  | whole hx =>
      simp [isAlphanum_of_isAlpha hx]
  | literal hpayload =>
      intro c hc
      cases hc with
      | head =>
          exact Or.inr (by decide)
      | tail _ hc =>
          rcases hpayload c hc with halphanum | hscore
          · exact Or.inl halphanum
          · exact Or.inr (by simp [hscore])
  | sample hx hmeasured | counter hx hmeasured =>
      intro c hc
      rcases List.mem_append.mp hc with hs | hmark
      · exact Or.inl (hmeasured.isAlphanum hx hs)
      · have hplus : c = '+' := by simpa using hmark
        exact Or.inr (by simp [hplus])
  | first hx hd | firstComma hx hd | last hx hd | fromComma hx hd =>
      simp [isAlphanum_of_isAlpha hx, isAlphanum_of_isDigit hd.isDigit]
  | between hx hd he | betweenComma hx hd he =>
      simp [isAlphanum_of_isAlpha hx, isAlphanum_of_isDigit hd.isDigit,
        isAlphanum_of_isDigit he.isDigit]

theorem Written.feed_not_mem {text : Text} {form : Form} (h : Written text form) :
    '\n' ∉ text :=
  fun hfeed => absurd (h.isAlphanum_or_mem '\n' hfeed) (by decide)

theorem Written.bracket_not_mem {text : Text} {form : Form} (h : Written text form) :
    '[' ∉ text :=
  fun hbracket => absurd (h.isAlphanum_or_mem '[' hbracket) (by decide)

theorem Written.colon_not_mem {text : Text} {form : Form} (h : Written text form) :
    ':' ∉ text :=
  fun hcolon => absurd (h.isAlphanum_or_mem ':' hcolon) (by decide)

end Form
end Moniker
