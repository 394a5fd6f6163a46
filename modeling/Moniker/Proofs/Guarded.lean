import Moniker.Proofs.Lifetime
import Moniker.Proofs.Template.Compilation
import Moniker.Proofs.Template.Misfit
import Moniker.Random.Stream

/-!
# Guarded steps

Here the steps of the segments are made once more, with operations that only answer
within the range of machine numbers: no count is larger than 128 bits hold, no place
larger than 64 bits hold, no difference is negative, no divisor is zero, and no place
lies outside its text.  In every state that a segment can reach its guarded step
answers, and answers the same as the step itself.
-/

namespace Moniker

variable {ρ : Type} [Chance ρ]

/-!
# Guarded operations
-/

/-- Why a guarded operation has no answer. -/
inductive Breach where
  | overflow
  | underflow
  | zeroDivisor
  | outside
  | emptyRange
  | truncation
  deriving DecidableEq

namespace Guarded

@[simp] theorem ok_bind {α β : Type} (a : α) (f : α -> Except Breach β) :
    (Except.ok a >>= f) = f a := rfl

def count (n : Nat) : Except Breach Nat :=
  if n ≤ Capacity.max then .ok n else .error .overflow

def word (n : Nat) : Except Breach Nat :=
  if n ≤ Decimal.maxWord then .ok n else .error .truncation

def difference (a b : Nat) : Except Breach Nat :=
  if b ≤ a then .ok (a - b) else .error .underflow

def quotient (a b : Nat) : Except Breach Nat :=
  if b = 0 then .error .zeroDivisor else .ok (a / b)

def remainder (a b : Nat) : Except Breach Nat :=
  if b = 0 then .error .zeroDivisor else .ok (a % b)

def charAt (s : Text) (i : Nat) : Except Breach Char :=
  if h : i < s.length then .ok s[i] else .error .outside

def slice (start stop : Nat) (s : Text) : Except Breach Text := do
  let length ← difference stop start
  if stop ≤ s.length then .ok ((s.drop start).take length) else .error .outside

def below (n : Nat) (stream : ρ) : Except Breach (Nat × ρ) :=
  if h : 0 < n then
    .ok ((Chance.below n h stream).1.val, (Chance.below n h stream).2)
  else
    .error .emptyRange

theorem count_of_le {n : Nat} (h : n ≤ Capacity.max) : count n = .ok n :=
  if_pos h

theorem word_of_le {n : Nat} (h : n ≤ Decimal.maxWord) : word n = .ok n :=
  if_pos h

theorem difference_of_le {a b : Nat} (h : b ≤ a) : difference a b = .ok (a - b) :=
  if_pos h

theorem quotient_of_pos (a : Nat) {b : Nat} (h : 0 < b) : quotient a b = .ok (a / b) :=
  if_neg (Nat.ne_of_gt h)

theorem remainder_of_pos (a : Nat) {b : Nat} (h : 0 < b) : remainder a b = .ok (a % b) :=
  if_neg (Nat.ne_of_gt h)

theorem charAt_of_lt {s : Text} {i : Nat} (h : i < s.length) : charAt s i = .ok s[i] :=
  dif_pos h

theorem slice_of_le {start stop : Nat} {s : Text} (hstart : start ≤ stop)
    (hstop : stop ≤ s.length) : slice start stop s = .ok (Excerpt.slice start stop s) := by
  rw [slice, difference_of_le hstart, ok_bind, if_pos hstop]
  rfl

theorem below_of_pos {n : Nat} (h : 0 < n) (stream : ρ) :
    below n stream = .ok ((Chance.below n h stream).1.val, (Chance.below n h stream).2) :=
  dif_pos h

end Guarded

/-!
# Counters

The numeral is written over a row of zeros, from the right, and only as long as
something is left of the number.
-/

namespace Counter

def guardedNumeral (zero : Char) (digits : Text) : Nat -> Nat -> Text -> Except Breach Text
  | 0, _, written => .ok written
  | width + 1, n, written =>
      if n = 0 then
        .ok (List.replicate (width + 1) zero ++ written)
      else do
        let place ← Guarded.word (← Guarded.remainder n digits.length)
        let digit ← Guarded.charAt digits place
        let rest ← Guarded.quotient n digits.length
        guardedNumeral zero digits width rest (digit :: written)

def guardedSuccessor (c : Counter) : Except Breach Nat :=
  match c.alternatives? with
  | some modulus => do
      let next ← Guarded.count (c.count + 1)
      Guarded.remainder next modulus
  | none => .ok (min (c.count + 1) Capacity.max)

def guardedNext (c : Counter) : Except Breach (Text × Counter) :=
  match c.digits with
  | [] => .ok ([], c)
  | zero :: _ => do
      let numeral ← guardedNumeral zero c.digits c.width c.count []
      let count ← c.guardedSuccessor
      return (numeral, { c with count := count, live := c.live && count != 0 })

structure InRange (c : Counter) : Prop where
  length_le : c.digits.length ≤ Decimal.maxWord
  count_lt : c.digits ≠ [] -> forall modulus, c.alternatives? = some modulus -> c.count < modulus

theorem numeralOnto_zero (zero : Char) (rest : Text) (width : Nat) (written : Text) :
    numeralOnto zero (zero :: rest) width 0 written = List.replicate width zero ++ written := by
  induction width generalizing written with
  | zero =>
      rfl
  | succ width ih =>
      have hdigit : (zero :: rest).getD (0 % (zero :: rest).length) zero = zero := by
        rw [Nat.zero_mod, List.getD_cons_zero]
      rw [numeralOnto, Nat.zero_div, hdigit, ih, List.replicate_succ', List.append_assoc]
      rfl

theorem guardedNumeral_eq (zero : Char) {rest : Text}
    (h : (zero :: rest).length ≤ Decimal.maxWord) (width n : Nat) (written : Text) :
    guardedNumeral zero (zero :: rest) width n written =
      .ok (numeralOnto zero (zero :: rest) width n written) := by
  induction width generalizing n written with
  | zero =>
      rfl
  | succ width ih =>
      rw [guardedNumeral]
      -- With nothing left of the number the plain step goes on and writes zeros.
      by_cases hn : n = 0
      · rw [if_pos hn, hn, numeralOnto_zero]
      · have hpos : 0 < (zero :: rest).length := Nat.succ_pos _
        have hplace : n % (zero :: rest).length < (zero :: rest).length := Nat.mod_lt n hpos
        have hdigit : (zero :: rest).getD (n % (zero :: rest).length) zero =
            (zero :: rest)[n % (zero :: rest).length] := by
          rw [List.getD_eq_getElem?_getD, List.getElem?_eq_getElem hplace, Option.getD_some]
        rw [if_neg hn, Guarded.remainder_of_pos n hpos, Guarded.ok_bind,
          Guarded.word_of_le (Nat.le_trans (Nat.le_of_lt hplace) h), Guarded.ok_bind,
          Guarded.charAt_of_lt hplace, Guarded.ok_bind, Guarded.quotient_of_pos n hpos,
          Guarded.ok_bind, ih, numeralOnto, hdigit]

theorem guardedSuccessor_eq {c : Counter} (h : c.InRange) (hdigits : c.digits ≠ []) :
    c.guardedSuccessor = .ok c.successor := by
  cases hn : c.alternatives? with
  | none =>
      simp only [guardedSuccessor, successor, hn]
  | some modulus =>
      have hlt : c.count < modulus := h.count_lt hdigits modulus hn
      have hle : c.count + 1 ≤ Capacity.max :=
        Nat.le_trans hlt (Capacity.le_max_of_power? hn)
      simp only [guardedSuccessor, successor, hn]
      rw [Guarded.count_of_le hle, Guarded.ok_bind,
        Guarded.remainder_of_pos _ (Nat.zero_lt_of_lt hlt)]

theorem guardedNext_eq {c : Counter} (h : c.InRange) : c.guardedNext = .ok c.next := by
  cases hdigits : c.digits with
  | nil =>
      simp only [guardedNext, next, hdigits]
  | cons zero rest =>
      have hlength : (zero :: rest).length ≤ Decimal.maxWord := hdigits ▸ h.length_le
      have hsuccessor := guardedSuccessor_eq h (hdigits ▸ List.cons_ne_nil zero rest)
      simp only [guardedNext, next, hdigits]
      rw [guardedNumeral_eq zero hlength, Guarded.ok_bind, hsuccessor]
      rfl

theorem InRange.next {c : Counter} (h : c.InRange) : c.next.2.InRange := by
  by_cases hdigits : c.digits = []
  · have hnext : c.next.2 = c := by
      simp only [Counter.next, hdigits]
    rw [hnext]
    exact h
  · rw [next_snd hdigits]
    refine ⟨h.length_le, fun _ modulus hn => ?_⟩
    have hn' : c.alternatives? = some modulus := hn
    show c.successor < modulus
    simp only [successor, hn']
    exact Nat.mod_lt _ (alternatives_pos hdigits hn')

theorem inRange_of_start {digits : Text} (h : digits.length ≤ Decimal.maxWord) (width : Nat) :
    InRange { digits := digits, width := width } where
  length_le := h
  count_lt hdigits _ hn := alternatives_pos hdigits hn

end Counter

/-!
# Samples
-/

namespace Sample

def guardedDraw (alphabet : Text) : Nat -> ρ -> Except Breach (Text × ρ)
  | 0, stream => .ok ([], stream)
  | n + 1, stream => do
      let (place, stream) ← Guarded.below alphabet.length stream
      let letter ← Guarded.charAt alphabet place
      let (rest, stream) ← guardedDraw alphabet n stream
      return (letter :: rest, stream)

def guardedNext (s : Sample ρ) : Except Breach (Text × Sample ρ) :=
  if s.alphabet.isEmpty then
    .ok ([], s)
  else do
    let (value, stream) ← guardedDraw s.alphabet s.length s.stream
    return (value, { s with stream := stream, given := min (s.given + 1) Capacity.max })

def guardedLive (s : Sample ρ) : Except Breach Bool := do
  let given ← Guarded.count s.given
  let limit ← Guarded.count s.limit
  return given < limit

theorem guardedDraw_eq {alphabet : Text} (h : 0 < alphabet.length) (n : Nat) (stream : ρ) :
    guardedDraw alphabet n stream = .ok (draw alphabet h n stream) := by
  induction n generalizing stream with
  | zero =>
      rfl
  | succ n ih =>
      rw [guardedDraw, Guarded.below_of_pos h, Guarded.ok_bind]
      dsimp only
      rw [Guarded.charAt_of_lt (Chance.below alphabet.length h stream).1.isLt, Guarded.ok_bind, ih]
      rfl

theorem guardedNext_eq (s : Sample ρ) : s.guardedNext = .ok s.next := by
  by_cases h : 0 < s.alphabet.length
  · have hempty : ¬ s.alphabet.isEmpty = true := by
      rw [List.isEmpty_iff]
      exact List.length_pos_iff.mp h
    rw [guardedNext, if_neg hempty, guardedDraw_eq h, next, dif_pos h]
    rfl
  · have hempty : s.alphabet.isEmpty = true := by
      rw [List.isEmpty_iff]
      exact List.length_eq_zero_iff.mp (Nat.eq_zero_of_not_pos h)
    rw [guardedNext, if_pos hempty, next, dif_neg h]

theorem guardedLive_eq {ρ : Type} {s : Sample ρ} (h : s.given ≤ Capacity.max) :
    s.guardedLive = .ok s.live := by
  have hlimit : s.limit ≤ Capacity.max := by
    rw [limit_eq]
    exact Nat.min_le_right _ _
  rw [guardedLive, Guarded.count_of_le h, Guarded.ok_bind, Guarded.count_of_le hlimit]
  rfl

theorem given_le_next {s : Sample ρ} (h : s.given ≤ Capacity.max) :
    s.next.2.given ≤ Capacity.max := by
  unfold next
  split
  · exact Nat.min_le_right _ _
  · exact h

end Sample

/-!
# Excerpts

The positions of a span are worked out first and looked at afterwards.
-/

namespace Excerpt

def guardedPositions (x : Excerpt) : Except Breach (Except Failure (Nat × Nat)) :=
  match x.span with
  | .range start stop => .ok (.ok (start, stop))
  | .last count =>
      if count ≤ x.data.length then do
        let start ← Guarded.difference x.data.length count
        return .ok (start, x.data.length)
      else
        .ok (.error (.outOfBounds x.fragment x.data 0 count))
  | .toEnd start => .ok (.ok (start, x.data.length))

def guardedNext (x : Excerpt) : Except Breach (Except Failure Text × Excerpt) := do
  match ← x.guardedPositions with
  | .error failure => return (.error failure, x)
  | .ok (start, stop) =>
      if start ≤ stop ∧ stop ≤ x.data.length then do
        let piece ← Guarded.slice start stop x.data
        return (.ok piece, { x with live := false })
      else
        return (.error (.outOfBounds x.fragment x.data start stop), x)

theorem guardedNext_of_positions {x : Excerpt} {start stop : Nat}
    (hguarded : x.guardedPositions = .ok (.ok (start, stop)))
    (hpositions : x.span.positions x.data.length =
      if start ≤ stop ∧ stop ≤ x.data.length then .ok (start, stop) else .error (start, stop)) :
    x.guardedNext = .ok x.next := by
  rw [guardedNext, hguarded, Guarded.ok_bind]
  by_cases h : start ≤ stop ∧ stop ≤ x.data.length
  · rw [if_pos h] at hpositions
    simp only [if_pos h, Guarded.slice_of_le h.left h.right, Guarded.ok_bind]
    simp only [next, value, hpositions]
    rfl
  · rw [if_neg h] at hpositions
    simp only [if_neg h]
    simp only [next, value, hpositions]
    rfl

theorem guardedNext_eq (x : Excerpt) : x.guardedNext = .ok x.next := by
  cases hspan : x.span with
  | range start stop =>
      apply guardedNext_of_positions
      · rw [guardedPositions, hspan]
      · rw [hspan, Span.positions]
  | toEnd start =>
      apply guardedNext_of_positions
      · rw [guardedPositions, hspan]
      · simp only [hspan, Span.positions, Nat.le_refl, and_true]
  | last count =>
      by_cases hcount : count ≤ x.data.length
      · apply guardedNext_of_positions
        · simp only [guardedPositions, hspan, if_pos hcount, Guarded.difference_of_le hcount]
          rfl
        · rw [hspan, Span.positions, if_pos hcount,
            if_pos ⟨Nat.sub_le x.data.length count, Nat.le_refl _⟩]
      · have hguarded : x.guardedPositions =
            .ok (.error (.outOfBounds x.fragment x.data 0 count)) := by
          simp only [guardedPositions, hspan, if_neg hcount]
        rw [guardedNext, hguarded, Guarded.ok_bind]
        simp only [next, value, hspan, Span.positions, if_neg hcount]
        rfl

end Excerpt

/-!
# Sources
-/

namespace Source

def guardedNext : Source ρ -> Except Breach (Except Failure Text × Source ρ)
  | .literal f => .ok (literal f).next
  | .whole f => .ok (whole f).next
  | .sample s => do
      let (value, s) ← s.guardedNext
      return (.ok value, sample s)
  | .part x => do
      let (answer, x) ← x.guardedNext
      return (answer, part x)
  | .counter c => do
      let (value, c) ← c.guardedNext
      return (.ok value, counter c)

def guardedLive : Source ρ -> Except Breach Bool
  | .sample s => s.guardedLive
  | source => .ok source.live

def InRange : Source ρ -> Prop
  | .literal _ | .whole _ | .part _ => True
  | .sample s => s.given ≤ Capacity.max
  | .counter c => c.InRange

/-- All guarded operations answer, and answer what the source gives. -/
structure Answers (source : Source ρ) : Prop where
  next_eq : source.guardedNext = .ok source.next
  live_eq : source.guardedLive = .ok source.live

theorem InRange.next {source : Source ρ} (h : source.InRange) : source.next.2.InRange := by
  cases source with
  | literal f | whole f | part x =>
      exact trivial
  | sample s =>
      exact Sample.given_le_next h
  | counter c =>
      exact Counter.InRange.next h

theorem InRange.answers {source : Source ρ} (h : source.InRange) : source.Answers := by
  cases source with
  | literal f | whole f =>
      exact ⟨rfl, rfl⟩
  | part x =>
      refine ⟨?_, rfl⟩
      rw [guardedNext, x.guardedNext_eq]
      rfl
  | sample s =>
      refine ⟨?_, Sample.guardedLive_eq h⟩
      rw [guardedNext, s.guardedNext_eq]
      rfl
  | counter c =>
      refine ⟨?_, rfl⟩
      rw [guardedNext, Counter.guardedNext_eq h]
      rfl

theorem inRange_of_makes {ρ : Type} {text data : Text} {form : Form} {source : Source ρ}
    (h : Template.Makes text data form source) (hdata : data.length ≤ Decimal.maxWord) :
    source.InRange := by
  cases h with
  | literal | whole | part =>
      exact trivial
  | sample =>
      exact Nat.zero_le _
  | counter =>
      exact Counter.inRange_of_start hdata _

end Source

/-!
# Positions

Positions are written from one and kept from zero.  Only the rows with a first
position take one away.
-/

namespace Form

def startingAt (c : Char) (make : Nat -> Option Form) : Except Breach (Option Form) :=
  match position? c with
  | none => .ok none
  | some d => do
      let start ← Guarded.difference d 1
      return make start

def guardedBetween : Text -> Except Breach (Option Form)
  | [d, x, e] =>
      startingAt d fun start => do
        let x ← letter? x
        return data x (.part (.range start (← position? e)))
  | _ => .ok none

def guardedBetweenComma : Text -> Except Breach (Option Form)
  | [x, d, ',', e] =>
      startingAt d fun start => do
        let x ← letter? x
        return data x (.part (.range start (← position? e)))
  | _ => .ok none

def guardedFromComma : Text -> Except Breach (Option Form)
  | [x, d, ','] =>
      startingAt d fun start => do
        return data (← letter? x) (.part (.toEnd start))
  | _ => .ok none

/-- A row that does not reckon. -/
def unguarded (row : Text -> Option Form) (s : Text) : Except Breach (Option Form) :=
  .ok (row s)

def guardedRows : List (Text -> Except Breach (Option Form)) :=
  [unguarded readWhole, unguarded readLiteral, unguarded readSampleRun,
    unguarded readSampleCounted, unguarded readFirst, unguarded readLast,
    guardedBetween, guardedBetweenComma, guardedFromComma, unguarded readFirstComma,
    unguarded readCounterRun, unguarded readCounterCounted]

def guardedFirst : List (Text -> Except Breach (Option Form)) -> Text ->
    Except Breach (Option Form)
  | [], _ => .ok none
  | row :: rows, s => do
      match ← row s with
      | some form => return some form
      | none => guardedFirst rows s

def guardedRead? (s : Text) : Except Breach (Option Form) :=
  guardedFirst guardedRows s

theorem startingAt_eq (c : Char) (make : Nat -> Option Form) :
    startingAt c make = .ok ((position? c).bind fun d => make (d - 1)) := by
  unfold startingAt
  cases hd : position? c with
  | none =>
      rfl
  | some d =>
      have hpos : 1 ≤ d := (position?_eq_some_iff.mp hd).left
      simp only [Guarded.difference_of_le hpos]
      rfl

theorem guardedBetween_eq (s : Text) : guardedBetween s = .ok (readBetween s) := by
  unfold guardedBetween
  split
  · rw [startingAt_eq]
    rfl
  · rename_i hshape
    unfold readBetween
    split
    · exact absurd rfl (hshape _ _ _)
    · rfl

theorem guardedBetweenComma_eq (s : Text) :
    guardedBetweenComma s = .ok (readBetweenComma s) := by
  unfold guardedBetweenComma
  split
  · rw [startingAt_eq]
    exact congrArg Except.ok (Option.bind_comm _ _)
  · rename_i hshape
    unfold readBetweenComma
    split
    · exact absurd rfl (hshape _ _ _)
    · rfl

theorem guardedFromComma_eq (s : Text) : guardedFromComma s = .ok (readFromComma s) := by
  unfold guardedFromComma
  split
  · rw [startingAt_eq]
    exact congrArg Except.ok (Option.bind_comm _ _)
  · rename_i hshape
    unfold readFromComma
    split
    · exact absurd rfl (hshape _ _)
    · rfl

theorem guardedFirst_eq {guarded : List (Text -> Except Breach (Option Form))}
    {rows : List (Text -> Option Form)}
    (h : List.Forall₂ (fun guard row => forall s, guard s = .ok (row s)) guarded rows)
    (s : Text) : guardedFirst guarded s = .ok (rows.findSome? (· s)) := by
  induction h with
  | nil =>
      rfl
  | @cons guard row guarded rows hrow _ ih =>
      rw [guardedFirst, hrow s, Guarded.ok_bind, List.findSome?_cons]
      cases row s with
      | none =>
          exact ih
      | some form =>
          rfl

theorem guardedRead?_eq (s : Text) : guardedRead? s = .ok (read? s) := by
  have hplain : forall (row : Text -> Option Form) (s : Text), unguarded row s = .ok (row s) :=
    fun _ _ => rfl
  apply guardedFirst_eq
  exact .cons (hplain _) <| .cons (hplain _) <| .cons (hplain _) <| .cons (hplain _) <|
    .cons (hplain _) <| .cons (hplain _) <| .cons guardedBetween_eq <|
    .cons guardedBetweenComma_eq <| .cons guardedFromComma_eq <| .cons (hplain _) <|
    .cons (hplain _) <| .cons (hplain _) .nil

end Form

/-!
# All steps
-/

namespace Template

theorem inRange_of_compile {master : ρ} {source : Text} {bindings : Bindings}
    {t : Template ρ} (h : compile master source bindings = .ok t)
    (hdata : forall key data, bindings.get? key = some data ->
      data.length ≤ Decimal.maxWord) :
    forall s, s ∈ t.segments -> s.source.InRange := by
  intro s hs
  rcases List.mem_iff_getElem.mp hs with ⟨i, hi, rfl⟩
  rcases List.forall₂_iff_get.mp (realizes_of_compile h).right with ⟨hlength, hrealizes⟩
  rcases hrealizes i (hlength.symm ▸ hi) hi with
    ⟨⟨text, resolver, form⟩, data, _, hsupplies, _, _, hmakes⟩
  apply Source.inRange_of_makes hmakes
  cases hsupplies with
  | literal _ =>
      exact Nat.zero_le _
  | data hget _ =>
      exact hdata _ _ hget

/-- Whatever the random generator, no step of a segment leaves the range of machine
numbers, however many were made before, whether the segment is used alone or in a
compiled template; and no row that reads a fragment does. -/
theorem steps_in_range (ρ : Type) [Chance ρ] :
    (forall (text data : Text) (stream : ρ) (form : Form),
      data.length ≤ Decimal.maxWord ->
        forall k, (after Source.next k (Source.ofForm text data stream form)).Answers) ∧
      (forall (master : ρ) source bindings t, compile master source bindings = .ok t ->
        (forall key data, bindings.get? key = some data -> data.length ≤ Decimal.maxWord) ->
          forall k s, s ∈ (after next k t).segments -> s.source.Answers) ∧
      forall s, Form.guardedRead? s = .ok (Form.read? s) := by
  refine ⟨?_, ?_, Form.guardedRead?_eq⟩
  · intro text data stream form hdata k
    have hstart : (Source.ofForm text data stream form).InRange :=
      Source.inRange_of_makes (makes_ofForm text data stream form) hdata
    exact (after_preserves (fun _ => Source.InRange.next) k hstart).answers
  · intro master source bindings t h hdata k s hs
    have hstart := inRange_of_compile h hdata
    exact (forall_mem_after (P := fun s => s.source.InRange) (fun _ hr => hr.next) hstart k s
      hs).answers

/-- A counter without digits and width, and one in a template, before and behind its
last numeral. -/
theorem steps_in_range_degenerate :
    ([] : Text).length ≤ Decimal.maxWord ∧
      (after Source.next 3
        (Source.ofForm [] [] (Stream.ofSeed 3) (.data 'n' (.counter 0)))).Answers ∧
      exists t, compile (Stream.ofSeed 3) "n++".toList
          { entries := [('n', "01".toList)] } = .ok t ∧
        forall k s, s ∈ (after next k t).segments -> s.source.Answers := by
  generalize Stream.ofSeed 3 = master
  have hcompile := compile_eq_plan master "n++".toList { entries := [('n', "01".toList)] }
  have hdata : forall key data,
      Bindings.get? { entries := [('n', "01".toList)] } key = some data ->
        data.length ≤ Decimal.maxWord := by
    intro key data h
    rw [Bindings.get?, List.lookup_cons] at h
    split at h
    · cases h
      decide
    · cases h
  rcases steps_in_range Stream with ⟨halone, hcompiled, _⟩
  exact ⟨by decide, halone [] [] master (.data 'n' (.counter 0)) (by decide) 3, _,
    hcompile, hcompiled _ _ _ _ hcompile hdata⟩

end Template
end Moniker
