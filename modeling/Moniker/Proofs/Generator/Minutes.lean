import Moniker.Proofs.Filter.Calls
import Moniker.Proofs.Generator.Collection
import Mathlib.Data.List.Nodup

/-!
# The minutes of a run

Filters may keep a state and may fail, so what a run keeps is no function of its
candidates.  The minutes of a run note for every candidate whether it was put to
the filters, and what they answered.  They agree with the log of all calls, and
the identifiers of the run, its attempts and its end can be read off them.
-/

namespace Moniker

variable {ρ σ : Type} [Chance ρ]

/-!
# Notes
-/

/-- What happened to a candidate: the answer of the filters, if they were asked,
and their calls. -/
structure Note where
  candidate : Text
  answer : Option (Except Failure Bool)
  calls : List Call

namespace Note

def accepted (note : Note) : Bool :=
  match note.answer with
  | some (.ok true) => true
  | _ => false

def outcome (note : Note) : Except Failure Unit :=
  match note.answer with
  | some (.error failure) => .error failure
  | _ => .ok ()

def kept (notes : List Note) : List Text :=
  (notes.filter accepted).map candidate

/-- A candidate that was already kept is not put to the filters with the given
names.  Any other is, once. -/
inductive Proper (ids : List Text) (kept : List Text) : Note -> Prop where
  | known {candidate : Text} :
      candidate ∈ kept ->
        Proper ids kept { candidate := candidate, answer := none, calls := [] }
  | heard {candidate : Text} {answer : Except Failure Bool} {calls : List Call} :
      candidate ∉ kept -> Chain.Asks candidate ids answer calls ->
        Proper ids kept { candidate := candidate, answer := some answer, calls := calls }

theorem kept_concat (notes : List Note) (note : Note) :
    kept (notes ++ [note]) =
      if note.accepted then kept notes ++ [note.candidate] else kept notes := by
  cases haccepted : note.accepted with
  | true =>
      simp [kept, haccepted]
  | false =>
      simp [kept, haccepted]

theorem kept_sublist (notes : List Note) :
    (kept notes).Sublist (notes.map candidate) :=
  List.filter_sublist.map candidate

theorem Proper.not_mem_of_accepted {ids kept : List Text} {note : Note} (h : Proper ids kept note)
    (haccepted : note.accepted = true) : note.candidate ∉ kept := by
  cases h with
  | known hmem =>
      cases haccepted
  | heard hnew hasks =>
      exact hnew

theorem Proper.nodup_kept_concat {ids : List Text} {notes : List Note} {note : Note}
    (h : Proper ids (kept notes) note) (hnotes : (kept notes).Nodup) :
    (kept (notes ++ [note])).Nodup := by
  rw [kept_concat]
  split
  · rename_i haccepted
    rw [← List.concat_eq_append]
    exact hnotes.concat (h.not_mem_of_accepted haccepted)
  · exact hnotes

theorem Proper.ok_of_mem {ids kept : List Text} {note : Note} (h : Proper ids kept note)
    (houtcome : note.outcome = .ok ()) {call : Call} (hcall : call ∈ note.calls) :
    exists accepted, call.answer = .ok accepted := by
  cases h with
  | known hmem =>
      cases hcall
  | heard hnew hasks =>
      rename_i candidate answer calls
      cases answer with
      | ok accepted =>
          exact hasks.ok_of_mem hcall
      | error failure =>
          cases houtcome

theorem Proper.eq_concat_of_error {ids kept : List Text} {note : Note} {failure : Failure}
    (h : Proper ids kept note) (houtcome : note.outcome = .error failure) :
    exists before id,
      note.calls = before ++
          [{ filter := id, candidate := note.candidate, answer := .error failure }] ∧
        forall call, call ∈ before -> call.answer = .ok true := by
  cases h with
  | known hmem =>
      cases houtcome
  | heard hnew hasks =>
      rename_i candidate answer calls
      cases answer with
      | ok accepted =>
          cases accepted <;> cases houtcome
      | error failure' =>
          cases houtcome
          exact hasks.eq_concat_of_error

end Note

/-- The minutes of a run on a template: its candidates in the order in which they
were built, and behind one another the calls of the filters.  No candidate is
built for a template that is spent or a quota that is filled. -/
structure Minutes (ids : List Text) (t : Template ρ) (target : Nat) (log : List Call)
    (notes : List Note) : Prop where
  wanted : forall place note, notes[place]? = some note ->
    (after Template.next place t).live = true ∧
      (Note.kept (notes.take place)).length < target
  built : forall place note, notes[place]? = some note ->
    (after Template.next place t).next.1 = .ok note.candidate
  proper : forall place note, notes[place]? = some note ->
    Note.Proper ids (Note.kept (notes.take place)) note
  log_eq : log = notes.flatMap Note.calls

namespace Minutes

variable {ids : List Text} {t : Template ρ} {target : Nat} {log : List Call}
  {notes : List Note} {note : Note}

theorem nil (ids : List Text) (t : Template ρ) (target : Nat) : Minutes ids t target [] [] where
  wanted place note h := by
    cases h
  built place note h := by
    cases h
  proper place note h := by
    cases h
  log_eq := rfl

theorem eq_of_getElem?_concat {place : Nat} {note' : Note}
    (h : (notes ++ [note])[place]? = some note') :
    place < notes.length ∧ notes[place]? = some note' ∨
      place = notes.length ∧ note' = note := by
  rw [List.getElem?_append] at h
  split at h
  · rename_i hlt
    exact Or.inl ⟨hlt, h⟩
  · rw [List.getElem?_singleton] at h
    split at h
    · rename_i hplace hzero
      exact Or.inr ⟨by omega, (Option.some.inj h).symm⟩
    · cases h

theorem concat (h : Minutes ids t target log notes)
    (hlive : (after Template.next notes.length t).live = true)
    (hquota : (Note.kept notes).length < target)
    (hbuilt : (after Template.next notes.length t).next.1 = .ok note.candidate)
    (hproper : Note.Proper ids (Note.kept notes) note) :
    Minutes ids t target (log ++ note.calls) (notes ++ [note]) where
  wanted place note' hplace := by
    rcases eq_of_getElem?_concat hplace with ⟨hlt, hold⟩ | ⟨rfl, rfl⟩
    · rw [List.take_append_of_le_length (Nat.le_of_lt hlt)]
      exact h.wanted place note' hold
    · rw [List.take_left]
      exact ⟨hlive, hquota⟩
  built place note' hplace := by
    rcases eq_of_getElem?_concat hplace with ⟨hlt, hold⟩ | ⟨rfl, rfl⟩
    · exact h.built place note' hold
    · exact hbuilt
  proper place note' hplace := by
    rcases eq_of_getElem?_concat hplace with ⟨hlt, hold⟩ | ⟨rfl, rfl⟩
    · rw [List.take_append_of_le_length (Nat.le_of_lt hlt)]
      exact h.proper place note' hold
    · rw [List.take_left]
      exact hproper
  log_eq := by
    rw [h.log_eq, List.flatMap_append, List.flatMap_singleton]

theorem proper_of_mem (h : Minutes ids t target log notes) (he : note ∈ notes) :
    exists kept, Note.Proper ids kept note := by
  rcases List.mem_iff_getElem?.mp he with ⟨place, hplace⟩
  exact ⟨_, h.proper place note hplace⟩

theorem map_candidate (h : Minutes ids t target log notes) :
    notes.map Note.candidate = t.candidates notes.length := by
  apply List.ext_getElem
  · simp [Template.candidates]
  · intro place hplace _
    have hlt : place < notes.length := by
      rw [← List.length_map Note.candidate]
      exact hplace
    have hbuilt := h.built place _ (List.getElem?_eq_getElem hlt)
    simp [Template.candidates, Template.candidate, hbuilt, Except.toOption]

theorem length_kept_le (h : Minutes ids t target log notes) :
    (Note.kept notes).length ≤ target := by
  rcases List.eq_nil_or_concat notes with rfl | ⟨before, note, rfl⟩
  · exact Nat.zero_le target
  · rw [List.concat_eq_append] at h ⊢
    have hlast : (before ++ [note])[before.length]? = some note := List.getElem?_concat_length
    have hquota := (h.wanted before.length note hlast).right
    rw [List.take_left] at hquota
    rw [Note.kept_concat]
    split
    · rw [List.length_append, List.length_singleton]
      exact hquota
    · exact Nat.le_of_lt hquota

end Minutes

/-!
# Watched runs

The filters of a run can be watched.  This leaves the run as it is, and its log
is that of its minutes.
-/

namespace Run

def start (t : Template ρ) (state : σ) : Run ρ σ where
  template := t
  state := state

def unwatched (run : Run ρ (σ × List Call)) : Run ρ σ where
  template := run.template
  kept := run.kept
  attempts := run.attempts
  state := run.state.1

theorem finished_unwatched {ρ : Type} (target : Nat) (run : Run ρ (σ × List Call)) :
    run.unwatched.finished target = run.finished target := rfl

theorem judge_unwatched {ρ : Type} (chain : Chain σ) (candidate : Text)
    (run : Run ρ (σ × List Call)) :
    run.unwatched.judge chain candidate =
      ((run.judge chain.watched candidate).1, (run.judge chain.watched candidate).2.unwatched) := by
  rcases chain.accepts_watched candidate run.state.1 run.state.2 with ⟨calls, _, hwatched⟩
  cases hkept : run.kept.contains candidate with
  | true =>
      simp [judge, unwatched, hkept]
  | false =>
      rcases hanswer : chain.accepts candidate run.state.1 with ⟨answer, state⟩
      rw [hanswer] at hwatched
      cases answer with
      | error failure =>
          simp [judge, unwatched, hkept, hwatched, hanswer]
      | ok accepted =>
          cases accepted with
          | true | false =>
              simp [judge, unwatched, hkept, hwatched, hanswer]

theorem attempt_unwatched (chain : Chain σ) (run : Run ρ (σ × List Call)) :
    run.unwatched.attempt chain =
      ((run.attempt chain.watched).1, (run.attempt chain.watched).2.unwatched) := by
  rcases hnext : run.template.next with ⟨candidate, template⟩
  cases candidate with
  | error failure =>
      simp [attempt, unwatched, hnext]
  | ok candidate =>
      have hjudge := judge_unwatched chain candidate
        { run with template := template, attempts := run.attempts + 1 }
      simpa [attempt, unwatched, hnext] using hjudge

theorem toEnd_unwatched (chain : Chain σ) (target left : Nat) (run : Run ρ (σ × List Call)) :
    run.unwatched.toEnd chain target left =
      ((run.toEnd chain.watched target left).1,
        (run.toEnd chain.watched target left).2.unwatched) := by
  induction left generalizing run with
  | zero =>
      rw [toEnd, toEnd, finished_unwatched]
  | succ left ih =>
      have hattempt := attempt_unwatched chain run
      rw [toEnd, toEnd, finished_unwatched]
      split
      · rfl
      · rcases hanswer : run.attempt chain.watched with ⟨answer, run'⟩
        rw [hanswer] at hattempt
        rw [hattempt]
        cases answer with
        | error failure =>
            rfl
        | ok _ =>
            exact ih run'

/-- What a watched run has come to, told by the minutes so far. -/
structure Noted (ids : List Text) (t : Template ρ) (target : Nat) (notes : List Note)
    (run : Run ρ (σ × List Call)) : Prop where
  template_eq : run.template = after Template.next notes.length t
  attempts_eq : run.attempts = notes.length
  kept_eq : run.kept.toList = Note.kept notes
  nodup : (Note.kept notes).Nodup
  minutes : Minutes ids t target run.state.2 notes

namespace Noted

variable {chain : Chain σ} {t : Template ρ} {target : Nat} {notes : List Note}
  {run : Run ρ (σ × List Call)}

theorem of_start (ids : List Text) (t : Template ρ) (target : Nat) (state : σ) :
    Noted ids t target [] (start t (state, [])) where
  template_eq := rfl
  attempts_eq := rfl
  kept_eq := rfl
  nodup := List.nodup_nil
  minutes := Minutes.nil ids t target

end Noted

theorem judge_watched {ρ : Type} (chain : Chain σ) (candidate : Text)
    (run : Run ρ (σ × List Call)) :
    exists note, note.candidate = candidate ∧ Note.Proper chain.ids run.kept.toList note ∧
      (run.judge chain.watched candidate).1 = note.outcome ∧
      (run.judge chain.watched candidate).2.template = run.template ∧
      (run.judge chain.watched candidate).2.attempts = run.attempts ∧
      (run.judge chain.watched candidate).2.kept.toList =
        (if note.accepted then run.kept.toList ++ [note.candidate] else run.kept.toList) ∧
      (run.judge chain.watched candidate).2.state.2 = run.state.2 ++ note.calls := by
  rcases chain.accepts_watched candidate run.state.1 run.state.2 with ⟨calls, hasks, hwatched⟩
  by_cases hmem : candidate ∈ run.kept.toList
  · have hkept : run.kept.contains candidate = true := (run.kept.contains_iff candidate).mpr hmem
    refine ⟨_, rfl, .known hmem, ?_⟩
    simp [judge, hkept, Note.outcome, Note.accepted]
  · have hkept : run.kept.contains candidate = false :=
      Bool.eq_false_iff.mpr fun h => hmem ((run.kept.contains_iff candidate).mp h)
    refine ⟨_, rfl, .heard hmem hasks, ?_⟩
    rcases hanswer : chain.accepts candidate run.state.1 with ⟨answer, state⟩
    rw [hanswer] at hwatched
    cases answer with
    | error failure =>
        simp [judge, hkept, hwatched, Note.outcome, Note.accepted]
    | ok accepted =>
        cases accepted with
        | true | false =>
            simp [judge, hkept, hwatched, Note.outcome, Note.accepted]

theorem attempt_of_next_ok {chain : Chain σ} {run : Run ρ σ} {candidate : Text}
    (h : run.template.next.1 = .ok candidate) :
    run.attempt chain =
      Run.judge chain candidate
        { run with template := run.template.next.2, attempts := run.attempts + 1 } := by
  rcases hnext : run.template.next with ⟨answer, template⟩
  rw [hnext] at h
  cases h
  simp [attempt, hnext]

theorem attempt_of_next_error {chain : Chain σ} {run : Run ρ σ} {failure : Failure}
    (h : run.template.next.1 = .error failure) :
    run.attempt chain =
      (.error failure,
        { run with template := run.template.next.2, attempts := run.attempts + 1 }) := by
  rcases hnext : run.template.next with ⟨answer, template⟩
  rw [hnext] at h
  cases h
  simp [attempt, hnext]

namespace Noted

variable {chain : Chain σ} {t : Template ρ} {target : Nat} {notes : List Note}
  {run : Run ρ (σ × List Call)}

theorem attempt (h : Noted chain.ids t target notes run)
    (hopen : run.finished target = false) {candidate : Text}
    (hnext : run.template.next.1 = .ok candidate) :
    exists note, (run.attempt chain.watched).1 = note.outcome ∧
      Noted chain.ids t target (notes ++ [note]) (run.attempt chain.watched).2 := by
  rcases judge_watched chain candidate
      { run with template := run.template.next.2, attempts := run.attempts + 1 } with
    ⟨note, rfl, hproper, houtcome, htemplate, hattempts, hkept, hlog⟩
  simp only [finished, Bool.or_eq_false_iff, Bool.not_eq_false', decide_eq_false_iff_not,
    Nat.not_le, run.kept.size_eq_length, h.kept_eq, h.template_eq] at hopen
  simp only [h.kept_eq] at hproper hkept
  rw [attempt_of_next_ok hnext]
  refine ⟨note, houtcome, ?_, ?_, ?_, ?_, ?_⟩
  · rw [htemplate, List.length_append, h.template_eq]
    exact (after_succ_eq_next Template.next notes.length t).symm
  · rw [hattempts, List.length_append, h.attempts_eq]
    rfl
  · rw [hkept, Note.kept_concat]
  · exact hproper.nodup_kept_concat h.nodup
  · rw [hlog]
    apply h.minutes.concat hopen.left hopen.right _ hproper
    rw [← h.template_eq, hnext]

end Noted

/-!
# The end of a run

No note fails but the last one, and only if the run fails with it.
-/

def Harmless (notes : List Note) : Prop :=
  forall note, note ∈ notes -> note.outcome = .ok ()

theorem Proceeds.of_succ {chain : Chain σ} {target : Nat} {run : Run ρ σ} {k : Nat}
    (h : Proceeds chain target run (k + 1)) : Proceeds chain target run k :=
  fun i hi => h i (Nat.lt_succ_of_lt hi)

theorem Proceeds.noted {chain : Chain σ} {t : Template ρ} {target : Nat} {state : σ} {k : Nat}
    (h : Proceeds chain.watched target (start t (state, [])) k) :
    exists notes, notes.length = k ∧ Harmless notes ∧
      Noted chain.ids t target notes (after (attempt chain.watched) k (start t (state, []))) := by
  induction k with
  | zero =>
      exact ⟨[], rfl, fun note hnote => absurd hnote List.not_mem_nil,
        Noted.of_start chain.ids t target state⟩
  | succ k ih =>
      rcases ih h.of_succ with ⟨notes, rfl, hharmless, hnoted⟩
      rcases h notes.length (Nat.lt_succ_self _) with ⟨hopen, hok⟩
      rw [after_succ_eq_next]
      cases hnext : (after (attempt chain.watched) notes.length
          (start t (state, []))).template.next.1 with
      | error failure =>
          rw [attempt_of_next_error hnext] at hok
          cases hok
      | ok candidate =>
          rcases hnoted.attempt hopen hnext with ⟨note, houtcome, hnoted'⟩
          rw [hok] at houtcome
          refine ⟨notes ++ [note], List.length_append, ?_, hnoted'⟩
          exact List.forall_mem_append.mpr
            ⟨hharmless, List.forall_mem_singleton.mpr houtcome.symm⟩

theorem Harmless.ok_of_mem {ids : List Text} {notes : List Note} (h : Harmless notes)
    (hproper : forall note, note ∈ notes -> exists kept, Note.Proper ids kept note) {call : Call}
    (hcall : call ∈ notes.flatMap Note.calls) :
    exists accepted, call.answer = .ok accepted := by
  rcases List.mem_flatMap.mp hcall with ⟨note, he, hcalls⟩
  rcases hproper note he with ⟨kept, hkept⟩
  exact hkept.ok_of_mem (h note he) hcalls

theorem eq_last_of_concat {α : Type} {xs before behind : List α} {x y : α}
    (h : xs ++ [y] = before ++ x :: behind) (hx : x ∉ xs) : behind = [] ∧ x = y := by
  rcases List.eq_nil_or_concat behind with rfl | ⟨middle, z, rfl⟩
  · have hlast : [y] = [x] := List.append_inj_right' h rfl
    exact ⟨rfl, (List.head_eq_of_cons_eq hlast).symm⟩
  · rw [List.concat_eq_append, ← List.cons_append, ← List.append_assoc] at h
    have hxs : xs = before ++ x :: middle := List.append_inj_left' h rfl
    rw [hxs] at hx
    exact absurd (List.mem_append_right before List.mem_cons_self) hx

/-- How a watched run ends, told by its minutes. -/
inductive Closes (ids : List Text) (t : Template ρ) (target ceiling : Nat) :
    List Note -> Ending × Run ρ (σ × List Call) -> Prop where
  | finished {notes : List Note} {run : Run ρ (σ × List Call)} :
      Noted ids t target notes run -> Harmless notes -> notes.length ≤ ceiling ->
        Closes ids t target ceiling notes (.finished, run)
  | limit {notes : List Note} {run : Run ρ (σ × List Call)} :
      Noted ids t target notes run -> Harmless notes -> notes.length = ceiling ->
        Closes ids t target ceiling notes (.limit, run)
  | filterFailed {notes : List Note} {note : Note} {failure : Failure}
      {run : Run ρ (σ × List Call)} :
      Noted ids t target (notes ++ [note]) run -> Harmless notes -> notes.length < ceiling ->
        note.outcome = .error failure ->
        Closes ids t target ceiling (notes ++ [note]) (.failed failure, run)
  | templateFailed {notes : List Note} {failure : Failure} {run : Run ρ (σ × List Call)} :
      Noted ids t target notes run -> Harmless notes -> notes.length < ceiling ->
        run.template.next.1 = .error failure ->
        Closes ids t target ceiling notes
          (.failed failure,
            { run with template := run.template.next.2, attempts := run.attempts + 1 })

theorem toEnd_closes (chain : Chain σ) (t : Template ρ) (target ceiling : Nat) (state : σ) :
    exists notes, Closes chain.ids t target ceiling notes
      ((start t (state, [])).toEnd chain.watched target ceiling) := by
  have hends := toEnd_ends chain.watched target ceiling (start t (state, []))
  generalize (start t (state, [])).toEnd chain.watched target ceiling = last at hends ⊢
  cases hends with
  | finished hk hproceeds hfinished =>
      rcases hproceeds.noted with ⟨notes, rfl, hharmless, hnoted⟩
      exact ⟨notes, .finished hnoted hharmless hk⟩
  | limit hproceeds hopen =>
      rcases hproceeds.noted with ⟨notes, hlength, hharmless, hnoted⟩
      exact ⟨notes, .limit hnoted hharmless hlength⟩
  | failed hk hproceeds hopen hfailure =>
      rcases hproceeds.noted with ⟨notes, rfl, hharmless, hnoted⟩
      rw [after_succ_eq_next]
      cases hnext : (after (attempt chain.watched) notes.length
          (start t (state, []))).template.next.1 with
      | error failure =>
          rw [attempt_of_next_error hnext] at hfailure ⊢
          cases hfailure
          exact ⟨notes, .templateFailed hnoted hharmless hk hnext⟩
      | ok candidate =>
          rcases hnoted.attempt hopen hnext with ⟨note, houtcome, hnoted'⟩
          rw [hfailure] at houtcome
          exact ⟨notes ++ [note], .filterFailed hnoted' hharmless hk houtcome.symm⟩

namespace Closes

variable {ids : List Text} {t : Template ρ} {target ceiling : Nat} {notes : List Note}
  {ending : Ending} {run : Run ρ (σ × List Call)}

theorem minutes (h : Closes ids t target ceiling notes (ending, run)) :
    Minutes ids t target run.state.2 notes := by
  cases h with
  | finished hnoted _ _ | limit hnoted _ _ | filterFailed hnoted _ _ _
  | templateFailed hnoted _ _ _ =>
      exact hnoted.minutes

theorem kept_eq (h : Closes ids t target ceiling notes (ending, run)) :
    run.kept.toList = Note.kept notes := by
  cases h with
  | finished hnoted _ _ | limit hnoted _ _ | filterFailed hnoted _ _ _
  | templateFailed hnoted _ _ _ =>
      exact hnoted.kept_eq

theorem template_eq (h : Closes ids t target ceiling notes (ending, run)) :
    run.template = after Template.next notes.length t ∨
      exists failure, ending = .failed failure ∧
        (after Template.next notes.length t).next.1 = .error failure := by
  cases h with
  | finished hnoted _ _ | limit hnoted _ _ | filterFailed hnoted _ _ _ =>
      exact Or.inl hnoted.template_eq
  | templateFailed hnoted _ _ hnext =>
      rw [hnoted.template_eq] at hnext
      exact Or.inr ⟨_, rfl, hnext⟩

theorem of_failed_call (h : Closes ids t target ceiling notes (ending, run))
    {before behind : List Call} {call : Call} {failure : Failure}
    (hlog : run.state.2 = before ++ call :: behind) (hcall : call.answer = .error failure) :
    behind = [] ∧ ending = .failed failure ∧
      run.template = after Template.next notes.length t ∧
      exists earlier note, notes = earlier ++ [note] ∧ note.candidate = call.candidate := by
  have hminutes := h.minutes
  have hproper : forall note, note ∈ notes -> exists kept, Note.Proper ids kept note :=
    fun note he => hminutes.proper_of_mem he
  -- The failing call is none of the calls of a note that does not fail.
  have hfails : forall earlier, Harmless earlier ->
      (forall note, note ∈ earlier -> note ∈ notes) -> call ∉ earlier.flatMap Note.calls := by
    intro earlier hharmless hearlier hmem
    rcases hharmless.ok_of_mem (fun note he => hproper note (hearlier note he)) hmem with
      ⟨accepted, haccepted⟩
    rw [hcall] at haccepted
    cases haccepted
  have hmem : call ∈ notes.flatMap Note.calls := by
    rw [← hminutes.log_eq, hlog]
    exact List.mem_append_right before List.mem_cons_self
  cases h with
  | finished _ hharmless _ | limit _ hharmless _ | templateFailed _ hharmless _ _ =>
      exact absurd hmem (hfails notes hharmless fun note he => he)
  | filterFailed hnoted hharmless hceiling houtcome =>
      rename_i earlier note failure'
      rcases hproper note (List.mem_append_right earlier List.mem_cons_self) with ⟨kept, hkept⟩
      rcases hkept.eq_concat_of_error houtcome with ⟨accepting, id, hcalls, haccepting⟩
      rw [hminutes.log_eq, List.flatMap_append, List.flatMap_singleton, hcalls,
        ← List.append_assoc] at hlog
      have hnew : call ∉ earlier.flatMap Note.calls ++ accepting := by
        intro hin
        rcases List.mem_append.mp hin with hearlier | hthis
        · exact hfails earlier hharmless (fun note he => List.mem_append_left _ he) hearlier
        · rw [haccepting call hthis] at hcall
          cases hcall
      rcases eq_last_of_concat hlog hnew with ⟨rfl, rfl⟩
      cases hcall
      exact ⟨rfl, rfl, hnoted.template_eq, earlier, note, rfl, rfl⟩

end Closes
end Run

/-!
# Reports and their minutes
-/

namespace Generator

def watched (g : Generator ρ σ) : Generator ρ (σ × List Call) where
  template := g.template
  chain := g.chain.watched
  settings := g.settings
  phase := g.phase

def ran (g : Generator ρ σ) (state : σ) : Run.Ending × Run ρ σ :=
  (Run.start g.template state).toEnd g.chain g.settings.target
    g.settings.maxAttempts

theorem generate_eq_ran (g : Generator ρ σ) (state : σ) :
    g.generate state =
      (answer g.settings (g.ran state).2 (g.ran state).1,
        { g with template := (g.ran state).2.template, phase := Phase.ofEnding (g.ran state).1 },
        (g.ran state).2.state) := rfl

theorem report_of_ok {g : Generator ρ σ} {state : σ} {report : Report}
    (h : (g.generate state).1 = .ok report) :
    (g.ran state).1 = .finished ∧
      report = Report.ofIds g.settings.target (g.ran state).2.attempts
        (g.ran state).2.kept.toList := by
  rw [generate_eq_ran] at h
  cases hending : (g.ran state).1 with
  | finished =>
      rw [hending] at h
      cases h
      exact ⟨rfl, rfl⟩
  | limit | failed failure =>
      rw [hending] at h
      cases h

theorem failed_or_limit_of_error (g : Generator ρ σ) (state : σ) {failure : Failure}
    (h : (g.generate state).1 = .error failure) :
    (g.ran state).1 = .failed failure ∨
      (g.ran state).1 = .limit ∧
        failure = .attemptLimit g.settings.maxAttempts (g.ran state).2.kept.size := by
  rw [generate_eq_ran] at h
  cases hending : (g.ran state).1 with
  | finished =>
      rw [hending] at h
      cases h
  | limit =>
      rw [hending] at h
      cases h
      exact Or.inr ⟨rfl, rfl⟩
  | failed failure' =>
      rw [hending] at h
      cases h
      exact Or.inl rfl

theorem ran_eq_unwatched (g : Generator ρ σ) (state : σ) :
    g.ran state =
      ((g.watched.ran (state, [])).1, (g.watched.ran (state, [])).2.unwatched) :=
  Run.toEnd_unwatched g.chain g.settings.target g.settings.maxAttempts
    (Run.start g.template (state, []))

theorem ran_closes (g : Generator ρ σ) (state : σ) :
    exists notes, Run.Closes g.chain.ids g.template g.settings.target g.settings.maxAttempts
      notes (g.watched.ran (state, [])) :=
  Run.toEnd_closes g.chain g.template g.settings.target g.settings.maxAttempts state

theorem generate_watched (g : Generator ρ σ) (state : σ) :
    g.watched.generate (state, []) =
      ((g.generate state).1, (g.generate state).2.1.watched, (g.generate state).2.2,
        (g.watched.ran (state, [])).2.state.2) := by
  have hrun := g.ran_eq_unwatched state
  rw [generate_eq_ran, generate_eq_ran, hrun]
  cases (g.watched.ran (state, [])).1 with
  | finished | limit | failed failure =>
      rfl

/-- The run of a generator has minutes, and a log that agrees with them.  A report
gives the candidates that the filters accepted, and a filter that fails ends the
run at once. -/
theorem generate_minutes (g : Generator ρ σ) (state : σ) :
    exists notes log,
      g.watched.generate (state, []) =
          ((g.generate state).1, (g.generate state).2.1.watched, (g.generate state).2.2, log) ∧
        Minutes g.chain.ids g.template g.settings.target log notes ∧
        ((g.generate state).2.1.template = after Template.next notes.length g.template ∨
          exists failure, (g.generate state).1 = .error failure ∧
            (after Template.next notes.length g.template).next.1 = .error failure) ∧
        (forall report, (g.generate state).1 = .ok report ->
          report.ids = Note.kept notes ∧ report.ids.Nodup ∧
            report.ids.Sublist (notes.map Note.candidate) ∧
            report.attempts = notes.length ∧
            report.ids.length ≤ min g.settings.target report.attempts ∧
            report.attempts ≤ g.settings.maxAttempts) ∧
        forall before call behind failure,
          log = before ++ call :: behind -> call.answer = .error failure ->
            behind = [] ∧ (g.generate state).1 = .error failure ∧
              (g.generate state).2.1.template = after Template.next notes.length g.template ∧
              exists earlier last, notes = earlier ++ [last] ∧
                last.candidate = call.candidate := by
  rcases g.ran_closes state with ⟨notes, hcloses⟩
  have hrun := g.ran_eq_unwatched state
  rcases hwatched : g.watched.ran (state, []) with ⟨ending, run⟩
  rw [hwatched] at hcloses hrun
  have hgenerate := g.generate_eq_ran state
  rw [hrun] at hgenerate
  refine ⟨notes, run.state.2, ?_, hcloses.minutes, ?_, ?_, ?_⟩
  · rw [generate_watched, hwatched]
  · rw [hgenerate]
    rcases hcloses.template_eq with htemplate | ⟨failure, rfl, hfailure⟩
    · exact Or.inl htemplate
    · exact Or.inr ⟨failure, rfl, hfailure⟩
  · intro report hreport
    rw [hgenerate] at hreport
    cases hcloses with
    | finished hnoted hharmless hceiling =>
        have hids : report.ids = Note.kept notes := by
          rw [← hnoted.kept_eq]
          cases hreport
          rfl
        have hattempts : report.attempts = notes.length := by
          rw [← hnoted.attempts_eq]
          cases hreport
          rfl
        have hsublist := Note.kept_sublist notes
        have hlength : (Note.kept notes).length ≤ notes.length := by
          rw [← List.length_map Note.candidate]
          exact hsublist.length_le
        rw [hids, hattempts]
        exact ⟨rfl, hnoted.nodup, hsublist, rfl,
          Nat.le_min.mpr ⟨hnoted.minutes.length_kept_le, hlength⟩, hceiling⟩
    | limit _ _ _ | filterFailed _ _ _ _ | templateFailed _ _ _ _ =>
        cases hreport
  · intro before call behind failure hlog hcall
    rcases hcloses.of_failed_call hlog hcall with ⟨hbehind, rfl, htemplate, hlast⟩
    rw [hgenerate]
    exact ⟨hbehind, rfl, htemplate, hlast⟩

end Generator
end Moniker
