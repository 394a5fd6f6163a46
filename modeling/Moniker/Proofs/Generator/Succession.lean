import Moniker.Proofs.Generator.Minutes
import Moniker.Proofs.Template.Distinct
import Moniker.Random.Stream

/-!
# Successive runs

A generator can be run again and again, and every run goes on with the template
where the one before it stopped.  If the template never fails, all the runs
together build its candidates in their order, whatever the filters do and however
the runs end.  A counter then keeps the identifiers of all reports apart, though
no run knows what the others have kept.
-/

namespace Moniker

variable {ρ σ : Type} [Chance ρ]

/-!
# One run on a template that never fails
-/

theorem Run.Closes.noted_of_neverFails {ids : List Text} {t : Template ρ} {target ceiling : Nat}
    {notes : List Note} {ending : Run.Ending} {run : Run ρ (σ × List Call)}
    (h : Run.Closes ids t target ceiling notes (ending, run)) (hnever : t.NeverFails) :
    Run.Noted ids t target notes run := by
  cases h with
  | finished hnoted _ _ | limit hnoted _ _ | filterFailed hnoted _ _ _ =>
      exact hnoted
  | templateFailed hnoted _ _ hnext =>
      rcases hnever notes.length with ⟨candidate, hcandidate⟩
      rw [hnoted.template_eq, hcandidate] at hnext
      cases hnext

namespace Generator

def reportedIds : Except Failure Report -> List Text
  | .ok report => report.ids
  | .error _ => []

theorem reportedIds_answer {ρ : Type} (settings : Settings) (run : Run ρ σ) (ending : Run.Ending) :
    (reportedIds (answer settings run ending)).Sublist run.kept.toList := by
  cases ending with
  | finished =>
      exact List.Sublist.refl run.kept.toList
  | limit | failed failure =>
      exact List.nil_sublist run.kept.toList

/-- From `t` to `t'` so many attempts were made, none on a spent template, and the
identifiers are some of the candidates, in their order. -/
structure Spends (t t' : Template ρ) (attempts : Nat) (ids : List Text) : Prop where
  template_eq : t' = after Template.next attempts t
  ids_sublist : ids.Sublist (t.candidates attempts)
  live : forall i, i < attempts -> (after Template.next i t).live = true

theorem Spends.nil (t : Template ρ) : Spends t t 0 [] where
  template_eq := rfl
  ids_sublist := List.nil_sublist _
  live i hi := absurd hi (Nat.not_lt_zero i)

theorem Spends.append {t t' t'' : Template ρ} {attempts attempts' : Nat} {ids ids' : List Text}
    (h : Spends t t' attempts ids) (h' : Spends t' t'' attempts' ids') :
    Spends t t'' (attempts + attempts') (ids ++ ids') where
  template_eq := by
    rw [h'.template_eq, h.template_eq, after_add]
  ids_sublist := by
    rw [Template.candidates_add, ← h.template_eq]
    exact h.ids_sublist.append h'.ids_sublist
  live := by
    intro i hi
    by_cases hlt : i < attempts
    · exact h.live i hlt
    · have hrest : i - attempts < attempts' :=
        Nat.sub_lt_left_of_lt_add (Nat.le_of_not_lt hlt) hi
      have hlive := h'.live (i - attempts) hrest
      rw [h.template_eq, ← after_add, Nat.add_sub_cancel' (Nat.le_of_not_lt hlt)] at hlive
      exact hlive

theorem generate_spends (g : Generator ρ σ) (state : σ) (h : g.template.NeverFails) :
    Spends g.template (g.generate state).2.1.template (g.ran state).2.attempts
      (reportedIds (g.generate state).1) := by
  rcases g.ran_closes state with ⟨notes, hcloses⟩
  rw [generate_eq_ran, g.ran_eq_unwatched state]
  generalize g.watched.ran (state, []) = last at hcloses ⊢
  rcases last with ⟨ending, run⟩
  have hnoted := hcloses.noted_of_neverFails h
  have hattempts : run.unwatched.attempts = notes.length := hnoted.attempts_eq
  refine ⟨?_, ?_, ?_⟩
  · rw [hattempts]
    exact hnoted.template_eq
  · have hids := reportedIds_answer g.settings run.unwatched ending
    have hkept : run.unwatched.kept.toList = Note.kept notes := hnoted.kept_eq
    rw [hkept] at hids
    rw [hattempts, ← hnoted.minutes.map_candidate]
    exact hids.trans (Note.kept_sublist notes)
  · intro place hplace
    rw [hattempts] at hplace
    exact (hnoted.minutes.wanted place _ (List.getElem?_eq_getElem hplace)).left

/-!
# Any number of runs
-/

/-- One run, with the generator and the state of the filters that it leaves to
the next one. -/
def turn (p : Generator ρ σ × σ) : Except Failure Report × Generator ρ σ × σ :=
  p.1.generate p.2

def built (g : Generator ρ σ) (state : σ) : Nat -> Nat
  | 0 => 0
  | runs + 1 =>
      g.built state runs +
        ((after turn runs (g, state)).1.ran (after turn runs (g, state)).2).2.attempts

def reported (g : Generator ρ σ) (state : σ) : Nat -> List Text
  | 0 => []
  | runs + 1 => g.reported state runs ++ reportedIds (turn (after turn runs (g, state))).1

theorem turns_spend (g : Generator ρ σ) (state : σ) (h : g.template.NeverFails) (runs : Nat) :
    Spends g.template (after turn runs (g, state)).1.template (g.built state runs)
      (g.reported state runs) := by
  induction runs with
  | zero =>
      exact Spends.nil g.template
  | succ runs ih =>
      have hnever : (after turn runs (g, state)).1.template.NeverFails := by
        rw [ih.template_eq]
        exact h.after (g.built state runs)
      rw [after_succ_eq_next]
      exact ih.append (generate_spends _ _ hnever)

/-- A counter over different digits keeps the candidates of a template apart, as
many in a row as it has numerals, wherever it stands and whatever else is drawn.
If only resolvers draw, a generator on this template builds at most that many in
all its runs, and reports no identifier twice in them. -/
theorem nodup_of_counter {master : ρ} {source : Text} {bindings : Bindings}
    {t : Template ρ} {s : Segment ρ} {c : Counter} {n : Nat}
    (h : Template.compile master source bindings = .ok t) (hnever : t.NeverFails)
    (hs : s ∈ t.segments) (hsource : s.source = .counter c) (hdigits : c.digits.Nodup)
    (hn : c.alternatives? = some n) :
    (forall k, ((after Template.next k t).candidates n).Nodup) ∧
      ((forall r, r ∈ t.segments -> r.resolver = false -> forall x, r.source ≠ .sample x) ->
        forall {σ : Type} (g : Generator ρ σ) (state : σ) (k : Nat),
          g.template = after Template.next k t ->
            forall runs, g.built state runs ≤ n - k ∧ (g.reported state runs).Nodup) := by
  have hcounts := Template.countsTo_of_compile h hnever hs hsource hdigits hn
  refine ⟨hcounts.nodup_candidates_after, ?_⟩
  intro hsamples σ g state k htemplate runs
  have hnever' : g.template.NeverFails := by
    rw [htemplate]
    exact hnever.after k
  have hspends := g.turns_spend state hnever' runs
  rw [htemplate] at hspends
  have hbuilt : g.built state runs ≤ n - k := by
    cases hattempts : g.built state runs with
    | zero =>
        exact Nat.zero_le (n - k)
    | succ last =>
        rw [hattempts] at hspends
        have hlive := hspends.live last (Nat.lt_succ_self last)
        rw [← after_add] at hlive
        exact Nat.le_sub_of_add_le' (hcounts.lt_of_live hsamples hlive)
  refine ⟨hbuilt, ?_⟩
  have hrange : (List.range (g.built state runs)).Sublist (List.range n) :=
    List.range_sublist.mpr (Nat.le_trans hbuilt (Nat.sub_le n k))
  exact (hcounts.nodup_candidates_after k).sublist (hspends.ids_sublist.trans (hrange.map _))

/-- A letter that is drawn by a resolver, and the numerals of two letters. -/
def lettered (stream : Stream) : Template Stream where
  source := "[r+]:b2++".toList
  segments :=
    [{ text := "r+".toList
       resolver := true
       source := .sample { alphabet := "01".toList, length := 1, stream := stream } },
      { text := "b2++".toList
        resolver := false
        source := .counter { digits := "ab".toList, width := 2 } }]

/-- Four candidates in a row are different, and no generator on this template
builds a fifth one. -/
theorem nodup_of_counter_lettered :
    exists stream, Template.compile (Stream.ofSeed 3) "[r+]:b2++".toList
        { entries := [('b', "ab".toList), ('r', "01".toList)] } = .ok (lettered stream) ∧
      (forall k, ((after Template.next k (lettered stream)).candidates 4).Nodup) ∧
      forall {σ : Type} (g : Generator Stream σ) (state : σ), g.template = lettered stream ->
        forall runs, g.built state runs ≤ 4 ∧ (g.reported state runs).Nodup := by
  generalize Stream.ofSeed 3 = master
  have hcompile : Template.compile master "[r+]:b2++".toList
      { entries := [('b', "ab".toList), ('r', "01".toList)] } =
        .ok (lettered (Chance.split master).1) :=
    Template.compile_eq_plan master "[r+]:b2++".toList
      { entries := [('b', "ab".toList), ('r', "01".toList)] }
  generalize (Chance.split master).1 = stream at hcompile
  have hfits : (lettered stream).Fits :=
    List.forall_mem_cons.mpr ⟨trivial, List.forall_mem_singleton.mpr trivial⟩
  rcases nodup_of_counter hcompile (Template.neverFails_of_fits hfits)
    (List.mem_cons_of_mem _ List.mem_cons_self) rfl (by decide) rfl with ⟨hnodup, hruns⟩
  refine ⟨stream, hcompile, hnodup, ?_⟩
  intro σ g state htemplate runs
  have hsamples : forall r, r ∈ (lettered stream).segments -> r.resolver = false ->
      forall x, r.source ≠ .sample x := by
    intro r hr hresolver x hsource
    rcases List.mem_cons.mp hr with rfl | hcounter
    · cases hresolver
    · rw [List.mem_singleton.mp hcounter] at hsource
      cases hsource
  exact hruns hsamples g state 0 htemplate runs

end Generator
end Moniker
