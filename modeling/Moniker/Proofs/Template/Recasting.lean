import Moniker.Proofs.Template.Distinct
import Moniker.Random.Stream
import Mathlib.Data.List.GetD

/-!
# Data with other characters

A template never asks which characters its data holds, only how many there are
and where they stand.  If every character of the bindings is replaced by another
one, and different ones possibly by the same, the template that is compiled is
the old one with its data replaced, and it stays so at every step.
-/

namespace Moniker

variable {ρ : Type} [Chance ρ]

/-!
# Replaced data

Inline literals hold no data, so they keep their characters.
-/

/-- The second bindings bind the same variables, to data with replaced characters. -/
def Bindings.Recasts (f : Char -> Char) (bindings bindings' : Bindings) : Prop :=
  forall key, bindings'.get? key = (bindings.get? key).map (List.map f)

theorem Bindings.recasts_map (f : Char -> Char) (bindings : Bindings) :
    bindings.Recasts f
      { entries := bindings.entries.map fun entry => (entry.1, entry.2.map f) } := by
  rcases bindings with ⟨entries⟩
  intro key
  simp only [get?]
  induction entries with
  | nil =>
      rfl
  | cons entry rest ih =>
      rw [List.map_cons, List.lookup_cons, List.lookup_cons, ih]
      split
      · rfl
      · rfl

def Fixed.recast (f : Char -> Char) (x : Fixed) : Fixed :=
  { x with text := x.text.map f }

def Sample.recast (f : Char -> Char) (s : Sample ρ) : Sample ρ :=
  { s with alphabet := s.alphabet.map f }

def Excerpt.recast (f : Char -> Char) (x : Excerpt) : Excerpt :=
  { x with data := x.data.map f }

def Counter.recast (f : Char -> Char) (c : Counter) : Counter :=
  { c with digits := c.digits.map f }

def Failure.recast (f : Char -> Char) : Failure -> Failure
  | .outOfBounds fragment data start stop => .outOfBounds fragment (data.map f) start stop
  | failure => failure

def Source.recast (f : Char -> Char) : Source ρ -> Source ρ
  | .literal x => .literal x
  | .whole x => .whole (x.recast f)
  | .sample s => .sample (s.recast f)
  | .part x => .part (x.recast f)
  | .counter c => .counter (c.recast f)

/-- What becomes of a text that the source has given. -/
def Source.respell (f : Char -> Char) : Source ρ -> Text -> Text
  | .literal _, given => given
  | _, given => given.map f

def Segment.recast (f : Char -> Char) (s : Segment ρ) : Segment ρ :=
  { s with source := s.source.recast f }

def Template.recast (f : Char -> Char) (t : Template ρ) : Template ρ :=
  { t with segments := t.segments.map (Segment.recast f) }

/-!
# Steps of the sources
-/

variable (f : Char -> Char)

theorem Chance.below_congr {n m : Nat} (h : n = m) (hn : 0 < n) (hm : 0 < m) (stream : ρ) :
    (Chance.below n hn stream).1.val = (Chance.below m hm stream).1.val ∧
      (Chance.below n hn stream).2 = (Chance.below m hm stream).2 := by
  subst h
  exact ⟨rfl, rfl⟩

namespace Sample

/-- Places are drawn, not characters. -/
theorem draw_map {alphabet : Text} (h : 0 < alphabet.length)
    (h' : 0 < (alphabet.map f).length) (n : Nat) (stream : ρ) :
    draw (alphabet.map f) h' n stream =
      ((draw alphabet h n stream).1.map f, (draw alphabet h n stream).2) := by
  induction n generalizing stream with
  | zero =>
      rfl
  | succ n ih =>
      rcases Chance.below_congr (List.length_map f) h' h stream with ⟨hplace, hstream⟩
      rcases hdrawn : Chance.below (alphabet.map f).length h' stream with ⟨place', stream'⟩
      rcases hdrawn' : Chance.below alphabet.length h stream with ⟨place, rest⟩
      rw [hdrawn, hdrawn'] at hplace hstream
      cases hstream
      have hletter : (alphabet.map f).get place' = f (alphabet.get place) := by
        rw [List.get_eq_getElem, List.getElem_map, List.get_eq_getElem]
        congr 2
      simp only [draw, hdrawn, hdrawn', ih, hletter, List.map_cons]

theorem next_recast (s : Sample ρ) :
    (s.recast f).next = (s.next.1.map f, s.next.2.recast f) := by
  by_cases h : s.alphabet = []
  · rw [next_of_empty h, next_of_empty (by rw [recast, h, List.map_nil]), List.map_nil]
  · have hpos : 0 < s.alphabet.length := List.length_pos_iff.mpr h
    have hpos' : 0 < (s.alphabet.map f).length := by
      rw [List.length_map]
      exact hpos
    have hnext : (s.recast f).next = _ := dif_pos hpos'
    rw [hnext, next, dif_pos hpos]
    simp only [recast, draw_map f hpos]

theorem live_recast {ρ : Type} (s : Sample ρ) : (s.recast f).live = s.live := by
  have hlimit : (s.recast f).limit = s.limit := by
    rw [limit, limit, alternatives, alternatives, recast, List.length_map]
  rw [live, live, hlimit]
  rfl

end Sample

namespace Counter

theorem successor_recast (c : Counter) : (c.recast f).successor = c.successor := by
  simp [successor, alternatives?, recast]

theorem numeralOnto_map (zero : Char) (digits : Text) (width n : Nat) (written : Text) :
    numeralOnto (f zero) (digits.map f) width n (written.map f) =
      (numeralOnto zero digits width n written).map f := by
  induction width generalizing n written with
  | zero =>
      rfl
  | succ width ih =>
      rw [numeralOnto, numeralOnto, List.length_map, List.getD_map, ← List.map_cons, ih]

theorem next_recast (c : Counter) :
    (c.recast f).next = (c.next.1.map f, c.next.2.recast f) := by
  cases hdigits : c.digits with
  | nil =>
      have hdigits' : (c.recast f).digits = [] := by
        rw [recast, hdigits, List.map_nil]
      rw [next_of_empty hdigits, next_of_empty hdigits', List.map_nil]
  | cons zero digits =>
      have hdigits' : (c.recast f).digits = f zero :: digits.map f := by
        rw [recast, hdigits, List.map_cons]
      have hnumeral := numeralOnto_map f zero (zero :: digits) c.width c.count []
      simp only [next, hdigits, hdigits', successor_recast]
      exact Prod.ext hnumeral rfl

end Counter

namespace Excerpt

theorem fits_recast (x : Excerpt) :
    (x.recast f).span.Fits (x.recast f).data.length <-> x.span.Fits x.data.length := by
  rw [recast, List.length_map]

theorem slice_map (start stop : Nat) (s : Text) :
    slice start stop (s.map f) = (slice start stop s).map f := by
  rw [slice, slice, List.map_take, List.map_drop]

theorem value_recast_of_fits {x : Excerpt} (h : x.span.Fits x.data.length) :
    (x.recast f).value = x.value.map (List.map f) := by
  rcases Span.positions_of_fits h with ⟨start, stop, hpositions⟩
  have hpositions' : (x.recast f).span.positions (x.recast f).data.length = .ok (start, stop) := by
    rw [recast, List.length_map]
    exact hpositions
  simp only [value, hpositions, hpositions']
  rw [recast, slice_map]
  rfl

theorem next_snd_recast (x : Excerpt) : (x.recast f).next.2 = x.next.2.recast f := by
  by_cases hx : x.span.Fits x.data.length
  · rcases next_of_fits hx with ⟨piece, hnext⟩
    rcases next_of_fits ((x.fits_recast f).mpr hx) with ⟨piece', hnext'⟩
    rw [hnext, hnext']
    rfl
  · rw [next_of_not_fits hx, next_of_not_fits (mt (x.fits_recast f).mp hx)]

theorem misfit_recast (x : Excerpt) : (x.recast f).misfit = x.misfit.recast f := by
  rw [misfit, recast, List.length_map]
  rfl

end Excerpt

namespace Source

theorem live_recast {ρ : Type} (source : Source ρ) : (source.recast f).live = source.live := by
  cases source with
  | literal x | whole x | part x | counter c =>
      rfl
  | sample s =>
      exact s.live_recast f

theorem next_snd_recast (source : Source ρ) :
    (source.recast f).next.2 = source.next.2.recast f := by
  cases source with
  | literal x | whole x =>
      rfl
  | sample s =>
      exact congrArg (fun step => sample step.2) (s.next_recast f)
  | counter c =>
      exact congrArg (fun step => counter step.2) (c.next_recast f)
  | part x =>
      exact congrArg part (x.next_snd_recast f)

theorem next_fst_recast_of_fits {source : Source ρ} (h : source.Fits) :
    (source.recast f).next.1 = source.next.1.map (source.respell f) := by
  cases source with
  | literal x | whole x =>
      rfl
  | sample s =>
      exact congrArg (fun step => Except.ok step.1) (s.next_recast f)
  | counter c =>
      exact congrArg (fun step => Except.ok step.1) (c.next_recast f)
  | part x =>
      show (x.recast f).next.1 = x.next.1.map (List.map f)
      rw [Excerpt.next_fst, Excerpt.next_fst, Excerpt.value_recast_of_fits f h]

theorem respell_next (source : Source ρ) : source.next.2.respell f = source.respell f := by
  cases source with
  | literal x | whole x | sample s | part x | counter c =>
      rfl

end Source

/-!
# Steps of a template
-/

namespace Segment

theorem fits_recast {ρ : Type} (s : Segment ρ) : (s.recast f).Fits <-> s.Fits := by
  rcases s with ⟨text, resolver, source⟩
  cases source with
  | part x =>
      exact x.fits_recast f
  | literal x | whole x | sample s | counter c =>
      exact Iff.rfl

theorem next_snd_recast (s : Segment ρ) : (s.recast f).next.2 = s.next.2.recast f := by
  rw [next, recast, Source.next_snd_recast]
  rfl

theorem after_recast (s : Segment ρ) (k : Nat) :
    after next k (s.recast f) = (after next k s).recast f :=
  after_map (next_snd_recast f) k s

theorem respell_after (s : Segment ρ) (k : Nat) :
    (after next k s).source.respell f = s.source.respell f :=
  after_preserves (P := fun r : Segment ρ => r.source.respell f = s.source.respell f)
    (fun r hr => (r.source.respell_next f).trans hr) k rfl

theorem piece_recast_of_fits {s : Segment ρ} (h : s.Fits) :
    (s.recast f).piece = s.source.respell f s.piece := by
  have hfst : (s.recast f).next.1 = s.next.1.map (s.source.respell f) :=
    Source.next_fst_recast_of_fits f h
  rw [piece, hfst, next_of_fits h]
  rfl

theorem piece_after_recast {s : Segment ρ} (h : s.Fits) (k : Nat) :
    (after next k (s.recast f)).piece = s.source.respell f (after next k s).piece := by
  have hfits : (after next k s).Fits := after_preserves (fun r => (fits_next r).mpr) k h
  rw [after_recast, piece_recast_of_fits f hfits, respell_after]

theorem Misfits.recast {ρ : Type} {s : Segment ρ} {failure : Failure} (h : s.Misfits failure) :
    (s.recast f).Misfits (failure.recast f) := by
  rcases s with ⟨text, resolver, source⟩
  rcases h with ⟨x, rfl, hfits, rfl⟩
  exact ⟨x.recast f, rfl, mt (x.fits_recast f).mp hfits, (x.misfit_recast f).symm⟩

theorem nextAll_snd_recast (row : List (Segment ρ)) :
    (nextAll (row.map (recast f))).2 = (nextAll row).2.map (recast f) := by
  induction row with
  | nil =>
      rfl
  | cons s row ih =>
      by_cases hs : s.Fits
      · rw [List.map_cons, nextAll_cons_of_fits _ ((s.fits_recast f).mpr hs),
          nextAll_cons_of_fits row hs, List.map_cons, next_snd_recast, ih]
      · rcases exists_misfits_of_not_fits hs with ⟨failure, hmisfits⟩
        rw [List.map_cons, nextAll_cons_of_misfits _ (hmisfits.recast f),
          nextAll_cons_of_misfits row hmisfits, List.map_cons]

end Segment

namespace Template

theorem after_recast (t : Template ρ) (k : Nat) :
    after next k (t.recast f) = (after next k t).recast f := by
  apply after_map
  intro t
  show { t with segments := (Segment.nextAll (t.segments.map (Segment.recast f))).2 } = _
  rw [Segment.nextAll_snd_recast]
  rfl

theorem live_recast {ρ : Type} (t : Template ρ) : (t.recast f).live = t.live := by
  rw [live, live, recast, List.any_map]
  congr 1
  funext s
  show (!s.resolver && (s.source.recast f).live) = (!s.resolver && s.source.live)
  rw [Source.live_recast]

theorem fits_recast {ρ : Type} {t : Template ρ} (h : t.Fits) : (t.recast f).Fits := by
  intro s hs
  rcases List.mem_map.mp hs with ⟨r, hr, rfl⟩
  exact (r.fits_recast f).mpr (h r hr)

theorem Breaks.recast {ρ : Type} {t : Template ρ} {before behind : List (Segment ρ)} {s : Segment ρ}
    {failure : Failure} (h : t.Breaks before s behind failure) :
    (t.recast f).Breaks (before.map (Segment.recast f)) (s.recast f)
      (behind.map (Segment.recast f)) (failure.recast f) where
  segments_eq := by
    rw [Template.recast, h.segments_eq, List.map_append, List.map_cons]
  before_fits := by
    intro r hr
    rcases List.mem_map.mp hr with ⟨r', hr', rfl⟩
    exact (r'.fits_recast f).mpr (h.before_fits r' hr')
  misfits := h.misfits.recast f

theorem next_fst_recast_of_error {t : Template ρ} {failure : Failure} {k : Nat}
    (h : (after next k t).next.1 = .error failure) :
    (after next k (t.recast f)).next.1 = .error (failure.recast f) := by
  rcases next_eq_error_iff.mp (next_error_of_after h) with ⟨before, s, behind, hbreaks⟩
  exact (hbreaks.recast f).fails k

theorem next_fst_recast_of_ok {t : Template ρ} {candidate : Text} {k : Nat}
    (h : (after next k t).next.1 = .ok candidate) :
    candidate = (t.segments.flatMap fun s => (after Segment.next k s).piece) ∧
      (after next k (t.recast f)).next.1 =
        .ok (t.segments.flatMap fun s =>
          s.source.respell f (after Segment.next k s).piece) := by
  have hfits : t.Fits := by
    rcases fits_or_breaks t with hfits | ⟨before, s, behind, failure, hbreaks⟩
    · exact hfits
    · rw [hbreaks.fails k] at h
      cases h
  constructor
  · rw [next_fst_after_of_fits hfits] at h
    cases h
    rfl
  · rw [next_fst_after_of_fits (fits_recast f hfits), recast, List.flatMap_map]
    congr 1
    apply List.flatMap_congr
    intro s hs
    exact Segment.piece_after_recast f (hfits s hs) k

end Template

/-!
# Compilation

Neither the reading of the fragments nor the test for completeness looks at the
characters of the data.
-/

def Part.recast (part : Part) : Part :=
  { part with data := part.data.map f }

theorem Part.complete_recast (part : Part) : (part.recast f).complete = part.complete := by
  rcases part with ⟨⟨text, resolver, form⟩, data⟩
  cases form with
  | literal payload =>
      rfl
  | data key use =>
      cases use with
      | whole | sample length | part span | counter width =>
          simp [complete, sufficient, recast]

theorem Part.segment_recast {ρ : Type} (part : Part) (stream : ρ) :
    (part.recast f).segment stream = (part.segment stream).recast f := by
  rcases part with ⟨⟨text, resolver, form⟩, data⟩
  cases form with
  | literal payload =>
      rfl
  | data key use =>
      cases use with
      | whole | sample length | part span | counter width =>
          rfl

namespace Template

theorem supplied_recast (parts : List Part) (master : ρ) :
    supplied (parts.map (Part.recast f)) master =
      (supplied parts master).map (Segment.recast f) := by
  induction parts generalizing master with
  | nil =>
      rfl
  | cons part rest ih =>
      rw [List.map_cons, supplied, supplied, List.map_cons, Part.segment_recast, ih]

variable {f} {bindings bindings' : Bindings} (h : bindings.Recasts f bindings')
include h

theorem dataFor_of_recasts (fragment : Fragment) :
    dataFor bindings' fragment = (dataFor bindings fragment).map (List.map f) := by
  rw [dataFor, dataFor]
  cases fragment.form.key? with
  | none =>
      rfl
  | some key =>
      simp only [h key]
      cases bindings.get? key with
      | none | some data =>
          rfl

theorem partOf_of_recasts (raw : Text) (fragment : Fragment) :
    partOf bindings' raw fragment = (partOf bindings raw fragment).map (Part.recast f) := by
  rw [partOf, partOf, dataFor_of_recasts h]
  cases dataFor bindings fragment with
  | error failure =>
      rfl
  | ok data =>
      have hcomplete := Part.complete_recast f { fragment := fragment, data := data }
      simp only [Part.recast] at hcomplete
      simp only [Except.map, hcomplete]
      split
      · rfl
      · rfl

theorem plan_of_recasts (pieces : List Text) (session : Session) :
    plan bindings' pieces session =
      (plan bindings pieces session).map (List.map (Part.recast f)) := by
  induction pieces generalizing session with
  | nil =>
      rfl
  | cons raw rest ih =>
      rw [plan, plan, planPiece, planPiece]
      rcases session.read raw with ⟨answer, session'⟩
      cases answer with
      | error failure =>
          rfl
      | ok fragment =>
          simp only [partOf_of_recasts h, ih]
          cases partOf bindings raw fragment with
          | error failure =>
              rfl
          | ok part =>
              show ((plan bindings rest session').map (List.map (Part.recast f))).map
                  (part.recast f :: ·) =
                ((plan bindings rest session').map (part :: ·)).map (List.map (Part.recast f))
              cases plan bindings rest session' with
              | error failure | ok parts =>
                  rfl

theorem compile_of_recasts (master : ρ) (source : Text) :
    compile master source bindings' = (compile master source bindings).map (recast f) := by
  rw [compile_eq_plan, compile_eq_plan, plan_of_recasts h]
  cases plan bindings (Text.cut delimiter source) {} with
  | error failure =>
      rfl
  | ok parts =>
      show (Except.ok
          { source := source, segments := supplied (parts.map (Part.recast f)) master } :
        Except Failure (Template ρ)) = _
      rw [supplied_recast]
      rfl

end Template

/-!
# Candidates with replaced characters
-/

namespace Template

/-- Bindings with replaced characters compile exactly as the first ones do, and fail
with the same failure.  Both templates are live for the same time and fail at the
same steps, and every candidate of the second one is that of the first, with the
characters replaced that do not come from an inline literal. -/
theorem next_of_recasts {f : Char -> Char} {bindings bindings' : Bindings}
    (h : bindings.Recasts f bindings') (master : ρ) (source : Text) :
    (forall failure, compile master source bindings' = .error failure <->
        compile master source bindings = .error failure) ∧
      forall t t', compile master source bindings = .ok t ->
        compile master source bindings' = .ok t' ->
          forall k, (after next k t').live = (after next k t).live ∧
            (forall failure, (after next k t).next.1 = .error failure ->
              (after next k t').next.1 = .error (failure.recast f)) ∧
            forall candidate, (after next k t).next.1 = .ok candidate ->
              candidate = (t.segments.flatMap fun s => (after Segment.next k s).piece) ∧
                (after next k t').next.1 =
                  .ok (t.segments.flatMap fun s =>
                    s.source.respell f (after Segment.next k s).piece) := by
  rw [compile_of_recasts h]
  constructor
  · intro failure
    cases compile master source bindings with
    | error failure' =>
        rfl
    | ok t =>
        exact ⟨nofun, nofun⟩
  · intro t t' ht ht' k
    rw [ht] at ht'
    cases ht'
    refine ⟨?_, fun failure => next_fst_recast_of_error f, fun candidate => next_fst_recast_of_ok f⟩
    rw [after_recast, live_recast]

/-- Two letters become the same one, which takes two bytes. -/
theorem next_of_recasts_accented :
    exists t t', compile (Stream.ofSeed 3) "=e:b:n++".toList
        { entries := [('b', "ae".toList), ('n', "eo".toList)] } = .ok t ∧
      compile (Stream.ofSeed 3) "=e:b:n++".toList
        { entries := [('b', "éé".toList), ('n', "éo".toList)] } = .ok t' ∧
      (forall k, (after next k t').live = (after next k t).live) ∧
      t.next.1 = .ok "eaee".toList ∧ t'.next.1 = .ok "eééé".toList := by
  generalize Stream.ofSeed 3 = master
  have hrecasts : Bindings.Recasts (fun c => if c = 'a' ∨ c = 'e' then 'é' else c)
      { entries := [('b', "ae".toList), ('n', "eo".toList)] }
      { entries := [('b', "éé".toList), ('n', "éo".toList)] } :=
    Bindings.recasts_map _ _
  have hcompile := compile_eq_plan master "=e:b:n++".toList
    { entries := [('b', "ae".toList), ('n', "eo".toList)] }
  have hcompile' := compile_eq_plan master "=e:b:n++".toList
    { entries := [('b', "éé".toList), ('n', "éo".toList)] }
  have hsteps := (next_of_recasts hrecasts master "=e:b:n++".toList).right _ _ hcompile hcompile'
  exact ⟨_, _, hcompile, hcompile', fun k => (hsteps k).left, rfl,
    ((hsteps 0).right.right _ rfl).right⟩

end Template
end Moniker
