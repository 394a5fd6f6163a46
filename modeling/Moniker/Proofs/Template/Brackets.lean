import Moniker.Proofs.Course
import Moniker.Proofs.Template.Compilation
import Moniker.Random.Stream

/-!
# Fragments in brackets

Brackets around a fragment say how long a template is live, and nothing else.
This module compares a template with one that has some of its fragments in
brackets.  Both are read, compiled and asked for candidates side by side, and
every step leaves them alike.
-/

namespace Moniker

variable {ρ : Type} [Chance ρ]

/-!
# Pieces in brackets

Whatever is made of a piece is in brackets too if the piece is.
-/

def bracketed (text : Text) : Text :=
  '[' :: (text ++ [']'])

/-- The second piece is the first one, or puts it in brackets that it did not
have. -/
inductive InBrackets : Text -> Text -> Prop where
  | same {raw : Text} : InBrackets raw raw
  | bracketed {raw : Text} : Bare raw raw false -> InBrackets raw (bracketed raw)

structure Fragment.InBrackets (fragment fragment' : Fragment) : Prop where
  text_eq : fragment'.text = fragment.text
  form_eq : fragment'.form = fragment.form
  resolver : fragment.resolver = true -> fragment'.resolver = true

theorem Fragment.InBrackets.refl (fragment : Fragment) : fragment.InBrackets fragment :=
  ⟨rfl, rfl, id⟩

structure Segment.InBrackets (s s' : Segment ρ) : Prop where
  text_eq : s'.text = s.text
  source_eq : s'.source = s.source
  resolver : s.resolver = true -> s'.resolver = true

namespace Segment.InBrackets

variable {ρ : Type} {s s' : Segment ρ} (h : s.InBrackets s')
include h

theorem complete_eq : s'.complete = s.complete := by
  rw [complete, complete, h.source_eq, h.text_eq]

theorem live_eq : s'.live = s.live := by
  rw [live, live, h.source_eq]

theorem fits_iff : s'.Fits <-> s.Fits := by
  rw [Fits, Fits, h.source_eq]

theorem misfits {failure : Failure} (hs : s.Misfits failure) : s'.Misfits failure := by
  rw [Misfits, h.source_eq]
  exact hs

end Segment.InBrackets

/-- The failure is of the same kind, and differs at most in brackets around the
piece that it reports. -/
inductive Failure.InBrackets : Failure -> Failure -> Prop where
  | same {failure : Failure} : InBrackets failure failure
  | unknownForm {raw raw' : Text} : Moniker.InBrackets raw raw' ->
      InBrackets (.unknownForm raw) (.unknownForm raw')
  | incomplete {raw raw' : Text} : Moniker.InBrackets raw raw' ->
      InBrackets (.incomplete raw) (.incomplete raw')

/-- Two answers that are both alike values, or both alike failures. -/
inductive Alike {α : Type} (R : α -> α -> Prop) :
    Except Failure α -> Except Failure α -> Prop where
  | ok {a a' : α} : R a a' -> Alike R (.ok a) (.ok a')
  | error {failure failure' : Failure} : failure.InBrackets failure' ->
      Alike R (.error failure) (.error failure')

theorem Alike.ok_iff {α : Type} {R : α -> α -> Prop} {answer answer' : Except Failure α}
    (h : Alike R answer answer') : (exists a, answer = .ok a) <-> exists a', answer' = .ok a' := by
  cases h with
  | ok ha =>
      exact ⟨fun _ => ⟨_, rfl⟩, fun _ => ⟨_, rfl⟩⟩
  | error hfailure =>
      exact ⟨fun hok => hok.elim nofun, fun hok => hok.elim nofun⟩

theorem Alike.refl {α : Type} {R : α -> α -> Prop} (h : forall a, R a a)
    (answer : Except Failure α) : Alike R answer answer := by
  cases answer with
  | error failure =>
      exact .error .same
  | ok a =>
      exact .ok (h a)

theorem Alike.of_error {α : Type} {R : α -> α -> Prop} {failure : Failure}
    {answer' : Except Failure α} (h : Alike R (.error failure) answer') :
    exists failure', failure.InBrackets failure' ∧ answer' = .error failure' := by
  cases h with
  | error hfailure =>
      exact ⟨_, hfailure, rfl⟩

theorem Alike.bind {α β : Type} {R : α -> α -> Prop} {S : β -> β -> Prop}
    {answer answer' : Except Failure α} {f f' : α -> Except Failure β}
    (h : Alike R answer answer') (hf : forall a a', R a a' -> Alike S (f a) (f' a')) :
    Alike S (answer >>= f) (answer' >>= f') := by
  cases h with
  | ok ha =>
      exact hf _ _ ha
  | error hfailure =>
      exact .error hfailure

/-!
# Reading
-/

theorem Bare.eq_of_plain {raw text : Text} {resolver : Bool} (h : Bare raw raw false)
    (h' : Bare raw text resolver) : text = raw ∧ resolver = false := by
  have heq := (bare_iff.mp h').symm.trans (bare_iff.mp h)
  cases heq
  exact ⟨rfl, rfl⟩

theorem bare_bracketed_of_feed {raw : Text} (h : '\n' ∈ raw) :
    Bare (bracketed raw) (bracketed raw) false := by
  apply Bare.plain
  intro hinner
  rcases hinner with ⟨inner, hfeed, heq⟩
  rw [List.append_cancel_right (List.cons.inj heq).right] at h
  exact hfeed h

theorem names_bracketed {raw : Text} {fragment : Fragment} (h : Bare raw raw false)
    (hnames : Names raw fragment) :
    Names (bracketed raw) { fragment with resolver := true } := by
  rcases fragment with ⟨text, resolver, form⟩
  rcases h.eq_of_plain hnames.bare with ⟨rfl, rfl⟩
  exact ⟨.bracketed hnames.written.feed_not_mem, hnames.written⟩

namespace Session

theorem read_bracketed_of_unwritten {raw : Text} (h : Bare raw raw false)
    (hunwritten : forall form, ¬ Form.Written raw form) (session : Session) :
    exists text, InBrackets raw text ∧
      session.read (bracketed raw) = (.error (.unknownForm text), session) := by
  by_cases hfeed : '\n' ∈ raw
  · refine ⟨bracketed raw, .bracketed h, read_of_unwritten (bare_bracketed_of_feed hfeed) ?_ _⟩
    intro form hwritten
    exact hwritten.bracket_not_mem List.mem_cons_self
  · exact ⟨raw, .same, read_of_unwritten (.bracketed hfeed) hunwritten _⟩

theorem read_inBrackets {raw raw' : Text} (h : InBrackets raw raw') (session : Session) :
    Alike Fragment.InBrackets (session.read raw).1 (session.read raw').1 ∧
      (session.read raw').2 = (session.read raw).2 := by
  cases h with
  | same =>
      exact ⟨.refl Fragment.InBrackets.refl _, rfl⟩
  | bracketed hbare =>
      rcases names_or_unwritten raw with
        ⟨fragment, hnames⟩ | ⟨text, resolver, hraw, hunwritten⟩
      · rw [read_of_names hnames, read_of_names (names_bracketed hbare hnames)]
        by_cases hcounter : fragment.form.isCounter = true ∧ session.counterRead = true
        · rw [if_pos hcounter, if_pos hcounter]
          exact ⟨.error .same, rfl⟩
        · rw [if_neg hcounter, if_neg hcounter]
          exact ⟨.ok ⟨rfl, rfl, fun _ => rfl⟩, rfl⟩
      · rcases hbare.eq_of_plain hraw with ⟨rfl, _⟩
        rcases read_bracketed_of_unwritten hbare hunwritten session with ⟨text', htext, hread⟩
        rw [hread, read_of_unwritten hraw hunwritten]
        exact ⟨.error (.unknownForm htext), rfl⟩

end Session

/-!
# Compilation
-/

namespace Template

variable {bindings : Bindings} {master : ρ}

theorem dataFor_eq_of_inBrackets {fragment fragment' : Fragment}
    (h : fragment.InBrackets fragment') :
    dataFor bindings fragment' = dataFor bindings fragment := by
  rw [dataFor, dataFor, h.form_eq, h.text_eq]

theorem ofFragment_inBrackets {ρ : Type} {fragment fragment' : Fragment}
    (h : fragment.InBrackets fragment')
    (data : Text) (stream : ρ) :
    (Segment.ofFragment fragment data stream).InBrackets
      (Segment.ofFragment fragment' data stream) where
  text_eq := h.text_eq
  source_eq := by
    rw [Segment.ofFragment, Segment.ofFragment, h.text_eq, h.form_eq]
  resolver := h.resolver

theorem compileSegment_inBrackets {ρ : Type} {raw raw' : Text} (h : InBrackets raw raw')
    {fragment fragment' : Fragment} (hfragment : fragment.InBrackets fragment')
    (stream : ρ) :
    Alike Segment.InBrackets (compileSegment bindings raw fragment stream)
      (compileSegment bindings raw' fragment' stream) := by
  rw [compileSegment, compileSegment, dataFor_eq_of_inBrackets hfragment]
  apply Alike.bind (R := Eq) (.refl (fun _ => rfl) _)
  intro data data' hdata
  subst hdata
  have hsegment := ofFragment_inBrackets hfragment data stream
  dsimp only
  rw [hsegment.complete_eq]
  split
  · exact .ok hsegment
  · exact .error (.incomplete h)

theorem compilePieces_inBrackets {pieces pieces' : List Text}
    (h : List.Forall₂ InBrackets pieces pieces') (session : Session) (master : ρ) :
    Alike (List.Forall₂ Segment.InBrackets) (compilePieces bindings pieces session master)
      (compilePieces bindings pieces' session master) := by
  induction h generalizing session master with
  | nil =>
      exact .ok .nil
  | @cons raw raw' rest rest' hraw hrest ih =>
      rcases Session.read_inBrackets hraw session with ⟨hread, hsession⟩
      rw [compilePieces, compilePieces]
      rcases hanswer : session.read raw with ⟨answer, session'⟩
      rcases hanswer' : session.read raw' with ⟨answer', session''⟩
      rw [hanswer, hanswer'] at hread hsession
      cases hsession
      cases hread with
      | error hfailure =>
          exact .error hfailure
      | ok hfragment =>
          apply Alike.bind (compileSegment_inBrackets hraw hfragment (Chance.split master).1)
          intro s s' hs
          apply Alike.bind (ih session' (Chance.split master).2)
          intro row row' hrow
          exact .ok (.cons hs hrow)

/-!
# The place of a failure
-/

theorem compilePieces_cons_eq_error_iff {raw : Text} {rest : List Text} {session : Session}
    {failure : Failure} :
    compilePieces bindings (raw :: rest) session master = .error failure <->
      compilePieces bindings [raw] session master = .error failure ∨
        (exists row, compilePieces bindings [raw] session master = .ok row) ∧
          compilePieces bindings rest (session.read raw).2 (Chance.split master).2 =
            .error failure := by
  rw [compilePieces, compilePieces]
  rcases session.read raw with ⟨answer, session'⟩
  cases answer with
  | error failure' =>
      simp
  | ok fragment =>
      dsimp only
      cases compileSegment bindings raw fragment (Chance.split master).1 with
      | error failure' =>
          simp [bind, Except.bind]
      | ok s =>
          cases compilePieces bindings rest session' (Chance.split master).2 with
          | error failure' | ok row =>
              simp [bind, Except.bind, compilePieces, pure, Except.pure]

theorem compilePieces_append_of_error {before : List Text} {session : Session}
    {failure : Failure} (h : compilePieces bindings before session master = .error failure)
    (behind : List Text) :
    compilePieces bindings (before ++ behind) session master = .error failure := by
  induction before generalizing session master with
  | nil =>
      cases h
  | cons raw before ih =>
      rw [List.cons_append, compilePieces_cons_eq_error_iff]
      rcases compilePieces_cons_eq_error_iff.mp h with hraw | ⟨hraw, hbefore⟩
      · exact Or.inl hraw
      · exact Or.inr ⟨hraw, ih hbefore⟩

/-- The pieces before a place compile, but not together with the one at the place. -/
structure FailsAt (bindings : Bindings) (pieces : List Text) (session : Session)
    (master : ρ) (place : Nat) (failure : Failure) : Prop where
  before : exists row, compilePieces bindings (pieces.take place) session master = .ok row
  here : compilePieces bindings (pieces.take (place + 1)) session master = .error failure

theorem exists_failsAt_of_take {pieces : List Text} {session : Session} {failure : Failure}
    (n : Nat) (h : compilePieces bindings (pieces.take n) session master = .error failure) :
    exists place, FailsAt bindings pieces session master place failure := by
  induction n with
  | zero =>
      cases h
  | succ n ih =>
      cases hbefore : compilePieces bindings (pieces.take n) session master with
      | ok row =>
          exact ⟨n, ⟨row, hbefore⟩, h⟩
      | error failure' =>
          -- A shorter prefix fails already, and so with the same failure.
          rw [List.take_add_one, compilePieces_append_of_error hbefore] at h
          cases h
          exact ih hbefore

theorem FailsAt.inBrackets {pieces pieces' : List Text} {session : Session} {place : Nat}
    {failure failure' : Failure} (h : FailsAt bindings pieces session master place failure)
    (hpieces : List.Forall₂ InBrackets pieces pieces')
    (hfailure : compilePieces bindings pieces' session master = .error failure') :
    FailsAt bindings pieces' session master place failure' where
  before :=
    (compilePieces_inBrackets (List.forall₂_take place hpieces) session master).ok_iff.mp h.before
  here := by
    have halike : Alike (List.Forall₂ Segment.InBrackets)
        (compilePieces bindings (pieces.take (place + 1)) session master)
        (compilePieces bindings (pieces'.take (place + 1)) session master) :=
      compilePieces_inBrackets (List.forall₂_take (place + 1) hpieces) session master
    rw [h.here] at halike
    rcases halike.of_error with ⟨failure'', _, hhere⟩
    have hall := compilePieces_append_of_error hhere (pieces'.drop (place + 1))
    rw [List.take_append_drop, hfailure] at hall
    cases hall
    exact hhere

end Template

/-!
# Steps
-/

namespace Segment

namespace InBrackets

variable {s s' : Segment ρ} (h : s.InBrackets s')
include h

theorem piece_eq : s'.piece = s.piece := by
  rw [piece, piece, next, next, h.source_eq]

theorem next_snd : s.next.2.InBrackets s'.next.2 where
  text_eq := h.text_eq
  source_eq := by
    rw [next, next, h.source_eq]
  resolver := h.resolver

end InBrackets

theorem nextAll_inBrackets {row row' : List (Segment ρ)} (h : List.Forall₂ InBrackets row row') :
    (nextAll row').1 = (nextAll row).1 ∧
      List.Forall₂ InBrackets (nextAll row).2 (nextAll row').2 := by
  induction h with
  | nil =>
      exact ⟨rfl, .nil⟩
  | @cons s s' rest rest' hs hrest ih =>
      by_cases hfits : s.Fits
      · rw [nextAll_cons_of_fits rest hfits, nextAll_cons_of_fits rest' (hs.fits_iff.mpr hfits),
          hs.piece_eq, ih.left]
        exact ⟨rfl, .cons hs.next_snd ih.right⟩
      · rcases exists_misfits_of_not_fits hfits with ⟨failure, hmisfits⟩
        rw [nextAll_cons_of_misfits rest hmisfits,
          nextAll_cons_of_misfits rest' (hs.misfits hmisfits)]
        exact ⟨rfl, .cons hs hrest⟩

theorem any_live_of_inBrackets {ρ : Type} {row row' : List (Segment ρ)}
    (h : List.Forall₂ InBrackets row row')
    (hlive : (row'.any fun s => !s.resolver && s.live) = true) :
    (row.any fun s => !s.resolver && s.live) = true := by
  induction h with
  | nil =>
      exact hlive
  | @cons s s' rest rest' hs hrest ih =>
      rw [List.any_cons, Bool.or_eq_true, Bool.and_eq_true, Bool.not_eq_true'] at hlive
      rw [List.any_cons, Bool.or_eq_true, Bool.and_eq_true, Bool.not_eq_true']
      rcases hlive with ⟨hresolver, hfirst⟩ | hothers
      · rw [hs.live_eq] at hfirst
        refine Or.inl ⟨Bool.eq_false_iff.mpr fun hplain => ?_, hfirst⟩
        rw [hs.resolver hplain] at hresolver
        cases hresolver
      · exact Or.inr (ih hothers)

end Segment

namespace Template

/-!
# Templates in brackets
-/

variable {bindings : Bindings} {master : ρ}

/-- The segments are those of the first template, with more resolvers among them. -/
def InBrackets (t t' : Template ρ) : Prop :=
  List.Forall₂ Segment.InBrackets t.segments t'.segments

theorem compile_inBrackets {source source' : Text}
    (h : List.Forall₂ Moniker.InBrackets (source.splitOn ':') (source'.splitOn ':')) :
    Alike InBrackets (compile master source bindings) (compile master source' bindings) := by
  rw [compile, compile, delimiter, cut_eq_splitOn, cut_eq_splitOn]
  apply Alike.bind (compilePieces_inBrackets h {} master)
  intro row row' hrow
  exact .ok hrow

theorem compilePieces_of_compile_error {source : Text} {failure : Failure}
    (h : compile master source bindings = .error failure) :
    compilePieces bindings (source.splitOn ':') {} master = .error failure := by
  rw [compile, delimiter, cut_eq_splitOn] at h
  cases hpieces : compilePieces bindings (source.splitOn ':') {} master with
  | error failure' =>
      rw [hpieces] at h
      cases h
      rfl
  | ok row =>
      rw [hpieces] at h
      cases h

namespace InBrackets

theorem live_of_live {ρ : Type} {t t' : Template ρ} (h : t.InBrackets t')
    (hlive : t'.live = true) : t.live = true :=
  Segment.any_live_of_inBrackets h hlive

variable {t t' : Template ρ} (h : t.InBrackets t')
include h

theorem next_fst : t'.next.1 = t.next.1 :=
  (Segment.nextAll_inBrackets h).left

theorem next_snd : t.next.2.InBrackets t'.next.2 :=
  (Segment.nextAll_inBrackets h).right

theorem after (k : Nat) : (after next k t).InBrackets (after next k t') :=
  after_relates (R := InBrackets) (fun _ _ => next_snd) k h

end InBrackets

/-!
# Texts in brackets

The pieces of a text have no colon in them, and brackets add none.
-/

theorem not_mem_of_mem_splitOn {separator : Char} {s piece : Text}
    (h : piece ∈ s.splitOn separator) : separator ∉ piece := by
  induction s generalizing piece with
  | nil =>
      rw [List.splitOn_nil, List.mem_singleton] at h
      rw [h]
      exact List.not_mem_nil
  | cons c s ih =>
      rw [List.splitOn_cons_eq_if_modifyHead] at h
      split at h
      · cases h with
        | head =>
            exact List.not_mem_nil
        | tail _ hmem =>
            exact ih hmem
      · rename_i hc
        cases hs : s.splitOn separator with
        | nil =>
            exact absurd hs (List.splitOn_ne_nil separator s)
        | cons first rest =>
            rw [hs] at h ih
            cases h with
            | head =>
                apply List.not_mem_cons_of_ne_of_not_mem _ (ih List.mem_cons_self)
                intro heq
                exact hc (beq_iff_eq.mpr heq.symm)
            | tail _ hmem =>
                exact ih (List.mem_cons_of_mem first hmem)

theorem colon_not_mem_of_inBrackets {raw raw' : Text} (h : Moniker.InBrackets raw raw')
    (hraw : ':' ∉ raw) : ':' ∉ raw' := by
  cases h with
  | same =>
      exact hraw
  | bracketed hbare =>
      simp [bracketed, hraw]

theorem splitOn_intercalate_of_forall₂ {R : Text -> Text -> Prop}
    (hR : forall raw raw', R raw raw' -> ':' ∉ raw -> ':' ∉ raw') {source : Text}
    {pieces' : List Text} (h : List.Forall₂ R (source.splitOn ':') pieces') :
    ([':'].intercalate pieces').splitOn ':' = pieces' := by
  apply List.splitOn_intercalate
  · intro piece' hpiece'
    rcases List.mem_iff_getElem.mp hpiece' with ⟨i, hi, rfl⟩
    rcases List.forall₂_iff_get.mp h with ⟨hlength, hpieces⟩
    exact hR _ _ (hpieces i (hlength.symm ▸ hi) hi) (not_mem_of_mem_splitOn (List.getElem_mem _))
  · intro hnil
    rw [hnil, List.forall₂_nil_right_iff] at h
    exact List.splitOn_ne_nil ':' source h

/-- A template with some of its fragments in brackets compiles exactly if the plain
one does, and otherwise fails in the same way at the same fragment.  Both give the
same at every step, and the one with the brackets is not live for longer. -/
theorem compile_of_inBrackets {source : Text} {pieces' : List Text}
    (h : List.Forall₂ Moniker.InBrackets (source.splitOn ':') pieces') (master : ρ)
    (bindings : Bindings) :
    ([':'].intercalate pieces').splitOn ':' = pieces' ∧
      ((exists t, compile master source bindings = .ok t) <->
        exists t', compile master ([':'].intercalate pieces') bindings = .ok t') ∧
      (forall failure, compile master source bindings = .error failure ->
        exists place failure', failure.InBrackets failure' ∧
          compile master ([':'].intercalate pieces') bindings = .error failure' ∧
          FailsAt bindings (source.splitOn ':') {} master place failure ∧
          FailsAt bindings pieces' {} master place failure') ∧
      forall t t', compile master source bindings = .ok t ->
        compile master ([':'].intercalate pieces') bindings = .ok t' ->
          forall k, (after next k t').next.1 = (after next k t).next.1 ∧
            ((after next k t').live = true -> (after next k t).live = true) := by
  have hsplit := splitOn_intercalate_of_forall₂ (fun _ _ => colon_not_mem_of_inBrackets) h
  have halike : Alike InBrackets (compile master source bindings)
      (compile master ([':'].intercalate pieces') bindings) := by
    apply compile_inBrackets
    rw [hsplit]
    exact h
  refine ⟨hsplit, halike.ok_iff, ?_, ?_⟩
  · intro failure hfailure
    rw [hfailure] at halike
    rcases halike.of_error with ⟨failure', hbrackets, hfailure'⟩
    have hpieces := compilePieces_of_compile_error hfailure
    have hpieces' := compilePieces_of_compile_error hfailure'
    rw [hsplit] at hpieces'
    rw [← List.take_length (l := source.splitOn ':')] at hpieces
    rcases exists_failsAt_of_take _ hpieces with ⟨place, hplace⟩
    exact ⟨place, failure', hbrackets, hfailure', hplace, hplace.inBrackets h hpieces'⟩
  · intro t t' ht ht' k
    rw [ht, ht'] at halike
    cases halike with
    | ok hrow =>
        exact ⟨(hrow.after k).next_fst, (hrow.after k).live_of_live⟩

/-- A counter behind a letter, with and without brackets.  With them the template
is only live until the letter was given. -/
theorem compile_of_inBrackets_counter :
    exists t t', compile (Stream.ofSeed 3) "b:n++".toList
        { entries := [('b', "x".toList), ('n', "01".toList)] } = .ok t ∧
      compile (Stream.ofSeed 3) "b:[n++]".toList
        { entries := [('b', "x".toList), ('n', "01".toList)] } = .ok t' ∧
      (forall k, (after next k t').next.1 = (after next k t).next.1) ∧
      (after next 1 t).live = true ∧ (after next 1 t').live = false := by
  generalize Stream.ofSeed 3 = master
  have hpieces : List.Forall₂ Moniker.InBrackets ("b:n++".toList.splitOn ':')
      ["b".toList, "[n++]".toList] :=
    .cons .same (.cons (.bracketed (bare_iff.mpr rfl)) .nil)
  have hcompile := compile_eq_plan master "b:n++".toList
    { entries := [('b', "x".toList), ('n', "01".toList)] }
  have hcompile' := compile_eq_plan master "b:[n++]".toList
    { entries := [('b', "x".toList), ('n', "01".toList)] }
  have hsteps := (compile_of_inBrackets hpieces master
    { entries := [('b', "x".toList), ('n', "01".toList)] }).right.right.right _ _ hcompile hcompile'
  exact ⟨_, _, hcompile, hcompile', fun k => (hsteps k).left, rfl, rfl⟩

end Template
end Moniker
