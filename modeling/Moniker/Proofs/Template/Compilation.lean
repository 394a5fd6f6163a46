import Moniker.Proofs.Fragment.Reading
import Moniker.Proofs.Template.Plan
import Moniker.Proofs.Text.Words
import Mathlib.Data.List.Forall2
import Mathlib.Data.List.Induction

/-!
# Which templates compile

A template compiles if every piece of it names a fragment that finds its data,
and not two of them name a counter.  Otherwise the leftmost piece that goes
wrong is reported, together with the first thing that is wrong with it.
-/

namespace Moniker

variable {ρ : Type} [Chance ρ]

/-!
# Data for a form
-/

namespace Bindings

/-- A form finds data that it can work with.  A literal needs none, only a payload. -/
inductive Supplies (bindings : Bindings) : Form -> Text -> Prop where
  | literal {payload : Text} : payload ≠ [] -> Supplies bindings (.literal payload) []
  | data {key : Char} {use : Use} {data : Text} :
      bindings.get? key = some data -> data ≠ [] -> Supplies bindings (.data key use) data

/-- A form has nothing to work with although its variable is bound. -/
inductive LeavesEmpty (bindings : Bindings) : Form -> Prop where
  | literal : LeavesEmpty bindings (.literal [])
  | data {key : Char} {use : Use} :
      bindings.get? key = some [] -> LeavesEmpty bindings (.data key use)

theorem supplies_or_lacks (bindings : Bindings) (form : Form) :
    (exists data, bindings.Supplies form data) ∨
      (exists key, form.key? = some key ∧ bindings.get? key = none) ∨
      bindings.LeavesEmpty form := by
  cases form with
  | literal payload =>
      cases payload with
      | nil =>
          exact Or.inr (Or.inr .literal)
      | cons c payload =>
          exact Or.inl ⟨[], .literal (List.cons_ne_nil c payload)⟩
  | data key use =>
      cases hdata : bindings.get? key with
      | none =>
          exact Or.inr (Or.inl ⟨key, rfl, hdata⟩)
      | some data =>
          cases data with
          | nil =>
              exact Or.inr (Or.inr (.data hdata))
          | cons c data =>
              exact Or.inl ⟨c :: data, .data hdata (List.cons_ne_nil c data)⟩

end Bindings

theorem Form.Written.ne_nil {text : Text} {form : Form} (h : Written text form) :
    text ≠ [] := by
  cases h with
  | sample hx hmeasured | counter hx hmeasured =>
      exact List.append_ne_nil_of_right_ne_nil _ (List.cons_ne_nil _ _)
  | _ =>
      exact List.cons_ne_nil _ _

namespace Part

theorem sufficient_of_supplies {bindings : Bindings} {text data : Text} {form : Form}
    (hwritten : Form.Written text form) (h : bindings.Supplies form data) :
    sufficient data form = true := by
  cases h with
  | literal hpayload =>
      simpa [sufficient] using hpayload
  | data hdata hne =>
      cases hwritten with
      | sample hx hmeasured | counter hx hmeasured =>
          simp [sufficient, hne, hmeasured.pos]
      | _ =>
          simp [sufficient, hne]

theorem complete_of_supplies {bindings : Bindings} {raw data : Text} {fragment : Fragment}
    (hnames : Names raw fragment) (h : bindings.Supplies fragment.form data) :
    Part.complete { fragment := fragment, data := data } = true := by
  rw [complete, sufficient_of_supplies hnames.written h]
  simpa using hnames.written.ne_nil

theorem not_sufficient_of_leavesEmpty {bindings : Bindings} {form : Form}
    (h : bindings.LeavesEmpty form) : sufficient [] form = false := by
  cases h with
  | literal =>
      rfl
  | data hdata =>
      rename_i key use
      cases use <;> rfl

end Part

/-!
# Blame

What is wrong with a piece is told in a fixed order: it names no fragment, it
names a counter behind another one, its variable is not bound, or there is
nothing to work with.
-/

namespace Template

def Usable (bindings : Bindings) (raw : Text) : Prop :=
  exists fragment data, Names raw fragment ∧ bindings.Supplies fragment.form data

structure WellFormed (bindings : Bindings) (pieces : List Text) : Prop where
  usable : forall raw, raw ∈ pieces -> Usable bindings raw
  oneCounter : pieces.Pairwise fun raw raw' => ¬ (NamesCounter raw ∧ NamesCounter raw')

/-- The failure that a piece is blamed with.  `counted` says that a piece before
it names a counter. -/
inductive Blames (bindings : Bindings) (counted : Prop) (raw : Text) : Failure -> Prop where
  | unknownForm {text : Text} {resolver : Bool} :
      Bare raw text resolver -> (forall form, ¬ Form.Written text form) ->
        Blames bindings counted raw (.unknownForm text)
  | secondCounter {fragment : Fragment} :
      Names raw fragment -> fragment.form.isCounter = true -> counted ->
        Blames bindings counted raw (.secondCounter fragment.text)
  | unbound {fragment : Fragment} {key : Char} :
      Names raw fragment -> ¬ (fragment.form.isCounter = true ∧ counted) ->
        fragment.form.key? = some key -> bindings.get? key = none ->
        Blames bindings counted raw (.unbound key fragment.text)
  | incomplete {fragment : Fragment} :
      Names raw fragment -> ¬ (fragment.form.isCounter = true ∧ counted) ->
        bindings.LeavesEmpty fragment.form -> Blames bindings counted raw (.incomplete raw)

structure Fills (bindings : Bindings) (raw : Text) (part : Part) : Prop where
  names : Names raw part.fragment
  supplies : bindings.Supplies part.fragment.form part.data

theorem fills_or_blames (bindings : Bindings) (counted : Prop) (raw : Text) :
    (exists part, Fills bindings raw part ∧
        ¬ (part.fragment.form.isCounter = true ∧ counted)) ∨
      exists failure, Blames bindings counted raw failure := by
  rcases names_or_unwritten raw with ⟨fragment, hnames⟩ | ⟨text, resolver, hbare, hunwritten⟩
  · by_cases hcounter : fragment.form.isCounter = true ∧ counted
    · exact Or.inr ⟨_, .secondCounter hnames hcounter.left hcounter.right⟩
    · rcases bindings.supplies_or_lacks fragment.form with
        ⟨data, hsupplies⟩ | ⟨key, hkey, hdata⟩ | hempty
      · exact Or.inl ⟨⟨fragment, data⟩, ⟨hnames, hsupplies⟩, hcounter⟩
      · exact Or.inr ⟨_, .unbound hnames hcounter hkey hdata⟩
      · exact Or.inr ⟨_, .incomplete hnames hcounter hempty⟩
  · exact Or.inr ⟨_, .unknownForm hbare hunwritten⟩

/-!
# Planning one piece
-/

theorem dataFor_of_supplies {bindings : Bindings} {fragment : Fragment} {data : Text}
    (h : bindings.Supplies fragment.form data) : dataFor bindings fragment = .ok data := by
  unfold dataFor
  cases hform : fragment.form with
  | literal payload =>
      rw [hform] at h
      cases h
      rfl
  | data key use =>
      rw [hform] at h
      cases h with
      | data hdata hne =>
          simp [Form.key?, hdata]

theorem dataFor_of_leavesEmpty {bindings : Bindings} {fragment : Fragment}
    (h : bindings.LeavesEmpty fragment.form) : dataFor bindings fragment = .ok [] := by
  unfold dataFor
  cases hform : fragment.form with
  | literal payload =>
      rfl
  | data key use =>
      rw [hform] at h
      cases h with
      | data hdata =>
          simp [Form.key?, hdata]

theorem planPiece_of_names {bindings : Bindings} {raw : Text} {fragment : Fragment}
    (h : Names raw fragment) {session : Session}
    (hcounter : ¬ (fragment.form.isCounter = true ∧ session.counterRead = true)) :
    planPiece bindings session raw =
      (partOf bindings raw fragment,
        { counterRead := session.counterRead || fragment.form.isCounter }) := by
  rw [planPiece, Session.read_of_names h, if_neg hcounter]

theorem planPiece_of_fills {bindings : Bindings} {raw : Text} {part : Part}
    (h : Fills bindings raw part) {session : Session}
    (hcounter : ¬ (part.fragment.form.isCounter = true ∧ session.counterRead = true)) :
    planPiece bindings session raw =
      (.ok part, { counterRead := session.counterRead || part.fragment.form.isCounter }) := by
  have hcomplete := Part.complete_of_supplies h.names h.supplies
  rw [planPiece_of_names h.names hcounter, partOf, dataFor_of_supplies h.supplies]
  simp [hcomplete]

theorem planPiece_of_blames {bindings : Bindings} {raw : Text} {failure : Failure}
    {session : Session} (h : Blames bindings (session.counterRead = true) raw failure) :
    (planPiece bindings session raw).1 = .error failure := by
  cases h with
  | unknownForm hbare hunwritten =>
      rw [planPiece, Session.read_of_unwritten hbare hunwritten]
  | secondCounter hnames hcounter hcounted =>
      rw [planPiece, Session.read_of_names hnames, if_pos ⟨hcounter, hcounted⟩]
  | unbound hnames hcounter hkey hdata =>
      rw [planPiece_of_names hnames hcounter, partOf, dataFor, hkey]
      simp [hdata]
  | incomplete hnames hcounter hempty =>
      have hcomplete : forall fragment : Fragment, bindings.LeavesEmpty fragment.form ->
          Part.complete { fragment := fragment, data := [] } = false := by
        intro fragment hfragment
        rw [Part.complete, Part.not_sufficient_of_leavesEmpty hfragment, Bool.false_and]
      rw [planPiece_of_names hnames hcounter, partOf, dataFor_of_leavesEmpty hempty]
      simp [hcomplete _ hempty]

/-!
# Planning all pieces

A plan takes the pieces from left to right.  Its session has read a counter if
one stood before the first piece, or if one of the pieces so far names one.
-/

theorem WellFormed.tail {bindings : Bindings} {raw : Text} {rest : List Text}
    (h : WellFormed bindings (raw :: rest)) : WellFormed bindings rest where
  usable raw' hmem := h.usable raw' (List.mem_cons_of_mem raw hmem)
  oneCounter := (List.pairwise_cons.mp h.oneCounter).right

/-- A usable piece is planned if it is not one counter too many, and no piece
behind it is one after that if none was before. -/
theorem plan_step {bindings : Bindings} {raw : Text} {rest : List Text} {session : Session}
    (h : WellFormed bindings (raw :: rest))
    (hcounted : session.counterRead = true -> forall r, r ∈ raw :: rest -> ¬ NamesCounter r) :
    exists part session', Fills bindings raw part ∧
      planPiece bindings session raw = (.ok part, session') ∧
      (session'.counterRead = true <-> session.counterRead = true ∨ NamesCounter raw) ∧
      (session'.counterRead = true -> forall r, r ∈ rest -> ¬ NamesCounter r) := by
  rcases h.usable raw List.mem_cons_self with ⟨fragment, data, hnames, hsupplies⟩
  have hfills : Fills bindings raw { fragment := fragment, data := data } := ⟨hnames, hsupplies⟩
  have hcounter : ¬ (fragment.form.isCounter = true ∧ session.counterRead = true) := by
    intro hboth
    exact hcounted hboth.right raw List.mem_cons_self (hnames.namesCounter_iff.mpr hboth.left)
  have hsession : (session.counterRead || fragment.form.isCounter) = true <->
      session.counterRead = true ∨ NamesCounter raw := by
    rw [Bool.or_eq_true, hnames.namesCounter_iff]
  refine ⟨_, _, hfills, planPiece_of_fills hfills hcounter, hsession, ?_⟩
  intro hread r hr hnamesCounter
  cases hsession.mp hread with
  | inl hbefore =>
      exact hcounted hbefore r (List.mem_cons_of_mem raw hr) hnamesCounter
  | inr hraw =>
      exact (List.pairwise_cons.mp h.oneCounter).left r hr ⟨hraw, hnamesCounter⟩

theorem plan_of_wellFormed {bindings : Bindings} {pieces : List Text} (session : Session)
    (h : WellFormed bindings pieces)
    (hcounted : session.counterRead = true -> forall r, r ∈ pieces -> ¬ NamesCounter r) :
    exists parts, plan bindings pieces session = .ok parts ∧
      List.Forall₂ (Fills bindings) pieces parts := by
  induction pieces generalizing session with
  | nil =>
      exact ⟨[], rfl, .nil⟩
  | cons raw rest ih =>
      rcases plan_step h hcounted with ⟨part, session', hfills, hpiece, _, hrest⟩
      rcases ih session' h.tail hrest with ⟨parts, hplan, hparts⟩
      exists part :: parts
      constructor
      · rw [plan, hpiece]
        simp only [hplan]
        rfl
      · exact .cons hfills hparts

theorem plan_of_blames {bindings : Bindings} {before behind : List Text} {raw : Text}
    {failure : Failure} {counted : Prop} {session : Session} (hbefore : WellFormed bindings before)
    (hcounted : session.counterRead = true -> forall r, r ∈ before -> ¬ NamesCounter r)
    (hsession : session.counterRead = true ∨ (exists r, r ∈ before ∧ NamesCounter r) <-> counted)
    (h : Blames bindings counted raw failure) :
    plan bindings (before ++ raw :: behind) session = .error failure := by
  induction before generalizing session with
  | nil =>
      have hread : (session.counterRead = true) = counted := by
        rw [← propext hsession]
        simp
      subst hread
      have hpiece := planPiece_of_blames h
      rw [List.nil_append, plan]
      rcases hanswer : planPiece bindings session raw with ⟨answer, session'⟩
      rw [hanswer] at hpiece
      cases hpiece
      rfl
  | cons first before ih =>
      rcases plan_step hbefore hcounted with ⟨part, session', _, hpiece, hread, hrest⟩
      have hsession' : session'.counterRead = true ∨ (exists r, r ∈ before ∧ NamesCounter r) <->
          counted := by
        rw [← hsession, hread]
        simp [or_assoc]
      have hplan := ih hbefore.tail hrest hsession'
      rw [List.cons_append, plan, hpiece]
      simp only [hplan]
      rfl

theorem wellFormed_or_blames (bindings : Bindings) (pieces : List Text) :
    WellFormed bindings pieces ∨
      exists before raw behind failure, pieces = before ++ raw :: behind ∧
        WellFormed bindings before ∧
        Blames bindings (exists r, r ∈ before ∧ NamesCounter r) raw failure := by
  induction pieces using List.reverseRecOn with
  | nil =>
      exact Or.inl ⟨fun raw hraw => absurd hraw List.not_mem_nil, .nil⟩
  | append_singleton pieces last ih =>
      rcases ih with hformed | ⟨before, raw, behind, failure, rfl, hbefore, hblames⟩
      · rcases fills_or_blames bindings (exists r, r ∈ pieces ∧ NamesCounter r) last with
          ⟨part, hfills, hcounter⟩ | ⟨failure, hblames⟩
        · apply Or.inl
          constructor
          · intro raw hraw
            rcases List.mem_append.mp hraw with hmem | hlast
            · exact hformed.usable raw hmem
            · rw [List.mem_singleton.mp hlast]
              exact ⟨part.fragment, part.data, hfills.names, hfills.supplies⟩
          · apply List.pairwise_append.mpr
            refine ⟨hformed.oneCounter, List.pairwise_singleton _ _, ?_⟩
            intro raw hraw raw' hraw' hboth
            rw [List.mem_singleton.mp hraw', hfills.names.namesCounter_iff] at hboth
            exact hcounter ⟨hboth.right, raw, hraw, hboth.left⟩
        · exact Or.inr ⟨pieces, last, [], failure, rfl, hformed, hblames⟩
      · refine Or.inr ⟨before, raw, behind ++ [last], failure, ?_, hbefore, hblames⟩
        rw [List.append_assoc, List.cons_append]

/-!
# The segments of a compiled template
-/

/-- What a form makes of its data. -/
inductive Makes (text data : Text) : Form -> Source ρ -> Prop where
  | literal {payload : Text} : Makes text data (.literal payload) (.literal { text := payload })
  | whole {key : Char} : Makes text data (.data key .whole) (.whole { text := data })
  | sample {key : Char} {n : Nat} {stream : ρ} :
      Makes text data (.data key (.sample n))
        (.sample { alphabet := data, length := n, stream := stream })
  | part {key : Char} {span : Span} :
      Makes text data (.data key (.part span))
        (.part { fragment := text, data := data, span := span })
  | counter {key : Char} {n : Nat} :
      Makes text data (.data key (.counter n)) (.counter { digits := data, width := n })

/-- A segment is what the fragment of a piece makes of its data. -/
def Realizes (bindings : Bindings) (raw : Text) (s : Segment ρ) : Prop :=
  exists fragment data, Names raw fragment ∧ bindings.Supplies fragment.form data ∧
    s.text = fragment.text ∧ s.resolver = fragment.resolver ∧
    Makes fragment.text data fragment.form s.source

theorem makes_ofForm {ρ : Type} (text data : Text) (stream : ρ) (form : Form) :
    Makes text data form (Source.ofForm text data stream form) := by
  cases form with
  | literal payload =>
      exact .literal
  | data key use =>
      cases use with
      | whole =>
          exact .whole
      | sample n =>
          exact .sample
      | part span =>
          exact .part
      | counter n =>
          exact .counter

theorem Fills.realizes {ρ : Type} {bindings : Bindings} {raw : Text} {part : Part}
    (h : Fills bindings raw part) (stream : ρ) :
    Realizes bindings raw (part.segment stream) :=
  ⟨part.fragment, part.data, h.names, h.supplies, rfl, rfl, makes_ofForm _ _ _ _⟩

theorem forall₂_realizes {bindings : Bindings} {pieces : List Text} {parts : List Part}
    (h : List.Forall₂ (Fills bindings) pieces parts) (master : ρ) :
    List.Forall₂ (Realizes bindings) pieces (supplied parts master) := by
  induction h generalizing master with
  | nil =>
      exact .nil
  | cons hfirst hrest ih =>
      exact .cons (hfirst.realizes _) (ih _)

/-!
# Compilation
-/

theorem cut_eq_splitOn (separator : Char) (s : Text) :
    Text.cut separator s = s.splitOn separator :=
  Text.cutWhere_eq_splitOnP (· == separator) s

theorem compile_of_wellFormed {bindings : Bindings} {source : Text} (master : ρ)
    (h : WellFormed bindings (source.splitOn ':')) :
    exists t, compile master source bindings = .ok t ∧ t.source = source ∧
      List.Forall₂ (Realizes bindings) (source.splitOn ':') t.segments := by
  have hcounted : ({} : Session).counterRead = true ->
      forall r, r ∈ source.splitOn ':' -> ¬ NamesCounter r := by
    intro hread
    cases hread
  rcases plan_of_wellFormed {} h hcounted with ⟨parts, hplan, hparts⟩
  refine ⟨{ source := source, segments := supplied parts master }, ?_, rfl,
    forall₂_realizes hparts master⟩
  rw [compile_eq_plan, cut_eq_splitOn]
  show (plan bindings (source.splitOn ':') {}).map _ = _
  rw [hplan]
  rfl

theorem compile_of_blames {bindings : Bindings} {source raw : Text} {before behind : List Text}
    {failure : Failure} (master : ρ) (hsource : source.splitOn ':' = before ++ raw :: behind)
    (hbefore : WellFormed bindings before)
    (h : Blames bindings (exists r, r ∈ before ∧ NamesCounter r) raw failure) :
    compile master source bindings = .error failure := by
  have hplan : plan bindings (before ++ raw :: behind) {} = .error failure := by
    apply plan_of_blames hbefore _ _ h
    · intro hread
      cases hread
    · simp
  rw [compile_eq_plan, cut_eq_splitOn]
  show (plan bindings (source.splitOn ':') {}).map _ = _
  rw [hsource, hplan]
  rfl

theorem wellFormed_of_compile {bindings : Bindings} {source : Text} {master : ρ}
    {t : Template ρ} (h : compile master source bindings = .ok t) :
    WellFormed bindings (source.splitOn ':') := by
  rcases wellFormed_or_blames bindings (source.splitOn ':') with
    hformed | ⟨before, raw, behind, failure, hsource, hbefore, hblames⟩
  · exact hformed
  · rw [compile_of_blames master hsource hbefore hblames] at h
    cases h

theorem realizes_of_compile {bindings : Bindings} {source : Text} {master : ρ}
    {t : Template ρ} (h : compile master source bindings = .ok t) :
    t.source = source ∧ List.Forall₂ (Realizes bindings) (source.splitOn ':') t.segments := by
  rcases compile_of_wellFormed master (wellFormed_of_compile h) with ⟨t', ht', hrealizes⟩
  rw [h] at ht'
  cases ht'
  exact hrealizes

/-!
# One counter

Compiled templates have at most one counter among their segments.
-/

end Template

def Source.isCounter : Source ρ -> Bool
  | .counter _ => true
  | _ => false

namespace Template

theorem isCounter_of_makes {ρ : Type} {text data : Text} {form : Form} {source : Source ρ}
    (h : Makes text data form source) : source.isCounter = form.isCounter := by
  cases h with
  | literal | whole | sample | part | counter =>
      rfl

theorem isCounter_iff_of_realizes {ρ : Type} {bindings : Bindings} {raw : Text} {s : Segment ρ}
    (h : Realizes bindings raw s) : s.source.isCounter = true <-> NamesCounter raw := by
  rcases h with ⟨fragment, data, hnames, _, _, _, hmakes⟩
  rw [isCounter_of_makes hmakes, hnames.namesCounter_iff]

theorem oneCounter_of_compile {bindings : Bindings} {source : Text} {master : ρ}
    {t : Template ρ} (h : compile master source bindings = .ok t) :
    t.segments.Pairwise fun s s' =>
      ¬ (s.source.isCounter = true ∧ s'.source.isCounter = true) := by
  have hpieces := (wellFormed_of_compile h).oneCounter
  rcases List.forall₂_iff_get.mp (realizes_of_compile h).right with ⟨hlength, hrealizes⟩
  rw [List.pairwise_iff_getElem] at hpieces
  rw [List.pairwise_iff_getElem]
  intro i j hi hj hij hboth
  apply hpieces i j (by omega) (by omega) hij
  constructor
  · exact (isCounter_iff_of_realizes (hrealizes i (by omega) hi)).mp hboth.left
  · exact (isCounter_iff_of_realizes (hrealizes j (by omega) hj)).mp hboth.right

/-- A template compiles exactly if its pieces are well formed, and then its
segments are what the fragments make of their data.  Otherwise the failure is the
blame of the leftmost piece that goes wrong. -/
theorem compile_iff (master : ρ) (source : Text) (bindings : Bindings) :
    ((exists t, compile master source bindings = .ok t) <->
        WellFormed bindings (source.splitOn ':')) ∧
      (forall failure, compile master source bindings = .error failure <->
        exists before raw behind, source.splitOn ':' = before ++ raw :: behind ∧
          WellFormed bindings before ∧
          Blames bindings (exists r, r ∈ before ∧ NamesCounter r) raw failure) ∧
      forall t, compile master source bindings = .ok t ->
        t.source = source ∧
          List.Forall₂ (Realizes bindings) (source.splitOn ':') t.segments ∧
          forall s, s ∈ t.segments -> s.complete = true := by
  refine ⟨⟨?_, ?_⟩, fun failure => ⟨?_, ?_⟩, ?_⟩
  · intro h
    rcases h with ⟨t, ht⟩
    exact wellFormed_of_compile ht
  · intro h
    rcases compile_of_wellFormed master h with ⟨t, ht, _⟩
    exact ⟨t, ht⟩
  · intro h
    rcases wellFormed_or_blames bindings (source.splitOn ':') with
      hformed | ⟨before, raw, behind, failure', hsource, hbefore, hblames⟩
    · rcases compile_of_wellFormed master hformed with ⟨t, ht, _⟩
      rw [h] at ht
      cases ht
    · rw [compile_of_blames master hsource hbefore hblames] at h
      cases h
      exact ⟨before, raw, behind, hsource, hbefore, hblames⟩
  · intro h
    rcases h with ⟨before, raw, behind, hsource, hbefore, hblames⟩
    exact compile_of_blames master hsource hbefore hblames
  · intro t ht
    rcases realizes_of_compile ht with ⟨hsource, hrealizes⟩
    refine ⟨hsource, hrealizes, ?_⟩
    intro s hs
    rcases segment_of_compile ht hs with ⟨part, stream, hcomplete, rfl⟩
    rw [Part.complete_segment, hcomplete]

end Template
end Moniker
