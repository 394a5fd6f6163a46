import Moniker.Proofs.Fragment.Spelling
import Moniker.Proofs.Template.Brackets
import Moniker.Random.Stream

/-!
# Templates in other spellings

What a template does depends on the forms of its fragments and not on how they are
spelled.  Spellings are kept in a template only to report a span that does not fit,
so two templates are compared with all spellings taken out of them.
-/

namespace Moniker

variable {ρ : Type} [Chance ρ]

/-!
# Pieces of one form
-/

def marked (resolver : Bool) (text : Text) : Text :=
  if resolver then bracketed text else text

theorem eq_marked_of_bare {raw text : Text} {resolver : Bool} (h : Bare raw text resolver) :
    raw = marked resolver text := by
  cases h with
  | bracketed hfeed | plain hplain =>
      rfl

theorem bare_marked {text : Text} {form : Form} (h : Form.Written text form) (resolver : Bool) :
    Bare (marked resolver text) text resolver := by
  cases resolver with
  | true =>
      exact .bracketed h.feed_not_mem
  | false =>
      apply Bare.plain
      rintro ⟨inner, _, rfl⟩
      exact h.bracket_not_mem List.mem_cons_self

theorem length_le_marked (resolver : Bool) (text : Text) :
    text.length ≤ (marked resolver text).length := by
  cases resolver with
  | true =>
      exact Nat.le_succ_of_le (List.sublist_append_left text [']']).length_le
  | false =>
      exact Nat.le_refl _

theorem names_iff_marked {raw : Text} {fragment : Fragment} :
    Names raw fragment <->
      raw = marked fragment.resolver fragment.text ∧
        Form.Written fragment.text fragment.form := by
  constructor
  · intro h
    exact ⟨eq_marked_of_bare h.bare, h.written⟩
  · rintro ⟨hraw, hwritten⟩
    rw [hraw]
    exact ⟨bare_marked hwritten fragment.resolver, hwritten⟩

namespace Session

theorem read_new_eq_ok_iff {raw : Text} {fragment : Fragment} :
    (read {} raw).1 = .ok fragment <-> Names raw fragment := by
  constructor
  · intro h
    rcases names_or_unwritten raw with ⟨fragment', hnames⟩ | ⟨text, resolver, hbare, hunwritten⟩
    · rw [read_of_names hnames, if_neg (by simp)] at h
      cases h
      exact hnames
    · rw [read_of_unwritten hbare hunwritten] at h
      cases h
  · intro h
    rw [read_of_names h, if_neg (by simp)]

end Session

/-- The second piece is the first one, or a new session reads the same form from it. -/
inductive Respells : Text -> Text -> Prop where
  | same {raw : Text} : Respells raw raw
  | read {raw raw' : Text} {fragment fragment' : Fragment} :
      (Session.read {} raw).1 = .ok fragment ->
      (Session.read {} raw').1 = .ok fragment' ->
      fragment'.form = fragment.form ->
      fragment'.resolver = fragment.resolver ->
      Respells raw raw'

namespace Respells

variable {raw raw' : Text}

theorem symm (h : Respells raw raw') : Respells raw' raw := by
  cases h with
  | same =>
      exact .same
  | read hread hread' hform hresolver =>
      exact .read hread' hread hform.symm hresolver.symm

theorem names {fragment : Fragment} (h : Respells raw raw') (hnames : Names raw fragment) :
    exists fragment', Names raw' fragment' ∧ fragment'.form = fragment.form ∧
      fragment'.resolver = fragment.resolver := by
  cases h with
  | same =>
      exact ⟨fragment, hnames, rfl, rfl⟩
  | read hread hread' hform hresolver =>
      rw [hnames.unique (Session.read_new_eq_ok_iff.mp hread)]
      exact ⟨_, Session.read_new_eq_ok_iff.mp hread', hform, hresolver⟩

theorem namesCounter (h : Respells raw raw') (hcounter : NamesCounter raw) :
    NamesCounter raw' := by
  rcases hcounter with ⟨fragment, hnames, hform⟩
  rcases h.names hnames with ⟨fragment', hnames', hform', _⟩
  exact ⟨fragment', hnames', hform' ▸ hform⟩

theorem usable {bindings : Bindings} (h : Respells raw raw')
    (husable : Template.Usable bindings raw) : Template.Usable bindings raw' := by
  rcases husable with ⟨fragment, data, hnames, hsupplies⟩
  rcases h.names hnames with ⟨fragment', hnames', hform', _⟩
  exact ⟨fragment', data, hnames', hform' ▸ hsupplies⟩

theorem colon_not_mem (h : Respells raw raw') (hraw : ':' ∉ raw) : ':' ∉ raw' := by
  cases h with
  | same =>
      exact hraw
  | read hread hread' hform hresolver =>
      rename_i fragment fragment'
      rcases names_iff_marked.mp (Session.read_new_eq_ok_iff.mp hread') with ⟨rfl, hwritten⟩
      have htext := hwritten.colon_not_mem
      unfold marked
      split
      · simp [bracketed, htext]
      · exact htext

end Respells

/-!
# Spellings taken out

A segment keeps the text of its fragment, and so does an excerpt, which reports it.
-/

def Failure.unspelled : Failure -> Failure
  | .outOfBounds _ data start stop => .outOfBounds [] data start stop
  | failure => failure

def Excerpt.unspelled (x : Excerpt) : Excerpt :=
  { x with fragment := [] }

def Source.unspelled : Source ρ -> Source ρ
  | .part x => .part x.unspelled
  | source => source

def Segment.unspelled (s : Segment ρ) : Segment ρ :=
  { s with text := [], source := s.source.unspelled }

def Template.unspelled (t : Template ρ) : Template ρ where
  source := []
  segments := t.segments.map Segment.unspelled

theorem Excerpt.next_unspelled (x : Excerpt) :
    x.unspelled.next = (x.next.1.mapError Failure.unspelled, x.next.2.unspelled) := by
  unfold next value unspelled
  dsimp only
  cases x.span.positions x.data.length with
  | ok place | error place =>
      rfl

namespace Source

theorem next_unspelled (source : Source ρ) :
    source.unspelled.next =
      (source.next.1.mapError Failure.unspelled, source.next.2.unspelled) := by
  cases source with
  | literal x | whole x | sample s | counter c =>
      rfl
  | part x =>
      show (x.unspelled.next.1, part x.unspelled.next.2) = _
      rw [Excerpt.next_unspelled]
      rfl

theorem live_unspelled {ρ : Type} (source : Source ρ) : source.unspelled.live = source.live := by
  cases source with
  | literal x | whole x | sample s | part x | counter c =>
      rfl

end Source

namespace Segment

theorem next_unspelled (s : Segment ρ) :
    s.unspelled.next = (s.next.1.mapError Failure.unspelled, s.next.2.unspelled) :=
  congrArg (fun step => (step.1, { s.unspelled with source := step.2 }))
    s.source.next_unspelled

theorem nextAll_unspelled (row : List (Segment ρ)) :
    nextAll (row.map unspelled) =
      ((nextAll row).1.mapError Failure.unspelled, (nextAll row).2.map unspelled) := by
  induction row with
  | nil =>
      rfl
  | cons s row ih =>
      rw [List.map_cons, nextAll, nextAll, next_unspelled, ih]
      rcases s.next with ⟨answer, s'⟩
      cases answer with
      | error failure =>
          rfl
      | ok piece =>
          rcases nextAll row with ⟨answers, row'⟩
          cases answers with
          | error failure | ok pieces =>
              rfl

end Segment

namespace Template

theorem next_unspelled (t : Template ρ) :
    t.unspelled.next = (t.next.1.mapError Failure.unspelled, t.next.2.unspelled) := by
  show ((Segment.nextAll (t.segments.map Segment.unspelled)).1, _) = _
  rw [unspelled, Segment.nextAll_unspelled]
  rfl

theorem after_unspelled (t : Template ρ) (k : Nat) :
    after next k t.unspelled = (after next k t).unspelled :=
  after_map (fun t : Template ρ => congrArg Prod.snd t.next_unspelled) k t

theorem live_unspelled {ρ : Type} (t : Template ρ) : t.unspelled.live = t.live := by
  rw [live, live, unspelled, List.any_map]
  congr 1
  funext s
  show (!s.resolver && s.source.unspelled.live) = (!s.resolver && s.source.live)
  rw [Source.live_unspelled]

end Template

/-!
# Plans of one form
-/

/-- The parts differ at most in the texts of their fragments. -/
structure Part.Respells (part part' : Part) : Prop where
  form_eq : part'.fragment.form = part.fragment.form
  resolver_eq : part'.fragment.resolver = part.fragment.resolver
  data_eq : part'.data = part.data

theorem Part.Respells.unspelled_segment {ρ : Type} {part part' : Part} (h : part.Respells part')
    (stream : ρ) :
    (part'.segment stream).unspelled = (part.segment stream).unspelled := by
  rcases part with ⟨⟨text, resolver, form⟩, data⟩
  rcases part' with ⟨⟨text', resolver', form'⟩, data'⟩
  rcases h with ⟨rfl, rfl, rfl⟩
  cases form' with
  | literal payload =>
      rfl
  | data key use =>
      cases use with
      | whole | sample length | part span | counter width =>
          rfl

theorem Bindings.Supplies.unique {bindings : Bindings} {form : Form} {data data' : Text}
    (h : bindings.Supplies form data) (h' : bindings.Supplies form data') : data' = data := by
  cases h with
  | literal hpayload =>
      cases h' with
      | literal =>
          rfl
  | data hdata =>
      cases h' with
      | data hdata' =>
          exact Option.some.inj (hdata'.symm.trans hdata)

namespace Template

variable {bindings : Bindings}

theorem Fills.respells {raw raw' : Text} {part part' : Part} (h : Fills bindings raw part)
    (h' : Fills bindings raw' part') (hraw : Moniker.Respells raw raw') : part.Respells part' := by
  rcases hraw.names h.names with ⟨fragment, hnames, hform, hresolver⟩
  have hfragment := h'.names.unique hnames
  have hsupplies := h'.supplies
  rw [hfragment, hform] at hsupplies
  exact ⟨hfragment ▸ hform, hfragment ▸ hresolver, h.supplies.unique hsupplies⟩

theorem forall₂_respells {pieces pieces' : List Text} {parts parts' : List Part}
    (hpieces : List.Forall₂ Moniker.Respells pieces pieces')
    (h : List.Forall₂ (Fills bindings) pieces parts)
    (h' : List.Forall₂ (Fills bindings) pieces' parts') :
    List.Forall₂ Part.Respells parts parts' := by
  induction hpieces generalizing parts parts' with
  | nil =>
      cases h
      cases h'
      exact .nil
  | cons hraw _ ih =>
      cases h with
      | cons hfirst hrest =>
          cases h' with
          | cons hfirst' hrest' =>
              exact .cons (hfirst.respells hfirst' hraw) (ih hrest hrest')

theorem supplied_unspelled {parts parts' : List Part}
    (h : List.Forall₂ Part.Respells parts parts') (master : ρ) :
    (supplied parts' master).map Segment.unspelled =
      (supplied parts master).map Segment.unspelled := by
  induction h generalizing master with
  | nil =>
      rfl
  | cons hfirst _ ih =>
      rw [supplied, supplied, List.map_cons, List.map_cons, hfirst.unspelled_segment, ih]

/-!
# Compilation
-/

theorem map_eq_of_respells {f : Text -> Prop}
    (hf : forall raw raw', Moniker.Respells raw raw' -> f raw -> f raw')
    {pieces pieces' : List Text} (h : List.Forall₂ Moniker.Respells pieces pieces') :
    pieces'.map f = pieces.map f := by
  induction h with
  | nil =>
      rfl
  | cons hraw _ ih =>
      rw [List.map_cons, List.map_cons, ih, propext ⟨hf _ _ hraw.symm, hf _ _ hraw⟩]

/-- Only these two facts about each piece decide whether all of them are well formed. -/
theorem wellFormed_iff_map {pieces : List Text} :
    WellFormed bindings pieces <->
      (forall p, p ∈ pieces.map (Usable bindings) -> p) ∧
        (pieces.map NamesCounter).Pairwise fun p p' => ¬ (p ∧ p') := by
  rw [List.forall_mem_map, List.pairwise_map]
  exact ⟨fun h => ⟨h.usable, h.oneCounter⟩, fun h => ⟨h.left, h.right⟩⟩

theorem wellFormed_iff_of_respells {pieces pieces' : List Text}
    (h : List.Forall₂ Moniker.Respells pieces pieces') :
    WellFormed bindings pieces' <-> WellFormed bindings pieces := by
  rw [wellFormed_iff_map, wellFormed_iff_map, map_eq_of_respells (fun _ _ => Respells.usable) h,
    map_eq_of_respells (fun _ _ => Respells.namesCounter) h]

theorem exists_compile_iff {source : Text} {master : ρ} :
    (exists t, compile master source bindings = .ok t) <->
      WellFormed bindings (source.splitOn ':') := by
  constructor
  · rintro ⟨t, ht⟩
    exact wellFormed_of_compile ht
  · intro h
    rcases compile_of_wellFormed master h with ⟨t, ht, _⟩
    exact ⟨t, ht⟩

theorem exists_fills_of_compile {source : Text} {master : ρ} {t : Template ρ}
    (h : compile master source bindings = .ok t) :
    exists parts, List.Forall₂ (Fills bindings) (source.splitOn ':') parts ∧
      t.segments = supplied parts master := by
  rcases plan_of_compile h with ⟨parts, hplan, rfl⟩
  rcases plan_of_wellFormed {} (wellFormed_of_compile h) (fun hread => by cases hread) with
    ⟨parts', hplan', hparts⟩
  rw [delimiter, cut_eq_splitOn, hplan'] at hplan
  cases hplan
  exact ⟨parts, hparts, rfl⟩

theorem unspelled_of_respells {source source' : Text} {master : ρ} {t t' : Template ρ}
    (hpieces : List.Forall₂ Moniker.Respells (source.splitOn ':') (source'.splitOn ':'))
    (h : compile master source bindings = .ok t)
    (h' : compile master source' bindings = .ok t') : t'.unspelled = t.unspelled := by
  rcases exists_fills_of_compile h with ⟨parts, hparts, hsegments⟩
  rcases exists_fills_of_compile h' with ⟨parts', hparts', hsegments'⟩
  rw [unspelled, unspelled, hsegments, hsegments',
    supplied_unspelled (forall₂_respells hpieces hparts hparts')]

/-!
# Runs
-/

theorem live_and_next_of_unspelled {t t' : Template ρ} (h : t'.unspelled = t.unspelled) (k : Nat) :
    (after next k t').live = (after next k t).live ∧
      (after next k t').next.1.mapError Failure.unspelled =
        (after next k t).next.1.mapError Failure.unspelled := by
  have hafter : (after next k t').unspelled = (after next k t).unspelled := by
    rw [← after_unspelled, ← after_unspelled, h]
  constructor
  · rw [← live_unspelled, hafter, live_unspelled]
  · have hnext := congrArg next hafter
    rw [next_unspelled, next_unspelled] at hnext
    exact congrArg Prod.fst hnext

theorem agree_of_mapError_eq {ε ε' α : Type} {f : ε -> ε'} {x x' : Except ε α}
    (h : x'.mapError f = x.mapError f) :
    (forall a, x' = .ok a <-> x = .ok a) ∧
      ((exists e, x' = .error e) <-> exists e, x = .error e) := by
  cases x with
  | error e =>
      cases x' with
      | error e' =>
          constructor
          · intro a
            exact iff_of_false (fun ha => by cases ha) fun ha => by cases ha
          · exact iff_of_true ⟨e', rfl⟩ ⟨e, rfl⟩
      | ok a' =>
          cases h
  | ok a =>
      cases x' with
      | error e' =>
          cases h
      | ok a' =>
          cases h
          exact ⟨fun _ => Iff.rfl, Iff.rfl⟩

/-- Every form that can be written has a canonical spelling, which is read as this form,
and all its spellings are known.  No other form is read from a piece whose characters 64
bits can count.  Pieces of a template may be spelled in another way that is read as the
same form: then both templates compile or none does, they give the same candidates and
fail at the same steps, and are live for the same time. -/
theorem spellings_interchange :
    (forall form : Form, form.Expressible -> forall resolver : Bool,
      (Session.read {} (marked resolver form.canonical)).1 =
          .ok { text := form.canonical, resolver := resolver, form := form } ∧
        forall raw, (exists text, (Session.read {} raw).1 =
            .ok { text := text, resolver := resolver, form := form }) <->
          exists text, text ∈ form.spellings ∧ raw = marked resolver text) ∧
      (forall raw fragment, raw.length ≤ Decimal.maxWord ->
        (Session.read {} raw).1 = .ok fragment -> fragment.form.Expressible) ∧
      forall (source : Text) (pieces' : List Text),
        List.Forall₂ Moniker.Respells (source.splitOn ':') pieces' ->
        forall (master : ρ) (bindings : Bindings),
          ((exists t', compile master ([':'].intercalate pieces') bindings = .ok t') <->
            exists t, compile master source bindings = .ok t) ∧
          forall t t', compile master source bindings = .ok t ->
            compile master ([':'].intercalate pieces') bindings = .ok t' ->
              forall k, (after next k t').live = (after next k t).live ∧
                (forall candidate, (after next k t').next.1 = .ok candidate <->
                  (after next k t).next.1 = .ok candidate) ∧
                ((exists failure, (after next k t').next.1 = .error failure) <->
                  exists failure, (after next k t).next.1 = .error failure) := by
  refine ⟨?_, ?_, ?_⟩
  · intro form hform resolver
    have hread (raw text : Text) :
        (Session.read {} raw).1 = .ok { text := text, resolver := resolver, form := form } <->
          raw = marked resolver text ∧ text ∈ form.spellings := by
      rw [Session.read_new_eq_ok_iff, names_iff_marked, Form.written_iff_mem_spellings hform]
    constructor
    · exact (hread _ _).mpr ⟨rfl, form.canonical_mem_spellings⟩
    · intro raw
      simp only [hread, and_comm]
  · intro raw fragment hlength hread
    rcases names_iff_marked.mp (Session.read_new_eq_ok_iff.mp hread) with ⟨rfl, hwritten⟩
    exact Form.expressible_of_written hwritten (Nat.le_trans (length_le_marked _ _) hlength)
  · intro source pieces' h master bindings
    have hsplit := splitOn_intercalate_of_forall₂ (fun _ _ => Respells.colon_not_mem) h
    constructor
    · rw [exists_compile_iff, exists_compile_iff, hsplit, wellFormed_iff_of_respells h]
    · intro t t' ht ht' k
      have hunspelled := unspelled_of_respells (hsplit.symm ▸ h) ht ht'
      rcases live_and_next_of_unspelled hunspelled k with ⟨hlive, hnext⟩
      exact ⟨hlive, agree_of_mapError_eq hnext⟩

/-- Lengths as runs and as numerals, and spans with and without a comma. -/
theorem spellings_interchange_pairs :
    exists t t', compile (Stream.ofSeed 3) "aaa+:2b:[b1,2]:nn++".toList
        { entries := [('a', "xy".toList), ('b', "pqr".toList), ('n', "01".toList)] } = .ok t ∧
      compile (Stream.ofSeed 3) "a3+:b,2:[1b2]:n2++".toList
        { entries := [('a', "xy".toList), ('b', "pqr".toList), ('n', "01".toList)] } = .ok t' ∧
      forall k candidate, (after next k t').next.1 = .ok candidate <->
        (after next k t).next.1 = .ok candidate := by
  generalize Stream.ofSeed 3 = master
  have hrespells : List.Forall₂ Moniker.Respells ("aaa+:2b:[b1,2]:nn++".toList.splitOn ':')
      ["a3+".toList, "b,2".toList, "[1b2]".toList, "n2++".toList] :=
    .cons (.read rfl rfl rfl rfl) (.cons (.read rfl rfl rfl rfl)
      (.cons (.read rfl rfl rfl rfl) (.cons (.read rfl rfl rfl rfl) .nil)))
  have hcompile := compile_eq_plan master "aaa+:2b:[b1,2]:nn++".toList
    { entries := [('a', "xy".toList), ('b', "pqr".toList), ('n', "01".toList)] }
  have hcompile' := compile_eq_plan master "a3+:b,2:[1b2]:n2++".toList
    { entries := [('a', "xy".toList), ('b', "pqr".toList), ('n', "01".toList)] }
  have hsteps := (spellings_interchange.right.right _ _ hrespells master _).right _ _
    hcompile hcompile'
  exact ⟨_, _, hcompile, hcompile', fun k => (hsteps k).right.left⟩

end Template
end Moniker
