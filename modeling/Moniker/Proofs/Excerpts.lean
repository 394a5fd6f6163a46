import Moniker.Proofs.Language
import Moniker.Proofs.Template.Respelling
import Moniker.Random.Stream

/-!
# Excerpts by position

An excerpt gives the characters that its span selects, and at every step the same, or it
fails at every step and stays as it is.  The notations of a part count the characters
from one, and a template of one such fragment gives what the notation says.
-/

namespace Moniker

variable {ρ : Type} [Chance ρ]

/-!
# Selected characters

A span that fits selects one text, and a span that does not fit selects none.
-/

namespace Span

variable {data piece piece' : Text} {span : Span}

theorem Selects.fits (h : span.Selects data piece) : span.Fits data.length := by
  cases span with
  | range start stop =>
      rcases h with ⟨before, behind, rfl, rfl, rfl⟩
      refine ⟨Nat.le_add_right _ _, ?_⟩
      rw [List.length_append, List.length_append]
      exact Nat.le_add_right _ _
  | last count =>
      rcases h with ⟨before, rfl, rfl⟩
      show piece.length ≤ (before ++ piece).length
      rw [List.length_append]
      exact Nat.le_add_left _ _
  | toEnd start =>
      rcases h with ⟨before, rfl, rfl⟩
      show before.length ≤ (before ++ piece).length
      rw [List.length_append]
      exact Nat.le_add_right _ _

theorem Selects.unique (h : span.Selects data piece) (h' : span.Selects data piece') :
    piece' = piece := by
  have hlength : piece'.length = piece.length := by
    rw [h.length_eq, h'.length_eq]
  -- The data is cut twice, at the same place from the front or from the end.
  cases span with
  | range start stop =>
      rcases h with ⟨before, behind, hdata, hbefore, _⟩
      rcases h' with ⟨before', behind', hdata', hbefore', _⟩
      rw [hdata, List.append_assoc, List.append_assoc] at hdata'
      have hrest := (List.append_inj hdata' (hbefore.trans hbefore'.symm)).right
      exact (List.append_inj hrest hlength.symm).left.symm
  | last count =>
      rcases h with ⟨before, hdata, _⟩
      rcases h' with ⟨before', hdata', _⟩
      rw [hdata] at hdata'
      exact (List.append_inj_right' hdata' hlength.symm).symm
  | toEnd start =>
      rcases h with ⟨before, hdata, hbefore⟩
      rcases h' with ⟨before', hdata', hbefore'⟩
      rw [hdata] at hdata'
      exact (List.append_inj hdata' (hbefore.trans hbefore'.symm)).right.symm

theorem selects_range {start stop : Nat} (hstart : start ≤ stop) (hstop : stop ≤ data.length) :
    (range start stop).Selects data ((data.take stop).drop start) := by
  have hfirst : data.take start = (data.take stop).take start := by
    rw [List.take_take, Nat.min_eq_left hstart]
  refine ⟨data.take start, data.drop stop, ?_, ?_, ?_⟩
  · rw [hfirst, List.take_append_drop, List.take_append_drop]
  · rw [List.length_take, Nat.min_eq_left (Nat.le_trans hstart hstop)]
  · rw [List.length_drop, List.length_take, Nat.min_eq_left hstop, Nat.add_sub_cancel' hstart]

theorem selects_last {count : Nat} (h : count ≤ data.length) :
    (last count).Selects data (data.drop (data.length - count)) := by
  refine ⟨data.take (data.length - count), ?_, ?_⟩
  · rw [List.take_append_drop]
  · rw [List.length_drop, Nat.sub_sub_self h]

theorem selects_toEnd {start : Nat} (h : start ≤ data.length) :
    (toEnd start).Selects data (data.drop start) := by
  refine ⟨data.take start, ?_, ?_⟩
  · rw [List.take_append_drop]
  · rw [List.length_take, Nat.min_eq_left h]

end Span

/-!
# Steps of an excerpt
-/

namespace Excerpt

theorem next_fst_eq_ok_iff {x : Excerpt} {piece : Text} :
    x.next.1 = .ok piece <-> x.span.Selects x.data piece := by
  constructor
  · intro h
    by_cases hfits : x.span.Fits x.data.length
    · rcases selects_of_fits hfits with ⟨piece', hnext, hselects⟩
      rw [h] at hnext
      cases hnext
      exact hselects
    · rw [next_of_not_fits hfits] at h
      cases h
  · intro h
    rcases selects_of_fits h.fits with ⟨piece', hnext, hselects⟩
    rw [hnext, h.unique hselects]

theorem next_fst_after (x : Excerpt) (k : Nat) : (after next k x).next.1 = x.next.1 :=
  after_preserves (P := fun y : Excerpt => y.next.1 = x.next.1)
    (fun y hy => by rw [next_fst, value_next, ← next_fst, hy]) k rfl

theorem live_next_of_ok {x : Excerpt} {piece : Text} (h : x.next.1 = .ok piece) :
    x.next.2.live = false := by
  rcases next_of_fits (next_fst_eq_ok_iff.mp h).fits with ⟨piece', hnext⟩
  rw [hnext]

theorem after_of_not_fits {x : Excerpt} (h : ¬ x.span.Fits x.data.length) (k : Nat) :
    after next k x = x :=
  after_preserves (P := fun y => y = x) (fun y hy => by rw [hy, next_of_not_fits h]) k rfl

end Excerpt

/-- A part of the data is given at every step, and nothing is live behind one, if the part
is there.  If it is not, every step reports the text and the data and changes nothing. -/
structure Delivers {α : Type} (next : α -> Except Failure Text × α) (live : α -> Bool)
    (text data : Text) (there : Prop) (piece : Text) (a : α) : Prop where
  gives : there -> forall k,
    (next (after next k a)).1 = .ok piece ∧ live (after next (k + 1) a) = false
  fails : ¬ there -> exists start stop, forall k,
    next (after next k a) = (.error (.outOfBounds text data start stop), a)

theorem Excerpt.delivers {x : Excerpt} {piece : Text} {there : Prop}
    (hthere : x.span.Fits x.data.length <-> there)
    (hpiece : there -> x.span.Selects x.data piece) :
    Delivers next live x.fragment x.data there piece x where
  gives h k := by
    have hnext : (after next k x).next.1 = .ok piece := by
      rw [next_fst_after]
      exact next_fst_eq_ok_iff.mpr (hpiece h)
    refine ⟨hnext, ?_⟩
    rw [after_succ_eq_next]
    exact live_next_of_ok hnext
  fails h := by
    have hfits : ¬ x.span.Fits x.data.length := fun hfits => h (hthere.mp hfits)
    refine ⟨(x.span.reported x.data.length).1, (x.span.reported x.data.length).2, fun k => ?_⟩
    rw [after_of_not_fits hfits]
    exact next_of_not_fits hfits

theorem Delivers.map {α γ : Type} {next : α -> Except Failure Text × α} {live : α -> Bool}
    {next' : γ -> Except Failure Text × γ} {live' : γ -> Bool} {f : α -> γ}
    (hnext : forall a, next' (f a) = ((next a).1, f (next a).2))
    (hlive : forall a, live' (f a) = live a) {text data piece : Text} {there : Prop} {a : α}
    (h : Delivers next live text data there piece a) :
    Delivers next' live' text data there piece (f a) := by
  have hsnd : forall a, (next' (f a)).2 = f (next a).2 := by
    intro a
    rw [hnext]
  have hafter : forall k, after next' k (f a) = f (after next k a) :=
    fun k => after_map hsnd k a
  constructor
  · intro hthere k
    rw [hafter, hafter, hnext, hlive]
    exact h.gives hthere k
  · intro hthere
    rcases h.fails hthere with ⟨start, stop, hfails⟩
    refine ⟨start, stop, fun k => ?_⟩
    rw [hafter, hnext, hfails]

/-!
# Notations
-/

namespace Form

/-- A notation says when the data has the part, and which part it is. -/
inductive Quotes (x : Char) (data : Text) : Text -> Prop -> Text -> Prop where
  | first {c : Char} {j : Nat} :
      Position j c -> Quotes x data [c, x] (j ≤ data.length) (data.take j)
  | firstComma {c : Char} {j : Nat} :
      Position j c -> Quotes x data [x, ',', c] (j ≤ data.length) (data.take j)
  | last {c : Char} {j : Nat} :
      Position j c -> Quotes x data [x, c] (j ≤ data.length) (data.drop (data.length - j))
  | between {c c' : Char} {i j : Nat} :
      Position i c -> Position j c' ->
        Quotes x data [c, x, c'] (i ≤ j + 1 ∧ j ≤ data.length) ((data.take j).drop (i - 1))
  | betweenComma {c c' : Char} {i j : Nat} :
      Position i c -> Position j c' ->
        Quotes x data [x, c, ',', c'] (i ≤ j + 1 ∧ j ≤ data.length) ((data.take j).drop (i - 1))
  | fromComma {c : Char} {i : Nat} :
      Position i c -> Quotes x data [x, c, ','] (i ≤ data.length + 1) (data.drop (i - 1))

theorem range_from_start (data : Text) (j : Nat) :
    ((Span.range 0 j).Fits data.length <-> j ≤ data.length) ∧
      (j ≤ data.length -> (Span.range 0 j).Selects data (data.take j)) :=
  ⟨and_iff_right (Nat.zero_le j), Span.selects_range (Nat.zero_le j)⟩

theorem Position.pred_le_iff {i n : Nat} {c : Char} (h : Position i c) :
    i - 1 ≤ n <-> i ≤ n + 1 := by
  have hpos := h.left
  omega

theorem Position.range_from {i : Nat} {c : Char} (h : Position i c) (data : Text) (j : Nat) :
    ((Span.range (i - 1) j).Fits data.length <-> i ≤ j + 1 ∧ j ≤ data.length) ∧
      (i ≤ j + 1 ∧ j ≤ data.length ->
        (Span.range (i - 1) j).Selects data ((data.take j).drop (i - 1))) := by
  constructor
  · exact and_congr_left' h.pred_le_iff
  · intro hthere
    exact Span.selects_range (h.pred_le_iff.mpr hthere.left) hthere.right

theorem Quotes.exists_span {x : Char} {data text piece : Text} {there : Prop}
    (hx : x.isAlpha = true) (h : Quotes x data text there piece) :
    exists span : Span, Written text (.data x (.part span)) ∧
      (span.Fits data.length <-> there) ∧ (there -> span.Selects data piece) := by
  cases h with
  | first hj =>
      exact ⟨_, .first hx hj, range_from_start data _⟩
  | firstComma hj =>
      exact ⟨_, .firstComma hx hj, range_from_start data _⟩
  | last hj =>
      exact ⟨_, .last hx hj, Iff.rfl, Span.selects_last⟩
  | between hi hj =>
      exact ⟨_, .between hx hi hj, hi.range_from data _⟩
  | betweenComma hi hj =>
      exact ⟨_, .betweenComma hx hi hj, hi.range_from data _⟩
  | fromComma hi =>
      refine ⟨_, .fromComma hx hi, hi.pred_le_iff, fun hthere => ?_⟩
      exact Span.selects_toEnd (hi.pred_le_iff.mpr hthere)

end Form

/-!
# One fragment
-/

theorem Segment.delivers {x : Excerpt} {text data piece : Text} {there : Prop}
    (h : Delivers Excerpt.next Excerpt.live text data there piece x) (resolver : Bool) :
    Delivers next live text data there piece
      ({ text := text, resolver := resolver, source := .part x } : Segment ρ) :=
  h.map (f := fun x => ({ text := text, resolver := resolver, source := .part x } : Segment ρ))
    (fun _ => rfl) (fun _ => rfl)

namespace Template

theorem compile_of_fills {bindings : Bindings} {raw : Text} {part : Part} (master : ρ)
    (h : Fills bindings raw part) (hcolon : ':' ∉ raw) :
    compile master raw bindings =
      .ok { source := raw, segments := [part.segment (Chance.split master).1] } := by
  have hcounter : ¬ (part.fragment.form.isCounter = true ∧
      ({} : Session).counterRead = true) := fun hboth => Bool.false_ne_true hboth.right
  rw [compile_eq_plan, cut_eq_splitOn, delimiter, List.splitOn_eq_singleton hcolon, plan,
    planPiece_of_fills h hcounter]
  rfl

def ofExcerpt (source text : Text) (x : Excerpt) : Template ρ where
  source := source
  segments := [{ text := text, resolver := false, source := .part x }]

theorem next_ofExcerpt (source text : Text) (x : Excerpt) :
    (ofExcerpt source text x : Template ρ).next = (x.next.1, ofExcerpt source text x.next.2) := by
  have hrow : Segment.nextAll (ofExcerpt source text x : Template ρ).segments =
      (x.next.1, (ofExcerpt source text x.next.2).segments) := by
    rw [ofExcerpt, Segment.nextAll, Segment.next, Source.next]
    cases x.next.1 with
    | error failure =>
        rfl
    | ok piece =>
        simp [Segment.nextAll, ofExcerpt]
  rw [next, hrow]
  rfl

theorem delivers {x : Excerpt} {text data piece : Text} {there : Prop}
    (h : Delivers Excerpt.next Excerpt.live text data there piece x) (source : Text) :
    Delivers next live text data there piece (ofExcerpt source text x : Template ρ) :=
  h.map (next_ofExcerpt source text) (fun x => Bool.or_false x.live)

end Template

/-- Every excerpt gives the characters that its span selects, if it fits.  Whatever letter
the data is bound to, a notation is read as an excerpt that gives the part it names, as a
segment of its own and as a template, if the data has that part. -/
theorem delivers_by_position (ρ : Type) [Chance ρ] :
    (forall x : Excerpt, exists piece,
        (x.span.Fits x.data.length -> x.span.Selects x.data piece) ∧
        Delivers Excerpt.next Excerpt.live x.fragment x.data (x.span.Fits x.data.length)
          piece x) ∧
      forall (x : Char) (data text : Text) (there : Prop) (piece : Text), x.isAlpha = true ->
        Form.Quotes x data text there piece ->
          (exists fragment, (Session.read {} text).1 = .ok fragment ∧ forall stream : ρ,
            Delivers Segment.next Segment.live text data there piece
              (Segment.ofFragment fragment data stream)) ∧
          forall (master : ρ) (bindings : Bindings), bindings.get? x = some data ->
            data ≠ [] -> exists t, Template.compile master text bindings = .ok t ∧
              Delivers Template.next Template.live text data there piece t := by
  constructor
  · intro x
    by_cases hfits : x.span.Fits x.data.length
    · rcases Excerpt.selects_of_fits hfits with ⟨piece, _, hpiece⟩
      exact ⟨piece, fun _ => hpiece, Excerpt.delivers Iff.rfl fun _ => hpiece⟩
    · exact ⟨[], fun h => absurd h hfits, Excerpt.delivers Iff.rfl fun h => absurd h hfits⟩
  · intro x data text there piece hx hquotes
    rcases hquotes.exists_span hx with ⟨span, hwritten, hthere, hpiece⟩
    have hnames : Names text
        { text := text, resolver := false, form := .data x (.part span) } :=
      names_iff_marked.mpr ⟨rfl, hwritten⟩
    have hexcerpt : Delivers Excerpt.next Excerpt.live text data there piece
        { fragment := text, data := data, span := span } :=
      Excerpt.delivers (x := { fragment := text, data := data, span := span }) hthere hpiece
    constructor
    · refine ⟨_, Session.read_new_eq_ok_iff.mpr hnames, fun stream => ?_⟩
      exact Segment.delivers hexcerpt false
    · intro master bindings hdata hne
      have hfills : Template.Fills bindings text ⟨_, data⟩ := ⟨hnames, .data hdata hne⟩
      exact ⟨_, Template.compile_of_fills master hfills hwritten.colon_not_mem,
        Template.delivers hexcerpt text⟩

/-- The first two of six characters, nothing behind the last one, and nine that are not
there. -/
theorem delivers_by_position_umlaut :
    exists t t' t'',
      Template.compile (Stream.ofSeed 3) "2m".toList
        { entries := [('m', "Müller".toList)] } = .ok t ∧
      Template.compile (Stream.ofSeed 3) "m7,".toList
        { entries := [('m', "Müller".toList)] } = .ok t' ∧
      Template.compile (Stream.ofSeed 3) "m9".toList
        { entries := [('m', "Müller".toList)] } = .ok t'' ∧
      (forall k, (after Template.next k t).next.1 = .ok "Mü".toList ∧
        (after Template.next (k + 1) t).live = false) ∧
      (forall k, (after Template.next k t').next.1 = .ok [] ∧
        (after Template.next (k + 1) t').live = false) ∧
      exists start stop, forall k, (after Template.next k t'').next =
        (.error (.outOfBounds "m9".toList "Müller".toList start stop), t'') := by
  have hdata : "Müller".toList ≠ [] := by
    decide
  have hbound : Bindings.get? { entries := [('m', "Müller".toList)] } 'm' =
      some "Müller".toList := rfl
  have hdelivers := fun text there piece hquotes =>
    ((delivers_by_position Stream).right 'm' "Müller".toList text there piece rfl hquotes).right
      (Stream.ofSeed 3) _ hbound hdata
  rcases hdelivers "2m".toList _ _ (.first (j := 2) ⟨by decide, by decide, rfl⟩) with ⟨t, ht, h⟩
  rcases hdelivers "m7,".toList _ _ (.fromComma (i := 7) ⟨by decide, by decide, rfl⟩) with
    ⟨t', ht', h'⟩
  rcases hdelivers "m9".toList _ _ (.last (j := 9) ⟨by decide, by decide, rfl⟩) with
    ⟨t'', ht'', h''⟩
  exact ⟨t, t', t'', ht, ht', ht'', h.gives (by decide), h'.gives (by decide),
    h''.fails (by decide)⟩

end Moniker
