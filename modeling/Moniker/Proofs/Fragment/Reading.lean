import Moniker.Fragment.Session
import Moniker.Proofs.Fragment.Grammar

/-!
# Reading pieces

A piece of a template names at most one fragment.  A session reads the fragment
that a piece names, unless it is a counter and not the first one.
-/

namespace Moniker

/-!
# Brackets
-/

/-- The text of a piece without its brackets, and whether it has them. -/
inductive Bare : Text -> Text -> Bool -> Prop where
  | bracketed {inner : Text} : '\n' ∉ inner -> Bare ('[' :: (inner ++ [']'])) inner true
  | plain {raw : Text} :
      (¬ exists inner, '\n' ∉ inner ∧ raw = '[' :: (inner ++ [']'])) -> Bare raw raw false

theorem unbracket?_eq_some_iff {raw inner : Text} :
    unbracket? raw = some inner <-> '\n' ∉ inner ∧ raw = '[' :: (inner ++ [']']) := by
  constructor
  · intro h
    unfold unbracket? at h
    split at h
    · rename_i rest
      split at h
      · rename_i hlast
        split at h
        · cases h
        · rename_i hfeed
          cases h
          constructor
          · simpa using hfeed
          · rw [List.dropLast_append_getLast? _ hlast]
      · cases h
    · cases h
  · intro h
    rcases h with ⟨hfeed, rfl⟩
    simp [unbracket?, hfeed]

theorem bare_iff {raw text : Text} {resolver : Bool} :
    Bare raw text resolver <-> unbracket raw = (text, resolver) := by
  constructor
  · intro h
    cases h with
    | bracketed hfeed =>
        rw [unbracket, unbracket?_eq_some_iff.mpr ⟨hfeed, rfl⟩]
    | plain hplain =>
        have hnone : unbracket? raw = none := by
          cases hinner : unbracket? raw with
          | none =>
              rfl
          | some inner =>
              exact absurd ⟨inner, unbracket?_eq_some_iff.mp hinner⟩ hplain
        rw [unbracket, hnone]
  · intro h
    unfold unbracket at h
    split at h
    · rename_i inner hinner
      cases h
      rcases unbracket?_eq_some_iff.mp hinner with ⟨hfeed, rfl⟩
      exact .bracketed hfeed
    · rename_i hnone
      cases h
      apply Bare.plain
      intro hexists
      rcases hexists with ⟨inner, hinner⟩
      rw [unbracket?_eq_some_iff.mpr hinner] at hnone
      cases hnone

/-!
# Fragments of pieces
-/

/-- A piece names a fragment if the grammar writes its text without brackets. -/
structure Names (raw : Text) (fragment : Fragment) : Prop where
  bare : Bare raw fragment.text fragment.resolver
  written : Form.Written fragment.text fragment.form

def NamesCounter (raw : Text) : Prop :=
  exists fragment, Names raw fragment ∧ fragment.form.isCounter = true

theorem names_iff {raw : Text} {fragment : Fragment} :
    Names raw fragment <->
      unbracket raw = (fragment.text, fragment.resolver) ∧
        Form.read? fragment.text = some fragment.form := by
  constructor
  · intro h
    exact ⟨bare_iff.mp h.bare, Form.read?_eq_some_iff.mpr h.written⟩
  · intro h
    exact ⟨bare_iff.mpr h.left, Form.read?_eq_some_iff.mp h.right⟩

theorem Names.unique {raw : Text} {fragment fragment' : Fragment} (h : Names raw fragment)
    (h' : Names raw fragment') : fragment = fragment' := by
  rcases fragment with ⟨text, resolver, form⟩
  rcases fragment' with ⟨text', resolver', form'⟩
  rcases names_iff.mp h with ⟨hbare, hform⟩
  rcases names_iff.mp h' with ⟨hbare', hform'⟩
  rw [hbare] at hbare'
  cases hbare'
  rw [hform] at hform'
  cases hform'
  rfl

theorem Names.namesCounter_iff {raw : Text} {fragment : Fragment} (h : Names raw fragment) :
    NamesCounter raw <-> fragment.form.isCounter = true := by
  constructor
  · intro hcounter
    rcases hcounter with ⟨fragment', h', hfragment'⟩
    rw [h.unique h']
    exact hfragment'
  · intro hcounter
    exact ⟨fragment, h, hcounter⟩

theorem names_or_unwritten (raw : Text) :
    (exists fragment, Names raw fragment) ∨
      exists text resolver, Bare raw text resolver ∧ forall form, ¬ Form.Written text form := by
  rcases hraw : unbracket raw with ⟨text, resolver⟩
  cases hform : Form.read? text with
  | some form =>
      exact Or.inl ⟨⟨text, resolver, form⟩, names_iff.mpr ⟨hraw, hform⟩⟩
  | none =>
      refine Or.inr ⟨text, resolver, bare_iff.mpr hraw, ?_⟩
      intro form hwritten
      rw [Form.read?_eq_some_iff.mpr hwritten] at hform
      cases hform

/-!
# Sessions
-/

namespace Session

theorem readForm_of_written {s : Text} {form : Form} (h : Form.Written s form)
    (session : Session) :
    session.readForm s =
      if form.isCounter = true ∧ session.counterRead = true then
        (.error (.secondCounter s), session)
      else
        (.ok form, { counterRead := session.counterRead || form.isCounter }) := by
  rcases session with ⟨counterRead⟩
  rw [readForm, Form.read?_eq_some_iff.mpr h]
  cases hcounter : form.isCounter with
  | false =>
      simp [hcounter]
  | true =>
      cases counterRead with
      | false =>
          simp [hcounter]
      | true =>
          simp [hcounter]

theorem readForm_of_unwritten {s : Text} (h : forall form, ¬ Form.Written s form)
    (session : Session) : session.readForm s = (.error (.unknownForm s), session) := by
  rw [readForm, Form.read?_eq_none_iff.mpr h]

theorem read_of_names {raw : Text} {fragment : Fragment} (h : Names raw fragment)
    (session : Session) :
    session.read raw =
      if fragment.form.isCounter = true ∧ session.counterRead = true then
        (.error (.secondCounter fragment.text), session)
      else
        (.ok fragment, { counterRead := session.counterRead || fragment.form.isCounter }) := by
  rw [read, bare_iff.mp h.bare, readWith, readForm_of_written h.written]
  by_cases hcounter : fragment.form.isCounter = true ∧ session.counterRead = true
  · simp only [if_pos hcounter]
  · simp only [if_neg hcounter]

theorem read_of_unwritten {raw text : Text} {resolver : Bool} (hbare : Bare raw text resolver)
    (hunwritten : forall form, ¬ Form.Written text form) (session : Session) :
    session.read raw = (.error (.unknownForm text), session) := by
  rw [read, bare_iff.mp hbare, readWith, readForm_of_unwritten hunwritten]

/-!
# New sessions

A session that has not read anything yet accepts every written text.
-/

theorem readInner_of_written {s : Text} {form : Form} (h : Form.Written s form) :
    (readInner {} s).1 = .ok { text := s, resolver := false, form := form } := by
  rw [readInner, readWith, readForm_of_written h, if_neg (by simp)]

theorem readInner_of_unwritten {s : Text} (h : forall form, ¬ Form.Written s form) :
    (readInner {} s).1 = .error (.unknownForm s) := by
  rw [readInner, readWith, readForm_of_unwritten h]

theorem readInner_eq_ok_iff {s : Text} {fragment : Fragment} :
    (readInner {} s).1 = .ok fragment <->
      fragment.text = s ∧ fragment.resolver = false ∧ Form.Written s fragment.form := by
  constructor
  · intro h
    by_cases hwritten : exists form, Form.Written s form
    · rcases hwritten with ⟨form, hform⟩
      rw [readInner_of_written hform] at h
      cases h
      exact ⟨rfl, rfl, hform⟩
    · rw [readInner_of_unwritten (not_exists.mp hwritten)] at h
      cases h
  · intro h
    rcases fragment with ⟨text, resolver, form⟩
    rcases h with ⟨rfl, rfl, hform⟩
    exact readInner_of_written hform

theorem readInner_eq_error_iff {s : Text} {failure : Failure} :
    (readInner {} s).1 = .error failure <->
      failure = .unknownForm s ∧ forall form, ¬ Form.Written s form := by
  constructor
  · intro h
    by_cases hwritten : exists form, Form.Written s form
    · rcases hwritten with ⟨form, hform⟩
      rw [readInner_of_written hform] at h
      cases h
    · rw [readInner_of_unwritten (not_exists.mp hwritten)] at h
      cases h
      exact ⟨rfl, not_exists.mp hwritten⟩
  · intro h
    rcases h with ⟨rfl, hunwritten⟩
    exact readInner_of_unwritten hunwritten

/-- A new session reads exactly the texts that the grammar writes, each as what
it is written for.  No text is read by two rows, so their order is of no
importance. -/
theorem readInner_new (s : Text) :
    (forall fragment, (readInner {} s).1 = .ok fragment <->
        fragment.text = s ∧ fragment.resolver = false ∧ Form.Written s fragment.form) ∧
      (forall failure, (readInner {} s).1 = .error failure <->
        failure = .unknownForm s ∧ forall form, ¬ Form.Written s form) ∧
      (forall (place place' : Nat) row row' form form', Form.rows[place]? = some row ->
        Form.rows[place']? = some row' -> row s = some form -> row' s = some form' ->
          place = place') ∧
      forall rows : List (Text -> Option Form), rows.Perm Form.rows ->
        rows.findSome? (· s) = Form.read? s := by
  refine ⟨fun fragment => readInner_eq_ok_iff, fun failure => readInner_eq_error_iff, ?_, ?_⟩
  · intro place place' row row' form form' hplace hplace' hread hread'
    exact (Form.rows_agree hplace hplace' hread hread').left
  · intro rows hrows
    exact Form.findSome?_eq_read? hrows s

end Session
end Moniker
