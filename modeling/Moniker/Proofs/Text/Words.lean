import Moniker.Text.Blank
import Mathlib.Data.List.Infix
import Mathlib.Data.List.TakeWhile

/-!
# Words and blanks

A text consists of words with blanks before, between and behind them, and trimming
takes away the blanks before the first word and behind the last.  Both are told here by
what they leave, and so is the search for one text inside another.
-/

namespace Moniker
namespace Text

theorem cutWhere_eq_splitOnP (separates : Char -> Bool) (s : Text) :
    cutWhere separates s = s.splitOnP separates := by
  induction s with
  | nil =>
      rfl
  | cons c s ih =>
      rcases cutWhere_cons separates c s with ⟨piece, pieces, hs, hcons⟩
      rw [hs] at ih
      rw [hcons, List.splitOnP_cons_eq_if_modifyHead, ← ih]
      rfl

/-!
# Words

A word goes on up to a blank or to the end of the text.
-/

def BlankFree (s : Text) : Prop :=
  forall c, c ∈ s -> isBlank c = false

instance (s : Text) : Decidable (BlankFree s) :=
  List.decidableBAll (fun c => isBlank c = false) s

def AllBlank (s : Text) : Prop :=
  forall c, c ∈ s -> isBlank c = true

/-- The text is empty or starts with a blank. -/
def EndsWord (s : Text) : Prop :=
  forall c, s.head? = some c -> isBlank c = true

inductive HasWords : Text -> List Text -> Prop where
  | nil : HasWords [] []
  | blank {b : Char} {s : Text} {words : List Text} :
      isBlank b = true -> HasWords s words -> HasWords (b :: s) words
  | word {word s : Text} {words : List Text} :
      word ≠ [] -> BlankFree word -> EndsWord s -> HasWords s words ->
        HasWords (word ++ s) (word :: words)

theorem words_append_cons {b : Char} (hb : isBlank b = true) (s t : Text) :
    words (s ++ b :: t) = words s ++ words t := by
  simp only [words, cutWhere_eq_splitOnP]
  rw [List.splitOnP_append_cons s t hb, List.filter_append]

theorem words_cons {b : Char} (hb : isBlank b = true) (s : Text) : words (b :: s) = words s :=
  words_append_cons hb [] s

theorem words_append {t : Text} (ht : EndsWord t) (s : Text) :
    words (s ++ t) = words s ++ words t := by
  cases t with
  | nil =>
      rw [List.append_nil]
      exact (List.append_nil (words s)).symm
  | cons b t =>
      rw [words_append_cons (ht b rfl), words_cons (ht b rfl)]

theorem words_of_blankFree {word : Text} (hne : word ≠ []) (h : BlankFree word) :
    words word = [word] := by
  rw [words, cutWhere_eq_splitOnP, List.splitOnP_eq_singleton h]
  simp [hne]

theorem HasWords.eq_words {s : Text} {ws : List Text} (h : HasWords s ws) : ws = words s := by
  induction h with
  | nil =>
      rfl
  | blank hb _ ih =>
      rw [words_cons hb, ih]
  | word hne hfree hends _ ih =>
      rw [words_append hends, words_of_blankFree hne hfree, ih, List.singleton_append]

theorem HasWords.exists_cons {c : Char} (hc : isBlank c = false) {s : Text} {ws : List Text}
    (h : HasWords s ws) : exists ws', HasWords (c :: s) ws' := by
  have hsingle : BlankFree [c] := fun _ hmem => List.mem_singleton.mp hmem ▸ hc
  cases h with
  | nil =>
      have hends : EndsWord [] := fun _ hhead => by cases hhead
      exact ⟨_, .word (List.cons_ne_nil c []) hsingle hends .nil⟩
  | @blank b s _ hb hrest =>
      have hends : EndsWord (b :: s) := fun _ hhead => Option.some.inj hhead ▸ hb
      exact ⟨_, .word (List.cons_ne_nil c []) hsingle hends (.blank hb hrest)⟩
  | @word word s _ hne hfree hends hrest =>
      have hfree' : BlankFree (c :: word) := List.forall_mem_cons.mpr ⟨hc, hfree⟩
      exact ⟨_, .word (List.cons_ne_nil c word) hfree' hends hrest⟩

theorem hasWords_words (s : Text) : HasWords s (words s) := by
  have hexists : exists ws, HasWords s ws := by
    induction s with
    | nil =>
        exact ⟨[], .nil⟩
    | cons c s ih =>
        rcases ih with ⟨ws, hws⟩
        cases hc : isBlank c with
        | true =>
            exact ⟨ws, .blank hc hws⟩
        | false =>
            exact hws.exists_cons hc
  rcases hexists with ⟨ws, hws⟩
  rwa [← hws.eq_words]

theorem HasWords.word_of_mem {s word : Text} {ws : List Text} (h : HasWords s ws)
    (hmem : word ∈ ws) : word ≠ [] ∧ BlankFree word := by
  induction h with
  | nil =>
      cases hmem
  | blank _ _ ih =>
      exact ih hmem
  | word hne hfree _ _ ih =>
      rcases List.mem_cons.mp hmem with rfl | hrest
      · exact ⟨hne, hfree⟩
      · exact ih hrest

/-!
# Trimming
-/

/-- No blank stands at an end of the text. -/
structure Trimmed (s : Text) : Prop where
  front : forall c, s.head? = some c -> isBlank c = false
  back : forall c, s.getLast? = some c -> isBlank c = false

def TrimsTo (s t : Text) : Prop :=
  Trimmed t ∧ exists front back, s = front ++ t ++ back ∧ AllBlank front ∧ AllBlank back

theorem exists_eq_append_trimFront (s : Text) :
    exists front, s = front ++ trimFront s ∧ AllBlank front := by
  refine ⟨s.takeWhile isBlank, List.takeWhile_append_dropWhile.symm, ?_⟩
  intro c hc
  exact List.mem_takeWhile_imp hc

theorem head_trimFront {s : Text} {c : Char} (h : (trimFront s).head? = some c) :
    isBlank c = false := by
  have hnot := List.head?_dropWhile_not isBlank s
  rw [trimFront] at h
  rwa [h] at hnot

theorem trimFront_append {front s : Text} (hfront : AllBlank front)
    (hs : forall c, s.head? = some c -> isBlank c = false) : trimFront (front ++ s) = s := by
  rw [trimFront, List.dropWhile_append_of_pos hfront]
  cases s with
  | nil =>
      rfl
  | cons c s =>
      exact List.dropWhile_cons_of_neg (Bool.eq_false_iff.mp (hs c rfl))

theorem trimsTo_trim (s : Text) : TrimsTo s (trim s) := by
  rcases exists_eq_append_trimFront s with ⟨front, hs, hfront⟩
  rcases exists_eq_append_trimFront (trimFront s).reverse with ⟨back, hrest, hback⟩
  have hrest' : trimFront s = trim s ++ back.reverse := by
    rw [trim, ← List.reverse_append, ← hrest, List.reverse_reverse]
  refine ⟨⟨?_, ?_⟩, front, back.reverse, ?_, hfront, ?_⟩
  · intro c hc
    apply head_trimFront (s := s)
    rw [hrest', List.head?_append, hc, Option.some_or]
  · intro c hc
    rw [trim, List.getLast?_reverse] at hc
    exact head_trimFront hc
  · rw [List.append_assoc, ← hrest', ← hs]
  · intro c hc
    exact hback c (List.mem_reverse.mp hc)

theorem TrimsTo.eq_trim {s t : Text} (h : TrimsTo s t) : t = trim s := by
  rcases h with ⟨ht, front, back, rfl, hfront, hback⟩
  have hback' : AllBlank back.reverse := fun c hc => hback c (List.mem_reverse.mp hc)
  cases t with
  | nil =>
      have hall : AllBlank (front ++ [] ++ back) := by
        intro c hc
        rw [List.append_nil] at hc
        exact (List.mem_append.mp hc).elim (hfront c) (hback c)
      have hnone : trimFront (front ++ [] ++ back) = [] := List.dropWhile_eq_nil_iff.mpr hall
      rw [trim, hnone]
      rfl
  | cons c t =>
      have hhead : trimFront (front ++ (c :: t) ++ back) = (c :: t) ++ back := by
        rw [List.append_assoc]
        exact trimFront_append hfront ht.front
      rw [trim, hhead, List.reverse_append, trimFront_append hback', List.reverse_reverse]
      intro d hd
      rw [List.head?_reverse] at hd
      exact ht.back d hd

theorem trimsTo_iff {s t : Text} : TrimsTo s t <-> t = trim s :=
  ⟨TrimsTo.eq_trim, fun h => h ▸ trimsTo_trim s⟩

theorem trimmed_iff {s : Text} : Trimmed s <-> trim s = s := by
  constructor
  · intro h
    exact (TrimsTo.eq_trim ⟨h, [], [], by rw [List.append_nil, List.nil_append],
      List.forall_mem_nil _, List.forall_mem_nil _⟩).symm
  · intro h
    exact h ▸ (trimsTo_trim s).left

/-!
# Looking inside
-/

theorem occursIn_iff {word s : Text} :
    occursIn word s = true <-> exists before behind, s = before ++ word ++ behind := by
  have hoccurs : occursIn word s = true <-> word <:+: s := by
    induction s with
    | nil =>
        rw [occursIn, List.isEmpty_iff, List.infix_nil]
    | cons c s ih =>
        rw [occursIn, Bool.or_eq_true, List.isPrefixOf_iff_prefix, ih, List.infix_cons_iff]
  rw [hoccurs]
  constructor
  · rintro ⟨before, behind, h⟩
    exact ⟨before, behind, h.symm⟩
  · rintro ⟨before, behind, h⟩
    exact ⟨before, behind, h.symm⟩

end Text
end Moniker
