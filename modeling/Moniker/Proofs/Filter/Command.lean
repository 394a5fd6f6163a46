import Moniker.Filter.Command
import Moniker.Proofs.Host
import Moniker.Proofs.Text.Words
import Mathlib.Data.List.Forall2

/-!
# Commands from templates

Filling puts the candidate in the place of every placeholder of a template.  No
placeholder reaches over a blank, so the template can be filled word by word, and a
candidate never changes where the words of the template begin and end.
-/

namespace Moniker

variable {σ : Type}

namespace Command

open Text

/-!
# Placeholders
-/

def placeholder : Text :=
  "%s".toList

def Plain (s : Text) : Prop :=
  ¬ placeholder <:+: s

/-- The pieces that the placeholders of a text leave, from left to right. -/
inductive CutsInto : Text -> List Text -> Prop where
  | last {s : Text} : Plain s -> CutsInto s [s]
  | next {front rest : Text} {pieces : List Text} :
      Plain front -> CutsInto rest pieces ->
        CutsInto (front ++ placeholder ++ rest) (front :: pieces)

def Replaced (candidate s filled : Text) : Prop :=
  exists pieces, CutsInto s pieces ∧ filled = candidate.intercalate pieces

theorem CutsInto.ne_nil {s : Text} {pieces : List Text} (h : CutsInto s pieces) :
    pieces ≠ [] := by
  cases h with
  | last _ | next _ _ =>
      exact List.cons_ne_nil _ _

/-- The character and the text do not make a placeholder together. -/
def Apart (c : Char) (s : Text) : Prop :=
  forall rest, c = '%' -> s = 's' :: rest -> False

theorem plain_nil : Plain [] := by
  rw [Plain, List.infix_nil]
  exact List.cons_ne_nil '%' ['s']

theorem Plain.cons {c : Char} {s : Text} (hapart : Apart c s) (h : Plain s) :
    Plain (c :: s) := by
  rw [Plain, List.infix_cons_iff, not_or]
  refine ⟨?_, h⟩
  rintro ⟨rest, hrest⟩
  cases hrest
  exact hapart rest rfl rfl

theorem exists_cutsInto (s : Text) : exists pieces, CutsInto s pieces := by
  induction s using fill.induct with
  | case1 rest ih =>
      rcases ih with ⟨pieces, hpieces⟩
      exact ⟨[] :: pieces, @CutsInto.next [] rest pieces plain_nil hpieces⟩
  | case2 c rest hapart ih =>
      rcases ih with ⟨pieces, hpieces⟩
      cases hpieces with
      | last hplain =>
          exact ⟨[c :: rest], .last (hplain.cons hapart)⟩
      | @next front rest pieces hplain hrest =>
          have hfront : Apart c front := by
            rintro behind hc rfl
            exact hapart _ hc rfl
          exact ⟨(c :: front) :: pieces, .next (hplain.cons hfront) hrest⟩
  | case3 =>
      exact ⟨[[]], .last plain_nil⟩

/-!
# Filling
-/

section Filling

variable {candidate : Text}

theorem fill_placeholder (rest : Text) :
    fill candidate (placeholder ++ rest) = candidate ++ fill candidate rest :=
  rfl

theorem fill_cons {c : Char} {s : Text} (h : Apart c s) :
    fill candidate (c :: s) = c :: fill candidate s :=
  fill.eq_2 candidate c s h

theorem fill_append {t : Text} (ht : t.head? ≠ some 's') (s : Text) :
    fill candidate (s ++ t) = fill candidate s ++ fill candidate t := by
  induction s using fill.induct with
  | case1 rest ih =>
      show candidate ++ fill candidate (rest ++ t) = candidate ++ fill candidate rest ++ _
      rw [ih, List.append_assoc]
  | case2 c rest hapart ih =>
      have hacross : Apart c (rest ++ t) := by
        intro behind hc hs
        cases rest with
        | nil =>
            rw [List.nil_append] at hs
            exact ht (hs ▸ rfl)
        | cons d rest =>
            cases hs
            exact hapart rest hc rfl
      rw [List.cons_append, fill_cons hacross, ih, fill_cons hapart, List.cons_append]
  | case3 =>
      rfl

theorem fill_of_plain {s : Text} (h : Plain s) : fill candidate s = s := by
  induction s using fill.induct with
  | case1 rest _ =>
      exact absurd (List.prefix_append placeholder rest).isInfix h
  | case2 c rest hapart ih =>
      rw [Plain, List.infix_cons_iff, not_or] at h
      rw [fill_cons hapart, ih h.right]
  | case3 =>
      rfl

theorem CutsInto.fill_eq {s : Text} {pieces : List Text} (h : CutsInto s pieces) :
    fill candidate s = candidate.intercalate pieces := by
  induction h with
  | last hplain =>
      rw [fill_of_plain hplain, List.intercalate_singleton]
  | @next front rest pieces hplain hrest ih =>
      have hhead : (placeholder ++ rest).head? ≠ some 's' := by
        rw [show (placeholder ++ rest).head? = some '%' from rfl]
        decide
      rw [List.append_assoc, fill_append hhead, fill_of_plain hplain, fill_placeholder, ih,
        List.intercalate_cons_of_ne_nil hrest.ne_nil, List.append_assoc]

theorem replaced_iff {s filled : Text} :
    Replaced candidate s filled <-> filled = fill candidate s := by
  constructor
  · rintro ⟨pieces, hpieces, rfl⟩
    exact hpieces.fill_eq.symm
  · rintro rfl
    rcases exists_cutsInto s with ⟨pieces, hpieces⟩
    exact ⟨pieces, hpieces, hpieces.fill_eq⟩

/-!
# Words
-/

theorem fill_blank {b : Char} (hb : isBlank b = true) (s : Text) :
    fill candidate (b :: s) = b :: fill candidate s := by
  apply fill_cons
  rintro _ rfl _
  exact absurd hb (by decide)

theorem head_ne_of_endsWord {s : Text} (h : EndsWord s) : s.head? ≠ some 's' :=
  fun hhead => absurd (h 's' hhead) (by decide)

theorem endsWord_fill {s : Text} (h : EndsWord s) : EndsWord (fill candidate s) := by
  cases s with
  | nil =>
      exact h
  | cons b s =>
      rw [fill_blank (h b rfl)]
      exact h

theorem words_fill {s : Text} {ws : List Text} (h : HasWords s ws) :
    words (fill candidate s) = ws.flatMap fun word => words (fill candidate word) := by
  induction h with
  | nil =>
      rfl
  | blank hb _ ih =>
      rw [fill_blank hb, words_cons hb, ih]
  | word _ _ hends _ ih =>
      rw [fill_append (head_ne_of_endsWord hends), words_append (endsWord_fill hends), ih,
        List.flatMap_cons]

theorem fill_ne_nil (hne : candidate ≠ []) {s : Text} (hs : s ≠ []) : fill candidate s ≠ [] := by
  cases s using fill.fun_cases with
  | case1 rest =>
      rw [fill]
      exact List.append_ne_nil_of_left_ne_nil hne _
  | case2 c rest hapart =>
      rw [fill_cons hapart]
      exact List.cons_ne_nil _ _
  | case3 =>
      exact absurd rfl hs

theorem blankFree_fill (hfree : BlankFree candidate) {s : Text} (hs : BlankFree s) :
    BlankFree (fill candidate s) := by
  induction s using fill.induct with
  | case1 rest ih =>
      have hrest : BlankFree rest := fun c hc =>
        hs c (List.mem_cons_of_mem '%' (List.mem_cons_of_mem 's' hc))
      intro c hc
      rw [fill, List.mem_append] at hc
      exact hc.elim (hfree c) (ih hrest c)
  | case2 c rest hapart ih =>
      rw [BlankFree, List.forall_mem_cons] at hs
      rw [fill_cons hapart]
      exact List.forall_mem_cons.mpr ⟨hs.left, ih hs.right⟩
  | case3 =>
      exact hs

theorem words_fill_of_word (hne : candidate ≠ []) (hfree : BlankFree candidate) {s : Text}
    {ws : List Text} (h : HasWords s ws) : words (fill candidate s) = ws.map (fill candidate) := by
  rw [words_fill h, ← List.flatMap_singleton' (ws.map (fill candidate)), List.flatMap_map]
  apply List.flatMap_congr
  intro word hmem
  rcases h.word_of_mem hmem with ⟨hword, hwordFree⟩
  exact words_of_blankFree (fill_ne_nil hne hword) (blankFree_fill hfree hwordFree)

end Filling

/-!
# Running

The words of a filled template are run as one command, or there are none.
-/

/-- The commands that are started for the words of a line. -/
def started : List Text -> List (List Text)
  | [] => []
  | program :: arguments => [program :: arguments]

variable {host : Host σ}

theorem free_of_no_words {line : Text} (h : words line = []) (state : σ) :
    free host line state = (.error (.command line .noCommand), state) := by
  rw [free, h]

theorem free_of_words {line program : Text} {arguments : List Text}
    (h : words line = program :: arguments) (state : σ) :
    free host line state =
      (((host.runCommand program arguments state).1.map not).mapError (Failure.command line),
        (host.runCommand program arguments state).2) := by
  rw [free, h]

theorem free_noted (line : Text) (state : σ) (log : List (List Text)) :
    free host.noted line (state, log) =
      ((free host line state).1, (free host line state).2, log ++ started (words line)) := by
  cases h : words line with
  | nil =>
      rw [free_of_no_words h, free_of_no_words h, started, List.append_nil]
  | cons program arguments =>
      rw [free_of_words h, free_of_words h]
      rfl

theorem free_eq_noCommand_iff (hhost : host.NamesPrograms) {line : Text} {state : σ} :
    (free host line state).1 = .error (.command line .noCommand) <-> words line = [] := by
  cases h : words line with
  | nil =>
      rw [free_of_no_words h]
      exact iff_of_true rfl rfl
  | cons program arguments =>
      have hnamed := hhost program arguments state
      rw [free_of_words h]
      refine iff_of_false ?_ (List.cons_ne_nil _ _)
      cases hanswer : (host.runCommand program arguments state).1 with
      | ok succeeds =>
          exact fun heq => by cases heq
      | error fault =>
          intro heq
          cases heq
          exact hnamed hanswer

/-!
# Commands at large
-/

/-- Filling puts the candidate in the place of every placeholder of the template.  What
is run are the words of the filled template, and these are the words that the words of
the template have when each is filled alone, so a candidate that is a word itself leaves
them one by one as they are.  Without words no command is started, and only then it is
said that there is none. -/
theorem fills_word_by_word (host : Host σ) (command : Command) (candidate : Text) :
    (forall filled, Replaced candidate command.template filled <->
        filled = command.line candidate) ∧
      exists words runs,
        HasWords command.template words ∧
          List.Forall₂ (fun word run =>
            exists filled, Replaced candidate word filled ∧ HasWords filled run) words runs ∧
          HasWords (command.line candidate) runs.flatten ∧
          (candidate ≠ [] -> BlankFree candidate ->
            List.Forall₂ (Replaced candidate) words runs.flatten) ∧
          (forall state log,
            (command.filter host.noted).accepts candidate (state, log) =
              (((command.filter host).accepts candidate state).1,
                ((command.filter host).accepts candidate state).2,
                log ++ started runs.flatten)) ∧
          (forall state, runs.flatten = [] ->
            (command.filter host).accepts candidate state =
              (.error (.command (command.line candidate) .noCommand), state)) ∧
          (host.NamesPrograms -> forall state,
            ((command.filter host).accepts candidate state).1 =
                .error (.command (command.line candidate) .noCommand) <->
              runs.flatten = []) := by
  have htemplate := hasWords_words command.template
  have hline : words (command.line candidate) =
      (words command.template).flatMap fun word => words (fill candidate word) :=
    words_fill htemplate
  refine ⟨fun filled => replaced_iff, words command.template,
    (words command.template).map (fun word => words (fill candidate word)), htemplate, ?_⟩
  rw [← List.flatMap_def, ← hline]
  refine ⟨?_, hasWords_words _, ?_, fun state log => free_noted _ state log,
    fun state h => free_of_no_words h state, fun hhost state => free_eq_noCommand_iff hhost⟩
  · rw [List.forall₂_map_right_iff, List.forall₂_same]
    intro word _
    exact ⟨fill candidate word, replaced_iff.mpr rfl, hasWords_words _⟩
  · intro hne hfree
    have hword : words (command.line candidate) =
        (words command.template).map (fill candidate) := words_fill_of_word hne hfree htemplate
    rw [hword, List.forall₂_map_right_iff, List.forall₂_same]
    intro word _
    exact replaced_iff.mpr rfl

def spaced : Command where
  template := " test\u3000%s-%%ss = %s ".toList

def marked : Text :=
  "a%s".toList

theorem fills_word_by_word_marked :
    marked ≠ [] ∧ BlankFree marked ∧ (Host.ofTree id).NamesPrograms ∧
      List.Forall₂ (Replaced marked)
        ["test".toList, "%s-%%ss".toList, "=".toList, "%s".toList]
        ["test".toList, "a%s-%a%ss".toList, "=".toList, "a%s".toList] ∧
      forall tree,
        ((spaced.filter (Host.ofTree id)).accepts marked tree).1 ≠
          .error (.command (spaced.line marked) .noCommand) := by
  have hne : marked ≠ [] := by
    decide
  have hfree : BlankFree marked := by
    decide
  have hhost := Host.namesPrograms_ofTree (id : Tree -> Tree)
  have htemplate : words spaced.template =
      ["test".toList, "%s-%%ss".toList, "=".toList, "%s".toList] :=
    rfl
  have hline : words (spaced.line marked) =
      ["test".toList, "a%s-%a%ss".toList, "=".toList, "a%s".toList] :=
    rfl
  rcases fills_word_by_word (Host.ofTree id) spaced marked with
    ⟨_, ws, runs, hws, _, hruns, hwords, _, _, herror⟩
  rw [← hline, ← htemplate, ← hws.eq_words, ← hruns.eq_words]
  refine ⟨hne, hfree, hhost, hwords hne hfree, fun tree h => ?_⟩
  have hnone := (herror hhost tree).mp h
  rw [hruns.eq_words, hline] at hnone
  cases hnone

end Command
end Moniker
