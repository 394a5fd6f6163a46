import Moniker.Filter.Blacklist
import Moniker.Host.Tools
import Moniker.Proofs.LineReader
import Moniker.Proofs.Text.Words
import Mathlib.Data.List.Perm.Basic

/-!
# Word lists

A word list is filled from the lines of a file and changed word by word.  Words are
trimmed when they are added, so no list that comes about this way has a blank word,
which would refuse everything.  Words are not trimmed when they are removed, so a word
is found again only if it was trimmed before.
-/

namespace Moniker
namespace Blacklist

open Text

/-!
# Decisions
-/

theorem accepts_eq_false_iff {list : Blacklist} {candidate : Text} :
    list.accepts candidate = false <->
      exists word before behind,
        word ∈ list.words ∧ candidate = before ++ word ++ behind := by
  rw [accepts, Bool.not_eq_false', List.any_eq_true]
  constructor
  · rintro ⟨word, hword, hoccurs⟩
    rcases occursIn_iff.mp hoccurs with ⟨before, behind, hcandidate⟩
    exact ⟨word, before, behind, hword, hcandidate⟩
  · rintro ⟨word, before, behind, hword, hcandidate⟩
    exact ⟨word, hword, occursIn_iff.mpr ⟨before, behind, hcandidate⟩⟩

theorem accepts_congr {list other : Blacklist}
    (h : forall word, word ∈ other.words <-> word ∈ list.words) (candidate : Text) :
    other.accepts candidate = list.accepts candidate := by
  rw [Bool.eq_iff_iff, ← not_iff_not, Bool.not_eq_true, Bool.not_eq_true,
    accepts_eq_false_iff, accepts_eq_false_iff]
  simp only [h]

/-!
# Edits
-/

theorem add_of_blank {word : Text} (h : trim word = []) (list : Blacklist) :
    list.add word = (false, list) :=
  if_pos h

theorem add_of_not_blank {word : Text} (h : trim word ≠ []) (list : Blacklist) :
    list.add word = (true, { words := list.words ++ [trim word] }) :=
  if_neg h

theorem remove_of_mem {list : Blacklist} {word : Text} (h : word ∈ list.words) :
    list.remove word = (true, { words := list.words.erase word }) :=
  if_pos h

theorem remove_of_not_mem {list : Blacklist} {word : Text} (h : word ∉ list.words) :
    list.remove word = (false, list) :=
  if_neg h

inductive Edit where
  | add (word : Text)
  | remove (word : Text)

def edit (list : Blacklist) : Edit -> Bool × Blacklist
  | .add word => list.add word
  | .remove word => list.remove word

def edited (list : Blacklist) (edits : List Edit) : Blacklist :=
  edits.foldl (fun list edit => (list.edit edit).2) list

/-- No word is empty, and none has a blank at an end. -/
def Clean (list : Blacklist) : Prop :=
  forall word, word ∈ list.words -> word ≠ [] ∧ Trimmed word

theorem clean_empty : Clean {} :=
  fun _ hword => absurd hword List.not_mem_nil

theorem Clean.add {list : Blacklist} (h : list.Clean) (word : Text) :
    (list.add word).2.Clean := by
  by_cases hblank : trim word = []
  · rw [add_of_blank hblank]
    exact h
  · rw [add_of_not_blank hblank]
    intro word' hword'
    rcases List.mem_append.mp hword' with hold | hnew
    · exact h word' hold
    · rw [List.mem_singleton.mp hnew]
      exact ⟨hblank, (trimsTo_trim word).left⟩

theorem Clean.remove {list : Blacklist} (h : list.Clean) (word : Text) :
    (list.remove word).2.Clean := by
  by_cases hword : word ∈ list.words
  · rw [remove_of_mem hword]
    intro word' hword'
    exact h word' (List.mem_of_mem_erase hword')
  · rw [remove_of_not_mem hword]
    exact h

theorem Clean.edit {list : Blacklist} (h : list.Clean) (edit : Edit) :
    (list.edit edit).2.Clean := by
  cases edit with
  | add word =>
      exact h.add word
  | remove word =>
      exact h.remove word

theorem Clean.edited {list : Blacklist} (h : list.Clean) (edits : List Edit) :
    (list.edited edits).Clean := by
  induction edits generalizing list with
  | nil =>
      exact h
  | cons edit edits ih =>
      exact ih (h.edit edit)

theorem Clean.accepts_nil {list : Blacklist} (h : list.Clean) : list.accepts [] = true := by
  rw [← Bool.not_eq_false, accepts_eq_false_iff]
  rintro ⟨word, before, behind, hword, hnil⟩
  rw [eq_comm, List.append_eq_nil_iff, List.append_eq_nil_iff] at hnil
  exact (h word hword).left hnil.left.right

/-!
# Files
-/

theorem words_addAll (list : Blacklist) (lines : List Text) :
    (list.addAll lines).words = list.words ++ (lines.map trim).filter (· ≠ []) := by
  induction lines generalizing list with
  | nil =>
      exact (List.append_nil list.words).symm
  | cons line lines ih =>
      have hstep : list.addAll (line :: lines) = (list.add line).2.addAll lines := rfl
      rw [hstep, ih, List.map_cons]
      by_cases hblank : trim line = []
      · rw [add_of_blank hblank, List.filter_cons_of_neg (by simp [hblank])]
      · rw [add_of_not_blank hblank, List.filter_cons_of_pos (by simp [hblank])]
        exact (List.append_cons list.words (trim line) _).symm

theorem addAll_empty (lines : List Text) :
    ({} : Blacklist).addAll lines = { words := (lines.map trim).filter (· ≠ []) } :=
  congrArg Blacklist.mk (words_addAll {} lines)

theorem clean_addAll (lines : List Text) : (({} : Blacklist).addAll lines).Clean := by
  rw [addAll_empty]
  intro word hword
  rcases List.mem_filter.mp hword with ⟨hmem, hne⟩
  rcases List.mem_map.mp hmem with ⟨line, _, rfl⟩
  exact ⟨of_decide_eq_true hne, (trimsTo_trim line).left⟩

section Files

variable {σ : Type} {host : Host σ} {path : Text} {state : σ}

theorem ofFile_of_error {fault : Fault} (h : host.openFile path state = .error fault) :
    ofFile host path state = .error (Host.openFailure path fault) := by
  rw [ofFile, readLines, LineReader.start_of_error h]
  rfl

theorem ofFile_of_folder (h : host.openFile path state = .ok .folder) :
    ofFile host path state = .error (.unreadable path .isFolder) := by
  rw [ofFile, readLines, LineReader.start_of_folder h]
  rfl

theorem ofFile_of_not_valid {content : List UInt8}
    (h : host.openFile path state = .ok (.bytes content)) (hvalid : ¬ Utf8.Valid content) :
    ofFile host path state = .error (.unreadable path .notUtf8) := by
  have hlines := mt (Lines.cutsInto_pieces content).valid_iff.mpr hvalid
  rw [ofFile, LineReader.readLines_of_bytes h, LineReader.remaining_of_not_valid hlines]
  rfl

theorem ofFile_of_valid {content : List UInt8}
    (h : host.openFile path state = .ok (.bytes content)) (hvalid : Utf8.Valid content) :
    exists texts,
      List.Forall₂ (fun line s => Utf8.encode s = Lines.bare line) (Lines.pieces content) texts ∧
        ofFile host path state = .ok { words := (texts.map trim).filter (· ≠ []) } := by
  have hlines := (Lines.cutsInto_pieces content).valid_iff.mp hvalid
  rcases LineReader.remaining_of_valid path hlines with ⟨texts, htexts, hbare⟩
  refine ⟨texts, hbare, ?_⟩
  rw [ofFile, LineReader.readLines_of_bytes h, htexts, ← addAll_empty]
  rfl

theorem ofFile_eq_missingFile_iff :
    ofFile host path state = .error (.missingFile path) <->
      host.openFile path state = .error .notFound := by
  constructor
  · intro hfile
    cases hopen : host.openFile path state with
    | error fault =>
        rw [ofFile_of_error hopen] at hfile
        cases fault <;> cases hfile
        rfl
    | ok contents =>
        cases contents with
        | folder =>
            rw [ofFile_of_folder hopen] at hfile
            cases hfile
        | bytes content =>
            by_cases hvalid : Utf8.Valid content
            · rcases ofFile_of_valid hopen hvalid with ⟨_, _, hok⟩
              rw [hok] at hfile
              cases hfile
            · rw [ofFile_of_not_valid hopen hvalid] at hfile
              cases hfile
  · exact ofFile_of_error

theorem clean_of_ofFile {list : Blacklist} (h : ofFile host path state = .ok list) :
    list.Clean := by
  rw [ofFile] at h
  cases hlines : readLines host path state with
  | error failure =>
      rw [hlines] at h
      cases h
  | ok lines =>
      rw [hlines] at h
      cases h
      exact clean_addAll lines

end Files

/-!
# Lists in use
-/

/-- A file that is a text gives its lines as words, in their order, trimmed and without
the blank ones.  A list refuses exactly the candidates in which one of its words stands.
However it is changed afterwards, a list that starts empty or with a file has no empty
word and none with a blank at an end, and accepts the empty candidate. -/
theorem loads_and_decides {σ : Type} (host : Host σ) (path : Text) (state : σ) :
    (forall content, host.openFile path state = .ok (.bytes content) ->
        (¬ Utf8.Valid content ->
          ofFile host path state = .error (.unreadable path .notUtf8)) ∧
        (Utf8.Valid content ->
          exists lines texts trimmed,
            Lines.CutsInto content lines ∧
              List.Forall₂ (fun line s => Utf8.encode s = Lines.bare line) lines texts ∧
              List.Forall₂ TrimsTo texts trimmed ∧
              ofFile host path state = .ok { words := trimmed.filter (· ≠ []) })) ∧
      (ofFile host path state = .error (.missingFile path) <->
        host.openFile path state = .error .notFound) ∧
      (forall (list : Blacklist) candidate,
        exists accepted,
          list.filter.accepts candidate state = (.ok accepted, state) ∧
            (accepted = false <->
              exists word before behind,
                word ∈ list.words ∧ candidate = before ++ word ++ behind) ∧
            forall other : Blacklist,
              (forall word, word ∈ other.words <-> word ∈ list.words) ->
                other.filter.accepts candidate state = (.ok accepted, state)) ∧
      forall (start : Blacklist) edits,
        start = {} ∨ ofFile host path state = .ok start ->
          (forall word, word ∈ (start.edited edits).words -> word ≠ [] ∧ Trimmed word) ∧
            (start.edited edits).filter.accepts [] state = (.ok true, state) := by
  refine ⟨?_, ofFile_eq_missingFile_iff, ?_, ?_⟩
  · intro content hopen
    refine ⟨ofFile_of_not_valid hopen, fun hvalid => ?_⟩
    rcases ofFile_of_valid hopen hvalid with ⟨texts, hbare, hfile⟩
    refine ⟨Lines.pieces content, texts, texts.map trim, Lines.cutsInto_pieces content,
      hbare, ?_, hfile⟩
    rw [List.forall₂_map_right_iff, List.forall₂_same]
    exact fun s _ => trimsTo_trim s
  · intro list candidate
    refine ⟨list.accepts candidate, rfl, accepts_eq_false_iff, ?_⟩
    intro other hother
    rw [← accepts_congr hother]
    rfl
  · intro start edits hstart
    have hclean : start.Clean := by
      rcases hstart with rfl | hfile
      · exact clean_empty
      · exact clean_of_ofFile hfile
    have hedited := hclean.edited edits
    refine ⟨hedited, ?_⟩
    rw [← hedited.accepts_nil]
    rfl

def listed : Text :=
  " a b\r\n\n \t\nc\na b".toList

def shelf : Tree where
  entries := [(["list".toList], .file (Utf8.encode listed))]

theorem loads_and_decides_shelf :
    ofFile (Host.ofTree id) "list".toList shelf =
        .ok { words := ["a b".toList, "c".toList, "a b".toList] } ∧
      ofFile (Host.ofTree id) "other".toList shelf = .error (.missingFile "other".toList) ∧
      forall edits,
        (edited { words := ["a b".toList, "c".toList, "a b".toList] } edits).filter.accepts
          [] shelf = (.ok true, shelf) := by
  have hlist : (Host.ofTree id).openFile "list".toList shelf =
      .ok (.bytes (Utf8.encode listed)) := by
    decide
  have hother : (Host.ofTree id).openFile "other".toList shelf = .error .notFound := by
    decide
  rcases loads_and_decides (Host.ofTree id) "list".toList shelf with ⟨hload, _, _, hreached⟩
  rcases loads_and_decides (Host.ofTree id) "other".toList shelf with ⟨_, hmissing, _, _⟩
  rcases (hload (Utf8.encode listed) hlist).right ⟨listed, rfl⟩ with
    ⟨lines, texts, trimmed, hcuts, hbare, htrimmed, hfile⟩
  have hlines : lines = [" a b\r\n", "\n", " \t\n", "c\n", "a b"].map
      fun line => Utf8.encode line.toList :=
    hcuts.eq_pieces
  have htexts : texts = [" a b", "", " \t", "c", "a b"].map String.toList := by
    have hunique : Relator.RightUnique fun line s => Utf8.encode s = Lines.bare line :=
      fun _ _ _ hs ht => Utf8.encode_injective (hs.trans ht.symm)
    refine hunique.forall₂ (hlines ▸ hbare) ?_
    simp only [List.map_cons, List.map_nil, List.forall₂_cons, List.Forall₂.nil, and_true]
    exact ⟨rfl, rfl, rfl, rfl, rfl⟩
  have hwords : trimmed = ["a b", "", "", "c", "a b"].map String.toList := by
    have hunique : Relator.RightUnique TrimsTo :=
      fun _ _ _ hs ht => hs.eq_trim.trans ht.eq_trim.symm
    refine hunique.forall₂ (htexts ▸ htrimmed) ?_
    simp only [List.map_cons, List.map_nil, List.forall₂_cons, List.Forall₂.nil, and_true,
      trimsTo_iff]
    exact ⟨rfl, rfl, rfl, rfl, rfl⟩
  subst hwords
  exact ⟨hfile, hmissing.mpr hother, fun edits => (hreached _ edits (Or.inr hfile)).right⟩

/-!
# Adding and removing
-/

theorem trim_ne_nil_of_add {list : Blacklist} {word : Text} (h : (list.add word).1 = true) :
    trim word ≠ [] := by
  intro hblank
  rw [add_of_blank hblank] at h
  cases h

section Undoing

variable (list : Blacklist) {word : Text}

theorem trim_mem_add (h : trim word ≠ []) : trim word ∈ (list.add word).2.words := by
  rw [add_of_not_blank h]
  exact List.mem_append_right _ List.mem_cons_self

/-- A word that was trimmed before it was added is found again.  It need not be the same
place that is given up. -/
theorem remove_add_of_trimmed (h : trim word ≠ []) (htrimmed : Trimmed word) :
    ((list.add word).2.remove word).1 = true ∧
      ((list.add word).2.remove word).2.words.Perm list.words := by
  have hsame : trim word = word := trimmed_iff.mp htrimmed
  have hword := trim_mem_add list h
  rw [hsame] at hword
  rw [remove_of_mem hword]
  refine ⟨rfl, ?_⟩
  have hperm : (word :: list.words).Perm (list.add word).2.words := by
    rw [add_of_not_blank h, hsame]
    exact (List.perm_append_singleton word list.words).symm
  exact (List.cons_perm_iff_perm_erase.mp hperm).right.symm

theorem trimmed_of_remove_add (h : trim word ≠ [])
    (hfound : ((list.add word).2.remove word).1 = true)
    (hperm : ((list.add word).2.remove word).2.words.Perm list.words) : Trimmed word := by
  rw [add_of_not_blank h] at hfound hperm
  by_cases hword : word ∈ list.words ++ [trim word]
  · rw [remove_of_mem hword] at hperm
    have hback : (list.words ++ [trim word]).Perm (list.words ++ [word]) :=
      ((List.perm_cons_erase hword).trans (hperm.cons word)).trans
        (List.perm_append_singleton word list.words).symm
    have hsingle := (List.perm_append_left_iff list.words).mp hback
    exact trimmed_iff.mpr (List.singleton_inj.mp (List.perm_singleton.mp hsingle))
  · rw [remove_of_not_mem hword] at hfound
    cases hfound

theorem mem_remove_add_of_not_trimmed (h : trim word ≠ []) (hpadded : ¬ Trimmed word) :
    trim word ∈ ((list.add word).2.remove word).2.words := by
  have hnew := trim_mem_add list h
  have hne : trim word ≠ word := fun heq => hpadded (trimmed_iff.mpr heq)
  by_cases hword : word ∈ (list.add word).2.words
  · rw [remove_of_mem hword]
    exact (List.mem_erase_of_ne hne).mpr hnew
  · rw [remove_of_not_mem hword]
    exact hnew

theorem remove_add_of_not_trimmed (h : trim word ≠ []) (hpadded : ¬ Trimmed word)
    (hword : word ∉ list.words) :
    (list.add word).2.remove word = (false, (list.add word).2) := by
  have hne : word ≠ trim word := fun heq => hpadded (trimmed_iff.mpr heq.symm)
  rw [add_of_not_blank h]
  apply remove_of_not_mem
  rw [List.mem_append, List.mem_singleton, not_or]
  exact ⟨hword, hne⟩

end Undoing

/-- A word is undone by removing it if it was trimmed.  Otherwise what was added stays,
and the word is not found unless the list already had it with the blanks at its ends. -/
theorem remove_undoes_add_iff {list : Blacklist} {word : Text}
    (h : (list.add word).1 = true) :
    (((list.add word).2.remove word).1 = true ∧
          ((list.add word).2.remove word).2.words.Perm list.words <->
        Trimmed word) ∧
      (Trimmed word -> forall candidate,
        ((list.add word).2.remove word).2.accepts candidate = list.accepts candidate) ∧
      (¬ Trimmed word ->
        trim word ∈ ((list.add word).2.remove word).2.words ∧
          (word ∉ list.words ->
            (list.add word).2.remove word = (false, (list.add word).2))) := by
  have hne := trim_ne_nil_of_add h
  refine ⟨⟨?_, remove_add_of_trimmed list hne⟩, ?_, ?_⟩
  · rintro ⟨hfound, hperm⟩
    exact trimmed_of_remove_add list hne hfound hperm
  · intro htrimmed candidate
    have hperm := (remove_add_of_trimmed list hne htrimmed).right
    exact accepts_congr (fun word' => hperm.mem_iff) candidate
  · intro hpadded
    exact ⟨mem_remove_add_of_not_trimmed list hne hpadded,
      remove_add_of_not_trimmed list hne hpadded⟩

theorem remove_undoes_add_repeated :
    (({ words := ["eve".toList, "bob".toList] } : Blacklist).add "eve".toList).1 = true ∧
      ((({ words := ["eve".toList, "bob".toList] } : Blacklist).add "eve".toList).2.remove
          "eve".toList).2.words.Perm ["eve".toList, "bob".toList] := by
  have hadd : (({ words := ["eve".toList, "bob".toList] } : Blacklist).add
      "eve".toList).1 = true := by
    decide
  have htrimmed : Trimmed "eve".toList := trimmed_iff.mpr rfl
  exact ⟨hadd, ((remove_undoes_add_iff hadd).left.mpr htrimmed).right⟩

/-- A word that is given with blanks around it is added, but not removed again. -/
theorem remove_add_padded :
    (({} : Blacklist).add " bob ".toList).1 = true ∧
      (({} : Blacklist).add " bob ".toList).2.remove " bob ".toList =
        (false, { words := ["bob".toList] }) ∧
      ({} : Blacklist).accepts "bobby".toList = true ∧
      ((({} : Blacklist).add " bob ".toList).2.remove " bob ".toList).2.accepts
        "bobby".toList = false := by
  decide

end Blacklist
end Moniker
