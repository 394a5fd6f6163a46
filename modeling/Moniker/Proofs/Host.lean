import Moniker.Host.Tools
import Moniker.Proofs.Text.Utf8

/-!
# Hosts

A host can be watched while it runs commands.  What a filter reports when its command
has no words is never the answer of a host that offers the tools of a tree.  A file of a
host holds a text, or there is one reason why it does not.
-/

namespace Moniker

variable {σ : Type}

/-- The same host, with a log of the commands that it is asked to run. -/
def Host.noted (host : Host σ) : Host (σ × List (List Text)) where
  openFile path state := host.openFile path state.1
  runCommand program arguments state :=
    ((host.runCommand program arguments state.1).1,
      (host.runCommand program arguments state.1).2, state.2 ++ [program :: arguments])

/-- The host says of no program that there is none. -/
def Host.NamesPrograms (host : Host σ) : Prop :=
  forall program arguments state,
    (host.runCommand program arguments state).1 ≠ .error .noCommand

theorem Tree.enter_ne_noCommand (t : Tree) (place : Place) (name : Text) :
    t.enter place name ≠ .error .noCommand := by
  intro h
  rw [enter.eq_def] at h
  split at h
  · cases h
  split at h
  · cases h
  split at h <;> cases h

theorem Tree.walk_ne_noCommand (t : Tree) (place : Place) (names : List Text) :
    t.walk place names ≠ .error .noCommand := by
  induction names generalizing place with
  | nil =>
      exact fun h => by cases h
  | cons name rest ih =>
      intro h
      rw [walk] at h
      split at h
      · split at h
        · exact ih place h
        split at h
        · exact ih _ h
        split at h
        · exact ih _ h
        · rename_i fault henter
          cases h
          exact t.enter_ne_noCommand place name henter
      · cases h
      · cases h

theorem Tree.find_ne_noCommand (t : Tree) (path : Text) : t.find path ≠ .error .noCommand := by
  intro h
  rw [find] at h
  split at h
  · cases h
  split at h
  · cases h
  split at h
  · cases h
  dsimp only at h
  split at h
  · rename_i fault hwalk
    cases h
    exact t.walk_ne_noCommand _ _ hwalk
  · split at h <;> cases h

theorem Host.namesPrograms_ofTree (tree : σ -> Tree) :
    (Host.ofTree tree).NamesPrograms := by
  intro program arguments state h
  have hrun : Tools.run (tree state) program arguments = .error .noCommand := h
  rw [Tools.run] at hrun
  split at hrun
  · cases hrun
  split at hrun
  · split at hrun
    · rename_i fault hfind
      cases hrun
      exact (tree state).find_ne_noCommand program hfind
    · cases hrun
  repeat
    split at hrun
    · cases hrun
  cases hrun

/-!
# Files that hold a text
-/

namespace Host

inductive Unread (host : Host σ) (path : Text) (state : σ) : Failure -> Prop where
  | missing : host.openFile path state = .error .notFound ->
      Unread host path state (.missingFile path)
  | closed {fault : Fault} : host.openFile path state = .error fault -> fault ≠ .notFound ->
      Unread host path state (.unreadable path fault)
  | folder : host.openFile path state = .ok .folder ->
      Unread host path state (.unreadable path .isFolder)
  | notText {content : List UInt8} : host.openFile path state = .ok (.bytes content) ->
      ¬ Utf8.Valid content -> Unread host path state (.unreadable path .notUtf8)

theorem openFailure_of_ne {fault : Fault} (h : fault ≠ .notFound) (path : Text) :
    openFailure path fault = .unreadable path fault := by
  cases fault <;> first | rfl | exact absurd rfl h

theorem text_or_unread (host : Host σ) (path : Text) (state : σ) :
    (exists s, host.openFile path state = .ok (.bytes (Utf8.encode s))) ∨
      exists failure, host.Unread path state failure := by
  cases hopen : host.openFile path state with
  | error fault =>
      by_cases hfault : fault = .notFound
      · exact Or.inr ⟨_, .missing (hfault ▸ hopen)⟩
      · exact Or.inr ⟨_, .closed hopen hfault⟩
  | ok contents =>
      cases contents with
      | folder =>
          exact Or.inr ⟨_, .folder hopen⟩
      | bytes content =>
          by_cases hvalid : Utf8.Valid content
          · rcases hvalid with ⟨s, rfl⟩
            exact Or.inl ⟨s, rfl⟩
          · exact Or.inr ⟨_, .notText hopen hvalid⟩

end Host
end Moniker
