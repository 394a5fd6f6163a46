import Moniker.CommandLine.Request
import Moniker.Proofs.Json
import Moniker.Proofs.Steps

/-!
# Settings that are reached and settings that are read

However settings come about, their ceiling is positive.  A document is read member by
member: what it gives is taken from it, and the rest has its default.
-/

namespace Moniker
namespace Settings

/-!
# Ceilings
-/

theorem defaultMaxAttempts_pos : 0 < defaultMaxAttempts := by
  decide

theorem setMaxAttempts_eq_ok_iff {s s' : Settings} {n : Nat} :
    s.setMaxAttempts n = (.ok (), s') <-> 0 < n ∧ s' = { s with maxAttempts := n } := by
  rw [setMaxAttempts]
  split
  · rename_i hn
    exact iff_of_false (fun h => by cases h) fun h => absurd hn (Nat.ne_of_gt h.left)
  · rename_i hn
    rw [Prod.mk.injEq, and_iff_right rfl, and_iff_right (Nat.pos_of_ne_zero hn), eq_comm]

theorem maxAttempts_pos_of_overlaid {s s' : Settings} {layer : Overlay} (hs : 0 < s.maxAttempts)
    (h : s.overlaid layer = .ok s') : 0 < s'.maxAttempts := by
  rw [overlaid, withMaxAttempts.eq_def] at h
  split at h
  · cases h
    exact hs
  · rcases setMaxAttempts_eq_ok_iff.mp (Steps.made_eq_ok_iff.mp h) with ⟨hn, rfl⟩
    exact hn

theorem maxAttempts_pos_of_ofDocument? {document : Text} {s : Settings}
    (h : ofDocument? document = some (.ok s)) : 0 < s.maxAttempts := by
  simp only [ofDocument?, Option.bind_eq_bind, Option.bind_eq_some_iff] at h
  rcases h with ⟨⟨value, rest⟩, _, layer, _, h⟩
  split at h
  · cases h
  · rename_i settings hlaid
    split at h
    · cases h
      exact maxAttempts_pos_of_overlaid defaultMaxAttempts_pos hlaid
    · cases h

theorem maxAttempts_pos_of_settingsOfDocument {path document : Text} {s : Settings}
    (h : CommandLine.Arguments.settingsOfDocument path document = .ok s) :
    0 < s.maxAttempts := by
  rw [CommandLine.Arguments.settingsOfDocument] at h
  split at h
  · cases h
  · rename_i read hread
    cases read with
    | error failure =>
        cases h
    | ok settings =>
        cases h
        exact maxAttempts_pos_of_ofDocument? hread

theorem maxAttempts_pos_of_baseSettings {σ : Type} {host : Host σ} {path? : Option Text}
    {state : σ} {s : Settings}
    (h : CommandLine.Arguments.baseSettings host path? state = .ok s) : 0 < s.maxAttempts := by
  cases path? with
  | none =>
      cases h
      exact defaultMaxAttempts_pos
  | some path =>
      rw [CommandLine.Arguments.baseSettings] at h
      rcases Steps.bind_eq_ok_iff.mp h with ⟨document, _, hdocument⟩
      exact maxAttempts_pos_of_settingsOfDocument hdocument

theorem maxAttempts_pos_of_settings {σ : Type} {host : Host σ} {a : CommandLine.Arguments}
    {state : σ} {s : Settings} (h : a.settings host state = .ok s) : 0 < s.maxAttempts := by
  rw [CommandLine.Arguments.settings] at h
  rcases Steps.bind_eq_ok_iff.mp h with ⟨base, hbase, hlaid⟩
  exact maxAttempts_pos_of_overlaid (maxAttempts_pos_of_baseSettings hbase) hlaid

/-!
# Steps

Settings are made anew, changed member by member, loaded from a document or asked for on
a command line.
-/

inductive Step (σ : Type) where
  | ofTarget (target : Nat)
  | default
  | setMaxAttempts (maxAttempts : Nat)
  | setTarget (target : Nat)
  | setSeed (seed : Option UInt64)
  | load (document : Text)
  | request (host : Host σ) (arguments : CommandLine.Arguments) (state : σ)

def perform {σ : Type} (s : Settings) : Step σ -> Bool × Settings
  | .ofTarget target => (true, ofTarget target)
  | .default => (true, {})
  | .setMaxAttempts maxAttempts => Steps.ofChange (s.setMaxAttempts maxAttempts)
  | .setTarget target => (true, { s with target := target })
  | .setSeed seed => (true, { s with seed := seed })
  | .load document => Steps.replacing s ((ofDocument? document).bind Except.toOption)
  | .request host arguments state =>
      Steps.replacing s (arguments.settings host state).toOption

def reached {σ : Type} (steps : List (Step σ)) : Settings :=
  Steps.reached perform {} steps

theorem eq_of_perform_fails {σ : Type} {s s' : Settings} {step : Step σ}
    (h : s.perform step = (false, s')) : s' = s := by
  cases step with
  | setMaxAttempts maxAttempts =>
      rw [perform, setMaxAttempts] at h
      split at h <;> cases h
      rfl
  | load document =>
      exact Steps.eq_of_replacing_eq_false h
  | request host arguments state =>
      exact Steps.eq_of_replacing_eq_false h
  | _ =>
      cases h

theorem maxAttempts_pos_of_perform {σ : Type} {s s' : Settings} {step : Step σ}
    (hs : 0 < s.maxAttempts) (h : s.perform step = (true, s')) : 0 < s'.maxAttempts := by
  cases step with
  | ofTarget target =>
      cases h
      exact defaultMaxAttempts_pos
  | default =>
      cases h
      exact defaultMaxAttempts_pos
  | setMaxAttempts maxAttempts =>
      rcases setMaxAttempts_eq_ok_iff.mp (Steps.ofChange_eq_true_iff.mp h) with ⟨hn, rfl⟩
      exact hn
  | setTarget target =>
      cases h
      exact hs
  | setSeed seed =>
      cases h
      exact hs
  | load document =>
      rcases Option.bind_eq_some_iff.mp (Steps.replacing_eq_true_iff.mp h) with
        ⟨read, hread, hok⟩
      rw [Steps.toOption_eq_some_iff.mp hok] at hread
      exact maxAttempts_pos_of_ofDocument? hread
  | request host arguments state =>
      exact maxAttempts_pos_of_settings
        (Steps.toOption_eq_some_iff.mp (Steps.replacing_eq_true_iff.mp h))

theorem maxAttempts_pos_perform {σ : Type} {s : Settings} (step : Step σ)
    (hs : 0 < s.maxAttempts) : 0 < (s.perform step).2.maxAttempts := by
  rcases hdone : s.perform step with ⟨succeeded, s'⟩
  cases succeeded with
  | false =>
      exact eq_of_perform_fails hdone ▸ hs
  | true =>
      exact maxAttempts_pos_of_perform hs hdone

/-!
# Members

A document may give some of the members, in any order.
-/

inductive Member where
  | target
  | seed
  | maxAttempts
  deriving DecidableEq

namespace Member

def key : Member -> Text
  | target => "target_count".toList
  | seed => "seed".toList
  | maxAttempts => "max_attempts".toList

def written (s : Settings) : Member -> Text
  | target => Decimal.render s.target
  | seed => seedDocument s.seed
  | maxAttempts => Decimal.render s.maxAttempts

def value (s : Settings) : Member -> Json.Value
  | target => .number (Decimal.render s.target)
  | seed => s.seed.elim .null fun seed => .number (Decimal.render seed.toNat)
  | maxAttempts => .number (Decimal.render s.maxAttempts)

theorem spelled (s : Settings) (m : Member) : Json.Spelled (m.value s) (m.written s) := by
  cases m with
  | target =>
      exact .number s.target
  | seed =>
      rw [value, written]
      cases s.seed with
      | none =>
          exact .null
      | some seed =>
          exact .number seed.toNat
  | maxAttempts =>
      exact .number s.maxAttempts

end Member

/-- The numbers fit 64 bits, as the seed does. -/
structure Fits (s : Settings) : Prop where
  target : s.target ≤ Decimal.maxWord
  maxAttempts : s.maxAttempts ≤ Decimal.maxWord

/-- The settings that agree with `s` on the members, and with the defaults on the others. -/
def sharing (s : Settings) (members : List Member) : Settings where
  target := if .target ∈ members then s.target else ({} : Settings).target
  seed := if .seed ∈ members then s.seed else ({} : Settings).seed
  maxAttempts := if .maxAttempts ∈ members then s.maxAttempts else ({} : Settings).maxAttempts

/-- The overlay that gives the members as they are in `s`. -/
def giving (s : Settings) (members : List Member) : Overlay where
  target? := if .target ∈ members then some s.target else none
  seed? := if .seed ∈ members then some s.seed else none
  maxAttempts? := if .maxAttempts ∈ members then some s.maxAttempts else none

theorem word?_render {n : Nat} (h : n ≤ Decimal.maxWord) :
    (Json.Value.number (Decimal.render n)).word? = some n :=
  Decimal.readWord?_render h

theorem optionalWord?_seed (s : Settings) :
    (Member.seed.value s).optionalWord? = some (s.seed.map UInt64.toNat) := by
  rw [Member.value]
  cases s.seed with
  | none =>
      rfl
  | some seed =>
      have hseed : seed.toNat ≤ Decimal.maxWord := Nat.le_of_lt_succ seed.toNat_lt
      exact congrArg (Option.map some) (word?_render hseed)

theorem readMember?_giving {s : Settings} (hs : s.Fits) {given : List Member} {m : Member}
    (hm : m ∉ given) :
    (s.giving given).readMember? (some m.key, m.value s) = some (s.giving (given ++ [m])) := by
  rw [Overlay.readMember?]
  cases m with
  | target =>
      have hkey : Member.target.key = "target_count".toList := rfl
      rw [if_pos hkey, Overlay.readTarget?, Member.value, word?_render hs.target]
      simp [giving, hm]
  | seed =>
      have hkey : Member.seed.key = "seed".toList := rfl
      rw [if_neg (by decide), if_pos hkey, Overlay.readSeed?, optionalWord?_seed]
      simp [giving, hm, Function.comp_def]
  | maxAttempts =>
      have hkey : Member.maxAttempts.key = "max_attempts".toList := rfl
      rw [if_neg (by decide), if_neg (by decide), if_pos hkey, Overlay.readMaxAttempts?,
        Member.value, word?_render hs.maxAttempts]
      simp [giving, hm]

theorem readMembers?_giving {s : Settings} (hs : s.Fits) (given : List Member)
    {members : List Member} (hnodup : (given ++ members).Nodup) :
    (s.giving given).readMembers? (members.map fun m => (some m.key, m.value s)) =
      some (s.giving (given ++ members)) := by
  induction members generalizing given with
  | nil =>
      rw [List.append_nil]
      rfl
  | cons m members ih =>
      have hm : m ∉ given := fun hmem =>
        (List.nodup_append.mp hnodup).right.right m hmem m List.mem_cons_self rfl
      rw [List.append_cons] at hnodup ⊢
      rw [List.map_cons, Overlay.readMembers?, readMember?_giving hs hm, Option.bind_eq_bind,
        Option.bind_some, ih _ hnodup]

theorem getD_ite_some {α : Type} (p : Prop) [Decidable p] (a a' : α) :
    (if p then some a else none).getD a' = if p then a else a' :=
  apply_ite (Option.getD · a') p (some a) none

theorem overlaid_giving (s : Settings) (members : List Member) :
    ({} : Settings).overlaid (s.giving members) =
      if .maxAttempts ∈ members ∧ s.maxAttempts = 0 then .error noAttempts
      else .ok (s.sharing members) := by
  rw [overlaid, giving, getD_ite_some, getD_ite_some, sharing]
  by_cases hmem : Member.maxAttempts ∈ members
  · simp only [hmem, if_true, true_and, withMaxAttempts, setMaxAttempts]
    split <;> rfl
  · simp only [hmem, if_false, false_and, withMaxAttempts]

theorem ofDocument?_of_read? {document : Text} {v : Json.Value}
    (hread : Json.read? document = some v) :
    ofDocument? document =
      (Overlay.ofValue? v).map fun layer => ({} : Settings).overlaid layer := by
  simp only [Json.read?, Option.bind_eq_bind, Option.bind_eq_some_iff] at hread
  rcases hread with ⟨⟨v', rest⟩, hfirst, hrest⟩
  split at hrest
  · rename_i hempty
    cases hrest
    simp only [ofDocument?, hfirst, Option.bind_eq_bind, Option.bind_some]
    cases Overlay.ofValue? v' with
    | none =>
        rfl
    | some layer =>
        rw [Option.bind_some, Option.map_some]
        cases ({} : Settings).overlaid layer with
        | error failure =>
            rfl
        | ok settings =>
            exact if_pos hempty
  · cases hrest

theorem ofDocument?_members {s : Settings} (hs : s.Fits) {members : List Member}
    (hnodup : members.Nodup) {document : Text}
    (hread : Json.read? document =
      some (.object (members.map fun m => (some m.key, m.value s)))) :
    ofDocument? document =
      some (if .maxAttempts ∈ members ∧ s.maxAttempts = 0 then .error noAttempts
        else .ok (s.sharing members)) := by
  have hlayer : Overlay.ofValue? (.object (members.map fun m => (some m.key, m.value s))) =
      some (s.giving members) :=
    readMembers?_giving hs [] hnodup
  rw [ofDocument?_of_read? hread, hlayer, Option.map_some, overlaid_giving]

theorem read?_members (s : Settings) (members : List Member) :
    Json.read? (Json.compactObject (members.map fun m => (m.key, m.written s))) =
      some (.object (members.map fun m => (some m.key, m.value s))) :=
  Json.read?_compactObject Member.key (Member.written s) fun m _ => m.spelled s

theorem ofDocument?_document {s : Settings} (hs : s.Fits) (hpos : 0 < s.maxAttempts) :
    ofDocument? s.document = some (.ok s) := by
  have hread := s.read?_members [.target, .seed, .maxAttempts]
  have hzero : ¬ (Member.maxAttempts ∈ [Member.target, .seed, .maxAttempts] ∧
      s.maxAttempts = 0) :=
    fun h => Nat.ne_of_gt hpos h.right
  refine (ofDocument?_members hs (by decide) hread).trans ?_
  rw [if_neg hzero]
  rfl

/-!
# Settings at large
-/

/-- Every run of steps ends with a positive ceiling, and a step that fails changes nothing.
Every selection of members, in any order and however it is spelled, is read with these
members and otherwise the defaults, unless it gives a ceiling of zero. -/
theorem reached_and_read {σ : Type} (steps : List (Step σ)) {s : Settings} (hs : s.Fits)
    {members : List Member} (hnodup : members.Nodup) :
    0 < (reached steps).maxAttempts ∧
      (forall step s', (reached steps).perform step = (true, s') ->
        reached (steps ++ [step]) = s') ∧
      (forall step s', (reached steps).perform step = (false, s') ->
        s' = reached steps ∧ reached (steps ++ [step]) = reached steps) ∧
      (forall n, (reached steps).setMaxAttempts n =
        if n = 0 then (.error noAttempts, reached steps)
        else (.ok (), { reached steps with maxAttempts := n })) ∧
      (forall document,
        Json.read? document =
            some (.object (members.map fun m => (some m.key, m.value s))) ->
          ofDocument? document =
            some (if .maxAttempts ∈ members ∧ s.maxAttempts = 0 then .error noAttempts
              else .ok (s.sharing members))) ∧
      (forall before written behind, Json.Gap before -> Json.Gap behind ->
        Json.Spelled (.object (members.map fun m => (some m.key, m.value s))) written ->
          Json.read? (before ++ (written ++ behind)) =
            some (.object (members.map fun m => (some m.key, m.value s)))) ∧
      Json.read? (Json.compactObject (members.map fun m => (m.key, m.written s))) =
        some (.object (members.map fun m => (some m.key, m.value s))) ∧
      (0 < s.maxAttempts -> ofDocument? s.document = some (.ok s)) := by
  have hlast : forall step, reached (steps ++ [step]) = ((reached steps).perform step).2 :=
    Steps.reached_concat ({} : Settings) steps
  have hpos : 0 < (reached steps).maxAttempts :=
    Steps.holds_reached (P := fun s : Settings => 0 < s.maxAttempts)
      (fun step hs => maxAttempts_pos_perform step hs) defaultMaxAttempts_pos steps
  refine ⟨hpos, ?_, ?_,
    fun n => rfl, fun document => ofDocument?_members hs hnodup,
    fun _ _ _ hbefore hbehind hwritten => Json.read?_of_spelled hbefore hwritten hbehind,
    s.read?_members members, ofDocument?_document hs⟩
  · intro step s' hmade
    rw [hlast, hmade]
  · intro step s' hfails
    have hs' := eq_of_perform_fails hfails
    rw [hlast, hfails]
    exact ⟨hs', hs'⟩

def largest : Settings where
  target := Decimal.maxWord
  seed := some (UInt64.ofNat Decimal.maxWord)
  maxAttempts := Decimal.maxWord

def refused : Settings where
  target := 3
  maxAttempts := 0

def ceilingAndSeed (s : Settings) : Text :=
  Json.compactObject ([Member.maxAttempts, .seed].map fun m => (m.key, m.written s))

/-- Settings that are made anew, then refused a ceiling of zero, and then loaded. -/
def course : List (Step Unit) :=
  [.ofTarget 5, .setMaxAttempts 0, .load (ceilingAndSeed largest)]

theorem reached_and_read_largest :
    largest.Fits ∧ refused.Fits ∧ 0 < (reached course).maxAttempts ∧
      ofDocument? (ceilingAndSeed largest) = some (.ok { largest with target := 1 }) ∧
      ofDocument? (ceilingAndSeed refused) = some (.error noAttempts) ∧
      ofDocument? largest.document = some (.ok largest) := by
  have hlargest : largest.Fits := ⟨Nat.le_refl _, Nat.le_refl _⟩
  have hrefused : refused.Fits := ⟨by decide, by decide⟩
  have hnodup : [Member.maxAttempts, .seed].Nodup := by
    decide
  rcases reached_and_read course hlargest hnodup with
    ⟨hpos, _, _, _, hload, _, hread, hback⟩
  rcases reached_and_read course hrefused hnodup with
    ⟨_, _, _, _, hload', _, hread', _⟩
  exact ⟨hlargest, hrefused, hpos, hload _ hread, hload' _ hread', hback (by decide)⟩

end Settings
end Moniker
