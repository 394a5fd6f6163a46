import Moniker.Proofs.Host
import Moniker.Proofs.Settings

/-!
# Settings in layers

The options of a command line lie over the file of settings, and the file over the
defaults.  The file is read before the options are looked at, so a file that cannot be
used is reported whatever they give; otherwise every setting comes from the topmost layer
that gives it.
-/

namespace Moniker
namespace Settings

/-!
# Values that give settings

In an object a member is given under its key, in an array at its place.  A member that
is given twice, or whose value cannot be read, spoils the whole document.
-/

namespace Member

def all : List Member :=
  [target, seed, maxAttempts]

def ofKey? (key? : Option Text) : Option Member :=
  all.find? fun m => key? = some m.key

end Member

/-- The members for which a value stands, in their order, with their values. -/
def given : Json.Value -> List (Member × Json.Value)
  | .object members => members.filterMap fun m => (Member.ofKey? m.1).map (·, m.2)
  | .array items => Member.all.zip items
  | _ => []

def valuesFor (pairs : List (Member × Json.Value)) (m : Member) : List Json.Value :=
  (pairs.filter fun pair => pair.1 = m).map Prod.snd

def seedOf? (v : Json.Value) : Option (Option UInt64) :=
  v.optionalWord?.map (Option.map UInt64.ofNat)

/-- At most one value gives a setting, and only one that was not given before. -/
inductive GivenOnce {α : Type} (read? : Json.Value -> Option α) :
    Option α -> List Json.Value -> Option α -> Prop where
  | kept {a? : Option α} : GivenOnce read? a? [] a?
  | given {v : Json.Value} {a : α} : read? v = some a -> GivenOnce read? none [v] (some a)

/-- The members give what the second layer has and the first has not. -/
@[mk_iff]
structure Adds (layer : Overlay) (pairs : List (Member × Json.Value)) (layer' : Overlay) :
    Prop where
  target : GivenOnce Json.Value.word? layer.target? (valuesFor pairs .target) layer'.target?
  seed : GivenOnce seedOf? layer.seed? (valuesFor pairs .seed) layer'.seed?
  maxAttempts :
    GivenOnce Json.Value.word? layer.maxAttempts? (valuesFor pairs .maxAttempts)
      layer'.maxAttempts?

/-- The value is an object whose keys are texts, or an array of at most three items. -/
def IsRecord : Json.Value -> Prop
  | .object members => forall m, m ∈ members -> m.1 ≠ none
  | .array items => items.length ≤ Member.all.length
  | _ => False

def Gives (v : Json.Value) (layer : Overlay) : Prop :=
  IsRecord v ∧ Adds {} (given v) layer

section Once

variable {α : Type} {read? : Json.Value -> Option α} {a? a'? : Option α}

theorem givenOnce_nil_iff : GivenOnce read? a? [] a'? <-> a? = a'? := by
  constructor
  · intro h
    cases h
    rfl
  · rintro rfl
    exact .kept

theorem givenOnce_cons_iff {v : Json.Value} {values : List Json.Value} :
    GivenOnce read? a? (v :: values) a'? <->
      a? = none ∧ exists a, read? v = some a ∧ GivenOnce read? (some a) values a'? := by
  constructor
  · intro h
    cases h with
    | given hread =>
        exact ⟨rfl, _, hread, .kept⟩
  · rintro ⟨rfl, a, hread, hrest⟩
    cases hrest with
    | kept =>
        exact .given hread

end Once

theorem valuesFor_cons (m m' : Member) (v : Json.Value) (pairs : List (Member × Json.Value)) :
    valuesFor ((m, v) :: pairs) m' =
      if m = m' then v :: valuesFor pairs m' else valuesFor pairs m' := by
  rw [valuesFor, List.filter_cons]
  by_cases h : m = m'
  · rw [if_pos (decide_eq_true h), if_pos h]
    rfl
  · rw [if_neg (by simpa using h), if_neg h]
    rfl

/-!
# Reading a value

A reader takes the members one after the other and adds each to the layer.
-/

section Reading

variable {layer layer' : Overlay}

def readAs? (layer : Overlay) (pair : Member × Json.Value) : Option Overlay :=
  match pair.1 with
  | .target => layer.readTarget? pair.2
  | .seed => layer.readSeed? pair.2
  | .maxAttempts => layer.readMaxAttempts? pair.2

theorem readTarget?_eq_some_iff {v : Json.Value} :
    layer.readTarget? v = some layer' <->
      layer.target? = none ∧ exists n, v.word? = some n ∧
        { layer with target? := some n } = layer' := by
  rw [Overlay.readTarget?]
  cases v.word? <;> cases layer.target? <;> simp

theorem readSeed?_eq_some_iff {v : Json.Value} :
    layer.readSeed? v = some layer' <->
      layer.seed? = none ∧ exists seed, seedOf? v = some seed ∧
        { layer with seed? := some seed } = layer' := by
  rw [Overlay.readSeed?, seedOf?]
  cases v.optionalWord? <;> cases layer.seed? <;> simp

theorem readMaxAttempts?_eq_some_iff {v : Json.Value} :
    layer.readMaxAttempts? v = some layer' <->
      layer.maxAttempts? = none ∧ exists n, v.word? = some n ∧
        { layer with maxAttempts? := some n } = layer' := by
  rw [Overlay.readMaxAttempts?]
  cases v.word? <;> cases layer.maxAttempts? <;> simp

theorem adds_nil_iff : Adds layer [] layer' <-> layer = layer' := by
  rcases layer with ⟨target?, seed?, maxAttempts?⟩
  rcases layer' with ⟨target'?, seed'?, maxAttempts'?⟩
  rw [adds_iff, Overlay.mk.injEq]
  exact and_congr givenOnce_nil_iff (and_congr givenOnce_nil_iff givenOnce_nil_iff)

theorem adds_cons_iff {pair : Member × Json.Value} {pairs : List (Member × Json.Value)} :
    Adds layer (pair :: pairs) layer' <->
      exists layer₁, readAs? layer pair = some layer₁ ∧ Adds layer₁ pairs layer' := by
  rcases pair with ⟨m, v⟩
  cases m with
  | target =>
      simp only [adds_iff, valuesFor_cons, reduceCtorEq, if_true, if_false, givenOnce_cons_iff,
        readAs?, readTarget?_eq_some_iff]
      grind
  | seed =>
      simp only [adds_iff, valuesFor_cons, reduceCtorEq, if_true, if_false, givenOnce_cons_iff,
        readAs?, readSeed?_eq_some_iff]
      grind
  | maxAttempts =>
      simp only [adds_iff, valuesFor_cons, reduceCtorEq, if_true, if_false, givenOnce_cons_iff,
        readAs?, readMaxAttempts?_eq_some_iff]
      grind

theorem foldlM_readAs?_eq_some_iff {pairs : List (Member × Json.Value)} :
    pairs.foldlM readAs? layer = some layer' <-> Adds layer pairs layer' := by
  induction pairs generalizing layer with
  | nil =>
      rw [adds_nil_iff]
      exact Option.some_inj
  | cons pair pairs ih =>
      rw [List.foldlM_cons, Option.bind_eq_bind, Option.bind_eq_some_iff, adds_cons_iff]
      simp only [ih]

theorem readMember?_text (key : Text) (v : Json.Value) :
    layer.readMember? (some key, v) =
      match Member.ofKey? (some key) with
      | some m => readAs? layer (m, v)
      | none => some layer := by
  rw [Overlay.readMember?, Member.ofKey?, Member.all]
  by_cases htarget : key = Member.target.key
  · subst htarget
    rfl
  by_cases hseed : key = Member.seed.key
  · subst hseed
    rfl
  by_cases hmax : key = Member.maxAttempts.key
  · subst hmax
    rfl
  · simp only [List.find?_cons, Option.some.injEq, htarget, hseed, hmax, decide_false,
      List.find?_nil]
    exact (if_neg htarget).trans ((if_neg hseed).trans (if_neg hmax))

theorem given_object_cons (key? : Option Text) (v : Json.Value)
    (members : List (Option Text × Json.Value)) :
    given (.object ((key?, v) :: members)) =
      match Member.ofKey? key? with
      | some m => (m, v) :: given (.object members)
      | none => given (.object members) := by
  rw [given, List.filterMap_cons]
  cases Member.ofKey? key? <;> rfl

theorem readMembers?_eq_some_iff {members : List (Option Text × Json.Value)} :
    layer.readMembers? members = some layer' <->
      IsRecord (.object members) ∧
        (given (.object members)).foldlM readAs? layer = some layer' := by
  induction members generalizing layer with
  | nil =>
      exact (and_iff_right (List.forall_mem_nil _)).symm
  | cons m members ih =>
      rcases m with ⟨key?, v⟩
      rw [Overlay.readMembers?, Option.bind_eq_bind, Option.bind_eq_some_iff]
      cases key? with
      | none =>
          refine iff_of_false ?_ fun h => h.left _ List.mem_cons_self rfl
          rintro ⟨_, hread, _⟩
          cases hread
      | some key =>
          have hrecord : IsRecord (.object ((some key, v) :: members)) <->
              IsRecord (.object members) :=
            List.forall_mem_cons.trans (and_iff_right (Option.some_ne_none key))
          rw [hrecord, readMember?_text, given_object_cons]
          cases Member.ofKey? (some key) with
          | none =>
              simp only [Option.some.injEq, exists_eq_left', ih]
          | some m =>
              simp only [List.foldlM_cons, Option.bind_eq_bind, Option.bind_eq_some_iff, ih]
              constructor
              · rintro ⟨layer₁, hread, hmembers, hrest⟩
                exact ⟨hmembers, layer₁, hread, hrest⟩
              · rintro ⟨hmembers, layer₁, hread, hrest⟩
                exact ⟨layer₁, hread, hmembers, hrest⟩

theorem ofValue?_eq_some_iff {v : Json.Value} :
    Overlay.ofValue? v = some layer <-> Gives v layer := by
  rw [Gives, ← foldlM_readAs?_eq_some_iff]
  cases v with
  | null | boolean _ | number _ | string _ =>
      exact iff_of_false (fun h => by cases h) fun h => h.left
  | object members =>
      exact readMembers?_eq_some_iff
  | array items =>
      match items with
      | [] | [_] | [_, _] | [_, _, _] =>
          simp [IsRecord, Overlay.ofValue?, given, Member.all, readAs?]
      | _ :: _ :: _ :: _ :: _ =>
          exact iff_of_false (fun h => by cases h) fun h =>
            absurd h.left (by simp [IsRecord, Member.all])

end Reading

/-!
# Documents

A document may be followed by nothing but blanks.  A ceiling of zero is refused before
what follows is looked at.
-/

def Describes (document : Text) (layer : Overlay) : Prop :=
  exists v, Json.read? document = some v ∧ Gives v layer

/-- The first value of the document gives a ceiling of zero. -/
def CarriesZero (document : Text) : Prop :=
  exists v rest layer, Json.readFirst? document = some (v, rest) ∧ Gives v layer ∧
    layer.maxAttempts? = some 0

def under (s : Settings) (layer : Overlay) : Settings where
  target := layer.target?.getD s.target
  seed := layer.seed?.getD s.seed
  maxAttempts := layer.maxAttempts?.getD s.maxAttempts

theorem overlaid_eq (s : Settings) (layer : Overlay) :
    s.overlaid layer =
      if layer.maxAttempts? = some 0 then .error noAttempts else .ok (s.under layer) := by
  rw [overlaid, under]
  cases layer.maxAttempts? with
  | none =>
      rfl
  | some n =>
      rw [withMaxAttempts, setMaxAttempts]
      by_cases hn : n = 0
      · rw [if_pos hn, if_pos (congrArg some hn)]
        rfl
      · rw [if_neg hn, if_neg fun h => hn (Option.some.inj h)]
        rfl

section Documents

variable {document : Text} {layer : Overlay}

theorem ofDocument?_of_carriesZero (h : CarriesZero document) :
    ofDocument? document = some (.error noAttempts) := by
  rcases h with ⟨v, rest, layer, hfirst, hgives, hzero⟩
  simp only [ofDocument?, hfirst, ofValue?_eq_some_iff.mpr hgives, Option.bind_eq_bind,
    Option.bind_some, overlaid_eq, if_pos hzero]
  rfl

theorem ofDocument?_of_describes (h : Describes document layer)
    (hzero : layer.maxAttempts? ≠ some 0) :
    ofDocument? document = some (.ok (({} : Settings).under layer)) := by
  rcases h with ⟨v, hread, hgives⟩
  rw [ofDocument?_of_read? hread, ofValue?_eq_some_iff.mpr hgives, Option.map_some, overlaid_eq,
    if_neg hzero]

theorem ofDocument?_of_malformed (hzero : ¬ CarriesZero document)
    (hmalformed : forall layer, ¬ Describes document layer) : ofDocument? document = none := by
  cases hfirst : Json.readFirst? document with
  | none =>
      rw [ofDocument?, hfirst]
      rfl
  | some first =>
      rcases first with ⟨v, rest⟩
      cases hv : Overlay.ofValue? v with
      | none =>
          simp [ofDocument?, hfirst, hv]
      | some layer =>
          have hgives : Gives v layer := ofValue?_eq_some_iff.mp hv
          have hnonzero : layer.maxAttempts? ≠ some 0 := fun h =>
            hzero ⟨v, rest, layer, hfirst, hgives, h⟩
          -- The first value gives settings, so it is what follows it that spoils the document.
          have hrest : Json.skipSpace rest ≠ [] := fun hempty =>
            hmalformed layer ⟨v, by simp [Json.read?, hfirst, hempty], hgives⟩
          simp [ofDocument?, hfirst, hv, overlaid_eq, hnonzero, hrest]

theorem carriesZero_of_describes (h : Describes document layer)
    (hzero : layer.maxAttempts? = some 0) : CarriesZero document := by
  rcases h with ⟨v, hread, hgives⟩
  rw [Json.read?, Option.bind_eq_bind, Option.bind_eq_some_iff] at hread
  rcases hread with ⟨⟨v', rest⟩, hfirst, hrest⟩
  have hv : v' = v := by
    by_cases hempty : (Json.skipSpace rest).isEmpty = true
    · exact Option.some.inj ((if_pos hempty).symm.trans hrest)
    · exact absurd ((if_neg hempty).symm.trans hrest) (Option.some_ne_none v).symm
  exact ⟨v, rest, layer, hv ▸ hfirst, hgives, hzero⟩

end Documents

/-!
# Files
-/

open CommandLine

section Files

variable {σ : Type}

/-- Why the file gives no settings. -/
inductive Unusable (host : Host σ) (path : Text) (state : σ) : Failure -> Prop where
  | unread {failure : Failure} : host.Unread path state failure ->
      Unusable host path state failure
  | zero {document : Text} :
      host.openFile path state = .ok (.bytes (Utf8.encode document)) -> CarriesZero document ->
      Unusable host path state (.badSetting (path ++ ": ".toList ++ noAttempts.message))
  | malformed {document : Text} :
      host.openFile path state = .ok (.bytes (Utf8.encode document)) -> ¬ CarriesZero document ->
      (forall layer, ¬ Describes document layer) ->
      Unusable host path state (.malformedSettings path)

inductive Under (host : Host σ) (a : Arguments) (state : σ) : Overlay -> Prop where
  | nothing : a.settingsFile? = none -> Under host a state {}
  | file {path document : Text} {layer : Overlay} :
      a.settingsFile? = some path ->
      host.openFile path state = .ok (.bytes (Utf8.encode document)) ->
      Describes document layer -> layer.maxAttempts? ≠ some 0 -> Under host a state layer

variable {host : Host σ} {path document : Text} {state : σ} {a : Arguments}

theorem wholeFile_of_bytes {content : List UInt8}
    (h : host.openFile path state = .ok (.bytes content)) :
    Arguments.wholeFile host path state =
      (Utf8.decode content).elim (.error (.unreadable path .notUtf8)) .ok := by
  rw [Arguments.wholeFile, Host.openOrFail, h]
  simp only [Except.mapError, bind, Except.bind]
  cases Utf8.decode content <;> rfl

theorem wholeFile_of_unread {failure : Failure} (h : host.Unread path state failure) :
    Arguments.wholeFile host path state = .error failure := by
  cases h with
  | missing hopen =>
      rw [Arguments.wholeFile, Host.openOrFail, hopen]
      rfl
  | closed hopen hfault =>
      rw [Arguments.wholeFile, Host.openOrFail, hopen, ← Host.openFailure_of_ne hfault path]
      rfl
  | folder hopen =>
      rw [Arguments.wholeFile, Host.openOrFail, hopen]
      rfl
  | notText hopen hvalid =>
      rw [wholeFile_of_bytes hopen, Utf8.decode_eq_none_iff.mpr hvalid]
      rfl

theorem baseSettings_of_encode
    (h : host.openFile path state = .ok (.bytes (Utf8.encode document))) :
    Arguments.baseSettings host (some path) state = Arguments.settingsOfDocument path document := by
  rw [Arguments.baseSettings, wholeFile_of_bytes h, Utf8.decode_encode]
  rfl

theorem baseSettings_of_unusable {failure : Failure} (h : Unusable host path state failure) :
    Arguments.baseSettings host (some path) state = .error failure := by
  cases h with
  | unread hunread =>
      rw [Arguments.baseSettings, wholeFile_of_unread hunread]
      rfl
  | zero hopen hzero =>
      rw [baseSettings_of_encode hopen, Arguments.settingsOfDocument,
        ofDocument?_of_carriesZero hzero]
      rfl
  | malformed hopen hzero hmalformed =>
      rw [baseSettings_of_encode hopen, Arguments.settingsOfDocument,
        ofDocument?_of_malformed hzero hmalformed]

theorem baseSettings_of_under {layer : Overlay} (h : Under host a state layer) :
    Arguments.baseSettings host a.settingsFile? state = .ok (({} : Settings).under layer) := by
  cases h with
  | nothing hnone =>
      rw [hnone]
      rfl
  | file hfile hopen hdescribes hzero =>
      rw [hfile, baseSettings_of_encode hopen, Arguments.settingsOfDocument,
        ofDocument?_of_describes hdescribes hzero]
      rfl

theorem under_or_unusable (host : Host σ) (a : Arguments) (state : σ) :
    (exists layer, Under host a state layer) ∨
      exists path failure, a.settingsFile? = some path ∧ Unusable host path state failure := by
  cases hfile : a.settingsFile? with
  | none =>
      exact Or.inl ⟨{}, .nothing hfile⟩
  | some path =>
      rcases host.text_or_unread path state with ⟨document, hopen⟩ | ⟨failure, hunread⟩
      · by_cases hzero : CarriesZero document
        · exact Or.inr ⟨path, _, rfl, .zero hopen hzero⟩
        by_cases hlayer : exists layer, Describes document layer
        · rcases hlayer with ⟨layer, hdescribes⟩
          exact Or.inl ⟨layer, .file hfile hopen hdescribes fun h =>
            hzero (carriesZero_of_describes hdescribes h)⟩
        · exact Or.inr ⟨path, _, rfl, .malformed hopen hzero (not_exists.mp hlayer)⟩
      · exact Or.inr ⟨path, failure, rfl, .unread hunread⟩

end Files

/-- A file that gives no settings is reported, whatever the options give.  Otherwise each
setting is that of the options if they give it, else that of the file if it gives it, and
else the default, and the only failure is a ceiling of zero among the options. -/
theorem topmost_layer_settles {σ : Type} (host : Host σ) (a : Arguments) (state : σ) :
    (forall path failure, a.settingsFile? = some path -> Unusable host path state failure ->
        a.settings host state = .error failure) ∧
      (forall layer, Under host a state layer ->
        a.settings host state =
          if a.maxAttempts? = some 0 then .error noAttempts
          else .ok
            { target := (a.target?.or layer.target?).getD defaultTarget
              seed := ((a.seed?.map some).or layer.seed?).getD none
              maxAttempts := (a.maxAttempts?.or layer.maxAttempts?).getD defaultMaxAttempts }) ∧
      ((exists layer, Under host a state layer) ∨
        exists path failure, a.settingsFile? = some path ∧ Unusable host path state failure) ∧
      (a.settingsFile? = none -> forall failure,
        a.settings host state = .error failure <->
          a.maxAttempts? = some 0 ∧ failure = noAttempts) := by
  have hunusable : forall path failure, a.settingsFile? = some path ->
      Unusable host path state failure -> a.settings host state = .error failure := by
    intro path failure hfile h
    rw [Arguments.settings, hfile, baseSettings_of_unusable h]
    rfl
  have hunder : forall layer, Under host a state layer ->
      a.settings host state =
        if a.maxAttempts? = some 0 then .error noAttempts
        else .ok
          { target := (a.target?.or layer.target?).getD defaultTarget
            seed := ((a.seed?.map some).or layer.seed?).getD none
            maxAttempts := (a.maxAttempts?.or layer.maxAttempts?).getD defaultMaxAttempts } := by
    intro layer h
    rw [Arguments.settings, baseSettings_of_under h]
    refine (overlaid_eq _ a.overlay).trans ?_
    rw [Arguments.overlay, under, under]
    simp only [Option.getD_or]
  refine ⟨hunusable, hunder, under_or_unusable host a state, fun hnone failure => ?_⟩
  rw [hunder {} (.nothing hnone)]
  split
  · rename_i hzero
    rw [Except.error.injEq, and_iff_right hzero, eq_comm]
  · rename_i hzero
    exact iff_of_false (fun h => by cases h) fun h => hzero h.left

/-- A host with one file, which gives a ceiling and a seed. -/
def drawer : Host Unit where
  openFile path _ :=
    if path = "s".toList then .ok (.bytes (Utf8.encode (ceilingAndSeed largest)))
    else .error .notFound
  runCommand _ _ state := (.ok true, state)

def reseeded : Arguments where
  template := []
  settingsFile? := some "s".toList
  seed? := some 5

/-- The ceiling is that of the file, the seed that of the options, and nobody gives a
target; a file that is not there is missed all the same. -/
theorem topmost_layer_settles_drawer :
    reseeded.settings drawer () = .ok { seed := some 5, maxAttempts := Decimal.maxWord } ∧
      { reseeded with settingsFile? := some "t".toList }.settings drawer () =
        .error (.missingFile "t".toList) := by
  have hfits : largest.Fits := ⟨Nat.le_refl _, Nat.le_refl _⟩
  have hgives : Gives (.object ([Member.maxAttempts, .seed].map fun m =>
      (some m.key, m.value largest))) (largest.giving [.maxAttempts, .seed]) :=
    ofValue?_eq_some_iff.mp (readMembers?_giving hfits [] (by decide))
  have hdescribes : Describes (ceilingAndSeed largest) (largest.giving [.maxAttempts, .seed]) :=
    ⟨_, largest.read?_members _, hgives⟩
  have hunder : Under drawer reseeded () (largest.giving [.maxAttempts, .seed]) :=
    .file rfl rfl hdescribes (by decide)
  have hmissing : Unusable drawer "t".toList () (.missingFile "t".toList) :=
    .unread (.missing rfl)
  rcases topmost_layer_settles drawer reseeded () with ⟨_, hsettles, _⟩
  rcases topmost_layer_settles drawer { reseeded with settingsFile? := some "t".toList } () with
    ⟨hfails, _⟩
  exact ⟨hsettles _ hunder, hfails _ _ rfl hmissing⟩

end Settings
end Moniker
