import Moniker.CommandLine.Request
import Moniker.Proofs.Filter.Accounts
import Moniker.Proofs.Filter.Blacklist
import Moniker.Proofs.Filter.Judging
import Moniker.Proofs.Generator.Exhaustion
import Moniker.Proofs.Host
import Moniker.Proofs.Steps

/-!
# The checks of a command line

The options ask for checks: by a word list, by patterns, by the accounts, by an outside
command.  The chain that is built for them has a filter for each in this order, and one
filter for a pattern however often it is given.
-/

namespace Moniker

variable {σ : Type}

/-!
# Filters that are added again

A chain keeps one filter of a name.  Nothing is lost if filters of one name are one
filter, which decides by a predicate.
-/

def Filter.Steady (f : Filter σ) : Prop :=
  exists p : Text -> Bool,
    forall candidate state, f.accepts candidate state = (.ok (p candidate), state)

/-- If the filters have one name, they are one filter and decide by a predicate. -/
def Filter.Repeats (f g : Filter σ) : Prop :=
  f.id = g.id -> f = g ∧ g.Steady

namespace Chain

/-- The chain to which the filters are added in their order. -/
def collected (filters : List (Filter σ)) : Chain σ :=
  filters.foldl add empty

theorem collected_concat (filters : List (Filter σ)) (f : Filter σ) :
    collected (filters ++ [f]) = (collected filters).add f :=
  List.foldl_concat ..

theorem nodup_collected (filters : List (Filter σ)) : (collected filters).ids.Nodup := by
  have hedited : edited (filters.map Edit.add) = collected filters := by
    rw [edited, List.foldl_map]
    rfl
  exact hedited ▸ nodup_edited _

theorem ids_collected (filters : List (Filter σ)) :
    (collected filters).ids = (filters.map Filter.id).eraseDups := by
  induction filters using List.reverseRecOn with
  | nil =>
      rfl
  | append_singleton filters f ih =>
      rw [collected_concat, ids_add (nodup_collected filters), ih, List.map_append,
        List.map_singleton, eraseDups_concat]
      simp only [List.mem_eraseDups]

theorem mem_of_mem_collected {filters : List (Filter σ)} {f : Filter σ}
    (h : f ∈ (collected filters).filters) : f ∈ filters := by
  induction filters using List.reverseRecOn with
  | nil =>
      cases h
  | append_singleton filters g ih =>
      rw [collected_concat] at h
      rcases (mem_insertFilter_iff (nodup_collected filters)).mp h with rfl | ⟨_, hmem⟩
      · exact List.mem_append_right _ List.mem_cons_self
      · exact List.mem_append_left _ (ih hmem)

theorem add_of_unique {chain : Chain σ} {f : Filter σ} (hnodup : chain.ids.Nodup)
    (hmem : f.id ∈ chain.ids) (h : forall g, g ∈ chain.filters -> g.id = f.id -> g = f) :
    chain.add f = chain := by
  have hfilters : (chain.filters.map fun g => if g.id = f.id then f else g) = chain.filters := by
    refine (List.map_congr_left fun g hg => ?_).trans (List.map_id chain.filters)
    split
    · rename_i hid
      exact (h g hg hid).symm
    · rfl
  rw [add, insertFilter_of_mem hnodup hmem, hfilters]

theorem exists_accepts_of_acceptsBy {filters : List (Filter σ)} {f : Filter σ}
    {candidate : Text} {state : σ} (h : (acceptsBy filters candidate state).1 = .ok true)
    (hf : f ∈ filters) : exists state', (f.accepts candidate state').1 = .ok true := by
  induction filters generalizing state with
  | nil =>
      cases hf
  | cons g rest ih =>
      by_cases hg : (g.accepts candidate state).1 = .ok true
      · rw [acceptsBy_cons_of_accepts hg] at h
        rcases List.mem_cons.mp hf with rfl | hrest
        · exact ⟨state, hg⟩
        · exact ih h hrest
      · rw [acceptsBy_cons_of_not_accepts hg] at h
        exact absurd h hg

theorem acceptsBy_concat_of_steady {filters : List (Filter σ)} {f : Filter σ} (hf : f ∈ filters)
    (hsteady : f.Steady) (candidate : Text) (state : σ) :
    acceptsBy (filters ++ [f]) candidate state = acceptsBy filters candidate state := by
  rw [acceptsBy_append]
  split
  · rename_i haccepts
    -- The filter has accepted the candidate before, in a state that is not known.
    rcases hsteady with ⟨p, hp⟩
    rcases exists_accepts_of_acceptsBy haccepts hf with ⟨state', hanswer⟩
    rw [hp] at hanswer
    have hlast := hp candidate (acceptsBy filters candidate state).2
    rw [Except.ok.inj hanswer] at hlast
    rw [acceptsBy_cons_of_accepts (congrArg Prod.fst hlast), hlast]
    exact Prod.ext haccepts.symm rfl
  · rfl

theorem accepts_collected {filters : List (Filter σ)} (h : filters.Pairwise Filter.Repeats)
    (candidate : Text) (state : σ) :
    (collected filters).accepts candidate state = acceptsBy filters candidate state := by
  induction filters using List.reverseRecOn with
  | nil =>
      rfl
  | append_singleton filters f ih =>
      rcases List.pairwise_append.mp h with ⟨hfilters, _, hlast⟩
      have hrepeats : forall g, g ∈ filters -> g.Repeats f := fun g hg =>
        hlast g hg f List.mem_cons_self
      rw [collected_concat]
      by_cases hmem : f.id ∈ (collected filters).ids
      · rcases List.mem_map.mp hmem with ⟨g, hg, hid⟩
        rcases hrepeats g (mem_of_mem_collected hg) hid with ⟨rfl, hsteady⟩
        rw [add_of_unique (nodup_collected filters) hmem fun g' hg' hid' =>
          (hrepeats g' (mem_of_mem_collected hg') hid').left, ih hfilters]
        exact (acceptsBy_concat_of_steady (mem_of_mem_collected hg) hsteady _ _).symm
      · show acceptsBy (insertFilter f (collected filters).filters) candidate state = _
        rw [insertFilter_of_not_mem hmem, acceptsBy_append, acceptsBy_append, ← ih hfilters]
        rfl

theorem acceptsBy_append_eq_ok_true_iff {filters filters' : List (Filter σ)}
    (h : forall f, f ∈ filters -> f.Spares id) (candidate : Text) (state : σ) :
    (acceptsBy (filters ++ filters') candidate state).1 = .ok true <->
      (forall f, f ∈ filters -> (f.accepts candidate state).1 = .ok true) ∧
        (acceptsBy filters' candidate state).1 = .ok true := by
  induction filters with
  | nil =>
      exact (and_iff_right (List.forall_mem_nil _)).symm
  | cons f rest ih =>
      rw [List.forall_mem_cons] at h
      rw [List.forall_mem_cons, and_assoc, ← ih h.right, List.cons_append]
      by_cases hf : (f.accepts candidate state).1 = .ok true
      · have hstate : (f.accepts candidate state).2 = state := h.left candidate state
        rw [acceptsBy_cons_of_accepts hf, hstate, and_iff_right hf]
      · rw [acceptsBy_cons_of_not_accepts hf]
        exact iff_of_false hf fun hall => hf hall.left

theorem acceptsBy_congr {filters : List (Filter σ)} {candidate : Text}
    (h : forall f, f ∈ filters -> forall state state',
      (f.accepts candidate state).1 = (f.accepts candidate state').1) (state state' : σ) :
    (acceptsBy filters candidate state).1 = (acceptsBy filters candidate state').1 := by
  induction filters generalizing state state' with
  | nil =>
      rfl
  | cons f rest ih =>
      rw [List.forall_mem_cons] at h
      by_cases hf : (f.accepts candidate state).1 = .ok true
      · have hf' := (h.left state' state).trans hf
        rw [acceptsBy_cons_of_accepts hf, acceptsBy_cons_of_accepts hf']
        exact ih h.right _ _
      · have hf' := mt (h.left state state').trans hf
        rw [acceptsBy_cons_of_not_accepts hf, acceptsBy_cons_of_not_accepts hf']
        exact h.left state state'

end Chain

theorem eraseDups_map {f : Text -> Text} (hf : Function.Injective f) (texts : List Text) :
    (texts.map f).eraseDups = texts.eraseDups.map f := by
  induction texts using List.reverseRecOn with
  | nil =>
      rfl
  | append_singleton texts text ih =>
      rw [List.map_append, List.map_singleton, eraseDups_concat, eraseDups_concat, ih]
      simp only [List.mem_map_of_injective hf]
      split
      · rfl
      · rw [List.map_append, List.map_singleton]

theorem eraseDups_append_of_disjoint {texts texts' : List Text} (h : texts.Disjoint texts') :
    (texts ++ texts').eraseDups = texts.eraseDups ++ texts'.eraseDups := by
  have hfilter : texts'.removeAll texts = texts' := by
    rw [List.removeAll, List.filter_eq_self]
    intro text htext
    simpa using fun hmem => h hmem htext
  rw [List.eraseDups_append, hfilter]

namespace CommandLine

/-!
# Word lists and patterns

The word list is read first, and then the patterns in their order.
-/

theorem ofFile_eq_error_iff {host : Host σ} {path : Text} {state : σ} {failure : Failure} :
    Blacklist.ofFile host path state = .error failure <-> host.Unread path state failure := by
  have hunread : forall failure, host.Unread path state failure ->
      Blacklist.ofFile host path state = .error failure := by
    intro failure h
    cases h with
    | missing hopen =>
        exact Blacklist.ofFile_of_error hopen
    | closed hopen hfault =>
        rw [Blacklist.ofFile_of_error hopen, Host.openFailure_of_ne hfault]
    | folder hopen =>
        exact Blacklist.ofFile_of_folder hopen
    | notText hopen hvalid =>
        exact Blacklist.ofFile_of_not_valid hopen hvalid
  refine ⟨fun hfails => ?_, hunread failure⟩
  rcases host.text_or_unread path state with ⟨s, hopen⟩ | ⟨failure', h⟩
  · rcases Blacklist.ofFile_of_valid hopen ⟨s, rfl⟩ with ⟨_, _, hok⟩
    rw [hok] at hfails
    cases hfails
  · rw [hunread failure' h] at hfails
    exact Except.error.inj hfails ▸ h

section Patterns

variable {dialect : Dialect} {pattern : Text} {patterns : List Text} {m : Matching}
  {matchings : List Matching}

def IsPattern (dialect : Dialect) (pattern : Text) : Prop :=
  exists isMatch, dialect pattern = some isMatch

inductive Compiles (dialect : Dialect) : Text -> Matching -> Prop where
  | of {pattern : Text} {isMatch : Text -> Bool} : dialect pattern = some isMatch ->
      Compiles dialect pattern { pattern := pattern, isMatch := isMatch }

theorem Compiles.ofPattern (h : Compiles dialect pattern m) :
    Matching.ofPattern dialect pattern = .ok m := by
  cases h with
  | of hmatch =>
      rw [Matching.ofPattern, hmatch]

theorem ofPattern_of_not_isPattern (h : ¬ IsPattern dialect pattern) :
    Matching.ofPattern dialect pattern = .error (.badPattern pattern) := by
  rw [Matching.ofPattern]
  split
  · rename_i isMatch hmatch
    exact absurd ⟨isMatch, hmatch⟩ h
  · rfl

theorem patternFilters_of_compiles (h : List.Forall₂ (Compiles dialect) patterns matchings) :
    (Arguments.patternFilters dialect patterns : Except Failure (List (Filter σ))) =
      .ok (matchings.map Matching.filter) := by
  induction h with
  | nil =>
      rfl
  | cons hfirst _ ih =>
      rw [Arguments.patternFilters, hfirst.ofPattern, ih]
      rfl

theorem patternFilters_of_firstNot
    (h : Steps.FirstNot (IsPattern dialect) patterns pattern) :
    (Arguments.patternFilters dialect patterns : Except Failure (List (Filter σ))) =
      .error (.badPattern pattern) := by
  induction h with
  | here hnot =>
      rw [Arguments.patternFilters, ofPattern_of_not_isPattern hnot]
      rfl
  | later hfirst _ ih =>
      rcases hfirst with ⟨isMatch, hmatch⟩
      rw [Arguments.patternFilters, (Compiles.of hmatch).ofPattern, ih]
      rfl

theorem exists_compiles (h : forall pattern, pattern ∈ patterns -> IsPattern dialect pattern) :
    exists matchings, List.Forall₂ (Compiles dialect) patterns matchings := by
  induction patterns with
  | nil =>
      exact ⟨[], .nil⟩
  | cons pattern rest ih =>
      rw [List.forall_mem_cons] at h
      rcases h.left with ⟨isMatch, hmatch⟩
      rcases ih h.right with ⟨matchings, hrest⟩
      exact ⟨_ :: matchings, .cons (.of hmatch) hrest⟩

def NoneMatches (dialect : Dialect) (patterns : List Text) (candidate : Text) : Prop :=
  forall pattern, pattern ∈ patterns -> forall isMatch, dialect pattern = some isMatch ->
    isMatch candidate = false

theorem forall_isMatch_iff (h : List.Forall₂ (Compiles dialect) patterns matchings)
    (candidate : Text) :
    (forall m, m ∈ matchings -> m.isMatch candidate = false) <->
      NoneMatches dialect patterns candidate := by
  unfold NoneMatches
  induction h with
  | nil =>
      exact iff_of_true (List.forall_mem_nil _) (List.forall_mem_nil _)
  | cons hfirst _ ih =>
      cases hfirst with
      | of hmatch =>
          rw [List.forall_mem_cons, List.forall_mem_cons, ih]
          refine and_congr_left fun _ => ⟨fun hfalse isMatch hother => ?_, fun h => h _ hmatch⟩
          cases hmatch.symm.trans hother
          exact hfalse

end Patterns

/-!
# The row of filters
-/

/-- What is made of the options. -/
structure Prepared (host : Host σ) (dialect : Dialect) (a : Arguments) (state : σ)
    (list : Blacklist) (matchings : List Matching) : Prop where
  words : a.blacklist = true -> Blacklist.ofFile host a.blacklistFile state = .ok list
  patterns : List.Forall₂ (Compiles dialect) a.patterns matchings

def LacksWords (host : Host σ) (a : Arguments) (state : σ) (failure : Failure) : Prop :=
  a.blacklist = true ∧ host.Unread a.blacklistFile state failure

/-- Why nothing is made of them: there is no word list, or else no filter for a pattern. -/
inductive Unprepared (host : Host σ) (dialect : Dialect) (a : Arguments) (state : σ) :
    Failure -> Prop where
  | words {failure : Failure} : LacksWords host a state failure ->
      Unprepared host dialect a state failure
  | pattern {pattern : Text} : (forall failure, ¬ LacksWords host a state failure) ->
      Steps.FirstNot (IsPattern dialect) a.patterns pattern ->
      Unprepared host dialect a state (.badPattern pattern)

def asked {α : Type} (b : Bool) (item : α) : List α :=
  if b then [item] else []

namespace Arguments

/-- The filters that the options ask for, a pattern as often as it is given. -/
def requested (host : Host σ) (a : Arguments) (list : Blacklist) (matchings : List Matching) :
    List (Filter σ) :=
  asked a.blacklist list.filter ++ matchings.map Matching.filter
    ++ asked a.accounts (Accounts.filter host { path := a.accountsFile })
    ++ asked a.command (Command.filter host { template := a.commandTemplate })

/-- The names of the checks that the options ask for, with these patterns among them. -/
def checks (a : Arguments) (patterns : List Text) : List Text :=
  asked a.blacklist "blacklist".toList ++ patterns.map ("regex:".toList ++ ·)
    ++ asked a.accounts "passwd".toList
    ++ asked a.command "shellcmd".toList

end Arguments

variable {host : Host σ} {dialect : Dialect} {a : Arguments} {state : σ} {list : Blacklist}
  {matchings : List Matching}

theorem blacklistFilters_of_words
    (h : a.blacklist = true -> Blacklist.ofFile host a.blacklistFile state = .ok list) :
    a.blacklistFilters host state = .ok (asked a.blacklist list.filter) := by
  rw [Arguments.blacklistFilters, asked]
  split
  · rename_i hasked
    rw [h hasked]
    rfl
  · rfl

theorem exists_words (h : forall failure, ¬ LacksWords host a state failure) :
    exists list, a.blacklist = true ->
      Blacklist.ofFile host a.blacklistFile state = .ok list := by
  by_cases hasked : a.blacklist = true
  · rcases Steps.exists_ok_of_forall_ne_error fun failure hfails =>
      h failure ⟨hasked, ofFile_eq_error_iff.mp hfails⟩ with ⟨list, hlist⟩
    exact ⟨list, fun _ => hlist⟩
  · exact ⟨{}, fun h => absurd h hasked⟩

theorem chain_of_prepared (h : Prepared host dialect a state list matchings) :
    a.chain host dialect state = .ok (Chain.collected (a.requested host list matchings)) := by
  rw [Arguments.chain, blacklistFilters_of_words h.words, patternFilters_of_compiles h.patterns]
  rfl

theorem chain_of_unprepared {failure : Failure} (h : Unprepared host dialect a state failure) :
    a.chain host dialect state = .error failure := by
  cases h with
  | words hlacks =>
      rw [Arguments.chain, Arguments.blacklistFilters, if_pos hlacks.left,
        ofFile_eq_error_iff.mpr hlacks.right]
      rfl
  | pattern hwords hfirst =>
      rcases exists_words hwords with ⟨list, hlist⟩
      rw [Arguments.chain, blacklistFilters_of_words hlist, patternFilters_of_firstNot hfirst]
      rfl

theorem prepared_or_unprepared (host : Host σ) (dialect : Dialect) (a : Arguments)
    (state : σ) :
    (exists list matchings, Prepared host dialect a state list matchings) ∨
      exists failure, Unprepared host dialect a state failure := by
  by_cases hwords : exists failure, LacksWords host a state failure
  · rcases hwords with ⟨failure, hlacks⟩
    exact Or.inr ⟨failure, .words hlacks⟩
  rcases Steps.all_or_firstNot (IsPattern dialect) a.patterns with hall | ⟨pattern, hfirst⟩
  · rcases exists_words (not_exists.mp hwords) with ⟨list, hlist⟩
    rcases exists_compiles hall with ⟨matchings, hmatchings⟩
    exact Or.inl ⟨list, matchings, hlist, hmatchings⟩
  · exact Or.inr ⟨_, .pattern (not_exists.mp hwords) hfirst⟩

theorem chain_eq_error_iff {failure : Failure} :
    a.chain host dialect state = .error failure <-> Unprepared host dialect a state failure := by
  refine ⟨fun hfails => ?_, chain_of_unprepared⟩
  rcases prepared_or_unprepared host dialect a state with ⟨list, matchings, h⟩ | ⟨failure', h⟩
  · rw [chain_of_prepared h] at hfails
    cases hfails
  · rw [chain_of_unprepared h] at hfails
    exact Except.error.inj hfails ▸ h

theorem exists_unprepared_iff :
    (exists failure, Unprepared host dialect a state failure) <->
      (exists failure, LacksWords host a state failure) ∨
        exists pattern, pattern ∈ a.patterns ∧ ¬ IsPattern dialect pattern := by
  rw [← Steps.exists_firstNot_iff]
  constructor
  · rintro ⟨failure, h⟩
    cases h with
    | words hlacks =>
        exact Or.inl ⟨failure, hlacks⟩
    | pattern _ hfirst =>
        exact Or.inr ⟨_, hfirst⟩
  · intro h
    by_cases hwords : exists failure, LacksWords host a state failure
    · rcases hwords with ⟨failure, hlacks⟩
      exact ⟨failure, .words hlacks⟩
    · rcases h.resolve_left hwords with ⟨pattern, hfirst⟩
      exact ⟨_, .pattern (not_exists.mp hwords) hfirst⟩

/-!
# Names

The name of a pattern is that of no other check, and no other pattern has it.
-/

theorem mem_asked_iff {α : Type} {b : Bool} {x item : α} :
    x ∈ asked b item <-> b = true ∧ x = item := by
  cases b with
  | false =>
      exact iff_of_false List.not_mem_nil fun h => Bool.noConfusion h.left
  | true =>
      exact List.mem_singleton.trans (and_iff_right rfl).symm

theorem map_asked {α β : Type} (f : α -> β) (b : Bool) (item : α) :
    (asked b item).map f = asked b (f item) :=
  apply_ite (List.map f) _ [item] []

theorem pairwise_asked {α : Type} (r : α -> α -> Prop) (b : Bool) (item : α) :
    (asked b item).Pairwise r := by
  cases b with
  | false =>
      exact List.Pairwise.nil
  | true =>
      exact List.pairwise_singleton r item

theorem eraseDups_asked (b : Bool) (name : Text) : (asked b name).eraseDups = asked b name :=
  eraseDups_of_nodup (pairwise_asked _ b name)

theorem disjoint_checks (a : Arguments) (patterns : List Text) :
    (asked a.blacklist "blacklist".toList).Disjoint (patterns.map ("regex:".toList ++ ·)) ∧
      (asked a.blacklist "blacklist".toList ++ patterns.map ("regex:".toList ++ ·)).Disjoint
        (asked a.accounts "passwd".toList) ∧
      (asked a.blacklist "blacklist".toList ++ patterns.map ("regex:".toList ++ ·)
        ++ asked a.accounts "passwd".toList).Disjoint (asked a.command "shellcmd".toList) := by
  refine ⟨?_, ?_, ?_⟩
  all_goals
    intro name hname hname'
    simp only [List.mem_append, List.mem_map, mem_asked_iff] at hname hname'
    grind

theorem pairwise_append_of_disjoint {filters filters' : List (Filter σ)}
    (h : filters.Pairwise Filter.Repeats) (h' : filters'.Pairwise Filter.Repeats)
    (hids : (filters.map Filter.id).Disjoint (filters'.map Filter.id)) :
    (filters ++ filters').Pairwise Filter.Repeats := by
  refine List.pairwise_append.mpr ⟨h, h', fun f hf g hg hid => ?_⟩
  exact (hids (List.mem_map_of_mem hf) (hid ▸ List.mem_map_of_mem hg)).elim

theorem eraseDups_checks (patterns : List Text) :
    (a.checks patterns).eraseDups = a.checks patterns.eraseDups := by
  rcases disjoint_checks a patterns with ⟨hwords, haccounts, hcommand⟩
  have hinjective : Function.Injective ("regex:".toList ++ ·) := List.append_right_injective _
  rw [Arguments.checks, eraseDups_append_of_disjoint hcommand,
    eraseDups_append_of_disjoint haccounts, eraseDups_append_of_disjoint hwords,
    eraseDups_map hinjective, eraseDups_asked, eraseDups_asked, eraseDups_asked]
  rfl

section Matchings

variable {patterns : List Text}

theorem ids_matchings (h : List.Forall₂ (Compiles dialect) patterns matchings) :
    (matchings.map Matching.filter : List (Filter σ)).map Filter.id =
      patterns.map ("regex:".toList ++ ·) := by
  induction h with
  | nil =>
      rfl
  | cons hfirst _ ih =>
      cases hfirst
      rw [List.map_cons, List.map_cons, List.map_cons, ih]
      rfl

theorem dialect_of_mem_matchings (h : List.Forall₂ (Compiles dialect) patterns matchings)
    {m : Matching} (hm : m ∈ matchings) : dialect m.pattern = some m.isMatch := by
  induction h with
  | nil =>
      cases hm
  | cons hfirst _ ih =>
      rcases List.mem_cons.mp hm with rfl | hrest
      · cases hfirst with
        | of hmatch =>
            exact hmatch
      · exact ih hrest

theorem pairwise_matchings (h : List.Forall₂ (Compiles dialect) patterns matchings) :
    (matchings.map Matching.filter : List (Filter σ)).Pairwise Filter.Repeats := by
  rw [List.pairwise_map]
  refine List.pairwise_of_forall_mem_list fun m hm m' hm' hid =>
    ⟨?_, m'.accepts, fun _ _ => rfl⟩
  have hpattern : m.pattern = m'.pattern := List.append_cancel_left hid
  have hmatch := (dialect_of_mem_matchings h hm).symm
  rw [hpattern, dialect_of_mem_matchings h hm'] at hmatch
  rcases m with ⟨pattern, isMatch⟩
  rcases m' with ⟨pattern', isMatch'⟩
  cases hpattern
  cases hmatch
  rfl

end Matchings

theorem ids_requested (h : List.Forall₂ (Compiles dialect) a.patterns matchings) :
    (a.requested host list matchings).map Filter.id = a.checks a.patterns := by
  simp only [Arguments.requested, Arguments.checks, List.map_append, map_asked, ids_matchings h]
  rfl

theorem pairwise_requested (h : List.Forall₂ (Compiles dialect) a.patterns matchings) :
    (a.requested host list matchings).Pairwise Filter.Repeats := by
  rcases disjoint_checks a a.patterns with ⟨hwords, haccounts, hcommand⟩
  have hmatchings : (matchings.map Matching.filter : List (Filter σ)).Pairwise Filter.Repeats :=
    pairwise_matchings h
  refine pairwise_append_of_disjoint (pairwise_append_of_disjoint (pairwise_append_of_disjoint
    (pairwise_asked _ _ _) hmatchings ?_) (pairwise_asked _ _ _) ?_) (pairwise_asked _ _ _) ?_
  · rw [map_asked, ids_matchings h]
    exact hwords
  · rw [List.map_append, map_asked, map_asked, ids_matchings h]
    exact haccounts
  · rw [List.map_append, List.map_append, map_asked, map_asked, map_asked, ids_matchings h]
    exact hcommand

/-!
# Candidates
-/

namespace Arguments

def accountsAnswer (host : Host σ) (a : Arguments) (candidate : Text) (state : σ) :
    Except Failure Bool :=
  ((Accounts.filter host { path := a.accountsFile }).accepts candidate state).1

def commandAnswer (host : Host σ) (a : Arguments) (candidate : Text) (state : σ) :
    Except Failure Bool :=
  (Command.free host (Command.fill candidate a.commandTemplate) state).1

end Arguments

/-- Every check that the options ask for accepts the candidate, with these answers of the
accounts and of the command. -/
structure Passes (dialect : Dialect) (a : Arguments) (list : Blacklist) (candidate : Text)
    (accounts command : Except Failure Bool) : Prop where
  words : a.blacklist = true -> ¬ exists word before behind,
    word ∈ list.words ∧ candidate = before ++ word ++ behind
  patterns : NoneMatches dialect a.patterns candidate
  accounts : a.accounts = true -> accounts = .ok true
  command : a.command = true -> command = .ok true

theorem forall_mem_asked_iff {α : Type} {b : Bool} {item : α} {p : α -> Prop} :
    (forall x, x ∈ asked b item -> p x) <-> (b = true -> p item) := by
  simp only [mem_asked_iff]
  exact ⟨fun h hb => h item ⟨hb, rfl⟩, fun h x hx => hx.right ▸ h hx.left⟩

theorem acceptsBy_asked_iff {b : Bool} {f : Filter σ} {candidate : Text} :
    (Chain.acceptsBy (asked b f) candidate state).1 = .ok true <->
      (b = true -> (f.accepts candidate state).1 = .ok true) := by
  cases b with
  | false =>
      exact iff_of_true rfl fun h => Bool.noConfusion h
  | true =>
      rw [forall_prop_of_true rfl]
      by_cases hf : (f.accepts candidate state).1 = .ok true
      · exact iff_of_true (congrArg Prod.fst (Chain.acceptsBy_cons_of_accepts hf [])) hf
      · rw [asked, if_pos rfl, Chain.acceptsBy_cons_of_not_accepts hf]

theorem filter_accepts_iff {candidate : Text} :
    ((list.filter : Filter σ).accepts candidate state).1 = .ok true <->
      ¬ exists word before behind,
        word ∈ list.words ∧ candidate = before ++ word ++ behind := by
  have hanswer : ((list.filter : Filter σ).accepts candidate state).1 =
      .ok (list.accepts candidate) :=
    rfl
  rw [hanswer, Except.ok.injEq, ← Bool.not_eq_false, Blacklist.accepts_eq_false_iff]

theorem accepts_requested_iff (h : List.Forall₂ (Compiles dialect) a.patterns matchings)
    {candidate : Text} :
    (Chain.acceptsBy (a.requested host list matchings) candidate state).1 = .ok true <->
      Passes dialect a list candidate (a.accountsAnswer host candidate state)
        (a.commandAnswer host candidate state) := by
  have hspares : forall f, f ∈ asked a.blacklist list.filter ++ matchings.map Matching.filter
      ++ asked a.accounts (Accounts.filter host { path := a.accountsFile }) -> f.Spares id := by
    simp only [List.forall_mem_append, forall_mem_asked_iff, List.forall_mem_map]
    exact ⟨⟨fun _ _ _ => rfl, fun _ _ _ _ => rfl⟩, fun _ _ _ => rfl⟩
  have hmatchings : forall m : Matching,
      ((m.filter : Filter σ).accepts candidate state).1 = .ok true <->
        m.isMatch candidate = false := by
    intro m
    have hanswer : ((m.filter : Filter σ).accepts candidate state).1 =
        .ok (!m.isMatch candidate) :=
      rfl
    rw [hanswer, Except.ok.injEq, Bool.not_eq_true']
  rw [Arguments.requested, Chain.acceptsBy_append_eq_ok_true_iff hspares, acceptsBy_asked_iff]
  simp only [List.forall_mem_append, forall_mem_asked_iff, List.forall_mem_map, hmatchings,
    filter_accepts_iff, forall_isMatch_iff h]
  constructor
  · rintro ⟨⟨⟨hwords, hpatterns⟩, haccounts⟩, hcommand⟩
    exact ⟨hwords, hpatterns, haccounts, hcommand⟩
  · rintro ⟨hwords, hpatterns, haccounts, hcommand⟩
    exact ⟨⟨⟨hwords, hpatterns⟩, haccounts⟩, hcommand⟩

/-- With the file of accounts as it is and a command that looks at the candidate alone, no
check depends on the state. -/
theorem acceptsBy_requested_congr {candidate : Text} {decided : Text -> Except Failure Bool}
    (hfile : forall state', host.openFile a.accountsFile state' =
      host.openFile a.accountsFile state)
    (hcommand : forall candidate state', a.commandAnswer host candidate state' =
      decided candidate) (state' : σ) :
    (Chain.acceptsBy (a.requested host list matchings) candidate state').1 =
      (Chain.acceptsBy (a.requested host list matchings) candidate state).1 := by
  refine Chain.acceptsBy_congr ?_ state' state
  simp only [Arguments.requested, List.forall_mem_append, forall_mem_asked_iff,
    List.forall_mem_map]
  refine ⟨⟨⟨fun _ _ _ => rfl, fun _ _ _ _ => rfl⟩, fun _ s s' => ?_⟩, fun _ s s' => ?_⟩
  · exact Accounts.accepts_congr ((hfile s).trans (hfile s').symm) candidate
  · exact (hcommand candidate s).trans (hcommand candidate s').symm

/-!
# Chains of a command line
-/

/-- There is no chain exactly if the word list is asked for and cannot be read, or a
pattern is no regular expression, and then the word list or else the first such pattern is
reported.  The checks of a chain have different names, which stand in a fixed order and
name every pattern once.  A candidate is judged as if all patterns were kept, and
accepted exactly if every check that is asked for accepts it. -/
theorem checks_in_order {σ : Type} (host : Host σ) (dialect : Dialect) (a : Arguments)
    (state : σ) :
    (forall failure, a.chain host dialect state = .error failure <->
        Unprepared host dialect a state failure) ∧
      ((exists failure, a.chain host dialect state = .error failure) <->
        (exists failure, LacksWords host a state failure) ∨
          exists pattern, pattern ∈ a.patterns ∧ ¬ IsPattern dialect pattern) ∧
      forall chain, a.chain host dialect state = .ok chain ->
        chain.ids = a.checks a.patterns.eraseDups ∧
          chain.ids.Nodup ∧
          exists list matchings,
            Prepared host dialect a state list matchings ∧
              (forall candidate state', chain.accepts candidate state' =
                Chain.acceptsBy (a.requested host list matchings) candidate state') ∧
              (forall candidate state', (chain.accepts candidate state').1 = .ok true <->
                Passes dialect a list candidate (a.accountsAnswer host candidate state')
                  (a.commandAnswer host candidate state')) ∧
              forall decided : Text -> Except Failure Bool,
                (forall state', host.openFile a.accountsFile state' =
                  host.openFile a.accountsFile state) ->
                (forall candidate state', a.commandAnswer host candidate state' =
                  decided candidate) ->
                forall candidate state',
                  (chain.accepts candidate state').1 = (chain.accepts candidate state).1 ∧
                    ((chain.accepts candidate state').1 = .ok true <->
                      Passes dialect a list candidate
                        (a.accountsAnswer host candidate state) (decided candidate)) := by
  refine ⟨fun failure => chain_eq_error_iff, ?_, fun chain hchain => ?_⟩
  · simp only [chain_eq_error_iff]
    exact exists_unprepared_iff
  rcases prepared_or_unprepared host dialect a state with ⟨list, matchings, h⟩ | ⟨failure, h⟩
  · rw [chain_of_prepared h, Except.ok.injEq] at hchain
    have haccepts : forall candidate state', chain.accepts candidate state' =
        Chain.acceptsBy (a.requested host list matchings) candidate state' :=
      hchain ▸ Chain.accepts_collected (pairwise_requested h.patterns)
    have hpasses : forall candidate state', (chain.accepts candidate state').1 = .ok true <->
        Passes dialect a list candidate (a.accountsAnswer host candidate state')
          (a.commandAnswer host candidate state') := fun candidate state' => by
      rw [haccepts, accepts_requested_iff h.patterns]
    refine ⟨?_, hchain ▸ Chain.nodup_collected _, list, matchings, h, haccepts, hpasses, ?_⟩
    · rw [← hchain, Chain.ids_collected, ids_requested h.patterns, eraseDups_checks]
    · intro decided hfile hcommand candidate state'
      have hstate : (chain.accepts candidate state').1 = (chain.accepts candidate state).1 := by
        rw [haccepts, haccepts, acceptsBy_requested_congr hfile hcommand]
      refine ⟨hstate, ?_⟩
      rw [hstate, hpasses, hcommand]
  · rw [chain_of_unprepared h] at hchain
    cases hchain

/-- A host whose command knows one name and counts its calls. -/
def registrar : Host Nat where
  openFile _ _ := .error .notFound
  runCommand _ arguments calls := (.ok (arguments == ["c".toList]), calls + 1)

/-- A pattern of letters matches what holds it, and nothing else is a pattern. -/
def lettersOnly : Dialect :=
  fun pattern => if pattern.all Char.isAlpha then some (Text.occursIn pattern) else none

def strict : Arguments where
  template := []
  patterns := ["a".toList, "b".toList, "a".toList]
  command := true
  commandTemplate := "known %s".toList

/-- After any number of calls the chain accepts a name that is not known, but not one that a
pattern matches, nor the one that is known.  A text that is no pattern leaves no chain. -/
theorem checks_in_order_registrar :
    (exists chain, strict.chain registrar lettersOnly 0 = .ok chain ∧
      chain.ids = ["regex:a".toList, "regex:b".toList, "shellcmd".toList] ∧
      forall calls, (chain.accepts "d".toList calls).1 = .ok true ∧
        (chain.accepts "dab".toList calls).1 ≠ .ok true ∧
        (chain.accepts "c".toList calls).1 ≠ .ok true) ∧
      { strict with patterns := ["a".toList, "(".toList, "[".toList] }.chain
        registrar lettersOnly 0 = .error (.badPattern "(".toList) := by
  constructor
  · rcases checks_in_order registrar lettersOnly strict 0 with ⟨_, _, hchain⟩
    rcases hchain _ rfl with ⟨hids, _, list, matchings, hprepared, _, _, hfixed⟩
    have hcommand : forall candidate calls, strict.commandAnswer registrar candidate calls =
        strict.commandAnswer registrar candidate 0 := by
      intro candidate calls
      rw [Arguments.commandAnswer, Arguments.commandAnswer, Command.free, Command.free]
      split <;> rfl
    have hjudged := fun candidate calls => (hfixed _ (fun _ => rfl) hcommand candidate calls).right
    refine ⟨_, rfl, hids, fun calls => ⟨(hjudged _ calls).mpr ?_, fun haccepted => ?_,
      fun haccepted => ?_⟩⟩
    · have hpatterns : NoneMatches lettersOnly strict.patterns "d".toList := by
        unfold NoneMatches lettersOnly strict
        decide
      exact ⟨fun h => Bool.noConfusion h, hpatterns, fun h => Bool.noConfusion h, fun _ => rfl⟩
    · have hpasses := (hjudged _ calls).mp haccepted
      have hmatch := hpasses.patterns "b".toList (by decide) _ rfl
      exact absurd hmatch (by decide)
    · have hpasses := (hjudged _ calls).mp haccepted
      exact absurd (hpasses.command rfl) (by decide)
  · have hwords : forall failure, ¬ LacksWords registrar
        { strict with patterns := ["a".toList, "(".toList, "[".toList] } 0 failure :=
      fun _ h => Bool.noConfusion h.left
    have hnone : ¬ IsPattern lettersOnly "(".toList := by
      rintro ⟨isMatch, hmatch⟩
      cases hmatch
    have hfirst : Steps.FirstNot (IsPattern lettersOnly)
        ["a".toList, "(".toList, "[".toList] "(".toList :=
      .later ⟨_, rfl⟩ (.here hnone)
    exact ((checks_in_order registrar lettersOnly _ 0).left _).mpr (.pattern hwords hfirst)

end CommandLine
end Moniker
