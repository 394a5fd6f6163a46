import Moniker.Proofs.Enumeration
import Moniker.Proofs.Generator.Collection
import Moniker.Random.Stream

/-!
# Exhaustive runs

A generator on a template around one counter goes through all numerals of the
counter if its ceiling lets it.  What it reports are the first accepted texts of
the template, and if it reports too few there are no others.
-/

namespace Moniker

variable {ρ : Type} [Chance ρ]

/-!
# First members of a list

A run ends in the middle of the candidates.  What it has kept by then are the
first members of what it would keep of all candidates.
-/

theorem filter_take_eq_take_filter {α : Type} {p : α -> Bool} {xs : List α} {n m : Nat}
    (hshort : ((xs.take n).filter p).length ≤ m)
    (hfull : xs.length ≤ n ∨ m ≤ ((xs.take n).filter p).length) :
    (xs.take n).filter p = (xs.filter p).take m := by
  cases hfull with
  | inl hall =>
      rw [List.take_of_length_le hall] at hshort
      rw [List.take_of_length_le hall, List.take_of_length_le hshort]
  | inr hquota =>
      have hprefix : (xs.take n).filter p <+: xs.filter p := (List.take_prefix n xs).filter p
      have hlength : ((xs.take n).filter p).length = m := Nat.le_antisymm hshort hquota
      have htake := List.prefix_iff_eq_take.mp hprefix
      rw [hlength] at htake
      exact htake

theorem eraseDups_of_nodup {texts : List Text} (h : texts.Nodup) : texts.eraseDups = texts := by
  induction texts with
  | nil =>
      rfl
  | cons text rest ih =>
      rcases List.nodup_cons.mp h with ⟨hnew, hrest⟩
      have hfilter : rest.filter (fun other => !other == text) = rest := by
        apply List.filter_eq_self.mpr
        intro other hother
        have hne : other ≠ text := by
          intro heq
          subst heq
          exact hnew hother
        simpa using hne
      rw [List.eraseDups_cons, hfilter, ih hrest]

namespace Template

variable {t : Template ρ} {before behind : List (Segment ρ)} {s : Segment ρ} {c : Counter} {n : Nat}

theorem length_accepted_le {accepts : Text -> Bool} {target : Nat}
    (h : t.StopsAt accepts target n) : (t.accepted accepts n).length ≤ target := by
  cases n with
  | zero =>
      exact Nat.zero_le target
  | succ k =>
      have hopen : ¬ t.Done accepts target k := (stopsAt_iff.mp h).right k (Nat.lt_succ_self k)
      have hk : (t.accepted accepts k).length < target :=
        Nat.lt_of_not_le fun hquota => hopen (Or.inr hquota)
      rw [accepted_succ]
      split
      · rw [List.length_append, List.length_singleton]
        exact hk
      · exact Nat.le_of_lt hk

def texts (before : List (Segment ρ)) (c : Counter) (behind : List (Segment ρ)) : List Text :=
  (Counter.numerals c.digits c.width).map (spelled before behind)

theorem spelled_injective (before behind : List (Segment ρ)) :
    Function.Injective (spelled before behind) := by
  intro v w h
  exact List.append_cancel_left (List.append_cancel_right h)

theorem nodup_texts (hdigits : c.digits.Nodup) : (texts before c behind).Nodup :=
  (Counter.nodup_numerals hdigits c.width).map (spelled_injective before behind)

theorem Around.accepted_eq (h : t.Around before s c behind) (hdigits : c.digits.Nodup)
    (hn : c.alternatives? = some n) (accepts : Text -> Bool) {k : Nat} (hk : k ≤ n) :
    t.accepted accepts k = ((texts before c behind).take k).filter accepts := by
  have hnodup : ((texts before c behind).take k).Nodup :=
    (nodup_texts hdigits).sublist (List.take_sublist k _)
  rw [accepted, h.candidates_eq hn hk, List.map_take]
  exact eraseDups_of_nodup (hnodup.filter accepts)

theorem length_texts (before behind : List (Segment ρ)) (hn : c.alternatives? = some n) :
    (texts before c behind).length = n := by
  rw [texts, List.length_map, Counter.length_numerals]
  exact (Capacity.eq_pow_of_power? hn).symm

theorem Around.stops (h : t.Around before s c behind) (hdigits : c.digits.Nodup)
    (hn : c.alternatives? = some n) (accepts : Text -> Bool) (target : Nat) :
    exists k, k ≤ n ∧ t.StopsAt accepts target k ∧
      t.accepted accepts k = ((texts before c behind).filter accepts).take target := by
  have hdead : (after next n t).live = false := by
    apply Bool.eq_false_iff.mpr
    intro hlive
    exact Nat.lt_irrefl n ((h.live_iff hn n).mp hlive)
  rcases exists_stopsAt (Or.inl hdead) with ⟨k, hk, hstops⟩
  refine ⟨k, hk, hstops, ?_⟩
  have hshort := length_accepted_le hstops
  rw [h.accepted_eq hdigits hn accepts hk] at hshort
  rw [h.accepted_eq hdigits hn accepts hk]
  apply filter_take_eq_take_filter hshort
  cases (stopsAt_iff.mp hstops).left with
  | inl hspent =>
      apply Or.inl
      rw [length_texts before behind hn]
      apply Nat.le_of_not_lt
      intro hlt
      rw [(h.live_iff hn k).mpr hlt] at hspent
      cases hspent
  | inr hquota =>
      rw [h.accepted_eq hdigits hn accepts hk] at hquota
      exact Or.inr hquota

end Template

/-!
# Exhaustive generation
-/

namespace Generator

variable {σ : Type}

theorem compile_of_ofTemplate {source : Text} {bindings : Bindings} {chain : Chain σ}
    {settings : Settings} {unseeded : ρ} {g : Generator ρ σ}
    (h : ofTemplate source bindings chain settings unseeded = .ok g) :
    Template.compile (master settings unseeded) source bindings = .ok g.template ∧
      g.chain = chain ∧ g.settings = settings := by
  unfold ofTemplate at h
  cases ht : Template.compile (master settings unseeded) source bindings with
  | error failure =>
      rw [ht] at h
      cases h
  | ok t =>
      rw [ht] at h
      cases h
      exact ⟨rfl, rfl, rfl⟩

theorem length_lt_of_ne_complete {target : Nat} {ids : List Text} (htarget : 0 < target)
    (h : Fulfillment.of target ids ≠ .complete) : ids.length < target := by
  unfold Fulfillment.of at h
  split at h
  · rename_i hempty
    rw [hempty]
    exact htarget
  · split at h
    · assumption
    · exact absurd rfl h

/-- The first run of a generator on a template around one counter.  The numerals
of the counter are all texts of its width over its digits, in lexicographic
order; the run reports the first accepted ones between the constants, and a
report that is not complete leaves none out. -/
theorem generate_exhaustive {source : Text} {bindings : Bindings} {chain : Chain σ}
    {settings : Settings} {unseeded : ρ} {g : Generator ρ σ} {accepts : Text -> Bool}
    {before behind : List (Segment ρ)} {s : Segment ρ} {c : Counter} {n : Nat} (state : σ)
    (hg : ofTemplate source bindings chain settings unseeded = .ok g)
    (hchain : chain.Decides accepts) (hfits : g.template.Fits)
    (hsamples : forall r, r ∈ g.template.segments -> forall x, r.source ≠ .sample x)
    (hsegments : g.template.segments = before ++ s :: behind) (hs : s.source = .counter c)
    (hresolver : s.resolver = false) (hdigits : c.digits.Nodup)
    (hn : c.alternatives? = some n) (hceiling : n ≤ settings.maxAttempts) :
    (forall w, w ∈ Counter.numerals c.digits c.width <->
        w.length = c.width ∧ forall d, d ∈ w -> d ∈ c.digits) ∧
      (Counter.numerals c.digits c.width).Pairwise (List.Lex (Counter.Before c.digits)) ∧
      (forall r, r ∈ before ++ behind -> forall k, (after Segment.next k r).piece = r.piece) ∧
      exists report g' state', g.generate state = (.ok report, g', state') ∧
        report.ids = (((Counter.numerals c.digits c.width).map (spelled before behind)).filter
          accepts).take settings.target ∧
        (0 < settings.target -> report.fulfillment ≠ .complete ->
          forall w, w.length = c.width -> (forall d, d ∈ w -> d ∈ c.digits) ->
            accepts (spelled before behind w) = true -> spelled before behind w ∈ report.ids) := by
  rcases compile_of_ofTemplate hg with ⟨hcompile, hgchain, hgsettings⟩
  have haround : g.template.Around before s c behind :=
    Template.around_of_compile hcompile hfits hsamples hsegments hs hresolver
  rcases haround.stops hdigits hn accepts settings.target with ⟨k, hk, hstops, hids⟩
  rw [← hgchain] at hchain
  rw [← hgsettings] at hstops hceiling
  rcases g.generate_of_stopsAt state (Template.neverFails_of_fits hfits) hchain hstops
    (Nat.le_trans hk hceiling) with ⟨state', hgenerate⟩
  refine ⟨Counter.mem_numerals c.digits c.width, Counter.pairwise_lex_numerals hdigits c.width,
    fun r hr k => Segment.piece_after (haround.constant r hr) k, _, _, state', hgenerate, hids, ?_⟩
  intro htarget hshort w hlength hw haccepts
  show spelled before behind w ∈ g.template.accepted accepts k
  have hlt : (g.template.accepted accepts k).length < settings.target := by
    apply length_lt_of_ne_complete htarget
    rw [← hgsettings]
    exact hshort
  have hall : ((Template.texts before c behind).filter accepts).length < settings.target := by
    rw [hids, List.length_take] at hlt
    omega
  rw [hids, List.take_of_length_le (Nat.le_of_lt hall)]
  apply List.mem_filter.mpr
  constructor
  · exact List.mem_map.mpr ⟨w, (Counter.mem_numerals c.digits c.width w).mpr ⟨hlength, hw⟩, rfl⟩
  · exact haccepts

/-- The numerals over `a` and `b` between `x` and `yz`, without the word `ab`. -/
def framed : Generator Stream Unit where
  template :=
    { source := "=x:b2++:[c]".toList
      segments :=
        [{ text := "=x".toList, resolver := false, source := .literal { text := "x".toList } },
          { text := "b2++".toList
            resolver := false
            source := .counter { digits := "ab".toList, width := 2 } },
          { text := "c".toList, resolver := true, source := .whole { text := "yz".toList } }] }
  chain := { filters := [Blacklist.filter { words := ["ab".toList] }] }
  settings := { target := 5, maxAttempts := 4 }

/-- One of the four numerals is refused, and no other is left out. -/
theorem generate_exhaustive_framed :
    ofTemplate "=x:b2++:[c]".toList { entries := [('b', "ab".toList), ('c', "yz".toList)] }
        framed.chain framed.settings (Stream.ofSeed 0) = .ok framed ∧
      exists report g' state', framed.generate () = (.ok report, g', state') ∧
        report.ids = ["xaayz".toList, "xbayz".toList, "xbbyz".toList] := by
  have hg : ofTemplate "=x:b2++:[c]".toList
      { entries := [('b', "ab".toList), ('c', "yz".toList)] }
      framed.chain framed.settings (Stream.ofSeed 0) = .ok framed := by
    generalize Stream.ofSeed 0 = unseeded
    rfl
  have hsamples : forall r, r ∈ framed.template.segments -> forall x, r.source ≠ .sample x := by
    intro r hr x hsource
    rcases hr with _ | ⟨_, _ | ⟨_, _ | ⟨_, hnone⟩⟩⟩
    · cases hsource
    · cases hsource
    · cases hsource
    · cases hnone
  have hsegments : framed.template.segments =
      framed.template.segments.take 1 ++
        { text := "b2++".toList
          resolver := false
          source := .counter { digits := "ab".toList, width := 2 } } ::
        framed.template.segments.drop 2 := rfl
  rcases generate_exhaustive () hg (Chain.decides_blacklist { words := ["ab".toList] }) (by decide)
    hsamples hsegments rfl rfl (by decide) rfl (Nat.le_refl 4) with
    ⟨_, _, _, report, g', state', hgenerate, hids, _⟩
  refine ⟨hg, report, g', state', hgenerate, ?_⟩
  rw [hids]
  decide

end Generator
end Moniker
