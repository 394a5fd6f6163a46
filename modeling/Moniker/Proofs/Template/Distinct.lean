import Moniker.Proofs.Enumeration
import Moniker.Proofs.Template.Misfit
import Mathlib.Order.Interval.Finset.Nat

/-!
# Candidates that a counter keeps apart

No segment changes the number of characters that it gives, even if it draws
them.  So a counter writes its numerals at one place of all the candidates of
its template, and candidates with different numerals are different.
-/

namespace Moniker

variable {ρ : Type} [Chance ρ]

/-!
# The lengths of pieces
-/

namespace Sample

theorem length_draw (alphabet : Text) (h : 0 < alphabet.length) (n : Nat) (stream : ρ) :
    (draw alphabet h n stream).1.length = n := by
  induction n generalizing stream with
  | zero =>
      rfl
  | succ n ih =>
      rw [draw, List.length_cons, ih]

theorem length_next {s : Sample ρ} (h : s.alphabet ≠ []) : s.next.1.length = s.length := by
  have hpos : 0 < s.alphabet.length := List.length_pos_iff.mpr h
  rw [next, dif_pos hpos]
  exact length_draw s.alphabet hpos s.length s.stream

theorem next_of_empty {s : Sample ρ} (h : s.alphabet = []) : s.next = ([], s) := by
  simp [next, h]

theorem length_next_next (s : Sample ρ) : s.next.2.next.1.length = s.next.1.length := by
  by_cases halphabet : s.alphabet = []
  · rw [next_of_empty halphabet, next_of_empty halphabet]
  · rcases next_snd halphabet with ⟨stream, hnext⟩
    rw [length_next halphabet, hnext]
    exact length_next halphabet

end Sample

namespace Counter

theorem length_next {c : Counter} (h : c.digits ≠ []) : c.next.1.length = c.width := by
  cases hdigits : c.digits with
  | nil =>
      exact absurd hdigits h
  | cons zero digits =>
      simp [next, hdigits, numeralOnto_eq_numeral, length_numeral]

theorem next_of_empty {c : Counter} (h : c.digits = []) : c.next = ([], c) := by
  simp [next, h]

theorem length_next_next (c : Counter) : c.next.2.next.1.length = c.next.1.length := by
  by_cases hdigits : c.digits = []
  · rw [next_of_empty hdigits, next_of_empty hdigits]
  · rw [length_next hdigits, next_snd hdigits]
    exact length_next hdigits

end Counter

namespace Segment

theorem length_piece_next (s : Segment ρ) : s.next.2.piece.length = s.piece.length := by
  rcases s with ⟨text, resolver, source⟩
  cases source with
  | literal f | whole f =>
      rfl
  | part x =>
      exact congrArg List.length (piece_after (s := ⟨text, resolver, .part x⟩) trivial 1)
  | sample x =>
      exact x.length_next_next
  | counter c =>
      exact c.length_next_next

theorem length_piece_after (s : Segment ρ) (k : Nat) :
    (after next k s).piece.length = s.piece.length :=
  after_preserves (P := fun r : Segment ρ => r.piece.length = s.piece.length)
    (fun r hr => (length_piece_next r).trans hr) k rfl

theorem length_pieces_after (row : List (Segment ρ)) (k : Nat) :
    (row.flatMap fun r => (after next k r).piece).length = (row.flatMap piece).length := by
  rw [List.length_flatMap, List.length_flatMap]
  congr 1
  apply List.map_congr_left
  intro r _
  exact length_piece_after r k

end Segment

/-!
# Counters in a template
-/

namespace Template

theorem piece_eq_of_candidate_eq {t : Template ρ} (h : t.Fits) {s : Segment ρ}
    (hs : s ∈ t.segments) {i j : Nat} (heq : t.candidate i = t.candidate j) :
    (after Segment.next i s).piece = (after Segment.next j s).piece := by
  rcases List.append_of_mem hs with ⟨before, behind, hsegments⟩
  rw [candidate_of_fits h, candidate_of_fits h, hsegments, List.flatMap_append,
    List.flatMap_append, List.flatMap_cons, List.flatMap_cons] at heq
  have hbefore : (before.flatMap fun r => (after Segment.next i r).piece).length =
      (before.flatMap fun r => (after Segment.next j r).piece).length := by
    rw [Segment.length_pieces_after, Segment.length_pieces_after]
  have hpiece : (after Segment.next i s).piece.length = (after Segment.next j s).piece.length := by
    rw [Segment.length_piece_after, Segment.length_piece_after]
  exact List.append_inj_left (List.append_inj_right heq hbefore) hpiece

/-- A fresh template with a counter that has `n` different numerals. -/
structure CountsTo (t : Template ρ) (s : Segment ρ) (c : Counter) (n : Nat) : Prop where
  mem_segments : s ∈ t.segments
  source_eq : s.source = .counter c
  nodup : c.digits.Nodup
  alternatives_eq : c.alternatives? = some n
  fits : t.Fits
  fresh : t.Fresh
  only : forall r, r ∈ t.segments -> r.source.isCounter = true -> r = s

theorem countsTo_of_compile {master : ρ} {source : Text} {bindings : Bindings}
    {t : Template ρ} {s : Segment ρ} {c : Counter} {n : Nat}
    (h : compile master source bindings = .ok t) (hnever : t.NeverFails)
    (hs : s ∈ t.segments) (hsource : s.source = .counter c) (hdigits : c.digits.Nodup)
    (hn : c.alternatives? = some n) : t.CountsTo s c n where
  mem_segments := hs
  source_eq := hsource
  nodup := hdigits
  alternatives_eq := hn
  fits := fits_of_neverFails hnever
  fresh := fresh_of_compile h
  only := by
    intro r hr hcounter
    rcases List.append_of_mem hs with ⟨before, behind, hsegments⟩
    rcases eq_or_mem_of_mem_segments hsegments hr with heq | hmem
    · exact heq
    · exact absurd hcounter (not_isCounter_of_mem h hsegments hsource hmem)

namespace CountsTo

variable {t : Template ρ} {s : Segment ρ} {c : Counter} {n : Nat}

theorem mod_eq_of_candidate_eq (h : t.CountsTo s c n) {i j : Nat}
    (heq : t.candidate i = t.candidate j) : i % n = j % n := by
  have hne : c.digits ≠ [] := h.fresh.digits_ne_nil h.mem_segments h.source_eq
  have hpos : 0 < n := Counter.alternatives_pos hne h.alternatives_eq
  have hpow : n = c.digits.length ^ c.width := Capacity.eq_pow_of_power? h.alternatives_eq
  have hcount : forall k, c.countAt k = k % n := by
    intro k
    simp [Counter.countAt, h.alternatives_eq]
  have hfresh := (h.fresh s h.mem_segments).left
  have hpieces := piece_eq_of_candidate_eq h.fits h.mem_segments heq
  cases hdigits : c.digits with
  | nil =>
      exact absurd hdigits hne
  | cons zero digits =>
      rw [Segment.piece_after_counter h.source_eq hfresh hdigits,
        Segment.piece_after_counter h.source_eq hfresh hdigits, hcount, hcount] at hpieces
      apply Counter.numeral_injOn h.nodup zero _ _ hpieces
      · rw [← hpow]
        exact Nat.mod_lt i hpos
      · rw [← hpow]
        exact Nat.mod_lt j hpos

theorem nodup_candidates_after (h : t.CountsTo s c n) (k : Nat) :
    ((after next k t).candidates n).Nodup := by
  apply List.Nodup.map_on _ List.nodup_range
  intro i hi j hj heq
  rw [candidate_after, candidate_after] at heq
  have hplaces : forall {l}, l ∈ List.range n -> k + l ∈ Finset.Ico k (k + n) := by
    intro l hl
    exact Finset.mem_Ico.mpr ⟨Nat.le_add_right k l, Nat.add_lt_add_left (List.mem_range.mp hl) k⟩
  exact Nat.add_left_cancel
    (Nat.mod_injOn_Ico k n (hplaces hi) (hplaces hj) (h.mod_eq_of_candidate_eq heq))

theorem lt_of_live (h : t.CountsTo s c n)
    (hsamples : forall r, r ∈ t.segments -> r.resolver = false -> forall x, r.source ≠ .sample x)
    {k : Nat} (hlive : (after next k t).live = true) : k < n := by
  have hne : c.digits ≠ [] := h.fresh.digits_ne_nil h.mem_segments h.source_eq
  have hpos : 0 < n := Counter.alternatives_pos hne h.alternatives_eq
  rcases (live_after_iff h.fresh k).mp hlive with ⟨place, r, hr, hresolver, hlt⟩
  have hmem : r ∈ t.segments := List.mem_of_getElem? hr
  rw [lifetime_of_fits h.fits hr] at hlt
  cases hsource : r.source with
  | literal f | whole f | part x =>
      have hconstant : r.source.Constant := by
        rw [hsource]
        exact trivial
      rw [Source.lifetime_of_constant hconstant] at hlt
      have hk : k < 1 := ENat.natCast_lt_natCast.mp hlt
      exact Nat.lt_of_lt_of_le hk hpos
  | sample x =>
      exact absurd hsource (hsamples r hmem hresolver x)
  | counter c' =>
      have hcounter : r.source.isCounter = true := by
        rw [hsource]
        rfl
      rw [h.only r hmem hcounter, h.source_eq, lifetime_of_alternatives h.alternatives_eq] at hlt
      exact ENat.natCast_lt_natCast.mp hlt

end CountsTo
end Template
end Moniker
