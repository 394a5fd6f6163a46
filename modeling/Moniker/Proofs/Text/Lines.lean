import Moniker.Proofs.Text.Utf8
import Moniker.Text.Lines

/-!
# Lines as bytes

A file is cut behind every line feed, and what follows the last one is a line too if
it is not empty.  The ending of a line can be taken off its bytes or off its text with
the same outcome, and the lines of a file are texts exactly if the file is one.
-/

namespace Moniker
namespace Lines

/-!
# Cutting
-/

/-- The bytes are those of the lines, one line up to each line feed and a last one
without. -/
inductive CutsInto : List UInt8 -> List (List UInt8) -> Prop where
  | nil : CutsInto [] []
  | last {line : List UInt8} : line ≠ [] -> 10 ∉ line -> CutsInto line [line]
  | feed {line rest : List UInt8} {lines : List (List UInt8)} :
      10 ∉ line -> CutsInto rest lines -> CutsInto (line ++ 10 :: rest) ((line ++ [10]) :: lines)

theorem pieces_of_not_mem {line : List UInt8} (hne : line ≠ []) (h : 10 ∉ line) :
    pieces line = [line] := by
  induction line with
  | nil =>
      exact absurd rfl hne
  | cons b line ih =>
      rw [List.mem_cons, not_or] at h
      rw [pieces, if_neg (Ne.symm h.left)]
      cases line with
      | nil =>
          rfl
      | cons b' line =>
          rw [ih (List.cons_ne_nil b' line) h.right]

theorem pieces_append_feed {line : List UInt8} (h : 10 ∉ line) (rest : List UInt8) :
    pieces (line ++ 10 :: rest) = (line ++ [10]) :: pieces rest := by
  induction line with
  | nil =>
      rfl
  | cons b line ih =>
      rw [List.mem_cons, not_or] at h
      rw [List.cons_append, pieces, if_neg (Ne.symm h.left), ih h.right]
      rfl

theorem CutsInto.eq_pieces {bytes : List UInt8} {lines : List (List UInt8)}
    (h : CutsInto bytes lines) : lines = pieces bytes := by
  induction h with
  | nil =>
      rfl
  | last hne hline =>
      rw [pieces_of_not_mem hne hline]
  | feed hline _ ih =>
      rw [pieces_append_feed hline, ih]

theorem cutsInto_pieces (bytes : List UInt8) : CutsInto bytes (pieces bytes) := by
  induction hn : bytes.length using Nat.strongRecOn generalizing bytes with
  | ind n ih =>
      by_cases hfeed : 10 ∈ bytes
      · rcases List.eq_append_cons_of_mem hfeed with ⟨line, rest, rfl, hline⟩
        rw [pieces_append_feed hline]
        refine CutsInto.feed hline (ih rest.length ?_ rest rfl)
        rw [← hn, List.length_append, List.length_cons]
        omega
      · by_cases hbytes : bytes = []
        · subst hbytes
          exact CutsInto.nil
        · rw [pieces_of_not_mem hbytes hfeed]
          exact CutsInto.last hbytes hfeed

theorem toNat_feed : '\n'.toNat < 0x80 := by decide

theorem CutsInto.valid_iff {bytes : List UInt8} {lines : List (List UInt8)}
    (h : CutsInto bytes lines) :
    Utf8.Valid bytes <-> forall line, line ∈ lines -> Utf8.Valid line := by
  have hnil : Utf8.Valid [] := ⟨[], rfl⟩
  induction h with
  | nil =>
      exact ⟨fun _ line hline => absurd hline List.not_mem_nil, fun _ => hnil⟩
  | last _ _ =>
      rw [List.forall_mem_singleton]
  | @feed line rest lines _ _ ih =>
      have hline : Utf8.Valid (line ++ [10]) <-> Utf8.Valid line :=
        (Utf8.valid_append_cons_iff toNat_feed).trans (and_iff_left hnil)
      rw [List.forall_mem_cons, hline]
      exact (Utf8.valid_append_cons_iff toNat_feed).trans (and_congr_right fun _ => ih)

/-!
# Endings
-/

def dropEnd (b : UInt8) (bytes : List UInt8) : List UInt8 :=
  if bytes.getLast? = some b then bytes.dropLast else bytes

/-- The bytes of a line without its line feed and a carriage return before that. -/
def bare (line : List UInt8) : List UInt8 :=
  if line.getLast? = some 10 then dropEnd 13 line.dropLast else line

theorem not_mem_dropEnd {b b' : UInt8} {bytes : List UInt8} (h : b ∉ bytes) :
    b ∉ dropEnd b' bytes := by
  rw [dropEnd]
  split
  · exact fun hmem => h (List.dropLast_subset bytes hmem)
  · exact h

theorem CutsInto.feed_not_mem_bare {bytes line : List UInt8} {lines : List (List UInt8)}
    (h : CutsInto bytes lines) (hline : line ∈ lines) : 10 ∉ bare line := by
  induction h with
  | nil =>
      cases hline
  | @last body _ hbody =>
      have hlast : body.getLast? ≠ some 10 := fun heq => hbody (List.mem_of_getLast? heq)
      rw [List.mem_singleton.mp hline, bare, if_neg hlast]
      exact hbody
  | @feed body rest lines hbody _ ih =>
      rcases List.mem_cons.mp hline with rfl | hrest
      · rw [bare, if_pos List.getLast?_concat, List.dropLast_concat]
        exact not_mem_dropEnd hbody
      · exact ih hrest

theorem getLast?_encode_iff {s : Text} {c : Char} (hc : c.toNat < 0x80) :
    (Utf8.encode s).getLast? = some (UInt8.ofNat c.toNat) <-> s.getLast? = some c := by
  constructor
  · intro h
    rcases List.getLast?_eq_some_iff.mp h with ⟨front, hfront⟩
    rcases Utf8.split_of_encode hc hfront with ⟨t, u, rfl, _, hu⟩
    rw [Utf8.encode_injective (t := []) hu]
    exact List.getLast?_concat
  · intro h
    rcases List.getLast?_eq_some_iff.mp h with ⟨t, rfl⟩
    rw [Utf8.encode_append_cons hc]
    exact List.getLast?_concat

theorem dropEnd_encode {s : Text} {c : Char} (hc : c.toNat < 0x80) :
    dropEnd (UInt8.ofNat c.toNat) (Utf8.encode s) =
      Utf8.encode (if s.getLast? = some c then s.dropLast else s) := by
  rw [dropEnd]
  by_cases h : s.getLast? = some c
  · rw [if_pos ((getLast?_encode_iff hc).mpr h), if_pos h]
    rcases List.getLast?_eq_some_iff.mp h with ⟨t, rfl⟩
    rw [Utf8.encode_append_cons hc, Utf8.encode_nil, List.dropLast_concat, List.dropLast_concat]
  · rw [if_neg (mt (getLast?_encode_iff hc).mp h), if_neg h]

theorem chomp_concat_feed (s : Text) :
    chomp (s ++ ['\n']) = if s.getLast? = some '\r' then s.dropLast else s := by
  rcases List.eq_nil_or_concat s with rfl | ⟨t, c, rfl⟩
  · rfl
  · rw [List.concat_eq_append, List.getLast?_concat, List.dropLast_concat, chomp]
    by_cases hc : c = '\r'
    · subst hc
      simp
    · simp [hc]

theorem chomp_of_getLast?_ne {s : Text} (h : s.getLast? ≠ some '\n') : chomp s = s := by
  rcases List.eq_nil_or_concat s with rfl | ⟨t, c, rfl⟩
  · rfl
  · rw [List.concat_eq_append, List.getLast?_concat] at h
    have hc : c ≠ '\n' := fun heq => h (congrArg some heq)
    rw [List.concat_eq_append, chomp]
    simp [hc]

theorem encode_chomp (s : Text) : Utf8.encode (chomp s) = bare (Utf8.encode s) := by
  have hlast : (Utf8.encode s).getLast? = some 10 <-> s.getLast? = some '\n' :=
    getLast?_encode_iff toNat_feed
  rw [bare]
  by_cases h : s.getLast? = some '\n'
  · rw [if_pos (hlast.mpr h)]
    rcases List.getLast?_eq_some_iff.mp h with ⟨t, rfl⟩
    have hencode : Utf8.encode (t ++ ['\n']) = Utf8.encode t ++ [10] :=
      Utf8.encode_append_cons toNat_feed t []
    rw [hencode, List.dropLast_concat, chomp_concat_feed]
    exact (dropEnd_encode (c := '\r') (by decide)).symm
  · rw [if_neg (mt hlast.mp h), chomp_of_getLast?_ne h]

theorem text?_eq_some_iff {line : List UInt8} {s : Text} :
    text? line = some s <-> Utf8.Valid line ∧ Utf8.encode s = bare line := by
  rw [text?, Option.map_eq_some_iff]
  constructor
  · rintro ⟨t, ht, rfl⟩
    rw [Utf8.decode_eq_some_iff] at ht
    rw [encode_chomp, ht]
    exact ⟨⟨t, rfl⟩, rfl⟩
  · rintro ⟨⟨t, rfl⟩, hs⟩
    rw [← encode_chomp] at hs
    exact ⟨t, Utf8.decode_encode t, (Utf8.encode_injective hs).symm⟩

theorem text?_eq_none_iff {line : List UInt8} : text? line = none <-> ¬ Utf8.Valid line := by
  rw [text?, Option.map_eq_none_iff, Utf8.decode_eq_none_iff]

/-!
# Writing
-/

/-- Lines one after the other, each with a line feed behind it and, if that is asked
for, a carriage return before the line feed. -/
def written (lines : List (Text × Bool)) : Text :=
  lines.flatMap fun line => line.1 ++ if line.2 then ['\r', '\n'] else ['\n']

theorem pieces_encode_feed {body : Text} (h : '\n' ∉ body) (rest : Text) :
    pieces (Utf8.encode (body ++ '\n' :: rest)) =
      Utf8.encode (body ++ ['\n']) :: pieces (Utf8.encode rest) := by
  rw [Utf8.encode_append_cons toNat_feed, Utf8.encode_append_cons toNat_feed]
  exact pieces_append_feed (mt (Utf8.mem_encode_iff toNat_feed).mp h) _

theorem pieces_written {s : Text} (hfeed : '\n' ∉ s) (hreturn : s.getLast? ≠ some '\r')
    (returns : Bool) (lines : List (Text × Bool)) :
    exists t, chomp t = s ∧
      pieces (Utf8.encode (written ((s, returns) :: lines))) =
        Utf8.encode t :: pieces (Utf8.encode (written lines)) := by
  rw [written, List.flatMap_cons]
  cases returns with
  | false =>
      refine ⟨s ++ ['\n'], ?_, ?_⟩
      · rw [chomp_concat_feed, if_neg hreturn]
      · rw [if_neg Bool.false_ne_true, List.append_assoc]
        exact pieces_encode_feed hfeed (written lines)
  | true =>
      refine ⟨s ++ ['\r'] ++ ['\n'], ?_, ?_⟩
      · rw [chomp_concat_feed, List.getLast?_concat, if_pos rfl, List.dropLast_concat]
      · rw [if_pos rfl, List.append_assoc]
        have hbody : '\n' ∉ s ++ ['\r'] := by
          simpa using hfeed
        have hpiece := pieces_encode_feed hbody (written lines)
        rwa [List.append_assoc] at hpiece

end Lines
end Moniker
