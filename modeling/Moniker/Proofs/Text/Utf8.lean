import Moniker.Text.Utf8
import Mathlib.Data.List.Basic

/-!
# Texts and their bytes

Decoding accepts exactly the encoded texts.  The bytes below 128 stand for the
characters with the same numbers and occur nowhere inside the longer codes, so bytes
can be cut at them as the text can be cut at those characters.
-/

namespace Moniker
namespace Utf8

@[simp] theorem encode_nil : encode [] = [] := rfl

theorem encode_cons (c : Char) (s : Text) :
    encode (c :: s) = String.utf8EncodeChar c ++ encode s :=
  List.flatMap_cons

theorem encode_append (s t : Text) : encode (s ++ t) = encode s ++ encode t :=
  List.flatMap_append

theorem toNat_ofNat {n : Nat} (h : n.isValidChar) : (Char.ofNat n).toNat = n := by
  rw [Char.ofNat, dif_pos h]
  rfl

/-!
# Bytes
-/

theorem continuation?_eq_some_iff {b : UInt8} {x : Nat} :
    continuation? b = some x <-> x < 64 ∧ b = UInt8.ofNat (x + 128) := by
  have hrange : (0x80 ≤ b ∧ b < 0xC0) <-> 128 ≤ b.toNat ∧ b.toNat < 192 := Iff.rfl
  simp only [continuation?, hrange, ← UInt8.toNat_inj, UInt8.toNat_ofNat']
  split
  · rw [Option.some.injEq]
    omega
  · simp only [reduceCtorEq, false_iff]
    omega

theorem continuation?_of_lt {x : Nat} (h : x < 64) :
    continuation? (UInt8.ofNat (x + 128)) = some x :=
  continuation?_eq_some_iff.mpr ⟨h, rfl⟩

theorem scalar?_eq_some_iff {least n : Nat} {c : Char} :
    scalar? least n = some c <-> least ≤ n ∧ c.toNat = n := by
  rw [scalar?]
  constructor
  · intro h
    split at h
    · rename_i hn
      cases h
      exact ⟨hn.left, toNat_ofNat hn.right⟩
    · cases h
  · rintro ⟨hle, rfl⟩
    rw [if_pos ⟨hle, c.valid⟩, Char.ofNat_toNat]

/-!
# Characters

A character is written with one to four bytes.  Its number is cut into groups of six
bits, and the first byte says how many of them follow.
-/

inductive Coded (c : Char) : List UInt8 -> Prop where
  | one (h : c.toNat < 0x80) : Coded c [UInt8.ofNat c.toNat]
  | two {n x : Nat} (hn : n < 32) (hx : x < 64) (hle : 0x80 ≤ c.toNat)
      (hc : c.toNat = n * 64 + x) :
      Coded c [UInt8.ofNat (n + 192), UInt8.ofNat (x + 128)]
  | three {n x y : Nat} (hn : n < 16) (hx : x < 64) (hy : y < 64) (hle : 0x800 ≤ c.toNat)
      (hc : c.toNat = (n * 64 + x) * 64 + y) :
      Coded c [UInt8.ofNat (n + 224), UInt8.ofNat (x + 128), UInt8.ofNat (y + 128)]
  | four {n x y z : Nat} (hn : n < 8) (hx : x < 64) (hy : y < 64) (hz : z < 64)
      (hle : 0x10000 ≤ c.toNat) (hc : c.toNat = ((n * 64 + x) * 64 + y) * 64 + z) :
      Coded c [UInt8.ofNat (n + 240), UInt8.ofNat (x + 128), UInt8.ofNat (y + 128),
        UInt8.ofNat (z + 128)]

theorem Coded.eq_encodeChar {c : Char} {bytes : List UInt8} (h : Coded c bytes) :
    bytes = String.utf8EncodeChar c := by
  have hval : c.val.toNat = c.toNat := rfl
  simp only [String.utf8EncodeChar, hval]
  cases h with
  | one h =>
      rw [if_pos (by omega)]
  | @two n x hn hx hle hc =>
      rw [if_neg (by omega), if_pos (by omega), show c.toNat / 64 % 32 = n by omega,
        show c.toNat % 64 = x by omega]
  | @three n x y hn hx hy hle hc =>
      rw [if_neg (by omega), if_neg (by omega), if_pos (by omega),
        show c.toNat / 4096 % 16 = n by omega, show c.toNat / 64 % 64 = x by omega,
        show c.toNat % 64 = y by omega]
  | @four n x y z hn hx hy hz hle hc =>
      rw [if_neg (by omega), if_neg (by omega), if_neg (by omega),
        show c.toNat / 262144 % 8 = n by omega, show c.toNat / 4096 % 64 = x by omega,
        show c.toNat / 64 % 64 = y by omega, show c.toNat % 64 = z by omega]

theorem coded_encodeChar (c : Char) : Coded c (String.utf8EncodeChar c) := by
  have hval : c.val.toNat = c.toNat := rfl
  have hvalid : c.toNat < 0xD800 ∨ 0xDFFF < c.toNat ∧ c.toNat < 0x110000 := c.valid
  simp only [String.utf8EncodeChar, hval]
  split
  · exact .one (by omega)
  split
  · exact .two (by omega) (by omega) (by omega) (by omega)
  split
  · exact .three (by omega) (by omega) (by omega) (by omega) (by omega)
  · exact .four (by omega) (by omega) (by omega) (by omega) (by omega) (by omega)

/-!
# Decoding
-/

theorem decode_cons_one {a : UInt8} (ha : a.toNat < 0x80) (rest : List UInt8) :
    decode (a :: rest) = (decode rest).map (Char.ofNat a.toNat :: ·) := by
  rw [decode.eq_def]
  exact if_pos ha

theorem decode_cons_two {a b : UInt8} (ha : 0xC0 ≤ a.toNat ∧ a.toNat < 0xE0)
    (rest : List UInt8) :
    decode (a :: b :: rest) = (do
      let x ← continuation? b
      let c ← scalar? 0x80 ((a.toNat - 0xC0) * 64 + x)
      (decode rest).map (c :: ·)) := by
  have hone : ¬ a.toNat < 0x80 := by omega
  rw [decode.eq_def]
  exact (if_neg hone).trans (if_pos ha)

theorem decode_cons_three {a b d : UInt8} (ha : 0xE0 ≤ a.toNat ∧ a.toNat < 0xF0)
    (rest : List UInt8) :
    decode (a :: b :: d :: rest) = (do
      let x ← continuation? b
      let y ← continuation? d
      let c ← scalar? 0x800 (((a.toNat - 0xE0) * 64 + x) * 64 + y)
      (decode rest).map (c :: ·)) := by
  have hone : ¬ a.toNat < 0x80 := by omega
  have htwo : ¬ (0xC0 ≤ a.toNat ∧ a.toNat < 0xE0) := by omega
  rw [decode.eq_def]
  exact (if_neg hone).trans ((if_neg htwo).trans (if_pos ha))

theorem decode_cons_four {a b d e : UInt8} (ha : 0xF0 ≤ a.toNat ∧ a.toNat < 0xF8)
    (rest : List UInt8) :
    decode (a :: b :: d :: e :: rest) = (do
      let x ← continuation? b
      let y ← continuation? d
      let z ← continuation? e
      let c ← scalar? 0x10000 ((((a.toNat - 0xF0) * 64 + x) * 64 + y) * 64 + z)
      (decode rest).map (c :: ·)) := by
  have hone : ¬ a.toNat < 0x80 := by omega
  have htwo : ¬ (0xC0 ≤ a.toNat ∧ a.toNat < 0xE0) := by omega
  have hthree : ¬ (0xE0 ≤ a.toNat ∧ a.toNat < 0xF0) := by omega
  rw [decode.eq_def]
  exact (if_neg hone).trans ((if_neg htwo).trans ((if_neg hthree).trans (if_pos ha)))

theorem Coded.decode_append {c : Char} {bytes : List UInt8} (h : Coded c bytes)
    (rest : List UInt8) : decode (bytes ++ rest) = (decode rest).map (c :: ·) := by
  cases h with
  | one h =>
      have ha : (UInt8.ofNat c.toNat).toNat = c.toNat := Nat.mod_eq_of_lt (by omega)
      rw [List.singleton_append, decode_cons_one (by omega), ha, Char.ofNat_toNat]
  | @two n x hn hx hle hc =>
      have ha : (UInt8.ofNat (n + 192)).toNat = n + 192 := Nat.mod_eq_of_lt (by omega)
      have hscalar := scalar?_eq_some_iff.mpr ⟨hc ▸ hle, hc⟩
      simp only [List.cons_append, List.nil_append]
      rw [decode_cons_two (by omega), ha, Nat.add_sub_cancel]
      simp only [continuation?_of_lt, hx, hscalar, Option.bind_eq_bind, Option.bind_some]
  | @three n x y hn hx hy hle hc =>
      have ha : (UInt8.ofNat (n + 224)).toNat = n + 224 := Nat.mod_eq_of_lt (by omega)
      have hscalar := scalar?_eq_some_iff.mpr ⟨hc ▸ hle, hc⟩
      simp only [List.cons_append, List.nil_append]
      rw [decode_cons_three (by omega), ha, Nat.add_sub_cancel]
      simp only [continuation?_of_lt, hx, hy, hscalar, Option.bind_eq_bind, Option.bind_some]
  | @four n x y z hn hx hy hz hle hc =>
      have ha : (UInt8.ofNat (n + 240)).toNat = n + 240 := Nat.mod_eq_of_lt (by omega)
      have hscalar := scalar?_eq_some_iff.mpr ⟨hc ▸ hle, hc⟩
      simp only [List.cons_append, List.nil_append]
      rw [decode_cons_four (by omega), ha, Nat.add_sub_cancel]
      simp only [continuation?_of_lt, hx, hy, hz, hscalar, Option.bind_eq_bind,
        Option.bind_some]

theorem decode_encode (s : Text) : decode (encode s) = some s := by
  induction s with
  | nil =>
      rfl
  | cons c s ih =>
      rw [encode_cons, (coded_encodeChar c).decode_append, ih]
      rfl

theorem ofNat_add_of_toNat {a : UInt8} {k : Nat} (h : k ≤ a.toNat) :
    a = UInt8.ofNat (a.toNat - k + k) := by
  rw [Nat.sub_add_cancel h, UInt8.ofNat_toNat]

theorem exists_coded_of_decode {a : UInt8} {rest : List UInt8} {s : Text}
    (h : decode (a :: rest) = some s) :
    exists c bytes behind s',
      a :: rest = bytes ++ behind ∧ Coded c bytes ∧ decode behind = some s' ∧ s = c :: s' := by
  have hlt : a.toNat < 256 := a.toNat_lt
  rw [decode.eq_def] at h
  dsimp only at h
  split at h
  · rename_i ha
    have hone : a.toNat < 0x80 := ha
    rcases Option.map_eq_some_iff.mp h with ⟨s', hs', rfl⟩
    have hvalid : (Char.ofNat a.toNat).toNat = a.toNat := toNat_ofNat (Or.inl (by omega))
    refine ⟨Char.ofNat a.toNat, [a], rest, s', rfl, ?_, hs', rfl⟩
    have hcoded : Coded (Char.ofNat a.toNat) [UInt8.ofNat (Char.ofNat a.toNat).toNat] :=
      .one (by omega)
    rwa [hvalid, UInt8.ofNat_toNat] at hcoded
  split at h
  · rename_i ha
    have htwo : 192 ≤ a.toNat ∧ a.toNat < 224 := ha
    split at h
    · simp only [Option.bind_eq_bind, Option.bind_eq_some_iff, Option.map_eq_some_iff,
        continuation?_eq_some_iff, scalar?_eq_some_iff] at h
      rcases h with ⟨x, ⟨hx, rfl⟩, c, ⟨hle, hc⟩, s', hs', rfl⟩
      have hcoded := Coded.two (c := c) (n := a.toNat - 192) (by omega) hx (by omega) hc
      rw [← ofNat_add_of_toNat htwo.left] at hcoded
      exact ⟨c, _, _, s', rfl, hcoded, hs', rfl⟩
    · cases h
  split at h
  · rename_i ha
    have hthree : 224 ≤ a.toNat ∧ a.toNat < 240 := ha
    split at h
    · simp only [Option.bind_eq_bind, Option.bind_eq_some_iff, Option.map_eq_some_iff,
        continuation?_eq_some_iff, scalar?_eq_some_iff] at h
      rcases h with ⟨x, ⟨hx, rfl⟩, y, ⟨hy, rfl⟩, c, ⟨hle, hc⟩, s', hs', rfl⟩
      have hcoded := Coded.three (c := c) (n := a.toNat - 224) (by omega) hx hy (by omega) hc
      rw [← ofNat_add_of_toNat hthree.left] at hcoded
      exact ⟨c, _, _, s', rfl, hcoded, hs', rfl⟩
    · cases h
  split at h
  · rename_i ha
    have hfour : 240 ≤ a.toNat ∧ a.toNat < 248 := ha
    split at h
    · simp only [Option.bind_eq_bind, Option.bind_eq_some_iff, Option.map_eq_some_iff,
        continuation?_eq_some_iff, scalar?_eq_some_iff] at h
      rcases h with ⟨x, ⟨hx, rfl⟩, y, ⟨hy, rfl⟩, z, ⟨hz, rfl⟩, c, ⟨hle, hc⟩, s', hs', rfl⟩
      have hcoded := Coded.four (c := c) (n := a.toNat - 240) (by omega) hx hy hz (by omega) hc
      rw [← ofNat_add_of_toNat hfour.left] at hcoded
      exact ⟨c, _, _, s', rfl, hcoded, hs', rfl⟩
    · cases h
  · cases h

theorem eq_encode_of_decode {bytes : List UInt8} {s : Text} (h : decode bytes = some s) :
    bytes = encode s := by
  induction s generalizing bytes with
  | nil =>
      cases bytes with
      | nil =>
          rfl
      | cons a rest =>
          rcases exists_coded_of_decode h with ⟨c, _, _, s', _, _, _, hs⟩
          cases hs
  | cons c s ih =>
      cases bytes with
      | nil =>
          cases h
      | cons a rest =>
          rcases exists_coded_of_decode h with ⟨c', bytes, behind, s', hbytes, hcoded, hrest, hs⟩
          cases hs
          rw [hbytes, encode_cons, ← hcoded.eq_encodeChar, ← ih hrest]

theorem decode_eq_some_iff {bytes : List UInt8} {s : Text} :
    decode bytes = some s <-> bytes = encode s :=
  ⟨eq_encode_of_decode, fun h => h ▸ decode_encode s⟩

/-!
# Validity
-/

def Valid (bytes : List UInt8) : Prop :=
  exists s, bytes = encode s

theorem encode_injective {s t : Text} (h : encode s = encode t) : s = t := by
  have hdecode := decode_encode s
  rw [h, decode_encode] at hdecode
  exact (Option.some.inj hdecode).symm

theorem decode_eq_none_iff {bytes : List UInt8} : decode bytes = none <-> ¬ Valid bytes := by
  rw [Option.eq_none_iff_forall_ne_some]
  constructor
  · rintro h ⟨s, hs⟩
    exact h s (decode_eq_some_iff.mpr hs)
  · intro h s hs
    exact h ⟨s, decode_eq_some_iff.mp hs⟩

/-!
# Low bytes
-/

theorem encodeChar_of_low {c : Char} (h : c.toNat < 0x80) :
    String.utf8EncodeChar c = [UInt8.ofNat c.toNat] :=
  (Coded.one h).eq_encodeChar.symm

theorem Coded.low_or_high {c : Char} {bytes : List UInt8} (h : Coded c bytes) :
    (exists b, bytes = [b] ∧ b.toNat = c.toNat) ∨ forall b, b ∈ bytes -> 0x80 ≤ b.toNat := by
  have hhigh : forall {n k : Nat}, 128 ≤ k -> n + k < 256 ->
      128 ≤ (UInt8.ofNat (n + k)).toNat := by
    intro n k hk hn
    rw [UInt8.toNat_ofNat', Nat.mod_eq_of_lt hn]
    omega
  cases h with
  | one h =>
      exact Or.inl ⟨_, rfl, Nat.mod_eq_of_lt (by omega)⟩
  | two hn hx hle hc =>
      exact Or.inr (List.forall_mem_cons.mpr ⟨hhigh (by omega) (by omega),
        List.forall_mem_singleton.mpr (hhigh (by omega) (by omega))⟩)
  | three hn hx hy hle hc =>
      exact Or.inr (List.forall_mem_cons.mpr ⟨hhigh (by omega) (by omega),
        List.forall_mem_cons.mpr ⟨hhigh (by omega) (by omega),
          List.forall_mem_singleton.mpr (hhigh (by omega) (by omega))⟩⟩)
  | four hn hx hy hz hle hc =>
      exact Or.inr (List.forall_mem_cons.mpr ⟨hhigh (by omega) (by omega),
        List.forall_mem_cons.mpr ⟨hhigh (by omega) (by omega),
          List.forall_mem_cons.mpr ⟨hhigh (by omega) (by omega),
            List.forall_mem_singleton.mpr (hhigh (by omega) (by omega))⟩⟩⟩)

/-- Where a low byte stands among the bytes of a text, its character stands in the text. -/
theorem split_of_encode {s : Text} {front behind : List UInt8} {c : Char}
    (hc : c.toNat < 0x80) (h : encode s = front ++ UInt8.ofNat c.toNat :: behind) :
    exists t u, s = t ++ c :: u ∧ encode t = front ∧ encode u = behind := by
  have hb : (UInt8.ofNat c.toNat).toNat = c.toNat := Nat.mod_eq_of_lt (by omega)
  induction s generalizing front with
  | nil =>
      cases front <;> cases h
  | cons d s ih =>
      rw [encode_cons] at h
      rcases List.append_eq_append_iff.mp h with ⟨front', rfl, hs⟩ | ⟨code, hd, hrest⟩
      · rcases ih hs with ⟨t, u, rfl, rfl, hu⟩
        exact ⟨d :: t, u, rfl, encode_cons d t, hu⟩
      cases code with
      | nil =>
          have hs : encode s = [] ++ UInt8.ofNat c.toNat :: behind := hrest.symm
          rcases ih hs with ⟨t, u, rfl, ht, hu⟩
          refine ⟨d :: t, u, rfl, ?_, hu⟩
          rw [encode_cons, ht, hd, List.append_nil, List.append_nil]
      | cons b code =>
          -- The byte is one of the first character's, which then has no other.
          cases hrest
          have hmem : UInt8.ofNat c.toNat ∈ String.utf8EncodeChar d := by
            rw [hd]
            exact List.mem_append_right front List.mem_cons_self
          rcases (coded_encodeChar d).low_or_high with ⟨low, hlow, hchar⟩ | hhigh
          · rw [hlow] at hd
            rcases List.append_eq_singleton_iff.mp hd.symm with ⟨rfl, hback⟩ | ⟨_, hback⟩
            · cases hback
              exact ⟨[], s, by rw [List.nil_append, Char.toNat_inj.mp (hchar.symm.trans hb)],
                rfl, rfl⟩
            · cases hback
          · exact absurd (hhigh _ hmem) (by omega)

theorem encode_append_cons {c : Char} (hc : c.toNat < 0x80) (t u : Text) :
    encode (t ++ c :: u) = encode t ++ UInt8.ofNat c.toNat :: encode u := by
  rw [encode_append, encode_cons, encodeChar_of_low hc, List.singleton_append]

theorem mem_encode_iff {s : Text} {c : Char} (hc : c.toNat < 0x80) :
    UInt8.ofNat c.toNat ∈ encode s <-> c ∈ s := by
  constructor
  · intro h
    rcases List.append_of_mem h with ⟨front, behind, hs⟩
    rcases split_of_encode hc hs with ⟨t, u, rfl, _, _⟩
    exact List.mem_append_right t List.mem_cons_self
  · intro h
    rcases List.append_of_mem h with ⟨t, u, rfl⟩
    rw [encode_append_cons hc]
    exact List.mem_append_right _ List.mem_cons_self

theorem valid_append_cons_iff {front behind : List UInt8} {c : Char} (hc : c.toNat < 0x80) :
    Valid (front ++ UInt8.ofNat c.toNat :: behind) <-> Valid front ∧ Valid behind := by
  constructor
  · rintro ⟨s, hs⟩
    rcases split_of_encode hc hs.symm with ⟨t, u, _, ht, hu⟩
    exact ⟨⟨t, ht.symm⟩, u, hu.symm⟩
  · rintro ⟨⟨t, rfl⟩, u, rfl⟩
    exact ⟨t ++ c :: u, (encode_append_cons hc t u).symm⟩

end Utf8
end Moniker
