import Moniker.Json.Reader
import Moniker.Json.Writer
import Moniker.Proofs.Decimal
import Mathlib.Data.List.TakeDrop

/-!
# The parts of a document

Strings and numbers are read as they were written, and white space in front of a part is
skipped.
-/

namespace Moniker
namespace Json

/-!
# Strings

Every character is written as one unit, and a string is read unit by unit.
-/

theorem hexValue?_hexDigit : forall {n : Nat}, n < 16 -> hexValue? (hexDigit n) = some n := by
  decide

theorem fourDigits?_of_lt {n : Nat} (h : n < 32) :
    fourDigits? '0' '0' (hexDigit (n / 16)) (hexDigit (n % 16)) = some n := by
  have hzero : hexValue? '0' = some 0 := rfl
  have hhigh := hexValue?_hexDigit (show n / 16 < 16 by omega)
  have hlow := hexValue?_hexDigit (show n % 16 < 16 by omega)
  simp only [fourDigits?, hzero, hhigh, hlow, Option.bind_eq_bind, Option.bind_some,
    Option.pure_def, Option.some.injEq]
  omega

def Unit16.Means (u : Unit16) (c : Char) : Prop :=
  forall units, unitsText (u :: units) = (unitsText units).map (c :: ·)

theorem Unit16.plain_means (c : Char) : (plain c).Means c :=
  fun _ => rfl

theorem Unit16.coded_means {c : Char} (h : c.toNat < 32) : (coded c.toNat).Means c := by
  intro units
  have hhigh : isHighHalf c.toNat = false := by
    simp only [isHighHalf, Bool.and_eq_false_iff, decide_eq_false_iff_not]
    omega
  have hlow : isLowHalf c.toNat = false := by
    simp only [isLowHalf, Bool.and_eq_false_iff, decide_eq_false_iff_not]
    omega
  rw [unitsText.eq_def]
  simp only [hhigh, hlow, Bool.false_eq_true, if_false, Char.ofNat_toNat]

def withUnit (u : Unit16) (read : List Unit16 × Text) : List Unit16 × Text :=
  (u :: read.1, read.2)

theorem readUnits_coded {a b c d : Char} {n : Nat} (h : fourDigits? a b c d = some n)
    (rest : Text) :
    readUnits ('\\' :: 'u' :: a :: b :: c :: d :: rest) =
      (readUnits rest).map (withUnit (.coded n)) := by
  rw [readUnits]
  simp only [h]
  cases readUnits rest <;> rfl

theorem readUnits_short {e c : Char} (h : shortEscape? e = some c) (rest : Text) :
    readUnits ('\\' :: e :: rest) = (readUnits rest).map (withUnit (.plain c)) := by
  rw [readUnits]
  · simp only [h]
    cases readUnits rest <;> rfl
  · rintro a b c d rest' rfl
    cases h

theorem readUnits_plain {c : Char} (hquote : c ≠ '"') (hslash : c ≠ '\\') (h : 32 ≤ c.toNat)
    (rest : Text) : readUnits (c :: rest) = (readUnits rest).map (withUnit (.plain c)) := by
  rw [readUnits]
  · rw [if_neg (Nat.not_lt.mpr h)]
    cases readUnits rest <;> rfl
  · exact hquote
  · rintro a b c d rest' rfl
    exact absurd rfl hslash
  · rintro e rest' rfl
    exact absurd rfl hslash

theorem readUnits_escape (c : Char) :
    exists u : Unit16, u.Means c ∧ forall rest,
      readUnits (escape c ++ rest) = (readUnits rest).map (withUnit u) := by
  have hshort : forall e, shortEscape? e = some c -> exists u : Unit16, u.Means c ∧
      forall rest, readUnits (['\\', e] ++ rest) = (readUnits rest).map (withUnit u) :=
    fun e he => ⟨.plain c, Unit16.plain_means c, fun rest => readUnits_short he rest⟩
  have hnumber : forall {n : Nat}, c.toNat = n -> some (Char.ofNat n) = some c := by
    rintro n rfl
    rw [Char.ofNat_toNat]
  unfold escape
  split
  · exact hshort '"' rfl
  · exact hshort '\\' rfl
  · exact hshort 'n' rfl
  · exact hshort 'r' rfl
  · exact hshort 't' rfl
  rename_i hquote hslash _ _ _
  split
  · exact hshort 'b' (hnumber (by assumption))
  split
  · exact hshort 'f' (hnumber (by assumption))
  split
  · rename_i hlt
    exact ⟨.coded c.toNat, Unit16.coded_means hlt,
      fun rest => readUnits_coded (fourDigits?_of_lt hlt) rest⟩
  · rename_i hlt
    exact ⟨.plain c, Unit16.plain_means c,
      fun rest => readUnits_plain hquote hslash (Nat.le_of_not_lt hlt) rest⟩

theorem readUnits_flatMap_escape (s rest : Text) :
    exists units, unitsText units = some s ∧
      readUnits (s.flatMap escape ++ '"' :: rest) = some (units, rest) := by
  induction s with
  | nil =>
      exact ⟨[], rfl, rfl⟩
  | cons c s ih =>
      rcases ih with ⟨units, hunits, hread⟩
      rcases readUnits_escape c with ⟨u, hu, hescape⟩
      refine ⟨u :: units, ?_, ?_⟩
      · rw [hu, hunits]
        rfl
      · rw [List.flatMap_cons, List.append_assoc, hescape, hread]
        rfl

theorem readString_quote (s rest : Text) :
    readString (quote s ++ rest) = some (some s, rest) := by
  rcases readUnits_flatMap_escape s rest with ⟨units, hunits, hread⟩
  rw [quote, List.cons_append, List.cons_append, List.append_assoc, List.singleton_append,
    readString, hread, ← hunits]
  rfl

/-!
# White space
-/

/-- White space as it may stand between the parts of a document. -/
def Gap (s : Text) : Prop :=
  forall c, c ∈ s -> c = ' ' ∨ c = '\n' ∨ c = '\r' ∨ c = '\t'

theorem gap_nil : Gap [] :=
  List.forall_mem_nil _

theorem isSpace_iff {c : Char} :
    isSpace c = true <-> c = ' ' ∨ c = '\n' ∨ c = '\r' ∨ c = '\t' := by
  simp only [isSpace, Bool.or_eq_true, decide_eq_true_eq, or_assoc]

theorem gap_of_all {s : Text} (h : s.all isSpace = true) : Gap s :=
  fun c hc => isSpace_iff.mp (List.all_eq_true.mp h c hc)

theorem skipSpace_append {gap : Text} (h : Gap gap) (s : Text) :
    skipSpace (gap ++ s) = skipSpace s :=
  List.dropWhile_append_of_pos fun c hc => isSpace_iff.mpr (h c hc)

theorem skipSpace_of_not {c : Char} (h : isSpace c = false) (s : Text) :
    skipSpace (c :: s) = c :: s :=
  List.dropWhile_cons_of_neg (Bool.not_eq_true _ ▸ h)

/-- A number can be followed by the text, which does not go on with it. -/
def Ends (rest : Text) : Prop :=
  forall c s, rest = c :: s -> c.isDigit = false ∧ c ≠ '.' ∧ c ≠ 'e' ∧ c ≠ 'E'

theorem ends_nil : Ends [] := by
  intro c s h
  cases h

theorem ends_cons {c : Char} (h : isSpace c = true ∨ c = ',' ∨ c = ']' ∨ c = '}') (s : Text) :
    Ends (c :: s) := by
  intro c' s' heq
  cases heq
  rw [isSpace_iff] at h
  rcases h with (rfl | rfl | rfl | rfl) | rfl | rfl | rfl <;> decide

theorem ends_append {gap rest : Text} (h : Gap gap) (hrest : Ends rest) :
    Ends (gap ++ rest) := by
  cases gap with
  | nil =>
      exact hrest
  | cons c gap =>
      exact ends_cons (Or.inl (isSpace_iff.mpr (h c List.mem_cons_self))) _

/-!
# Numbers
-/

theorem digitsOf_append {digits rest : Text}
    (hdigits : forall c, c ∈ digits -> c.isDigit = true) (hrest : Ends rest) :
    digitsOf (digits ++ rest) = (digits, rest) := by
  rw [digitsOf, List.span_eq_takeWhile_dropWhile, List.takeWhile_append_of_pos hdigits,
    List.dropWhile_append_of_pos hdigits]
  cases rest with
  | nil =>
      exact congrArg (·, []) (List.append_nil digits)
  | cons c s =>
      have hc : ¬ c.isDigit = true := Bool.not_eq_true _ ▸ (hrest c s rfl).left
      rw [List.takeWhile_cons_of_neg hc, List.dropWhile_cons_of_neg hc, List.append_nil]

theorem readWhole_render (n : Nat) {rest : Text} (hrest : Ends rest) :
    readWhole (Decimal.render n ++ rest) = some (Decimal.render n, rest) := by
  rw [readWhole, digitsOf_append (fun c hc => Decimal.isDigit_of_mem_render hc) hrest]
  split
  · rename_i h
    exact absurd (Prod.mk.inj h).left (Decimal.render_ne_nil n)
  · rename_i h
    -- Only zero is written with a zero in front, and then alone.
    by_cases hn : 0 < n
    · have hhead := Decimal.head_render_ne_zero hn
      rw [(Prod.mk.inj h).left] at hhead
      exact absurd rfl hhead
    · rw [Nat.eq_zero_of_not_pos hn] at h
      cases h
  · rename_i h
    rw [← h]

theorem readFraction_of_ends {rest : Text} (h : Ends rest) :
    readFraction rest = some ([], rest) := by
  unfold readFraction
  split
  · exact absurd rfl (h _ _ rfl).right.left
  · rfl

theorem readExponent_of_ends {rest : Text} (h : Ends rest) :
    readExponent rest = some ([], rest) := by
  cases rest with
  | nil =>
      rfl
  | cons c s =>
      exact if_neg (not_or.mpr (h c s rfl).right.right)

theorem render_append_ne_cons {c : Char} (hc : c.isDigit = false) (n : Nat) (rest rest' : Text) :
    Decimal.render n ++ rest ≠ c :: rest' := by
  intro h
  cases hrender : Decimal.render n with
  | nil =>
      exact Decimal.render_ne_nil n hrender
  | cons d digits =>
      have hd : d.isDigit = true := by
        apply Decimal.isDigit_of_mem_render (n := n)
        rw [hrender]
        exact List.mem_cons_self
      rw [hrender] at h
      rw [(List.cons.inj h).left, hc] at hd
      cases hd

theorem readNumber_render (n : Nat) {rest : Text} (h : Ends rest) :
    readNumber (Decimal.render n ++ rest) = some (Decimal.render n, rest) := by
  rw [readNumber]
  · simp only [readWhole_render n h, readFraction_of_ends h, readExponent_of_ends h,
      Option.bind_eq_bind, Option.bind_some, Option.pure_def, List.nil_append, List.append_nil]
  · exact fun rest' => render_append_ne_cons rfl n _ rest'

end Json
end Moniker
