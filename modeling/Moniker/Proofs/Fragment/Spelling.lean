import Moniker.Proofs.Fragment.Reading

/-!
# Spellings

The grammar writes some forms in several ways: a length as a run or as a numeral,
and a span with or without a comma.  This module lists all texts that are read as
a form, and picks one of them.
-/

namespace Moniker

/-!
# Forms that can be written

A position goes from one to nine, and a numeral fits 64 bits.
-/

def Span.Expressible : Span -> Prop
  | .range start stop => start < 9 ∧ 1 ≤ stop ∧ stop ≤ 9
  | .last count => 1 ≤ count ∧ count ≤ 9
  | .toEnd start => start < 9

def Use.Expressible : Use -> Prop
  | .whole => True
  | .sample length | .counter length => 0 < length ∧ length ≤ Decimal.maxWord
  | .part span => span.Expressible

def Form.Expressible : Form -> Prop
  | .literal payload => forall c, c ∈ payload -> c.isAlphanum = true ∨ c = '_'
  | .data key use => key.isAlpha = true ∧ use.Expressible

/-!
# Texts of a form
-/

/-- Spans count from zero and are written with positions that count from one. -/
def Span.canonical (key : Char) : Span -> Text
  | .range 0 stop => [Nat.digitChar stop, key]
  | .range (start + 1) stop => [Nat.digitChar (start + 2), key, Nat.digitChar stop]
  | .last count => [key, Nat.digitChar count]
  | .toEnd start => [key, Nat.digitChar (start + 1), ',']

/-- Lengths are written as numerals, and ranges without a comma. -/
def Form.canonical : Form -> Text
  | .literal payload => '=' :: payload
  | .data key .whole => [key]
  | .data key (.sample length) => key :: Decimal.render length ++ ['+']
  | .data key (.part span) => span.canonical key
  | .data key (.counter length) => key :: Decimal.render length ++ ['+', '+']

def Span.spellings (key : Char) : Span -> List Text
  | .range start stop =>
      (if start = 0 then [[Nat.digitChar stop, key], [key, ',', Nat.digitChar stop]] else []) ++
        [[Nat.digitChar (start + 1), key, Nat.digitChar stop],
          [key, Nat.digitChar (start + 1), ',', Nat.digitChar stop]]
  | .last count => [[key, Nat.digitChar count]]
  | .toEnd start => [[key, Nat.digitChar (start + 1), ',']]

def Form.spellings : Form -> List Text
  | .literal payload => ['=' :: payload]
  | .data key .whole => [[key]]
  | .data key (.sample length) =>
      [key :: Decimal.render length ++ ['+'], List.replicate length key ++ ['+']]
  | .data key (.part span) => span.spellings key
  | .data key (.counter length) =>
      [key :: Decimal.render length ++ ['+', '+'], List.replicate length key ++ ['+', '+']]

namespace Form

theorem canonical_mem_spellings (form : Form) : form.canonical ∈ form.spellings := by
  cases form with
  | literal payload =>
      exact List.mem_singleton_self _
  | data key use =>
      cases use with
      | whole =>
          exact List.mem_singleton_self _
      | sample length | counter length =>
          exact List.mem_cons_self
      | part span =>
          cases span with
          | range start stop =>
              cases start with
              | zero =>
                  exact List.mem_cons_self
              | succ start =>
                  exact List.mem_cons_self
          | last count | toEnd start =>
              exact List.mem_cons_self

/-!
# Spellings are written texts
-/

theorem position_digitChar {d : Nat} (h : 1 ≤ d) (h' : d ≤ 9) : Position d (Nat.digitChar d) :=
  ⟨h, h', rfl⟩

theorem written_of_mem_spellings_part {key : Char} {span : Span} {text : Text}
    (hkey : key.isAlpha = true) (hspan : span.Expressible) (h : text ∈ span.spellings key) :
    Written text (.data key (.part span)) := by
  cases span with
  | range start stop =>
      rcases hspan with ⟨hstart, hpos, hstop⟩
      have hfirst := position_digitChar (Nat.succ_pos start) hstart
      have hlast := position_digitChar hpos hstop
      rcases List.mem_append.mp h with hzero | hboth
      · split at hzero
        · rename_i hstart0
          subst hstart0
          rcases List.mem_pair.mp hzero with rfl | rfl
          · exact .first hkey hlast
          · exact .firstComma hkey hlast
        · cases hzero
      · rcases List.mem_pair.mp hboth with rfl | rfl
        · exact .between hkey hfirst hlast
        · exact .betweenComma hkey hfirst hlast
  | last count =>
      rw [List.mem_singleton.mp h]
      exact .last hkey (position_digitChar hspan.left hspan.right)
  | toEnd start =>
      rw [List.mem_singleton.mp h]
      exact .fromComma hkey (position_digitChar (Nat.succ_pos start) hspan)

theorem written_of_mem_spellings {form : Form} {text : Text} (hform : form.Expressible)
    (h : text ∈ form.spellings) : Written text form := by
  cases form with
  | literal payload =>
      rw [List.mem_singleton.mp h]
      exact .literal hform
  | data key use =>
      rcases hform with ⟨hkey, huse⟩
      cases use with
      | whole =>
          rw [List.mem_singleton.mp h]
          exact .whole hkey
      | sample length =>
          rcases List.mem_pair.mp h with rfl | rfl
          · exact .sample hkey (.numeral huse.left huse.right)
          · exact .sample hkey (.run huse.left)
      | part span =>
          exact written_of_mem_spellings_part hkey huse h
      | counter length =>
          rcases List.mem_pair.mp h with rfl | rfl
          · exact .counter hkey (.numeral huse.left huse.right)
          · exact .counter hkey (.run huse.left)

/-!
# Written texts are spellings
-/

theorem mem_spellings_of_written {form : Form} {text : Text} (h : Written text form) :
    text ∈ form.spellings := by
  cases h with
  | whole hx | literal hpayload =>
      exact List.mem_singleton_self _
  | sample hx hmeasured | counter hx hmeasured =>
      cases hmeasured with
      | run hn =>
          exact List.mem_pair.mpr (Or.inr rfl)
      | numeral hn hmax =>
          exact List.mem_pair.mpr (Or.inl rfl)
  | first hx hd | firstComma hx hd =>
      rcases hd with ⟨_, _, rfl⟩
      simp [spellings, Span.spellings]
  | last hx hd =>
      rcases hd with ⟨_, _, rfl⟩
      exact List.mem_singleton_self _
  | between hx hd he | betweenComma hx hd he =>
      rcases hd with ⟨hpos, _, rfl⟩
      rcases he with ⟨_, _, rfl⟩
      simp [spellings, Span.spellings, Nat.sub_add_cancel hpos]
  | fromComma hx hd =>
      rcases hd with ⟨hpos, _, rfl⟩
      simp [spellings, Span.spellings, Nat.sub_add_cancel hpos]

theorem written_iff_mem_spellings {form : Form} (h : form.Expressible) {text : Text} :
    Written text form <-> text ∈ form.spellings :=
  ⟨mem_spellings_of_written, written_of_mem_spellings h⟩

theorem Measured.le_maxWord {x : Char} {s : Text} {n : Nat} (h : Measured x s n)
    (hlength : s.length ≤ Decimal.maxWord) : n ≤ Decimal.maxWord := by
  cases h with
  | run hn =>
      rwa [List.length_replicate] at hlength
  | numeral hn hmax =>
      exact hmax

theorem Position.pred_lt {d : Nat} {c : Char} (h : Position d c) : d - 1 < 9 :=
  Nat.sub_one_lt_of_le h.left h.right.left

theorem expressible_of_written {form : Form} {text : Text} (h : Written text form)
    (hlength : text.length ≤ Decimal.maxWord) : form.Expressible := by
  cases h with
  | whole hx =>
      exact ⟨hx, trivial⟩
  | literal hpayload =>
      exact hpayload
  | sample hx hmeasured | counter hx hmeasured =>
      rw [List.length_append] at hlength
      exact ⟨hx, hmeasured.pos, hmeasured.le_maxWord (Nat.le_of_add_right_le hlength)⟩
  | first hx hd | firstComma hx hd =>
      exact ⟨hx, Nat.succ_pos _, hd.left, hd.right.left⟩
  | last hx hd =>
      exact ⟨hx, hd.left, hd.right.left⟩
  | between hx hd he | betweenComma hx hd he =>
      exact ⟨hx, hd.pred_lt, he.left, he.right.left⟩
  | fromComma hx hd =>
      exact ⟨hx, hd.pred_lt⟩

end Form
end Moniker
