import Moniker.Proofs.Json.Tokens

/-!
# Reading what was written

A document spells a value with white space between any two of its parts.  However it is
spelled, the value is read back.
-/

namespace Moniker
namespace Json

/-!
# Spellings

The parts of an array are values with white space around them, and those of an object have
a key in front.
-/

structure Item where
  before : Text
  value : Value
  written : Text
  behind : Text

structure Member where
  before : Text
  key : Text
  between : Text
  item : Item

namespace Item

def text (i : Item) : Text :=
  i.before ++ (i.written ++ i.behind)

structure Spaced (i : Item) : Prop where
  before : Gap i.before
  behind : Gap i.behind

end Item

namespace Member

def entry (m : Member) : Option Text × Value :=
  (some m.key, m.item.value)

def text (m : Member) : Text :=
  m.before ++ (quote m.key ++ (m.between ++ ':' :: m.item.text))

structure Spaced (m : Member) : Prop where
  before : Gap m.before
  between : Gap m.between
  item : m.item.Spaced

end Member

inductive Spelled : Value -> Text -> Prop where
  | null : Spelled .null "null".toList
  | yes : Spelled (.boolean true) "true".toList
  | no : Spelled (.boolean false) "false".toList
  | number (n : Nat) : Spelled (.number (Decimal.render n)) (Decimal.render n)
  | string (s : Text) : Spelled (.string (some s)) (quote s)
  | emptyArray {gap : Text} : Gap gap -> Spelled (.array []) ('[' :: (gap ++ [']']))
  | array {items : List Item} : items ≠ [] -> (forall i, i ∈ items -> i.Spaced) ->
      (forall i, i ∈ items -> Spelled i.value i.written) ->
      Spelled (.array (items.map Item.value))
        ('[' :: (separated [','] (items.map Item.text) ++ [']']))
  | emptyObject {gap : Text} : Gap gap -> Spelled (.object []) ('{' :: (gap ++ ['}']))
  | object {members : List Member} : members ≠ [] -> (forall m, m ∈ members -> m.Spaced) ->
      (forall m, m ∈ members -> Spelled m.item.value m.item.written) ->
      Spelled (.object (members.map Member.entry))
        ('{' :: (separated [','] (members.map Member.text) ++ ['}']))

def Starts (s : Text) : Prop :=
  exists c rest, s = c :: rest ∧ isSpace c = false ∧ c ≠ ']'

theorem Spelled.starts {v : Value} {written : Text} (h : Spelled v written) : Starts written := by
  cases h with
  | number n =>
      cases hrender : Decimal.render n with
      | nil =>
          exact absurd hrender (Decimal.render_ne_nil n)
      | cons c rest =>
          have hc : c.isDigit = true := by
            apply Decimal.isDigit_of_mem_render (n := n)
            rw [hrender]
            exact List.mem_cons_self
          refine ⟨c, rest, rfl, ?_, ?_⟩
          · by_contra hspace
            rw [Bool.not_eq_false, isSpace_iff] at hspace
            rcases hspace with rfl | rfl | rfl | rfl <;> cases hc
          · rintro rfl
            cases hc
  | _ =>
      exact ⟨_, _, rfl, rfl, by decide⟩

theorem Starts.exists_bound {s : Text} (h : Starts s) {depth : Nat} (hdepth : s.length ≤ depth) :
    exists bound, depth = bound + 1 := by
  rcases h with ⟨c, s, rfl, _, _⟩
  exact Nat.exists_eq_add_one_of_ne_zero (Nat.ne_of_gt (Nat.zero_lt_of_lt hdepth))

theorem Starts.skipSpace {s : Text} (h : Starts s) (rest : Text) :
    skipSpace (s ++ rest) = s ++ rest := by
  rcases h with ⟨c, s, rfl, hspace, _⟩
  exact skipSpace_of_not hspace _

/-!
# Reading a spelling
-/

/-- The value is read whatever ends the text, if the bound is as large as the text. -/
def ReadAs (v : Value) (written : Text) : Prop :=
  forall rest depth, Ends rest -> written.length ≤ depth ->
    readValue depth (written ++ rest) = some (v, rest)

structure Item.Readable (i : Item) : Prop extends i.Spaced where
  starts : Starts i.written
  readAs : ReadAs i.value i.written

structure Member.Readable (m : Member) : Prop where
  before : Gap m.before
  between : Gap m.between
  item : m.item.Readable

theorem length_separated_cons_cons (piece piece' : Text) (pieces : List Text) :
    (separated [','] (piece :: piece' :: pieces)).length =
      piece.length + 1 + (separated [','] (piece' :: pieces)).length := by
  rw [separated, List.intercalate_cons_cons, List.length_append, List.length_append,
    List.length_singleton]
  rfl

theorem separated_cons_cons_append (piece piece' : Text) (pieces : List Text) (rest : Text) :
    separated [','] (piece :: piece' :: pieces) ++ rest =
      piece ++ ',' :: (separated [','] (piece' :: pieces) ++ rest) := by
  rw [separated, List.intercalate_cons_cons, List.append_assoc, List.append_assoc]
  rfl

theorem separated_singleton (piece : Text) : separated [','] [piece] = piece :=
  List.intercalate_singleton

namespace Item.Readable

variable {i : Item} {rest : Text} {depth : Nat}

theorem skipSpace (h : i.Readable) (rest : Text) :
    Json.skipSpace (i.text ++ rest) = i.written ++ (i.behind ++ rest) := by
  rw [text, List.append_assoc, List.append_assoc, skipSpace_append h.before, h.starts.skipSpace]

theorem readValue (h : i.Readable) (hrest : Ends rest) (hdepth : i.text.length ≤ depth) :
    Json.readValue depth (Json.skipSpace (i.text ++ rest)) = some (i.value, i.behind ++ rest) := by
  rw [h.skipSpace]
  refine h.readAs _ _ (ends_append h.behind hrest) ?_
  rw [text, List.length_append, List.length_append] at hdepth
  omega

end Item.Readable

theorem readItems_items {i : Item} {items : List Item}
    (h : forall j, j ∈ i :: items -> j.Readable) (rest : Text) {depth : Nat}
    (hdepth : (separated [','] ((i :: items).map Item.text)).length < depth) :
    readItems depth (skipSpace (separated [','] ((i :: items).map Item.text) ++ ']' :: rest)) =
      some ((i :: items).map Item.value, rest) := by
  induction items generalizing i depth with
  | nil =>
      rcases Nat.exists_eq_add_one_of_ne_zero (Nat.ne_of_gt (Nat.zero_lt_of_lt hdepth))
        with ⟨depth, rfl⟩
      have hi := h i List.mem_cons_self
      rw [List.map_singleton, separated_singleton] at hdepth ⊢
      rw [readItems, hi.readValue (ends_cons (by decide) rest) (Nat.le_of_lt_succ hdepth)]
      simp only [Option.bind_eq_bind, Option.bind_some, skipSpace_append hi.behind,
        skipSpace_of_not (c := ']') rfl]
      rfl
  | cons j items ih =>
      rcases Nat.exists_eq_add_one_of_ne_zero (Nat.ne_of_gt (Nat.zero_lt_of_lt hdepth))
        with ⟨depth, rfl⟩
      have hi := h i List.mem_cons_self
      rw [List.map_cons, List.map_cons, length_separated_cons_cons, ← List.map_cons] at hdepth
      have hlength : i.text.length ≤ depth := by
        omega
      have hrest := ih (fun k hk => h k (List.mem_cons_of_mem i hk))
        (show (separated [','] ((j :: items).map Item.text)).length < depth by omega)
      rw [List.map_cons, List.map_cons, separated_cons_cons_append, readItems,
        hi.readValue (ends_cons (by decide) _) hlength]
      simp only [Option.bind_eq_bind, Option.bind_some, skipSpace_append hi.behind,
        skipSpace_of_not (c := ',') rfl]
      rw [← List.map_cons, hrest]
      rfl

theorem Member.Readable.skipSpace {m : Member} (h : m.Readable) (rest : Text) :
    Json.skipSpace (m.text ++ rest) =
      quote m.key ++ (m.between ++ ':' :: (m.item.text ++ rest)) := by
  rw [text, List.append_assoc, skipSpace_append h.before]
  simp only [List.append_assoc, List.cons_append]
  exact skipSpace_of_not rfl _

theorem Member.length_item_lt (m : Member) : m.item.text.length < m.text.length := by
  rw [text, List.length_append, List.length_append, List.length_append, List.length_cons]
  omega

theorem readMembers_members {m : Member} {members : List Member}
    (h : forall m', m' ∈ m :: members -> m'.Readable) (rest : Text) {depth : Nat}
    (hdepth : (separated [','] ((m :: members).map Member.text)).length < depth) :
    readMembers depth
        (skipSpace (separated [','] ((m :: members).map Member.text) ++ '}' :: rest)) =
      some ((m :: members).map Member.entry, rest) := by
  induction members generalizing m depth with
  | nil =>
      rcases Nat.exists_eq_add_one_of_ne_zero (Nat.ne_of_gt (Nat.zero_lt_of_lt hdepth))
        with ⟨depth, rfl⟩
      have hm := h m List.mem_cons_self
      rw [List.map_singleton, separated_singleton] at hdepth ⊢
      have hlength : m.item.text.length ≤ depth := by
        have hitem := m.length_item_lt
        omega
      rw [hm.skipSpace, readMembers, readString_quote]
      simp only [Option.bind_eq_bind, Option.bind_some, skipSpace_append hm.between,
        skipSpace_of_not (c := ':') rfl,
        hm.item.readValue (ends_cons (c := '}') (by decide) rest) hlength,
        skipSpace_append hm.item.behind, skipSpace_of_not (c := '}') rfl]
      rfl
  | cons m' members ih =>
      rcases Nat.exists_eq_add_one_of_ne_zero (Nat.ne_of_gt (Nat.zero_lt_of_lt hdepth))
        with ⟨depth, rfl⟩
      have hm := h m List.mem_cons_self
      rw [List.map_cons, List.map_cons, length_separated_cons_cons, ← List.map_cons] at hdepth
      have hlength : m.item.text.length ≤ depth := by
        have hitem := m.length_item_lt
        omega
      have hrest := ih (fun m'' hm'' => h m'' (List.mem_cons_of_mem m hm''))
        (show (separated [','] ((m' :: members).map Member.text)).length < depth by omega)
      rw [List.map_cons, List.map_cons, separated_cons_cons_append, hm.skipSpace, readMembers,
        readString_quote]
      simp only [Option.bind_eq_bind, Option.bind_some, skipSpace_append hm.between,
        skipSpace_of_not (c := ':') rfl,
        hm.item.readValue (ends_cons (c := ',') (by decide) _) hlength,
        skipSpace_append hm.item.behind, skipSpace_of_not (c := ',') rfl]
      rw [← List.map_cons, hrest]
      rfl

theorem exists_skipSpace_items {i : Item} (h : i.Readable) (items : List Item) (rest : Text) :
    exists c s, skipSpace (separated [','] ((i :: items).map Item.text) ++ rest) = c :: s ∧
      c ≠ ']' := by
  rcases h.starts with ⟨c, s, hs, _, hc⟩
  cases items with
  | nil =>
      have hread := h.skipSpace rest
      rw [hs, List.cons_append] at hread
      rw [List.map_singleton, separated_singleton]
      exact ⟨c, _, hread, hc⟩
  | cons j items =>
      have hread := h.skipSpace (',' :: (separated [','] ((j :: items).map Item.text) ++ rest))
      rw [hs, List.cons_append] at hread
      rw [List.map_cons, List.map_cons, separated_cons_cons_append]
      exact ⟨c, _, hread, hc⟩

theorem exists_skipSpace_members {m : Member} (h : m.Readable) (members : List Member)
    (rest : Text) :
    exists s, skipSpace (separated [','] ((m :: members).map Member.text) ++ rest) = '"' :: s := by
  cases members with
  | nil =>
      rw [List.map_singleton, separated_singleton, h.skipSpace]
      exact ⟨_, rfl⟩
  | cons m' members =>
      rw [List.map_cons, List.map_cons, separated_cons_cons_append, h.skipSpace]
      exact ⟨_, rfl⟩

theorem readAs_word {word : Text} {v : Value}
    (h : forall bound rest, readValue (bound + 1) (word ++ rest) = some (v, rest))
    (hstarts : Starts word) : ReadAs v word := by
  intro rest depth _ hdepth
  rcases hstarts.exists_bound hdepth with ⟨bound, rfl⟩
  exact h bound rest

theorem readAs_array {i : Item} {items : List Item}
    (h : forall j, j ∈ i :: items -> j.Readable) :
    ReadAs (.array ((i :: items).map Item.value))
      ('[' :: (separated [','] ((i :: items).map Item.text) ++ [']'])) := by
  intro rest depth hrest hdepth
  rw [List.length_cons, List.length_append, List.length_singleton] at hdepth
  rcases Nat.exists_eq_add_one_of_ne_zero (Nat.ne_of_gt (Nat.zero_lt_of_lt hdepth))
    with ⟨depth, rfl⟩
  have hread := readItems_items h rest (Nat.lt_of_succ_le (Nat.le_of_succ_le_succ hdepth))
  rcases exists_skipSpace_items (h i List.mem_cons_self) items (']' :: rest) with ⟨c, s, hs, hc⟩
  rw [List.cons_append, List.append_assoc, List.singleton_append, readValue]
  rw [hs] at hread ⊢
  split
  · rename_i heq
    exact absurd (List.cons.inj heq).left hc
  · rw [hread]
    rfl

theorem readAs_object {m : Member} {members : List Member}
    (h : forall m', m' ∈ m :: members -> m'.Readable) :
    ReadAs (.object ((m :: members).map Member.entry))
      ('{' :: (separated [','] ((m :: members).map Member.text) ++ ['}'])) := by
  intro rest depth hrest hdepth
  rw [List.length_cons, List.length_append, List.length_singleton] at hdepth
  rcases Nat.exists_eq_add_one_of_ne_zero (Nat.ne_of_gt (Nat.zero_lt_of_lt hdepth))
    with ⟨depth, rfl⟩
  have hread := readMembers_members h rest (Nat.lt_of_succ_le (Nat.le_of_succ_le_succ hdepth))
  rcases exists_skipSpace_members (h m List.mem_cons_self) members ('}' :: rest) with ⟨s, hs⟩
  rw [List.cons_append, List.append_assoc, List.singleton_append, readValue]
  rw [hs] at hread ⊢
  exact congrArg (Option.map fun read => (Value.object read.1, read.2)) hread

theorem Spelled.readAs {v : Value} {written : Text} (h : Spelled v written) :
    ReadAs v written := by
  have hstarts := h.starts
  induction h with
  | null =>
      exact readAs_word (fun _ _ => rfl) hstarts
  | yes =>
      exact readAs_word (fun _ _ => rfl) hstarts
  | no =>
      exact readAs_word (fun _ _ => rfl) hstarts
  | number n =>
      intro rest depth hrest hdepth
      rcases hstarts.exists_bound hdepth with ⟨bound, rfl⟩
      rw [readValue]
      · rw [readNumber_render n hrest]
        rfl
      all_goals exact fun rest' => render_append_ne_cons rfl n _ rest'
  | string s =>
      refine readAs_word (fun bound rest => ?_) hstarts
      rw [quote, List.cons_append, List.cons_append, readValue, ← List.cons_append,
        ← List.cons_append, ← quote, readString_quote]
      rfl
  | emptyArray hgap =>
      refine readAs_word (fun bound rest => ?_) hstarts
      rw [List.cons_append, List.append_assoc, List.singleton_append, readValue,
        skipSpace_append hgap, skipSpace_of_not rfl]
      rfl
  | @array items hitems hspaced hspelled ih =>
      cases items with
      | nil =>
          exact absurd rfl hitems
      | cons i items =>
          exact readAs_array fun j hj =>
            { hspaced j hj with
              starts := (hspelled j hj).starts
              readAs := ih j hj (hspelled j hj).starts }
  | emptyObject hgap =>
      refine readAs_word (fun bound rest => ?_) hstarts
      rw [List.cons_append, List.append_assoc, List.singleton_append, readValue,
        skipSpace_append hgap, skipSpace_of_not rfl]
      rfl
  | @object members hmembers hspaced hspelled ih =>
      cases members with
      | nil =>
          exact absurd rfl hmembers
      | cons m members =>
          exact readAs_object fun m' hm' =>
            { hspaced m' hm' with
              item :=
                { (hspaced m' hm').item with
                  starts := (hspelled m' hm').starts
                  readAs := ih m' hm' (hspelled m' hm').starts } }

/-- However a value is spelled, and with any white space around it, it is read back. -/
theorem read?_of_spelled {v : Value} {before written behind : Text} (hbefore : Gap before)
    (h : Spelled v written) (hbehind : Gap behind) :
    read? (before ++ (written ++ behind)) = some v := by
  have hends : Ends behind := List.append_nil behind ▸ ends_append hbehind ends_nil
  have hlength : written.length ≤ (before ++ (written ++ behind)).length + 1 := by
    rw [List.length_append, List.length_append]
    omega
  have hblank : skipSpace behind = [] := List.append_nil behind ▸ skipSpace_append hbehind []
  rw [read?, readFirst?, skipSpace_append hbefore, h.starts.skipSpace,
    h.readAs behind _ hends hlength]
  simp only [Option.bind_eq_bind, Option.bind_some, hblank]
  rfl

theorem spelled_compactObject {α : Type} (key written : α -> Text) {value : α -> Value}
    {items : List α} (h : forall a, a ∈ items -> Spelled (value a) (written a)) :
    Spelled (.object (items.map fun a => (some (key a), value a)))
      (compactObject (items.map fun a => (key a, written a))) := by
  let member (a : α) : Member :=
    { before := []
      key := key a
      between := []
      item := { before := [], value := value a, written := written a, behind := [] } }
  have htext : compactObject (items.map fun a => (key a, written a)) =
      '{' :: (separated [','] ((items.map member).map Member.text) ++ ['}']) := by
    simp [compactObject, member, Member.text, Item.text, Function.comp_def]
  have hvalue : items.map (fun a => (some (key a), value a)) =
      (items.map member).map Member.entry := by
    simp [member, Member.entry]
  rw [htext, hvalue]
  cases items with
  | nil =>
      exact .emptyObject gap_nil
  | cons a items =>
      refine .object (List.cons_ne_nil _ _) ?_ ?_
      · exact List.forall_mem_map.mpr fun b _ => ⟨gap_nil, gap_nil, gap_nil, gap_nil⟩
      · exact List.forall_mem_map.mpr h

theorem read?_compactObject {α : Type} (key written : α -> Text) {value : α -> Value}
    {items : List α} (h : forall a, a ∈ items -> Spelled (value a) (written a)) :
    read? (compactObject (items.map fun a => (key a, written a))) =
      some (.object (items.map fun a => (some (key a), value a))) := by
  have hread := read?_of_spelled gap_nil (spelled_compactObject key written h) gap_nil
  rwa [List.nil_append, List.append_nil] at hread

end Json
end Moniker
