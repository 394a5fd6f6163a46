import Moniker.Proofs.Json
import Moniker.Report.Document

/-!
# Reports that are read back

The document of a report is JSON, and holds all of the report and nothing else.
-/

namespace Moniker
namespace Report

/-!
# Identifiers
-/

theorem exists_items {gap closing : Text} (hgap : Json.Gap gap) (hclosing : Json.Gap closing)
    (id : Text) (ids : List Text) :
    exists items : List Json.Item, items ≠ [] ∧ (forall i, i ∈ items -> i.Spaced) ∧
      (forall i, i ∈ items -> Json.Spelled i.value i.written) ∧
      items.map Json.Item.value = (id :: ids).map (fun s => .string (some s)) ∧
      Json.separated [','] (items.map Json.Item.text) =
        gap ++ (Json.separated (',' :: gap) ((id :: ids).map Json.quote) ++ closing) := by
  induction ids generalizing id with
  | nil =>
      refine ⟨[⟨gap, .string (some id), Json.quote id, closing⟩], List.cons_ne_nil _ _, ?_, ?_,
        rfl, ?_⟩
      · exact List.forall_mem_singleton.mpr ⟨hgap, hclosing⟩
      · exact List.forall_mem_singleton.mpr (.string id)
      · simp [Json.separated, Json.Item.text]
  | cons id' ids ih =>
      rcases ih id' with ⟨items, hitems, hspaced, hspelled, hvalues, htext⟩
      refine ⟨⟨gap, .string (some id), Json.quote id, []⟩ :: items, List.cons_ne_nil _ _, ?_, ?_,
        ?_, ?_⟩
      · exact List.forall_mem_cons.mpr ⟨⟨hgap, Json.gap_nil⟩, hspaced⟩
      · exact List.forall_mem_cons.mpr ⟨.string id, hspelled⟩
      · rw [List.map_cons, hvalues]
        rfl
      · rcases List.exists_cons_of_ne_nil hitems with ⟨i, items, rfl⟩
        rw [Json.separated, List.map_cons, List.map_cons, List.intercalate_cons_cons,
          ← List.map_cons, ← Json.separated, htext]
        simp [Json.separated, Json.Item.text]

theorem spelled_idsDocument (ids : List Text) :
    Json.Spelled (.array (ids.map fun s => .string (some s))) (idsDocument ids) := by
  cases ids with
  | nil =>
      exact .emptyArray Json.gap_nil
  | cons id ids =>
      have hgap : Json.Gap "\n    ".toList := Json.gap_of_all rfl
      have hclosing : Json.Gap "\n  ".toList := Json.gap_of_all rfl
      rcases exists_items hgap hclosing id ids with
        ⟨items, hitems, hspaced, hspelled, hvalues, htext⟩
      have harray := Json.Spelled.array hitems hspaced hspelled
      rw [hvalues, htext] at harray
      have hdocument : idsDocument (id :: ids) =
          '[' :: "\n    ".toList ++ Json.separated (',' :: "\n    ".toList)
            ((id :: ids).map Json.quote) ++ ("\n  ".toList ++ [']']) :=
        rfl
      rw [hdocument]
      simpa only [List.cons_append, List.append_assoc] using harray

/-!
# Members
-/

/-- What the document of a report holds. -/
def value (r : Report) : Json.Value :=
  .object
    [(some "ids".toList, .array (r.ids.map fun id => .string (some id))),
      (some "attempts".toList, .number (Decimal.render r.attempts)),
      (some "target_count".toList, .number (Decimal.render r.target)),
      (some "fulfillment".toList, .string (some r.fulfillment.name))]

def members (r : Report) : List Json.Member :=
  [⟨"\n  ".toList, "ids".toList, [],
      ⟨" ".toList, .array (r.ids.map fun id => .string (some id)), idsDocument r.ids, []⟩⟩,
    ⟨"\n  ".toList, "attempts".toList, [],
      ⟨" ".toList, .number (Decimal.render r.attempts), Decimal.render r.attempts, []⟩⟩,
    ⟨"\n  ".toList, "target_count".toList, [],
      ⟨" ".toList, .number (Decimal.render r.target), Decimal.render r.target, []⟩⟩,
    ⟨"\n  ".toList, "fulfillment".toList, [],
      ⟨" ".toList, .string (some r.fulfillment.name), Json.quote r.fulfillment.name,
        "\n".toList⟩⟩]

theorem document_eq (r : Report) :
    r.document = '{' :: (Json.separated [','] (r.members.map Json.Member.text) ++ ['}']) := by
  simp [document, memberDocument, members, Json.separated, Json.Member.text, Json.Item.text,
    List.intercalate_cons_cons]

theorem spelled_document (r : Report) : Json.Spelled r.value r.document := by
  rw [document_eq]
  have hline : Json.Gap "\n  ".toList := Json.gap_of_all rfl
  have hspace : Json.Gap " ".toList := Json.gap_of_all rfl
  have hclosing : Json.Gap "\n".toList := Json.gap_of_all rfl
  have hmember : forall key value written, Json.Member.Spaced
      ⟨"\n  ".toList, key, [], ⟨" ".toList, value, written, []⟩⟩ :=
    fun _ _ _ => ⟨hline, Json.gap_nil, hspace, Json.gap_nil⟩
  show Json.Spelled (.object (r.members.map Json.Member.entry)) _
  refine .object (List.cons_ne_nil _ _) ?_ ?_
  · simp only [members, List.forall_mem_cons]
    exact ⟨hmember _ _ _, hmember _ _ _, hmember _ _ _, ⟨hline, Json.gap_nil, hspace, hclosing⟩,
      List.forall_mem_nil _⟩
  · simp only [members, List.forall_mem_cons]
    exact ⟨spelled_idsDocument r.ids, .number r.attempts, .number r.target,
      .string r.fulfillment.name, List.forall_mem_nil _⟩

theorem read?_document (r : Report) : Json.read? r.document = some r.value := by
  have hread := Json.read?_of_spelled Json.gap_nil r.spelled_document Json.gap_nil
  rwa [List.nil_append, List.append_nil] at hread

theorem name_injective {f f' : Fulfillment} (h : f.name = f'.name) : f = f' := by
  cases f <;> cases f' <;> first | rfl | exact absurd h (by decide)

theorem document_injective {r r' : Report} (h : r.document = r'.document) : r = r' := by
  have hvalue : r.value = r'.value :=
    Option.some.inj (r.read?_document.symm.trans (h ▸ r'.read?_document))
  have hids : Function.Injective fun id : Text => Json.Value.string (some id) :=
    fun _ _ heq => Option.some.inj (Json.Value.string.inj heq)
  have hrender : Function.Injective fun n : Nat => Json.Value.number (Decimal.render n) := by
    intro n n' heq
    rw [← Decimal.value_render n, Json.Value.number.inj heq, Decimal.value_render]
  rcases r with ⟨ids, attempts, target, fulfillment⟩
  rcases r' with ⟨ids', attempts', target', fulfillment'⟩
  simp only [value, Json.Value.object.injEq, List.cons.injEq, Prod.mk.injEq, true_and, and_true,
    Json.Value.array.injEq, Json.Value.string.injEq, Option.some.injEq] at hvalue
  rcases hvalue with ⟨hid, hattempts, htarget, hname⟩
  rw [List.map_injective_iff.mpr hids hid, hrender hattempts, hrender htarget,
    name_injective hname]

end Report
end Moniker
