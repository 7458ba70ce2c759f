import CrudBench.Backend.Records
import CrudBench.Proofs.SortedMap

/-!
# Field sets of texts

A set of texts is asked for by these texts, each once and in order, and always has an order. What a
read shows of a record is what is left if the key is taken out, unless it is asked for.
-/

namespace CrudBench

namespace FieldSet

/-- The names under which a set of texts is asked for. -/
def names (fields : List String) : List Value := (ofTexts fields).texts.keys.map Value.str

/-- The names of texts have an order. -/
lemma sorted_ofTexts (fields : List String) : (ofTexts fields).sorted = .ok (names fields) := rfl

/-- A set of texts contains these texts. -/
lemma contains_ofTexts (fields : List String) (name : String) :
    (ofTexts fields).contains name = fields.contains name := by
  rw [Bool.eq_iff_iff, List.contains_iff_mem]
  exact (SortedMap.contains_ofList _ _).trans (by simp)

/-- The names of texts are these texts. -/
lemma mem_names {fields : List String} {v : Value} :
    v ∈ names fields ↔ ∃ name ∈ fields, v = .str name := by
  rw [names, List.mem_map]
  constructor
  · rintro ⟨name, h, rfl⟩
    have hc : (ofTexts fields).contains name = true := SortedMap.mem_keys.1 h
    rw [contains_ofTexts] at hc
    exact ⟨name, List.contains_iff_mem.1 hc, rfl⟩
  · rintro ⟨name, h, rfl⟩
    refine ⟨name, SortedMap.mem_keys.2 ?_, rfl⟩
    have hc := contains_ofTexts fields name
    rw [List.contains_iff_mem.2 h] at hc
    exact hc

/-- There are names if there are texts. -/
lemma isEmpty_names (fields : List String) : (names fields).isEmpty = fields.isEmpty := by
  cases fields with
  | nil => rfl
  | cons name fields =>
    have h : Value.str name ∈ names (name :: fields) :=
      mem_names.2 ⟨name, List.mem_cons_self, rfl⟩
    cases hn : names (name :: fields) with
    | nil =>
      rw [hn] at h
      cases h
    | cons v vs => rfl

end FieldSet

/-- A record is the record of its value. -/
lemma Session.rowOf_value (row : Row) : Session.rowOf row.value = .ok row :=
  congrArg Except.ok (SortedMap.ofList_entries row)

/-- What is shown of a record under a name. -/
lemma Row.get?_shown (row : Row) (fields : List String) (name : String) :
    (row.shown (.ofTexts fields)).get? name =
      if name = primaryKey ∧ primaryKey ∉ fields then none
      else (row.get? name).map Value.text := by
  rw [Row.shown, FieldSet.contains_ofTexts]
  by_cases h : primaryKey ∈ fields
  · rw [if_pos (List.contains_iff_mem.2 h), SortedMap.get?_map, if_neg fun hn => hn.2 h]
  · rw [if_neg (mt List.contains_iff_mem.1 h), SortedMap.get?_erase, SortedMap.get?_map]
    simp [h]

end CrudBench
