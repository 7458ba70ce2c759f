import CrudBench.Proofs.Store.Cell
import CrudBench.Proofs.Text.Numeral
import CrudBench.Smoke

/-!
# Plans of smoke checks

The keys of a plan are distinct, and none of them is empty. Its records come back as they were
written: no field of them is the key, and none already holds what an update writes.
-/

namespace CrudBench

namespace SmokePlan

variable (p : SmokePlan)

/-- There is a key for each record. -/
lemma length_keys : p.keys.length = p.records.toInt.toNat := by
  rw [keys, List.length_map, List.length_range]

/-- The keys are distinct, however many there are. -/
theorem nodup_keys : p.keys.Nodup := by
  refine List.pairwise_map.2 (List.nodup_range.imp fun {i j} hne heq => hne ?_)
  have ht := congrArg String.toList heq
  rw [String.toList_append, String.toList_append] at ht
  exact Text.paddedDecimal_injective 6 (String.toList_inj.1 (List.append_cancel_left ht))

/-- No key is empty. -/
lemma ne_empty_of_mem_keys {key : String} (h : key ∈ p.keys) : key ≠ "" := by
  obtain ⟨i, -, rfl⟩ := List.mem_map.1 h
  intro he
  have hnil := congrArg String.toList he
  simp only [Text.paddedDecimal, String.toList_append, String.toList_ofList, String.toList_empty,
    List.append_eq_nil_iff] at hnil
  exact Nat.toDigits_ne_nil hnil.2.2

/-- What the fields of a record are called and hold. -/
lemma mem_of_get?_values {name value : String} (h : p.values.get? name = some value) :
    ∃ i : Nat, name = "field" ++ Text.decimal i ∧ value = "value" ++ Text.decimal i := by
  rw [values, SortedMap.get?_ofList, List.lookup_eq_some_iff] at h
  obtain ⟨front, rest, hes, -⟩ := h
  have hm := List.mem_reverse.1 (hes ▸ List.mem_append_cons_self)
  obtain ⟨i, -, hi⟩ := List.mem_map.1 hm
  cases hi
  exact ⟨i, rfl, rfl⟩

/-- No field of a record is the key. -/
lemma get?_values_primaryKey : p.values.get? primaryKey = none := by
  rw [Option.eq_none_iff_forall_not_mem]
  intro value h
  obtain ⟨i, hname, -⟩ := p.mem_of_get?_values h
  have hhead := congrArg (fun s => s.toList.head?) hname
  simp [primaryKey] at hhead

/-- No field of a record holds what an update writes. -/
lemma get?_values_ne_updated (name : String) : p.values.get? name ≠ some "updated" := by
  intro h
  obtain ⟨i, -, hvalue⟩ := p.mem_of_get?_values h
  have hhead := congrArg (fun s => s.toList.head?) hvalue
  simp at hhead

/-- A record that was inserted is read as it was written. -/
lemma visible_stored (key : String) : (p.values.row.stored key).visible [] = p.values := by
  refine SortedMap.ext_get? fun name => ?_
  rw [Row.visible, SortedMap.get?_map, SortedMap.get?_filterKeys, Row.stored,
    SortedMap.get?_insert]
  by_cases hn : name = primaryKey
  · subst hn
    simp [Row.isVisible, p.get?_values_primaryKey]
  · simp only [Row.isVisible, List.isEmpty_nil, if_true, bne_iff_ne.2 hn, if_neg hn, Row.texts,
      Document.row, SortedMap.get?_map, Option.map_map]
    exact Option.map_id_apply

/-- What an update writes is new in a record that was inserted. -/
lemma revised_stored (key : String) :
    (p.values.row.stored key).revised update.row ≠ p.values.row.stored key := by
  intro h
  have hf := congrArg (fun row => (SortedMap.get? row "field0").map Value.text) h
  have hne : ¬"field0" = primaryKey := by decide
  simp only [Row.revised, SortedMap.get?_overlay, Row.stored, SortedMap.get?_insert, if_neg hne,
    Row.texts, Document.row, SortedMap.get?_map, Option.map_map] at hf
  refine p.get?_values_ne_updated "field0" ?_
  rw [← Option.map_id_apply (x := p.values.get? "field0")]
  exact hf.symm

/-- The fields that are read after an update. -/
def watchedFields : List String :=
  if 1 < p.fields.toInt then ["field0", "field1"] else ["field0"]

lemma watched_eq : p.watched = .ofTexts p.watchedFields := rfl

/-- What an update has written is among what is read afterwards. -/
lemma get?_visible_revised (row : Row) :
    ((row.revised update.row).visible p.watchedFields).get? "field0" = some "updated" := by
  have hv : Row.isVisible p.watchedFields "field0" = true := by
    rw [watchedFields]
    split <;> decide
  have hu : (update.row.texts.erase primaryKey).get? "field0" = some (.str "updated") := rfl
  rw [Row.visible, SortedMap.get?_map, SortedMap.get?_filterKeys, if_pos hv, Row.revised,
    SortedMap.get?_overlay, hu]
  rfl

/-- What inserting a record of the plan leaves in a cell. -/
def inserted (key : String) (cell : Option Row) : Option Row :=
  (Verb.onCell key cell (.insert p.values.row)).2

/-- What updating a record leaves in a cell. -/
def updated (key : String) (cell : Option Row) : Option Row :=
  (Verb.onCell key cell (.update update.row)).2

/-- Where there is nothing, what is left under a key of the plan is its record. -/
lemma inserted_none {key : String} (h : key ∈ p.keys) :
    p.inserted key none = some (p.values.row.stored key) := by
  rw [inserted, Verb.onCell, if_neg (p.ne_empty_of_mem_keys h)]

/-- An update leaves the revised record. -/
lemma updated_some (key : String) (row : Row) :
    updated key (some row) = some (row.revised update.row) := by
  rw [updated, Verb.onCell]
  split
  next h => rw [h]
  · rfl

end SmokePlan

end CrudBench
