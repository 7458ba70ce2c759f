import CrudBench.Proofs.Store.Conclusion

/-!
# The field of the primary key

A record stands under its key if its key field holds that key, as text. Plain requests keep this for
every record: an insertion writes the key into that field, whatever value comes for it, and an
update leaves it out (`Contents.leads_conclude`). They put nothing in under an empty key, and write
nothing but texts.
-/

namespace CrudBench

namespace Row

/-- The record holds its key, as text, in the field of the primary key. -/
def Keyed (key : String) (row : Row) : Prop := row.get? primaryKey = some (.str key)

/-- What a cell under a key holds, the first being what it held before. A record still holds its
key. Nothing came to stand under an empty key. What is no text stood in the same field before. -/
structure Leads (key : String) (old new : Option Row) : Prop where
  keyed : (∀ row ∈ old, row.Keyed key) → ∀ row ∈ new, row.Keyed key
  named : key = "" → new.isSome = true → old.isSome = true
  texts : ∀ row ∈ new, ∀ name v, row.get? name = some v →
    (∃ s, v = .str s) ∨ ∃ row' ∈ old, row'.get? name = some v

variable {key : String} {old new : Option Row}

lemma leads_refl (key : String) (cell : Option Row) : Leads key cell cell :=
  ⟨id, fun _ => id, fun row hrow _ _ h => .inr ⟨row, hrow, h⟩⟩

lemma Leads.trans {newer : Option Row} (h : Leads key old new) (h' : Leads key new newer) :
    Leads key old newer where
  keyed hold := h'.keyed (h.keyed hold)
  named hk hnewer := h.named hk (h'.named hk hnewer)
  texts row hrow name v hv := by
    rcases h'.texts row hrow name v hv with hs | ⟨row', hrow', hv'⟩
    · exact .inl hs
    · exact h.texts row' hrow' name v hv'

lemma leads_none (key : String) (old : Option Row) : Leads key old none :=
  ⟨fun _ _ h => (nomatch h), fun _ h => (nomatch h), fun _ h => (nomatch h)⟩

lemma keyed_stored (values : Row) (key : String) : (values.stored key).Keyed key := by
  rw [Keyed, stored, SortedMap.get?_insert, if_pos rfl]

lemma texts_stored {values : Row} {name : String} {v : Value}
    (h : (values.stored key).get? name = some v) : ∃ s, v = .str s := by
  rw [stored, SortedMap.get?_insert] at h
  split at h
  · cases h
    exact ⟨key, rfl⟩
  · rw [texts, SortedMap.get?_map] at h
    obtain ⟨v', -, rfl⟩ := Option.map_eq_some_iff.1 h
    exact ⟨v'.text, rfl⟩

/-- A revision leaves the key alone. -/
lemma get?_revised_primaryKey (row values : Row) :
    (row.revised values).get? primaryKey = row.get? primaryKey := by
  rw [revised, SortedMap.get?_overlay, SortedMap.get?_erase, if_pos rfl, Option.none_or]

/-- A revision writes texts only. -/
lemma texts_revised {row values : Row} {name : String} {v : Value}
    (h : (row.revised values).get? name = some v) :
    (∃ s, v = .str s) ∨ row.get? name = some v := by
  rw [revised, SortedMap.get?_overlay, SortedMap.get?_erase] at h
  rcases Option.or_eq_some_iff.1 h with h | ⟨-, h⟩
  · split at h
    · cases h
    · rw [texts, SortedMap.get?_map] at h
      obtain ⟨v', -, rfl⟩ := Option.map_eq_some_iff.1 h
      exact .inl ⟨v'.text, rfl⟩
  · exact .inr h

end Row

/-- An operation that reaches the store leads on from what the cell held. -/
lemma Verb.leads_conclude {key : String} {verb : Verb} (cell : Option Row)
    (h : ∀ values, verb = .insert values → key ≠ "") :
    Row.Leads key cell (verb.conclude key cell).2 := by
  cases verb with
  | read fields =>
    rw [conclude_read]
    exact Row.leads_refl key cell
  | insert values =>
    cases cell with
    | some row => exact Row.leads_refl key (some row)
    | none =>
      have hnew : (Verb.conclude key none (.insert values)).2 = some (values.stored key) := rfl
      rw [hnew]
      refine ⟨fun _ row hrow => ?_, fun hk => absurd hk (h values rfl),
        fun row hrow name v hv => ?_⟩
      · cases hrow
        exact Row.keyed_stored values key
      · cases hrow
        exact .inl (Row.texts_stored hv)
  | update values =>
    cases cell with
    | none => exact Row.leads_refl key none
    | some row =>
      simp only [Verb.conclude, Row.updateCell]
      split
      · exact Row.leads_refl key (some row)
      · refine ⟨fun hold row' hrow' => ?_, fun _ _ => rfl, fun row' hrow' name v hv => ?_⟩
        · cases hrow'
          exact (Row.get?_revised_primaryKey row values).trans (hold row rfl)
        · cases hrow'
          exact (Row.texts_revised hv).imp_right fun hv => ⟨row, rfl, hv⟩
  | delete => cases cell <;> exact Row.leads_none key _

lemma PointRequest.leads_cellAfter (r : PointRequest) (cell : Option Row) :
    Row.Leads r.key cell (r.cellAfter cell) := by
  cases h : (PlainRequest.point r).shortcut? with
  | some o =>
    rw [cellAfter, h]
    exact Row.leads_refl r.key cell
  | none =>
    rw [cellAfter, h]
    exact Verb.leads_conclude cell (named_of_shortcut h)

namespace Contents

variable {m m' : Contents}

/-- Every cell of the second contents leads on from the same cell of the first. -/
def Leads (m m' : Contents) : Prop := ∀ db t k, Row.Leads k (m.cell? db t k) (m'.cell? db t k)

lemma leads_refl (m : Contents) : m.Leads m := fun _ _ k => Row.leads_refl k _

lemma Leads.trans {m'' : Contents} (h : m.Leads m') (h' : m'.Leads m'') : m.Leads m'' :=
  fun db t k => (h db t k).trans (h' db t k)

lemma leads_ensure (m : Contents) (db t : String) : m.Leads (m.ensure db t) := by
  intro db' t' k
  rw [cell?_ensure]
  exact Row.leads_refl k _

lemma leads_setCell {db t k : String} {cell : Option Row}
    (h : Row.Leads k (m.cell? db t k) cell) : m.Leads (m.setCell db t k cell) := by
  intro db' t' k'
  by_cases he : db' = db ∧ t' = t ∧ k' = k
  · obtain ⟨rfl, rfl, rfl⟩ := he
    cases hc : m.at? db' t' with
    | none =>
      rw [setCell_of_none hc]
      exact Row.leads_refl k' _
    | some cells =>
      rw [cell?_setCell_self hc]
      exact h
  · rw [cell?_setCell_of_ne he]
    exact Row.leads_refl k' _

lemma leads_conclude (db : String) (m : Contents) (r : PlainRequest) :
    m.Leads (r.conclude db m).2 := by
  cases r with
  | point r =>
    rw [r.conclude_point]
    exact leads_setCell (r.leads_cellAfter _)
  | range t start count fields =>
    rw [PlainRequest.conclude_range]
    exact m.leads_refl

end Contents

/-! ## Databases -/

namespace Table

lemma mem_rows {es : List (Value × Entry)} {k : String} {row : Row} :
    (k, row) ∈ rows es ↔ (.str k, .row row) ∈ es := by
  rw [rows, List.mem_filterMap]
  constructor
  · rintro ⟨⟨key, e⟩, he, hrow⟩
    unfold row? at hrow
    split at hrow
    next heq =>
      cases heq
      cases hrow
      exact he
    · cases hrow
  · exact fun he => ⟨_, he, rfl⟩

/-- The entries of a table are records under texts; each is found by its text. -/
lemma mem_entries_iff {t : Table} {k : String} {row : Row} :
    (.str k, .row row) ∈ t.entries ↔ t.records.get? k = some row := by
  rw [records, SortedMap.get?_ofList, SortedMap.lookup_reverse (nodup_rows t.distinct), ← mem_rows]
  have hnodup := nodup_rows t.distinct
  -- no key comes up twice, so the entry that is found first is the only one
  generalize rows t.entries = es at hnodup ⊢
  induction es with
  | nil => simp
  | cons e es ih =>
    obtain ⟨j, row'⟩ := e
    obtain ⟨hnew, hnodup⟩ := List.nodup_cons.1 hnodup
    by_cases hk : k = j
    · subst hk
      have hnot : (k, row) ∉ es := fun hm => hnew (List.mem_map_of_mem (f := (·.1)) hm)
      simp [hnot, eq_comm]
    · have hb : (k == j) = false := by simpa using hk
      simp [List.lookup_cons, hb, hk, ih hnodup]

end Table

namespace Databases

variable {dbs dbs' : Databases}

/-- The record stands under this key of a table. -/
def HasRow (dbs : Databases) (db t k : String) (row : Row) : Prop :=
  ∃ content, dbs.table? db t = some content ∧ (.str k, .row row) ∈ content.entries

/-- Every entry of every table is a record, and stands under the text that it holds in the field of
the primary key. -/
def Keyed (dbs : Databases) : Prop :=
  ∀ db t content, dbs.table? db t = some content → ∀ e ∈ content.entries,
    ∃ k row, e = (.str k, .row row) ∧ row.get? primaryKey = some (.str k)

/-- What became of databases with records under their keys. The records still stand under their
keys. Under an empty key there is a record only if there was one before. What is no text stood in
the same field of the same record before. -/
structure LeadsTo (dbs dbs' : Databases) : Prop where
  keyed : dbs'.Keyed
  named : ∀ db t row, dbs'.HasRow db t "" row → ∃ row', dbs.HasRow db t "" row'
  texts : ∀ db t k row name v, dbs'.HasRow db t k row → row.get? name = some v →
    (∃ s, v = .str s) ∨ ∃ row', dbs.HasRow db t k row' ∧ row'.get? name = some v

lemma Keyed.recorded (h : dbs.Keyed) : dbs.Recorded := by
  intro db t content hc e he
  obtain ⟨k, row, rfl, -⟩ := h db t content hc e he
  exact ⟨k, row, rfl⟩

lemma hasRow_iff {db t k : String} {row : Row} :
    dbs.HasRow db t k row ↔ dbs.records.cell? db t k = some row := by
  rw [Contents.cell?, at?_records, Option.bind_eq_some_iff]
  constructor
  · rintro ⟨content, hc, he⟩
    exact ⟨content.records, by rw [hc]; rfl, Table.mem_entries_iff.1 he⟩
  · rintro ⟨cells, hcells, hk⟩
    obtain ⟨content, hc, rfl⟩ := Option.map_eq_some_iff.1 hcells
    exact ⟨content, hc, Table.mem_entries_iff.2 hk⟩

lemma Recorded.keyed_iff (h : dbs.Recorded) :
    dbs.Keyed ↔ ∀ db t k, ∀ row ∈ dbs.records.cell? db t k, row.Keyed k := by
  constructor
  · intro hk db t k row hrow
    obtain ⟨content, hc, he⟩ := hasRow_iff.2 hrow
    obtain ⟨k', row', he', hkey⟩ := hk db t content hc _ he
    cases he'
    exact hkey
  · intro hk db t content hc e he
    obtain ⟨k, row, rfl⟩ := h db t content hc e he
    exact ⟨k, row, rfl, hk db t k row (hasRow_iff.1 ⟨content, hc, he⟩)⟩

/-- In databases with records under their keys, what a table holds stands under its key. -/
lemma Keyed.of_get? (h : dbs.Keyed) {db t : String} {cells : SortedMap Row}
    (hc : dbs.records.at? db t = some cells) {k : String} {row : Row}
    (hk : cells.get? k = some row) : row.Keyed k := by
  refine h.recorded.keyed_iff.1 h db t k row ?_
  rw [Contents.cell?_of_some hc, hk]
  rfl

/-- Databases that hold one record hold it under its key, if it does. -/
lemma keyed_single (db t : String) {k : String} {row : Row} (h : row.Keyed k) :
    (single db t k row).Keyed := by
  intro db' t' content hc e he
  rw [single, table?_putTable] at hc
  split at hc
  · cases hc
    rcases Table.mem_putEntry he with rfl | he
    · exact ⟨k, row, rfl, h⟩
    · cases he
  · cases hc

/-- Where the contents lead on, the databases do. -/
lemma Keyed.leadsTo (h : dbs.Keyed) (hr : dbs'.Recorded) (hl : dbs.records.Leads dbs'.records) :
    dbs.LeadsTo dbs' where
  keyed := hr.keyed_iff.2 fun db t k =>
    (hl db t k).keyed (h.recorded.keyed_iff.1 h db t k)
  named db t row hrow := by
    have hsome := (hl db t "").named rfl (by rw [hasRow_iff.1 hrow]; rfl)
    obtain ⟨row', hrow'⟩ := Option.isSome_iff_exists.1 hsome
    exact ⟨row', hasRow_iff.2 hrow'⟩
  texts db t k row name v hrow hv := by
    refine ((hl db t k).texts row (hasRow_iff.1 hrow) name v hv).imp_right ?_
    rintro ⟨row', hrow', hv'⟩
    exact ⟨row', hasRow_iff.2 hrow', hv'⟩

end Databases

end CrudBench
