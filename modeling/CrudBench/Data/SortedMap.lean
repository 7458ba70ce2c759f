/-!
# Sorted maps

Finite maps from texts that keep their keys in ascending order. Two such maps with the same look-ups
are equal (`SortedMap.ext_get?`), so equality of stores is equality of their contents.
-/

namespace CrudBench

/-- A finite map from texts, as its entries in strictly ascending order of the keys. -/
structure SortedMap (α : Type u) where
  entries : List (String × α)
  ascending : entries.Pairwise fun a b => a.1 < b.1

namespace SortedMap

variable {α : Type u} {β : Type v}

instance [DecidableEq α] : DecidableEq (SortedMap α) := fun a b =>
  decidable_of_iff (a.entries = b.entries) (by cases a; cases b; simp)

/-- The map without entries. -/
def empty : SortedMap α := ⟨[], .nil⟩

instance : EmptyCollection (SortedMap α) := ⟨empty⟩

instance : Inhabited (SortedMap α) := ⟨empty⟩

/-- The value under a key. -/
def get? (m : SortedMap α) (k : String) : Option α := m.entries.lookup k

/-- There is a value under the key. -/
def contains (m : SortedMap α) (k : String) : Bool := (m.get? k).isSome

/-- The keys in ascending order. -/
def keys (m : SortedMap α) : List String := m.entries.map (·.1)

/-- Puts an entry where it belongs among entries in ascending order. -/
def insertEntry (k : String) (v : α) : List (String × α) → List (String × α)
  | [] => [(k, v)]
  | e :: es =>
    if k < e.1 then (k, v) :: e :: es
    else if k = e.1 then (k, v) :: es
    else e :: insertEntry k v es

/-- Putting an entry in adds nothing else. -/
theorem mem_insertEntry {k : String} {v : α} {es : List (String × α)} {x : String × α}
    (h : x ∈ insertEntry k v es) : x = (k, v) ∨ x ∈ es := by
  induction es with
  | nil => simpa [insertEntry] using h
  | cons e es ih =>
    rw [insertEntry] at h
    split at h
    · simpa using h
    · split at h
      · rcases List.mem_cons.1 h with h | h
        · exact .inl h
        · exact .inr (List.mem_cons_of_mem _ h)
      · rcases List.mem_cons.1 h with h | h
        · exact .inr (h ▸ List.mem_cons_self)
        · exact (ih h).imp_right (List.mem_cons_of_mem _)

/-- Of two different texts, the second is the smaller one unless the first is. -/
theorem lt_of_not_lt_of_ne {a b : String} (h : ¬a < b) (hne : a ≠ b) : b < a := by
  rcases String.le_total a b with hab | hba
  · exact absurd (String.le_antisymm hab (String.not_lt.1 h)) hne
  · exact String.not_le.1 fun hab => hne (String.le_antisymm hab hba)

/-- Putting an entry in keeps the order. -/
theorem pairwise_insertEntry (k : String) (v : α) {es : List (String × α)}
    (h : es.Pairwise fun a b => a.1 < b.1) :
    (insertEntry k v es).Pairwise fun a b => a.1 < b.1 := by
  induction es with
  | nil => simp [insertEntry]
  | cons e es ih =>
    have he := List.pairwise_cons.1 h
    rw [insertEntry]
    split
    next hlt =>
      refine List.pairwise_cons.2 ⟨fun x hx => ?_, h⟩
      rcases List.mem_cons.1 hx with rfl | hx
      · exact hlt
      · exact String.lt_trans hlt (he.1 x hx)
    next hlt =>
      split
      next heq => exact List.pairwise_cons.2 ⟨fun x hx => heq ▸ he.1 x hx, he.2⟩
      next hne =>
        refine List.pairwise_cons.2 ⟨fun x hx => ?_, ih he.2⟩
        rcases mem_insertEntry hx with rfl | hx
        · exact lt_of_not_lt_of_ne hlt hne
        · exact he.1 x hx

/-- The map with this value under this key, whatever was there before. -/
def insert (m : SortedMap α) (k : String) (v : α) : SortedMap α :=
  ⟨insertEntry k v m.entries, pairwise_insertEntry k v m.ascending⟩

/-- The entries whose key satisfies a test. -/
def filterKeys (p : String → Bool) (m : SortedMap α) : SortedMap α :=
  ⟨m.entries.filter (fun e => p e.1), m.ascending.filter _⟩

/-- The map without a key. -/
def erase (m : SortedMap α) (k : String) : SortedMap α := m.filterKeys (· != k)

/-- Applies a function to every entry, which keeps its key. -/
def mapWithKey (f : String → α → β) (m : SortedMap α) : SortedMap β :=
  ⟨m.entries.map fun e => (e.1, f e.1 e.2), List.pairwise_map.2 m.ascending⟩

/-- Applies a function to every value. -/
def map (f : α → β) (m : SortedMap α) : SortedMap β := m.mapWithKey fun _ => f

/-- The map with all of these entries; of several under one key the last counts. -/
def insertMany (m : SortedMap α) (es : List (String × α)) : SortedMap α :=
  es.foldl (fun m e => m.insert e.1 e.2) m

/-- The map of these entries; of several under one key the last counts. -/
def ofList (es : List (String × α)) : SortedMap α := empty.insertMany es

/-- The first map, overlaid with the second. -/
def overlay (m n : SortedMap α) : SortedMap α := m.insertMany n.entries

/-! ## Look-ups -/

/-- An entry that was put in is found under its key, and nothing else changes. -/
theorem lookup_insertEntry (k j : String) (v : α) (es : List (String × α)) :
    (insertEntry k v es).lookup j = if j = k then some v else es.lookup j := by
  induction es with
  | nil =>
    by_cases h : j = k
    · simp [insertEntry, h]
    · have hb : (j == k) = false := by simpa using h
      simp [insertEntry, List.lookup_cons, hb, h]
  | cons e es ih =>
    obtain ⟨e₁, e₂⟩ := e
    by_cases h : j = k
    · subst h
      rw [insertEntry]
      split
      · simp
      · split
        · simp
        next hne =>
          have hb : (j == e₁) = false := by simpa using hne
          simp [List.lookup_cons, hb, ih]
    · have hb : (j == k) = false := by simpa using h
      rw [insertEntry]
      split
      · simp [List.lookup_cons, hb]
      · split
        next heq =>
          simp only at heq
          subst heq
          simp [List.lookup_cons, hb]
        · simp only [List.lookup_cons, ih, h, if_false]

/-- The map without entries has no values. -/
@[simp]
theorem get?_empty (k : String) : (empty : SortedMap α).get? k = none := rfl

/-- Inserting changes the look-up of its key only. -/
theorem get?_insert (m : SortedMap α) (k j : String) (v : α) :
    (m.insert k v).get? j = if j = k then some v else m.get? j :=
  lookup_insertEntry k j v m.entries

/-- What is filtered by its key is found unless its key fails the test. -/
theorem lookup_filterKeys (p : String → Bool) (j : String) (es : List (String × α)) :
    (es.filter fun e => p e.1).lookup j = if p j then es.lookup j else none := by
  induction es with
  | nil => simp
  | cons e es ih =>
    obtain ⟨e₁, e₂⟩ := e
    by_cases hj : j = e₁
    · subst hj
      cases hp : p j <;> simp [hp, ih]
    · have hb : (j == e₁) = false := by simpa using hj
      cases hp : p e₁ <;> simp [hp, ih, List.lookup_cons, hb]

/-- Filtering by keys is filtering of look-ups. -/
theorem get?_filterKeys (p : String → Bool) (m : SortedMap α) (j : String) :
    (m.filterKeys p).get? j = if p j then m.get? j else none :=
  lookup_filterKeys p j m.entries

/-- Erasing changes the look-up of its key only. -/
theorem get?_erase (m : SortedMap α) (k j : String) :
    (m.erase k).get? j = if j = k then none else m.get? j := by
  by_cases h : j = k <;> simp [erase, get?_filterKeys, h]

/-- In ascending order a value is found exactly where there is an entry. -/
theorem lookup_eq_some_iff_mem {es : List (String × α)}
    (h : es.Pairwise fun a b => a.1 < b.1) {k : String} {v : α} :
    es.lookup k = some v ↔ (k, v) ∈ es := by
  induction es with
  | nil => simp
  | cons e es ih =>
    obtain ⟨e₁, e₂⟩ := e
    have he := List.pairwise_cons.1 h
    by_cases hk : k = e₁
    · subst hk
      have hnot : (k, v) ∉ es := fun hm => String.lt_irrefl k (he.1 _ hm)
      simp [hnot, eq_comm]
    · have hb : (k == e₁) = false := by simpa using hk
      simp [List.lookup_cons, hb, ih he.2, hk]

/-- A value is found exactly where there is an entry. -/
theorem get?_eq_some_iff_mem {m : SortedMap α} {k : String} {v : α} :
    m.get? k = some v ↔ (k, v) ∈ m.entries :=
  lookup_eq_some_iff_mem m.ascending

/-- Sorted lists of entries with the same members are equal. -/
theorem eq_of_mem_iff {es fs : List (String × α)} (he : es.Pairwise fun a b => a.1 < b.1)
    (hf : fs.Pairwise fun a b => a.1 < b.1) (h : ∀ x, x ∈ es ↔ x ∈ fs) : es = fs := by
  induction es generalizing fs with
  | nil =>
    cases fs with
    | nil => rfl
    | cons f fs => exact absurd ((h f).2 List.mem_cons_self) (by simp)
  | cons e es ih =>
    cases fs with
    | nil => exact absurd ((h e).1 List.mem_cons_self) (by simp)
    | cons f fs =>
      have he' := List.pairwise_cons.1 he
      have hf' := List.pairwise_cons.1 hf
      have hhead : e = f := by
        rcases List.mem_cons.1 ((h e).1 List.mem_cons_self) with hef | hef
        · exact hef
        · rcases List.mem_cons.1 ((h f).2 List.mem_cons_self) with hfe | hfe
          · exact hfe.symm
          · exact absurd (he'.1 f hfe) (String.lt_asymm (hf'.1 e hef))
      subst hhead
      refine congrArg (e :: ·) (ih he'.2 hf'.2 fun x => ?_)
      constructor
      · intro hx
        rcases List.mem_cons.1 ((h x).1 (List.mem_cons_of_mem _ hx)) with rfl | hx'
        · exact absurd (he'.1 x hx) (String.lt_irrefl x.1)
        · exact hx'
      · intro hx
        rcases List.mem_cons.1 ((h x).2 (List.mem_cons_of_mem _ hx)) with rfl | hx'
        · exact absurd (hf'.1 x hx) (String.lt_irrefl x.1)
        · exact hx'

/-- Maps with the same look-ups are equal. -/
theorem ext_get? {m n : SortedMap α} (h : ∀ k, m.get? k = n.get? k) : m = n := by
  have : m.entries = n.entries := by
    refine eq_of_mem_iff m.ascending n.ascending fun x => ?_
    rw [← get?_eq_some_iff_mem (m := m), ← get?_eq_some_iff_mem (m := n), h]
  cases m
  cases n
  simpa using this

end SortedMap

end CrudBench
