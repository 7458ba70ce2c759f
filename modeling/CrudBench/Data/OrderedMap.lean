/-!
# Ordered maps

Finite maps from texts that list their keys in the order in which they were first put in. Writing to
a key that is present keeps its place.
-/

namespace CrudBench

/-- A finite map from texts, as its entries in the order of first insertion. -/
@[ext]
structure OrderedMap (α : Type u) where
  entries : List (String × α)
  distinct : (entries.map (·.1)).Nodup

namespace OrderedMap

variable {α : Type u} {β : Type v}

instance [DecidableEq α] : DecidableEq (OrderedMap α) := fun a b =>
  decidable_of_iff (a.entries = b.entries) (by cases a; cases b; simp)

/-- The map without entries. -/
def empty : OrderedMap α := ⟨[], .nil⟩

instance : EmptyCollection (OrderedMap α) := ⟨empty⟩

instance : Inhabited (OrderedMap α) := ⟨empty⟩

/-- The value under a key. -/
def get? (m : OrderedMap α) (k : String) : Option α := m.entries.lookup k

/-- There is a value under the key. -/
def contains (m : OrderedMap α) (k : String) : Bool := (m.get? k).isSome

/-- The keys in the order of first insertion. -/
def keys (m : OrderedMap α) : List String := m.entries.map (·.1)

/-- Replaces the value under a key in its place, or puts it at the end. -/
def putEntry (k : String) (v : α) : List (String × α) → List (String × α)
  | [] => [(k, v)]
  | e :: es => if k = e.1 then (k, v) :: es else e :: putEntry k v es

/-- Putting an entry in adds its key and no other. -/
theorem mem_keys_putEntry {k j : String} {v : α} {es : List (String × α)} :
    j ∈ (putEntry k v es).map (·.1) ↔ j = k ∨ j ∈ es.map (·.1) := by
  induction es with
  | nil => simp [putEntry]
  | cons e es ih =>
    rw [putEntry]
    split
    next h => simp [h]
    · simp only [List.map_cons, List.mem_cons, ih]
      exact ⟨fun h => by rcases h with h | h | h <;> simp [h],
        fun h => by rcases h with h | h | h <;> simp [h]⟩

/-- Putting an entry in keeps the keys distinct. -/
theorem nodup_putEntry (k : String) (v : α) {es : List (String × α)}
    (h : (es.map (·.1)).Nodup) : ((putEntry k v es).map (·.1)).Nodup := by
  induction es with
  | nil => simp [putEntry]
  | cons e es ih =>
    have he := List.nodup_cons.1 h
    rw [putEntry]
    split
    next heq => exact List.nodup_cons.2 ⟨heq ▸ he.1, he.2⟩
    next hne =>
      refine List.nodup_cons.2 ⟨fun hm => ?_, ih he.2⟩
      rcases mem_keys_putEntry.1 hm with hm | hm
      · exact hne hm.symm
      · exact he.1 hm

/-- The map with this value under this key. A new key comes last, an old one keeps its place. -/
def insert (m : OrderedMap α) (k : String) (v : α) : OrderedMap α :=
  ⟨putEntry k v m.entries, nodup_putEntry k v m.distinct⟩

/-- The map without a key. -/
def erase (m : OrderedMap α) (k : String) : OrderedMap α :=
  ⟨m.entries.filter (fun e => e.1 != k),
    m.distinct.sublist (List.filter_sublist.map _)⟩

/-- Applies a function to every entry, which keeps its key and its place. -/
def mapWithKey (f : String → α → β) (m : OrderedMap α) : OrderedMap β :=
  ⟨m.entries.map fun e => (e.1, f e.1 e.2), by simpa [Function.comp_def] using m.distinct⟩

/-- The map with all of these entries put in, one after the other. -/
def insertMany (m : OrderedMap α) (es : List (String × α)) : OrderedMap α :=
  es.foldl (fun m e => m.insert e.1 e.2) m

/-- The map of these entries. -/
def ofList (es : List (String × α)) : OrderedMap α := empty.insertMany es

/-! ## Look-ups -/

/-- The map without entries has no values. -/
@[simp]
theorem get?_empty (k : String) : (empty : OrderedMap α).get? k = none := rfl

/-- An entry that was put in is found under its key, and nothing else changes. -/
theorem lookup_putEntry (k j : String) (v : α) (es : List (String × α)) :
    (putEntry k v es).lookup j = if j = k then some v else es.lookup j := by
  induction es with
  | nil =>
    by_cases h : j = k
    · simp [putEntry, h]
    · have hb : (j == k) = false := by simpa using h
      simp [putEntry, List.lookup_cons, hb, h]
  | cons e es ih =>
    obtain ⟨e₁, e₂⟩ := e
    rw [putEntry]
    split
    next heq =>
      simp only at heq
      subst heq
      by_cases h : j = k
      · simp [h]
      · have hb : (j == k) = false := by simpa using h
        simp [List.lookup_cons, hb, h]
    next hne =>
      by_cases h : j = k
      · subst h
        have hb : (j == e₁) = false := by simpa using hne
        simp [List.lookup_cons, hb, ih]
      · simp only [List.lookup_cons, ih, h, if_false]

/-- Inserting changes the look-up of its key only. -/
theorem get?_insert (m : OrderedMap α) (k j : String) (v : α) :
    (m.insert k v).get? j = if j = k then some v else m.get? j :=
  lookup_putEntry k j v m.entries

/-- A write to a key that is present leaves the order of the keys as it was. -/
theorem keys_putEntry_of_mem {k : String} {v : α} {es : List (String × α)}
    (h : k ∈ es.map (·.1)) : (putEntry k v es).map (·.1) = es.map (·.1) := by
  induction es with
  | nil => simp at h
  | cons e es ih =>
    rw [putEntry]
    split
    next heq => simp [heq]
    next hne =>
      have : k ∈ es.map (·.1) := by simpa [hne] using h
      simp [ih this]

/-- A new key comes last. -/
theorem keys_putEntry_of_not_mem {k : String} {v : α} {es : List (String × α)}
    (h : k ∉ es.map (·.1)) : (putEntry k v es).map (·.1) = es.map (·.1) ++ [k] := by
  induction es with
  | nil => simp [putEntry]
  | cons e es ih =>
    have hne : k ≠ e.1 := fun hk => h (by simp [hk])
    have hm : k ∉ es.map (·.1) := fun hk => h (List.mem_cons_of_mem _ hk)
    rw [putEntry, if_neg hne]
    simp [ih hm]

end OrderedMap

end CrudBench
