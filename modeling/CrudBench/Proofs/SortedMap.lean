import CrudBench.Data.SortedMap
import Mathlib.Tactic.Lemma

/-!
# Look-ups in sorted maps

What is found in a map that was built from others: in a map of a list the last entry under a key
counts, and mapping, filtering, and setting or clearing keys are what they are at each key. A map is
the map of its own entries (`ofList_entries`).
-/

namespace CrudBench.SortedMap

variable {α : Type u} {β : Type v}

/-- A mapped map holds the images of what was held. -/
lemma get?_map (f : α → β) (m : SortedMap α) (k : String) :
    (m.map f).get? k = (m.get? k).map f := by
  obtain ⟨es, asc⟩ := m
  show (es.map fun e => (e.1, f e.2)).lookup k = (es.lookup k).map f
  clear asc
  induction es with
  | nil => rfl
  | cons e es ih =>
    obtain ⟨j, a⟩ := e
    cases h : k == j <;> simp [List.lookup_cons, h, ih]

/-- A key is listed where something is found under it. -/
lemma mem_keys {m : SortedMap α} {k : String} : k ∈ m.keys ↔ m.contains k = true := by
  rw [contains, Option.isSome_iff_exists]
  constructor
  · intro h
    obtain ⟨e, he, rfl⟩ := List.mem_map.1 h
    exact ⟨e.2, get?_eq_some_iff_mem.2 he⟩
  · rintro ⟨a, h⟩
    exact List.mem_map_of_mem (f := (·.1)) (get?_eq_some_iff_mem.1 h)

/-- Of the entries that are put in, the last under a key counts; what was there before is found
under every other key. -/
lemma get?_insertMany (es : List (String × α)) (m : SortedMap α) (k : String) :
    (m.insertMany es).get? k = (es.reverse.lookup k).or (m.get? k) := by
  induction es generalizing m with
  | nil => simp [insertMany]
  | cons e es ih =>
    obtain ⟨j, a⟩ := e
    have h := ih (m.insert j a)
    simp only [insertMany, List.foldl_cons] at h ⊢
    rw [h, get?_insert, List.reverse_cons, List.lookup_append, Option.or_assoc]
    by_cases hk : k = j
    · simp [hk]
    · have hb : (k == j) = false := by simpa using hk
      simp [List.lookup_cons, hb, hk]

/-- In a map of a list the last entry under a key counts. -/
lemma get?_ofList (es : List (String × α)) (k : String) :
    (ofList es).get? k = es.reverse.lookup k := by
  simp [ofList, get?_insertMany]

/-- A map of a list holds exactly the keys of the list. -/
lemma contains_ofList (es : List (String × α)) (k : String) :
    (ofList es).contains k = true ↔ k ∈ es.map (·.1) := by
  rw [contains, get?_ofList, List.lookup_isSome_iff]
  constructor
  · rintro ⟨e, he, hk⟩
    rw [eq_of_beq hk]
    exact List.mem_map_of_mem (List.mem_reverse.1 he)
  · intro h
    obtain ⟨e, he, rfl⟩ := List.mem_map.1 h
    exact ⟨e, List.mem_reverse.2 he, beq_self_eq_true e.1⟩

/-- If no key comes up twice, the first entry under a key is the last. -/
lemma lookup_reverse {es : List (String × α)} (h : (es.map (·.1)).Nodup) (k : String) :
    es.reverse.lookup k = es.lookup k := by
  induction es with
  | nil => rfl
  | cons e es ih =>
    obtain ⟨j, a⟩ := e
    have hn := List.nodup_cons.1 h
    rw [List.reverse_cons, List.lookup_append, ih hn.2]
    by_cases hk : k = j
    · -- the key does not come up again, so nothing stands behind it in the reversed list
      subst hk
      have hnone : es.lookup k = none := by
        rw [List.lookup_eq_none_iff]
        intro p hp
        have : k ≠ p.1 := fun he => hn.1 (he ▸ List.mem_map_of_mem (f := (·.1)) hp)
        simpa using this
      simp [hnone]
    · have hb : (k == j) = false := by simpa using hk
      simp [List.lookup_cons, hb]

/-- The keys of a map are distinct. -/
lemma nodup_keys (m : SortedMap α) : (m.entries.map (·.1)).Nodup :=
  List.pairwise_map.2 (m.ascending.imp fun {a b} (h : a.1 < b.1) (he : a.1 = b.1) =>
    String.lt_irrefl b.1 (he ▸ h))

/-- A map is the map of its own entries. -/
lemma ofList_entries (m : SortedMap α) : ofList m.entries = m :=
  ext_get? fun k => by rw [get?_ofList, lookup_reverse m.nodup_keys]; rfl

/-- What the second of two maps holds wins over what the first holds. -/
lemma get?_overlay (m n : SortedMap α) (k : String) :
    (m.overlay n).get? k = (n.get? k).or (m.get? k) := by
  rw [overlay, get?_insertMany, lookup_reverse n.nodup_keys]; rfl

/-- Putting back what is there changes nothing. -/
lemma insert_self {m : SortedMap α} {k : String} {a : α} (h : m.get? k = some a) :
    m.insert k a = m :=
  ext_get? fun j => by
    rw [get?_insert]
    split
    next e => rw [e, h]
    · rfl

/-- The map with this under a key, or nothing. -/
def set (m : SortedMap α) (k : String) : Option α → SortedMap α
  | some a => m.insert k a
  | none => m.erase k

/-- Setting a key changes the look-up of that key only. -/
lemma get?_set (m : SortedMap α) (k j : String) (x : Option α) :
    (m.set k x).get? j = if j = k then x else m.get? j := by
  cases x with
  | some a => exact get?_insert m k j a
  | none => exact get?_erase m k j

/-- Setting a key to what it holds changes nothing. -/
lemma set_self (m : SortedMap α) (k : String) : m.set k (m.get? k) = m :=
  ext_get? fun j => by
    rw [get?_set]
    split
    next e => rw [e]
    · rfl

/-- Inserting commutes with mapping. -/
lemma map_insert (f : α → β) (m : SortedMap α) (k : String) (a : α) :
    (m.insert k a).map f = (m.map f).insert k (f a) :=
  ext_get? fun j => by
    rw [get?_map, get?_insert, get?_insert, get?_map]
    split <;> rfl

/-- The keys are in strictly ascending order. -/
lemma pairwise_keys (m : SortedMap α) : m.keys.Pairwise (· < ·) := List.pairwise_map.2 m.ascending

/-- Putting in mapped entries is mapping what they were put into. -/
lemma map_insertMany (f : α → β) (es : List (String × α)) (m : SortedMap α) :
    (m.insertMany es).map f = (m.map f).insertMany (es.map fun e => (e.1, f e.2)) := by
  induction es generalizing m with
  | nil => rfl
  | cons e es ih =>
    have h := ih (m.insert e.1 e.2)
    rw [map_insert] at h
    exact h

/-- Setting a key commutes with mapping. -/
lemma map_set (f : α → β) (m : SortedMap α) (k : String) (x : Option α) :
    (m.set k x).map f = (m.map f).set k (x.map f) :=
  ext_get? fun j => by
    rw [get?_map, get?_set, get?_set, get?_map]
    split <;> rfl

/-! ## Parts of maps -/

/-- The entries from a key on. -/
def startingAt (m : SortedMap α) (low : String) : SortedMap α :=
  m.filterKeys fun k => decide (low ≤ k)

/-- The keys from a key on are the keys that are not below it. -/
lemma mem_keys_startingAt {m : SortedMap α} {low k : String} :
    k ∈ (m.startingAt low).keys ↔ low ≤ k ∧ m.contains k = true := by
  rw [mem_keys, contains, startingAt, get?_filterKeys, contains]
  by_cases h : low ≤ k <;> simp [h]

/-- The entries from a key on are mapped one by one. -/
lemma entries_startingAt_map (f : α → β) (m : SortedMap α) (low : String) :
    ((m.map f).startingAt low).entries =
      (m.startingAt low).entries.map fun e => (e.1, f e.2) := List.filter_map

/-- The map without some keys. -/
def without (m : SortedMap α) (ks : List String) : SortedMap α :=
  m.filterKeys fun k => !ks.contains k

/-! ## Changing several keys -/

/-- Changes what is held under some keys, one after the other. -/
def alter (f : String → Option α → Option α) (m : SortedMap α) (ks : List String) : SortedMap α :=
  ks.foldl (fun m k => m.set k (f k (m.get? k))) m

/-- If no key comes up twice, each is changed from what was held before. -/
lemma get?_alter (f : String → Option α → Option α) (m : SortedMap α) {ks : List String}
    (h : ks.Nodup) (k : String) :
    (m.alter f ks).get? k = if k ∈ ks then f k (m.get? k) else m.get? k := by
  induction ks generalizing m with
  | nil => rfl
  | cons j ks ih =>
    obtain ⟨hj, hks⟩ := List.nodup_cons.1 h
    have hcons : m.alter f (j :: ks) = (m.set j (f j (m.get? j))).alter f ks := rfl
    rw [hcons, ih _ hks, get?_set]
    by_cases hk : k = j
    · subst hk
      simp [hj]
    · simp [hk]

/-- Changing nothing leaves the map as it is. -/
lemma alter_keep (m : SortedMap α) (ks : List String) : m.alter (fun _ x => x) ks = m := by
  induction ks with
  | nil => rfl
  | cons k ks ih =>
    have hcons : m.alter (fun _ x => x) (k :: ks) =
        (m.set k (m.get? k)).alter (fun _ x => x) ks := rfl
    rw [hcons, set_self, ih]

/-! ## Maps of maps -/

/-- What is found under two keys, one after the other. -/
def at? (m : SortedMap (SortedMap α)) (j k : String) : Option α := m.get? j >>= (·.get? k)

/-- The map of maps with this under two keys. -/
def putAt (m : SortedMap (SortedMap α)) (j k : String) (a : α) : SortedMap (SortedMap α) :=
  m.insert j (((m.get? j).getD .empty).insert k a)

/-- Putting something in changes what is found under its two keys only. -/
lemma at?_putAt (m : SortedMap (SortedMap α)) (j k j' k' : String) (a : α) :
    (m.putAt j k a).at? j' k' = if j' = j ∧ k' = k then some a else m.at? j' k' := by
  rw [at?, putAt, get?_insert]
  by_cases hj : j' = j
  · subst hj
    have h := get?_insert ((m.get? j').getD .empty) k k' a
    cases hm : m.get? j' <;> by_cases hk : k' = k <;> simp_all [at?]
  · simp [hj, at?]

/-- What is found where something was put in. -/
lemma at?_putAt_self (m : SortedMap (SortedMap α)) (j k : String) (a : α) :
    (m.putAt j k a).at? j k = some a := by rw [at?_putAt, if_pos ⟨rfl, rfl⟩]

/-- Putting something in twice is putting it in once. -/
lemma putAt_putAt (m : SortedMap (SortedMap α)) (j k : String) (a b : α) :
    (m.putAt j k a).putAt j k b = m.putAt j k b := by
  refine ext_get? fun i => ?_
  simp only [putAt, get?_insert, if_true, Option.getD_some]
  split
  · exact congrArg some (ext_get? fun i => by simp only [get?_insert]; split <;> rfl)
  · rfl

/-- Putting back what is there changes nothing. -/
lemma putAt_self {m : SortedMap (SortedMap α)} {j k : String} {a : α} (h : m.at? j k = some a) :
    m.putAt j k a = m := by
  obtain ⟨n, hn, hk⟩ := Option.bind_eq_some_iff.1 h
  rw [putAt, hn, Option.getD_some, insert_self hk, insert_self hn]

/-- Putting back a map with one key set to what it holds changes nothing. -/
lemma putAt_set_self {m : SortedMap (SortedMap (SortedMap α))} {j k : String} {n : SortedMap α}
    (h : m.at? j k = some n) (i : String) : m.putAt j k (n.set i (n.get? i)) = m := by
  rw [set_self, putAt_self h]

/-- An empty map that is put in before does not matter. -/
lemma putAt_insert_empty {m : SortedMap (SortedMap α)} {j : String} (h : m.get? j = none)
    (k : String) (a : α) : (m.insert j .empty).putAt j k a = m.putAt j k a := by
  refine ext_get? fun i => ?_
  simp only [putAt, get?_insert, if_true, h]
  split <;> rfl

/-- What is found in a map of mapped maps. -/
lemma at?_map (f : α → β) (m : SortedMap (SortedMap α)) (j k : String) :
    (m.map (·.map f)).at? j k = (m.at? j k).map f := by
  rw [at?, at?, get?_map]
  cases m.get? j with
  | none => rfl
  | some n => exact get?_map f n k

/-- Putting something in commutes with mapping. -/
lemma map_putAt (f : α → β) (m : SortedMap (SortedMap α)) (j k : String) (a : α) :
    (m.putAt j k a).map (·.map f) = (m.map (·.map f)).putAt j k (f a) := by
  rw [putAt, putAt, map_insert, map_insert, get?_map]
  cases m.get? j <;> rfl

end CrudBench.SortedMap
