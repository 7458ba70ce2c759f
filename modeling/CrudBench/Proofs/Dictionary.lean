import CrudBench.Proofs.SortedMap
import CrudBench.Settings.Properties

/-!
# Look-ups in dictionaries

What stands under texts in a dictionary is found in the map of its texts as well
(`Dictionary.get?_named`). Where all names are texts (`Dictionary.Named`), nothing is complained
about, and all there is is found by texts. Of properties that are set one after the other the last
under a text counts.
-/

namespace CrudBench

/-- Inserting commutes with applying a function to every entry. -/
lemma OrderedMap.mapWithKey_insert {α : Type u} {β : Type v} (f : String → α → β) (m : OrderedMap α)
    (k : String) (a : α) : (m.insert k a).mapWithKey f = (m.mapWithKey f).insert k (f k a) := by
  refine OrderedMap.ext ?_
  show (putEntry k a m.entries).map (fun e => (e.1, f e.1 e.2)) =
    putEntry k (f k a) (m.entries.map fun e => (e.1, f e.1 e.2))
  induction m.entries with
  | nil => rfl
  | cons e es ih =>
    rw [putEntry, List.map_cons, putEntry]
    by_cases h : k = e.1
    · rw [if_pos h, if_pos h, List.map_cons]
    · rw [if_neg h, if_neg h, List.map_cons, ih]

namespace OrderedMap

variable {α : Type u} {m : OrderedMap α}

lemma mem_of_get? {k : String} {a : α} (h : m.get? k = some a) : (k, a) ∈ m.entries := by
  obtain ⟨front, rest, hentries, -⟩ := List.lookup_eq_some_iff.1 h
  exact hentries ▸ List.mem_append_cons_self

lemma eq_or_mem_of_mem_putEntry {k : String} {a : α} {e : String × α} {es : List (String × α)}
    (h : e ∈ putEntry k a es) : e = (k, a) ∨ e ∈ es := by
  induction es with
  | nil => exact .inl (List.mem_singleton.1 h)
  | cons x es ih =>
    rw [putEntry] at h
    split at h
    · exact (List.mem_cons.1 h).imp_right (List.mem_cons_of_mem x)
    · rcases List.mem_cons.1 h with rfl | h
      · exact .inr List.mem_cons_self
      · exact (ih h).imp_right (List.mem_cons_of_mem x)

lemma eq_or_mem_of_mem_insert {k : String} {a : α} {e : String × α}
    (h : e ∈ (m.insert k a).entries) : e = (k, a) ∨ e ∈ m.entries := eq_or_mem_of_mem_putEntry h

end OrderedMap

namespace Dictionary

variable {α : Type u}

/-- The entries whose names are texts, under these. -/
def texts (es : List (Value × α)) : List (String × α) := es.filterMap fun e => e.1.str?.map (·, e.2)

lemma texts_cons_str (s : String) (a : α) (es : List (Value × α)) :
    texts ((.str s, a) :: es) = (s, a) :: texts es := rfl

/-- What stands under a text is found among the texts. -/
lemma lookup_texts (s : String) (es : List (Value × α)) :
    (texts es).lookup s = lookup (.str s) es := by
  induction es with
  | nil => rfl
  | cons e es ih =>
    obtain ⟨v, a⟩ := e
    by_cases hv : v = .str s
    · subst hv
      simp [texts_cons_str, lookup, Value.sameName]
    · have hname : Value.sameName v (.str s) = false := by
        rw [← Bool.not_eq_true, sameName_str]
        exact hv
      rw [lookup, hname, if_neg Bool.false_ne_true, ← ih]
      cases v with
      | str t =>
        have hne : (s == t) = false := beq_false_of_ne fun h => hv (congrArg Value.str h.symm)
        rw [texts_cons_str, List.lookup_cons, hne]
      | _ => rfl

/-- What stands under a text is found in the map of the texts. -/
lemma get?_named (d : Dictionary α) (s : String) : d.named.get? s = d.get? (.str s) := by
  rw [named, SortedMap.get?_ofList, SortedMap.lookup_reverse (nodup_texts d.distinct)]
  exact lookup_texts s d.entries

/-- Putting something under a text is inserting it among the texts. -/
lemma inOrder_put (d : Dictionary α) (k : String) (v : α) :
    (d.put (.str k) v).inOrder = d.inOrder.insert k v := by
  refine OrderedMap.ext ?_
  show texts (putEntry (.str k) v d.entries) = OrderedMap.putEntry k v (texts d.entries)
  induction d.entries with
  | nil => rfl
  | cons e es ih =>
    obtain ⟨w, a⟩ := e
    rw [putEntry]
    split
    next h =>
      obtain rfl := sameName_str.1 h
      rw [texts_cons_str, texts_cons_str, OrderedMap.putEntry, if_pos rfl]
    next h =>
      cases w with
      | str j =>
        have hne : k ≠ j := fun hj => h (sameName_str.2 (hj ▸ rfl))
        rw [texts_cons_str, texts_cons_str, OrderedMap.putEntry, if_neg hne, ih]
      | _ => exact ih

lemma putEntry_self {s : String} {v : α} {es : List (Value × α)}
    (h : lookup (.str s) es = some v) : putEntry (.str s) v es = es := by
  induction es with
  | nil => cases h
  | cons e es ih =>
    rw [lookup] at h
    rw [putEntry]
    split at h
    next hname =>
      cases h
      rw [if_pos hname]
    next hname => rw [if_neg hname, ih h]

/-- Putting in what stands under a text already changes nothing. -/
lemma put_self {d : Dictionary α} {s : String} {v : α} (h : d.get? (.str s) = some v) :
    d.put (.str s) v = d := by
  cases d
  simp only [put, putEntry_self h]

/-! ## Texts for names -/

/-- All names are texts. -/
def Named (d : Dictionary α) : Prop := ∀ e ∈ d.entries, ∃ s, e.1 = .str s

lemma named_empty : (empty : Dictionary α).Named := nofun

lemma Named.put {d : Dictionary α} (h : d.Named) (s : String) (v : α) :
    (d.put (.str s) v).Named := by
  intro e he
  rcases name_of_mem_putEntry he with hs | ⟨e', he', hs⟩
  · exact ⟨s, hs⟩
  · exact hs ▸ h e' he'

lemma kind_eq_str {v : Value} : v.kind = .str ↔ ∃ s, v = .str s := by
  cases v <;> simp [Value.kind]

/-- The first name that is no text. -/
def unnamed? (es : List (Value × α)) : Option Value :=
  (es.map (·.1)).find? fun v => decide (v.kind ≠ .str)

lemma unnamed?_eq_none {es : List (Value × α)} :
    unnamed? es = none ↔ ∀ e ∈ es, ∃ s, e.1 = .str s := by
  simp [unnamed?, List.find?_eq_none, kind_eq_str]

lemma unnamed?_cons_str (s : String) (a : α) (es : List (Value × α)) :
    unnamed? ((.str s, a) :: es) = unnamed? es := List.find?_cons_of_neg (by simp [Value.kind])

lemma unnamed?_cons_of_ne {v : Value} (h : ¬∃ s, v = .str s) (a : α) (es : List (Value × α)) :
    unnamed? ((v, a) :: es) = some v :=
  List.find?_cons_of_pos (by simpa [kind_eq_str] using h)

/-- Putting something under a text leaves the first name that is no text. -/
lemma unnamed?_put (d : Dictionary α) (k : String) (v : α) :
    unnamed? (d.put (.str k) v).entries = unnamed? d.entries := by
  show unnamed? (putEntry (.str k) v d.entries) = unnamed? d.entries
  induction d.entries with
  | nil => exact unnamed?_cons_str k v []
  | cons e es ih =>
    obtain ⟨w, a⟩ := e
    rw [putEntry]
    split
    next h =>
      obtain rfl := sameName_str.1 h
      rw [unnamed?_cons_str, unnamed?_cons_str]
    · by_cases hw : ∃ s, w = .str s
      · obtain ⟨s, rfl⟩ := hw
        rw [unnamed?_cons_str, unnamed?_cons_str, ih]
      · rw [unnamed?_cons_of_ne hw, unnamed?_cons_of_ne hw]

/-- The first name that is no text is complained about. -/
lemma allNamed_eq (d : Dictionary α) (complaint : ValueKind → Misfit) :
    d.allNamed complaint =
      (unnamed? d.entries).elim (.ok d.named) fun v => .error (complaint v.kind) := by
  rw [allNamed, unnamed?, List.find?_map, Function.comp_def]
  cases d.entries.find? fun e => decide (e.1.kind ≠ .str) <;> rfl

lemma Named.allNamed {d : Dictionary α} (h : d.Named) (complaint : ValueKind → Misfit) :
    d.allNamed complaint = .ok d.named := by
  rw [allNamed_eq, unnamed?_eq_none.2 h]
  rfl

end Dictionary

namespace Properties

variable {p : Properties}

lemma named_setAll (h : Dictionary.Named p) (new : List (String × Value)) :
    Dictionary.Named (p.setAll new) := by
  induction new generalizing p with
  | nil => exact h
  | cons e new ih => exact ih (h.put e.1 e.2)

lemma lowerable_of_named (h : Dictionary.Named p) : p.lowerable = .ok p.inOrder := by
  rw [lowerable, h.allNamed]
  rfl

/-- Of what is set under a text the last counts, and what was not set stays. -/
lemma get?_setAll (p : Properties) (new : List (String × Value)) (s : String) :
    (p.setAll new).get? (.str s) = (new.reverse.lookup s).or (p.get? (.str s)) := by
  induction new generalizing p with
  | nil => rfl
  | cons e new ih =>
    obtain ⟨t, v⟩ := e
    have hcons : p.setAll ((t, v) :: new) = setAll (p.put (.str t) v) new := rfl
    rw [hcons, ih, Dictionary.get?_put, List.reverse_cons, List.lookup_append, Option.or_assoc]
    by_cases hs : s = t
    · simp [hs]
    · have hne : (s == t) = false := by simpa using hs
      simp [List.lookup_cons, hne, hs]

end Properties

end CrudBench
