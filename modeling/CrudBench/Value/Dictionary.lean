import CrudBench.Data.OrderedMap
import CrudBench.Value.Misfit
import CrudBench.Value.Text

/-!
# Dictionaries

Things under names, in the order in which the names came up. A name need not be a text: any value is
one that is no list and no object, and numbers that are equal are the same name. Something new under
a name takes the place of what was there. What stands under a text is found again, and nothing else
is changed (`Dictionary.get?_put`, `Dictionary.get?_erase`).
-/

namespace CrudBench

/-- Two names are the same: equal texts or equal numbers, or both are null. -/
def Value.sameName : Value → Value → Bool
  | null, null => true
  | str s, str t => s == t
  | v, w =>
    match v.number?, w.number? with
    | some a, some b => a.same b
    | _, _ => false

/-- The value, if something can be filed under it. -/
def Value.asName (v : Value) : Except Misfit Value :=
  if v.isHashable then .ok v else .error (.unhashable v.kind)

/-- Things under names, of which no two are the same. -/
structure Dictionary (α : Type u) where
  entries : List (Value × α)
  distinct : entries.Pairwise fun a b => Value.sameName a.1 b.1 = false

namespace Dictionary

variable {α : Type u}

/-- The dictionary without entries. -/
def empty : Dictionary α := ⟨[], .nil⟩

/-- There are no entries. -/
def isEmpty (d : Dictionary α) : Bool := d.entries.isEmpty

/-- What stands under a name among entries. -/
def lookup (name : Value) : List (Value × α) → Option α
  | [] => none
  | e :: es => if Value.sameName e.1 name then some e.2 else lookup name es

/-- What stands under a name. -/
def get? (d : Dictionary α) (name : Value) : Option α := lookup name d.entries

/-- Something stands under the name. -/
def contains (d : Dictionary α) (name : Value) : Bool := (d.get? name).isSome

/-- Puts something under a name, in its place if the name is there already. -/
def putEntry (name : Value) (v : α) : List (Value × α) → List (Value × α)
  | [] => [(name, v)]
  | e :: es => if Value.sameName e.1 name then (e.1, v) :: es else e :: putEntry name v es

/-- Putting an entry in adds its name and no other. -/
theorem name_of_mem_putEntry {name : Value} {v : α} {es : List (Value × α)} {x : Value × α}
    (h : x ∈ putEntry name v es) : x.1 = name ∨ ∃ e ∈ es, e.1 = x.1 := by
  induction es with
  | nil => exact .inl (by simp_all [putEntry])
  | cons e es ih =>
    rw [putEntry] at h
    split at h
    · rcases List.mem_cons.1 h with rfl | h
      · exact .inr ⟨e, List.mem_cons_self, rfl⟩
      · exact .inr ⟨x, List.mem_cons_of_mem _ h, rfl⟩
    · rcases List.mem_cons.1 h with rfl | h
      · exact .inr ⟨x, List.mem_cons_self, rfl⟩
      · exact (ih h).imp_right fun ⟨y, hy, hx⟩ => ⟨y, List.mem_cons_of_mem _ hy, hx⟩

/-- Putting an entry in keeps the names distinct. -/
theorem pairwise_putEntry (name : Value) (v : α) {es : List (Value × α)}
    (h : es.Pairwise fun a b => Value.sameName a.1 b.1 = false) :
    (putEntry name v es).Pairwise fun a b => Value.sameName a.1 b.1 = false := by
  induction es with
  | nil => simp [putEntry]
  | cons e es ih =>
    have he := List.pairwise_cons.1 h
    rw [putEntry]
    split
    · exact List.pairwise_cons.2 he
    next hne =>
      refine List.pairwise_cons.2 ⟨fun x hx => ?_, ih he.2⟩
      rcases name_of_mem_putEntry hx with hname | ⟨y, hy, hname⟩
      · simpa [hname] using hne
      · exact hname ▸ he.1 y hy

/-- The dictionary with something under a name. -/
def put (d : Dictionary α) (name : Value) (v : α) : Dictionary α :=
  ⟨putEntry name v d.entries, pairwise_putEntry name v d.distinct⟩

/-- The dictionary without a name. -/
def erase (d : Dictionary α) (name : Value) : Dictionary α :=
  ⟨d.entries.filter fun e => !Value.sameName e.1 name, d.distinct.filter _⟩

/-- The dictionary of fields, whose names are texts. -/
def ofFields (fields : List (String × α)) : Dictionary α :=
  fields.foldl (fun d f => d.put (.str f.1) f.2) empty

/-- What stands under texts. -/
def named (d : Dictionary α) : SortedMap α :=
  .ofList (d.entries.filterMap fun e => e.1.str?.map (·, e.2))

/-- Names that are texts and not the same are different texts. -/
theorem nodup_texts {es : List (Value × α)}
    (h : es.Pairwise fun a b => Value.sameName a.1 b.1 = false) :
    ((es.filterMap fun e => e.1.str?.map (·, e.2)).map (·.1)).Nodup := by
  refine List.pairwise_map.2 (List.Pairwise.filterMap _ ?_ h)
  rintro ⟨v, a⟩ ⟨w, b⟩ hne x hx y hy hxy
  cases v <;> cases w <;> simp_all [Value.str?, Value.sameName]
  subst hx hy
  exact hne hxy

/-- What stands under texts, in the order in which they came up. -/
def inOrder (d : Dictionary α) : OrderedMap α :=
  ⟨d.entries.filterMap fun e => e.1.str?.map (·, e.2), nodup_texts d.distinct⟩

/-- What stands under texts, if nothing else is a name. The first other name is complained about by
its kind. -/
def allNamed (d : Dictionary α) (complaint : ValueKind → Misfit) : Except Misfit (SortedMap α) :=
  match d.entries.find? fun e => decide (e.1.kind ≠ .str) with
  | some e => .error (complaint e.1.kind)
  | none => .ok d.named

/-! ## Conversions -/

/-- The pair of a name and a value that the item at a place is, whatever it is made of. -/
def pairOf (place : Nat) (item : Value) : Except Misfit (Value × Value) :=
  match item.items? with
  | none => .error (.noPair place)
  | some [name, v] => return (← name.asName, v)
  | some parts => .error (.pairLength place parts.length)

/-- Puts in the pairs that items are, of which the first has the given place. -/
def putItems (d : Dictionary Value) (place : Nat) : List Value → Except Misfit (Dictionary Value)
  | [] => .ok d
  | item :: items => do
    let (name, v) ← pairOf place item
    (d.put name v).putItems (place + 1) items

/-- The dictionary that a value is: an object is one, and so is whatever consists of pairs. -/
def ofValue : Value → Except Misfit (Dictionary Value)
  | .object fields => .ok (ofFields fields)
  | v =>
    match v.items? with
    | some items => empty.putItems 0 items
    | none => .error (.notIterable v.kind)

/-- The dictionary as fields, in which every name goes by its text. -/
def fields (d : Dictionary α) : List (String × α) := d.entries.map fun e => (e.1.text, e.2)

/-- The dictionary as an object. -/
def value (d : Dictionary Value) : Value := .object d.fields

/-! ## Look-ups -/

/-- Only a text is the same name as a text, and only if it is equal. -/
theorem sameName_str {v : Value} {s : String} :
    Value.sameName v (.str s) = true ↔ v = .str s := by
  cases v <;> simp [Value.sameName, Value.number?]

/-- There is nothing in the dictionary without entries. -/
@[simp]
theorem get?_empty (name : Value) : (empty : Dictionary α).get? name = none := rfl

/-- What was put under a text is found there, and what stands under other texts stays. -/
theorem lookup_putEntry (s t : String) (v : α) (es : List (Value × α)) :
    lookup (.str t) (putEntry (.str s) v es) = if t = s then some v else lookup (.str t) es := by
  induction es with
  | nil =>
    by_cases h : t = s
    · simp [putEntry, lookup, Value.sameName, h]
    · have hb : (s == t) = false := by simpa using Ne.symm h
      simp [putEntry, lookup, Value.sameName, hb, h]
  | cons e es ih =>
    rw [putEntry]
    split
    next he =>
      rw [sameName_str] at he
      by_cases h : t = s
      · simp [lookup, he, h, sameName_str]
      · have hb : Value.sameName e.1 (.str t) = false := by
          simpa [he, Value.sameName] using Ne.symm h
        simp [lookup, hb, h]
    next hne =>
      by_cases h : t = s
      · subst h
        simp [lookup, hne, ih]
      · simp only [lookup, ih, h, if_false]

/-- Putting something under a text changes the look-up of that text only. -/
theorem get?_put (d : Dictionary α) (s t : String) (v : α) :
    (d.put (.str s) v).get? (.str t) = if t = s then some v else d.get? (.str t) :=
  lookup_putEntry s t v d.entries

/-- Among entries without a text there is nothing under that text, and the rest stays. -/
theorem lookup_filter (s t : String) (es : List (Value × α)) :
    lookup (.str t) (es.filter fun e => !Value.sameName e.1 (.str s)) =
      if t = s then none else lookup (.str t) es := by
  induction es with
  | nil => simp [lookup]
  | cons e es ih =>
    by_cases hs : Value.sameName e.1 (.str s) = true
    · have he := sameName_str.1 hs
      by_cases h : t = s
      · subst h
        simp [hs, ih]
      · have hb : Value.sameName e.1 (.str t) = false := by
          simpa [he, Value.sameName] using Ne.symm h
        simp [hs, ih, h, lookup, hb]
    · by_cases h : t = s
      · subst h
        simp [hs, ih, lookup]
      · simp [hs, ih, h, lookup]

/-- Erasing a text changes the look-up of that text only. -/
theorem get?_erase (d : Dictionary α) (s t : String) :
    (d.erase (.str s)).get? (.str t) = if t = s then none else d.get? (.str t) :=
  lookup_filter s t d.entries

end Dictionary

end CrudBench
