import CrudBench.Data.MergeSort.Schedule
import CrudBench.Value.Dictionary

/-!
# Sets of fields

The fields that a read asks for. Their names are texts as a rule; any other name that something can
be filed under may be asked for, too, but no record has such a field.
-/

namespace CrudBench

/-- The fields that a read asks for; none at all means every field. -/
structure FieldSet where
  texts : SortedMap Unit
  others : List Value

namespace FieldSet

/-- The set without fields. -/
def empty : FieldSet := ⟨.empty, []⟩

/-- The set with a name in it. -/
def insert (fs : FieldSet) : Value → Except Misfit FieldSet
  | .str s => .ok { fs with texts := fs.texts.insert s () }
  | v => do
    let name ← v.asName
    return if fs.others.any (Value.sameName name) then fs
      else { fs with others := fs.others ++ [name] }

/-- The set of these names. -/
def ofNames (names : List Value) : Except Misfit FieldSet := names.foldlM insert empty

/-- The set of these texts. -/
def ofTexts (names : List String) : FieldSet := ⟨.ofList (names.map (·, ())), []⟩

/-- The set that a value is made of; null means every field. -/
def ofValue : Value → Except Misfit FieldSet
  | .null => .ok empty
  | v =>
    match v.items? with
    | some names => ofNames names
    | none => .error (.notIterable v.kind)

/-- The field of this name is asked for. -/
def contains (fs : FieldSet) (name : String) : Bool := fs.texts.contains name

/-- The names in their order, if they have one. -/
def sorted (fs : FieldSet) : Except Misfit (List Value) :=
  let texts := fs.texts.keys.map Value.str
  if fs.others.isEmpty then .ok texts else MergeSort.sort Value.less (texts ++ fs.others)

end FieldSet

end CrudBench
