import CrudBench.Data.MergeSort.Schedule
import CrudBench.Value.Dictionary

/-!
# Properties

A configuration is a dictionary of properties. Their names are texts as a rule, but a configuration
can hold others; settings are looked up among the texts only.
-/

namespace CrudBench

/-- Properties in the order in which they were given. -/
abbrev Properties := Dictionary Value

namespace Properties

/-- The properties that a value holds, none if it counts as false. -/
def ofOptional (v : Value) : Except Misfit Properties :=
  if v.isTruthy then Dictionary.ofValue v else .ok .empty

/-- The properties that a value holds, to be looked up by their names. -/
def lookedUp (v : Value) : Except Misfit (SortedMap Value) :=
  match v with
  | .object fields => .ok (.ofList fields)
  | v => if v.isTruthy then .error (.lacks .get v.kind) else .ok .empty

/-- Sets properties, one after the other. -/
def setAll (p : Properties) (new : List (String × Value)) : Properties :=
  new.foldl (fun p e => p.put (.str e.1) e.2) p

/-- The properties, if all their names are texts. Any other name has no lower case. -/
def lowerable (p : Properties) : Except Misfit (OrderedMap Value) :=
  (p.allNamed (.lacks .lower)).map fun _ => p.inOrder

/-- The properties in the order of their names, if these have one. -/
def sorted (p : Properties) : Except Misfit (List (Value × Value)) :=
  MergeSort.sort (fun a b => a.1.less b.1) p.entries

end Properties

end CrudBench
