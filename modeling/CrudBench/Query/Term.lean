import CrudBench.Server.Error
import CrudBench.Value.Basic

/-!
# Query terms

A query as it is sent: a tree of operations with arguments and options. Scalars and objects stand
for themselves, a list becomes an operation that makes an array. A value that is nested too deeply
has no term, and a term that holds a float that is not finite cannot be sent.
-/

namespace CrudBench

/-- The operations that queries are made of. -/
inductive Op where
  | makeArray
  | database
  | table
  | get
  | pluck
  | orderBy
  | update
  | delete
  | insert
  | databaseCreate
  | databaseList
  | tableCreate
  | tableList
  | limit
  | ascending
  | default
  | wait
  | maxValue
  | between
  deriving DecidableEq, Repr

/-- The number that stands for an operation. -/
def Op.code : Op → Nat
  | makeArray => 2
  | database => 14
  | table => 15
  | get => 16
  | pluck => 33
  | orderBy => 41
  | update => 53
  | delete => 54
  | insert => 56
  | databaseCreate => 57
  | databaseList => 59
  | tableCreate => 60
  | tableList => 62
  | limit => 71
  | ascending => 73
  | default => 92
  | wait => 177
  | maxValue => 181
  | between => 182

/-- A query term. -/
inductive Term where
  | null
  | bool (b : Bool)
  | int (n : Int)
  | float (x : Float)
  | str (s : String)
  | object (fields : List (String × Term))
  | call (op : Op) (args : List Term) (options : List (String × Term))
  deriving Inhabited

namespace Term

/-- How deeply an argument may be nested: it and what it holds have this many levels. -/
def nestingLimit : Nat := 20

mutual

/-- The term of a value that may have this many levels. -/
def ofNested : Nat → Value → Except DriverError Term
  | 0, _ => .error .tooDeep
  | _ + 1, .null => .ok null
  | _ + 1, .bool b => .ok (bool b)
  | _ + 1, .int n => .ok (int n)
  | _ + 1, .float x => .ok (float x)
  | _ + 1, .str s => .ok (str s)
  | depth + 1, .list items => (ofItems depth items).map fun ts => call .makeArray ts []
  | depth + 1, .object fields => (ofFields depth fields).map object

/-- The terms of the items of a list. -/
def ofItems : Nat → List Value → Except DriverError (List Term)
  | _, [] => .ok []
  | depth, v :: vs => do return (← ofNested depth v) :: (← ofItems depth vs)

/-- The terms of the fields of an object. -/
def ofFields : Nat → List (String × Value) → Except DriverError (List (String × Term))
  | _, [] => .ok []
  | depth, (k, v) :: fs => do return (k, ← ofNested depth v) :: (← ofFields depth fs)

end

/-- The term of an argument. -/
def ofValue (v : Value) : Except DriverError Term := ofNested nestingLimit v

mutual

/-- The form in which a term is sent: an operation is a list of its number, its arguments and, if
there are any, its options. -/
def wire : Term → Value
  | null => .null
  | bool b => .bool b
  | int n => .int n
  | float x => .float x
  | str s => .str s
  | object fields => .object (wireFields fields)
  | call op args [] => .list [.int op.code, .list (wireItems args)]
  | call op args (o :: os) =>
    .list [.int op.code, .list (wireItems args), .object (wireFields (o :: os))]

/-- The arguments in the form in which they are sent. -/
def wireItems : List Term → List Value
  | [] => []
  | t :: ts => wire t :: wireItems ts

/-- Fields or options in the form in which they are sent. -/
def wireFields : List (String × Term) → List (String × Value)
  | [] => []
  | (k, t) :: fs => (k, wire t) :: wireFields fs

end

mutual

/-- Every float in the term is a finite number. -/
def isFinite : Term → Bool
  | float x => x.isFinite
  | object fields => areFiniteFields fields
  | call _ args options => areFinite args && areFiniteFields options
  | _ => true

/-- Every float in the terms is a finite number. -/
def areFinite : List Term → Bool
  | [] => true
  | t :: ts => isFinite t && areFinite ts

/-- Every float in the fields or options is a finite number. -/
def areFiniteFields : List (String × Term) → Bool
  | [] => true
  | (_, t) :: fs => isFinite t && areFiniteFields fs

end

end Term

end CrudBench
