import CrudBench.Data.SortedMap
import CrudBench.Number

/-!
# Values

The dynamic values that configurations, rows and server replies are made of. An object lists its
fields in the order in which they were given.
-/

namespace CrudBench

/-- A dynamic value. Integers have any size. -/
inductive Value where
  | null
  | bool (b : Bool)
  | int (n : Int)
  | float (x : Float)
  | str (s : String)
  | list (items : List Value)
  | object (fields : List (String × Value))
  deriving Inhabited

/-- The kinds of values. -/
inductive ValueKind where
  | null
  | bool
  | int
  | float
  | str
  | list
  | object
  deriving DecidableEq, Repr

/-- The name of a kind, as messages use it. -/
def ValueKind.name : ValueKind → String
  | null => "NoneType"
  | bool => "bool"
  | int => "int"
  | float => "float"
  | str => "str"
  | list => "list"
  | object => "dict"

/-- A record whose fields hold arbitrary values. -/
abbrev Row := SortedMap Value

/-- A record whose fields hold text. -/
abbrev Document := SortedMap String

/-- What stands where a whole number is needed: a number, or a truth value, which counts as one or
zero. -/
inductive Count where
  | int (n : Int)
  | bool (b : Bool)
  deriving DecidableEq, Repr

namespace Count

/-- The number. -/
def toInt : Count → Int
  | int n => n
  | bool b => if b then 1 else 0

/-- The count as a value, as it was given. -/
def value : Count → Value
  | int n => .int n
  | bool b => .bool b

end Count

namespace Value

/-- The kind of a value. -/
def kind : Value → ValueKind
  | null => .null
  | bool _ => .bool
  | int _ => .int
  | float _ => .float
  | str _ => .str
  | list _ => .list
  | object _ => .object

/-- A value counts as true unless it is null, false, zero or empty. -/
def isTruthy : Value → Bool
  | null => false
  | bool b => b
  | int n => n != 0
  | float x => !(x == 0.0)
  | str s => !s.isEmpty
  | list items => !items.isEmpty
  | object fields => !fields.isEmpty

/-- The value equals one as a number. -/
def isOne : Value → Bool
  | bool b => b
  | int n => n == 1
  | float x => x == 1.0
  | _ => false

/-- The count that a value stands for. -/
def count? : Value → Option Count
  | bool b => some (.bool b)
  | int n => some (.int n)
  | _ => none

/-- The text that a value is. -/
def str? : Value → Option String
  | str s => some s
  | _ => none

/-- The number that a value stands for; a truth value counts as one or zero. -/
def number? : Value → Option Number
  | bool b => some (.whole (if b then 1 else 0))
  | int n => some (.whole n)
  | float x => some (.real x)
  | _ => none

/-- What a value consists of: the items of a list, the names of an object, or the characters of a
text. -/
def items? : Value → Option (List Value)
  | list items => some items
  | object fields => some (fields.map fun f => str f.1)
  | str s => some (s.toList.map fun c => str (String.singleton c))
  | _ => none

/-- Something can be filed under the value: it is no list and no object. -/
def isHashable : Value → Bool
  | list _ | object _ => false
  | _ => true

/-- The fields of an object, in the order of their names. -/
def row? : Value → Option Row
  | object fields => some (.ofList fields)
  | _ => none

/-- The value of a field; a missing field counts as null. -/
def field (fields : List (String × Value)) (name : String) : Value := (fields.lookup name).getD null

end Value

/-- A record of texts as a record. -/
def Document.row (d : Document) : Row := d.map Value.str

/-- A record as a value. -/
def Row.value (row : Row) : Value := .object row.entries

end CrudBench
