import CrudBench.Text.Numeral
import CrudBench.Value.Basic

/-!
# Misfits

A dynamic value can stand where a value of another kind is needed. What then cannot be done with it
is told by its kind.
-/

namespace CrudBench

/-- What is asked of a value that only some kinds of values have. -/
inductive Feature where
  /-- Its fields with their names. -/
  | items
  /-- The value of a field. -/
  | get
  /-- Its text in lower case. -/
  | lower
  deriving DecidableEq, Repr

/-- The name of a feature. -/
def Feature.name : Feature → String
  | items => "items"
  | get => "get"
  | lower => "lower"

/-- The ways to compare two values. -/
inductive Comparison where
  | less
  | atMost
  | atLeast
  deriving DecidableEq, Repr

/-- The sign of a comparison. -/
def Comparison.sign : Comparison → String
  | less => "<"
  | atMost => "<="
  | atLeast => ">="

/-- What cannot be done with a value. -/
inductive Misfit where
  /-- It cannot be gone through item by item. -/
  | notIterable (kind : ValueKind)
  /-- Nothing can be looked for in it. -/
  | notContainer (kind : ValueKind)
  /-- It has no fields that could be overlaid. -/
  | notMapping (kind : ValueKind)
  /-- It is no whole number. -/
  | notCount (kind : ValueKind)
  /-- It limits no list. -/
  | notLimit
  /-- A feature is missing. -/
  | lacks (feature : Feature) (kind : ValueKind)
  /-- It has no order with another value. -/
  | incomparable (comparison : Comparison) (left right : ValueKind)
  /-- Nothing can be filed under it. -/
  | unhashable (kind : ValueKind)
  /-- Its characters have places, not names. -/
  | textIndex
  /-- Its items have places, not names. -/
  | listIndex (kind : ValueKind)
  /-- Only a text is part of a text. -/
  | notPart (kind : ValueKind)
  /-- The item at a place should be a pair of a name and a value, and consists of nothing. -/
  | noPair (place : Nat)
  /-- The item at a place should be a pair of a name and a value, and is not as long. -/
  | pairLength (place length : Nat)
  deriving DecidableEq, Repr

/-- The wording of a misfit. -/
def Misfit.message : Misfit → String
  | notIterable kind => "'" ++ kind.name ++ "' object is not iterable"
  | notContainer kind => "argument of type '" ++ kind.name ++ "' is not iterable"
  | notMapping kind => "'" ++ kind.name ++ "' object is not a mapping"
  | notCount kind => "'" ++ kind.name ++ "' object cannot be interpreted as an integer"
  | notLimit => "slice indices must be integers or None or have an __index__ method"
  | lacks feature kind => "'" ++ kind.name ++ "' object has no attribute '" ++ feature.name ++ "'"
  | incomparable comparison left right =>
    "'" ++ comparison.sign ++ "' not supported between instances of '" ++ left.name ++ "' and '" ++
      right.name ++ "'"
  | unhashable kind => "unhashable type: '" ++ kind.name ++ "'"
  | textIndex => "string indices must be integers, not 'str'"
  | listIndex kind => "list indices must be integers or slices, not " ++ kind.name
  | notPart kind => "'in <string>' requires string as left operand, not " ++ kind.name
  | noPair place =>
    "cannot convert dictionary update sequence element #" ++ Text.decimal place ++ " to a sequence"
  | pairLength place length =>
    "dictionary update sequence element #" ++ Text.decimal place ++ " has length " ++
      Text.decimal length ++ "; 2 is required"

/-- Compares two values: texts by their characters, numbers by their size. -/
def Value.less : Value → Value → Except Misfit Bool
  | .str s, .str t => .ok (decide (s < t))
  | v, w =>
    match v.number?, w.number? with
    | some a, some b => .ok (a.less b)
    | _, _ => .error (.incomparable .less v.kind w.kind)

/-- The first value is at least the second: texts by their characters, numbers by their size. -/
def Value.atLeast : Value → Value → Except Misfit Bool
  | .str s, .str t => .ok (decide (t ≤ s))
  | v, w =>
    match v.number?, w.number? with
    | some a, some b => .ok (b.atMost a)
    | _, _ => .error (.incomparable .atLeast v.kind w.kind)

/-- The value is less than one, as a number. -/
def Value.belowOne (v : Value) : Except Misfit Bool :=
  match v.number? with
  | some a => .ok (a.less (.whole 1))
  | none => .error (.incomparable .less v.kind .int)

/-- The value is at most zero, as a number. -/
def Value.atMostZero (v : Value) : Except Misfit Bool :=
  match v.number? with
  | some a => .ok (a.atMost (.whole 0))
  | none => .error (.incomparable .atMost v.kind .int)

end CrudBench
