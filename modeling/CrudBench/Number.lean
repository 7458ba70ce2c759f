import CrudBench.Decimal.Binary

/-!
# Numbers

Whole numbers of any size beside floats. They are compared by their exact values, and whole numbers
are added exactly; as soon as a float takes part, the other number is rounded to a float first.
-/

namespace CrudBench

/-- A number: a whole one of any size, or a float. -/
inductive Number where
  | whole (n : Int)
  | real (x : Float)

namespace Number

/-- The order of a whole number and a float, if the float is a number at all. -/
def compareWhole (n : Int) : Decimal.Binary → Option Ordering
  | .nan => none
  | .infinite negative => some (if negative then .gt else .lt)
  | .finite negative mantissa exponent =>
    let r := Decimal.Ratio.ofBinary mantissa exponent
    some (compare (n * r.den) (if negative then -(r.num : Int) else r.num))

/-- The order of two numbers by their exact values. What is no number has no place in it. -/
def compare? : Number → Number → Option Ordering
  | whole a, whole b => some (compare a b)
  | whole a, real y => compareWhole a (.ofFloat y)
  | real x, whole b => (compareWhole b (.ofFloat x)).map Ordering.swap
  | real x, real y =>
    if x < y then some .lt else if y < x then some .gt else if x == y then some .eq else none

/-- The first number is less than the second. -/
def less (a b : Number) : Bool := compare? a b == some .lt

/-- The first number is at most the second. -/
def atMost (a b : Number) : Bool := less a b || compare? a b == some .eq

/-- The numbers are equal. -/
def same (a b : Number) : Bool := compare? a b == some .eq

/-- The least whole number that is too large for a float: it lies halfway between the largest float
and the next power of two. -/
def overflow : Nat := Nat.pow 2 1024 - Nat.pow 2 970

/-- A whole number is too large for a float. -/
structure TooLarge where
  deriving DecidableEq, Repr

/-- The wording of the error. -/
def TooLarge.message (_ : TooLarge) : String := "int too large to convert to float"

/-- The number as a float. -/
def toFloat : Number → Except TooLarge Float
  | whole n => if n.natAbs < overflow then .ok (Float.ofInt n) else .error {}
  | real x => .ok x

/-- The sum. -/
def add : Number → Number → Except TooLarge Number
  | whole a, whole b => .ok (whole (a + b))
  | a, b => return real ((← a.toFloat) + (← b.toFloat))

/-- The difference. -/
def sub : Number → Number → Except TooLarge Number
  | whole a, whole b => .ok (whole (a - b))
  | a, b => return real ((← a.toFloat) - (← b.toFloat))

end Number

end CrudBench
