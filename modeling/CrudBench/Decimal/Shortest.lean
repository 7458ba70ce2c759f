import CrudBench.Decimal.Binary

/-!
# The shortest decimal

Of all decimals that round to a given double, the one with the fewest digits; of those, the one
nearest to the exact value, and the even one of two equally near. On the grid of multiples of a
power of ten only the two neighbours of the exact value can be nearest, so they alone are tried.
-/

namespace CrudBench

/-- The decimal number `coefficient · 10 ^ exponent`. -/
structure Decimal where
  coefficient : Nat
  exponent : Int
  deriving DecidableEq, Repr

namespace Decimal

/-- The fractions that round to one double: all between two ends, which count for an even mantissa.
-/
structure RoundingInterval where
  low : Ratio
  high : Ratio
  closed : Bool

/-- The interval of `m · 2 ^ q`. The gap below a power of two is half the gap above it, unless the
number lies at the bottom of the range. -/
def RoundingInterval.of (m : Nat) (q : Int) : RoundingInterval where
  low := .ofBinary (4 * m - if m = Nat.pow 2 52 ∧ -1074 < q then 1 else 2) (q - 2)
  high := .ofBinary (4 * m + 2) (q - 2)
  closed := m % 2 == 0

/-- The fraction lies in the interval. -/
def RoundingInterval.contains (i : RoundingInterval) (r : Ratio) : Bool :=
  match i.low.cmp r, r.cmp i.high with
  | .lt, .lt => true
  | .lt, .eq | .eq, .lt | .eq, .eq => i.closed
  | _, _ => false

/-- How many digits a number has. -/
def digitCount (n : Nat) : Int := (Nat.toDigits 10 n).length

/-- The `p` with `10 ^ (p - 1) ≤ r < 10 ^ p`, for a positive fraction. -/
def Ratio.magnitude (r : Ratio) : Int :=
  let t := digitCount r.num - digitCount r.den
  if r.cmp (.ofDecimal 1 t) = .lt then t else t + 1

/-- The largest `d` with `d · 10 ^ k ≤ r`. -/
def Ratio.floorAt (r : Ratio) (k : Int) : Nat :=
  (r.num * Nat.pow 10 (-k).toNat) / (r.den * Nat.pow 10 k.toNat)

/-- The better of two coefficients on the grid `10 ^ k`: the nearer one, or the even one. -/
def Ratio.nearer (r : Ratio) (k : Int) (a b : Nat) : Nat :=
  match (r.dist (.ofDecimal a k)).cmp (r.dist (.ofDecimal b k)) with
  | .lt => a
  | .gt => b
  | .eq => if a % 2 = 0 then a else b

/-- The nearest decimal with at most `digits` digits that the interval holds. -/
def RoundingInterval.pick? (i : RoundingInterval) (r : Ratio) (digits : Nat) : Option Decimal :=
  let k := r.magnitude - digits
  let a := r.floorAt k
  match i.contains (.ofDecimal a k), i.contains (.ofDecimal (a + 1) k) with
  | true, true => some ⟨r.nearer k a (a + 1), k⟩
  | true, false => some ⟨a, k⟩
  | false, true => some ⟨a + 1, k⟩
  | false, false => none

/-- The shortest decimal that rounds to `m · 2 ^ q`, for a positive `m`. Seventeen digits are always
enough. -/
def shortest (m : Nat) (q : Int) : Decimal :=
  let r := Ratio.ofBinary m q
  ((List.range' 1 17).findSome? ((RoundingInterval.of m q).pick? r)).getD ⟨m, q⟩

end Decimal

end CrudBench
