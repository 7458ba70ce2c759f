/-!
# Binary floating point, decoded

A double-precision number is either no number, an infinity, or a sign with `mantissa · 2 ^
exponent`. Everything that turns such a number into decimal digits starts from this exact form.
-/

namespace CrudBench.Decimal

/-- The exact content of a double-precision number. -/
inductive Binary where
  | nan
  | infinite (negative : Bool)
  | finite (negative : Bool) (mantissa : Nat) (exponent : Int)
  deriving DecidableEq, Repr

/-- Reads sign, exponent field and fraction field. -/
def Binary.ofBits (bits : Nat) : Binary :=
  let negative := bits / Nat.pow 2 63 % 2 == 1
  let field : Nat := bits / Nat.pow 2 52 % Nat.pow 2 11
  let fraction : Nat := bits % Nat.pow 2 52
  if field = 2047 then
    if fraction = 0 then .infinite negative else .nan
  else if field = 0 then .finite negative fraction (-1074)
  else .finite negative (Nat.pow 2 52 + fraction) ((field : Int) - 1075)

/-- The exact content of a float. -/
def Binary.ofFloat (x : Float) : Binary := .ofBits x.toBits.toNat

/-- Non-negative fractions, as numerator and denominator. -/
structure Ratio where
  num : Nat
  den : Nat

/-- The fraction `n · 2 ^ e`. -/
def Ratio.ofBinary (n : Nat) (e : Int) : Ratio := ⟨n * Nat.pow 2 e.toNat, Nat.pow 2 (-e).toNat⟩

/-- The fraction `n · 10 ^ k`. -/
def Ratio.ofDecimal (n : Nat) (k : Int) : Ratio :=
  ⟨n * Nat.pow 10 k.toNat, Nat.pow 10 (-k).toNat⟩

/-- Compares by cross multiplication. -/
def Ratio.cmp (a b : Ratio) : Ordering := compare (a.num * b.den) (b.num * a.den)

/-- The distance of two fractions. -/
def Ratio.dist (a b : Ratio) : Ratio :=
  ⟨(a.num * b.den - b.num * a.den) + (b.num * a.den - a.num * b.den), a.den * b.den⟩

end CrudBench.Decimal
