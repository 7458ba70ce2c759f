import CrudBench.Decimal.Shortest

/-!
# Floats as text

A float is written with the fewest digits that read back as the same number: positionally while its
decimal exponent is moderate, and with an exponent of at least two digits beyond that.
-/

namespace CrudBench.Decimal

/-- What a way of writing floats decides. -/
structure FloatStyle where
  /-- The least decimal exponent of the first digit that is written positionally. -/
  lowest : Int
  /-- The least decimal exponent above those that are written positionally. -/
  limit : Int
  /-- What stands for no number. -/
  nan : String
  /-- What stands for infinity. -/
  infinity : String

/-- The way in which messages and records show a float. -/
def plainStyle : FloatStyle := ⟨-4, 16, "nan", "inf"⟩

/-- The way in which a saved file spells a float. -/
def fileStyle : FloatStyle := { plainStyle with nan := "NaN", infinity := "Infinity" }

/-- Drops trailing zeros. -/
def significant (ds : List Char) : List Char := (ds.reverse.dropWhile (· = '0')).reverse

/-- Digits with the point after the first `point` of them; zeros fill a gap on either side. -/
def positional (ds : List Char) (point : Int) : List Char :=
  if point ≤ 0 then '0' :: '.' :: List.replicate (-point).toNat '0' ++ ds
  else
    let whole := ds.take point.toNat
    let fraction := ds.drop point.toNat
    whole ++ List.replicate (point.toNat - whole.length) '0' ++
      '.' :: (if fraction.isEmpty then ['0'] else fraction)

/-- One digit before the point, the others after it, and the exponent. -/
def scientific (ds : List Char) (e : Int) : List Char :=
  let mark := match ds with
    | d :: rest@(_ :: _) => d :: '.' :: rest
    | _ => ds
  let power := Nat.toDigits 10 e.natAbs
  mark ++ 'e' :: (if e < 0 then '-' else '+') :: List.replicate (2 - power.length) '0' ++ power

/-- A decimal number in the given style. -/
def FloatStyle.writeDecimal (style : FloatStyle) (d : Decimal) : List Char :=
  let all := Nat.toDigits 10 d.coefficient
  let e := d.exponent + all.length - 1
  let ds := significant all
  if style.lowest ≤ e ∧ e < style.limit then positional ds (e + 1) else scientific ds e

/-- The text of a decoded float, sign included. -/
def FloatStyle.writeBinary (style : FloatStyle) : Binary → List Char
  | .nan => style.nan.toList
  | .infinite negative => (if negative then ['-'] else []) ++ style.infinity.toList
  | .finite negative m q =>
    (if negative then ['-'] else []) ++
      (if m = 0 then ['0', '.', '0'] else style.writeDecimal (shortest m q))

/-- The text of a float. -/
def FloatStyle.write (style : FloatStyle) (x : Float) : String :=
  String.ofList (style.writeBinary (.ofFloat x))

end CrudBench.Decimal
