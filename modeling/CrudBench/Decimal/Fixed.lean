import CrudBench.Decimal.Binary

/-!
# Fixed decimal places

A float with a fixed number of decimal places: its exact binary value is rounded to the nearest
multiple of the last place, and to the even one of two equally near.
-/

namespace CrudBench.Decimal

/-- The nearest integer to a fraction, the even one of two equally near. -/
def Ratio.round (r : Ratio) : Nat :=
  let q := r.num / r.den
  match compare (2 * (r.num % r.den)) r.den with
  | .lt => q
  | .gt => q + 1
  | .eq => if q % 2 = 0 then q else q + 1

/-- The digits of `n · 10 ^ (-places)`, with at least one before the point. -/
def pointed (places n : Nat) : List Char :=
  let ds := Nat.toDigits 10 n
  let all := List.replicate (places + 1 - ds.length) '0' ++ ds
  all.take (all.length - places) ++ '.' :: all.drop (all.length - places)

/-- A decoded float with a positive number of places. -/
def fixedBinary (places : Nat) : Binary → List Char
  | .nan => ['n', 'a', 'n']
  | .infinite negative => (if negative then ['-'] else []) ++ ['i', 'n', 'f']
  | .finite negative m q =>
    (if negative then ['-'] else []) ++
      pointed places (Ratio.ofBinary (m * Nat.pow 10 places) q).round

/-- A float with a positive number of places, right-aligned in a column. -/
def fixed (width places : Nat) (x : Float) : String :=
  let cs := fixedBinary places (.ofFloat x)
  String.ofList (List.replicate (width - cs.length) ' ' ++ cs)

end CrudBench.Decimal
