import CrudBench.Text.Blank
import CrudBench.Text.Digit

/-!
# Integers in decimal

Writing an integer gives a sign and its digits. Reading is more liberal: white space around, either
sign, digits of any script and single underscores between digits; at most 4300 digits are accepted.
-/

namespace CrudBench.Text

/-- The digits of an integer, with a minus sign if it is negative. -/
def decimalChars (n : Int) : List Char :=
  if n < 0 then '-' :: Nat.toDigits 10 n.natAbs else Nat.toDigits 10 n.natAbs

/-- The integer in decimal. -/
def decimal (n : Int) : String := String.ofList (decimalChars n)

/-- The integer in decimal, with zeros after the sign up to the given width. -/
def paddedDecimal (width : Nat) (n : Int) : String :=
  let sign := if n < 0 then ['-'] else []
  let digits := Nat.toDigits 10 n.natAbs
  String.ofList (sign ++ List.replicate (width - sign.length - digits.length) '0' ++ digits)

/-- White space that may surround a number: the four information separators do not count. -/
def isNumberBlank (c : Char) : Bool := isBlankChar c && !(0x1c ≤ c.toNat && c.toNat ≤ 0x1f)

/-- The most digits that a number may have. -/
def maxDigits : Nat := 4300

/-- The values of the digits of a numeral in which single underscores may stand between digits. -/
def digitValues? : List Char → Option (List Nat)
  | [] => none
  | [c] => (digitValue? c).map ([·])
  | c :: '_' :: cs => do return (← digitValue? c) :: (← digitValues? cs)
  | c :: cs => do return (← digitValue? c) :: (← digitValues? cs)

/-- The number with these digits, if they are not too many. -/
def natOfDigits? (ds : List Nat) : Option Nat :=
  if ds.length ≤ maxDigits then some (ds.foldl (fun n d => 10 * n + d) 0) else none

/-- An unsigned numeral. -/
def natOfChars? (cs : List Char) : Option Nat := digitValues? cs >>= natOfDigits?

/-- A numeral with an optional sign. -/
def intOfChars? : List Char → Option Int
  | '-' :: cs => (natOfChars? cs).map fun n => -(n : Int)
  | '+' :: cs => (natOfChars? cs).map Int.ofNat
  | cs => (natOfChars? cs).map Int.ofNat

/-- Drops the white space around a number. -/
def trimNumber (cs : List Char) : List Char :=
  ((cs.dropWhile isNumberBlank).reverse.dropWhile isNumberBlank).reverse

/-- The integer that a text denotes. -/
def readInt? (s : String) : Option Int := intOfChars? (trimNumber s.toList)

end CrudBench.Text
