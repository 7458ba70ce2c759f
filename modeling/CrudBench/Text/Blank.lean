import CrudBench.Text.CharSet

/-!
# Blank characters

White space in the sense of Unicode: the separators and the control characters that count as
space. `trim` strips them from both ends; a text that is nothing else is blank.
-/

namespace CrudBench.Text

/-- The characters that count as white space. -/
def blanks : CharSet :=
  ⟨[(0x9, 0xd), (0x1c, 0x20), (0x85, 0x85), (0xa0, 0xa0), (0x1680, 0x1680), (0x2000, 0x200a),
    (0x2028, 0x2029), (0x202f, 0x202f), (0x205f, 0x205f), (0x3000, 0x3000)]⟩

/-- The character is white space. -/
def isBlankChar (c : Char) : Bool := blanks.contains c

/-- Drops white space from both ends. -/
def trimChars (cs : List Char) : List Char :=
  ((cs.dropWhile isBlankChar).reverse.dropWhile isBlankChar).reverse

/-- Drops white space from both ends of a text. -/
def trim (s : String) : String := String.ofList (trimChars s.toList)

/-- The text holds nothing but white space. -/
def isBlank (s : String) : Bool := s.toList.all isBlankChar

end CrudBench.Text
