import CrudBench.Text.Quoted

/-!
# JSON text

A JSON tree and its written form: pure ASCII, two blanks of indentation for each level, members in
the order in which the tree lists them. A number is kept as the text that stands in the file.
-/

namespace CrudBench

/-- A JSON tree. -/
inductive JsonTree where
  | number (text : String)
  | str (s : String)
  | list (items : List JsonTree)
  | object (members : List (String × JsonTree))
  deriving Inhabited

namespace JsonTree

/-- The escape of a 16-bit unit. -/
def unitEscape (n : Nat) : List Char := '\\' :: 'u' :: Text.hexDigits n 4

/-- A character inside a JSON string. One beyond 16 bits is written as a surrogate pair. -/
def escapeChar (c : Char) : List Char :=
  if c = '"' then ['\\', '"']
  else if c = '\\' then ['\\', '\\']
  else if c = '\n' then ['\\', 'n']
  else if c = '\r' then ['\\', 'r']
  else if c = '\t' then ['\\', 't']
  else if c = '\x0c' then ['\\', 'f']
  else if c = '\x08' then ['\\', 'b']
  else if ' ' ≤ c ∧ c ≤ '~' then [c]
  else if c.toNat < 0x10000 then unitEscape c.toNat
  else
    unitEscape (0xd800 + (c.toNat - 0x10000) / 0x400) ++
      unitEscape (0xdc00 + (c.toNat - 0x10000) % 0x400)

/-- A text as a JSON string. -/
def writeString (s : String) : List Char := '"' :: s.toList.flatMap escapeChar ++ ['"']

/-- A line break, and the indentation of a level. -/
def newline (depth : Nat) : List Char := '\n' :: List.replicate (2 * depth) ' '

mutual

/-- A tree that stands at a level. -/
def write (depth : Nat) : JsonTree → List Char
  | number text => text.toList
  | str s => writeString s
  | list [] => ['[', ']']
  | list (x :: xs) =>
    '[' :: newline (depth + 1) ++ write (depth + 1) x ++ writeItems (depth + 1) xs ++
      newline depth ++ [']']
  | object [] => ['\x7b', '\x7d']
  | object ((k, x) :: ms) =>
    '\x7b' :: newline (depth + 1) ++ writeString k ++ ':' :: ' ' :: write (depth + 1) x ++
      writeMembers (depth + 1) ms ++ newline depth ++ ['\x7d']

/-- The items after the first. -/
def writeItems (depth : Nat) : List JsonTree → List Char
  | [] => []
  | x :: xs => ',' :: newline depth ++ write depth x ++ writeItems depth xs

/-- The members after the first. -/
def writeMembers (depth : Nat) : List (String × JsonTree) → List Char
  | [] => []
  | (k, x) :: ms =>
    ',' :: newline depth ++ writeString k ++ ':' :: ' ' :: write depth x ++ writeMembers depth ms

end

/-- The text of a file that holds the tree. -/
def fileText (t : JsonTree) : String := String.ofList (t.write 0)

end JsonTree

end CrudBench
