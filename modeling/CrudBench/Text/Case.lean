import CrudBench.Text.CaseTable

/-!
# Upper and lower case

Full case conversion. It works character by character, except that a capital sigma becomes the
final small sigma where it ends a word: after a letter, and with no letter following.
-/

namespace CrudBench.Text

/-- The nearest character that is not ignorable has a case. -/
def meetsCased (cs : List Char) : Bool :=
  match cs.dropWhile caseIgnorables.contains with
  | [] => false
  | c :: _ => casedChars.contains c

/-- A capital sigma between these characters (the preceding ones nearest first) ends a word. -/
def endsWord (before after : List Char) : Bool := meetsCased before && !meetsCased after

/-- Lower case of the second list, which follows the first (given nearest first). -/
def lowerAfter (before : List Char) : List Char → List Char
  | [] => []
  | c :: rest =>
    (if c = 'Σ' then [if endsWord before rest then 'ς' else 'σ'] else lowerMap.apply c) ++
      lowerAfter (c :: before) rest

/-- The text in lower case. -/
def lower (s : String) : String := String.ofList (lowerAfter [] s.toList)

/-- The text in upper case. -/
def upper (s : String) : String := String.ofList (s.toList.flatMap upperMap.apply)

end CrudBench.Text
