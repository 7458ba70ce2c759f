import CrudBench.Decimal.Written
import CrudBench.Text.Numeral
import CrudBench.Text.Quoted
import CrudBench.Value.Basic

/-!
# Values as text

A text is its own text. Every other value is shown with its brackets, and texts inside it are
quoted.
-/

namespace CrudBench.Value

mutual

/-- The value as it is shown inside another one. -/
def shown : Value → String
  | null => "None"
  | bool b => if b then "True" else "False"
  | int n => Text.decimal n
  | float x => Decimal.plainStyle.write x
  | str s => Text.quoted s
  | list items => "[" ++ ", ".intercalate (shownItems items) ++ "]"
  | object fields => "\x7b" ++ ", ".intercalate (shownFields fields) ++ "\x7d"

/-- Each of the items. -/
def shownItems : List Value → List String
  | [] => []
  | v :: vs => shown v :: shownItems vs

/-- Each of the fields, with its name. -/
def shownFields : List (String × Value) → List String
  | [] => []
  | (k, v) :: fs => (Text.quoted k ++ ": " ++ shown v) :: shownFields fs

end

/-- The value as text. -/
def text : Value → String
  | str s => s
  | v => shown v

end CrudBench.Value
