/-!
# Texts inside texts

Whether one text occurs in another, anywhere.
-/

namespace CrudBench.Text

/-- The first list occurs in the second. -/
def occursIn (needle : List Char) : List Char → Bool
  | [] => needle.isEmpty
  | c :: cs => needle.isPrefixOf (c :: cs) || occursIn needle cs

/-- The first text occurs in the second. -/
def isPartOf (needle s : String) : Bool := occursIn needle.toList s.toList

/-- A list occurs in another one if it is an infix of it. -/
theorem occursIn_iff {needle cs : List Char} : occursIn needle cs = true ↔ needle <:+: cs := by
  induction cs with
  | nil => simp [occursIn]
  | cons c cs ih =>
    rw [occursIn, Bool.or_eq_true, ih, List.isPrefixOf_iff_prefix, List.infix_cons_iff]

end CrudBench.Text
