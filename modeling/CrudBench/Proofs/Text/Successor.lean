import Mathlib.Tactic.Lemma

/-!
# The text next to a text

Texts are ordered by their characters, so the least text above a text is the text with the least
character behind it (`Text.successor_le_iff`).
-/

namespace CrudBench.Text

/-- The text with the least character behind it. -/
def successor (s : String) : String := s.push '\x00'

/-- Characters are ordered by their codes. -/
lemma char_lt_iff {c d : Char} : c < d ↔ c.toNat < d.toNat := Iff.rfl

/-- Of two different characters one is less. -/
lemma lt_or_gt_of_ne {c d : Char} (h : c ≠ d) : c < d ∨ d < c :=
  Nat.lt_or_gt_of_ne fun he => h (Char.toNat_inj.1 he)

/-- What is below characters with the least one behind them is not above them. -/
lemma lt_append_nul {cs ds : List Char} : ds < cs ++ ['\x00'] ↔ ¬cs < ds := by
  induction cs generalizing ds with
  | nil =>
    cases ds with
    | nil => simp
    | cons d ds =>
      have hd : ¬d < '\x00' := fun h => Nat.not_lt_zero _ (char_lt_iff.1 h)
      simp [List.cons_lt_cons_iff, hd]
  | cons c cs ih =>
    cases ds with
    | nil => simp
    | cons d ds =>
      rw [List.cons_append, List.cons_lt_cons_iff, List.cons_lt_cons_iff, ih]
      by_cases h : d = c
      · subst h
        simp
      · rcases lt_or_gt_of_ne h with hlt | hlt
        · simp [hlt, Ne.symm h, Char.lt_asymm hlt]
        · simp [hlt, h, Char.lt_asymm hlt]

/-- What is above a text are the texts from its successor on. -/
theorem successor_le_iff {s t : String} : successor s ≤ t ↔ s < t := by
  have h : t < successor s ↔ ¬s < t := by
    show t.toList < (s.push '\x00').toList ↔ ¬s.toList < t.toList
    rw [String.toList_push]
    exact lt_append_nul
  show ¬t < successor s ↔ s < t
  rw [h, Decidable.not_not]

end CrudBench.Text
