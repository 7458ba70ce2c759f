import CrudBench.Text.Blank
import Mathlib.Data.List.TakeWhile
import Mathlib.Tactic.Lemma

/-!
# Stripping

Stripping drops characters of a class from both ends of a text. What is left has none of them at its
ends, and where there are none at the ends nothing is dropped; so stripping twice is stripping once.
-/

namespace CrudBench.Text

/-- The characters without those of a class at both ends. -/
def strip (p : Char → Bool) (cs : List Char) : List Char :=
  ((cs.dropWhile p).reverse.dropWhile p).reverse

/-- Neither the first nor the last of the characters is of the class. -/
structure Stripped (p : Char → Bool) (cs : List Char) : Prop where
  head : ∀ c, cs.head? = some c → p c = false
  last : ∀ c, cs.getLast? = some c → p c = false

variable {p : Char → Bool} {cs : List Char}

/-- Nothing is dropped where no character of the class comes first. -/
lemma dropWhile_of_head (h : ∀ c, cs.head? = some c → p c = false) : cs.dropWhile p = cs := by
  cases cs with
  | nil => rfl
  | cons c cs => rw [List.dropWhile_cons_of_neg (by simp [h c rfl])]

/-- What is left starts with no character of the class. -/
lemma head_dropWhile {c : Char} (h : (cs.dropWhile p).head? = some c) : p c = false := by
  induction cs with
  | nil => cases h
  | cons d cs ih =>
    rw [List.dropWhile_cons] at h
    split at h
    · exact ih h
    next hd =>
      cases h
      simpa using hd

/-- Nothing is stripped off what is stripped. -/
lemma Stripped.strip_eq (h : Stripped p cs) : strip p cs = cs := by
  have hlast : cs.reverse.dropWhile p = cs.reverse :=
    dropWhile_of_head fun c hc => h.last c (by rwa [List.head?_reverse] at hc)
  rw [strip, dropWhile_of_head h.head, hlast, List.reverse_reverse]

/-- What was stripped is stripped. -/
lemma stripped_strip (p : Char → Bool) (cs : List Char) : Stripped p (strip p cs) := by
  constructor
  · intro c hc
    -- what is left after the end was stripped, too, starts as it did before
    obtain ⟨front, hfront⟩ := List.dropWhile_suffix (l := (cs.dropWhile p).reverse) p
    have hcs : cs.dropWhile p = strip p cs ++ front.reverse := by
      rw [strip, ← List.reverse_append, hfront, List.reverse_reverse]
    have hhead : (cs.dropWhile p).head? = some c := by
      rw [hcs, List.head?_append, hc]
      rfl
    exact head_dropWhile hhead
  · intro c hc
    rw [strip, List.getLast?_reverse] at hc
    exact head_dropWhile hc

/-- Characters of which none is of the class are stripped. -/
lemma stripped_of_forall (h : ∀ c ∈ cs, p c = false) : Stripped p cs :=
  ⟨fun c hc => h c (List.mem_of_head? hc), fun c hc => h c (List.mem_of_getLast? hc)⟩

/-- It can be computed that characters are stripped as none of them is of the class. -/
lemma stripped_of_any (h : cs.any p = false) : Stripped p cs :=
  stripped_of_forall fun c hc => by simpa using List.any_eq_false.1 h c hc

/-- What starts and ends as stripped characters do is stripped. -/
lemma Stripped.append {es : List Char} (h : Stripped p cs) (hcs : cs ≠ []) (he : Stripped p es)
    (hes : es ≠ []) (ds : List Char) : Stripped p (cs ++ ds ++ es) := by
  constructor
  · intro c hc
    obtain ⟨d, ds', rfl⟩ := List.exists_cons_of_ne_nil hcs
    exact h.head c hc
  · intro c hc
    have hlast : es.getLast?.isSome = true := by simpa using hes
    rw [List.getLast?_append, Option.or_of_isSome hlast] at hc
    exact he.last c hc

/-- What is joined from stripped parts is stripped, whatever stands between them. -/
lemma stripped_intercalate (sep : List Char) {css : List (List Char)} (hne : css ≠ [])
    (h : ∀ cs ∈ css, Stripped p cs ∧ cs ≠ []) :
    Stripped p (sep.intercalate css) ∧ sep.intercalate css ≠ [] := by
  induction css with
  | nil => exact absurd rfl hne
  | cons cs css ih =>
    obtain ⟨⟨hcs, hnil⟩, hrest⟩ := List.forall_mem_cons.1 h
    by_cases hc : css = []
    · rw [hc, List.intercalate_singleton]
      exact ⟨hcs, hnil⟩
    · obtain ⟨hs, hn⟩ := ih hc hrest
      rw [List.intercalate_cons_of_ne_nil hc]
      exact ⟨hcs.append hnil hs hn sep, by simp [hnil]⟩

/-- Stripping adds no characters. -/
lemma mem_of_mem_strip {c : Char} (h : c ∈ strip p cs) : c ∈ cs := by
  rw [strip, List.mem_reverse] at h
  exact (List.dropWhile_sublist p).mem (List.mem_reverse.1 ((List.dropWhile_sublist p).mem h))

/-- Nothing is left exactly if all characters are of the class. -/
lemma strip_eq_nil : strip p cs = [] ↔ ∀ c ∈ cs, p c = true := by
  rw [strip, List.reverse_eq_nil_iff, List.dropWhile_eq_nil_iff]
  constructor
  · intro h
    -- what is left at the front would start with a character that is none of the class
    cases hd : cs.dropWhile p with
    | nil => exact List.dropWhile_eq_nil_iff.1 hd
    | cons c ds =>
      have hc : (cs.dropWhile p).head? = some c := by rw [hd, List.head?_cons]
      have hp := h c (List.mem_reverse.2 (List.mem_of_head? hc))
      rw [head_dropWhile hc] at hp
      cases hp
  · intro h c hc
    exact h c ((List.dropWhile_sublist p).mem (List.mem_reverse.1 hc))

/-! ## Blanks -/

lemma trimChars_eq (cs : List Char) : trimChars cs = strip isBlankChar cs := rfl

/-- The text has no blanks around it. -/
def Trimmed (s : String) : Prop := Stripped isBlankChar s.toList

/-- What was trimmed has no blanks around it. -/
lemma trimmed_trim (s : String) : Trimmed (trim s) := by
  rw [Trimmed, trim, String.toList_ofList]
  exact stripped_strip isBlankChar s.toList

/-- What has no blanks around it is not changed by trimming. -/
lemma Trimmed.trim_eq {s : String} (h : Trimmed s) : trim s = s := by
  rw [trim, trimChars_eq, h.strip_eq, String.ofList_toList]

/-- A text is blank if nothing is left of it. -/
lemma isBlank_iff {s : String} : isBlank s = true ↔ trim s = "" := by
  rw [isBlank, trim, trimChars_eq, ← String.toList_inj, String.toList_ofList, String.toList_empty,
    strip_eq_nil, List.all_eq_true]

end CrudBench.Text
