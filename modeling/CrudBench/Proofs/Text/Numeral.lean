import CrudBench.Proofs.Text.Blank
import CrudBench.Text.Numeral
import Mathlib.Algebra.Group.Nat.Defs

/-!
# Numerals that are read back

A number that was read is written with no more digits than may be read, so reading what is written
of it gives it back (`Text.readInt?_decimal`). Numbers that are padded with zeros are told apart by
their numerals, however many digits they have (`Text.paddedDecimal_injective`).
-/

namespace CrudBench.Text

/-! ## Digits -/

/-- An ASCII digit has its usual value. -/
lemma digitValue?_of_isDigit {c : Char} (h : c.isDigit = true) :
    digitValue? c = some (c.toNat - '0'.toNat) := by
  obtain ⟨hlo, hhi⟩ := Char.isDigit_iff_toNat.1 h
  have hlo : (48 : Nat) ≤ c.toNat := hlo
  have hhi : c.toNat < 48 + 10 := Nat.lt_succ_of_le hhi
  simp [digitValue?, zeros, hlo, hhi]

/-- The value of a digit is less than ten. -/
lemma lt_ten_of_digitValue? {c : Char} {d : Nat} (h : digitValue? c = some d) : d < 10 := by
  obtain ⟨z, hz, rfl⟩ := Option.map_eq_some_iff.1 h
  have hp := List.find?_some hz
  simp only [Bool.and_eq_true, decide_eq_true_eq] at hp
  omega

/-- Where no underscore follows a digit its value comes before those of the other digits. -/
lemma digitValues?_cons {c : Char} {cs : List Char} (hne : cs ≠ [])
    (hu : ∀ ds, cs ≠ '_' :: ds) :
    digitValues? (c :: cs) = do return (← digitValue? c) :: (← digitValues? cs) := by
  obtain ⟨d, ds, rfl⟩ := List.exists_cons_of_ne_nil hne
  have hd : d ≠ '_' := fun he => hu ds (he ▸ rfl)
  rw [digitValues?]
  · nofun
  · rintro ds ⟨⟩
    exact hd rfl

/-- The values of digits without underscores between them. -/
lemma digitValues?_of_isDigit {cs : List Char} (hne : cs ≠ [])
    (h : ∀ c ∈ cs, c.isDigit = true) :
    digitValues? cs = some (cs.map fun c => c.toNat - '0'.toNat) := by
  induction cs using digitValues?.induct with
  | case1 => exact absurd rfl hne
  | case2 c => simp [digitValues?, digitValue?_of_isDigit (h c List.mem_cons_self)]
  | case3 c cs ih => exact absurd (h '_' (by simp)) (by decide)
  | case4 c cs hnil hunder ih =>
    have hcs : cs ≠ [] := fun he => hnil he
    obtain ⟨hc, htail⟩ := List.forall_mem_cons.1 h
    rw [digitValues?_cons hcs hunder, digitValue?_of_isDigit hc, ih hcs htail]
    rfl

/-- The values of digits are less than ten. -/
lemma lt_ten_of_digitValues? {cs : List Char} {ds : List Nat} (h : digitValues? cs = some ds) :
    ∀ d ∈ ds, d < 10 := by
  induction cs using digitValues?.induct generalizing ds with
  | case1 => cases h
  | case2 c =>
    obtain ⟨d, hd, rfl⟩ := Option.map_eq_some_iff.1 h
    simpa using lt_ten_of_digitValue? hd
  | case3 c cs ih =>
    obtain ⟨d, hd, h⟩ := Option.bind_eq_some_iff.1 h
    obtain ⟨es, hes, h⟩ := Option.bind_eq_some_iff.1 h
    cases h
    exact List.forall_mem_cons.2 ⟨lt_ten_of_digitValue? hd, ih hes⟩
  | case4 c cs hnil hunder ih =>
    rw [digitValues?_cons hnil hunder] at h
    obtain ⟨d, hd, h⟩ := Option.bind_eq_some_iff.1 h
    obtain ⟨es, hes, h⟩ := Option.bind_eq_some_iff.1 h
    cases h
    exact List.forall_mem_cons.2 ⟨lt_ten_of_digitValue? hd, ih hes⟩

/-- A number of so many digits is less than the power of ten. -/
lemma foldl_lt_pow {ds : List Nat} (h : ∀ d ∈ ds, d < 10) (n : Nat) :
    ds.foldl (fun n d => 10 * n + d) n < (n + 1) * 10 ^ ds.length := by
  induction ds generalizing n with
  | nil => simp
  | cons d ds ih =>
    obtain ⟨hd, hds⟩ := List.forall_mem_cons.1 h
    calc
      _ < (10 * n + d + 1) * 10 ^ ds.length := ih hds _
      _ ≤ ((n + 1) * 10) * 10 ^ ds.length := Nat.mul_le_mul_right _ (by omega)
      _ = (n + 1) * 10 ^ (ds.length + 1) := by rw [Nat.mul_assoc, Nat.pow_succ']

/-! ## Numbers that can be read -/

/-- The number has no more digits than may be read. -/
def Readable (n : Int) : Prop := (Nat.toDigits 10 n.natAbs).length ≤ maxDigits

/-- A number that was read has no more digits than may be read. -/
lemma length_toDigits_of_natOfChars? {cs : List Char} {n : Nat} (h : natOfChars? cs = some n) :
    (Nat.toDigits 10 n).length ≤ maxDigits := by
  obtain ⟨ds, hds, hn⟩ := Option.bind_eq_some_iff.1 h
  rw [natOfDigits?] at hn
  split at hn
  next hlen =>
    cases hn
    rw [Nat.length_toDigits_le_iff (by decide) (by decide)]
    calc
      _ < (0 + 1) * 10 ^ ds.length := foldl_lt_pow (lt_ten_of_digitValues? hds) 0
      _ ≤ 10 ^ maxDigits := by
        rw [Nat.one_mul]
        exact Nat.pow_le_pow_right (by decide) hlen
  · cases hn

/-- The absolute value of a number was read from its digits. -/
lemma exists_natOfChars? {cs : List Char} {n : Int} (h : intOfChars? cs = some n) :
    ∃ ds, natOfChars? ds = some n.natAbs := by
  unfold intOfChars? at h
  split at h
  next ds =>
    refine ⟨ds, ?_⟩
    cases hm : natOfChars? ds with
    | none => simp [hm] at h
    | some m =>
      have hn : -(m : Int) = n := by simpa [hm] using h
      simp [← hn]
  all_goals
    obtain ⟨m, hm, rfl⟩ := Option.map_eq_some_iff.1 h
    exact ⟨_, hm⟩

/-- A number that was read is readable. -/
lemma readable_of_readInt? {s : String} {n : Int} (h : readInt? s = some n) : Readable n := by
  obtain ⟨ds, hds⟩ := exists_natOfChars? h
  exact length_toDigits_of_natOfChars? hds

/-- The digits of a number give the number. -/
lemma natOfChars?_toDigits {n : Nat} (h : (Nat.toDigits 10 n).length ≤ maxDigits) :
    natOfChars? (Nat.toDigits 10 n) = some n := by
  have hd : ∀ c ∈ Nat.toDigits 10 n, c.isDigit = true := fun c hc =>
    Nat.isDigit_of_mem_toDigits (by decide) (by decide) hc
  rw [natOfChars?, digitValues?_of_isDigit Nat.toDigits_ne_nil hd]
  show natOfDigits? _ = _
  rw [natOfDigits?, if_pos (by simpa using h), List.foldl_map, ← Nat.ofDigitChars_eq_foldl,
    Nat.ofDigitChars_ten_toDigits]

/-- The numeral of a number starts with no blank and ends with none. -/
lemma decimalChars_not_blank {p : Char → Bool} (hp : ∀ c, c.isDigit = true → p c = false)
    (hminus : p '-' = false) (n : Int) : Stripped p (decimalChars n) := by
  refine stripped_of_forall fun c hc => ?_
  have hd : c ∈ Nat.toDigits 10 n.natAbs → p c = false := fun hm =>
    hp c (Nat.isDigit_of_mem_toDigits (by decide) (by decide) hm)
  rw [decimalChars] at hc
  split at hc
  · rcases List.mem_cons.1 hc with rfl | hc
    · exact hminus
    · exact hd hc
  · exact hd hc

/-- A digit is not blank. -/
lemma isBlankChar_of_isDigit {c : Char} (h : c.isDigit = true) : isBlankChar c = false := by
  obtain ⟨hlo, hhi⟩ := Char.isDigit_iff_toNat.1 h
  have hlo : (48 : Nat) ≤ c.toNat := hlo
  have hhi : c.toNat ≤ 57 := hhi
  simp only [isBlankChar, CharSet.contains, blanks, List.any_cons, List.any_nil, Bool.or_false]
  simp
  omega

/-- A numeral has no blanks around it. -/
lemma trimmed_decimal (n : Int) : Trimmed (decimal n) := by
  rw [Trimmed, decimal, String.toList_ofList]
  exact decimalChars_not_blank (fun _ => isBlankChar_of_isDigit) (by decide) n

/-- A numeral is not empty. -/
lemma decimal_ne_empty (n : Int) : decimal n ≠ "" := by
  intro h
  have hnil : decimalChars n = [] := by
    rw [← String.toList_ofList (l := decimalChars n), ← decimal, h]
    rfl
  rw [decimalChars] at hnil
  split at hnil
  · cases hnil
  · exact Nat.toDigits_ne_nil hnil

/-- The numeral of a number is read as the number. -/
lemma intOfChars?_decimalChars {n : Int} (h : Readable n) :
    intOfChars? (decimalChars n) = some n := by
  have hd := natOfChars?_toDigits h
  rw [decimalChars]
  split
  next hn =>
    have hneg : -(n.natAbs : Int) = n := by omega
    simp only [intOfChars?, hd]
    exact congrArg some hneg
  next hn =>
    obtain ⟨c, cs, hcs⟩ :=
      List.exists_cons_of_ne_nil (Nat.toDigits_ne_nil (b := 10) (n := n.natAbs))
    have hc : c.isDigit = true :=
      Nat.isDigit_of_mem_toDigits (b := 10) (n := n.natAbs) (by decide) (by decide) (by simp [hcs])
    have hpos : (n.natAbs : Int) = n := by omega
    rw [hcs] at hd ⊢
    rw [intOfChars?, hd]
    · exact congrArg some hpos
    · rintro ds ⟨⟩
      cases hc
    · rintro ds ⟨⟩
      cases hc

/-- What is written of a number is read as the number, if it is readable. -/
theorem readInt?_decimal {n : Int} (h : Readable n) : readInt? (decimal n) = some n := by
  have hs : Stripped isNumberBlank (decimalChars n) :=
    decimalChars_not_blank (fun c hc => by simp [isNumberBlank, isBlankChar_of_isDigit hc])
      (by decide) n
  have ht : trimNumber (decimalChars n) = decimalChars n := hs.strip_eq
  rw [readInt?, decimal, String.toList_ofList, ht, intOfChars?_decimalChars h]

/-! ## Padded numerals -/

/-- The zeros before a padded numeral do not count. -/
lemma ofDigitChars_padded (width n : Nat) :
    Nat.ofDigitChars 10 (paddedDecimal width n).toList 0 = n := by
  have hn : ¬(n : Int) < 0 := by omega
  simp only [paddedDecimal, if_neg hn, String.toList_ofList, List.nil_append,
    Nat.ofDigitChars_append, Nat.ofDigitChars_replicate_zero, Nat.mul_zero, Int.natAbs_natCast,
    Nat.ofDigitChars_ten_toDigits]

/-- Different numbers have different padded numerals. -/
theorem paddedDecimal_injective (width : Nat) :
    Function.Injective fun n : Nat => paddedDecimal width n := by
  intro m n h
  rw [← ofDigitChars_padded width m, ← ofDigitChars_padded width n]
  exact congrArg (fun s => Nat.ofDigitChars 10 (String.toList s) 0) h

end CrudBench.Text
