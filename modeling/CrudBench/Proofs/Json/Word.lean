import CrudBench.Metrics.Latency
import CrudBench.Proofs.Decimal.Shortest

/-!
# Words of JSON text

A word is what stands in JSON text without quotation marks: a number, a truth value or nothing. The
names of what is no number and of the infinities count as words too. Numbers are told from other
words, and whole ones from floats, by a machine that reads them character by character
(`NumberPart.next`). A whole number in decimal is a word that stands for it (`Json.word?_decimal`),
and so is what a file spells for a float (`Json.word?_float`). In what stands for a value there are
no characters but those of words (`Json.isWord_of_word?`).
-/

namespace CrudBench

/-- A JSON value. A float is kept as the text that stands for it. -/
inductive Json where
  | null
  | bool (b : Bool)
  | int (n : Int)
  | float (text : String)
  | str (s : String)
  | list (items : List Json)
  | object (members : List (String × Json))
  deriving Inhabited

/-- How much of a number was read. -/
inductive NumberPart where
  | start
  | minus
  | zero
  | whole
  | point
  | fraction
  | mark
  | sign
  | power
  deriving DecidableEq, Repr

namespace NumberPart

/-- What a character starts behind the whole part. -/
def afterWhole (c : Char) : Option NumberPart :=
  if c = '.' then some point else if c = 'e' ∨ c = 'E' then some mark else none

/-- How much of a number was read with one more character. -/
def next : NumberPart → Char → Option NumberPart
  | start, c =>
    if c = '-' then some minus
    else if c = '0' then some zero
    else if c.isDigit then some whole else none
  | minus, c => if c = '0' then some zero else if c.isDigit then some whole else none
  | zero, c => afterWhole c
  | whole, c => if c.isDigit then some whole else afterWhole c
  | point, c => if c.isDigit then some fraction else none
  | fraction, c =>
    if c.isDigit then some fraction else if c = 'e' ∨ c = 'E' then some mark else none
  | mark, c => if c = '+' ∨ c = '-' then some sign else if c.isDigit then some power else none
  | sign, c | power, c => if c.isDigit then some power else none

end NumberPart

namespace Json

/-- The whole number with these digits, behind a minus sign if it is negative. -/
def wholeNumber : List Char → Int
  | '-' :: ds => -(Nat.ofDigitChars 10 ds 0 : Int)
  | ds => Nat.ofDigitChars 10 ds 0

/-- The number that a word stands for. -/
def number? (word : String) : Option Json :=
  match word.toList.foldlM NumberPart.next .start with
  | some .zero | some .whole => some (int (wholeNumber word.toList))
  | some .fraction | some .power => some (float word)
  | _ => none

/-- The words that are no numerals. -/
def constants : List (String × Json) :=
  [("null", null), ("true", bool true), ("false", bool false), ("NaN", float "NaN"),
    ("Infinity", float "Infinity"), ("-Infinity", float "-Infinity")]

/-- What a word stands for. -/
def word? (word : String) : Option Json := (number? word).or (constants.lookup word)

/-- A character that may stand in a word: an ASCII letter or digit, a sign or a point. -/
def isWordChar (c : Char) : Bool :=
  c.isDigit || 'a' ≤ c && c ≤ 'z' || 'A' ≤ c && c ≤ 'Z' || c = '+' || c = '-' || c = '.'

end Json

/-! ## Parts of a number -/

namespace NumberPart

/-- Digits lead on within a part that takes them. -/
lemma foldlM_digits {p : NumberPart} (hp : ∀ c, c.isDigit = true → p.next c = some p)
    {cs : List Char} (h : ∀ c ∈ cs, c.isDigit = true) : cs.foldlM next p = some p := by
  induction cs with
  | nil => rfl
  | cons c cs ih =>
    obtain ⟨hc, hcs⟩ := List.forall_mem_cons.1 h
    rw [List.foldlM_cons, hp c hc]
    exact ih hcs

/-- Digits of which there is at least one lead to the part that the first one starts. -/
lemma foldlM_first {p q : NumberPart} (hp : ∀ c, c.isDigit = true → p.next c = some q)
    (hq : ∀ c, c.isDigit = true → q.next c = some q) {cs : List Char} (hne : cs ≠ [])
    (h : ∀ c ∈ cs, c.isDigit = true) : cs.foldlM next p = some q := by
  obtain ⟨c, cs, rfl⟩ := List.exists_cons_of_ne_nil hne
  obtain ⟨hc, hcs⟩ := List.forall_mem_cons.1 h
  rw [List.foldlM_cons, hp c hc]
  exact foldlM_digits hq hcs

lemma foldlM_fraction {cs : List Char} (hne : cs ≠ []) (h : ∀ c ∈ cs, c.isDigit = true) :
    cs.foldlM next point = some fraction :=
  foldlM_first (fun c hc => by simp [next, hc]) (fun c hc => by simp [next, hc]) hne h

lemma foldlM_power {cs : List Char} (hne : cs ≠ []) (h : ∀ c ∈ cs, c.isDigit = true) :
    cs.foldlM next sign = some power :=
  foldlM_first (fun c hc => by simp [next, hc]) (fun c hc => by simp [next, hc]) hne h

/-- Nothing was read yet but a sign. -/
def Opens (p : NumberPart) : Prop := p = start ∨ p = minus

lemma Opens.next_zero {p : NumberPart} (h : p.Opens) : p.next '0' = some zero := by
  rcases h with rfl | rfl <;> rfl

/-- Digits without a zero in front make a whole part. -/
lemma Opens.foldlM_leads {p : NumberPart} (hp : p.Opens) {ds : List Char}
    (h : Decimal.Leads ds) : ds.foldlM next p = some whole := by
  obtain ⟨c, cs, rfl, hzero⟩ := h.first
  obtain ⟨hc, hcs⟩ := List.forall_mem_cons.1 h.digits
  have hminus : c ≠ '-' := by
    rintro rfl
    cases hc
  have hnext : p.next c = some whole := by
    rcases hp with rfl | rfl <;> simp [next, hc, hzero, hminus]
  rw [List.foldlM_cons, hnext]
  exact foldlM_digits (fun c hc => by simp [next, hc]) hcs

/-- A decimal that is written positionally ends in a fraction. -/
lemma Opens.foldlM_positional {p : NumberPart} (hp : p.Opens) {ds : List Char}
    (h : Decimal.Leads ds) (place : Int) :
    (Decimal.positional ds place).foldlM next p = some fraction := by
  have hzeros (n : Nat) : ∀ c ∈ List.replicate n '0', c.isDigit = true := by
    intro c hc
    rw [List.eq_of_mem_replicate hc]
    rfl
  rw [Decimal.positional]
  split
  · rw [List.cons_append, List.cons_append, List.foldlM_cons, hp.next_zero]
    refine foldlM_fraction (List.append_ne_nil_of_right_ne_nil _ h.ne_nil) fun c hc => ?_
    exact (List.mem_append.1 hc).elim (hzeros _ c) (h.digits c)
  next hplace =>
    have hwhole : Decimal.Leads (ds.take place.toNat) := by
      refine h.of_prefix (List.take_prefix _ _) fun hnil => ?_
      rcases List.take_eq_nil_iff.1 hnil with hn | hn
      · omega
      · exact h.ne_nil hn
    have hleads := hwhole.append (hzeros (place.toNat - (ds.take place.toNat).length))
    rw [List.foldlM_append, hp.foldlM_leads hleads]
    show List.foldlM next point _ = _
    split
    · rfl
    next hne =>
      refine foldlM_fraction (by simpa using hne) fun c hc => ?_
      exact h.digits c (List.mem_of_mem_drop hc)

/-- The exponent with its mark and its sign. -/
lemma foldlM_exponent {p : NumberPart} (hp : p.next 'e' = some mark) (e : Int) (zeros : Nat) :
    ('e' :: (if e < 0 then '-' else '+') :: List.replicate zeros '0' ++
      Nat.toDigits 10 e.natAbs).foldlM next p = some power := by
  have hsign : next mark (if e < 0 then '-' else '+') = some sign := by
    split <;> rfl
  rw [List.cons_append, List.cons_append, List.foldlM_cons, hp]
  show (next mark (if e < 0 then '-' else '+')).bind _ = _
  rw [hsign]
  refine foldlM_power ?_ fun c hc => ?_
  · exact List.append_ne_nil_of_right_ne_nil _ Nat.toDigits_ne_nil
  · rcases List.mem_append.1 hc with hc | hc
    · rw [List.eq_of_mem_replicate hc]
      rfl
    · exact Decimal.isDigit_of_mem_toDigits c hc

/-- A decimal that is written with an exponent ends in it. -/
lemma Opens.foldlM_scientific {p : NumberPart} (hp : p.Opens) {ds : List Char}
    (h : Decimal.Leads ds) (e : Int) : (Decimal.scientific ds e).foldlM next p = some power := by
  obtain ⟨d, rest, rfl, -⟩ := h.first
  have hd : Decimal.Leads [d] := h.of_prefix (List.prefix_append [d] _) (List.cons_ne_nil _ _)
  have hwhole := hp.foldlM_leads hd
  cases rest with
  | nil =>
    show ([d] ++ ('e' :: (if e < 0 then '-' else '+') :: _ ++ _)).foldlM next p = _
    rw [List.foldlM_append, hwhole]
    exact foldlM_exponent (p := whole) rfl e _
  | cons d' ds =>
    have hfraction := foldlM_fraction (List.cons_ne_nil d' ds) (List.forall_mem_cons.1 h.digits).2
    show (([d] ++ (['.'] ++ (d' :: ds)) ++ 'e' :: (if e < 0 then '-' else '+') :: _) ++ _).foldlM
      next p = _
    rw [List.append_assoc, List.foldlM_append, List.foldlM_append, hwhole]
    show (List.foldlM next whole (['.'] ++ (d' :: ds)) >>= _) = _
    rw [List.foldlM_append]
    show (List.foldlM next point (d' :: ds) >>= _) = _
    rw [hfraction]
    exact foldlM_exponent (p := fraction) rfl e _

/-- A number goes on with a digit, a sign, a point or the mark of an exponent. -/
lemma wordChar_of_next {p q : NumberPart} {c : Char} (h : p.next c = some q) :
    Json.isWordChar c = true := by
  by_contra hc
  have hdigit : c.isDigit = false := by
    by_contra hd
    simp [Json.isWordChar, hd] at hc
  have hne : c ≠ '+' ∧ c ≠ '-' ∧ c ≠ '.' ∧ c ≠ 'e' ∧ c ≠ 'E' ∧ c ≠ '0' := by
    refine ⟨?_, ?_, ?_, ?_, ?_, ?_⟩ <;> (rintro rfl; exact hc (by decide))
  obtain ⟨hplus, hminus, hpoint, he, hE, hzero⟩ := hne
  cases p <;> simp [next, afterWhole, hdigit, hplus, hminus, hpoint, he, hE, hzero] at h

lemma wordChar_of_foldlM {cs : List Char} {p q : NumberPart} (h : cs.foldlM next p = some q) :
    ∀ c ∈ cs, Json.isWordChar c = true := by
  induction cs generalizing p with
  | nil => nofun
  | cons c cs ih =>
    rw [List.foldlM_cons] at h
    obtain ⟨p', hnext, hrest⟩ := Option.bind_eq_some_iff.1 h
    exact List.forall_mem_cons.2 ⟨wordChar_of_next hnext, ih hrest⟩

end NumberPart

namespace Json

/-! ## Words -/

/-- What may stand in a word is an ASCII character. -/
lemma toNat_lt_of_isWordChar {c : Char} (h : isWordChar c = true) : c.toNat < 128 := by
  simp only [isWordChar, Bool.or_eq_true, Bool.and_eq_true, decide_eq_true_eq] at h
  rcases h with ((((hdigit | ⟨-, hlower⟩) | ⟨-, hupper⟩) | rfl) | rfl) | rfl
  · exact Nat.lt_of_le_of_lt (Char.isDigit_iff_toNat.1 hdigit).2 (by decide)
  · have hle : c.toNat ≤ 'z'.toNat := hlower
    exact Nat.lt_of_le_of_lt hle (by decide)
  · have hle : c.toNat ≤ 'Z'.toNat := hupper
    exact Nat.lt_of_le_of_lt hle (by decide)
  all_goals decide

/-- The text is not empty, and all of its characters may stand in a word. -/
def IsWord (word : String) : Prop := word ≠ "" ∧ ∀ c ∈ word.toList, isWordChar c = true

/-- Where a word stands for a number, all of its characters are those of a number. -/
lemma isWord_of_number? {word : String} {v : Json} (h : number? word = some v) : IsWord word := by
  rw [number?] at h
  refine ⟨?_, ?_⟩
  · rintro rfl
    cases h
  · split at h
    all_goals first
      | exact NumberPart.wordChar_of_foldlM ‹_›
      | cases h

/-- What stands for a value is a word. -/
lemma isWord_of_word? {word : String} {v : Json} (h : word? word = some v) : IsWord word := by
  rcases Option.or_eq_some_iff.1 h with hn | ⟨-, hc⟩
  · exact isWord_of_number? hn
  · have hall : ∀ e ∈ constants, e.1 ≠ "" ∧ e.1.toList.all isWordChar = true := by decide
    obtain ⟨before, after, hsplit, -⟩ := List.lookup_eq_some_iff.1 hc
    obtain ⟨hne, hchars⟩ := hall (word, v) (hsplit ▸ List.mem_append_right _ List.mem_cons_self)
    exact ⟨hne, List.all_eq_true.1 hchars⟩

/-- The digits of a whole number and its sign give the number. -/
lemma wholeNumber_decimalChars (n : Int) : wholeNumber (Text.decimalChars n) = n := by
  rw [Text.decimalChars]
  split
  next hn =>
    show -(Nat.ofDigitChars 10 (Nat.toDigits 10 n.natAbs) 0 : Int) = n
    rw [Nat.ofDigitChars_ten_toDigits]
    omega
  next hn =>
    have hminus (ds : List Char) : Nat.toDigits 10 n.natAbs ≠ '-' :: ds := by
      intro h
      have hdigit := Decimal.isDigit_of_mem_toDigits (n := n.natAbs) '-' (by simp [h])
      cases hdigit
    have hvalue : wholeNumber (Nat.toDigits 10 n.natAbs) =
        Nat.ofDigitChars 10 (Nat.toDigits 10 n.natAbs) 0 := by
      rw [wholeNumber]
      exact hminus
    rw [hvalue, Nat.ofDigitChars_ten_toDigits]
    omega

/-- A whole number in decimal is read up to the end of its whole part. -/
lemma foldlM_decimalChars (n : Int) : ∃ p, (p = NumberPart.zero ∨ p = .whole) ∧
    (Text.decimalChars n).foldlM NumberPart.next .start = some p := by
  rw [Text.decimalChars]
  split
  next hn =>
    refine ⟨.whole, .inr rfl, ?_⟩
    exact NumberPart.Opens.foldlM_leads (.inr rfl) (Decimal.leads_toDigits (by omega))
  next hn =>
    by_cases hzero : n.natAbs = 0
    · rw [hzero]
      exact ⟨.zero, .inl rfl, rfl⟩
    · refine ⟨.whole, .inr rfl, ?_⟩
      exact NumberPart.Opens.foldlM_leads (.inl rfl) (Decimal.leads_toDigits hzero)

/-- A whole number in decimal stands for itself. -/
lemma word?_decimal (n : Int) : word? (Text.decimal n) = some (int n) := by
  obtain ⟨p, hp, hfold⟩ := foldlM_decimalChars n
  have hnumber : number? (Text.decimal n) = some (int n) := by
    rw [number?, Text.decimal, String.toList_ofList, hfold, wholeNumber_decimalChars]
    rcases hp with rfl | rfl <;> rfl
  rw [word?, hnumber]
  rfl

/-- A word that is read up to its fraction or its exponent stands for a float. -/
lemma word?_of_foldlM {word : String} {p : NumberPart}
    (h : word.toList.foldlM NumberPart.next .start = some p)
    (hp : p = .fraction ∨ p = .power) : word? word = some (float word) := by
  have hnumber : number? word = some (float word) := by
    rw [number?, h]
    rcases hp with rfl | rfl <;> rfl
  rw [word?, hnumber]
  rfl

/-- The digits and the exponent of a positive float are read as those of a float. -/
lemma foldlM_writeDecimal {p : NumberPart} (hp : p.Opens) (style : Decimal.FloatStyle)
    {d : Decimal} (hd : d.coefficient ≠ 0) :
    ∃ q, (q = NumberPart.fraction ∨ q = .power) ∧
      (style.writeDecimal d).foldlM NumberPart.next p = some q := by
  have hleads := (Decimal.leads_toDigits hd).significant
  rw [Decimal.FloatStyle.writeDecimal]
  split
  · exact ⟨.fraction, .inl rfl, hp.foldlM_positional hleads _⟩
  · exact ⟨.power, .inr rfl, hp.foldlM_scientific hleads _⟩

/-- What a file spells for a float stands for it. -/
lemma word?_float (x : Float) :
    word? (Decimal.fileStyle.write x) = some (float (Decimal.fileStyle.write x)) := by
  rw [Decimal.FloatStyle.write]
  cases Decimal.Binary.ofFloat x with
  | nan => rfl
  | infinite negative => cases negative <;> rfl
  | finite negative m q =>
    have hunsigned {p : NumberPart} (hp : p.Opens) :
        ∃ q', (q' = NumberPart.fraction ∨ q' = .power) ∧
          (if m = 0 then ['0', '.', '0'] else
            Decimal.fileStyle.writeDecimal (Decimal.shortest m q)).foldlM NumberPart.next p =
              some q' := by
      split
      · refine ⟨.fraction, .inl rfl, ?_⟩
        rw [List.foldlM_cons, hp.next_zero]
        rfl
      next hm => exact foldlM_writeDecimal hp _ (Decimal.shortest_coefficient_pos hm q)
    have hfold : ∃ q', (q' = NumberPart.fraction ∨ q' = .power) ∧
        (Decimal.fileStyle.writeBinary (.finite negative m q)).foldlM NumberPart.next .start =
          some q' := by
      cases negative with
      | true => exact hunsigned (.inr rfl)
      | false => exact hunsigned (.inl rfl)
    obtain ⟨q', hq', hfold⟩ := hfold
    exact word?_of_foldlM (by rw [String.toList_ofList]; exact hfold) hq'

end Json

end CrudBench
