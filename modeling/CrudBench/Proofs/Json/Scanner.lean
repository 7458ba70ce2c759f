import CrudBench.Json.Tree
import CrudBench.Proofs.Json.Word

/-!
# Tokens of JSON text

JSON text is cut into words, texts between quotation marks, and the marks around and between values.
The scanner reads character by character (`Scanner.step`); a text is put together from characters
and 16-bit units, of which two may stand for one character (`Partial.addUnit`). What is written of a
text is scanned as that text, whatever characters it has (`Scanner.tokens?_writeString`).
-/

namespace CrudBench.Json

/-- A mark around or between values. -/
inductive Mark where
  | openList
  | closeList
  | openObject
  | closeObject
  | comma
  | colon
  deriving DecidableEq, Repr

/-- The mark that a character is. -/
def mark? (c : Char) : Option Mark :=
  if c = '[' then some .openList
  else if c = ']' then some .closeList
  else if c = '\x7b' then some .openObject
  else if c = '\x7d' then some .closeObject
  else if c = ',' then some .comma
  else if c = ':' then some .colon
  else none

/-- A piece of JSON text. -/
inductive Token where
  | word (word : String)
  | text (s : String)
  | mark (m : Mark)
  deriving DecidableEq, Repr

/-- A character that separates pieces. -/
def isBlank (c : Char) : Bool := c = ' ' || c = '\n' || c = '\r' || c = '\t'

/-- The value of a hexadecimal digit. -/
def hexValue? (c : Char) : Option Nat :=
  if c.isDigit then some (c.toNat - '0'.toNat)
  else if 'a' ≤ c ∧ c ≤ 'f' then some (c.toNat - 'a'.toNat + 10)
  else if 'A' ≤ c ∧ c ≤ 'F' then some (c.toNat - 'A'.toNat + 10)
  else none

/-- The character for which a letter stands behind a backslash. -/
def escaped? (c : Char) : Option Char :=
  if c = '"' ∨ c = '\\' ∨ c = '/' then some c
  else if c = 'n' then some '\n'
  else if c = 'r' then some '\r'
  else if c = 't' then some '\t'
  else if c = 'f' then some '\x0c'
  else if c = 'b' then some '\x08'
  else none

/-- A text of which a part was read: its characters, and the first half of a surrogate pair if the
second one is still to come. -/
structure Partial where
  chars : List Char
  half : Option Nat

namespace Partial

/-- The first half of a surrogate pair. -/
def isHigh (n : Nat) : Bool := 0xd800 ≤ n && n < 0xdc00

/-- The second half of a surrogate pair. -/
def isLow (n : Nat) : Bool := 0xdc00 ≤ n && n < 0xe000

/-- Reads a character. -/
def add (t : Partial) (c : Char) : Option Partial :=
  if t.half.isNone then some ⟨t.chars ++ [c], none⟩ else none

/-- Reads a 16-bit unit. Each half of a surrogate pair is refused without the other one. -/
def addUnit (t : Partial) (n : Nat) : Option Partial :=
  match t.half with
  | none =>
    if isHigh n then some ⟨t.chars, some n⟩
    else if isLow n then none
    else some ⟨t.chars ++ [Char.ofNat n], none⟩
  | some high =>
    if isLow n then
      some ⟨t.chars ++ [Char.ofNat (0x10000 + (high - 0xd800) * 0x400 + (n - 0xdc00))], none⟩
    else none

/-- The text, unless the second half of a surrogate pair is missing. -/
def whole? (t : Partial) : Option String :=
  if t.half.isNone then some (String.ofList t.chars) else none

variable {c : Char}

/-- A character of 16 bits is read from its one unit. -/
lemma addUnit_char (hc : c.toNat < 0x10000) (before : List Char) :
    addUnit ⟨before, none⟩ c.toNat = some ⟨before ++ [c], none⟩ := by
  have hvalid : c.toNat < 0xd800 ∨ 0xdfff < c.toNat ∧ c.toNat < 0x110000 := c.valid
  have hhigh : isHigh c.toNat = false := by
    simp only [isHigh, Bool.and_eq_false_iff, decide_eq_false_iff_not]
    omega
  have hlow : isLow c.toNat = false := by
    simp only [isLow, Bool.and_eq_false_iff, decide_eq_false_iff_not]
    omega
  simp [addUnit, hhigh, hlow]

/-- A character beyond 16 bits is read from the two halves of its surrogate pair. -/
lemma addUnit_pair (hc : 0x10000 ≤ c.toNat) (before : List Char) :
    let high := 0xd800 + (c.toNat - 0x10000) / 0x400
    let low := 0xdc00 + (c.toNat - 0x10000) % 0x400
    addUnit ⟨before, none⟩ high = some ⟨before, some high⟩ ∧
      addUnit ⟨before, some high⟩ low = some ⟨before ++ [c], none⟩ := by
  intro high low
  have hvalid : c.toNat < 0xd800 ∨ 0xdfff < c.toNat ∧ c.toNat < 0x110000 := c.valid
  have hhigh : isHigh high = true := by
    simp only [isHigh, Bool.and_eq_true, decide_eq_true_eq]
    omega
  have hlow : isLow low = true := by
    simp only [isLow, Bool.and_eq_true, decide_eq_true_eq]
    omega
  have hpair : 0x10000 + (high - 0xd800) * 0x400 + (low - 0xdc00) = c.toNat := by omega
  refine ⟨by simp only [addUnit, hhigh, if_true], ?_⟩
  simp only [addUnit, hlow, if_true, hpair, Char.ofNat_toNat]

end Partial

/-- Where in JSON text a character stands. -/
inductive Scanner where
  | between
  | word (cs : List Char)
  | text (t : Partial)
  | escape (t : Partial)
  | unit (t : Partial) (value : Nat) (more : Nat)

namespace Scanner

/-- What a character makes outside of words and texts. -/
def enter (c : Char) : Option (List Token × Scanner) :=
  if isWordChar c then some ([], word [c])
  else if isBlank c then some ([], between)
  else if c = '"' then some ([], text ⟨[], none⟩)
  else (mark? c).map fun m => ([.mark m], between)

/-- The pieces that a character completes, and where the next one stands. -/
def step : Scanner → Char → Option (List Token × Scanner)
  | between, c => enter c
  | word cs, c =>
    if isWordChar c then some ([], word (cs ++ [c]))
    else (enter c).map fun r => (.word (String.ofList cs) :: r.1, r.2)
  | text t, c =>
    if c = '"' then t.whole?.map fun s => ([.text s], between)
    else if c = '\\' then some ([], escape t)
    else if c < ' ' then none
    else (t.add c).map fun t => ([], text t)
  | escape t, c =>
    if c = 'u' then some ([], unit t 0 3)
    else ((escaped? c).bind t.add).map fun t => ([], text t)
  | unit t value more, c => do
    let value := 16 * value + (← hexValue? c)
    match more with
    | 0 => (t.addUnit value).map fun t => ([], text t)
    | more + 1 => some ([], unit t value more)

/-- The piece that the end of the text completes. -/
def finish : Scanner → Option (List Token)
  | between => some []
  | word cs => some [.word (String.ofList cs)]
  | _ => none

/-- The pieces of JSON text, from somewhere in it. -/
def tokens? : Scanner → List Char → Option (List Token)
  | s, [] => s.finish
  | s, c :: cs => do
    let (ts, s) ← s.step c
    (s.tokens? cs).map (ts ++ ·)

/-! ## Steps -/

variable {s u : Scanner} {c : Char} {cs rest : List Char}

/-- A character that completes nothing. -/
lemma tokens?_of_step (h : s.step c = some ([], u)) : s.tokens? (c :: cs) = u.tokens? cs := by
  rw [tokens?, h]
  show (u.tokens? cs).map ([] ++ ·) = _
  simp

lemma tokens?_mark {m : Mark} (h : between.step c = some ([.mark m], between)) :
    between.tokens? (c :: cs) = (between.tokens? cs).map (.mark m :: ·) := by
  rw [tokens?, h]
  rfl

lemma tokens?_blanks (n : Nat) :
    between.tokens? (List.replicate n ' ' ++ rest) = between.tokens? rest := by
  induction n with
  | zero => rfl
  | succ n ih =>
    rw [List.replicate_succ, List.cons_append, tokens?_of_step (u := between) rfl, ih]

lemma tokens?_newline (depth : Nat) :
    between.tokens? (JsonTree.newline depth ++ rest) = between.tokens? rest := by
  rw [JsonTree.newline, List.cons_append, tokens?_of_step (u := between) rfl, tokens?_blanks]

/-! ## Words -/

/-- A word ends here. -/
def Ends (rest : List Char) : Prop := ∀ c ∈ rest.head?, isWordChar c = false

/-- A word goes on up to its end. -/
lemma tokens?_word_append (h : ∀ c ∈ cs, isWordChar c = true) (hrest : Ends rest)
    (before : List Char) : (word before).tokens? (cs ++ rest) =
      (between.tokens? rest).map (.word (String.ofList (before ++ cs)) :: ·) := by
  induction cs generalizing before with
  | nil =>
    cases rest with
    | nil => simp [tokens?, finish]
    | cons c rest =>
      have hc : isWordChar c = false := hrest c rfl
      rw [List.nil_append, List.append_nil, tokens?, tokens?, step, step, hc]
      cases enter c <;> simp [Function.comp_def]
  | cons c cs ih =>
    obtain ⟨hc, hcs⟩ := List.forall_mem_cons.1 h
    rw [List.cons_append, tokens?_of_step (u := word (before ++ [c])) (by simp [step, hc]),
      ih hcs, List.append_assoc]
    rfl

/-- A word is scanned as a word. -/
lemma tokens?_word {w : String} (h : IsWord w) (hrest : Ends rest) :
    between.tokens? (w.toList ++ rest) = (between.tokens? rest).map (.word w :: ·) := by
  obtain ⟨hne, hchars⟩ := h
  obtain ⟨c, cs, hw⟩ := List.exists_cons_of_ne_nil (mt String.toList_eq_nil_iff.1 hne)
  rw [hw] at hchars ⊢
  obtain ⟨hc, hcs⟩ := List.forall_mem_cons.1 hchars
  have hstep : between.step c = some ([], word [c]) := if_pos hc
  rw [List.cons_append, tokens?_of_step hstep, tokens?_word_append hcs hrest, List.singleton_append,
    ← hw, String.ofList_toList]

/-! ## Texts -/

/-- Hexadecimal digits have their values. -/
lemma hexValue?_digitChar : ∀ d < 16, hexValue? (Nat.digitChar d) = some d := by decide

lemma step_unit {t : Partial} {value more d : Nat} (hd : d < 16) :
    (unit t value (more + 1)).step (Nat.digitChar d) =
      some ([], unit t (16 * value + d) more) := by
  rw [step, hexValue?_digitChar d hd]
  rfl

/-- The escape of a unit is scanned as the unit. -/
lemma tokens?_unitEscape {n : Nat} (hn : n < 0x10000) {t t' : Partial} (h : t.addUnit n = some t') :
    (text t).tokens? (JsonTree.unitEscape n ++ rest) = (text t').tokens? rest := by
  have hdigits : Text.hexDigits n 4 = [Nat.digitChar (n / 16 / 16 / 16 % 16),
      Nat.digitChar (n / 16 / 16 % 16), Nat.digitChar (n / 16 % 16), Nat.digitChar (n % 16)] := rfl
  have hvalue : 16 * (16 * (16 * (16 * 0 + n / 16 / 16 / 16 % 16) + n / 16 / 16 % 16) +
      n / 16 % 16) + n % 16 = n := by
    omega
  have hlast (v : Nat) (hv : 16 * v + n % 16 = n) :
      (unit t v 0).step (Nat.digitChar (n % 16)) = some ([], text t') := by
    rw [step, hexValue?_digitChar _ (Nat.mod_lt _ (by decide))]
    show (t.addUnit (16 * v + n % 16)).map _ = _
    rw [hv, h]
    rfl
  rw [JsonTree.unitEscape, hdigits, List.cons_append, List.cons_append,
    tokens?_of_step (u := escape t) rfl, tokens?_of_step (u := unit t 0 3) rfl, List.cons_append,
    tokens?_of_step (step_unit (Nat.mod_lt _ (by decide))), List.cons_append,
    tokens?_of_step (step_unit (Nat.mod_lt _ (by decide))), List.cons_append,
    tokens?_of_step (step_unit (Nat.mod_lt _ (by decide))), List.cons_append,
    tokens?_of_step (hlast _ hvalue)]
  rfl

/-- A letter behind a backslash is scanned as the character for which it stands. -/
lemma tokens?_escaped {letter : Char} (hu : letter ≠ 'u') (h : escaped? letter = some c)
    (before : List Char) : (text ⟨before, none⟩).tokens? ('\\' :: letter :: rest) =
      (text ⟨before ++ [c], none⟩).tokens? rest := by
  have hstep : (escape ⟨before, none⟩).step letter = some ([], text ⟨before ++ [c], none⟩) := by
    rw [step, if_neg hu, h]
    rfl
  rw [tokens?_of_step (u := escape ⟨before, none⟩) rfl, tokens?_of_step hstep]

/-- The characters that are written as a backslash and a letter. -/
lemma escapeChar_short (h : c ∈ ['"', '\\', '\n', '\r', '\t', '\x0c', '\x08']) :
    ∃ letter, JsonTree.escapeChar c = ['\\', letter] ∧ letter ≠ 'u' ∧
      escaped? letter = some c := by
  simp only [List.mem_cons, List.not_mem_nil, or_false] at h
  rcases h with rfl | rfl | rfl | rfl | rfl | rfl | rfl
  · exact ⟨'"', by decide⟩
  · exact ⟨'\\', by decide⟩
  · exact ⟨'n', by decide⟩
  · exact ⟨'r', by decide⟩
  · exact ⟨'t', by decide⟩
  · exact ⟨'f', by decide⟩
  · exact ⟨'b', by decide⟩

/-- What is written of a character is scanned as the character. -/
lemma tokens?_escapeChar (c : Char) (before : List Char) :
    (text ⟨before, none⟩).tokens? (JsonTree.escapeChar c ++ rest) =
      (text ⟨before ++ [c], none⟩).tokens? rest := by
  by_cases hshort : c ∈ ['"', '\\', '\n', '\r', '\t', '\x0c', '\x08']
  · obtain ⟨letter, hwritten, hu, hescaped⟩ := escapeChar_short hshort
    rw [hwritten]
    exact tokens?_escaped hu hescaped before
  · simp only [List.mem_cons, List.not_mem_nil, or_false, not_or] at hshort
    obtain ⟨hquote, hbackslash, hn, hr, ht, hf, hb⟩ := hshort
    rw [JsonTree.escapeChar, if_neg hquote, if_neg hbackslash, if_neg hn, if_neg hr, if_neg ht,
      if_neg hf, if_neg hb]
    split
    next hc =>
      refine tokens?_of_step ?_
      rw [step, if_neg hquote, if_neg hbackslash, if_neg (Char.not_lt.2 hc.1)]
      rfl
    · split
      next hsmall => exact tokens?_unitEscape hsmall (Partial.addUnit_char hsmall before)
      next hlarge =>
        have hvalid : c.toNat < 0xd800 ∨ 0xdfff < c.toNat ∧ c.toNat < 0x110000 := c.valid
        obtain ⟨hhigh, hlow⟩ := Partial.addUnit_pair (Nat.not_lt.1 hlarge) before
        rw [List.append_assoc, tokens?_unitEscape (by omega) hhigh,
          tokens?_unitEscape (by omega) hlow]

/-- What is written of characters is scanned as these characters. -/
lemma tokens?_escapeChars (cs before : List Char) :
    (text ⟨before, none⟩).tokens? (cs.flatMap JsonTree.escapeChar ++ rest) =
      (text ⟨before ++ cs, none⟩).tokens? rest := by
  induction cs generalizing before with
  | nil => simp
  | cons c cs ih =>
    rw [List.flatMap_cons, List.append_assoc, tokens?_escapeChar, ih, List.append_assoc]
    rfl

/-- What is written of a text is scanned as the text. -/
lemma tokens?_writeString (s : String) :
    between.tokens? (JsonTree.writeString s ++ rest) =
      (between.tokens? rest).map (.text s :: ·) := by
  have hend : (text ⟨s.toList, none⟩).step '"' = some ([.text s], between) := by
    show some ([Token.text (String.ofList s.toList)], between) = _
    rw [String.ofList_toList]
  rw [JsonTree.writeString, List.cons_append, List.cons_append, List.append_assoc,
    tokens?_of_step (u := text ⟨[], none⟩) rfl, tokens?_escapeChars, List.nil_append,
    List.singleton_append, tokens?, hend]
  rfl

end Scanner

end CrudBench.Json
