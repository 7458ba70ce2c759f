import CrudBench.Data.OrderedMap
import CrudBench.Proofs.Json.Scanner

/-!
# Reading JSON text

A reader of JSON text takes it piece by piece (`Reading.step`) and keeps the lists and objects that
are open. Of two members of an object with one name the later one counts, in the place of the
earlier one. What is written of a tree is read as the value of which the tree is a picture
(`JsonTree.Depicts.read?_fileText`), and has ASCII characters only (`JsonTree.Depicts.ascii`).
-/

namespace CrudBench.Json

/-- A list or an object that is open: what it holds so far, and the name of the member that is
being read. -/
inductive Frame where
  | list (items : List Json)
  | member (members : List (String × Json)) (name : String)

/-- What comes next in JSON text: a value, the name of a member, the colon behind it, or what may
follow a value. -/
inductive Phase where
  | value
  | name (members : List (String × Json))
  | colon (members : List (String × Json)) (name : String)
  | done (v : Json)

/-- JSON text of which a part was read. -/
structure Reading where
  frames : List Frame
  phase : Phase

namespace Reading

/-- Reads a piece. -/
def step : Reading → Token → Option Reading
  | ⟨fs, .value⟩, .word w => (word? w).map fun v => ⟨fs, .done v⟩
  | ⟨fs, .value⟩, .text s => some ⟨fs, .done (.str s)⟩
  | ⟨fs, .value⟩, .mark .openList => some ⟨.list [] :: fs, .value⟩
  | ⟨fs, .value⟩, .mark .openObject => some ⟨fs, .name []⟩
  | ⟨.list [] :: fs, .value⟩, .mark .closeList => some ⟨fs, .done (.list [])⟩
  | ⟨fs, .name ms⟩, .text s => some ⟨fs, .colon ms s⟩
  | ⟨fs, .name []⟩, .mark .closeObject => some ⟨fs, .done (.object [])⟩
  | ⟨fs, .colon ms s⟩, .mark .colon => some ⟨.member ms s :: fs, .value⟩
  | ⟨.list xs :: fs, .done v⟩, .mark .comma => some ⟨.list (xs ++ [v]) :: fs, .value⟩
  | ⟨.list xs :: fs, .done v⟩, .mark .closeList => some ⟨fs, .done (.list (xs ++ [v]))⟩
  | ⟨.member ms s :: fs, .done v⟩, .mark .comma => some ⟨fs, .name (OrderedMap.putEntry s v ms)⟩
  | ⟨.member ms s :: fs, .done v⟩, .mark .closeObject =>
    some ⟨fs, .done (.object (OrderedMap.putEntry s v ms))⟩
  | _, _ => none

/-- The value that was read, if nothing is open. -/
def result? : Reading → Option Json
  | ⟨[], .done v⟩ => some v
  | _ => none

/-- Reads on to the end of the text. -/
def resume (r : Reading) (cs : List Char) : Option Json := do
  (← (← Scanner.between.tokens? cs).foldlM step r).result?

end Reading

/-- The value for which JSON text stands. -/
def read? (text : String) : Option Json := Reading.resume ⟨[], .value⟩ text.toList

namespace Reading

variable {r q : Reading} {cs rest : List Char} {token : Token}

/-- Reads on behind a piece. -/
lemma resume_of_scan
    (hscan : Scanner.between.tokens? cs = (Scanner.between.tokens? rest).map (token :: ·))
    (hstep : r.step token = some q) : r.resume cs = q.resume rest := by
  rw [resume, resume, hscan]
  cases Scanner.between.tokens? rest with
  | none => rfl
  | some ts =>
    show ((r.step token).bind fun r => ts.foldlM step r).bind _ = _
    rw [hstep]
    rfl

lemma resume_mark {c : Char} {m : Mark}
    (hscan : Scanner.between.step c = some ([.mark m], .between))
    (hstep : r.step (.mark m) = some q) : r.resume (c :: rest) = q.resume rest :=
  resume_of_scan (Scanner.tokens?_mark hscan) hstep

lemma resume_text {s : String} (hstep : r.step (.text s) = some q) :
    r.resume (JsonTree.writeString s ++ rest) = q.resume rest :=
  resume_of_scan (Scanner.tokens?_writeString s) hstep

lemma resume_word {w : String} {v : Json} (hw : word? w = some v) (hrest : Scanner.Ends rest)
    (fs : List Frame) : resume ⟨fs, .value⟩ (w.toList ++ rest) = resume ⟨fs, .done v⟩ rest := by
  refine resume_of_scan (Scanner.tokens?_word (isWord_of_word? hw) hrest) ?_
  rw [step, hw]
  rfl

lemma resume_newline (depth : Nat) :
    r.resume (JsonTree.newline depth ++ rest) = r.resume rest := by
  rw [resume, resume, Scanner.tokens?_newline]

/-- Reads on behind the name of a member, the colon and the blank. -/
lemma resume_name (fs : List Frame) (ms : List (String × Json)) (name : String) :
    resume ⟨fs, .name ms⟩ (JsonTree.writeString name ++ ':' :: ' ' :: rest) =
      resume ⟨.member ms name :: fs, .value⟩ rest := by
  have hname (cs : List Char) : resume ⟨fs, .name ms⟩ (JsonTree.writeString name ++ cs) =
      resume ⟨fs, .colon ms name⟩ cs := resume_text rfl
  have hcolon (cs : List Char) : resume ⟨fs, .colon ms name⟩ (':' :: cs) =
      resume ⟨.member ms name :: fs, .value⟩ cs := resume_mark rfl rfl
  rw [hname, hcolon, resume, resume, Scanner.tokens?_of_step (u := .between) rfl]

end Reading

end CrudBench.Json

namespace CrudBench.JsonTree

open Json (Reading)

/-- The tree is a picture of the value: it has the shape of the value, and each number in it stands
for the value that is in its place. -/
inductive Depicts : JsonTree → Json → Prop where
  | number {text : String} {v : Json} (h : Json.word? text = some v) : Depicts (number text) v
  | str (s : String) : Depicts (str s) (.str s)
  | list (ps : List (JsonTree × Json)) (h : ∀ p ∈ ps, Depicts p.1 p.2) :
    Depicts (list (ps.map (·.1))) (.list (ps.map (·.2)))
  | object (ms : List (String × JsonTree × Json)) (hn : (ms.map (·.1)).Nodup)
    (h : ∀ m ∈ ms, Depicts m.2.1 m.2.2) :
    Depicts (object (ms.map fun m => (m.1, m.2.1))) (.object (ms.map fun m => (m.1, m.2.2)))

/-- What is written of the tree at any level is read as the value wherever a value may stand. -/
def ReadsAs (t : JsonTree) (v : Json) : Prop :=
  ∀ (depth : Nat) (fs : List Json.Frame) (rest : List Char), Json.Scanner.Ends rest →
    Reading.resume ⟨fs, .value⟩ (t.write depth ++ rest) = Reading.resume ⟨fs, .done v⟩ rest

lemma ends_of_mark {c : Char} {rest : List Char} (h : Json.isWordChar c = false) :
    Json.Scanner.Ends (c :: rest) := by
  rintro d ⟨⟩
  exact h

/-- Behind an item no word goes on. -/
lemma ends_writeItems (depth depth' : Nat) (xs : List JsonTree) (rest : List Char) :
    Json.Scanner.Ends (writeItems depth xs ++ (newline depth' ++ rest)) := by
  cases xs <;> exact ends_of_mark rfl

/-- Behind a member no word goes on. -/
lemma ends_writeMembers (depth depth' : Nat) (ms : List (String × JsonTree)) (rest : List Char) :
    Json.Scanner.Ends (writeMembers depth ms ++ (newline depth' ++ rest)) := by
  cases ms <;> exact ends_of_mark rfl

/-- Items behind the first one are read up to the end of their list. -/
lemma resume_writeItems (ps : List (JsonTree × Json)) (h : ∀ p ∈ ps, ReadsAs p.1 p.2)
    (depth depth' : Nat) (fs : List Json.Frame) (before : List Json) (v : Json) (rest : List Char) :
    Reading.resume ⟨.list before :: fs, .done v⟩
        (writeItems depth (ps.map (·.1)) ++ (newline depth' ++ ']' :: rest)) =
      Reading.resume ⟨fs, .done (.list (before ++ v :: ps.map (·.2)))⟩ rest := by
  induction ps generalizing before v with
  | nil =>
    show Reading.resume _ (newline depth' ++ ']' :: rest) = _
    rw [Reading.resume_newline]
    exact Reading.resume_mark rfl rfl
  | cons p ps ih =>
    obtain ⟨hp, hps⟩ := List.forall_mem_cons.1 h
    have hcomma (cs : List Char) : Reading.resume ⟨.list before :: fs, .done v⟩ (',' :: cs) =
        Reading.resume ⟨.list (before ++ [v]) :: fs, .value⟩ cs := Reading.resume_mark rfl rfl
    rw [List.map_cons, writeItems]
    simp only [List.cons_append, List.append_assoc]
    rw [hcomma, Reading.resume_newline, hp _ _ _ (ends_writeItems _ _ _ _), ih hps,
      List.append_assoc]
    rfl

/-- An entry under a new name comes last. -/
lemma putEntry_of_not_mem {name : String} {v : Json} {es : List (String × Json)}
    (h : name ∉ es.map (·.1)) : OrderedMap.putEntry name v es = es ++ [(name, v)] := by
  induction es with
  | nil => rfl
  | cons e es ih =>
    rw [List.map_cons, List.mem_cons, not_or] at h
    rw [OrderedMap.putEntry, if_neg h.1, ih h.2]
    rfl

/-- Members behind the first one are read up to the end of their object. -/
lemma resume_writeMembers (ms : List (String × JsonTree × Json))
    (h : ∀ m ∈ ms, ReadsAs m.2.1 m.2.2) (depth depth' : Nat) (fs : List Json.Frame)
    (before : List (String × Json)) (name : String) (v : Json) (rest : List Char)
    (hn : (before.map (·.1) ++ name :: ms.map (·.1)).Nodup) :
    Reading.resume ⟨.member before name :: fs, .done v⟩
        (writeMembers depth (ms.map fun m => (m.1, m.2.1)) ++ (newline depth' ++ '\x7d' :: rest)) =
      Reading.resume
        ⟨fs, .done (.object (before ++ (name, v) :: ms.map fun m => (m.1, m.2.2)))⟩ rest := by
  have hput {before : List (String × Json)} {name : String} (v : Json) {names : List String}
      (hn : (before.map (·.1) ++ name :: names).Nodup) :
      OrderedMap.putEntry name v before = before ++ [(name, v)] :=
    putEntry_of_not_mem fun hm => (List.nodup_append.1 hn).2.2 name hm name List.mem_cons_self rfl
  induction ms generalizing before name v with
  | nil =>
    show Reading.resume _ (newline depth' ++ '\x7d' :: rest) = _
    rw [Reading.resume_newline]
    exact Reading.resume_mark rfl (by rw [Reading.step, hput v hn]; rfl)
  | cons m ms ih =>
    obtain ⟨hm, hms⟩ := List.forall_mem_cons.1 h
    have hcomma (cs : List Char) : Reading.resume ⟨.member before name :: fs, .done v⟩ (',' :: cs) =
        Reading.resume ⟨fs, .name (before ++ [(name, v)])⟩ cs :=
      Reading.resume_mark rfl (by rw [Reading.step, hput v hn])
    rw [List.map_cons, writeMembers]
    simp only [List.cons_append, List.append_assoc]
    rw [hcomma, Reading.resume_newline, Reading.resume_name, hm _ _ _ (ends_writeMembers _ _ _ _),
      ih hms, List.append_assoc]
    · rfl
    · simpa using hn

/-- What is written of a tree is read as the value of which it is a picture. -/
theorem Depicts.readsAs {t : JsonTree} {v : Json} (h : Depicts t v) : ReadsAs t v := by
  induction h with
  | number h =>
    intro depth fs rest hrest
    rw [write]
    exact Reading.resume_word h hrest fs
  | str s =>
    intro depth fs rest _
    rw [write]
    exact Reading.resume_text rfl
  | list ps _ ih =>
    intro depth fs rest _
    have hopen (cs : List Char) : Reading.resume ⟨fs, .value⟩ ('[' :: cs) =
        Reading.resume ⟨.list [] :: fs, .value⟩ cs := Reading.resume_mark rfl rfl
    cases ps with
    | nil =>
      show Reading.resume _ ('[' :: ']' :: rest) = _
      rw [hopen]
      exact Reading.resume_mark rfl rfl
    | cons p ps =>
      obtain ⟨hp, hps⟩ := List.forall_mem_cons.1 ih
      rw [List.map_cons, write]
      simp only [List.cons_append, List.append_assoc, List.nil_append]
      rw [hopen, Reading.resume_newline, hp _ _ _ (ends_writeItems _ _ _ _),
        resume_writeItems ps hps]
      rfl
  | object ms hn _ ih =>
    intro depth fs rest _
    have hopen (cs : List Char) : Reading.resume ⟨fs, .value⟩ ('\x7b' :: cs) =
        Reading.resume ⟨fs, .name []⟩ cs := Reading.resume_mark rfl rfl
    cases ms with
    | nil =>
      show Reading.resume _ ('\x7b' :: '\x7d' :: rest) = _
      rw [hopen]
      exact Reading.resume_mark rfl rfl
    | cons m ms =>
      obtain ⟨hm, hms⟩ := List.forall_mem_cons.1 ih
      rw [List.map_cons, write]
      simp only [List.cons_append, List.append_assoc, List.nil_append]
      have hnames : (([] : List (String × Json)).map (·.1) ++ m.1 :: ms.map (·.1)).Nodup := hn
      rw [hopen, Reading.resume_newline, Reading.resume_name, hm _ _ _ (ends_writeMembers _ _ _ _),
        resume_writeMembers ms hms _ _ _ _ _ _ _ hnames]
      rfl

/-- The text of a file is read as the value of which its tree is a picture. -/
theorem Depicts.read?_fileText {t : JsonTree} {v : Json} (h : Depicts t v) :
    Json.read? t.fileText = some v := by
  have hread := h.readsAs 0 [] [] nofun
  rw [List.append_nil] at hread
  rw [Json.read?, fileText, String.toList_ofList, hread]
  rfl

-- The reader takes more than what is written: other blanks, any escapes, names that come twice.
example : Json.read? "\x7b \"k\":[true],\"\\u00e9\\uD83D\\ude00\" : -1.50E3,\n\"k\":12\t\x7d" =
    some (.object [("k", .int 12), ("é😀", .float "-1.50E3")]) := rfl

example : Json.read? "[1,]" = none := rfl

/-! ## ASCII -/

/-- All characters are ASCII characters. -/
def Ascii (cs : List Char) : Prop := ∀ c ∈ cs, c.toNat < 128

lemma Ascii.append {cs ds : List Char} (hc : Ascii cs) (hd : Ascii ds) : Ascii (cs ++ ds) :=
  fun c h => (List.mem_append.1 h).elim (hc c) (hd c)

lemma Ascii.cons {c : Char} {cs : List Char} (hc : c.toNat < 128) (hcs : Ascii cs) :
    Ascii (c :: cs) := List.forall_mem_cons.2 ⟨hc, hcs⟩

lemma ascii_unitEscape (n : Nat) : Ascii (unitEscape n) := by
  have hdigit : ∀ d < 16, (Nat.digitChar d).toNat < 128 := by decide
  have hdigits (n width : Nat) : Ascii (Text.hexDigits n width) := by
    induction width generalizing n with
    | zero => nofun
    | succ width ih => exact (ih _).append (.cons (hdigit _ (Nat.mod_lt _ (by decide))) nofun)
  exact .cons (by decide) (.cons (by decide) (hdigits n 4))

lemma ascii_escapeChar (c : Char) : Ascii (escapeChar c) := by
  have hshort (d : Char) (hd : d.toNat < 128) : Ascii ['\\', d] :=
    .cons (by decide) (.cons hd nofun)
  rw [escapeChar]
  split_ifs with _ _ _ _ _ _ _ hprintable
  all_goals first
    | exact hshort _ (by decide)
    | exact ascii_unitEscape _
    | exact (ascii_unitEscape _).append (ascii_unitEscape _)
    | skip
  have hle : c.toNat ≤ '~'.toNat := hprintable.2
  exact .cons (Nat.lt_of_le_of_lt hle (by decide)) nofun

lemma ascii_writeString (s : String) : Ascii (writeString s) := by
  refine .cons (by decide) (.append (fun c hc => ?_) (.cons (by decide) nofun))
  obtain ⟨d, -, hc⟩ := List.mem_flatMap.1 hc
  exact ascii_escapeChar d c hc

lemma ascii_newline (depth : Nat) : Ascii (newline depth) :=
  .cons (by decide) fun c hc => List.eq_of_mem_replicate hc ▸ by decide

/-- Where a word stands for a value, it has ASCII characters only. -/
lemma ascii_word {word : String} {v : Json} (h : Json.word? word = some v) :
    Ascii word.toList :=
  fun c hc => Json.toNat_lt_of_isWordChar ((Json.isWord_of_word? h).2 c hc)

lemma ascii_writeItems (ps : List (JsonTree × Json)) (depth : Nat)
    (h : ∀ p ∈ ps, ∀ depth, Ascii (p.1.write depth)) :
    Ascii (writeItems depth (ps.map (·.1))) := by
  induction ps with
  | nil => nofun
  | cons p ps ih =>
    obtain ⟨hp, hps⟩ := List.forall_mem_cons.1 h
    rw [List.map_cons, writeItems]
    exact ((Ascii.cons (by decide) (ascii_newline _)).append (hp _)).append (ih hps)

lemma ascii_writeMembers (ms : List (String × JsonTree × Json)) (depth : Nat)
    (h : ∀ m ∈ ms, ∀ depth, Ascii (m.2.1.write depth)) :
    Ascii (writeMembers depth (ms.map fun m => (m.1, m.2.1))) := by
  induction ms with
  | nil => nofun
  | cons m ms ih =>
    obtain ⟨hm, hms⟩ := List.forall_mem_cons.1 h
    have hname := (Ascii.cons (c := ',') (by decide) (ascii_newline depth)).append
      (ascii_writeString m.1)
    have hvalue := Ascii.cons (c := ':') (by decide) (.cons (c := ' ') (by decide) (hm depth))
    rw [List.map_cons, writeMembers]
    exact (hname.append hvalue).append (ih hms)

/-- What is written of a tree has ASCII characters only. -/
theorem Depicts.ascii {t : JsonTree} {v : Json} (h : Depicts t v) (depth : Nat) :
    Ascii (t.write depth) := by
  induction h generalizing depth with
  | number h =>
    rw [write]
    exact ascii_word h
  | str s =>
    rw [write]
    exact ascii_writeString s
  | list ps _ ih =>
    cases ps with
    | nil => exact .cons (by decide) (.cons (by decide) nofun)
    | cons p ps =>
      obtain ⟨hp, hps⟩ := List.forall_mem_cons.1 ih
      have hopen := Ascii.cons (c := '[') (by decide) (ascii_newline (depth + 1))
      have hclose : Ascii [']'] := .cons (by decide) nofun
      have hitems := ascii_writeItems ps (depth + 1) hps
      rw [List.map_cons, write]
      exact (((hopen.append (hp _)).append hitems).append (ascii_newline _)).append hclose
  | object ms _ _ ih =>
    cases ms with
    | nil => exact .cons (by decide) (.cons (by decide) nofun)
    | cons m ms =>
      obtain ⟨hm, hms⟩ := List.forall_mem_cons.1 ih
      have hname := (Ascii.cons (c := '\x7b') (by decide) (ascii_newline (depth + 1))).append
        (ascii_writeString m.1)
      have hvalue := Ascii.cons (c := ':') (by decide)
        (.cons (c := ' ') (by decide) (hm (depth + 1)))
      have hclose : Ascii ['\x7d'] := .cons (by decide) nofun
      have hmembers := ascii_writeMembers ms (depth + 1) hms
      rw [List.map_cons, write]
      exact (((hname.append hvalue).append hmembers).append (ascii_newline _)).append hclose

end CrudBench.JsonTree
