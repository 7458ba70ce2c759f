import CrudBench.Backend.Info
import CrudBench.Proofs.Dictionary
import CrudBench.Proofs.Memory
import Mathlib.Data.List.DropRight
import Mathlib.Data.List.Forall2

/-!
# Masking

What a configuration is shown as. The names that suggest a secret are those that contain one of the
marks once they are in lower case (`Value.Sensitive`); of a text under such a name only the end is
shown, and everything else is shown as it is (`Properties.shownAs_of_masked`). So configurations
that differ in the beginnings of such texts only are shown alike (`Properties.masked_congr`). The
configuration itself is not written to: it is a copy that is masked in place
(`Memory.outcome_mask`).
-/

namespace CrudBench

/-! ## Names that suggest a secret -/

/-- The name is a text that, in lower case, contains one of the marks of a secret. -/
def Value.Sensitive : Value → Prop
  | .str name => ∃ mark ∈ ["password", "token", "secret", "auth_key"],
      mark.toList <:+: (Text.lower name).toList
  | _ => False

lemma isSecret_iff {name : String} : isSecret name = true ↔ (Value.str name).Sensitive := by
  simp only [isSecret, secretMarks, Value.Sensitive, List.any_eq_true, Text.isPartOf,
    Text.occursIn_iff]

/-- The end of a text are its last four characters, or all there are. -/
lemma tail4_eq (s : String) : tail4 s = String.ofList (s.toList.rtake 4) := rfl

/-- An entry as it is shown. -/
def maskEntry (e : String × Value) : String × Value :=
  (e.1, if isSecret e.1 then maskValue e.2 else e.2)

lemma maskEntry_of_sensitive {s : String} (h : (Value.str s).Sensitive) (v : Value) :
    maskEntry (s, v) = (s, maskValue v) := by
  have hs : isSecret (s, v).1 = true := isSecret_iff.2 h
  rw [maskEntry, if_pos hs]

lemma maskEntry_of_not {s : String} (h : ¬(Value.str s).Sensitive) (v : Value) :
    maskEntry (s, v) = (s, v) := by
  have hs : ¬isSecret (s, v).1 = true := fun hs => h (isSecret_iff.1 hs)
  rw [maskEntry, if_neg hs]

lemma maskValue_str {s : String} (h : s ≠ "") :
    maskValue (.str s) = .str ("***" ++ String.ofList (s.toList.rtake 4)) := by
  have hs : s.isEmpty = false := by simpa using h
  rw [maskValue, hs, tail4_eq]
  rfl

/-- Only a text that is not empty is shown as something else. -/
lemma maskValue_of_not_str {v : Value} (h : ∀ s, v = .str s → s = "") : maskValue v = v := by
  cases v with
  | str s => rw [h s rfl]; rfl
  | _ => rfl

/-- A value is shown as three stars and its end, or as it is. -/
lemma maskValue_cases (v : Value) :
    (∃ s, v = .str s ∧ s ≠ "" ∧ maskValue v = .str ("***" ++ String.ofList (s.toList.rtake 4))) ∨
      (∀ s, v = .str s → s = "") ∧ maskValue v = v := by
  by_cases h : ∀ s, v = .str s → s = ""
  · exact .inr ⟨h, maskValue_of_not_str h⟩
  · push Not at h
    obtain ⟨s, rfl, hs⟩ := h
    exact .inl ⟨s, rfl, hs, maskValue_str hs⟩

lemma stars_ne_empty (t : String) : "***" ++ t ≠ "" := fun h => by
  have := congrArg String.toList h
  simp at this

/-- Values are shown alike if they are equal, or texts that are not empty and have the same end. -/
lemma maskValue_eq_iff {v w : Value} :
    maskValue v = maskValue w ↔ v = w ∨ ∃ s t, v = .str s ∧ w = .str t ∧ s ≠ "" ∧ t ≠ "" ∧
      s.toList.rtake 4 = t.toList.rtake 4 := by
  constructor
  · intro h
    rcases maskValue_cases v with ⟨s, rfl, hs, hv⟩ | ⟨hv', hv⟩ <;>
      rcases maskValue_cases w with ⟨t, rfl, ht, hw⟩ | ⟨hw', hw⟩
    · rw [hv, hw] at h
      have hend := congrArg String.toList (Value.str.inj h)
      exact .inr ⟨s, t, rfl, rfl, hs, ht, by simpa using hend⟩
    · rw [hv, hw] at h
      exact absurd (hw' _ h.symm) (stars_ne_empty _)
    · rw [hv, hw] at h
      exact absurd (hv' _ h) (stars_ne_empty _)
    · rw [hv, hw] at h
      exact .inl h
  · rintro (rfl | ⟨s, t, rfl, rfl, hs, ht, hend⟩)
    · rfl
    · rw [maskValue_str hs, maskValue_str ht, hend]

/-! ## Configurations -/

/-- One entry is shown as the other: under the same name as it is, or, if it is a text that is not
empty under a name that suggests a secret, as three stars and its end. -/
structure ShownAs (e : Value × Value) (shown : String × Value) : Prop where
  name : e.1 = .str shown.1
  plain : ¬e.1.Sensitive → shown.2 = e.2
  secret : e.1.Sensitive → ∀ s, e.2 = .str s → s ≠ "" →
    shown.2 = .str ("***" ++ String.ofList (s.toList.rtake 4))

/-- Two entries that differ in the beginning of a secret at most: they have the same name and, if it
suggests a secret, are texts that are not empty and have the same last four characters, or, if it
does not, are the same. -/
structure Resemble (e f : Value × Value) : Prop where
  name : e.1 = f.1
  plain : ¬e.1.Sensitive → e.2 = f.2
  secret : e.1.Sensitive → ∃ s t, e.2 = .str s ∧ f.2 = .str t ∧ s ≠ "" ∧ t ≠ "" ∧
    s.toList.rtake 4 = t.toList.rtake 4

lemma shownAs_maskEntry (s : String) (v : Value) : ShownAs (.str s, v) (maskEntry (s, v)) where
  name := rfl
  plain h := by rw [maskEntry_of_not h]
  secret h t ht hne := by
    obtain rfl : v = .str t := ht
    rw [maskEntry_of_sensitive h, maskValue_str hne]

/-- Entries that resemble each other are shown alike. -/
lemma Resemble.maskEntry {s t : String} {v w : Value} (h : Resemble (.str s, v) (.str t, w)) :
    maskEntry (s, v) = maskEntry (t, w) := by
  obtain rfl : s = t := Value.str.inj h.name
  by_cases hs : (Value.str s).Sensitive
  · obtain ⟨a, b, rfl, rfl, ha, hb, hend⟩ : ∃ a b, v = .str a ∧ w = .str b ∧ a ≠ "" ∧ b ≠ "" ∧
      a.toList.rtake 4 = b.toList.rtake 4 := h.secret hs
    rw [maskEntry_of_sensitive hs, maskEntry_of_sensitive hs, maskValue_str ha, maskValue_str hb,
      hend]
  · rw [show v = w from h.plain hs]

namespace Dictionary

/-- Where all names are texts, every entry is one under a text. -/
lemma forall₂_texts {α : Type u} {es : List (Value × α)} (h : ∀ e ∈ es, ∃ s, e.1 = .str s) :
    List.Forall₂ (fun e f => e = (.str f.1, f.2)) es (texts es) := by
  induction es with
  | nil => exact .nil
  | cons e es ih =>
    obtain ⟨v, a⟩ := e
    obtain ⟨⟨s, rfl⟩, hes⟩ := List.forall_mem_cons.1 h
    exact .cons rfl (ih hes)

end Dictionary

namespace Properties

variable {p q : Properties}

lemma masked_of_named (h : Dictionary.Named p) : p.masked = .ok (maskConfig p.inOrder) := by
  rw [masked, lowerable_of_named h]
  rfl

/-- Where a name is no text, the first such name is complained about. -/
lemma masked_eq (p : Properties) :
    p.masked = (Dictionary.unnamed? p.entries).elim (.ok (maskConfig p.inOrder)) fun v =>
      .error (.lacks .lower v.kind) := by
  rw [masked, lowerable, Dictionary.allNamed_eq]
  cases Dictionary.unnamed? p.entries <;> rfl

/-- All names of a configuration that is shown are texts. -/
lemma named_of_masked {shown : OrderedMap Value} (h : p.masked = .ok shown) :
    Dictionary.Named p ∧ shown = maskConfig p.inOrder := by
  rw [masked_eq] at h
  cases hu : Dictionary.unnamed? p.entries with
  | some v =>
    rw [hu] at h
    cases h
  | none =>
    rw [hu] at h
    cases h
    exact ⟨Dictionary.unnamed?_eq_none.1 hu, rfl⟩

/-- A configuration is shown entry by entry. -/
lemma shownAs_of_masked {shown : OrderedMap Value} (h : p.masked = .ok shown) :
    List.Forall₂ ShownAs p.entries shown.entries := by
  obtain ⟨hp, rfl⟩ := named_of_masked h
  show List.Forall₂ _ _ (p.inOrder.entries.map maskEntry)
  refine List.forall₂_map_right_iff.2 ((Dictionary.forall₂_texts hp).imp ?_)
  rintro _ ⟨s, v⟩ rfl
  exact shownAs_maskEntry s v

/-- Among entries that resemble each other the texts are shown alike. -/
lemma map_maskEntry_texts {es fs : List (Value × Value)} (h : List.Forall₂ Resemble es fs) :
    (Dictionary.texts es).map maskEntry = (Dictionary.texts fs).map maskEntry := by
  induction h with
  | nil => rfl
  | @cons e f es fs hef _ ih =>
    obtain ⟨v, a⟩ := e
    obtain ⟨w, b⟩ := f
    obtain rfl : v = w := hef.name
    cases v with
    | str s =>
      rw [Dictionary.texts_cons_str, Dictionary.texts_cons_str, List.map_cons, List.map_cons,
        hef.maskEntry, ih]
    | _ => exact ih

/-- Configurations that resemble each other are shown alike. -/
lemma masked_congr (h : List.Forall₂ Resemble p.entries q.entries) : p.masked = q.masked := by
  have hnames : p.entries.map (·.1) = q.entries.map (·.1) := by
    rw [← List.forall₂_eq_eq_eq, List.forall₂_map_left_iff, List.forall₂_map_right_iff]
    exact h.imp fun _ _ hef => hef.name
  have hfirst : Dictionary.unnamed? p.entries = Dictionary.unnamed? q.entries := by
    rw [Dictionary.unnamed?, Dictionary.unnamed?, hnames]
  have hshown : maskConfig p.inOrder = maskConfig q.inOrder :=
    OrderedMap.ext (map_maskEntry_texts h)
  rw [masked_eq, masked_eq, hfirst, hshown]

/-- What is set under a text is shown there, and everything else is shown as before. -/
lemma masked_put (p : Properties) (k : String) (v : Value) :
    Properties.masked (p.put (.str k) v) =
      p.masked.map fun shown => shown.insert k (maskEntry (k, v)).2 := by
  have hput : maskConfig (p.put (.str k) v).inOrder =
      (maskConfig p.inOrder).insert k (maskEntry (k, v)).2 := by
    rw [Dictionary.inOrder_put, maskConfig, OrderedMap.mapWithKey_insert, maskEntry, maskConfig]
  rw [masked_eq, masked_eq, Dictionary.unnamed?_put, hput]
  cases Dictionary.unnamed? p.entries <;> rfl

end Properties

/-! ## Masking in place -/

/-- What was put under a text that stands there already takes its place. -/
lemma Dictionary.putEntry_append {α : Type u} {name : String} {v w : α} {es fs : List (Value × α)}
    (h : (es ++ (.str name, v) :: fs).Pairwise fun a b => Value.sameName a.1 b.1 = false) :
    putEntry (.str name) w (es ++ (.str name, v) :: fs) = es ++ (.str name, w) :: fs := by
  induction es with
  | nil => simp [putEntry, Value.sameName]
  | cons e es ih =>
    obtain ⟨he, hes⟩ := List.pairwise_cons.1 h
    have hne : Value.sameName e.1 (.str name) = false := he (.str name, v) (by simp)
    rw [List.cons_append, putEntry, hne, if_neg Bool.false_ne_true, ih hes, List.cons_append]

namespace Memory

/-- Masks the entry at a place of the properties at an address, in place. -/
def maskPlace (i place : Nat) : Action Memory Unit := do
  match (← read i).entries[place]? with
  | some (.str name, .str s) =>
    if isSecret name && !s.isEmpty then assign i (.str name) (.str ("***" ++ tail4 s))
  | some (.str _, _) | none => return
  | some (name, _) => throw (.misfit (.lacks .lower name.kind))

/-- Makes a copy of the properties at an address, masks it place by place, and tells its address. -/
def mask (i : Nat) : Action Memory Nat := do
  let safe ← copy i
  (List.range (← read safe).entries.length).forM (maskPlace safe)
  return safe

variable {m : Memory} {p d : Properties} {done rest : List (Value × Value)}

/-- An entry under a text is masked, and all others stay. -/
lemma maskPlace_str {name : String} {v : Value} (h : d.entries = done ++ (.str name, v) :: rest) :
    ∃ q : Properties, maskPlace m.length done.length (m ++ [d]) = .ok () (m ++ [q]) ∧
      q.entries = done ++ (.str name, (maskEntry (name, v)).2) :: rest := by
  have hplace : d.entries[done.length]? = some (.str name, v) := by simp [h]
  have hsame (hv : (maskEntry (name, v)).2 = v) :
      d.entries = done ++ (.str name, (maskEntry (name, v)).2) :: rest := by rw [hv, h]
  rw [maskPlace, Action.bind_apply, read_last]
  dsimp only
  rw [hplace]
  cases v with
  | str s =>
    by_cases hs : isSecret name = true ∧ s ≠ ""
    · have hput : (d.put (.str name) (.str ("***" ++ tail4 s))).entries =
          done ++ (.str name, (maskEntry (name, .str s)).2) :: rest := by
        have hd := d.distinct
        rw [h] at hd
        rw [maskEntry, if_pos hs.1, maskValue_str hs.2, tail4_eq]
        show Dictionary.putEntry _ _ d.entries = _
        rw [h, Dictionary.putEntry_append hd]
      exact ⟨_, by simp [hs], hput⟩
    · refine ⟨d, by simp [hs], hsame ?_⟩
      rw [maskEntry]
      split
      next hsecret =>
        refine maskValue_of_not_str (v := .str s) fun t ht => ?_
        cases ht
        by_contra hne
        exact hs ⟨hsecret, hne⟩
      · rfl
  | _ =>
    refine ⟨d, rfl, hsame ?_⟩
    rw [maskEntry]
    split <;> rfl

/-- A name that is no text has no lower case. -/
lemma maskPlace_other {w v : Value} (h : d.entries = done ++ (w, v) :: rest)
    (hw : ¬∃ s, w = .str s) : maskPlace m.length done.length (m ++ [d]) =
      .error (.misfit (.lacks .lower w.kind)) (m ++ [d]) := by
  have hplace : d.entries[done.length]? = some (w, v) := by simp [h]
  rw [maskPlace, Action.bind_apply, read_last]
  dsimp only
  rw [hplace]
  cases w with
  | str s => exact absurd ⟨s, rfl⟩ hw
  | _ => rfl

/-- Place by place the entries are masked, up to the first whose name is no text. -/
lemma forM_maskPlace (h : d.entries = done ++ rest) : ∃ q : Properties,
    Action.outcome ((List.range' done.length rest.length).forM (maskPlace m.length)) (m ++ [d]) =
      ((Dictionary.unnamed? rest).elim (.ok ()) fun v => .error (.misfit (.lacks .lower v.kind)),
        m ++ [q]) ∧
      ((∀ e ∈ rest, ∃ s, e.1 = .str s) → q.entries =
        done ++ (Dictionary.texts rest).map fun e => (.str e.1, (maskEntry e).2)) := by
  induction rest generalizing d done with
  | nil => exact ⟨d, rfl, fun _ => h⟩
  | cons e rest ih =>
    obtain ⟨w, v⟩ := e
    rw [List.length_cons, List.range'_succ, List.forM, Action.outcome_bind]
    by_cases hw : ∃ name, w = .str name
    · obtain ⟨name, rfl⟩ := hw
      obtain ⟨d', hplace, hd'⟩ := maskPlace_str (m := m) h
      rw [List.append_cons] at hd'
      obtain ⟨q, hrest, hq⟩ := ih hd'
      rw [List.length_append, List.length_singleton] at hrest
      rw [hplace, Dictionary.unnamed?_cons_str]
      refine ⟨q, hrest, fun hnamed => ?_⟩
      rw [hq (List.forall_mem_cons.1 hnamed).2, Dictionary.texts_cons_str, List.append_assoc]
      rfl
    · rw [maskPlace_other h hw, Dictionary.unnamed?_cons_of_ne hw]
      exact ⟨d, rfl, fun hnamed => absurd (List.forall_mem_cons.1 hnamed).1 hw⟩

/-- Masking an entry of properties that are new changes no others. -/
lemma keeps_maskPlace {i : Nat} (h : m.length ≤ i) (place : Nat) :
    Action.Keeps (m <+: ·) (fun _ => True) (fun _ => True) (maskPlace i place) := by
  refine (keeps_read m i).bind fun d _ => ?_
  split
  · split
    · exact keeps_assign h _ _
    · exact Action.keeps_pure trivial
  · exact Action.keeps_pure trivial
  · exact Action.keeps_pure trivial
  · exact Action.keeps_throw trivial

/-- However masking ends, what was in memory stays. -/
lemma keeps_mask (m : Memory) (i : Nat) :
    Action.Keeps (m <+: ·) (fun _ => True) (fun _ => True) (mask i) :=
  (keeps_copy m i).bind fun j hj => (keeps_read m j).bind fun _ _ =>
    (Action.keeps_forM (keeps_maskPlace hj) _).bind fun _ _ => Action.keeps_pure trivial

/-- The memory after properties at these addresses were masked, one after the other. -/
def masked (m : Memory) (is : List Nat) : Memory := is.foldl (fun m i => ((mask i).outcome m).2) m

/-- However often properties are masked, what was in memory stays. -/
lemma prefix_masked (m : Memory) (is : List Nat) : m <+: m.masked is := by
  induction is generalizing m with
  | nil => exact List.prefix_rfl
  | cons i is ih => exact ((keeps_mask m i).outcome List.prefix_rfl).trans (ih _)

/-- Properties are masked in a copy, which is new in memory; what was there before stays. The copy
holds what is shown of them, under the same names. -/
lemma outcome_mask {i : Nat} (h : m[i]? = some p) :
    ∃ q : Properties, (mask i).outcome m =
        ((p.masked.map fun _ => m.length).mapError .misfit, m ++ [q]) ∧
      ∀ shown, p.masked = .ok shown → q.entries = shown.entries.map fun e => (.str e.1, e.2) := by
  obtain ⟨q, hrun, hq⟩ := forM_maskPlace (m := m) (List.nil_append p.entries).symm
  rw [List.length_nil] at hrun
  refine ⟨q, ?_, fun shown hshown => ?_⟩
  · rw [mask, Action.outcome_bind, copy_apply h]
    dsimp only
    rw [Action.outcome_bind, read_last]
    dsimp only
    rw [List.range_eq_range', Action.outcome_map, hrun, Properties.masked_eq]
    cases Dictionary.unnamed? p.entries <;> rfl
  · obtain ⟨hnamed, rfl⟩ := Properties.named_of_masked hshown
    rw [hq hnamed]
    show _ = (p.inOrder.entries.map maskEntry).map _
    rw [List.map_map]
    rfl

end Memory

end CrudBench
