import CrudBench.Proofs.Text.Blank
import CrudBench.Settings.HostList

/-!
# Host lists and their texts

The names in a comma-separated text are not empty, have no commas and no blanks around them. Names
of this kind are found again in the text that joins them, so a host list is the host list of its own
text (`HostList.parse?_text`). Of any text the names are its pieces that are not blank, trimmed and
in their order, and two texts with a comma between them have the names of both
(`HostList.parse?_normal_form`).
-/

namespace CrudBench

/-- The text can stand in a host list: it is not empty, has no blanks around it and no comma. -/
structure IsHostName (name : String) : Prop where
  nonempty : name ≠ ""
  trimmed : Text.Trimmed name
  noComma : ',' ∉ name.toList

namespace HostList

/-- What stands between separators holds none. -/
lemma not_mem_of_mem_splitOn {x : Char} {cs piece : List Char} (h : piece ∈ cs.splitOn x) :
    x ∉ piece := by
  induction cs generalizing piece with
  | nil =>
    rw [List.splitOn_nil, List.mem_singleton] at h
    simp [h]
  | cons c cs ih =>
    rw [List.splitOn_cons_eq_if_modifyHead] at h
    split at h
    · rcases List.mem_cons.1 h with rfl | h
      · simp
      · exact ih h
    next hc =>
      have hne : x ≠ c := fun he => hc (by simp [he])
      cases hs : cs.splitOn x with
      | nil => simp [hs] at h
      | cons first rest =>
        rw [hs, List.modifyHead_cons] at h
        rcases List.mem_cons.1 h with rfl | h
        · have hfirst : x ∉ first := ih (hs ▸ List.mem_cons_self)
          simp [hne, hfirst]
        · exact ih (hs ▸ List.mem_cons_of_mem _ h)

/-- The names in a text are host names. -/
lemma isHostName_of_mem {raw name : String} (h : name ∈ namesIn raw) : IsHostName name := by
  obtain ⟨cs, hcs, rfl⟩ := List.mem_map.1 h
  obtain ⟨hcs, hne⟩ := List.mem_filter.1 hcs
  obtain ⟨piece, hpiece, rfl⟩ := List.mem_map.1 hcs
  refine ⟨?_, ?_, ?_⟩
  · intro he
    have hnil : Text.trimChars piece = [] := by simpa using congrArg String.toList he
    simp [hnil] at hne
  · rw [Text.Trimmed, String.toList_ofList]
    exact Text.stripped_strip Text.isBlankChar piece
  · rw [String.toList_ofList]
    exact fun hc => not_mem_of_mem_splitOn hpiece (Text.mem_of_mem_strip hc)

/-- Pieces without commas are what stands between the commas of the text that joins them. -/
lemma splitOn_intercalate {pieces : List String} (hne : pieces ≠ [])
    (h : ∀ piece ∈ pieces, ',' ∉ piece.toList) :
    (",".intercalate pieces).toList.splitOn ',' = pieces.map String.toList := by
  rw [String.toList_intercalate]
  refine List.splitOn_intercalate ',' (fun l hl => ?_) (by simpa using hne)
  obtain ⟨piece, hpiece, rfl⟩ := List.mem_map.1 hl
  exact h piece hpiece

/-- Host names are the names in the text that joins them. -/
lemma namesIn_intercalate {names : List String} (hne : names ≠ [])
    (h : ∀ name ∈ names, IsHostName name) : namesIn (",".intercalate names) = names := by
  have hsplit := splitOn_intercalate hne fun name hname => (h name hname).noComma
  have htrim : (names.map String.toList).map Text.trimChars = names.map String.toList := by
    rw [List.map_map]
    exact List.map_congr_left fun name hname => (h name hname).trimmed.strip_eq
  have hkept : (names.map String.toList).filter (!·.isEmpty) = names.map String.toList := by
    refine List.filter_eq_self.2 fun l hl => ?_
    obtain ⟨name, hname, rfl⟩ := List.mem_map.1 hl
    simpa using (h name hname).nonempty
  rw [namesIn, hsplit, htrim, hkept, List.map_map]
  exact List.map_id'' (fun _ => String.ofList_toList) names

/-- The hosts that are read from a text are the names in it. -/
lemma names_of_parse? {raw : String} {hosts : HostList} (h : parse? raw = some hosts) :
    hosts.names = namesIn raw := by
  rw [parse?] at h
  split at h
  · cases h
  · cases h
    rfl

/-- The names of a host list that was read are host names. -/
lemma isHostName_of_parse? {raw : String} {hosts : HostList} (h : parse? raw = some hosts) :
    ∀ name ∈ hosts.names, IsHostName name := fun _ hname =>
  isHostName_of_mem (names_of_parse? h ▸ hname)

variable {hosts : HostList} (h : ∀ name ∈ hosts.names, IsHostName name)

include h

/-- A list of host names is the host list of its text. -/
theorem parse?_text : parse? hosts.text = some hosts := by
  obtain ⟨names, hne⟩ := hosts
  have hn : namesIn (HostList.text ⟨names, hne⟩) = names := namesIn_intercalate hne h
  simp only [parse?, hn, dif_neg hne]

/-- The text of a list of host names has no blanks around it, and is not empty. -/
lemma trimmed_text : Text.Trimmed hosts.text ∧ hosts.text ≠ "" := by
  have hnames : ∀ cs ∈ hosts.names.map String.toList,
      Text.Stripped Text.isBlankChar cs ∧ cs ≠ [] := by
    intro cs hcs
    obtain ⟨name, hname, rfl⟩ := List.mem_map.1 hcs
    exact ⟨(h name hname).trimmed, by simpa using (h name hname).nonempty⟩
  have hs := Text.stripped_intercalate ",".toList (by simpa using hosts.nonempty) hnames
  rw [← String.toList_intercalate] at hs
  exact ⟨hs.1, fun he => hs.2 (by rw [← HostList.text, he]; rfl)⟩

omit h

/-! ## Pieces -/

/-- The text is these pieces, with commas between them and none inside them. -/
structure Joins (pieces : List String) (raw : String) : Prop where
  nonempty : pieces ≠ []
  noComma : ∀ piece ∈ pieces, ',' ∉ piece.toList
  joined : ",".intercalate pieces = raw

/-- The names that a text contributes to a host list; none if it is no host list by itself. -/
def entries (raw : String) : List String := ((parse? raw).map (·.names)).getD []

lemma entries_eq (raw : String) : entries raw = namesIn raw := by
  rw [entries, parse?]
  split
  next hn => rw [hn]; rfl
  · rfl

lemma parse?_eq_none_iff {raw : String} : parse? raw = none ↔ namesIn raw = [] := by
  rw [parse?]
  split
  next hn => exact iff_of_true rfl hn
  next hn => exact iff_of_false nofun hn

/-- A text is the pieces between its commas. -/
lemma exists_joins (raw : String) : ∃ pieces, Joins pieces raw := by
  refine ⟨(raw.toList.splitOn ',').map String.ofList, by simp, fun piece hpiece => ?_, ?_⟩
  · obtain ⟨cs, hcs, rfl⟩ := List.mem_map.1 hpiece
    rw [String.toList_ofList]
    exact not_mem_of_mem_splitOn hcs
  · have hpieces : ((raw.toList.splitOn ',').map String.ofList).map String.toList =
        raw.toList.splitOn ',' := by
      rw [List.map_map]
      exact List.map_id'' (fun _ => String.toList_ofList) _
    rw [← String.toList_inj, String.toList_intercalate, hpieces]
    exact List.intercalate_splitOn ','

section Joins

variable {pieces others : List String} {raw other : String}

/-- The pieces of two texts are those of the text that has both and a comma between them. -/
lemma Joins.append (h : Joins pieces raw) (ho : Joins others other) :
    Joins (pieces ++ others) (raw ++ "," ++ other) := by
  refine ⟨by simp [h.nonempty], fun piece hpiece => ?_, ?_⟩
  · rcases List.mem_append.1 hpiece with hp | hp
    · exact h.noComma piece hp
    · exact ho.noComma piece hp
  · rw [String.intercalate_append_of_ne_nil h.nonempty ho.nonempty, h.joined, ho.joined]

/-- The names in a text are its pieces that are not blank, trimmed. -/
lemma Joins.namesIn (h : Joins pieces raw) :
    namesIn raw = (pieces.filter (!Text.isBlank ·)).map Text.trim := by
  have hsplit := splitOn_intercalate h.nonempty h.noComma
  have hblank (piece : String) :
      (Text.trimChars piece.toList).isEmpty = Text.isBlank piece := by
    rw [Bool.eq_iff_iff, List.isEmpty_iff, Text.isBlank_iff, Text.trim, ← String.toList_inj,
      String.toList_ofList, String.toList_empty]
  rw [← h.joined, HostList.namesIn, hsplit, List.map_map, List.filter_map, List.map_map]
  simp only [Function.comp_def, hblank]
  rfl

/-- What holds of the separator holds of every character of a joined text exactly if it holds of
every character of its parts. -/
lemma forall_mem_intercalate {p : Char → Prop} {x : Char} (hx : p x) (css : List (List Char)) :
    (∀ c ∈ [x].intercalate css, p c) ↔ ∀ cs ∈ css, ∀ c ∈ cs, p c := by
  induction css with
  | nil => simp
  | cons cs css ih =>
    by_cases hn : css = []
    · simp [hn]
    · rw [List.intercalate_cons_of_ne_nil hn, List.forall_mem_cons, ← ih, List.forall_mem_append,
        List.forall_mem_append, List.forall_mem_singleton, and_iff_left hx]

/-- A text is nothing but commas and blanks exactly if its pieces are blank. -/
lemma Joins.blank_iff (h : Joins pieces raw) :
    (∀ c ∈ raw.toList, c = ',' ∨ Text.isBlankChar c = true) ↔
      ∀ piece ∈ pieces, Text.isBlank piece = true := by
  rw [← h.joined, String.toList_intercalate]
  refine (forall_mem_intercalate (.inl rfl) _).trans ?_
  rw [List.forall_mem_map]
  refine forall₂_congr fun piece hpiece => ?_
  rw [Text.isBlank, List.all_eq_true]
  refine forall₂_congr fun c hc => or_iff_right ?_
  rintro rfl
  exact h.noComma piece hpiece hc

end Joins

/-- Reading a host list gives a normal form. There is none in a text of nothing but commas and
blanks. Otherwise it is made of host names, which are the pieces between the commas that are not
blank, trimmed, in their order and as often as they stand there. Two texts with a comma between them
have the names of the first and then those of the second. Any host names are the host list of the
text that joins them, so to write a host list and read it again gives it back. -/
theorem parse?_normal_form (raw : String) :
    (parse? raw = none ↔ ∀ c ∈ raw.toList, c = ',' ∨ Text.isBlankChar c = true) ∧
      (∀ hosts, parse? raw = some hosts →
        hosts.names ≠ [] ∧ ∀ name ∈ hosts.names, IsHostName name) ∧
      (∃ pieces, Joins pieces raw) ∧
      (∀ pieces, Joins pieces raw →
        entries raw = (pieces.filter (!Text.isBlank ·)).map Text.trim) ∧
      (∀ other, entries (raw ++ "," ++ other) = entries raw ++ entries other) ∧
      (∀ names (hne : names ≠ []), (∀ name ∈ names, IsHostName name) →
        parse? (",".intercalate names) = some ⟨names, hne⟩) ∧
      ((parse? raw).bind fun hosts => parse? hosts.text) = parse? raw := by
  obtain ⟨pieces, hraw⟩ := exists_joins raw
  refine ⟨?_, fun hosts hp => ⟨hosts.nonempty, isHostName_of_parse? hp⟩, ⟨pieces, hraw⟩,
    fun pieces h => by rw [entries_eq, h.namesIn], fun other => ?_, fun names hne h => ?_, ?_⟩
  · rw [parse?_eq_none_iff, hraw.namesIn, hraw.blank_iff, List.map_eq_nil_iff,
      List.filter_eq_nil_iff]
    simp
  · obtain ⟨others, hother⟩ := exists_joins other
    rw [entries_eq, entries_eq, entries_eq, (hraw.append hother).namesIn, hraw.namesIn,
      hother.namesIn, List.filter_append, List.map_append]
  · exact @parse?_text ⟨names, hne⟩ h
  · cases hp : parse? raw with
    | none => rfl
    | some hosts => exact parse?_text (isHostName_of_parse? hp)

/-- A text with two kinds of blanks in it, empty pieces, a blank one, and a name that comes twice.
-/
theorem parse?_normal_form_mixed :
    let raw := ",b\t,\u2003, a\x1f,,b"
    let names := ["b", "a", "b"]
    Joins ["", "b\t", "\u2003", " a\x1f", "", "b"] raw ∧ entries raw = names ∧
      (∃ hosts, parse? raw = some hosts ∧ ∀ name ∈ hosts.names, IsHostName name) ∧
      (∀ name ∈ names, IsHostName name) ∧ (parse? "b,a,b").map (·.names) = some names := by
  intro raw names
  obtain ⟨-, hhosts, -, hpieces, -, hjoined, -⟩ := parse?_normal_form raw
  have hjoins : Joins ["", "b\t", "\u2003", " a\x1f", "", "b"] raw :=
    ⟨by decide, by decide, by decide⟩
  have hentries : entries raw = names := (hpieces _ hjoins).trans (by decide)
  have hnames : ∀ name ∈ names, IsHostName name := by
    intro name hname
    simp only [names, List.mem_cons, List.not_mem_nil, or_false] at hname
    rcases hname with rfl | rfl | rfl
    all_goals exact ⟨by decide, Text.stripped_of_any (by decide), by decide⟩
  refine ⟨hjoins, hentries, ?_, hnames, ?_⟩
  · cases hp : parse? raw with
    | none =>
      rw [entries, hp] at hentries
      exact absurd hentries (by decide)
    | some hosts => exact ⟨hosts, rfl, (hhosts hosts hp).2⟩
  · have h := hjoined names nofun hnames
    rw [show ",".intercalate names = "b,a,b" by decide] at h
    rw [h]
    rfl

end HostList

end CrudBench
