import CrudBench.Proofs.Plain
import CrudBench.Proofs.Query.Evaluation
import CrudBench.Proofs.Server.Boundary

/-!
# What requests ask

The one term that a plain request sends, with everything that the settings put into it: the database
of every table, the mode of every read, the durability of every write (`PlainRequest.Asks`). It can
always be built and sent (`PlainRequest.sends_call`).
-/

namespace CrudBench

namespace Settings

variable (st : Settings)

/-- The options of a table that is read: the mode, if one is configured. -/
def readOptions : List (String × Term) :=
  match st.readMode with
  | some mode => [("read_mode", .str mode.name)]
  | none => []

/-- The option of a write. -/
def writeOption : String × Term := ("durability", .str st.durability.name)

/-- A table of the configured database. -/
def tableTerm (t : String) (options : List (String × Term)) : Term :=
  .call .table [.call .database [.str st.database] [], .str t] options

/-- A record of such a table. -/
def recordTerm (t key : String) (options : List (String × Term)) : Term :=
  .call .get [st.tableTerm t options, .str key] []

/-- The first records of such a table from a key on, as they are read. -/
def rangeTerm (t start : String) (count : Int) : Term :=
  .call .limit [.call .orderBy
    [.call .between [st.tableTerm t st.readOptions, .str start, .call .maxValue [] []] []]
    [("index", .call .ascending [.str primaryKey] [])], .int count] []

end Settings

/-- The names are those of the fields, each once and in order. -/
def Arranges (names fields : List String) : Prop :=
  names.Pairwise (· < ·) ∧ ∀ name, name ∈ names ↔ name ∈ fields

section Arranges

variable {name : String} {names fields : List String}

lemma Arranges.eq_nil (h : Arranges [] fields) : fields = [] :=
  List.eq_nil_iff_forall_not_mem.2 fun name hn => nomatch (h.2 name).2 hn

lemma Arranges.ne_nil (h : Arranges (name :: names) fields) : fields ≠ [] :=
  List.ne_nil_of_mem ((h.2 name).1 List.mem_cons_self)

end Arranges

/-- A document as it is sent. -/
def Document.term (d : Document) : Term := .object (d.entries.map fun e => (e.1, .str e.2))

/-- The term is what the request asks of a server with these settings. -/
inductive PlainRequest.Asks (st : Settings) : PlainRequest → Term → Prop
  | read (t key : String) : Asks st (.point ⟨t, key, .read []⟩) (st.recordTerm t key st.readOptions)
  | readFields (t key : String) {fields names : List String} (hne : fields ≠ [])
      (h : Arranges names fields) :
      Asks st (.point ⟨t, key, .read fields⟩) (.call .default
        [.call .pluck (st.recordTerm t key st.readOptions :: names.map .str) [], .null] [])
  | range (t start : String) (count : Int) :
      Asks st (.range t start count []) (st.rangeTerm t start count)
  | rangeFields (t start : String) (count : Int) {fields names : List String} (hne : fields ≠ [])
      (h : Arranges names fields) :
      Asks st (.range t start count fields)
        (.call .pluck (st.rangeTerm t start count :: names.map .str) [])
  /-- An update never writes the key. -/
  | update (t key : String) (values : Row) (d : Document)
      (h : ∀ name, d.get? name =
        if name = primaryKey then none else (values.get? name).map Value.text) :
      Asks st (.point ⟨t, key, .update values⟩)
        (.call .update [st.recordTerm t key [], d.term] [st.writeOption])
  /-- An insertion writes the key that is given. -/
  | insert (t key : String) (values : Row) (d : Document)
      (h : ∀ name, d.get? name =
        if name = primaryKey then some key else (values.get? name).map Value.text) :
      Asks st (.point ⟨t, key, .insert values⟩) (.call .insert [st.tableTerm t [], d.term]
        [st.writeOption, ("conflict", .str "error")])
  | delete (t key : String) : Asks st (.point ⟨t, key, .delete⟩)
      (.call .delete [st.recordTerm t key []] [st.writeOption])

/-! ## Building what is asked -/

lemma Term.ofFields_texts_eq (depth : Nat) (es : List (String × String)) :
    ofFields (depth + 1) (es.map fun e => (e.1, .str e.2)) =
      .ok (es.map fun e => (e.1, .str e.2)) := by
  induction es with
  | nil => rfl
  | cons e es ih =>
    rw [List.map_cons, ofFields, ih]
    rfl

lemma Document.ofValue_row (d : Document) : Term.ofValue d.row.value = .ok d.term := by
  show (Term.ofFields 19 d.row.entries).map Term.object = _
  rw [d.entries_row, Term.ofFields_texts_eq]
  rfl

namespace FieldSet

/-- Fields are asked for by their names, each once and in order. -/
lemma names_eq (fields : List String) :
    ∃ names, FieldSet.names fields = names.map Value.str ∧ Arranges names fields := by
  refine ⟨(ofTexts fields).texts.keys, rfl, SortedMap.pairwise_keys _, fun name => ?_⟩
  rw [SortedMap.mem_keys, ← List.contains_iff_mem, ← contains_ofTexts]
  rfl

end FieldSet

namespace Query

variable {st : Settings}

lemma tableTerm_read (t : String) :
    tableTerm (.str st.database) (.str t) (Call.modeValue st.readMode) =
      .ok (st.tableTerm t st.readOptions) := by
  rw [Settings.readOptions]
  cases st.readMode with
  | none => rfl
  | some mode => cases mode <;> rfl

lemma recordTerm_read (t key : String) :
    recordTerm (.str st.database) (.str t) (.str key) (Call.modeValue st.readMode) =
      .ok (st.recordTerm t key st.readOptions) := by
  rw [recordTerm, tableTerm_read]
  rfl

lemma rangeTerm_read (t start : String) (count : Int) :
    rangeTerm (.str st.database) (.str t) (.str start) (.int count) (Call.modeValue st.readMode) =
      .ok (st.rangeTerm t start count) := by
  rw [rangeTerm, tableTerm_read]
  rfl

lemma mapM_built (ts : List Term) : (ts.map fun t => (.ok t : Built)).mapM id = .ok ts := by
  induction ts with
  | nil => rfl
  | cons t ts ih =>
    rw [List.map_cons, List.mapM_cons, ih]
    rfl

lemma pluck_names (subject : Term) (names : List String) :
    pluck (.ok subject) (.list (names.map Value.str)) =
      .ok (.call .pluck (subject :: names.map .str) []) := by
  have hargs : (names.map Value.str).map Term.ofValue =
      (names.map Term.str).map fun t => (.ok t : Built) := by
    rw [List.map_map, List.map_map]
    rfl
  have h := mapM_built (subject :: names.map .str)
  rw [List.map_cons, ← hargs] at h
  show apply .pluck (.ok subject :: (names.map Value.str).map Term.ofValue) [] = _
  rw [apply, h]
  rfl

end Query

/-! ## Sending what is asked -/

namespace PlainRequest

variable {st : Settings}

/-- What an insertion writes is a document. -/
lemma insertedRow_eq (key : String) (values : Row) :
    insertedRow (.str key) values =
      Document.row ((values.map Value.text).insert primaryKey key) := by
  rw [insertedRow, Document.row, SortedMap.map_insert]
  refine SortedMap.ext_get? fun name => ?_
  simp only [SortedMap.get?_insert, SortedMap.get?_map, Option.map_map]
  rfl

/-- The term of a plain request is what it asks. -/
lemma term_call (st : Settings) (r : PlainRequest) :
    ∃ q, (r.call st).query.term = .ok q ∧ r.Asks st q := by
  cases r with
  | range t start count fields =>
    obtain ⟨names, hn, ha⟩ := FieldSet.names_eq fields
    rw [call, hn, Call.query, Query.term, Query.rangeTerm_read]
    cases names with
    | nil =>
      cases ha.eq_nil
      exact ⟨_, rfl, .range t start count⟩
    | cons name names =>
      exact ⟨_, Query.pluck_names _ _, .rangeFields t start count ha.ne_nil ha⟩
  | point r =>
    obtain ⟨t, key, verb⟩ := r
    cases verb with
    | read fields =>
      obtain ⟨names, hn, ha⟩ := FieldSet.names_eq fields
      rw [call, hn, Call.query, Query.term, Query.recordTerm_read]
      cases names with
      | nil =>
        cases ha.eq_nil
        exact ⟨_, rfl, .read t key⟩
      | cons name names =>
        refine ⟨_, ?_, .readFields t key ha.ne_nil ha⟩
        show Query.apply .default [Query.pluck _ _, _] [] = _
        rw [Query.pluck_names]
        rfl
    | insert values =>
      rw [call, insertedRow_eq, Call.query, Query.term, Document.ofValue_row]
      refine ⟨_, rfl, .insert t key values _ fun name => ?_⟩
      rw [SortedMap.get?_insert, SortedMap.get?_map]
    | update values =>
      rw [call, Call.query, Query.term, Document.ofValue_row]
      refine ⟨_, rfl, .update t key values _ fun name => ?_⟩
      rw [updateDocument, SortedMap.get?_erase, SortedMap.get?_map]
    | delete => exact ⟨_, rfl, .delete t key⟩

/-- A plain request can be sent, as what it asks. -/
theorem sends_call (st : Settings) (r : PlainRequest) :
    ∃ q, (r.call st).query.Sends q ∧ r.Asks st q := by
  obtain ⟨q, hq, ha⟩ := r.term_call st
  obtain ⟨q', hs⟩ := Call.sends (r.isPlain_values st)
  cases Except.ok.inj (hq.symm.trans hs.term)
  exact ⟨q, hs, ha⟩

end PlainRequest

end CrudBench
