import CrudBench.Proofs.Query.Meaning
import CrudBench.Proofs.Query.Term
import Mathlib.Data.List.Forall2

/-!
# Evaluating the terms of calls

The term of a call about records is evaluated as it is put together (`RecordCall.denotes_term`). On
records a read then shows what it asks for and changes nothing, and a write changes one cell and is
receipted by the counter that it moves (`Query.Changes`).
-/

namespace CrudBench

lemma Document.entries_row (d : Document) :
    d.row.entries = d.entries.map fun e => (e.1, .str e.2) := rfl

/-! ## Evaluating terms as they are built -/

namespace Query

open Meaning

variable {w : Wording}

/-- The term that is built is evaluated like this. -/
def Denotes (w : Wording) (x : Built) (r : Run Meaning) : Prop := ∃ t, x = .ok t ∧ t.eval w = r

lemma denotes_str (s : String) : Denotes w (Term.ofValue (.str s)) (pure (.datum (.str s))) :=
  ⟨.str s, rfl, rfl⟩

lemma denotes_null : Denotes w (Term.ofValue .null) (pure (.datum .null)) := ⟨.null, rfl, rfl⟩

lemma denotes_int (n : Int) : Denotes w (Term.ofValue (.int n)) (pure (.datum (.int n))) :=
  ⟨.int n, rfl, rfl⟩

/-- Arguments are built one after the other, and each is evaluated. -/
lemma mapM_args {args : List Built} {runs : List (Run Meaning)}
    (h : List.Forall₂ (Denotes w) args runs) :
    ∃ ts, args.mapM id = .ok ts ∧ Term.evalItems w ts = runs := by
  induction h with
  | nil => exact ⟨[], rfl, rfl⟩
  | cons h _ ih =>
    obtain ⟨t, rfl, rfl⟩ := h
    obtain ⟨ts, hts, rfl⟩ := ih
    refine ⟨t :: ts, ?_, rfl⟩
    rw [List.mapM_cons, hts]
    rfl

/-- Options are built one after the other, and each is evaluated under its name. -/
lemma mapM_options {options : List (String × Built)} {runs : List (String × Run Meaning)}
    (h : List.Forall₂ (fun o r => o.1 = r.1 ∧ Denotes w o.2 r.2) options runs) :
    ∃ ts, (options.mapM fun o => do return (o.1, ← o.2)) = .ok ts ∧
      Term.evalFields w ts = runs := by
  induction h with
  | nil => exact ⟨[], rfl, rfl⟩
  | @cons o r _ _ h _ ih =>
    obtain ⟨name, x⟩ := o
    obtain ⟨name', y⟩ := r
    obtain ⟨rfl, t, rfl, rfl⟩ := h
    obtain ⟨ts, hts, rfl⟩ := ih
    refine ⟨(name, t) :: ts, ?_, rfl⟩
    rw [List.mapM_cons, hts]
    rfl

/-- An operation is evaluated on what its arguments and options are evaluated to. -/
lemma denotes_apply (op : Op) {args : List Built} {runs : List (Run Meaning)}
    (ha : List.Forall₂ (Denotes w) args runs) {options : List (String × Built)}
    {oruns : List (String × Run Meaning)}
    (ho : List.Forall₂ (fun o r => o.1 = r.1 ∧ Denotes w o.2 r.2) options oruns) :
    Denotes w (apply op args options) (op.run w runs oruns) := by
  obtain ⟨ts, hts, hruns⟩ := mapM_args ha
  obtain ⟨os, hos, horuns⟩ := mapM_options ho
  refine ⟨.call op ts os, ?_, ?_⟩
  · rw [apply, hts, hos]
    rfl
  · rw [Term.eval, hruns, horuns]

lemma denotes_databaseTerm (db : String) :
    Denotes w (databaseTerm (.str db)) (pure (.database db)) :=
  denotes_apply .database (.cons (denotes_str db) .nil) .nil

lemma denotes_modeValue (mode : Option ReadMode) :
    Denotes w (Term.ofValue (Call.modeValue mode)) (pure (.datum (Call.modeValue mode))) := by
  cases mode with
  | none => exact denotes_null
  | some m => exact denotes_str m.name

/-- A table is opened, in whatever mode it is read. -/
lemma denotes_tableTerm (db t : String) (mode : Option ReadMode) :
    Denotes w (tableTerm (.str db) (.str t) (Call.modeValue mode)) (openTable w db t) := by
  have ha : List.Forall₂ (Denotes w) [databaseTerm (.str db), Term.ofValue (.str t)]
      [pure (.database db), pure (.datum (.str t))] :=
    .cons (denotes_databaseTerm db) (.cons (denotes_str t) .nil)
  rw [tableTerm]
  split
  · exact denotes_apply .table ha
      (.cons (b := ("read_mode", _)) ⟨rfl, denotes_modeValue mode⟩ .nil)
  · exact denotes_apply .table ha .nil

/-- What a record is evaluated to. -/
def recordRun (w : Wording) (db t k : String) : Run Meaning :=
  Op.run w .get [openTable w db t, pure (.datum (.str k))] []

lemma denotes_recordTerm (db t k : String) (mode : Option ReadMode) :
    Denotes w (recordTerm (.str db) (.str t) (.str k) (Call.modeValue mode))
      (recordRun w db t k) :=
  denotes_apply .get (.cons (denotes_tableTerm db t mode) (.cons (denotes_str k) .nil)) .nil

/-- The names of fields are taken one after the other. -/
lemma mapM_names (fields : List String) :
    (fields.map fun s => (pure (.datum (.str s)) : Run Meaning)).mapM id =
      pure (fields.map fun s => .datum (.str s)) := by
  induction fields with
  | nil => rfl
  | cons s fields ih =>
    rw [List.map_cons, List.mapM_cons, ih]
    rfl

lemma mapM_text? (fields : List String) :
    (fields.map fun s => Meaning.datum (.str s)).mapM text? = some fields := by
  induction fields with
  | nil => rfl
  | cons s fields ih =>
    rw [List.map_cons, List.mapM_cons, ih]
    rfl

/-- The fields of these names are plucked. -/
lemma denotes_pluck {subject : Built} {r : Run Meaning} (h : Denotes w subject r)
    (fields : List String) :
    Denotes w (pluck subject (.list (fields.map Value.str)))
      (do Meaning.pluck w fields (← r)) := by
  have hnames : List.Forall₂ (Denotes w) ((fields.map Value.str).map Term.ofValue)
      (fields.map fun s => pure (.datum (.str s))) := by
    rw [List.map_map, List.forall₂_map_left_iff, List.forall₂_map_right_iff, List.forall₂_same]
    exact fun s _ => denotes_str s
  have hrun : Op.run w .pluck (r :: fields.map fun s => pure (.datum (.str s))) [] =
      (do Meaning.pluck w fields (← r)) := by
    simp only [Op.run, mapM_names, pure_bind, mapM_text?]
    rfl
  exact hrun ▸ denotes_apply .pluck (.cons h hnames) .nil

/-- What a range of records is evaluated to. -/
def rangeRun (w : Wording) (db t low : String) (n : Int) : Run Meaning :=
  Op.run w .limit [Op.run w .orderBy
    [Op.run w .between [openTable w db t, pure (.datum (.str low)), pure .maxKey] []]
      [("index", pure (.ascending primaryKey))], pure (.datum (.int n))] []

lemma denotes_rangeTerm (db t low : String) (n : Int) (mode : Option ReadMode) :
    Denotes w (rangeTerm (.str db) (.str t) (.str low) (.int n) (Call.modeValue mode))
      (rangeRun w db t low n) := by
  have hmax : Denotes w (apply .maxValue [] []) (pure .maxKey) :=
    denotes_apply .maxValue .nil .nil
  have hkey : Denotes w (apply .ascending [Term.ofValue (.str primaryKey)] [])
      (pure (.ascending primaryKey)) :=
    denotes_apply .ascending (.cons (denotes_str _) .nil) .nil
  have hrange := denotes_apply .between
    (.cons (denotes_tableTerm (w := w) db t mode) (.cons (denotes_str low) (.cons hmax .nil))) .nil
  have hsorted := denotes_apply .orderBy (.cons hrange .nil)
    (.cons (a := ("index", _)) (b := ("index", _)) ⟨rfl, hkey⟩ .nil)
  exact denotes_apply .limit (.cons hsorted (.cons (denotes_int n) .nil)) .nil

/-! ## Evaluation on records -/

@[simp]
lemma run_pure {α : Type} (x : α) (a : TextContents) : (pure x : Run α) a = .ok x a := rfl

@[simp]
lemma run_bind {α β : Type} (x : Run α) (f : α → Run β) (a : TextContents) :
    (x >>= f) a = match x a with
      | .ok y b => f y b
      | .error e b => .error e b := by
  show EStateM.bind x f a = _
  unfold EStateM.bind
  cases x a <;> rfl

@[simp]
lemma run_map {α β : Type} (f : α → β) (x : Run α) (a : TextContents) :
    (f <$> x) a = match x a with
      | .ok y b => .ok (f y) b
      | .error e b => .error e b := by
  rw [map_eq_pure_bind, run_bind]
  rfl

variable {a : TextContents} {db t : String}

lemma openTable_apply (db t : String) (a : TextContents) :
    openTable w db t a = match a.at? db t with
      | some cells => .ok (.table ⟨db, t⟩ cells) a
      | none => .error (.reported .opFailed (w.noTable db t)) a := by
  rw [openTable, run_bind]
  show (match a.at? db t with
    | some cells => (pure (.table ⟨db, t⟩ cells) : Run Meaning)
    | none => throw (DriverError.reported .opFailed (w.noTable db t))) a = _
  cases a.at? db t <;> rfl

lemma openTable_of_some {cells : SortedMap Document} (h : a.at? db t = some cells) :
    openTable w db t a = .ok (.table ⟨db, t⟩ cells) a := by
  rw [openTable_apply, h]

lemma openTable_of_none (h : a.at? db t = none) :
    openTable w db t a = .error (.reported .opFailed (w.noTable db t)) a := by
  rw [openTable_apply, h]

/-- A cell of a table is put. -/
lemma putCell_of_some {cells : SortedMap Document} (h : a.at? db t = some cells) (key : String)
    (d : Option Document) :
    putCell ⟨db, t⟩ key d a = .ok () (a.putAt db t (cells.set key d)) := by
  show EStateM.Result.ok () (a.putAt db t (((a.at? db t).getD .empty).set key d)) = _
  rw [h]
  rfl

lemma recordRun_of_some {cells : SortedMap Document} (h : a.at? db t = some cells) (k : String) :
    recordRun w db t k a = .ok (.record ⟨db, t⟩ k (cells.get? k)) a := by
  simp [recordRun, Op.run, openTable_of_some h]

lemma recordRun_of_none (h : a.at? db t = none) (k : String) :
    recordRun w db t k a = .error (.reported .opFailed (w.noTable db t)) a := by
  simp [recordRun, Op.run, openTable_of_none h]

lemma rangeRun_of_some {cells : SortedMap Document} (h : a.at? db t = some cells) (low : String)
    {n : Int} (hn : 0 < n) :
    rangeRun w db t low n a =
      .ok (.sequence (((cells.startingAt low).entries.map (·.2)).take n.toNat)) a := by
  have hn' : 0 ≤ n := by omega
  simp [rangeRun, Op.run, openTable_of_some h, hn']

lemma rangeRun_of_none (h : a.at? db t = none) (low : String) (n : Int) :
    rangeRun w db t low n a = .error (.reported .opFailed (w.noTable db t)) a := by
  simp [rangeRun, Op.run, openTable_of_none h]

/-! ## Documents -/

/-- Fields that hold texts have terms that are evaluated to them. -/
lemma ofFields_evaluated (w : Wording) (depth : Nat) (es : List (String × String)) :
    ∃ ts, Term.ofFields (depth + 1) (es.map fun e => (e.1, .str e.2)) = .ok ts ∧
      (Term.evalFields w ts).mapM (fun f => do return (f.1, ← the w (← f.2).value?)) =
        (pure (es.map fun e => (e.1, .str e.2)) : Run (List (String × Value))) := by
  induction es with
  | nil => exact ⟨[], rfl, rfl⟩
  | cons e es ih =>
    obtain ⟨ts, hts, hrun⟩ := ih
    refine ⟨(e.1, .str e.2) :: ts, ?_, ?_⟩
    · rw [List.map_cons, Term.ofFields, hts]
      rfl
    · rw [Term.evalFields, List.mapM_cons, hrun]
      rfl

/-- A record of texts is sent as the fields that it has. -/
lemma denotes_document (d : Document) :
    Denotes w (Term.ofValue d.row.value) (pure (.datum d.row.value)) := by
  obtain ⟨ts, hts, hrun⟩ := ofFields_evaluated w 18 d.entries
  refine ⟨.object ts, ?_, ?_⟩
  · show (Term.ofFields 19 d.row.entries).map Term.object = _
    rw [d.entries_row, hts]
    rfl
  · rw [Term.eval, hrun]
    rfl

/-- The texts of fields are taken one after the other. -/
lemma mapM_str? (es : List (String × String)) :
    (es.map fun e => (e.1, Value.str e.2)).mapM
      (fun f : String × Value => f.2.str?.map (f.1, ·)) = some es := by
  induction es with
  | nil => rfl
  | cons e es ih =>
    rw [List.map_cons, List.mapM_cons, ih]
    rfl

/-- What was sent of a record of texts is that record. -/
lemma document?_value (d : Document) : (Meaning.datum d.row.value).document? = some d :=
  (congrArg (Option.map SortedMap.ofList) (mapM_str? d.entries)).trans
    (congrArg some d.ofList_entries)

end Query

/-! ## Replies -/

namespace Term

variable {w : Wording} {t : Term} {a b : TextContents}

/-- A term that is evaluated to a value is replied to with it. -/
lemma reply_of_ok {m : Meaning} {v : Value} (h : t.eval w a = .ok m b) (hv : m.value? = some v) :
    t.reply w a = (.ok v, b) := by
  rw [reply, h]
  simp only [hv]

/-- A term whose evaluation fails is replied to with the error. -/
lemma reply_of_error {e : DriverError} (h : t.eval w a = .error e b) :
    t.reply w a = (.error e, b) := by
  rw [reply, h]

end Term

/-! ## Cells -/

namespace Document

/-- The part of a record that is shown if some fields are asked for, and all of it if none are. -/
def read (d : Document) (fields : List String) : Document :=
  if fields.isEmpty then d else d.filterKeys fields.contains

/-- The counter that an update of a cell moves, and what the cell holds afterwards. -/
def updateCell (values : Document) : Option Document → Counter × Option Document
  | none => (.skipped, none)
  | some d =>
    if d.overlay values = d then (.unchanged, some d) else (.replaced, some (d.overlay values))

/-- The counter that an insertion into a cell moves, and what the cell holds afterwards. -/
def insertCell (d : Document) : Option Document → Counter × Option Document
  | none => (.inserted, some d)
  | some old => (.errors, some old)

/-- The counter that a removal from a cell moves, and what the cell holds afterwards. -/
def deleteCell : Option Document → Counter × Option Document
  | none => (.skipped, none)
  | some _ => (.deleted, none)

end Document

/-- What a counter has come to; one that is missing counts as zero. -/
def Receipt.total (r : Receipt) (c : Counter) : Value :=
  match r.counter c with
  | .null => .int 0
  | v => v

/-- The receipt says that this counter came to one, and no other; it tells of an error if it is that
of errors. -/
structure Receipt.Moves (r : Receipt) (moved : Counter) : Prop where
  total : ∀ c, r.total c = .int (if c = moved then 1 else 0)
  complains : (r.fields.lookup "first_error").isSome ↔ moved = .errors

/-- The receipt of a counter is one that moves it. -/
lemma Counter.moves_receipt (moved : Counter) (firstError : Option String)
    (h : firstError.isSome ↔ moved = .errors) : (moved.receipt firstError).Moves moved where
  total c := by cases c <;> rfl
  complains := by
    refine Iff.trans ?_ h
    cases firstError <;> rfl

/-- Every record holds its key. -/
def TextContents.Keyed (a : TextContents) : Prop :=
  ∀ ⦃db t : String⦄ ⦃cells : SortedMap Document⦄ ⦃key : String⦄ ⦃d : Document⦄,
    a.at? db t = some cells → cells.get? key = some d → d.get? primaryKey = some key

/-- A record that is set under its own key holds its key. -/
lemma TextContents.Keyed.putAt {a : TextContents} (ha : a.Keyed) {db t : String}
    {cells : SortedMap Document} (h : a.at? db t = some cells) {key : String} {x : Option Document}
    (hx : ∀ d, x = some d → d.get? primaryKey = some key) :
    Keyed (a.putAt db t (cells.set key x)) := by
  intro db' t' cells' key' d hcells hd
  rw [SortedMap.at?_putAt] at hcells
  split at hcells
  · cases hcells
    rw [SortedMap.get?_set] at hd
    split at hd
    next hk => exact hk ▸ hx d hd
    · exact ha h hd
  · exact ha hcells hd

/-- On records that hold their keys the run changes one cell of a table, as `f` says, and gives a
receipt of that. What the cell then holds, holds its key. -/
def Query.Changes (x : Run Meaning) (db t key : String)
    (f : Option Document → Counter × Option Document) : Prop :=
  ∀ ⦃a : TextContents⦄ ⦃cells : SortedMap Document⦄, a.Keyed → a.at? db t = some cells →
    (∀ d, (f (cells.get? key)).2 = some d → d.get? primaryKey = some key) ∧
    ∃ r : Receipt, r.Moves (f (cells.get? key)).1 ∧
      x a = .ok (.datum (.object r.fields))
        (a.putAt db t (cells.set key (f (cells.get? key)).2))

/-! ## Calls about records -/

/-- A call about records of texts under a text. An inserted record holds its key, an update does not
change it, and at least one record is asked for. -/
inductive RecordCall where
  | get (database table key : String) (fields : List String) (mode : Option ReadMode)
  | between (database table low : String) (limit : Int) (positive : 0 < limit)
      (fields : List String) (mode : Option ReadMode)
  | update (database table key : String) (values : Document)
      (keeps : ∀ k, values.get? primaryKey = some k → k = key) (durability : Durability)
  | insert (database table key : String) (document : Document)
      (holds : document.get? primaryKey = some key) (durability : Durability)
  | delete (database table key : String) (durability : Durability)

namespace RecordCall

open Meaning Query

/-- The table that the call is about. -/
def place : RecordCall → TableName
  | get db t .. | between db t .. | update db t .. | insert db t .. | delete db t .. => ⟨db, t⟩

/-- The call of a client. -/
def call : RecordCall → Call
  | get db t key fields mode => .get db (.str t) (.str key) (fields.map Value.str) mode
  | between db t low n _ fields mode =>
    .between db (.str t) (.str low) (.int n) (fields.map Value.str) mode
  | update db t key values _ durability => .update db (.str t) (.str key) values durability
  | insert db t _ document _ durability => .insert db (.str t) document.row durability
  | delete db t key durability => .delete db (.str t) (.str key) durability

/-- How the term of the call is evaluated. -/
def run (w : Wording) : RecordCall → Run Meaning
  | get db t key fields _ =>
    if fields.isEmpty then recordRun w db t key
    else orElse (do Meaning.pluck w fields (← recordRun w db t key)) (pure (.datum .null))
  | between db t low n _ fields _ =>
    if fields.isEmpty then rangeRun w db t low n
    else do Meaning.pluck w fields (← rangeRun w db t low n)
  | update db t key values _ durability =>
    Op.run w .update [recordRun w db t key, pure (.datum values.row.value)]
      [("durability", pure (.datum (.str durability.name)))]
  | insert db t _ document _ durability =>
    Op.run w .insert [openTable w db t, pure (.datum document.row.value)]
      [("durability", pure (.datum (.str durability.name))),
        ("conflict", pure (.datum (.str "error")))]
  | delete db t key durability =>
    Op.run w .delete [recordRun w db t key] [("durability", pure (.datum (.str durability.name)))]

variable {w : Wording}

lemma isTruthy_names (fields : List String) :
    (Value.list (fields.map Value.str)).isTruthy = !fields.isEmpty := by
  cases fields <;> rfl

/-- The term of the call is evaluated like this. -/
theorem denotes_term (c : RecordCall) : Denotes w c.call.query.term (c.run w) := by
  cases c with
  | get db t key fields mode =>
    have hr := denotes_recordTerm (w := w) db t key mode
    rw [call, Call.query, Query.term, run, isTruthy_names]
    cases hf : fields.isEmpty with
    | true => exact hr
    | false =>
      exact denotes_apply .default (.cons (denotes_pluck hr fields) (.cons denotes_null .nil)) .nil
  | between db t low n hn fields mode =>
    have hr := denotes_rangeTerm (w := w) db t low n mode
    rw [call, Call.query, Query.term, run, isTruthy_names]
    cases hf : fields.isEmpty with
    | true => exact hr
    | false => exact denotes_pluck hr fields
  | update db t key values hk durability =>
    exact denotes_apply .update
      (.cons (denotes_recordTerm db t key none) (.cons (denotes_document values) .nil))
      (.cons (b := ("durability", _)) ⟨rfl, denotes_str durability.name⟩ .nil)
  | insert db t key d hd durability =>
    exact denotes_apply .insert
      (.cons (denotes_tableTerm db t none) (.cons (denotes_document d) .nil))
      (.cons (b := ("durability", _)) ⟨rfl, denotes_str durability.name⟩
        (.cons (b := ("conflict", _)) ⟨rfl, denotes_str "error"⟩ .nil))
  | delete db t key durability =>
    exact denotes_apply .delete (.cons (denotes_recordTerm db t key none) .nil)
      (.cons (b := ("durability", _)) ⟨rfl, denotes_str durability.name⟩ .nil)

/-! ### On records -/

variable {a : TextContents} {db t : String} {cells : SortedMap Document}

/-- A call about a table that is not there fails. -/
lemma run_of_none {c : RecordCall} (hp : c.place = ⟨db, t⟩) (h : a.at? db t = none) :
    c.run w a = .error (.reported .opFailed (w.noTable db t)) a := by
  cases c with
  | get _ _ key fields mode =>
    cases hp
    have hr := recordRun_of_none (w := w) h key
    cases hf : fields.isEmpty <;> simp [run, hf, orElse, hr, DriverError.kind]
  | between _ _ low n hn fields mode =>
    cases hp
    have hr := rangeRun_of_none (w := w) h low n
    cases hf : fields.isEmpty <;> simp [run, hf, hr]
  | insert _ _ key d hd durability =>
    cases hp
    simp [run, Op.run, List.lookup_cons, openTable_of_none h]
  | update _ _ key | delete _ _ key =>
    cases hp
    simp [run, Op.run, recordRun_of_none h]

/-- A look-up shows the part of the record that is asked for, or null. -/
lemma run_get (h : a.at? db t = some cells) (key : String) (fields : List String)
    (mode : Option ReadMode) :
    ∃ m, (get db t key fields mode).run w a = .ok m a ∧
      m.value? = some (match cells.get? key with
        | none => .null
        | some d => (d.read fields).row.value) := by
  have hr := recordRun_of_some (w := w) h key
  rw [run]
  cases hf : fields.isEmpty with
  | true =>
    refine ⟨_, hr, ?_⟩
    cases cells.get? key with
    | none => rfl
    | some d => simp [value?, Document.read, hf]
  | false =>
    have hp : (do Meaning.pluck w fields (← recordRun w db t key)) a =
        Meaning.pluck w fields (.record ⟨db, t⟩ key (cells.get? key)) a := by
      rw [run_bind, hr]
    -- a record that is not there has no fields, which the default makes up for
    cases hc : cells.get? key with
    | none =>
      refine ⟨.datum .null, ?_, rfl⟩
      rw [hc] at hp
      simp only [Bool.false_eq_true, if_false, orElse, hp]
      rfl
    | some d =>
      refine ⟨.datum (d.read fields).row.value, ?_, rfl⟩
      rw [hc] at hp
      simp only [Bool.false_eq_true, if_false, orElse, hp, Document.read, hf]
      rfl

/-- A scan shows the parts of the first records of its range that are asked for. -/
lemma run_between (h : a.at? db t = some cells) (low : String) {n : Int} (hn : 0 < n)
    (fields : List String) (mode : Option ReadMode) :
    ∃ m, (between db t low n hn fields mode).run w a = .ok m a ∧
      m.value? = some (.list (((cells.startingAt low).entries.take n.toNat).map fun e =>
        (e.2.read fields).row.value)) := by
  have hr := rangeRun_of_some (w := w) h low hn
  rw [run]
  cases hf : fields.isEmpty with
  | true =>
    refine ⟨_, hr, ?_⟩
    simp [value?, Document.read, hf, ← List.map_take, List.map_map, Function.comp_def]
  | false =>
    refine ⟨.sequence (((cells.startingAt low).entries.take n.toNat).map fun e =>
      e.2.filterKeys fields.contains), ?_, ?_⟩
    · rw [if_neg Bool.false_ne_true, run_bind, hr, ← List.map_take]
      exact congrArg (EStateM.Result.ok · a) (congrArg sequence List.map_map)
    · simp [value?, Document.read, hf, List.map_map, Function.comp_def]

/-- An update changes the cell under its key. -/
lemma changes_update (db t key : String) (values : Document)
    (hk : ∀ k, values.get? primaryKey = some k → k = key) (durability : Durability) :
    Changes ((update db t key values hk durability).run w) db t key values.updateCell := by
  intro a cells ha h
  have hrun : (update db t key values hk durability).run w a =
      Meaning.update w ⟨db, t⟩ key (cells.get? key) values a := by
    simp [run, Op.run, recordRun_of_some h, document?_value]
  have hs := SortedMap.putAt_set_self h key
  rw [hrun]
  cases hc : cells.get? key with
  | none =>
    rw [hc] at hs
    refine ⟨?_, _, Counter.moves_receipt .skipped none (by simp), ?_⟩
    · rintro _ ⟨⟩
    · simp only [Document.updateCell, hs]
      rfl
  | some d =>
    rw [hc] at hs
    have hkey : (d.overlay values).get? primaryKey = some key := by
      rw [SortedMap.get?_overlay, ha h hc]
      cases hv : values.get? primaryKey with
      | none => rfl
      | some k => rw [hk k hv]; rfl
    by_cases hd : d.overlay values = d
    · have hf : values.updateCell (some d) = (.unchanged, some d) := if_pos hd
      rw [hf, hs]
      refine ⟨?_, _, Counter.moves_receipt .unchanged none (by simp), ?_⟩
      · rintro _ ⟨⟩
        exact ha h hc
      · simp [Meaning.update, hd]
    · have hf : values.updateCell (some d) = (.replaced, some (d.overlay values)) := if_neg hd
      rw [hf]
      refine ⟨?_, _, Counter.moves_receipt .replaced none (by simp), ?_⟩
      · rintro _ ⟨⟩
        exact hkey
      · simp [Meaning.update, hd, hkey, ha h hc, putCell_of_some h]

/-- An insertion changes the cell under the key that the record holds. -/
lemma changes_insert (db t key : String) (d : Document) (hd : d.get? primaryKey = some key)
    (durability : Durability) :
    Changes ((insert db t key d hd durability).run w) db t key d.insertCell := by
  intro a cells ha h
  have hrun : (insert db t key d hd durability).run w a =
      Meaning.insert w ⟨db, t⟩ cells d a := by
    simp [run, Op.run, List.lookup_cons, openTable_of_some h, document?_value, text?]
  have hs := SortedMap.putAt_set_self h key
  rw [hrun]
  cases hc : cells.get? key with
  | none =>
    refine ⟨?_, _, Counter.moves_receipt .inserted none (by simp), ?_⟩
    · rintro _ ⟨⟩
      exact hd
    · simp [Meaning.insert, the, hd, hc, putCell_of_some h, Document.insertCell]
  | some old =>
    rw [hc] at hs
    refine ⟨?_, _, Counter.moves_receipt .errors (some (w.keyTaken key)) (by simp), ?_⟩
    · rintro _ ⟨⟩
      exact ha h hc
    · simp [Meaning.insert, the, hd, hc, Document.insertCell, hs]

/-- A removal changes the cell under its key. -/
lemma changes_delete (db t key : String) (durability : Durability) :
    Changes ((delete db t key durability).run w) db t key Document.deleteCell := by
  intro a cells ha h
  have hrun : (delete db t key durability).run w a =
      Meaning.delete ⟨db, t⟩ key (cells.get? key) a := by
    simp [run, Op.run, recordRun_of_some h]
  have hs := SortedMap.putAt_set_self h key
  rw [hrun]
  cases hc : cells.get? key with
  | none =>
    rw [hc] at hs
    refine ⟨?_, _, Counter.moves_receipt .skipped none (by simp), ?_⟩
    · rintro _ ⟨⟩
    · simp [Meaning.delete, Document.deleteCell, hs]
  | some d =>
    refine ⟨?_, _, Counter.moves_receipt .deleted none (by simp), ?_⟩
    · rintro _ ⟨⟩
    · simp [Meaning.delete, Document.deleteCell, putCell_of_some h]

end RecordCall

end CrudBench
