import CrudBench.Proofs.FieldSet
import CrudBench.Proofs.Session

/-!
# Operations of a connected session

A connected session reads the clock, asks its client once, and makes an outcome of the answer. What
is decided without the client is decided first: an empty key of an insertion, and a scan of no
records.
-/

namespace CrudBench

/-- Whole numbers are compared as such. -/
lemma Number.atMost_whole (a b : Int) : (whole a).atMost (whole b) = decide (a ≤ b) := by
  rcases Int.lt_trichotomy a b with h | h | h
  · simp [atMost, less, compare?, compare, compareOfLessAndEq, h, Int.le_of_lt h]
  · simp [atMost, less, compare?, compare, compareOfLessAndEq, h]
  · have hn : ¬ a < b := by omega
    have hne : a ≠ b := by omega
    simp [atMost, less, compare?, compare, compareOfLessAndEq, hn, hne, h]

/-- A count is the whole number that it counts as. -/
lemma Count.number?_value (c : Count) : c.value.number? = some (.whole c.toInt) := by
  cases c <;> rfl

namespace Session

variable {κ ω : Type}

/-- An action that runs in `s` returns the outcome `f`, once its latency is known, and leaves the
backend and the far side as they are in `t`. -/
def Concludes (x : Action (Session κ ω) Outcome) (s t : Session κ ω) (f : Latency → Outcome) :
    Prop :=
  ∃ latency u, x s = .ok (f latency) u ∧ u.toBackend = t.toBackend ∧ u.far = t.far

/-- Makes an outcome of a record that was found, or of null. -/
def receive (start : Float) (fields : FieldSet) : Value → Action (Session κ ω) Outcome
  | .null => do return .notFound (← elapsedSince start)
  | v => do
    let latency ← elapsedSince start
    return .found (.record ((← Action.given (rowOf v)).shown fields)) latency

/-- Makes an outcome of records that were found. -/
def receiveAll (start : Float) (fields : FieldSet) (answer : List Value) :
    Action (Session κ ω) Outcome := do
  let latency ← elapsedSince start
  return .found (.records ((← Action.given (answer.mapM rowOf)).map (·.shown fields))) latency

/-- An outcome that tells the time since a reading is one. -/
lemma concludes_elapsed (start : Float) (f : Latency → Outcome) (s : Session κ ω) :
    Concludes (do return f (← elapsedSince start)) s s f := by
  refine ⟨.real (elapsedMs start s.clock.read.1), s.ticked, ?_, rfl, rfl⟩
  simp only [Action.bind_apply, elapsedSince_apply, Action.pure_apply]

/-- A failure of an operation is an outcome. -/
lemma concludes_failure (op : Operation) (key : Value) (e : OperationError) (start : Float)
    (s : Session κ ω) : Concludes (failure op key e start) s s (.failed e.message) :=
  ⟨_, _, failure_apply op key e start s, rfl, rfl⟩

end Session

/-! ## Answers as outcomes -/

/-- The outcome that an answer to a read is taken for: null means that there is no record, and of a
record the fields are shown. -/
def Value.readOutcome? (fields : FieldSet) : Value → Option (Latency → Outcome)
  | .null => some .notFound
  | .object names => some (.found (.record (Row.shown (.ofList names) fields)))
  | _ => none

/-- The outcome that an answer to a scan is taken for, if it consists of records. -/
def Value.scanOutcome? (fields : FieldSet) (answer : List Value) : Option (Latency → Outcome) :=
  (answer.mapM Value.row?).map fun rows => .found (.records (rows.map (·.shown fields)))

/-- What a receipt makes of a write: a success if it confirms it, else, if the write may miss its
record and has, that there is none, and else a failure. -/
def Receipt.verdict (r : Receipt) (wanted : Counter) (mayMiss : Bool) : Latency → Outcome :=
  if r.confirms wanted then .ok
  else if mayMiss && r.skippedOne then .notFound
  else .failed (r.complaint wanted)

/-- The outcome that an answer to a write is taken for, if it is a receipt. -/
def Value.writeOutcome? (wanted : Counter) (mayMiss : Bool) (answer : Value) :
    Option (Latency → Outcome) :=
  (Receipt.ofValue? answer).map (·.verdict wanted mayMiss)

namespace Session

/-- What was read is received. -/
lemma concludes_receive {fields : FieldSet} {answer : Value} {f : Latency → Outcome}
    (h : answer.readOutcome? fields = some f) (start : Float) (s : Session κ ω) :
    Concludes (receive start fields answer) s s f := by
  cases answer with
  | null =>
    cases h
    exact concludes_elapsed start .notFound s
  | object names =>
    cases h
    refine ⟨.real (elapsedMs start s.clock.read.1), s.ticked, ?_, rfl, rfl⟩
    simp only [receive, Action.bind_apply, elapsedSince_apply, rowOf, Value.row?,
      Action.given_ok, Action.pure_apply]
  | _ => cases h

/-- Values that are records are given as such. -/
lemma mapM_rowOf {vs : List Value} {rows : List Row} (h : vs.mapM Value.row? = some rows) :
    vs.mapM rowOf = .ok rows := by
  induction vs generalizing rows with
  | nil =>
    cases h
    rfl
  | cons v vs ih =>
    rw [List.mapM_cons] at h ⊢
    obtain ⟨row, hrow, h⟩ := Option.bind_eq_some_iff.1 h
    obtain ⟨rest, hrest, h⟩ := Option.bind_eq_some_iff.1 h
    cases h
    rw [rowOf, hrow, ih hrest]
    rfl

/-- Records that were read are received. -/
lemma concludes_receiveAll {fields : FieldSet} {answer : List Value} {f : Latency → Outcome}
    (h : Value.scanOutcome? fields answer = some f) (start : Float) (s : Session κ ω) :
    Concludes (receiveAll start fields answer) s s f := by
  obtain ⟨rows, hrows, rfl⟩ := Option.map_eq_some_iff.1 h
  refine ⟨.real (elapsedMs start s.clock.read.1), s.ticked, ?_, rfl, rfl⟩
  simp only [receiveAll, Action.bind_apply, elapsedSince_apply, mapM_rowOf hrows,
    Action.given_ok, Action.pure_apply]

/-- A write is settled as its receipt has it. -/
lemma concludes_settle {wanted : Counter} {mayMiss : Bool} {answer : Value}
    {f : Latency → Outcome} (h : answer.writeOutcome? wanted mayMiss = some f) (op : Operation)
    (key : Value) (start : Float) (s : Session κ ω) :
    Concludes (settle op key start wanted mayMiss answer) s s f := by
  obtain ⟨r, hr, rfl⟩ := Option.map_eq_some_iff.1 h
  simp only [settle, hr, Receipt.verdict]
  split
  · exact concludes_elapsed start .ok s
  · split
    · exact concludes_elapsed start .notFound s
    · exact concludes_failure op key (.rejected wanted r) start s

variable [Client κ ω] {s : Session κ ω} {st : Settings}

/-- What an operation comes to hinges on a call, once the clock was read: an answer is taken for the
outcome `take` of it, and a failure for a failure. -/
structure Hinges (x : Action (Session κ ω) Outcome) (s : Session κ ω) (c : Call)
    (take : c.Answer → Option (Latency → Outcome)) : Prop where
  of_ok : ∀ {a t f}, ask c s.ticked = .ok a t → take a = some f → Concludes x s t f
  of_error : ∀ {e t}, ask c s.ticked = .error (.operation e) t →
    Concludes x s t (.failed e.message)

/-- A timed operation hinges on its call. -/
lemma hinges_of_timed {x : Action (Session κ ω) Outcome} (op : Operation) (key : Value)
    (start : Float) {c : Call} (finish : c.Answer → Action (Session κ ω) Outcome)
    {take : c.Answer → Option (Latency → Outcome)}
    (hx : x s = timed op key start c finish s.ticked)
    (hf : ∀ a f t, take a = some f → Concludes (finish a) t t f) : Hinges x s c take := by
  rw [timed_apply] at hx
  constructor
  · intro a t f ha h
    obtain ⟨latency, u, hu, hb, hw⟩ := hf a f t h
    rw [ha] at hx
    exact ⟨latency, u, hx.trans hu, hb, hw⟩
  · intro e t ha
    obtain ⟨latency, u, hu, hb, hw⟩ := concludes_failure op key e start t
    rw [ha] at hx
    exact ⟨latency, u, hx.trans hu, hb, hw⟩

section Connected

variable (hc : s.connected = true) (hs : s.settings = some st)

include hc hs

lemma read_timed (t key : Value) (fields : List String) :
    Session.read t key (.ofTexts fields) s = timed .read key s.clock.read.1
      (.get st.database t key (FieldSet.names fields) st.readMode)
      (receive s.clock.read.1 (.ofTexts fields)) s.ticked := by
  rw [Session.read, whenConnected_of_connected hc hs]
  simp only [Action.bind_apply, now_apply, FieldSet.sorted_ofTexts, Action.given_ok,
    Action.pure_apply]
  -- what is done with the answer is to receive it, one kind of value after the other
  congr 1
  funext v
  cases v <;> rfl

/-- A read hinges on a call for one record. -/
lemma read_hinges (t key : Value) (fields : List String) :
    Hinges (Session.read t key (.ofTexts fields)) s
      (.get st.database t key (FieldSet.names fields) st.readMode)
      (Value.readOutcome? (.ofTexts fields)) :=
  hinges_of_timed .read key s.clock.read.1 (receive s.clock.read.1 (.ofTexts fields))
    (read_timed hc hs t key fields) fun _ _ t h => concludes_receive h _ t

/-- A scan of no records finds none. -/
lemma scan_of_nonpos (t key : Value) {count : Int} (fields : FieldSet) (h : count ≤ 0) :
    Session.scan t key (.int count) fields s = .ok (.found (.records []) .zero) s := by
  have h0 : (Value.int count).atMostZero = .ok true := by
    simp [Value.atMostZero, Value.number?, Number.atMost_whole, h]
  rw [Session.scan, whenConnected_of_connected hc hs]
  simp only [Action.bind_apply, h0, Action.given_ok, Action.pure_apply, if_true]

lemma scan_timed (t key : Value) {count : Count} (fields : List String) (h : 0 < count.toInt) :
    Session.scan t key count.value (.ofTexts fields) s = timed .scan key s.clock.read.1
      (.between st.database t key count.value (FieldSet.names fields) st.readMode)
      (receiveAll s.clock.read.1 (.ofTexts fields)) s.ticked := by
  have h0 : count.value.atMostZero = .ok false := by
    simp [Value.atMostZero, Count.number?_value, Number.atMost_whole, h]
  rw [Session.scan, whenConnected_of_connected hc hs]
  simp only [Action.bind_apply, h0, Action.given_ok, Action.pure_apply, Bool.false_eq_true,
    if_false, now_apply, FieldSet.sorted_ofTexts]
  rfl

/-- A scan of some records hinges on a call for as many. -/
lemma scan_hinges (t key : Value) {count : Count} (fields : List String) (h : 0 < count.toInt) :
    Hinges (Session.scan t key count.value (.ofTexts fields)) s
      (.between st.database t key count.value (FieldSet.names fields) st.readMode)
      (Value.scanOutcome? (.ofTexts fields)) :=
  hinges_of_timed .scan key s.clock.read.1 (receiveAll s.clock.read.1 (.ofTexts fields))
    (scan_timed hc hs t key fields h) fun _ _ t h => concludes_receiveAll h _ t

lemma update_timed (t key : Value) (values : Row) :
    Session.update t key values.value s = timed .update key s.clock.read.1
      (.update st.database t key (updateDocument values) st.durability)
      (settle .update key s.clock.read.1 .replaced true) s.ticked := by
  rw [Session.update, whenConnected_of_connected hc hs]
  simp only [Action.bind_apply, now_apply, rowOf_value, Action.given_ok, Action.pure_apply]

/-- An update hinges on a call to write its document. -/
lemma update_hinges (t key : Value) (values : Row) :
    Hinges (Session.update t key values.value) s
      (.update st.database t key (updateDocument values) st.durability)
      (Value.writeOutcome? .replaced true) :=
  hinges_of_timed .update key s.clock.read.1 (settle .update key s.clock.read.1 .replaced true)
    (update_timed hc hs t key values) fun _ _ t h => concludes_settle h _ _ _ t

/-- An insertion under an empty key fails. -/
lemma insert_of_empty (t key : Value) (values : Row) (h : key.isTruthy = false) :
    Session.insert t key values.value s = .ok (.failed "Empty primary key" .zero) s := by
  rw [Session.insert, whenConnected_of_connected hc hs]
  simp [h]

lemma insert_timed (t key : Value) (values : Row) (h : key.isTruthy = true) :
    Session.insert t key values.value s = timed .insert key s.clock.read.1
      (.insert st.database t (insertedRow key values) st.durability)
      (settle .insert key s.clock.read.1 .inserted false) s.ticked := by
  rw [Session.insert, whenConnected_of_connected hc hs]
  simp only [h, if_true, Action.bind_apply, now_apply, rowOf_value, Action.given_ok,
    Action.pure_apply]

/-- An insertion under any other key hinges on a call to put its row in. -/
lemma insert_hinges (t key : Value) (values : Row) (h : key.isTruthy = true) :
    Hinges (Session.insert t key values.value) s
      (.insert st.database t (insertedRow key values) st.durability)
      (Value.writeOutcome? .inserted false) :=
  hinges_of_timed .insert key s.clock.read.1 (settle .insert key s.clock.read.1 .inserted false)
    (insert_timed hc hs t key values h) fun _ _ t h => concludes_settle h _ _ _ t

lemma delete_timed (t key : Value) :
    Session.delete t key s = timed .delete key s.clock.read.1
      (.delete st.database t key st.durability)
      (settle .delete key s.clock.read.1 .deleted true) s.ticked := by
  rw [Session.delete, whenConnected_of_connected hc hs]
  simp only [Action.bind_apply, now_apply]

/-- A deletion hinges on a call to remove the record. -/
lemma delete_hinges (t key : Value) :
    Hinges (Session.delete t key) s (.delete st.database t key st.durability)
      (Value.writeOutcome? .deleted true) :=
  hinges_of_timed .delete key s.clock.read.1 (settle .delete key s.clock.read.1 .deleted true)
    (delete_timed hc hs t key) fun _ _ t h => concludes_settle h _ _ _ t

end Connected

end Session

end CrudBench
