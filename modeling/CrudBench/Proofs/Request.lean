import CrudBench.Backend.Records
import CrudBench.Proofs.Fault
import CrudBench.Proofs.Session

/-!
# Requests

A request is an operation on records with its arguments, of whatever kinds they are; a point request
is one about a single record, with texts for its table and its key, and a plain request is one of
these or one about a range of records. Requests do nothing to a session but read its clock, add to
its log and ask its client. So what these three keep is kept by every request, and by making a
schema ready (`Session.Stable`).
-/

namespace CrudBench

/-- An operation on records. -/
inductive Request where
  | read (t key : Value) (fields : FieldSet)
  | scan (t key count : Value) (fields : FieldSet)
  | update (t key values : Value)
  | insert (t key values : Value)
  | delete (t key : Value)

/-- Carries a request out. -/
def Request.perform {κ ω : Type} [Client κ ω] : Request → Action (Session κ ω) Outcome
  | read t key fields => Session.read t key fields
  | scan t key count fields => Session.scan t key count fields
  | update t key values => Session.update t key values
  | insert t key values => Session.insert t key values
  | delete t key => Session.delete t key

/-- What is done with a record. Without fields a read asks for all of them but the key. -/
inductive Verb where
  | read (fields : List String)
  | insert (values : Row)
  | update (values : Row)
  | delete

/-- An operation on the record under a key of a table. -/
structure PointRequest where
  table : String
  key : String
  verb : Verb

/-- The operation as a request. -/
def PointRequest.request (r : PointRequest) : Request :=
  match r.verb with
  | .read fields => .read (.str r.table) (.str r.key) (.ofTexts fields)
  | .insert values => .insert (.str r.table) (.str r.key) values.value
  | .update values => .update (.str r.table) (.str r.key) values.value
  | .delete => .delete (.str r.table) (.str r.key)

/-- Carries the operation out. -/
def PointRequest.perform {κ ω : Type} [Client κ ω] (r : PointRequest) :
    Action (Session κ ω) Outcome :=
  r.request.perform

/-- An operation whose names and keys are texts: on one record, or on a range of them. -/
inductive PlainRequest where
  | point (r : PointRequest)
  | range (t start : String) (count : Int) (fields : List String)

/-- The operation as a request. -/
def PlainRequest.request : PlainRequest → Request
  | point r => r.request
  | range t start count fields => .scan (.str t) (.str start) (.int count) (.ofTexts fields)

/-- The call is about databases and tables, not about records. -/
def Call.isSchema : Call → Bool
  | databaseList | databaseCreate .. | tableList .. | tableCreate .. | tableWait .. => true
  | _ => false

/-- The call looks for records, and writes none. -/
def Call.isLookup : Call → Bool
  | get .. | between .. => true
  | _ => false

namespace Session

variable {κ ω : Type}

/-- What is done when connected keeps what it keeps with any settings. -/
lemma keeps_whenConnected {I : Session κ ω → Prop} {F : Fault → Prop}
    {act : Settings → Action (Session κ ω) Outcome}
    (ha : ∀ st, Action.Keeps I (fun _ => True) F (act st)) :
    Action.Keeps I (fun _ => True) F (whenConnected act) := by
  refine Action.keeps_get.bind fun t _ => ?_
  split
  · exact ha _
  · exact Action.keeps_pure trivial

/-- Without a connection a request fails, and changes nothing. -/
lemma perform_of_disconnected [Client κ ω] {s : Session κ ω}
    (h : s.connected = false ∨ s.settings = none) (r : Request) :
    r.perform s = .ok (.failed "Not connected" .zero) s := by
  cases r <;> exact whenConnected_of_disconnected h

/-! ## Making a schema ready -/

section Schema

variable [Client κ ω] {I : Session κ ω → Prop} {F : Fault → Prop}
  (hl : ∀ {s e}, I s → e.cause? = none → I (s.logged e))
  (ha : ∀ c : Call, c.isSchema = true → Action.Keeps I (fun _ => True) F (ask c))

include hl ha

lemma keeps_ensureDatabase (db : String) :
    Action.Keeps I (fun _ => True) F (ensureDatabase db) := by
  refine (ha _ rfl).bind fun names _ => ?_
  split
  · exact Action.keeps_pure trivial
  · refine (ha _ rfl).bind fun created _ s hs => ⟨hl hs ?_, trivial⟩
    split <;> rfl

lemma keeps_ensureTable (db t : String) (durability : Durability) :
    Action.Keeps I (fun _ => True) F (ensureTable db t durability) := by
  refine (ha _ rfl).bind fun names _ => ?_
  split
  · exact Action.keeps_pure trivial
  · refine (ha _ rfl).bind fun created _ s hs => ⟨hl hs ?_, trivial⟩
    split <;> rfl

/-- Making a schema ready keeps what calls about databases and tables keep, if it does not depend on
what the log tells of them. -/
lemma keeps_ensureSchema (st : Settings) :
    Action.Keeps I (fun _ => True) F (ensureSchema st) :=
  (keeps_ensureDatabase hl ha st.database).bind fun _ _ =>
    (keeps_ensureTable hl ha st.database st.table st.durability).bind fun _ _ =>
      ha (.tableWait st.database st.table) rfl

end Schema

/-! ## Carrying requests out -/

/-- Reading the clock and logging keep `I`, as long as what is logged to have failed is in `F`. What
does not depend on the client fails in `F`. -/
structure Steady (I : Session κ ω → Prop) (F : Fault → Prop) : Prop where
  ticked : ∀ {s}, I s → I s.ticked
  logged : ∀ {s e}, I s → (∀ cause, e.cause? = some cause → F (.operation cause)) → I (s.logged e)
  misfit : ∀ e, F (.misfit e)
  rejected : ∀ wanted r, F (.operation (.rejected wanted r))

namespace Steady

variable {I : Session κ ω → Prop} {F : Fault → Prop} (h : Steady I F)

include h

lemma keeps_now : Action.Keeps I (fun _ => True) F now := fun _ hs => ⟨h.ticked hs, trivial⟩

lemma keeps_elapsedSince (start : Float) :
    Action.Keeps I (fun _ => True) F (elapsedSince start) :=
  h.keeps_now.bind fun _ _ => Action.keeps_pure trivial

lemma keeps_report {e : LogEntry} (he : ∀ cause, e.cause? = some cause → F (.operation cause)) :
    Action.Keeps I (fun _ => True) F (report e) := fun _ hs => ⟨h.logged hs he, trivial⟩

lemma keeps_given {α : Type} (x : Except Misfit α) :
    Action.Keeps I (fun _ => True) F (Action.given x) :=
  Action.keeps_given (fun _ _ => trivial) h.misfit

lemma keeps_failure (op : Operation) (key : Value) {e : OperationError} (he : F (.operation e))
    (start : Float) : Action.Keeps I (fun _ => True) F (failure op key e start) := by
  refine (h.keeps_report ?_).bind fun _ _ =>
    (h.keeps_elapsedSince start).bind fun _ _ => Action.keeps_pure trivial
  rintro _ ⟨⟩
  exact he

lemma keeps_settle (op : Operation) (key : Value) (start : Float) (wanted : Counter)
    (mayMiss : Bool) (answer : Value) :
    Action.Keeps I (fun _ => True) F (settle op key start wanted mayMiss answer) := by
  rw [settle]
  split
  · exact Action.keeps_throw (h.misfit _)
  · split
    · exact (h.keeps_elapsedSince start).bind fun _ _ => Action.keeps_pure trivial
    · split
      · exact (h.keeps_elapsedSince start).bind fun _ _ => Action.keeps_pure trivial
      · exact h.keeps_failure op key (h.rejected _ _) start

end Steady

variable [Client κ ω]

/-- What is steady is kept by asking the client, too, and asking fails in `F`. -/
structure Stable (I : Session κ ω → Prop) (F : Fault → Prop) : Prop extends Steady I F where
  ask : ∀ c, Action.Keeps I (fun _ => True) F (Session.ask c)

/-- What regards neither the clock nor the log nor the client's side of a session is stable. -/
lemma Stable.of_linked {I : Session κ ω → Prop} (ticked : ∀ {s}, I s → I s.ticked)
    (logged : ∀ {s} e, I s → I (s.logged e)) (linked : ∀ {s} l, I s → I (s.linked l)) :
    Stable I fun _ => True where
  ticked := ticked
  logged h _ := logged _ h
  misfit _ := trivial
  rejected _ _ := trivial
  ask _ := keeps_viaClient_of_linked linked _

namespace Steady

variable {I : Session κ ω → Prop} {F : Fault → Prop} (h : Steady I F)

include h

/-- Asking, and making an outcome of the answer, keeps what is steady. -/
lemma keeps_timed (op : Operation) (key : Value) (start : Float) {c : Call}
    (ha : Action.Keeps I (fun _ => True) F (Session.ask c))
    {finish : c.Answer → Action (Session κ ω) Outcome}
    (hf : ∀ a, Action.Keeps I (fun _ => True) F (finish a)) :
    Action.Keeps I (fun _ => True) F (timed op key start c finish) := by
  intro t ht
  have hx := ha t ht
  rw [timed_apply]
  cases hu : Session.ask c t with
  | ok a u =>
    rw [hu] at hx
    exact hf a u hx.1
  | error e u =>
    rw [hu] at hx
    -- only a failed operation is logged; every other fault passes through as it is
    cases e with
    | operation e => exact h.keeps_failure op key hx.2 start u hx.1
    | _ => exact hx

section Lookup

variable (ha : ∀ c : Call, c.isLookup = true → Action.Keeps I (fun _ => True) F (Session.ask c))

include ha

lemma keeps_read (t key : Value) (fields : FieldSet) :
    Action.Keeps I (fun _ => True) F (Session.read t key fields) := by
  refine keeps_whenConnected fun st => h.keeps_now.bind fun start _ =>
    (h.keeps_given _).bind fun names _ => h.keeps_timed .read key start (ha _ rfl) fun answer => ?_
  split
  · exact (h.keeps_elapsedSince start).bind fun _ _ => Action.keeps_pure trivial
  · exact (h.keeps_elapsedSince start).bind fun _ _ =>
      (h.keeps_given _).bind fun _ _ => Action.keeps_pure trivial

lemma keeps_scan (t key count : Value) (fields : FieldSet) :
    Action.Keeps I (fun _ => True) F (Session.scan t key count fields) := by
  refine keeps_whenConnected fun st => (h.keeps_given _).bind fun none _ => ?_
  split
  · exact Action.keeps_pure trivial
  · exact h.keeps_now.bind fun start _ => (h.keeps_given _).bind fun names _ =>
      h.keeps_timed .scan key start (ha _ rfl) fun answer =>
        (h.keeps_elapsedSince start).bind fun _ _ =>
          (h.keeps_given _).bind fun _ _ => Action.keeps_pure trivial

end Lookup

end Steady

namespace Stable

variable {I : Session κ ω → Prop} {F : Fault → Prop} (h : Stable I F)

include h

lemma keeps_ensureSchema (st : Settings) :
    Action.Keeps I (fun _ => True) F (ensureSchema st) :=
  Session.keeps_ensureSchema (fun hs he => h.logged hs fun _ hc => nomatch he.symm.trans hc)
    (fun c _ => h.ask c) st

lemma keeps_update (t key values : Value) :
    Action.Keeps I (fun _ => True) F (Session.update t key values) :=
  keeps_whenConnected fun _ => h.keeps_now.bind fun start _ => (h.keeps_given _).bind fun _ _ =>
    h.keeps_timed .update key start (h.ask _) (h.keeps_settle .update key start .replaced true)

lemma keeps_insert (t key values : Value) :
    Action.Keeps I (fun _ => True) F (Session.insert t key values) := by
  refine keeps_whenConnected fun st => ?_
  split
  · exact h.keeps_now.bind fun start _ => (h.keeps_given _).bind fun _ _ =>
      h.keeps_timed .insert key start (h.ask _) (h.keeps_settle .insert key start .inserted false)
  · exact Action.keeps_pure trivial

lemma keeps_delete (t key : Value) :
    Action.Keeps I (fun _ => True) F (Session.delete t key) :=
  keeps_whenConnected fun _ => h.keeps_now.bind fun start _ =>
    h.keeps_timed .delete key start (h.ask _) (h.keeps_settle .delete key start .deleted true)

/-- Every request keeps what is stable. -/
lemma keeps_perform (r : Request) : Action.Keeps I (fun _ => True) F r.perform := by
  cases r with
  | read t key fields => exact h.toSteady.keeps_read (fun c _ => h.ask c) t key fields
  | scan t key count fields => exact h.toSteady.keeps_scan (fun c _ => h.ask c) t key count fields
  | update t key values => exact h.keeps_update t key values
  | insert t key values => exact h.keeps_insert t key values
  | delete t key => exact h.keeps_delete t key

end Stable

end Session

end CrudBench
