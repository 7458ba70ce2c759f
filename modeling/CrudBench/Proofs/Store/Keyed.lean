import CrudBench.Proofs.Store.Conclusion
import CrudBench.Proofs.Store.Schema
import Mathlib.Data.List.Defs

/-!
# A backend over a store is a keyed map

A session that is connected to a store of records answers point operations as the rule of
`PointRequest.onContents` says, and leaves the store with the contents that the rule says: what an
operation concludes with agrees with what the rule replies (`PointRequest.conclude_agrees`).
-/

namespace CrudBench

/-! ## One operation -/

/-- The outcome has the status and the data of the reply. -/
structure Outcome.Agrees (o : Outcome) (reply : Reply) : Prop where
  status : o.status = reply.status
  data : o.data = reply.data.map .record

namespace PointRequest

open Session

/-- In a session the operation comes to what the rule replies, and leaves the contents that the
rule says. -/
def Refines (st : Settings) (r : PointRequest) (s : Session StoreClient Store) : Prop :=
  ∃ o t, r.perform s = .ok o t ∧ t.Serves st ∧
    o.Agrees (r.onContents st.database s.contents).1 ∧
    t.contents = (r.onContents st.database s.contents).2

variable {st : Settings} {s : Session StoreClient Store}

/-- Where the table is there the rule is a step of one cell. -/
lemma onContents_of_some {db : String} {r : PointRequest} {m : Contents} {cells : SortedMap Row}
    (hc : m.at? db r.table = some cells) :
    r.onContents db m = ((r.verb.onCell r.key (cells.get? r.key)).1,
      m.putAt db r.table (cells.set r.key (r.verb.onCell r.key (cells.get? r.key)).2)) := by
  simp only [onContents, hc]

/-- An operation that reaches the store concludes with what the rule replies for its cell. -/
lemma conclude_agrees_onCell {key : String} {verb : Verb}
    (h : ∀ values, verb = .insert values → key ≠ "") (cell : Option Row) :
    (∀ l, ((verb.conclude key cell).1 l).Agrees (verb.onCell key cell).1) ∧
      (verb.conclude key cell).2 = (verb.onCell key cell).2 := by
  cases verb with
  | read fields => cases cell <;> exact ⟨fun _ => ⟨rfl, rfl⟩, rfl⟩
  | insert values =>
    cases cell with
    | none =>
      have ho : Verb.onCell key none (.insert values) =
          (⟨.ok, none⟩, some (values.stored key)) := by
        rw [Verb.onCell, if_neg (h values rfl)]
      rw [ho]
      exact ⟨fun _ => ⟨rfl, rfl⟩, rfl⟩
    | some row => exact ⟨fun _ => ⟨rfl, rfl⟩, rfl⟩
  | update values =>
    cases cell with
    | none => exact ⟨fun _ => ⟨rfl, rfl⟩, rfl⟩
    | some row =>
      simp only [Verb.conclude, Row.updateCell, Verb.onCell]
      split <;> exact ⟨fun _ => ⟨rfl, rfl⟩, rfl⟩
  | delete => cases cell <;> exact ⟨fun _ => ⟨rfl, rfl⟩, rfl⟩

/-- Under an empty key an insertion fails by the rule, and changes nothing. -/
lemma onContents_insert_empty (db t : String) (values : Row) (m : Contents) :
    onContents db ⟨t, "", .insert values⟩ m = (⟨.error, none⟩, m) := by
  cases hc : m.at? db t with
  | none => simp only [onContents, hc]
  | some cells =>
    have hm := SortedMap.putAt_self hc
    have hs := SortedMap.set_self cells ""
    rw [onContents_of_some hc]
    cases hk : cells.get? "" <;> simp_all [Verb.onCell]

/-- An operation concludes with what the rule replies. -/
lemma conclude_agrees (db : String) (m : Contents) (r : PointRequest) :
    (∀ l, (((PlainRequest.point r).conclude db m).1 l).Agrees (r.onContents db m).1) ∧
      ((PlainRequest.point r).conclude db m).2 = (r.onContents db m).2 := by
  cases h : (PlainRequest.point r).shortcut? with
  | some o =>
    rw [PlainRequest.conclude_of_shortcut h]
    obtain ⟨t, values, ⟨⟩, rfl⟩ | ⟨_, _, _, _, -, hr, -⟩ := PlainRequest.shortcut_cases h
    · rw [onContents_insert_empty]
      exact ⟨fun _ => ⟨rfl, rfl⟩, rfl⟩
    · cases hr
  | none =>
    cases hc : m.at? db r.table with
    | none =>
      have ho : r.onContents db m = (⟨.error, none⟩, m) := by simp only [onContents, hc]
      rw [PlainRequest.conclude_of_none h hc, ho]
      exact ⟨fun _ => ⟨rfl, rfl⟩, rfl⟩
    | some cells =>
      obtain ⟨ha, hcell⟩ := conclude_agrees_onCell (named_of_shortcut h) (cells.get? r.key)
      rw [PlainRequest.conclude_of_some h hc, onContents_of_some hc, ← hcell]
      exact ⟨ha, rfl⟩

/-- Every operation refines the rule. -/
theorem perform_refines (hs : s.Serves st) (r : PointRequest) : r.Refines st s := by
  obtain ⟨latency, t, ht, hb, hr, hd⟩ := hs.concludes (.point r)
  obtain ⟨ha, hm⟩ := r.conclude_agrees st.database s.contents
  exact ⟨_, t, ht, hs.of_eq hb hr, ha latency, hd.trans hm⟩

/-! ## Whole runs -/

/-- What operations come to, one after the other, and the session after each of them. A fault does
not keep the next one from being tried. -/
def history : List PointRequest → Session StoreClient Store →
    List (Except Fault Outcome × Session StoreClient Store)
  | [], _ => []
  | r :: rs, s =>
    match r.perform s with
    | .ok o t => (.ok o, t) :: history rs t
    | .error e t => (.error e, t) :: history rs t

/-- What the rule replies to operations on a database, one after the other, and the contents after
each of them. -/
def replay (db : String) : List PointRequest → Contents → List (Reply × Contents)
  | [], _ => []
  | r :: rs, m => r.onContents db m :: replay db rs (r.onContents db m).2

/-- An operation has come to what the rule replies, and has left the contents that the rule says.
-/
structure Matches (x : Except Fault Outcome × Session StoreClient Store) (y : Reply × Contents) :
    Prop where
  outcome : ∃ o, x.1 = .ok o ∧ o.Agrees y.1
  recorded : x.2.far.databases.Recorded
  contents : x.2.contents = y.2

/-- While a session serves, all that it does is what the rule says. -/
lemma history_matches (hs : s.Serves st) (rs : List PointRequest) :
    List.Forall₂ Matches (history rs s) (replay st.database rs s.contents) := by
  induction rs generalizing s with
  | nil => exact .nil
  | cons r rs ih =>
    -- a session that has carried out an operation serves again, whatever came of it
    obtain ⟨o, t, ht, hs', ha, hd⟩ := perform_refines hs r
    simp only [history, replay, ht, ← hd]
    exact .cons ⟨⟨o, rfl, ha⟩, hs'.recorded, hd⟩ (ih hs')

end PointRequest

/-- A session that was initialised over a store of records serves, and its database and its table
are there. -/
lemma Session.serves_of_init {s t : Session StoreClient Store} (hr : s.far.databases.Recorded)
    (h : init s = .ok () t) :
    ∃ st, t.Serves st ∧ t.contents = s.contents.ensure st.database st.table := by
  obtain ⟨st, hc, hs, ha, hd⟩ := init_ok h
  refine ⟨st, ⟨hc, hs, ha, ?_⟩, ?_⟩
  · rw [hd]
    exact hr.ensure st.database st.table
  · rw [contents, hd]
    exact Databases.records_ensure _ _ _

/-- Over a store of records, a backend that was initialised is a keyed map: what it does with any
operations is what the rule replies, on contents to which its database and its table were added. -/
theorem PointRequest.history_matches_replay {s t : Session StoreClient Store}
    (hr : s.far.databases.Recorded) (h : Session.init s = .ok () t) (rs : List PointRequest) :
    ∃ st, t.settings = some st ∧
      t.contents = s.contents.ensure st.database st.table ∧
      List.Forall₂ Matches (history rs t)
        (replay st.database rs (s.contents.ensure st.database st.table)) := by
  obtain ⟨st, hs, hd⟩ := Session.serves_of_init hr h
  refine ⟨st, hs.settings, hd, ?_⟩
  rw [← hd]
  exact history_matches hs rs

/-- A fresh backend over one record is initialised, and is a keyed map from then on. -/
theorem PointRequest.history_matches_replay_single :
    let s : Session StoreClient Store := .fresh .empty (.new false [])
      ⟨.empty, ⟨[], []⟩, .empty, .new [1], [], ⟨.single "ycsb" "usertable" "k" .empty, []⟩⟩
    let rs : List PointRequest := [⟨"usertable", "k", .read []⟩, ⟨"usertable", "k", .delete⟩]
    ∃ t st, Session.init s = .ok () t ∧ t.settings = some st ∧
      t.contents = s.contents.ensure st.database st.table ∧
      List.Forall₂ Matches (history rs t)
        (replay st.database rs (s.contents.ensure st.database st.table)) := by
  intro s rs
  have hr : s.far.databases.Recorded := Databases.recorded_single "ycsb" "usertable" "k" .empty
  have hok : Action.returned (Session.init s) = true := by decide +kernel
  cases h : Session.init s with
  | ok a t =>
    obtain ⟨st, hst⟩ := history_matches_replay hr h rs
    exact ⟨t, st, rfl, hst⟩
  | error e t =>
    rw [h] at hok
    cases hok

end CrudBench
