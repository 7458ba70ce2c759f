import CrudBench.Proofs.Asking
import CrudBench.Proofs.Server.Translation
import CrudBench.Proofs.Store.Answer
import CrudBench.Proofs.Text.Numeral

/-!
# Failures without a word

A failure of a request tells an error, and as a rule in some words. It tells the empty text exactly
if its client has failed with the empty message (`Session.Asked.isMute_iff`). A client of a store
does so if the empty message was armed (`Command.isMute_iff_armed`), and a client of a server if the
server has replied with an error that has none (`Command.isMute_iff_replied`).
-/

namespace CrudBench

/-! ## Words -/

lemma Text.ne_empty_of_toList {s : String} (h : s.toList ≠ []) : s ≠ "" := by
  rintro rfl
  exact h rfl

lemma Text.append_ne_empty {s : String} (h : s ≠ "") (t : String) : s ++ t ≠ "" := by
  intro he
  exact h (String.append_eq_empty_iff.1 he).1

namespace Decimal

lemma writeDecimal_ne_nil (style : FloatStyle) (d : Decimal) : style.writeDecimal d ≠ [] := by
  rw [FloatStyle.writeDecimal]
  split
  · rw [positional]
    split <;> simp
  · simp [scientific]

lemma write_ne_empty (x : Float) : plainStyle.write x ≠ "" := by
  refine Text.ne_empty_of_toList ?_
  rw [FloatStyle.write, String.toList_ofList]
  cases Binary.ofFloat x with
  | nan => decide
  | infinite negative => cases negative <;> decide
  | finite negative m q =>
    rw [FloatStyle.writeBinary]
    refine List.append_ne_nil_of_right_ne_nil _ ?_
    split
    · decide
    · exact writeDecimal_ne_nil _ _

end Decimal

/-- What counts as true is shown in some words. -/
lemma Value.text_ne_empty {v : Value} (h : v.isTruthy = true) : v.text ≠ "" := by
  cases v with
  | null => cases h
  | bool b => cases b <;> decide
  | int n => exact Text.decimal_ne_empty n
  | float x => exact Decimal.write_ne_empty x
  | str s =>
    rintro rfl
    cases h
  | list items =>
    have hshown : (list items).text = (list items).shown := rfl
    rw [hshown, shown]
    exact Text.append_ne_empty (Text.append_ne_empty (by decide) _) _
  | object fields =>
    have hshown : (object fields).text = (object fields).shown := rfl
    rw [hshown, shown]
    exact Text.append_ne_empty (Text.append_ne_empty (by decide) _) _

lemma Receipt.complaint_ne_empty (r : Receipt) (wanted : Counter) : r.complaint wanted ≠ "" := by
  rw [complaint]
  split
  next h => exact Value.text_ne_empty h
  · exact Text.append_ne_empty (Text.append_ne_empty (Text.append_ne_empty (by decide) _) _) _

/-! ## Failures -/

/-- The outcome is no failure and tells no error, or it is a failure and tells one. -/
def Outcome.Spoken (o : Outcome) : Prop :=
  o.status ≠ .error ∧ o.error = none ∨ o.status = .error ∧ ∃ text, o.error = some text

/-- The outcome is a failure, and tells the empty text for an error. -/
def Outcome.isMute (o : Outcome) : Bool := o.status == .error && o.error == some ""

lemma Outcome.isMute_iff {o : Outcome} :
    o.isMute = true ↔ o.status = .error ∧ o.error = some "" := by
  simp [isMute]

lemma Outcome.Settled.spoken {o : Outcome} (h : o.Settled) : o.Spoken := by
  obtain h | ⟨hs, r, wanted, he⟩ := h
  · exact .inl h
  · exact .inr ⟨hs, _, he⟩

/-- What is wrong with a receipt is told in words. -/
lemma Outcome.Settled.not_mute {o : Outcome} (h : o.Settled) : o.isMute = false := by
  rw [← Bool.not_eq_true, isMute_iff]
  rintro ⟨hs, he⟩
  obtain ⟨hne, -⟩ | ⟨-, r, wanted, hr⟩ := h
  · exact hne hs
  · exact r.complaint_ne_empty wanted (Option.some.inj (hr.symm.trans he))

namespace Session

variable {κ ω : Type} [Client κ ω]

/-- The client fails the call with the empty message. -/
def Mutes (s : Session κ ω) (c : Call) : Prop :=
  ∃ e, ((Client.ask c).outcome ⟨s.client, s.far⟩).1 = .error (.operation e) ∧ e.message = ""

namespace Asked

variable {s t : Session κ ω} {c : Call} {o : Outcome} (h : s.Asked c o t)

include h

lemma spoken : o.Spoken := by
  cases hx : ((Client.ask c).outcome ⟨s.client, s.far⟩).1 with
  | ok a => exact (h.answered a hx).spoken
  | error x =>
    obtain ⟨e, -, hs, he⟩ := h.failed x hx
    exact .inr ⟨hs, _, he⟩

/-- What a request comes to is mute exactly if its client has said nothing. -/
lemma isMute_iff : o.isMute = true ↔ s.Mutes c := by
  cases hx : ((Client.ask c).outcome ⟨s.client, s.far⟩).1 with
  | ok a =>
    rw [(h.answered a hx).not_mute, Mutes, hx]
    exact iff_of_false Bool.false_ne_true nofun
  | error x =>
    obtain ⟨e, rfl, hs, he⟩ := h.failed x hx
    rw [Outcome.isMute_iff, Mutes, hx, hs, he]
    constructor
    · rintro ⟨-, hm⟩
      exact ⟨e, rfl, Option.some.inj hm⟩
    · rintro ⟨_, ⟨⟩, hm⟩
      exact ⟨rfl, congrArg some hm⟩

end Asked

end Session

namespace Command

variable {κ ω : Type} [Client κ ω] {x : Command} {i : Nat} {s : Session κ ω} {o : Outcome}

lemma spoken_outcome (h : (x.episode i s).outcome? = some o) : o.Spoken := by
  obtain ⟨r, rfl, ⟨hskip, -⟩ | ⟨-, c, -, ha⟩⟩ := outcome_cases h
  · obtain ⟨-, hnone | ⟨hs, text, -, he⟩⟩ := Request.skipped_cases hskip
    · exact .inl hnone
    · exact .inr ⟨hs, text, he⟩
  · exact ha.spoken

/-- What was decided without a client is not mute. -/
lemma outcome_mute_cases (h : (x.episode i s).outcome? = some o) :
    (x.episode i s).reaches = false ∧ o.isMute = false ∨
      (x.episode i s).reaches = true ∧
        ∃ r c, x = .request r ∧ c.Serves r.isRead ∧ s.Asked c o (x.episode i s).after := by
  obtain ⟨r, rfl, ⟨hskip, -⟩ | ⟨hr, c, hc, ha⟩⟩ := outcome_cases h
  · refine .inl ⟨?_, ?_⟩
    · rw [Episode.reaches, hskip]
      exact Bool.and_false _
    · rw [← Bool.not_eq_true, Outcome.isMute_iff]
      rintro ⟨hs, he⟩
      obtain ⟨-, ⟨hne, -⟩ | ⟨-, text, htext, ht⟩⟩ := Request.skipped_cases hskip
      · exact hne hs
      · exact htext (Option.some.inj (ht.symm.trans he))
  · exact .inr ⟨hr, r, c, rfl, hc, ha⟩

end Command

/-! ## Clients of a store -/

/-- A failed operation is told in words. -/
def Fault.Worded (x : Fault) : Prop := ∀ e, x = .operation e → e.message ≠ ""

/-- Whatever the action fails with is told in words. -/
def Action.Speaks {σ α : Type} (x : Action σ α) : Prop :=
  Keeps (fun _ => True) (fun _ => True) Fault.Worded x

namespace StoreClient

lemma speaks_databases : Action.Speaks databases := fun _ _ => ⟨trivial, trivial⟩

lemma speaks_given {α : Type} (x : Except Misfit α) :
    Action.Speaks (Action.given x : Action Side α) :=
  Action.keeps_given (fun _ _ => trivial) fun _ _ => nofun

lemma speaks_table (db : String) (t : Value) : Action.Speaks (table db t) := by
  refine (speaks_given _).bind fun name _ => speaks_databases.bind fun dbs _ => ?_
  split
  · exact Action.keeps_pure trivial
  · refine Action.keeps_throw ?_
    rintro _ ⟨⟩
    exact Text.append_ne_empty (Text.append_ne_empty (Text.append_ne_empty
      (Text.append_ne_empty (by decide) _) _) _) _

lemma speaks_database (db : String) : Action.Speaks (database db) := by
  refine speaks_databases.bind fun dbs _ => ?_
  split
  · exact Action.keeps_pure trivial
  · exact Action.keeps_throw fun _ => nofun

lemma speaks_write (db : String) (t : Value) (change : Table → Except Misfit (Value × Table)) :
    Action.Speaks (write db t change) :=
  (speaks_table db t).bind fun _ _ => (speaks_given _).bind fun _ _ =>
    speaks_databases.bind fun _ _ _ _ => ⟨trivial, trivial⟩

/-- No answer fails without a word. -/
lemma speaks_answer (c : Call) : Action.Speaks (answer c) := by
  cases c with
  | databaseList | databaseCreate | tableWait => exact fun _ _ => ⟨trivial, trivial⟩
  | tableList db => exact (speaks_database db).bind fun _ _ => Action.keeps_pure trivial
  | tableCreate db => exact (speaks_database db).bind fun _ _ _ _ => ⟨trivial, trivial⟩
  | get db t | between db t => exact (speaks_table db t).bind fun _ _ => speaks_given _
  | update db t key values => exact speaks_write db t (Table.update · key values)
  | insert db t row => exact speaks_write db t (Table.insert · row)
  | delete db t key => exact speaks_write db t (Table.delete · key)

/-- A client of a store fails without a word exactly if it was told to. -/
lemma mutes_iff (s : Session StoreClient Store) (c : Call) :
    s.Mutes c ↔ s.client.armed = some "" := by
  have hask : (Client.ask c : Action Side c.Answer) = ask c := rfl
  rw [Session.Mutes, hask]
  cases ha : s.client.armed with
  | some message =>
    rw [Action.outcome, ask_of_armed ha]
    constructor
    · rintro ⟨_, ⟨⟩, hm⟩
      exact congrArg some hm
    · rintro ⟨⟩
      exact ⟨_, rfl, rfl⟩
  | none =>
    refine iff_of_false ?_ nofun
    rintro ⟨e, he, hm⟩
    rw [Action.outcome, ask_of_unarmed ha] at he
    have hspeaks := speaks_answer c ⟨s.client, s.far.called c s.far.databases⟩ trivial
    cases hx : answer c ⟨s.client, s.far.called c s.far.databases⟩ with
    | ok a l =>
      rw [hx] at he
      cases he
    | error x l =>
      rw [hx] at he hspeaks
      cases he
      exact hspeaks.2 e rfl hm

end StoreClient

/-! ## Clients of a server -/

namespace WireClient

variable {c : Call}

/-- A call about records fails as its query does. -/
lemma result_ask (hc : c.isSchema = false) (l : Side) (x : Fault) :
    result (ask c) l = .error x ↔ result (perform c.query) l = .error x := by
  cases c with
  | between db t low limit fields mode =>
    have hmap : result (perform (Call.between db t low limit fields mode).query) l =
        (result (ask (.between db t low limit fields mode)) l).map Value.list :=
      result_map Value.list _ l
    rw [hmap]
    cases result (ask (.between db t low limit fields mode)) l <;> simp [Except.map]
  | get | update | insert | delete => exact Iff.rfl
  | _ => cases hc

lemma looksUp_query (c : Call) : c.query.looksUp = c.isGet := by cases c <;> rfl

lemma creates_query (hc : c.isSchema = false) : c.query.creates = false := by
  cases c with
  | databaseCreate | tableCreate => cases hc
  | _ => rfl

/-- What is heard of a call about records: an error is passed on, unless it says that there is no
record; else there is an answer, or a reply that is none. -/
lemma heard_query (hc : c.isSchema = false) (r : Except DriverError Value) :
    (∃ e, r = .error e ∧ ¬(c.isGet = true ∧ e.kind = .nonExistence) ∧
      heard c.query r = .error (failure e)) ∨
      (∀ e, r = .error e → c.isGet = true ∧ e.kind = .nonExistence) ∧
        ∀ e, heard c.query r ≠ .error (.operation e) := by
  cases r with
  | error e =>
    rw [heard_error, looksUp_query, creates_query hc]
    by_cases he : c.isGet = true ∧ e.kind = .nonExistence
    · rw [if_pos he]
      exact .inr ⟨by rintro _ ⟨⟩; exact he, fun _ => nofun⟩
    · rw [if_neg he]
      exact .inl ⟨e, rfl, he, rfl⟩
  | ok v =>
    refine .inr ⟨nofun, fun e => ?_⟩
    cases c with
    | between =>
      dsimp only [Call.query, heard]
      cases v.items? <;> exact nofun
    | get | update | insert | delete => exact nofun
    | _ => cases hc

/-- A call about records fails for want of a query, or of a finite one; or it comes to what is heard
of the reply. -/
lemma result_query (hc : c.isSchema = false) (l : Side) :
    (∃ e, result (perform c.query) l = .error (.driver e)) ∨
      result (perform c.query) l = heard c.query (reply l) := by
  cases ht : c.query.term with
  | error e => exact .inl ⟨e, result_unbuilt (creates_query hc) ht l⟩
  | ok t =>
    rw [result_perform (.inr ⟨t, ht⟩), ht]
    show (∃ e, heard c.query (driven l t) = _) ∨ heard c.query (driven l t) = _
    rw [driven]
    split
    · refine .inl ⟨.notFinite, ?_⟩
      rw [heard_error, creates_query hc, if_neg, if_neg]
      · rfl
      · exact fun h => Bool.false_ne_true h.1
      · exact fun h => absurd h.2 (by decide)
    · exact .inr rfl

/-- A client of a server fails a call about records without a word exactly if the server replies so,
unless the query is not sent, or the error says no more than that there is no record. -/
lemma mutes_iff {s t : Session WireClient Server} {o : Outcome} {get : Bool} (hc : c.Serves get)
    (ha : s.Asked c o t) : s.Mutes c ↔ ∃ e, s.reply = .error e ∧ e.inFamily = true ∧
      e.message = "" ∧ ¬(get = true ∧ e.kind = .nonExistence) := by
  obtain ⟨hc, rfl⟩ := hc
  have hask (x : Fault) : ((Client.ask c).outcome (⟨s.client, s.far⟩ : Side)).1 = .error x ↔
      result (perform c.query) ⟨s.client, s.far⟩ = .error x := result_ask hc _ x
  have hreply : s.reply = reply ⟨s.client, s.far⟩ := rfl
  simp only [Session.Mutes, hask, hreply]
  obtain ⟨d, hd⟩ | hq := result_query hc ⟨s.client, s.far⟩
  · -- a query that was not sent has raised the driver's error
    obtain ⟨_, ⟨⟩, -⟩ := ha.failed _ ((hask _).2 hd)
  · rw [hq]
    obtain ⟨e, he, hn, hfail⟩ | ⟨hnone, hne⟩ := heard_query hc (reply ⟨s.client, s.far⟩)
    · rw [hfail, he, failure]
      constructor
      · rintro ⟨x, hx, hm⟩
        split at hx <;> cases hx
        next hf => exact ⟨e, rfl, hf, hm, hn⟩
      · rintro ⟨_, ⟨⟩, hf, hm, -⟩
        exact ⟨.reported e, by rw [if_pos hf], hm⟩
    · constructor
      · rintro ⟨x, hx, -⟩
        exact (hne x hx).elim
      · rintro ⟨e, he, -, -, hn⟩
        exact (hn (hnone e he)).elim

end WireClient

/-! ## Episodes without a word -/

/-- The command is to read the record under a key. -/
def Command.isRead : Command → Bool
  | request r => r.isRead
  | _ => false

/-- A request has reached its client, and has returned. -/
def Episode.Finished {κ ω : Type} (e : Episode κ ω) : Prop :=
  e.reaches = true ∧ e.outcome?.isSome = true

/-- A request has met the empty message that its client was armed with. -/
def Episode.MutelyArmed (e : Episode StoreClient Store) : Prop :=
  e.Finished ∧ e.before.client.armed = some ""

/-- The server has replied to a request with an error of the driver's family that has no message,
and says more than that there is no such record. -/
def Episode.MutelyReplied (e : Episode WireClient Server) : Prop :=
  e.Finished ∧ ∃ x, e.before.reply = .error x ∧ x.inFamily = true ∧ x.message = "" ∧
    ¬(e.command.isRead = true ∧ x.kind = .nonExistence)

namespace Command

variable {x : Command} {i : Nat} {o : Outcome}

/-- Over a store a failure is mute exactly if the empty message was armed. -/
lemma isMute_iff_armed {s : Session StoreClient Store} (h : (x.episode i s).outcome? = some o) :
    o.isMute = true ↔ (x.episode i s).MutelyArmed := by
  rw [Episode.MutelyArmed, Episode.Finished, h]
  obtain ⟨hr, hm⟩ | ⟨hr, r, c, rfl, -, ha⟩ := outcome_mute_cases h
  · simp [hr, hm]
  · rw [ha.isMute_iff, StoreClient.mutes_iff, hr]
    simp [episode]

/-- Over a server a failure is mute exactly if the server has replied so. -/
lemma isMute_iff_replied {s : Session WireClient Server} (h : (x.episode i s).outcome? = some o) :
    o.isMute = true ↔ (x.episode i s).MutelyReplied := by
  rw [Episode.MutelyReplied, Episode.Finished, h]
  obtain ⟨hr, hm⟩ | ⟨hr, r, c, rfl, hc, ha⟩ := outcome_mute_cases h
  · simp [hr, hm]
  · rw [ha.isMute_iff, WireClient.mutes_iff hc ha, hr]
    simp [episode, isRead]

end Command

end CrudBench
