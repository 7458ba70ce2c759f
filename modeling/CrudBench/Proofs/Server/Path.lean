import CrudBench.Proofs.Initialisation
import CrudBench.Proofs.Server.Lifecycle
import CrudBench.Proofs.Server.Translation
import CrudBench.Proofs.Stage

/-!
# The path of a bootstrap

Which queries a bootstrap sends, and what it comes to, is decided by the replies alone: each of them
leads on to the next stage, or ends the path (`Stage.path`). A backend that is initialised connects,
follows that path, and closes the connection if it was stopped on the way
(`Command.init_follows_path`).
-/

namespace CrudBench

/-- A stage of a bootstrap, and the reply to its query. -/
abbrev Leg := Stage × Except DriverError Value

namespace Stage

/-- A database or a table is created at this stage. -/
def creates : Stage → Bool
  | createDatabase | createTable => true
  | _ => false

/-- The term that is sent at a stage; none once the schema is ready. -/
def term? (st : Settings) : Stage → Option Term
  | listDatabases => some (.call .databaseList [] [])
  | createDatabase => some (.call .databaseCreate [.str st.database] [])
  | listTables => some (.call .tableList [.call .database [.str st.database] []] [])
  | createTable => some (.call .tableCreate
      [.call .database [.str st.database] [], .str st.table]
      [("primary_key", .str primaryKey), ("durability", .str st.durability.name)])
  | awaitTable => some
      (.call .wait [.call .table [.call .database [.str st.database] [], .str st.table] []] [])
  | ready => none

/-- Where a bootstrap goes on, if the reply to its query is no reason to stop. What is listed need
not be created, and what exists already is as good as created. -/
def next? (st : Settings) : Stage → Except DriverError Value → Option Stage
  | listDatabases, .ok v => v.items?.map fun names =>
      if st.database ∈ names.filterMap Value.str? then listTables else createDatabase
  | createDatabase, .ok _ => some listTables
  | createDatabase, .error e => if e.SaysExists then some listTables else none
  | listTables, .ok v => v.items?.map fun names =>
      if st.table ∈ names.filterMap Value.str? then awaitTable else createTable
  | createTable, .ok _ => some awaitTable
  | createTable, .error e => if e.SaysExists then some awaitTable else none
  | awaitTable, .ok _ => some ready
  | _, _ => none

/-- The path of a bootstrap from a stage on, by the replies that are left. At their end the server
is gone. -/
def path (st : Settings) : Stage → List (Except DriverError Value) → List Leg
  | ready, _ => []
  | x, [] => [(x, .error .closed)]
  | x, r :: rs => (x, r) :: match x.next? st r with
    | some y => path st y rs
    | none => []

end Stage

namespace Leg

/-- The reply is what a server replies: a list of texts to a query for a listing, and no error but
those of the driver's family. -/
def Fits : Leg → Prop
  | (_, .error e) => e.inFamily = true
  | (.listDatabases, .ok v) | (.listTables, .ok v) => ∃ names : List String,
      v = .list (names.map .str)
  | (_, .ok _) => True

/-- The error that stops the path: any but that something exists already which was to be created. -/
def stop? : Leg → Option DriverError
  | (x, .error e) => if x.creates = true ∧ e.SaysExists then none else some e
  | (_, .ok _) => none

/-- The fault that ends the path: that of an error that stops it, or that a reply is no listing. -/
def fault? : Leg → Option Fault
  | (.listDatabases, .ok v) | (.listTables, .ok v) =>
    match v.items? with
    | some _ => none
    | none => some (.misfit (.notIterable v.kind))
  | leg => leg.stop?.map WireClient.failure

/-- What is logged of a creation that has not failed. -/
def note? (st : Settings) : Leg → Option LogEntry
  | (.createDatabase, .ok _) => some (.databaseCreated st.database)
  | (.createDatabase, .error e) =>
    if e.SaysExists then some (.databaseExists st.database) else none
  | (.createTable, .ok _) => some (.tableCreated st.database st.table st.durability)
  | (.createTable, .error e) =>
    if e.SaysExists then some (.tableExists st.database st.table) else none
  | _ => none

/-- What is told of a creation that has not failed. -/
def report? (st : Settings) : Leg → Option String
  | (.createDatabase, .ok _) => some ("Created database " ++ st.database)
  | (.createDatabase, .error e) =>
    if e.SaysExists then some ("Database " ++ st.database ++ " already exists") else none
  | (.createTable, .ok _) => some ("Created table " ++ st.database ++ "." ++ st.table ++
      " (durability=" ++ st.durability.name ++ ")")
  | (.createTable, .error e) => if e.SaysExists
      then some ("Table " ++ st.database ++ "." ++ st.table ++ " already exists") else none
  | _ => none

/-- What is logged is what is told. -/
lemma message_note (st : Settings) (leg : Leg) :
    (leg.note? st).map LogEntry.message = leg.report? st := by
  obtain ⟨x, e | v⟩ := leg
  · cases x with
    | createDatabase | createTable =>
      rw [note?, report?]
      split <;> rfl
    | _ => rfl
  · cases x <;> rfl

end Leg

namespace Stage

variable {st : Settings} {x : Stage} {p : Pending}

/-- The next call of a bootstrap is one query. -/
lemma sends_term (hp : x.pending st = some p) :
    ∃ t, x.term? st = some t ∧ p.call.query.Sends t := by
  cases x with
  | ready => cases hp
  | _ =>
    cases hp
    exact ⟨_, rfl, rfl, rfl⟩

lemma lists_iff {names : List Value} {name : String} :
    Session.lists names name = true ↔ name ∈ names.filterMap Value.str? := by
  rw [Session.lists, List.any_eq_true, List.mem_filterMap]
  refine exists_congr fun v => and_congr_right fun _ => ?_
  cases v <;> simp [Value.str?]

/-- A reply leads on to the next stage, or it ends in a fault. -/
lemma heard_cases (hp : x.pending st = some p) (r : Except DriverError Value) :
    (∃ a, p.call.heard r = .ok a ∧ p.note a = Leg.note? st (x, r) ∧
        x.next? st r = some (p.next a) ∧ Leg.fault? (x, r) = none) ∨
      ∃ e, p.call.heard r = .error e ∧ Leg.note? st (x, r) = none ∧ x.next? st r = none ∧
        Leg.fault? (x, r) = some e := by
  cases x with
  | listDatabases | listTables =>
    cases hp
    cases r with
    | error e => exact .inr ⟨_, rfl, rfl, rfl, rfl⟩
    | ok v =>
      dsimp only [Call.heard, next?, Leg.fault?, Leg.note?]
      cases v.items? with
      | none => exact .inr ⟨_, rfl, rfl, rfl, rfl⟩
      | some names =>
        refine .inl ⟨names, rfl, rfl, ?_, rfl⟩
        simp only [Option.map_some, lists_iff]
  | createDatabase | createTable =>
    cases hp
    cases r with
    | ok v => exact .inl ⟨true, rfl, rfl, rfl, rfl⟩
    | error e =>
      have ha := WireClient.alreadyExists_iff e
      by_cases he : e.SaysExists
      · exact .inl ⟨false, if_pos (ha.2 he), (if_pos he).symm, if_pos he,
          congrArg (Option.map WireClient.failure) (if_pos ⟨rfl, he⟩)⟩
      · exact .inr ⟨_, if_neg (mt ha.1 he), if_neg he, if_neg he,
          congrArg (Option.map WireClient.failure) (if_neg fun h => he h.2)⟩
  | awaitTable =>
    cases hp
    cases r with
    | ok v => exact .inl ⟨(), rfl, rfl, rfl, rfl⟩
    | error e => exact .inr ⟨_, rfl, rfl, rfl, rfl⟩
  | ready => cases hp

lemma path_ready (st : Settings) (rs : List (Except DriverError Value)) :
    ready.path st rs = [] := by
  cases rs <;> rfl

/-- A path begins with the next query, unless the schema is ready. -/
lemma path_of_pending (hp : x.pending st = some p) (rs : List (Except DriverError Value)) :
    x.path st rs = (x, rs.head?.getD (.error .closed)) ::
      match x.next? st (rs.head?.getD (.error .closed)) with
      | some y => y.path st rs.tail
      | none => [] := by
  cases x with
  | ready => cases hp
  | _ => cases rs <;> rfl

end Stage

/-! ## Following the path -/

namespace Session

/-- The session once a bootstrap has gone along a part of its path. -/
def along (s : Session WireClient Server) (st : Settings) (legs : List Leg) :
    Session WireClient Server :=
  { s with
    far := { s.far with
      replies := s.far.replies.drop legs.length
      trace := s.far.trace ++ legs.filterMap fun leg => (leg.1.term? st).map .query }
    log := s.log ++ legs.filterMap (Leg.note? st) }

variable {s : Session WireClient Server} {st : Settings} {x : Stage}

lemma along_nil (s : Session WireClient Server) (st : Settings) : s.along st [] = s := by
  simp [along]

lemma along_append (s : Session WireClient Server) (st : Settings) (legs legs' : List Leg) :
    s.along st (legs ++ legs') = (s.along st legs).along st legs' := by
  simp only [along, List.filterMap_append, List.append_assoc, List.length_append, List.drop_drop]

/-- To go along one leg is to send its query, and to log what it has created. -/
lemma along_singleton (ho : s.client.isOpen = true) {t : Term} (ht : x.term? st = some t)
    (r : Except DriverError Value) :
    s.along st [(x, r)] =
      { s.sent t with log := s.log ++ (Leg.note? st (x, r)).toList } := by
  have hl : [(x, r)].filterMap (Leg.note? st) = (Leg.note? st (x, r)).toList := by
    cases h : Leg.note? st (x, r) <;> simp [h]
  rw [along, hl, sent, WireClient.sent, if_pos ho]
  simp [ht, linked]

/-- What is left of a bootstrap is to send its next query, and then, unless the reply is a fault,
what is left at the next stage. -/
lemma rest_cases {p : Stage.Pending} (ho : s.client.isOpen = true) (hp : x.pending st = some p) :
    (∃ y, x.next? st s.reply = some y ∧ y.left < x.left ∧ Leg.fault? (x, s.reply) = none ∧
        rest st x s = rest st y (s.along st [(x, s.reply)])) ∨
      ∃ e, x.next? st s.reply = none ∧ Leg.fault? (x, s.reply) = some e ∧
        rest st x s = .error e (s.along st [(x, s.reply)]) := by
  obtain ⟨t, ht, hs⟩ := Stage.sends_term hp
  have hask : Client.ask p.call ⟨s.client, s.far⟩ = _ :=
    WireClient.ask_apply ⟨s.client, s.far⟩ hs
  have halong := along_singleton ho ht s.reply
  rw [← advance_rest]
  obtain ⟨a, ha, hn, hy, hf⟩ | ⟨e, he, hn, hy, hf⟩ := Stage.heard_cases hp s.reply
  · rw [reply] at ha
    rw [ha] at hask
    refine .inl ⟨_, hy, Stage.left_next hp a, hf, ?_⟩
    rw [halong, ← hn]
    simp only [advance, hp, ask, Action.bind_apply, viaClient_ok hask]
    cases p.note a with
    | none =>
      rw [Option.toList_none, List.append_nil]
      rfl
    | some e => rfl
  · rw [reply] at he
    rw [he] at hask
    refine .inr ⟨_, hy, hf, ?_⟩
    rw [halong, hn]
    simp only [advance, hp, ask, Action.bind_apply, viaClient_error hask]
    rw [Option.toList_none, List.append_nil]
    rfl

/-- What is left of a bootstrap over an open connection is to follow its path. -/
lemma rest_apply (st : Settings) (ho : s.client.isOpen = true) (x : Stage) :
    rest st x s =
      match (x.path st s.far.replies).findSome? Leg.fault? with
      | none => .ok () (s.along st (x.path st s.far.replies))
      | some e => .error e (s.along st (x.path st s.far.replies)) := by
  -- every query brings the bootstrap forward
  induction hn : x.left using Nat.strongRecOn generalizing s x with
  | ind n ih =>
    cases hp : x.pending st with
    | none =>
      cases x with
      | ready =>
        rw [Stage.path_ready, along_nil]
        rfl
      | _ => cases hp
    | some p =>
      have hr : s.reply = s.far.replies.head?.getD (.error .closed) := if_pos ho
      rw [Stage.path_of_pending hp, ← hr]
      obtain ⟨y, hy, hlt, hf, hx⟩ | ⟨e, hy, hf, hx⟩ := rest_cases ho hp
      · have hi := ih y.left (hn ▸ hlt) (s := s.along st [(x, s.reply)]) ho y rfl
        rw [show (s.along st [(x, s.reply)]).far.replies = s.far.replies.tail from
          List.drop_one, ← along_append] at hi
        rw [hy, List.findSome?_cons, hf, hx]
        exact hi
      · rw [hy, List.findSome?_cons, hf]
        exact hx

/-- The path of a bootstrap from its start on. -/
abbrev legs (s : Session WireClient Server) (st : Settings) : List Leg :=
  Stage.path st .listDatabases s.far.replies

/-- A bootstrap over an open connection follows its path, and closes the connection if it ends in a
failed query. -/
lemma bootstrap_along (ho : s.client.isOpen = true) :
    bootstrap st s = match (s.legs st).findSome? Leg.fault? with
      | none => .ok () (s.along st (s.legs st))
      | some (.operation e) => match s.far.closeError with
        | none => .error (.connection (.bootstrap e)) (s.along st (s.legs st)).shut
        | some x => .error (if x.inFamily then .connection (.closing x) else .driver x)
            (s.along st (s.legs st)).shut
      | some e => .error e (s.along st (s.legs st)) := by
  have hx : ensureSchema st s = _ := rest_apply st ho .listDatabases
  rw [bootstrap_apply, hx]
  cases (s.legs st).findSome? Leg.fault? with
  | none => rfl
  | some e =>
    cases e with
    | operation e =>
      dsimp only
      rw [cleanup_of_isOpen (t := s.along st (s.legs st)) ho]
      rw [show (s.along st (s.legs st)).far.closeError = s.far.closeError from rfl]
      cases s.far.closeError <;> rfl
    | _ => rfl

/-! ## Initialising -/

variable {p : Script}

/-- What reaches a server when a backend connects to it. -/
def connection (s : Session WireClient Server) (st : Settings) : WireEvent :=
  .connect (.str (s.nextHost st)) (.int st.port) (.int st.timeout)

/-- The session once it was accepted by a server that behaves as scripted. -/
def joined (s : Session WireClient Server) (p : Script) (st : Settings) :
    Session WireClient Server :=
  ((s.facing p).connecting st).opened ⟨⟨true⟩, { p.server with trace := [s.connection st] }⟩

lemma init_of_joined (hst : s.resolved = .ok st) (hc : p.connectError = none) :
    init (s.facing p) = bootstrap st (s.joined p st) := by
  obtain ⟨connectError, closeError, replies⟩ := p
  cases hc
  rw [init_apply, show (s.facing _).resolved = .ok st from hst]
  rfl

end Session

namespace Leg

variable {st : Settings} {legs : List Leg}

/-- If every reply fits, the only faults are the errors that stop the path, as failed operations. -/
lemma findSome?_fault (h : ∀ leg ∈ legs, leg.Fits) : legs.findSome? fault? =
    (legs.findSome? stop?).map fun e => .operation (.reported e) := by
  induction legs with
  | nil => rfl
  | cons leg legs ih =>
    obtain ⟨hleg, hlegs⟩ := List.forall_mem_cons.1 h
    have hf : leg.fault? = leg.stop?.map fun e => .operation (.reported e) := by
      obtain ⟨x, e | v⟩ := leg
      · have he : e.inFamily = true := hleg
        have hfail : WireClient.failure e = .operation (.reported e) := if_pos he
        have hx : fault? (x, .error e) = (stop? (x, .error e)).map WireClient.failure := by
          cases x <;> rfl
        rw [hx, stop?]
        split
        · rfl
        · exact congrArg some hfail
      · cases x with
        | listDatabases | listTables =>
          obtain ⟨names, rfl⟩ := hleg
          rfl
        | _ => rfl
    rw [List.findSome?_cons, List.findSome?_cons, hf, ih hlegs]
    cases leg.stop? <;> rfl

/-- Whatever is logged of a creation is for information. -/
lemma level_note {leg : Leg} {e : LogEntry} (h : leg.note? st = some e) : e.level = .info := by
  obtain ⟨x, e | v⟩ := leg
  · cases x with
    | createDatabase | createTable =>
      rw [note?] at h
      split at h <;> cases h
      rfl
    | _ => cases h
  · cases x <;> cases h <;> rfl

end Leg

namespace Session

variable {s : Session WireClient Server} {st : Settings} {p : Script}

/-- What is told of a variables file is never for information. -/
lemma level_fileNotes (s : Session WireClient Server) : ∀ e ∈ s.fileNotes, e.level ≠ .info := by
  intro e he
  rw [fileNotes] at he
  split at he
  · cases List.mem_singleton.1 he
    simp [LogEntry.level]
  · obtain ⟨line, -, rfl⟩ := List.mem_map.1 he
    simp [LogEntry.level]

/-- For information there is one line for each creation that has not failed. -/
lemma reports_along (s : Session WireClient Server) (p : Script) (st : Settings)
    (legs : List Leg) :
    (((s.joined p st).along st legs).log.filter fun e => e.level = .info).map LogEntry.message =
      legs.filterMap (Leg.report? st) := by
  have hlog : ((s.joined p st).along st legs).log =
      (s.facing p).fileNotes ++ [.connecting (s.nextHost st) st.port] ++
        legs.filterMap (Leg.note? st) := rfl
  have hfile : (s.facing p).fileNotes.filter (fun e => e.level = .info) = [] :=
    List.filter_eq_nil_iff.2 fun e he => by simpa using (s.facing p).level_fileNotes e he
  have hnotes : (legs.filterMap (Leg.note? st)).filter (fun e => e.level = .info) =
      legs.filterMap (Leg.note? st) := by
    refine List.filter_eq_self.2 fun e he => ?_
    obtain ⟨leg, -, hn⟩ := List.mem_filterMap.1 he
    exact decide_eq_true (Leg.level_note hn)
  rw [hlog, List.filter_append, List.filter_append, hfile, hnotes]
  show (legs.filterMap (Leg.note? st)).map LogEntry.message = _
  rw [List.map_filterMap]
  exact congrArg (legs.filterMap ·) (funext (Leg.message_note st))

end Session

/-- In the step a backend has connected and followed a path with these settings. It has closed the
connection if an error stopped it, and then it fails for that error. -/
structure Step.Follows (x : Step) (st : Settings) (legs : List Leg) : Prop where
  trace : x.after.far.trace =
    x.before.connection st :: legs.filterMap (fun leg => (leg.1.term? st).map .query) ++
      if (legs.findSome? Leg.stop?).isSome then [.close] else []
  stopped : ∀ e, legs.findSome? Leg.stop? = some e → x.after.Closed ∧
    ∃ f, x.result = .error (.connection f) ∧ f.message = "Schema bootstrap failed: " ++ e.message
  finished : legs.findSome? Leg.stop? = none → x.result = .ok .done ∧ x.after.connected = true ∧
    x.after.client.isOpen = true
  /-- Of every creation that has not failed there is one line, and no other line is for information.
  -/
  reports : (x.after.log.filter fun e => e.level = .info).map LogEntry.message =
    legs.filterMap (Leg.report? st)

namespace Command

variable {s : Session WireClient Server} {st : Settings} {p : Script}

/-- A backend whose configuration gives settings, and that is accepted, follows the path that the
replies lead along. -/
theorem init_follows_path (hst : s.resolved = .ok st) (hc : p.connectError = none)
    (hcl : p.closeError = none)
    (hfit : ∀ leg ∈ Stage.path st .listDatabases p.server.replies, leg.Fits) :
    (init.step p s).Follows st (Stage.path st .listDatabases p.server.replies) := by
  have hinit := Session.init_of_joined hst hc
  rw [Session.bootstrap_along (s := s.joined p st) rfl] at hinit
  have hlegs : (s.joined p st).legs st = Stage.path st .listDatabases p.server.replies := rfl
  rw [hlegs, Leg.findSome?_fault hfit] at hinit
  generalize Stage.path st .listDatabases p.server.replies = legs at hinit ⊢
  have hclose : (s.joined p st).far.closeError = none := congrArg (Option.map Script.error) hcl
  rw [hclose] at hinit
  cases hstop : legs.findSome? Leg.stop? with
  | none =>
    rw [hstop] at hinit
    have hx : init.step p s = ⟨.init, p, s, .ok .done, (s.joined p st).along st legs⟩ := by
      rw [step_init, hinit]
      rfl
    rw [hx]
    refine ⟨?_, fun e he => ?_, fun _ => ⟨rfl, rfl, rfl⟩, Session.reports_along s p st legs⟩
    · rw [hstop]
      exact (List.append_nil _).symm
    · cases hstop.symm.trans he
  | some e =>
    rw [hstop] at hinit
    have hx : init.step p s = ⟨.init, p, s, .error (.connection (.bootstrap (.reported e))),
        ((s.joined p st).along st legs).shut⟩ := by
      rw [step_init, hinit]
      rfl
    rw [hx]
    refine ⟨?_, fun e' he => ?_, fun hn => ?_, Session.reports_along s p st legs⟩
    · rw [hstop]
      rfl
    · cases hstop.symm.trans he
      exact ⟨⟨rfl, rfl⟩, _, rfl, rfl⟩
    · cases hstop.symm.trans hn

/-- Somebody else is first to create the database, and for the table there are not enough servers:
the same kind of error stops the path only the second time. -/
theorem init_follows_path_stopped :
    let s : Session WireClient Server := .fresh .empty .new
      ⟨.empty, ⟨[], []⟩, .empty, .new [1], [], ⟨none, none, [], []⟩⟩
    let st : Settings := ⟨⟨["localhost"], nofun⟩, 28015, .hard, "usertable", "ycsb", none, 20⟩
    let p : Script := ⟨none, none, [.ok (.list [.str "test"]),
      .error (.opFailed, "Database \x60ycsb\x60 already exists."), .ok (.list []),
      .error (.opFailed, "Not enough servers")]⟩
    let legs : List Leg := [(.listDatabases, .ok (.list [.str "test"])),
      (.createDatabase, .error (.reported .opFailed "Database \x60ycsb\x60 already exists.")),
      (.listTables, .ok (.list [])),
      (.createTable, .error (.reported .opFailed "Not enough servers"))]
    s.resolved = .ok st ∧ Stage.path st .listDatabases p.server.replies = legs ∧
      (∀ leg ∈ legs, leg.Fits) ∧ (init.step p s).Follows st legs := by
  intro s st p legs
  have hst : s.resolved = .ok st := Surroundings.ok_of_toOption (by decide +kernel)
  have hlegs : Stage.path st .listDatabases p.server.replies = legs := rfl
  have hfit : ∀ leg ∈ legs, leg.Fits := by
    simp only [legs, List.forall_mem_cons]
    exact ⟨⟨["test"], rfl⟩, rfl, ⟨[], rfl⟩, rfl, List.forall_mem_nil _⟩
  exact ⟨hst, hlegs, hfit, hlegs ▸ init_follows_path hst rfl rfl (hlegs ▸ hfit)⟩

end Command

end CrudBench
