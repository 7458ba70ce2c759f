import CrudBench.Proofs.Query.Evaluation
import CrudBench.Proofs.Server.Reply
import CrudBench.Proofs.Store.Range

/-!
# Queries mean what a store answers

On a store that holds records of texts a client's calls come to the same as on a server that
evaluates the terms of these calls on the same records, and both hold the same records afterwards
(`RecordCall.queries_mean_answers`). What a write does to its cell is told once, on texts, and both
sides follow it (`Row.Follows`, `Query.Changes`). So it goes on through any calls in a row
(`RecordCall.alike_throughout`).
-/

namespace CrudBench

/-! ## Records of texts -/

namespace Document

lemma row_injective : Function.Injective row := fun d e h =>
  SortedMap.ext_get? fun name => by
    have hname := congrArg (SortedMap.get? · name) h
    simp only [row, SortedMap.get?_map] at hname
    exact Option.map_injective (fun _ _ => Value.str.inj) hname

/-- Overlaying with texts is overlaying texts. -/
lemma row_overlay (d e : Document) : row (d.overlay e) = d.row.overlay e.row :=
  SortedMap.map_insertMany Value.str e.entries d

/-- Showing a part commutes with taking the texts for values. -/
lemma row_read (d : Document) (fields : List String) : (d.read fields).row = d.row.read fields := by
  rw [read, Row.read]
  split
  · rfl
  · refine SortedMap.ext_get? fun name => ?_
    simp only [row, SortedMap.get?_map, SortedMap.get?_filterKeys]
    split <;> rfl

/-- A record of texts holds texts already if overlaying it with them changes nothing. -/
lemma holds_row {d values : Document} :
    Table.holds d.row values = true ↔ d.overlay values = d := by
  rw [Row.holds_iff, ← row_overlay, row_injective.eq_iff]

end Document

/-- A receipt that only counts moves a counter other than that of errors. -/
lemma Receipt.moves_ofCounts {counts : List (Counter × Int)} (moved : Counter)
    (hm : moved ≠ .errors)
    (h : ∀ c, (Receipt.ofCounts counts).total c = .int (if c = moved then 1 else 0)) :
    (Receipt.ofCounts counts).Moves moved where
  total := h
  complains := by
    have hnone : (Receipt.ofCounts counts).fields.lookup "first_error" = none := by
      refine List.lookup_eq_none_iff.2 fun f hf => ?_
      obtain ⟨c, -, rfl⟩ := List.mem_map.1 hf
      cases c.1 <;> rfl
    simp [hnone, hm]

namespace Row

/-- A change of cells does to a cell of texts what `f` does, and its receipt says so. -/
def Follows (g : Option Row → Receipt × Option Row)
    (f : Option Document → Counter × Option Document) : Prop :=
  ∀ cell, (g (cell.map Document.row)).1.Moves (f cell).1 ∧
    (g (cell.map Document.row)).2 = (f cell).2.map Document.row

lemma follows_overlay (values : Document) : Follows (overlayCell values) values.updateCell := by
  intro cell
  cases cell with
  | none =>
    exact ⟨Receipt.moves_ofCounts .skipped (by decide) fun c => by cases c <;> rfl, rfl⟩
  | some d =>
    simp only [Option.map_some, overlayCell, Document.updateCell, Document.holds_row]
    by_cases hd : d.overlay values = d
    · rw [if_pos hd, if_pos hd]
      exact ⟨Receipt.moves_ofCounts .unchanged (by decide) fun c => by cases c <;> rfl, rfl⟩
    · rw [if_neg hd, if_neg hd]
      exact ⟨Receipt.moves_ofCounts .replaced (by decide) fun c => by cases c <;> rfl,
        congrArg some (d.row_overlay values).symm⟩

lemma follows_put (key : String) (d : Document) : Follows (putCell key d.row) d.insertCell := by
  intro cell
  cases cell with
  | none =>
    exact ⟨Receipt.moves_ofCounts .inserted (by decide) fun c => by cases c <;> rfl, rfl⟩
  | some old => exact ⟨⟨fun c => by cases c <;> rfl, iff_of_true rfl rfl⟩, rfl⟩

lemma follows_delete : Follows deleteCell Document.deleteCell := by
  intro cell
  cases cell with
  | none =>
    exact ⟨Receipt.moves_ofCounts .skipped (by decide) fun c => by cases c <;> rfl, rfl⟩
  | some d =>
    exact ⟨Receipt.moves_ofCounts .deleted (by decide) fun c => by cases c <;> rfl, rfl⟩

end Row

/-- A record of texts can be sent. -/
lemma Document.isPlain_value (d : Document) : d.row.value.IsPlain := by
  refine Row.isPlain_value fun name v h => ?_
  rw [row, SortedMap.get?_map, Option.map_eq_some_iff] at h
  obtain ⟨s, -, rfl⟩ := h
  exact ⟨s, rfl⟩

/-! ## The client of a store -/

/-- The records, as a store holds them. -/
def TextContents.contents (a : TextContents) : Contents := a.map (·.map (·.map Document.row))

namespace StoreClient

/-- The store of a client on which no failure is armed holds these records, each under the key that
it holds, and nothing else. -/
structure Side.Holds (k : Side) (a : TextContents) : Prop where
  unarmed : k.near.armed = none
  recorded : Databases.Recorded k.far.databases
  records : Databases.records k.far.databases = a.contents
  keyed : a.Keyed

variable {k : Side} {a : TextContents} {db t : String} {cells : SortedMap Document}

/-- That a call is traced does not matter. -/
lemma Side.Holds.called (hk : k.Holds a) (c : Call) :
    Side.Holds ⟨k.near, k.far.called c k.far.databases⟩ a :=
  ⟨hk.unarmed, hk.recorded, hk.records, hk.keyed⟩

/-- The outcome of a call is that of its answer. -/
lemma Side.Holds.outcome_ask (hk : k.Holds a) (c : Call) :
    Action.outcome (ask c) k =
      Action.outcome (answer c) ⟨k.near, k.far.called c k.far.databases⟩ := by
  rw [Action.outcome, ask_of_unarmed hk.unarmed]
  rfl

lemma Side.Holds.at?_records (hk : k.Holds a) (db t : String) :
    (Databases.records k.far.databases).at? db t = (a.at? db t).map (·.map Document.row) := by
  rw [hk.records, TextContents.contents, SortedMap.at?_map]

/-- A write that changes cells as `f` does puts what `f` makes of the cell. -/
lemma Side.Holds.write (hk : k.Holds a) (h : a.at? db t = some cells) {key : String}
    {change : Table → Except Misfit (Value × Table)} {g : Option Row → Receipt × Option Row}
    {f : Option Document → Counter × Option Document} (hw : Table.Writes key change g)
    (hf : Row.Follows g f)
    (hkey : ∀ d, (f (cells.get? key)).2 = some d → d.get? primaryKey = some key) :
    ∃ (r : Receipt) (k' : Side),
      StoreClient.write db (.str t) change k = .ok (.object r.fields) k' ∧
      r.Moves (f (cells.get? key)).1 ∧
      k'.Holds (a.putAt db t (cells.set key (f (cells.get? key)).2)) := by
  have hcells := hk.at?_records db t
  rw [h] at hcells
  obtain ⟨dbs, hwrite, hrec, hcon⟩ := write_of_some hcells hk.recorded hw
  obtain ⟨hmoves, hcell⟩ := hf (cells.get? key)
  rw [SortedMap.get?_map] at hwrite hcon
  refine ⟨_, _, hwrite, hmoves, hk.unarmed, hrec, ?_, hk.keyed.putAt h hkey⟩
  rw [hcon, hcell, hk.records, TextContents.contents, TextContents.contents, SortedMap.map_putAt,
    SortedMap.map_set]

end StoreClient

/-- The contents of one record. -/
def TextContents.single (db t k : String) (d : Document) : TextContents :=
  SortedMap.putAt .empty db t (SortedMap.insert .empty k d)

/-- A store holds the one record that it was made of. -/
lemma StoreClient.Side.Holds.single (db t : String) {k : String} {d : Document}
    (hd : d.get? primaryKey = some k) {refuses : Bool} {races : List String}
    {trace : List StoreEvent} :
    Holds ⟨.new refuses races, ⟨.single db t k d.row, trace⟩⟩ (.single db t k d) where
  unarmed := rfl
  recorded := Databases.recorded_single db t k d.row
  records := by
    rw [TextContents.contents, TextContents.single, SortedMap.map_putAt, SortedMap.map_insert]
    rw [Databases.single, Databases.records_putTable, Table.recorded_empty.records_put,
      Table.records_empty]
    rfl
  keyed := by
    intro db' t' cells key d' hcells hd'
    rw [TextContents.single, SortedMap.at?_putAt] at hcells
    split at hcells
    · cases hcells
      rw [SortedMap.get?_insert] at hd'
      split at hd'
      next hk =>
        cases hd'
        exact hk ▸ hd
      · cases hd'
    · cases hcells

/-! ## Answers -/

/-- Two answers to a write are receipts of the same counters, and both or neither tell of an error.
-/
def Value.SameReceipt (x y : Value) : Prop :=
  ∃ r r' : Receipt, x = .object r.fields ∧ y = .object r'.fields ∧
    (∀ c, r.total c = r'.total c) ∧
    ((r.fields.lookup "first_error").isSome ↔ (r'.fields.lookup "first_error").isSome)

/-- Receipts that move the same counter are the same. -/
lemma Receipt.Moves.same {r r' : Receipt} {moved : Counter} (h : r.Moves moved)
    (h' : r'.Moves moved) : Value.SameReceipt (.object r.fields) (.object r'.fields) :=
  ⟨r, r', rfl, rfl, fun c => (h.total c).trans (h'.total c).symm,
    h.complains.trans h'.complains.symm⟩

namespace RecordCall

/-- Two answers to a call say the same. -/
def SameAnswer : (c : RecordCall) → c.call.Answer → c.call.Answer → Prop
  | get .., x, y => x = y
  | between .., xs, ys => xs = ys
  | update .., x, y | insert .., x, y | delete .., x, y => Value.SameReceipt x y

/-- Two clients come to the same: to answers that say the same, or to failures of the operation. -/
def Alike (c : RecordCall) : Except Fault c.call.Answer → Except Fault c.call.Answer → Prop
  | .ok x, .ok y => c.SameAnswer x y
  | .error (.operation _), .error (.operation _) => True
  | _, _ => False

/-- What a client of a store comes to is what the reply to the call is heard as, and its store holds
the records that there are after the reply. -/
structure Agrees (c : RecordCall) (x : Except Fault c.call.Answer × StoreClient.Side)
    (p : Except DriverError Value × TextContents) : Prop where
  alike : c.Alike (c.call.heard p.1) x.1
  holds : x.2.Holds p.2

section

variable {w : Wording} {a : TextContents} {k : StoreClient.Side} (hk : k.Holds a)

include hk

/-- A table that is not there is there on neither side. -/
lemma agrees_of_none {c : RecordCall} {db t : String} (hp : c.place = ⟨db, t⟩)
    (h : a.at? db t = none) (message : String) :
    c.Agrees (Action.outcome (StoreClient.answer c.call) k)
      (.error (.reported .opFailed message), a) := by
  have hn := hk.at?_records db t
  rw [h] at hn
  have hans : StoreClient.answer c.call k = .error (.operation (.noTable db t)) k := by
    cases c with
    | get => cases hp; exact StoreClient.get_of_none hn ..
    | between => cases hp; exact StoreClient.between_of_none hn ..
    | update | insert | delete =>
      cases hp
      rw [call, StoreClient.answer]
      exact StoreClient.write_of_none hn _
  have hheard : c.call.heard (.error (.reported .opFailed message)) =
      .error (.operation (.reported (.reported .opFailed message))) := by
    cases c <;> rfl
  rw [Action.outcome, hans]
  exact ⟨hheard ▸ trivial, hk⟩

/-- A write that changes its cell as a term does is receipted alike. -/
lemma write_of_changes {x : Run Meaning} {db t key : String} {cells : SortedMap Document}
    {f : Option Document → Counter × Option Document} {g : Option Row → Receipt × Option Row}
    {change : Table → Except Misfit (Value × Table)} (h : a.at? db t = some cells)
    (hx : Query.Changes x db t key f) (hw : Table.Writes key change g) (hf : Row.Follows g f) :
    ∃ (r r' : Receipt) (b : TextContents) (k' : StoreClient.Side),
      x a = .ok (.datum (.object r.fields)) b ∧
      StoreClient.write db (.str t) change k = .ok (.object r'.fields) k' ∧
      Value.SameReceipt (.object r.fields) (.object r'.fields) ∧ k'.Holds b := by
  obtain ⟨hkey, r, hr, hxa⟩ := hx hk.keyed h
  obtain ⟨r', k', hwrite, hr', hk'⟩ := hk.write h hw hf hkey
  exact ⟨r, r', _, k', hxa, hwrite, hr.same hr', hk'⟩

/-- What is answered to a call agrees with the reply to its term. -/
lemma agrees_answer (c : RecordCall) {q : Term} (hq : q.eval w = c.run w) :
    c.Agrees (Action.outcome (StoreClient.answer c.call) k) (q.reply w a) := by
  cases h : a.at? c.place.database c.place.table with
  | none =>
    rw [Term.reply_of_error ((congrFun hq a).trans (run_of_none rfl h))]
    exact agrees_of_none hk rfl h _
  | some cells =>
    have hcells := hk.at?_records c.place.database c.place.table
    rw [h] at hcells
    cases c with
    | get db t key fields mode =>
      obtain ⟨m, hm, hv⟩ := run_get (w := w) h key fields mode
      have hans : StoreClient.answer (get db t key fields mode).call k = _ :=
        StoreClient.get_of_some hcells hk.recorded key (.texts fields) mode
      rw [Term.reply_of_ok ((congrFun hq a).trans hm) hv, Action.outcome, hans]
      refine ⟨?_, hk⟩
      show _ = _
      rw [SortedMap.get?_map]
      cases cells.get? key with
      | none => rfl
      | some d => exact congrArg Row.value (d.row_read fields)
    | between db t low n hn fields mode =>
      obtain ⟨m, hm, hv⟩ := run_between (w := w) h low hn fields mode
      have hans : StoreClient.answer (between db t low n hn fields mode).call k = _ :=
        StoreClient.between_of_some hcells hk.recorded low (n := .int n) hn (.texts fields) mode
      rw [Term.reply_of_ok ((congrFun hq a).trans hm) hv, Action.outcome, hans]
      refine ⟨?_, hk⟩
      show _ = _
      rw [SortedMap.entries_startingAt_map, ← List.map_take, List.map_map]
      exact List.map_congr_left fun e _ => congrArg Row.value (e.2.row_read fields)
    | update db t key values hv durability =>
      obtain ⟨r, r', b, k', hx, hwrite, hsame, hb⟩ := write_of_changes hk h
        (changes_update (w := w) db t key values hv durability) (Table.writes_overlay key values)
        (Row.follows_overlay values)
      have hans : StoreClient.answer (update db t key values hv durability).call k = _ := hwrite
      rw [Term.reply_of_ok ((congrFun hq a).trans hx) rfl, Action.outcome, hans]
      exact ⟨hsame, hb⟩
    | insert db t key d hd durability =>
      have hrow : d.row.get? primaryKey = some (.str key) := by
        rw [Document.row, SortedMap.get?_map, hd]
        rfl
      obtain ⟨r, r', b, k', hx, hwrite, hsame, hb⟩ := write_of_changes hk h
        (changes_insert (w := w) db t key d hd durability) (Table.writes_put hrow)
        (Row.follows_put key d)
      have hans : StoreClient.answer (insert db t key d hd durability).call k = _ := hwrite
      rw [Term.reply_of_ok ((congrFun hq a).trans hx) rfl, Action.outcome, hans]
      exact ⟨hsame, hb⟩
    | delete db t key durability =>
      obtain ⟨r, r', b, k', hx, hwrite, hsame, hb⟩ := write_of_changes hk h
        (changes_delete (w := w) db t key durability) (Table.writes_delete key) Row.follows_delete
      have hans : StoreClient.answer (delete db t key durability).call k = _ := hwrite
      rw [Term.reply_of_ok ((congrFun hq a).trans hx) rfl, Action.outcome, hans]
      exact ⟨hsame, hb⟩

/-- What a client of a store comes to with a call agrees with the reply to its query. -/
lemma agrees_ask (w : Wording) (c : RecordCall) :
    c.Agrees (Action.outcome (StoreClient.ask c.call) k) (c.call.query.reply w a) := by
  obtain ⟨q, hq, hev⟩ := c.denotes_term (w := w)
  rw [hk.outcome_ask, Query.reply, hq]
  exact agrees_answer (hk.called c.call) c hev

end

/-! ## Both clients -/

/-- The values that a call is about can be sent. -/
lemma isPlain_values (c : RecordCall) : ∀ v ∈ c.call.values, v.IsPlain := by
  have hs (s : String) : (Value.str s).IsPlain := Value.isPlain_str s
  have hn (fields : List String) : ∀ v ∈ fields.map Value.str, v.IsPlain :=
    List.forall_mem_map.2 fun s _ => hs s
  cases c with
  | get db t key fields mode =>
    simp only [call, Call.values, List.forall_mem_cons]
    exact ⟨hs t, hs key, hn fields⟩
  | between db t low n hpos fields mode =>
    simp only [call, Call.values, List.forall_mem_cons]
    exact ⟨hs t, hs low, Value.isPlain_int n, hn fields⟩
  | update db t key values hk durability =>
    simpa [call, Call.values, hs] using values.isPlain_value
  | insert db t key d hd durability =>
    simpa [call, Call.values, hs] using d.isPlain_value
  | delete db t key durability => simp [call, Call.values, hs]

/-- The term of a call is sent over a connection, and the call comes to what the next reply is heard
as. -/
lemma outcome_ask (c : RecordCall) {l : WireClient.Side} (hl : l.near.isOpen = true)
    {r : Except DriverError Value} {rest : List (Except DriverError Value)}
    (hr : l.far.replies = r :: rest) :
    ∃ q, c.call.query.Sends q ∧ Action.outcome (WireClient.ask c.call) l =
      (c.call.heard r,
        ⟨l.near, { l.far with replies := rest, trace := l.far.trace ++ [.query q] }⟩) := by
  obtain ⟨q, hq⟩ := Call.sends c.isPlain_values
  have hreply : WireClient.reply l = r := by
    rw [WireClient.reply, if_pos hl, hr]
    rfl
  refine ⟨q, hq, ?_⟩
  rw [Action.outcome, WireClient.ask_apply l hq, hreply, WireClient.sent, if_pos hl, hr]
  cases c.call.heard r <;> rfl

section

variable {w : Wording} {a : TextContents} {l : WireClient.Side} {k : StoreClient.Side}
  {rest : List (Except DriverError Value)}

/-- If a server replies with what the term of a call means on its records, a client of it comes to
the same with that call as a client of a store that holds the same records; and the store then holds
what the server does. -/
theorem queries_mean_answers (c : RecordCall) (hl : l.near.isOpen = true)
    (hr : l.far.replies = (c.call.query.reply w a).1 :: rest) (hk : k.Holds a) :
    ∃ q, c.call.query.Sends q ∧
      (Action.outcome (WireClient.ask c.call) l).2.far.trace = l.far.trace ++ [.query q] ∧
      c.Alike (Action.outcome (WireClient.ask c.call) l).1
        (Action.outcome (StoreClient.ask c.call) k).1 ∧
      (Action.outcome (StoreClient.ask c.call) k).2.Holds (c.call.query.reply w a).2 := by
  obtain ⟨q, hq, ho⟩ := c.outcome_ask hl hr
  have h := agrees_ask hk w c
  rw [ho]
  exact ⟨q, hq, rfl, h.alike, h.holds⟩

/-- A record is updated on a server and in a store. -/
theorem queries_mean_answers_update :
    let c := update "ycsb" "usertable" "k" (.ofList [("field0", "b")]) (by decide) .hard
    let d : Document := .ofList [(primaryKey, "k"), ("field0", "a")]
    let w : Wording := ⟨fun _ _ => "", "", fun _ => "", fun _ => "", ""⟩
    let l : WireClient.Side :=
      ⟨⟨true⟩, ⟨none, none, [.ok (.object (Counter.receipt .replaced none).fields)], []⟩⟩
    let k : StoreClient.Side :=
      ⟨.new false [], ⟨.single "ycsb" "usertable" "k" d.row, []⟩⟩
    ∃ q, c.call.query.Sends q ∧
      (Action.outcome (WireClient.ask c.call) l).2.far.trace = [.query q] ∧
      c.Alike (Action.outcome (WireClient.ask c.call) l).1
        (Action.outcome (StoreClient.ask c.call) k).1 ∧
      (Action.outcome (StoreClient.ask c.call) k).2.Holds
        (c.call.query.reply w (.single "ycsb" "usertable" "k" d)).2 := by
  intro c d w l k
  have hr : (c.call.query.reply w (.single "ycsb" "usertable" "k" d)).1 =
      .ok (.object (Counter.receipt .replaced none).fields) := by
    dsimp only [c, d, w]
    rfl
  exact queries_mean_answers c rfl (congrArg (· :: []) hr.symm) (.single "ycsb" "usertable" rfl)

/-- The replies to calls in a row, each on the records that the one before has left. -/
def replies (w : Wording) : List RecordCall → TextContents → List (Except DriverError Value)
  | [], _ => []
  | c :: cs, a =>
    let r := c.call.query.reply w a
    r.1 :: replies w cs r.2

/-- Both clients come to the same with each of some calls in a row. -/
def AlikeThroughout : List RecordCall → WireClient.Side → StoreClient.Side → Prop
  | [], _, _ => True
  | c :: cs, l, k =>
    let x := Action.outcome (WireClient.ask c.call) l
    let y := Action.outcome (StoreClient.ask c.call) k
    c.Alike x.1 y.1 ∧ AlikeThroughout cs x.2 y.2

/-- A client of a server that replies with what terms mean comes to the same, call by call, as a
client of a store that held the same records in the beginning. -/
theorem alike_throughout (cs : List RecordCall) (hl : l.near.isOpen = true)
    (hr : l.far.replies = replies w cs a ++ rest) (hk : k.Holds a) : AlikeThroughout cs l k := by
  induction cs generalizing l k a with
  | nil => trivial
  | cons c cs ih =>
    obtain ⟨q, -, ho⟩ := c.outcome_ask hl hr
    have h := agrees_ask hk w c
    rw [AlikeThroughout, ho]
    exact ⟨h.alike, ih hl rfl h.holds⟩

end

end RecordCall

end CrudBench
