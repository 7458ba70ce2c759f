import CrudBench.Proofs.Plain
import CrudBench.Proofs.Store.Contents
import CrudBench.Proofs.Store.Range

/-!
# What plain requests conclude with

What a plain request comes to in a session that works on a store of records is told by the contents
of the store: but for its latency, its outcome is that of `PlainRequest.conclude`, and so are the
contents that it leaves (`Session.Serves.concludes`). So a session over a store of records serves
on, whatever plain requests it carries out (`PlainRequest.serves_after`). In any other session a
request shows no record and changes nothing (`PlainRequest.perform_ends`).
-/

namespace CrudBench

/-! ## Sessions that serve -/

namespace Session

section Unarmed

variable {s : Session StoreClient Store} {x : Action (Session StoreClient Store) Outcome} {c : Call}
  {take : c.Answer → Option (Latency → Outcome)} {l : Link StoreClient Store}

/-- While no failure is armed, what hinges on a call hinges on how the store answers it. -/
lemma Hinges.of_answer (hx : Hinges x s c take) (h : s.client.armed = none) {a : c.Answer}
    {f : Latency → Outcome}
    (ha : StoreClient.answer c ⟨s.client, s.far.called c s.far.databases⟩ = .ok a l)
    (hf : take a = some f) : Concludes x s (s.ticked.linked l) f :=
  hx.of_ok (ask_ok (s := s.ticked) h c ha) hf

/-- While no failure is armed, what hinges on a call fails if the store fails it. -/
lemma Hinges.of_refusal (hx : Hinges x s c take) (h : s.client.armed = none) {e : OperationError}
    (ha : StoreClient.answer c ⟨s.client, s.far.called c s.far.databases⟩ =
      .error (.operation e) l) : Concludes x s (s.ticked.linked l) (.failed e.message) :=
  hx.of_error (ask_error (s := s.ticked) h c ha)

end Unarmed

/-- The session works on a store of records with these settings, and no failure is armed. -/
structure Serves (s : Session StoreClient Store) (st : Settings) : Prop where
  connected : s.connected = true
  settings : s.settings = some st
  unarmed : s.client.armed = none
  recorded : s.far.databases.Recorded

/-- A session that has kept its backend, over a store of records, still serves. -/
lemma Serves.of_eq {s t : Session StoreClient Store} {st : Settings} (h : s.Serves st)
    (hb : t.toBackend = s.toBackend) (hr : t.far.databases.Recorded) : t.Serves st where
  connected := (congrArg Backend.connected hb).trans h.connected
  settings := (congrArg Backend.settings hb).trans h.settings
  unarmed := (congrArg (·.client.armed) hb).trans h.unarmed
  recorded := hr

end Session

/-! ## Conclusions -/

/-- What an operation concludes with, by what the cell under its key holds, and what the cell holds
afterwards. -/
def Verb.conclude (key : String) (cell : Option Row) : Verb → (Latency → Outcome) × Option Row
  | .read fields =>
    match cell with
    | none => (.notFound, none)
    | some row => (.found (.record (row.visible fields)), some row)
  | .insert values =>
    ((values.insertCell key cell).1.verdict .inserted false, (values.insertCell key cell).2)
  | .update values =>
    ((values.updateCell cell).1.verdict .replaced true, (values.updateCell cell).2)
  | .delete => ((Row.deleteCell cell).1.verdict .deleted true, (Row.deleteCell cell).2)

lemma Verb.conclude_read (key : String) (cell : Option Row) (fields : List String) :
    (Verb.conclude key cell (.read fields)).2 = cell := by
  cases cell <;> rfl

namespace PlainRequest

/-- The table that the operation is about. -/
def table : PlainRequest → String
  | point r => r.table
  | range t _ _ _ => t

/-- What an operation on a table of these cells concludes with, and the cells afterwards. -/
def onCells (cells : SortedMap Row) : PlainRequest → (Latency → Outcome) × SortedMap Row
  | point r =>
    let (f, cell) := r.verb.conclude r.key (cells.get? r.key)
    (f, cells.set r.key cell)
  | range _ start count fields =>
    (.found (.records ((cells.shownFrom start fields).take count.toNat)), cells)

/-- What an operation on a database concludes with, and the contents afterwards. -/
def conclude (db : String) (m : Contents) (r : PlainRequest) : (Latency → Outcome) × Contents :=
  match r.shortcut? with
  | some o => (fun _ => o, m)
  | none =>
    match m.at? db r.table with
    | none => (.failed (OperationError.noTable db r.table).message, m)
    | some cells => ((r.onCells cells).1, m.putAt db r.table (r.onCells cells).2)

variable {db : String} {m : Contents} {r : PlainRequest}

lemma conclude_of_shortcut {o : Outcome} (h : r.shortcut? = some o) :
    r.conclude db m = (fun _ => o, m) := by
  rw [conclude, h]

lemma conclude_of_none (h : r.shortcut? = none) (hc : m.at? db r.table = none) :
    r.conclude db m = (.failed (OperationError.noTable db r.table).message, m) := by
  rw [conclude, h]
  simp only [hc]

lemma conclude_of_some (h : r.shortcut? = none) {cells : SortedMap Row}
    (hc : m.at? db r.table = some cells) :
    r.conclude db m = ((r.onCells cells).1, m.putAt db r.table (r.onCells cells).2) := by
  rw [conclude, h]
  simp only [hc]

lemma shortcut?_range_of_pos (t start : String) {count : Int} (hn : 0 < count)
    (fields : List String) : (range t start count fields).shortcut? = none := if_neg (by omega)

/-- A range of records leaves the contents as they are. -/
lemma conclude_range (db : String) (m : Contents) (t start : String) (count : Int)
    (fields : List String) : ((range t start count fields).conclude db m).2 = m := by
  cases h : (range t start count fields).shortcut? with
  | some o => rw [conclude_of_shortcut h]
  | none =>
    cases hc : m.at? db t with
    | none => rw [conclude_of_none h hc]
    | some cells =>
      rw [conclude_of_some h hc]
      exact SortedMap.putAt_self hc

end PlainRequest

/-- What reaches the store puts nothing in under an empty key. -/
lemma PointRequest.named_of_shortcut {r : PointRequest}
    (h : (PlainRequest.point r).shortcut? = none) (values : Row) (hv : r.verb = .insert values) :
    r.key ≠ "" := by
  obtain ⟨t, key, verb⟩ := r
  subst hv
  rintro rfl
  cases h

/-- What the cell of the operation holds afterwards, by what it held. -/
def PointRequest.cellAfter (r : PointRequest) (cell : Option Row) : Option Row :=
  match (PlainRequest.point r).shortcut? with
  | some _ => cell
  | none => (r.verb.conclude r.key cell).2

/-- An operation on one record changes the contents in one cell. -/
lemma PointRequest.conclude_point (db : String) (m : Contents) (r : PointRequest) :
    ((PlainRequest.point r).conclude db m).2 =
      m.setCell db r.table r.key (r.cellAfter (m.cell? db r.table r.key)) := by
  cases h : (PlainRequest.point r).shortcut? with
  | some o => rw [PlainRequest.conclude_of_shortcut h, cellAfter, h, Contents.setCell_self]
  | none =>
    cases hc : m.at? db r.table with
    | none => rw [PlainRequest.conclude_of_none h hc, Contents.setCell_of_none hc]
    | some cells =>
      rw [PlainRequest.conclude_of_some h hc, Contents.setCell_of_some hc,
        Contents.cell?_of_some hc, cellAfter, h]
      rfl

namespace Session

/-- A plain request comes to what it concludes with on these contents, and leaves the backend as it
is and the contents that it concludes with. -/
def ConcludesPlain (s : Session StoreClient Store) (st : Settings) (r : PlainRequest) : Prop :=
  ∃ latency t, r.request.perform s = .ok ((r.conclude st.database s.contents).1 latency) t ∧
    t.toBackend = s.toBackend ∧ t.far.databases.Recorded ∧
      t.contents = (r.conclude st.database s.contents).2

variable {s : Session StoreClient Store} {st : Settings} {r : PlainRequest}

lemma ConcludesPlain.of_concludes {c : Call} {dbs : Databases} {f : Latency → Outcome}
    (h : Concludes r.request.perform s (s.ticked.asked c dbs) f) (hr : dbs.Recorded)
    (hf : r.conclude st.database s.contents = (f, dbs.records)) : s.ConcludesPlain st r := by
  obtain ⟨latency, t, ht, hb, hw⟩ := h
  have hd : t.far.databases = dbs := congrArg Store.databases hw
  refine ⟨latency, t, ?_, hb, hd ▸ hr, ?_⟩
  · rw [hf, ht]
  · rw [hf, contents, hd]

namespace Serves

variable (hs : s.Serves st)

include hs

lemma concludes_of_none (h : r.shortcut? = none) (hc : s.contents.at? st.database r.table = none)
    {c : Call} (hx : Concludes r.request.perform s (s.ticked.asked c s.far.databases)
      (.failed (OperationError.noTable st.database r.table).message)) : s.ConcludesPlain st r :=
  .of_concludes hx hs.recorded (PlainRequest.conclude_of_none h hc)

/-- What finds its table, and leaves it as it is, concludes with what it finds. -/
lemma concludes_of_same (h : r.shortcut? = none) {cells : SortedMap Row}
    (hc : s.contents.at? st.database r.table = some cells) (hsame : (r.onCells cells).2 = cells)
    {c : Call} (hx : Concludes r.request.perform s (s.ticked.asked c s.far.databases)
      (r.onCells cells).1) : s.ConcludesPlain st r := by
  refine .of_concludes hx hs.recorded ?_
  rw [PlainRequest.conclude_of_some h hc, hsame, SortedMap.putAt_self hc]
  rfl

/-- A write of one cell concludes with the verdict on its receipt. -/
lemma concludes_write {r : PointRequest} (h : (PlainRequest.point r).shortcut? = none) (c : Call)
    {change : Table → Except Misfit (Value × Table)} {f : Option Row → Receipt × Option Row}
    (hw : Table.Writes r.key change f) {wanted : Counter} {mayMiss : Bool}
    (hok : ∀ {v : Receipt} {l}, StoreClient.write st.database (.str r.table) change
      ⟨s.client, s.far.called c s.far.databases⟩ = .ok (.object v.fields) l →
      Concludes r.perform s (s.ticked.linked l) (v.verdict wanted mayMiss))
    (herr : ∀ {e l}, StoreClient.write st.database (.str r.table) change
      ⟨s.client, s.far.called c s.far.databases⟩ = .error (.operation e) l →
      Concludes r.perform s (s.ticked.linked l) (.failed e.message))
    (hf : ∀ cell, r.verb.conclude r.key cell =
      ((f cell).1.verdict wanted mayMiss, (f cell).2)) : s.ConcludesPlain st (.point r) := by
  cases hc : s.contents.at? st.database r.table with
  | none => exact hs.concludes_of_none h hc (herr (StoreClient.write_of_none
      (l := ⟨s.client, s.far.called c s.far.databases⟩) hc change))
  | some cells =>
    obtain ⟨dbs, ha, hr, hdbs⟩ := StoreClient.write_of_some
      (l := ⟨s.client, s.far.called c s.far.databases⟩) hc hs.recorded hw
    refine .of_concludes (hok ha) hr ?_
    rw [PlainRequest.conclude_of_some h hc, PlainRequest.onCells, hf, hdbs]
    rfl

lemma concludes_read (t k : String) (fields : List String) :
    s.ConcludesPlain st (.point ⟨t, k, .read fields⟩) := by
  have hh : Hinges (PointRequest.perform ⟨t, k, .read fields⟩) s _ _ :=
    read_hinges hs.connected hs.settings (.str t) (.str k) fields
  cases hc : s.contents.at? st.database t with
  | none =>
    exact hs.concludes_of_none rfl hc (hh.of_refusal hs.unarmed
      (StoreClient.get_of_none (l := ⟨s.client, s.far.called _ s.far.databases⟩) hc ..))
  | some cells =>
    have ha (c : Call) := StoreClient.get_of_some (l := ⟨s.client, s.far.called c s.far.databases⟩)
      hc hs.recorded k (.names fields) st.readMode
    have hsame : (PlainRequest.onCells cells (.point ⟨t, k, .read fields⟩)).2 = cells := by
      show cells.set k (Verb.conclude k (cells.get? k) (.read fields)).2 = cells
      rw [Verb.conclude_read, SortedMap.set_self]
    refine hs.concludes_of_same (c := PlainRequest.call st (.point ⟨t, k, .read fields⟩)) rfl hc
      hsame ?_
    show Concludes _ _ _ (Verb.conclude k (cells.get? k) (.read fields)).1
    cases hk : cells.get? k with
    | none =>
      simp only [hk] at ha
      exact hh.of_answer hs.unarmed (ha _) rfl
    | some row =>
      simp only [hk] at ha
      have hshown : Row.shown (.ofList (row.read fields).entries) (.ofTexts fields) =
          row.visible fields := by
        rw [SortedMap.ofList_entries, Row.shown_read]
      have hx := hh.of_answer hs.unarmed (ha _) rfl
      rw [hshown] at hx
      exact hx

/-- A scan of some records concludes with what it finds, and changes nothing. -/
lemma scan_concludes (t start : String) {n : Count} (hn : 0 < n.toInt) (fields : List String) :
    ∃ c, Concludes (scan (.str t) (.str start) n.value (.ofTexts fields)) s
      (s.ticked.asked c s.far.databases)
      ((PlainRequest.range t start n.toInt fields).conclude st.database s.contents).1 := by
  have h := PlainRequest.shortcut?_range_of_pos t start hn fields
  have hh := scan_hinges hs.connected hs.settings (.str t) (.str start) fields hn
  cases hc : s.contents.at? st.database t with
  | none =>
    rw [PlainRequest.conclude_of_none h hc]
    exact ⟨_, hh.of_refusal hs.unarmed
      (StoreClient.between_of_none (l := ⟨s.client, s.far.called _ s.far.databases⟩) hc ..)⟩
  | some cells =>
    have ha (c : Call) := StoreClient.between_of_some
      (l := ⟨s.client, s.far.called c s.far.databases⟩) hc hs.recorded start hn (.names fields)
      st.readMode
    have hf := Value.scanOutcome?_read
      (((cells.startingAt start).entries.take n.toInt.toNat).map (·.2)) fields
    rw [List.map_map, List.map_map] at hf
    rw [PlainRequest.conclude_of_some h hc, PlainRequest.onCells, SortedMap.shownFrom,
      ← List.map_take]
    exact ⟨_, hh.of_answer hs.unarmed (ha _) hf⟩

lemma concludes_range (t start : String) {count : Int} (hn : 0 < count) (fields : List String) :
    s.ConcludesPlain st (.range t start count fields) := by
  have hcount : 0 < (Count.int count).toInt := hn
  obtain ⟨c, hx⟩ := hs.scan_concludes t start hcount fields
  exact .of_concludes hx hs.recorded (Prod.ext rfl (PlainRequest.conclude_range ..))

/-- What a plain request comes to in a session that serves is told by the contents. -/
theorem concludes (r : PlainRequest) : s.ConcludesPlain st r := by
  cases h : r.shortcut? with
  | some o =>
    -- an empty key, or a range of no records, is decided without the store
    have hx := PlainRequest.perform_of_shortcut hs.connected hs.settings h
    have hf : r.conclude st.database s.contents = (fun _ => o, s.contents) :=
      PlainRequest.conclude_of_shortcut h
    refine ⟨.zero, s, ?_, rfl, hs.recorded, ?_⟩
    · rw [hf, hx]
    · rw [hf]
  | none =>
    cases r with
    | range t start count fields =>
      by_cases hn : count ≤ 0
      · rw [PlainRequest.shortcut?, if_pos hn] at h
        cases h
      · exact hs.concludes_range t start (by omega) fields
    | point r =>
      obtain ⟨t, k, verb⟩ := r
      cases verb with
      | read fields => exact hs.concludes_read t k fields
      | insert values =>
        have hk : k ≠ "" := PointRequest.named_of_shortcut h values rfl
        have hh := insert_hinges hs.connected hs.settings (.str t) (.str k) values
          (by simp [Value.isTruthy, hk])
        exact hs.concludes_write h _ (Table.writes_insert k values)
          (fun ha => hh.of_answer hs.unarmed ha rfl) (fun ha => hh.of_refusal hs.unarmed ha)
          fun _ => rfl
      | update values =>
        have hh := update_hinges hs.connected hs.settings (.str t) (.str k) values
        exact hs.concludes_write h _ (Table.writes_update k values)
          (fun ha => hh.of_answer hs.unarmed ha rfl) (fun ha => hh.of_refusal hs.unarmed ha)
          fun _ => rfl
      | delete =>
        have hh := delete_hinges hs.connected hs.settings (.str t) (.str k)
        exact hs.concludes_write h _ (Table.writes_delete k)
          (fun ha => hh.of_answer hs.unarmed ha rfl) (fun ha => hh.of_refusal hs.unarmed ha)
          fun _ => rfl

/-- A scan of some records in a session that serves shows the first ones of its range. -/
lemma scan_eq {T : String} {cells : SortedMap Row} (hc : s.contents.at? st.database T = some cells)
    (start : String) {n : Count} (hn : 0 < n.toInt) (fields : List String) :
    ∃ latency t, scan (.str T) (.str start) n.value (.ofTexts fields) s =
        .ok (.found (.records ((cells.shownFrom start fields).take n.toInt.toNat)) latency) t ∧
      t.toBackend = s.toBackend ∧ t.far.databases = s.far.databases := by
  obtain ⟨c, latency, t, ht, hb, hw⟩ := hs.scan_concludes T start hn fields
  have hpage := PlainRequest.shortcut?_range_of_pos T start hn fields
  rw [PlainRequest.conclude_of_some hpage hc] at ht
  exact ⟨latency, t, ht, hb, hw ▸ rfl⟩

end Serves

end Session

/-- Over a store of records a plain request shows no record and changes nothing, or it concludes
with what the contents tell. -/
lemma PlainRequest.perform_ends {s : Session StoreClient Store}
    (hb : s.connected = true → s.settings.isSome = true) (hr : s.far.databases.Recorded)
    (r : PlainRequest) :
    (∃ o t, r.request.perform s = .ok o t ∧ t.far.databases = s.far.databases ∧
      ∀ data, o.data = some data → data = .records []) ∨
    ∃ st, s.Serves st ∧ s.ConcludesPlain st r := by
  cases hskip : r.skipped? s with
  | some o =>
    refine .inl ⟨o, s, perform_of_skipped hb hskip, rfl, fun data hdata => ?_⟩
    rw [skipped?] at hskip
    split at hskip
    · rcases shortcut_cases hskip with ⟨t, values, -, rfl⟩ | ⟨t, start, count, fields, -, -, rfl⟩
      · cases hdata
      · cases hdata
        rfl
    · cases hskip
      cases hdata
  | none =>
    obtain ⟨hc, hshort⟩ := connected_of_skipped hskip
    obtain ⟨st, hst⟩ := Option.isSome_iff_exists.1 (hb hc)
    cases ha : s.client.armed with
    | none =>
      have hs : s.Serves st := ⟨hc, hst, ha, hr⟩
      exact .inr ⟨st, hs, hs.concludes r⟩
    | some message =>
      obtain ⟨c, take, hh⟩ := exists_hinges hc hst hshort
      obtain ⟨latency, t, ht, -, hw⟩ := hh.of_error (Session.ask_of_armed (s := s.ticked) ha c)
      refine .inl ⟨_, t, ht, hw ▸ rfl, ?_⟩
      rintro data ⟨⟩

/-! ## Histories -/

/-- The session after a request, whatever came of it. -/
def Request.after (r : Request) (s : Session StoreClient Store) : Session StoreClient Store :=
  match r.perform s with
  | .ok _ t | .error _ t => t

namespace PlainRequest

open Session

/-- The session after requests, one after the other. -/
def after (rs : List PlainRequest) (s : Session StoreClient Store) : Session StoreClient Store :=
  rs.foldl (fun s r => r.request.after s) s

variable {s : Session StoreClient Store} {st : Settings}

lemma serves_request (hs : s.Serves st) (r : PlainRequest) : (r.request.after s).Serves st := by
  obtain ⟨latency, t, ht, hb, hr, -⟩ := hs.concludes r
  rw [Request.after, ht]
  exact hs.of_eq hb hr

/-- A session that serves does so after any requests. -/
theorem serves_after (hs : s.Serves st) (rs : List PlainRequest) : (after rs s).Serves st := by
  induction rs generalizing s with
  | nil => exact hs
  | cons r rs ih => exact ih (serves_request hs r)

end PlainRequest

end CrudBench
