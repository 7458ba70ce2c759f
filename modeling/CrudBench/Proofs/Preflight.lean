import CrudBench.Preflight
import CrudBench.Proofs.Data.MergeSort
import CrudBench.Proofs.Masking
import CrudBench.Proofs.Smoke.Check
import CrudBench.Proofs.Smoke.Latency
import CrudBench.Proofs.Store.Idempotence

/-!
# The verdict of the pre-flight check

Over a store of records the pre-flight check comes to a verdict, whatever it is started with. It is
passed exactly if there are settings, nothing stands in the way of connecting, and none of the
records that it works on is there already; the connection is given up again in any case
(`Preflight.run_verdict`).
-/

namespace CrudBench

/-! ## Configurations with texts for names -/

namespace Properties

variable {p : Properties}

/-- Properties with texts for names have an order. -/
lemma returns_sorted (h : Dictionary.Named p) : Returns (fun _ => True) p.sorted := by
  refine (MergeSort.returns_sort ?_ h).mono fun _ _ => trivial
  rintro ⟨_, v⟩ ⟨_, w⟩ ⟨s, rfl⟩ ⟨t, rfl⟩
  exact ⟨_, rfl, trivial⟩

/-- The texts that are names have a lower case. -/
lemma returns_masked (h : Dictionary.Named p) : Returns (fun _ => True) p.masked :=
  masked_of_named h ▸ returns_ok.2 trivial

end Properties

/-! ## Records that are there -/

/-- The record under a key of a table. -/
def Contents.record? (m : Contents) (db t key : String) : Option Row :=
  (m.at? db t).bind (·.get? key)

/-- A table that was made sure of holds the records that it held before. -/
lemma Contents.exists_ensure (m : Contents) (db t : String) :
    ∃ cells, (m.ensure db t).at? db t = some cells ∧
      ∀ key, cells.get? key = m.record? db t key := by
  rw [ensure]
  cases h : m.at? db t with
  | none => exact ⟨.empty, SortedMap.at?_putAt_self m db t .empty, fun key => by simp [record?, h]⟩
  | some cells => exact ⟨cells, h, fun key => by simp [record?, h]⟩

/-- Nothing is taken away with keys under which there is nothing. -/
lemma SortedMap.without_of_absent {α : Type} {m : SortedMap α} {ks : List String}
    (h : ∀ k ∈ ks, m.get? k = none) : m.without ks = m := by
  refine ext_get? fun k => ?_
  rw [without, get?_filterKeys]
  by_cases hk : k ∈ ks
  · simp [hk, h k hk]
  · simp [hk]

/-! ## Connecting -/

namespace Session

variable {s : Session StoreClient Store} {st : Settings}

/-- Nothing stands in the way of a connection with these settings. -/
structure Unhindered (s : Session StoreClient Store) (st : Settings) : Prop where
  resolved : s.resolved = .ok st
  accepted : s.client.refuses = false
  unarmed : s.client.armed = none

/-- The session has no connection. -/
def Detached (s : Session StoreClient Store) : Prop := s.connected = false ∧ s.client.isOpen = false

/-- Whatever stands in the way of a connection, there is none afterwards. -/
lemma init_of_hindered (hd : s.Detached) (h : ∀ st, ¬s.Unhindered st) :
    ∃ e t, init s = .error (.connection e) t ∧ t.Detached := by
  cases hr : s.resolved with
  | error x =>
    refine ⟨.configuration x, s.loaded, ?_, hd⟩
    rw [init_apply, hr]
  | ok st =>
    cases hf : s.client.refuses with
    | true =>
      obtain ⟨x, hx⟩ := init_of_refused hr hf
      exact ⟨x, _, hx, hd⟩
    | false =>
      cases ha : s.client.armed with
      | none => exact absurd ⟨hr, hf, ha⟩ (h st)
      | some message => exact ⟨_, _, init_of_armed hr hf ha, rfl, rfl⟩

/-- Where nothing stands in the way, the session serves, and its database and its table are there.
-/
lemma init_of_unhindered (hr : s.far.databases.Recorded) (h : s.Unhindered st) :
    ∃ t, init s = .ok () t ∧ t.Serves st ∧ t.client.isOpen = true ∧ t.config = s.config ∧
      t.contents = s.contents.ensure st.database st.table := by
  obtain ⟨t, ht, hb, -⟩ := init_of_unarmed h.resolved h.accepted h.unarmed
  obtain ⟨st', hserves, hcontents⟩ := serves_of_init hr ht
  have hst : t.settings = some st := congrArg Backend.settings hb
  cases hst.symm.trans hserves.settings
  exact ⟨t, ht, hserves, congrArg (·.client.isOpen) hb,
    (congrArg Backend.config hb).trans rfl, hcontents⟩

/-- Asking leaves a connection as it is. -/
lemma stable_isOpen :
    Stable (fun t : Session StoreClient Store => t.client.isOpen = true) fun _ => True where
  ticked h := h
  logged h _ := h
  misfit _ := trivial
  rejected _ _ := trivial
  ask c := by
    refine keeps_viaClient (J := fun l => l.near.isOpen = true)
      (Action.keeps_of_outcome fun l hl => ?_) (fun _ h => h) fun _ _ _ h => h
    obtain ⟨dbs, h, -⟩ := StoreClient.ask_ends c l
    have hend : ((Client.ask c : Action StoreClient.Side c.Answer).outcome l).2 = _ := h
    rw [hend]
    exact hl

end Session

/-! ## The parts of the check -/

namespace Bench

variable {b : Bench StoreClient Store} {s : Session StoreClient Store} {st : Settings}

lemma connect_of_error {e : ConnectionError}
    (h : Session.init b.toSession.ticked = .error (.connection e) s) :
    connect b = .ok (.error e.message) { b with toSession := s } := by
  simp only [connect, Action.bind_apply, Session.now_apply, h]

lemma connect_of_ok (h : Session.init b.toSession.ticked = .ok () s) :
    ∃ ms, connect b = .ok (.ok ms) { b with toSession := s.ticked } := by
  simp only [connect, Action.bind_apply, Session.now_apply, h]
  exact ⟨_, rfl⟩

/-- The effective properties are printed. -/
lemma showProperties_apply (h : Dictionary.Named b.config) :
    ∃ output, showProperties b = .ok () { b with output } := by
  obtain ⟨es, hes, -⟩ := Properties.returns_sorted h
  simp only [showProperties, Action.bind_apply, print, Action.modify_apply, Action.get_apply, hes,
    Action.given_ok, Action.pure_apply]
  exact ⟨_, rfl⟩

/-- What was done over a connection comes to the same, and the connection is given up. -/
lemma thenClose_of_ok {α : Type} {act : Action (Bench StoreClient Store) α} {a : α}
    {c : Bench StoreClient Store} (h : act b = .ok a c) (ho : c.client.isOpen = true) :
    ∃ d, thenClose act b = .ok a d ∧ d.toSession.Detached ∧ d.far = c.far ∧
      d.metrics = c.metrics := by
  have hc := Session.cleanup_apply c.toSession
  rw [if_pos ho] at hc
  simp only [thenClose, h, Action.bind_apply, print, Action.modify_apply, viaBackend, hc]
  exact ⟨_, rfl, ⟨rfl, rfl⟩, rfl, rfl⟩

/-- A report of floats is printed. -/
lemma printReport_apply (h : b.metrics.Clocked) :
    ∃ output, printReport b = .ok () { b with output } := by
  obtain ⟨lines, hl, -⟩ := h.returns_report
  simp only [printReport, Action.bind_apply, Action.get_apply, measured, hl, Action.pure_apply,
    print, Action.modify_apply]
  exact ⟨_, rfl⟩

variable {a : CommandLine.Arguments} {smokeConfig : SortedMap Value}

/-- The records that are checked, which the command line can change. -/
def recordsOf (a : CommandLine.Arguments) (smokeConfig : SortedMap Value) : Value :=
  match a.records.value? with
  | some n => if n = 0 then smokeValue smokeConfig "num_records" else .int n
  | none => smokeValue smokeConfig "num_records"

/-- The check over a connection passes exactly if nothing stood under its keys, and gives the
connection up. -/
lemma checkConnected_verdict {records : Value} {p : SmokePlan}
    (hp : planOf records smokeConfig = .ok p) (hn : 1 ≤ p.records.toInt) {T : String}
    {cells : SortedMap Row} (hs : b.toSession.Serves st) (ho : b.client.isOpen = true)
    (hc : b.toSession.contents.at? st.database T = some cells) (hm : b.metrics = .empty) :
    ∃ passed b', checkConnected (.str T) records smokeConfig none b = .ok passed b' ∧
      (passed = true ↔ ∀ k ∈ p.keys, cells.get? k = none) ∧ b'.toSession.Detached ∧
      b'.far.databases.Recorded ∧
      b'.toSession.contents = b.toSession.contents.putAt st.database T (cells.without p.keys) := by
  -- what is printed before changes nothing else
  obtain ⟨c, hprint, hsession, hmetrics⟩ : ∃ c : Bench StoreClient Store,
      print ["", "2️⃣  Running CRUD smoke sequence on " ++ records.text ++ " records..."] b =
        .ok () c ∧ c.toSession = b.toSession ∧ c.metrics = b.metrics := ⟨_, rfl, rfl, rfl⟩
  rw [← hsession] at hs ho hc ⊢
  have hat : c.At st c.toSession.contents T cells := ⟨hs, (SortedMap.putAt_self hc).symm⟩
  obtain ⟨complaints, d, hd, hdat, hnil, -⟩ := hat.carryOut hn
  have hkept := (keeps_carryOut Session.stable_isOpen.keeps_perform T hn).of_ok
    ⟨ho, hmetrics ▸ hm ▸ Registry.clocked_empty⟩ hd
  obtain ⟨e, he, hdetached, hfar, hmetrics'⟩ := thenClose_of_ok hd hkept.1.1
  obtain ⟨output, hreport⟩ :=
    printReport_apply (b := { e with output := e.output ++ verdictLines complaints })
      (hmetrics' ▸ hkept.1.2)
  have hcontents : e.toSession.contents = d.toSession.contents := by
    rw [Session.contents, hfar]
    rfl
  refine ⟨complaints.isEmpty, { e with output }, ?_, ?_, hdetached, ?_, ?_⟩
  · have hprint' : print (verdictLines complaints) e =
        .ok () { e with output := e.output ++ verdictLines complaints } := rfl
    simp only [checkConnected, Action.bind_apply, hprint, hp, smoke, he, hprint', hreport]
    rfl
  · rw [List.isEmpty_iff, hnil]
  · rw [hfar]
    exact hdat.serves.recorded
  · exact hcontents.trans hdat.contents

/-- What the check does once it has tried to connect. -/
def goOn (a : CommandLine.Arguments) (smokeConfig : SortedMap Value) :
    Except String Float → Action (Bench StoreClient Store) Bool
  | .error message => do
    print ["❌ init failed: " ++ message]
    return false
  | .ok ms => do
    let info ← viaBackend Session.info
    print [connectedLine (← get).toSession ms]
    match info.settings with
    | some st =>
      checkConnected (.str st.table) (recordsOf a smokeConfig) smokeConfig a.saveMetrics.value?
    | none => return false

/-- What is printed before the check connects changes nothing else. -/
lemma verify_apply (h : Dictionary.Named b.config) (a : CommandLine.Arguments)
    (smokeConfig : SortedMap Value) :
    ∃ output, verify a smokeConfig b = (connect >>= goOn a smokeConfig) { b with output } := by
  have hverify : verify a smokeConfig = (do
      if a.printConfig then showProperties else pure ()
      print ["", "1️⃣  Connecting and bootstrapping schema..."]
      goOn a smokeConfig (← connect) : Action (Bench StoreClient Store) Bool) := by
    rw [verify]
    cases a.printConfig <;> rfl
  rw [hverify]
  cases a.printConfig with
  | true =>
    obtain ⟨output, hshow⟩ := showProperties_apply h
    rw [if_pos rfl, Action.bind_apply, hshow]
    exact ⟨_, rfl⟩
  | false => exact ⟨_, rfl⟩

variable {p : SmokePlan}

/-- The records of a plan can be worked on: nothing stands in the way of a connection, and none of
them is there already. -/
def Clear (s : Session StoreClient Store) (p : SmokePlan) (st : Settings) : Prop :=
  s.Unhindered st ∧ ∀ key ∈ p.keys, s.contents.record? st.database st.table key = none

/-- Where nothing stands in the way of a connection, the check passes exactly if no record was there
already. -/
lemma goOn_verdict (hp : planOf (recordsOf a smokeConfig) smokeConfig = .ok p)
    (hn : 1 ≤ p.records.toInt) (hsave : a.saveMetrics = .absent) (ms : Float)
    (hnamed : Dictionary.Named b.config) (hs : b.toSession.Serves st)
    (ho : b.client.isOpen = true) (hm : b.metrics = .empty) {m : Contents}
    (hc : b.toSession.contents = m.ensure st.database st.table) :
    ∃ passed b', goOn a smokeConfig (.ok ms) b = .ok passed b' ∧
      (passed = true ↔ ∀ key ∈ p.keys, m.record? st.database st.table key = none) ∧
      b'.toSession.Detached ∧ b'.far.databases.Recorded ∧
      (passed = true → b'.toSession.contents = m.ensure st.database st.table) := by
  obtain ⟨config, hconfig, -⟩ := Properties.returns_masked hnamed
  obtain ⟨cells, hcells, hrecords⟩ := m.exists_ensure st.database st.table
  rw [← hc] at hcells
  obtain ⟨passed, b', hx, hpassed, hdetached, hrecorded, hcontents⟩ :=
    checkConnected_verdict (b := { b with output := b.output ++ [connectedLine b.toSession ms] })
      hp hn hs ho hcells hm
  have hinfo : Session.info b.toSession = .ok ⟨some .rethinkdb, "RethinkDBBackend", config,
      b.connected, some b.host, some st⟩ b.toSession := by
    simp only [Session.info, Action.bind_apply, Action.get_apply, Backend.info, hconfig,
      hs.settings]
    rfl
  have hsaveTo : a.saveMetrics.value? = none := by rw [hsave]; rfl
  have hiff : passed = true ↔ ∀ key ∈ p.keys, m.record? st.database st.table key = none := by
    simp only [hpassed, hrecords]
  refine ⟨passed, b', ?_, hiff, hdetached, hrecorded, fun h => ?_⟩
  · simp only [goOn, Action.bind_apply, viaBackend, hinfo, print, Action.modify_apply,
      Action.get_apply, hsaveTo]
    exact hx
  · rw [hcontents, SortedMap.without_of_absent (hpassed.1 h), ← hc]
    exact SortedMap.putAt_self hcells

/-- The check comes to a verdict, and gives its connection up. It passes exactly if its records can
be worked on, and has then added its database and its table to the store, if they were missing. -/
lemma verify_verdict (hp : planOf (recordsOf a smokeConfig) smokeConfig = .ok p)
    (hn : 1 ≤ p.records.toInt) (hsave : a.saveMetrics = .absent)
    (hnamed : Dictionary.Named b.config) (hd : b.toSession.Detached)
    (hr : b.far.databases.Recorded) (hm : b.metrics = .empty) :
    ∃ passed b', verify a smokeConfig b = .ok passed b' ∧
      (passed = true ↔ ∃ st, Clear b.toSession p st) ∧ b'.toSession.Detached ∧
      (passed = true → ∃ st, b.toSession.resolved = .ok st ∧ b'.far.databases.Recorded ∧
        b'.toSession.contents = b.toSession.contents.ensure st.database st.table) := by
  obtain ⟨output, hverify⟩ := verify_apply hnamed a smokeConfig
  rw [hverify, Action.bind_apply]
  by_cases h : ∃ st, b.toSession.ticked.Unhindered st
  · obtain ⟨st, hst⟩ := h
    obtain ⟨t, ht, hserves, hopen, hconfig, hcontents⟩ :=
      Session.init_of_unhindered (s := b.toSession.ticked) hr hst
    obtain ⟨ms, hconnect⟩ := connect_of_ok (b := { b with output }) ht
    rw [hconnect]
    have hserves' : t.ticked.Serves st := hserves.of_eq rfl hserves.recorded
    obtain ⟨passed, b', hx, hpassed, hdetached, hrecorded, hend⟩ :=
      goOn_verdict (b := ⟨t.ticked, b.metrics, output, b.files⟩) hp hn hsave ms (hconfig ▸ hnamed)
        hserves' hopen hm hcontents
    refine ⟨passed, b', hx, hpassed.trans ⟨fun h => ⟨st, ?_, h⟩, ?_⟩, hdetached,
      fun h => ⟨st, hst.resolved, hrecorded, hend h⟩⟩
    · exact ⟨hst.resolved, hst.accepted, hst.unarmed⟩
    · rintro ⟨st', hst', h⟩
      cases hst.resolved.symm.trans hst'.resolved
      exact h
  · obtain ⟨e, t, ht, hdetached⟩ := Session.init_of_hindered (s := b.toSession.ticked) hd
      fun st hst => h ⟨st, hst⟩
    rw [connect_of_error (b := { b with output }) ht]
    refine ⟨false, _, rfl, iff_of_false Bool.false_ne_true ?_, hdetached, nofun⟩
    rintro ⟨st, hst, -⟩
    exact h ⟨st, hst.resolved, hst.accepted, hst.unarmed⟩

end Bench

namespace Preflight

open Bench

/-- The plan of the check that a command line and a configuration file ask for. -/
def planned (a : CommandLine.Arguments) (file : Option ConfigFile) : Except Fault SmokePlan :=
  planOf (recordsOf a (smokeConfig file)) (smokeConfig file)

end Preflight

end CrudBench
