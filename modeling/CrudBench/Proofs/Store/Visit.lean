import CrudBench.Proofs.Store.Effect
import CrudBench.Proofs.World

/-!
# Visits to a store

What can happen around a store in memory: backends join, are told what to do, and their clients are
armed or equipped anew. Whatever happens, tables of records stay such (`Visit.rowed_after`), and
every backend is connected exactly when its client is, and then has settings
(`Visit.sound_after`).
-/

namespace CrudBench

/-- What can happen around a store. -/
inductive Visit where
  /-- A backend joins, whose connections may be refused and who may find others to be first. -/
  | join (config : Properties) (refuses : Bool) (races : List String)
  /-- A backend is told to do something. -/
  | tell (i : Nat) (c : Command)
  /-- The next call of a backend's client fails with a message; null takes that back. -/
  | arm (i : Nat) (message : Value)
  /-- Connections of a backend are refused or accepted from now on, and others are first. -/
  | equip (i : Nat) (refuses : Bool) (races : List String)
  /-- The environment and the variables file change. -/
  | surround (environment : Environment) (file : VariablesFile)

/-- The visit as a turn. -/
def Visit.turn : Visit → Turn StoreClient Store
  | join config refuses races => .join config (.new refuses races)
  | tell i c => .tell i c
  | arm i message => .equip i (·.arm message)
  | equip i refuses races => .equip i fun c => { c with refuses := refuses, races := races }
  | surround environment file => .surround environment file

/-- The backend is armed or disarmed. -/
def Visit.Arms (i : Nat) : Visit → Prop
  | arm j _ => j = i
  | _ => False

/-- The world after visits to a store that no backend has visited before. -/
def World.visited (site : Site Store) (vs : List Visit) : World StoreClient Store :=
  after (vs.map Visit.turn) ⟨[], site⟩

lemma World.visited_append (site : Site Store) (vs vs' : List Visit) :
    visited site (vs ++ vs') = (visited site vs).after (vs'.map Visit.turn) := by
  rw [visited, List.map_append, after_append]
  rfl

/-! ## What endures -/

namespace Session

open Action

/-- The invariant outlasts whatever happens to a session over a store: time, entries in the log, the
loading of the variables file, calls, connecting and closing. -/
structure Lasting (I : Session StoreClient Store → Prop) : Prop where
  ticked : ∀ {s}, I s → I s.ticked
  logged : ∀ {s} e, I s → I (s.logged e)
  loaded : ∀ {s}, I s → I s.loaded
  asked : ∀ {s} {c : Call} {dbs}, I s →
    dbs = s.far.databases ∨ c.Changes s.far.databases dbs →
    I (s.linked ⟨{ s.client with armed := none }, s.far.called c dbs⟩)
  closed : ∀ {s}, I s →
    I { s with connected := false, client := { s.client with isOpen := false } }
  dialled : ∀ {s} st, I s →
    I ((s.connecting st).linked ⟨s.client, s.far.dialled (s.endpoint st)⟩)
  opened : ∀ {s} st, I s →
    I ((s.connecting st).opened ⟨{ s.client with isOpen := true }, s.far.dialled (s.endpoint st)⟩)

lemma Lasting.enduring {I : Session StoreClient Store → Prop} (h : Lasting I) : Enduring I where
  ticked := h.ticked
  logged hs _ := h.logged _ hs
  misfit _ := trivial
  rejected _ _ := trivial
  ask c := by
    refine keeps_of_outcome fun s hs => ?_
    obtain ⟨dbs, hx, hd⟩ := StoreClient.ask_ends c ⟨s.client, s.far⟩
    have hend : ((ask c : Action (Session StoreClient Store) c.Answer).outcome s).2 =
        s.linked ((StoreClient.ask c).outcome ⟨s.client, s.far⟩).2 := by
      show ((viaClient (StoreClient.ask c)).outcome s).2 = _
      rw [outcome, outcome, viaClient_apply]
      cases StoreClient.ask c ⟨s.client, s.far⟩ <;> rfl
    rw [hend, hx]
    exact h.asked hs hd
  closed := by
    refine keeps_of_outcome fun s hs => ?_
    have hc := h.closed hs
    rw [outcome, cleanup_apply]
    -- a client without a connection cannot close it, and is left as if it had
    obtain ⟨⟨config, settings, host, connected, ⟨isOpen, refuses, armed, races⟩⟩, site⟩ := s
    cases isOpen <;> exact hc
  loaded := h.loaded
  refused := by
    intro s st e l hs (hx : StoreClient.connect (s.endpoint st) ⟨s.client, s.far⟩ = .error e l)
    rw [StoreClient.connect_apply] at hx
    split at hx <;> cases hx
    exact h.dialled st hs
  accepted := by
    intro s st l hs (hx : StoreClient.connect (s.endpoint st) ⟨s.client, s.far⟩ = .ok () l)
    rw [StoreClient.connect_apply] at hx
    split at hx <;> cases hx
    exact h.opened st hs

lemma lasting_rowed :
    Lasting fun s : Session StoreClient Store => Databases.Rowed s.far.databases where
  ticked h := h
  logged _ h := h
  loaded h := h
  asked h hd := by
    obtain rfl | hd := hd
    · exact h
    · exact hd.rowed h
  closed h := h
  dialled _ h := h
  opened _ h := h

lemma lasting_unarmed (i j : Nat) :
    Lasting fun s : Session StoreClient Store => j = i → s.client.armed = none where
  ticked h := h
  logged _ h := h
  loaded h := h
  asked _ _ _ := rfl
  closed h := h
  dialled _ h := h
  opened _ h := h

end Session

/-- The backend is connected exactly when its client is, and then it has settings. -/
structure Backend.Sound (b : Backend StoreClient) : Prop where
  isOpen : b.connected = b.client.isOpen
  settings : b.connected = true → b.settings.isSome = true

lemma Session.lasting_sound :
    Lasting fun s : Session StoreClient Store => s.toBackend.Sound where
  ticked h := h
  logged _ h := h
  loaded h := h
  asked h _ := ⟨h.isOpen, h.settings⟩
  closed _ := ⟨rfl, nofun⟩
  dialled _ h := ⟨h.isOpen, fun _ => rfl⟩
  opened _ _ := ⟨rfl, fun _ => rfl⟩

/-! ## After visits -/

namespace Visit

variable {w : World StoreClient Store}

/-- What every visit of a kind preserves holds after all visits of that kind. -/
lemma keeps_after {I : World StoreClient Store → Prop} {P : Visit → Prop}
    (hstep : ∀ w v, I w → P v → I (w.step v.turn)) (hw : I w) {vs : List Visit}
    (hvs : ∀ v ∈ vs, P v) : I (w.after (vs.map turn)) := by
  refine (World.forall_run (P := fun x => ∃ v, P v ∧ x = turn v) (Q := fun _ => True) ?_ ?_ hw ?_).1
  · rintro w _ hw ⟨v, hv, rfl⟩
    exact hstep w v hw hv
  · exact fun _ _ _ _ _ _ => trivial
  · intro x hx
    obtain ⟨v, hv, rfl⟩ := List.mem_map.1 hx
    exact ⟨v, hvs v hv, rfl⟩

/-- Tables of records stay such, whoever visits the store. -/
lemma rowed_after (hw : Databases.Rowed w.site.far.databases) (vs : List Visit) :
    Databases.Rowed (w.after (vs.map turn)).site.far.databases := by
  refine keeps_after (I := fun w => Databases.Rowed w.site.far.databases) (P := fun _ => True)
    (fun w v hw _ => ?_) hw fun _ _ => trivial
  apply World.step_far (P := Databases.Rowed ∘ Store.databases) Session.lasting_rowed.enduring hw
  cases v <;> trivial

lemma sound_nil (j : Nat) (b : Backend StoreClient) (hb : [][j]? = some b) : b.Sound := by
  rw [List.getElem?_nil] at hb
  cases hb

/-- Backends that join sound ones are sound. -/
lemma sound_step (hw : ∀ (j : Nat) b, w.backends[j]? = some b → b.Sound) (v : Visit) :
    ∀ (j : Nat) b, (w.step v.turn).backends[j]? = some b → b.Sound := by
  apply World.step_backends (P := fun _ => Backend.Sound)
    (fun _ => Session.lasting_sound.enduring) hw
  cases v with
  | join => exact ⟨rfl, nofun⟩
  | arm i message =>
    intro b hb
    refine ⟨?_, hb.settings⟩
    cases message <;> exact hb.isOpen
  | equip => exact fun b hb => ⟨hb.isOpen, hb.settings⟩
  | _ => trivial

lemma sound_after (hw : ∀ (j : Nat) b, w.backends[j]? = some b → b.Sound) (vs : List Visit) :
    ∀ (j : Nat) b, (w.after (vs.map turn)).backends[j]? = some b → b.Sound :=
  keeps_after (I := fun w => ∀ (j : Nat) b, w.backends[j]? = some b → b.Sound) (P := fun _ => True)
    (fun _ v hw _ => sound_step hw v) hw fun _ _ => trivial

/-- Once disarmed, a backend stays so until it is armed again. -/
lemma unarmed_after {i : Nat} (hw : ∀ j b, w.backends[j]? = some b → j = i → b.client.armed = none)
    {vs : List Visit} (hvs : ∀ v ∈ vs, ¬v.Arms i) :
    ∀ j b, (w.after (vs.map turn)).backends[j]? = some b → j = i → b.client.armed = none := by
  refine keeps_after
    (I := fun w => ∀ j b, w.backends[j]? = some b → j = i → b.client.armed = none)
    (fun w v hw hv => ?_) hw hvs
  apply World.step_backends (P := fun j (b : Backend StoreClient) => j = i → b.client.armed = none)
    (fun j => (Session.lasting_unarmed i j).enduring) hw
  cases v with
  | join => exact fun _ => rfl
  | arm j message => exact fun _ _ hj => absurd hj hv
  | equip => exact fun _ hb => hb
  | _ => trivial

end Visit

namespace World

variable {site : Site Store} {vs : List Visit} {i : Nat} {s : Session StoreClient Store}

lemma rowed_of_visited (hd : Databases.Rowed site.far.databases)
    (hs : (visited site vs).session? i = some s) : Databases.Rowed s.far.databases := by
  have h : Databases.Rowed (visited site vs).site.far.databases :=
    Visit.rowed_after (w := ⟨[], site⟩) hd vs
  rw [(session?_eq_some.1 hs).2] at h
  exact h

lemma sound_of_visited (hs : (visited site vs).session? i = some s) : s.toBackend.Sound :=
  Visit.sound_after (w := ⟨[], site⟩) Visit.sound_nil vs i _ (session?_eq_some.1 hs).1

end World

end CrudBench
