import CrudBench.Proofs.Query.Term
import CrudBench.Proofs.Request
import CrudBench.Server.Script

/-!
# Queries over an open connection

What a client that is connected does to its server: it sends queries, stays connected, and is never
told that there is no connection (`Session.Live`). Whatever a connected backend does with records or
with its schema is made of such queries.
-/

namespace CrudBench

/-! ## Whatever is made of queries -/

namespace WireClient

/-- Sending keeps `I`, and what comes back is in `R`. An error that is in `R` fails in `F`, and so
does what fails without being sent. -/
structure Sending (I : Side → Prop) (R : Except DriverError Value → Prop) (F : Fault → Prop) :
    Prop where
  send : ∀ t, Action.Keeps I R F (send t)
  failure : ∀ {e}, R (.error e) → F (failure e)
  unbuilt : F (.driver .tooDeep)
  uncreated : R (.error .tooDeep)
  misfit : ∀ e, F (.misfit e)

namespace Sending

variable {I : Side → Prop} {R : Except DriverError Value → Prop} {F : Fault → Prop}
  (h : Sending I R F)

include h

section Query

variable {q : Query} (hq : Yields (fun _ => True) (· = .tooDeep) q.term)

include hq

lemma keeps_built : Action.Keeps I (fun _ => True) F (built q) := by
  rw [built]
  cases ht : q.term with
  | ok t => exact Action.keeps_pure trivial
  | error e =>
    rw [ht] at hq
    refine Action.keeps_throw ?_
    rw [show e = .tooDeep from hq]
    exact h.unbuilt

lemma keeps_run : Action.Keeps I (fun _ => True) F (run q) := by
  refine (h.keeps_built hq).bind fun t _ => (h.send t).bind fun r hr => ?_
  cases r with
  | ok v => exact Action.keeps_pure trivial
  | error e => exact Action.keeps_throw (h.failure hr)

lemma keeps_lookup : Action.Keeps I (fun _ => True) F (lookup q) := by
  refine (h.keeps_built hq).bind fun t _ => (h.send t).bind fun r hr => ?_
  cases r with
  | ok v => exact Action.keeps_pure trivial
  | error e =>
    dsimp only
    split
    · exact Action.keeps_pure trivial
    · exact Action.keeps_throw (h.failure hr)

lemma keeps_listing : Action.Keeps I (fun _ => True) F (listing q) := by
  refine (h.keeps_run hq).bind fun v _ => ?_
  rw [items]
  split
  · exact Action.keeps_pure trivial
  · exact Action.keeps_throw (h.misfit _)

omit hq in
/-- What a creation makes of a reply keeps everything. -/
lemma keeps_created {r : Except DriverError Value} (hr : R r) :
    Action.Keeps I (fun _ => True) F (match r with
      | .ok _ => return true
      | .error e => if alreadyExists e then return false else throw (WireClient.failure e)) := by
  cases r with
  | ok v => exact Action.keeps_pure trivial
  | error e =>
    dsimp only
    split
    · exact Action.keeps_pure trivial
    · exact Action.keeps_throw (h.failure hr)

lemma keeps_creation : Action.Keeps I (fun _ => True) F (creation q) := by
  rw [creation]
  cases ht : q.term with
  | ok t => exact (h.send t).bind fun _ hr => h.keeps_created hr
  | error e =>
    rw [ht] at hq
    -- what cannot be built is taken for a reply here
    refine (Action.keeps_pure ?_).bind fun _ hr => h.keeps_created hr
    rw [show e = .tooDeep from hq]
    exact h.uncreated

end Query

/-- Answering a call keeps what sending keeps. -/
lemma keeps_ask (c : Call) : Action.Keeps I (fun _ => True) F (ask c) := by
  have hq := c.yields_query
  cases c with
  | databaseList | tableList | between => exact h.keeps_listing hq
  | databaseCreate | tableCreate => exact h.keeps_creation hq
  | tableWait => exact (h.keeps_run hq).bind fun _ _ => Action.keeps_pure trivial
  | get => exact h.keeps_lookup hq
  | update | insert | delete => exact h.keeps_run hq

end Sending

end WireClient

/-! ## Live connections -/

/-- The answer is not that there is no connection to ask on. -/
def Sound (r : Except DriverError Value) : Prop := r ≠ .error .noConnection

namespace WireClient

/-- The second side has come from the first by queries over a connection that is open. -/
structure Live (l₀ l : Side) : Prop where
  isOpen : l.near.isOpen = true
  replies : ∀ r ∈ l.far.replies, Sound r
  closeError : l.far.closeError = l₀.far.closeError
  trace : ∃ ts : List Term, l.far.trace = l₀.far.trace ++ ts.map .query

variable {l₀ : Side}

lemma keeps_takeReply : Action.Keeps (Live l₀) Sound Fault.Sound takeReply := by
  intro l hl
  rw [takeReply, Action.bind_apply, Action.get_apply]
  dsimp only
  cases hr : l.far.replies with
  | nil => exact ⟨hl, nofun⟩
  | cons r rs =>
    have hrs := hl.replies
    rw [hr] at hrs
    exact ⟨⟨hl.isOpen, fun x hx => hrs x (List.mem_cons_of_mem _ hx), hl.closeError, hl.trace⟩,
      hrs r List.mem_cons_self⟩

lemma keeps_record (t : Term) :
    Action.Keeps (Live l₀) (fun _ => True) Fault.Sound (record (.query t)) := by
  intro l hl
  obtain ⟨ts, hts⟩ := hl.trace
  refine ⟨⟨hl.isOpen, hl.replies, hl.closeError, ts ++ [t], ?_⟩, trivial⟩
  show l.far.trace ++ [.query t] = _
  rw [hts, List.map_append, List.append_assoc]
  rfl

lemma keeps_send (t : Term) : Action.Keeps (Live l₀) Sound Fault.Sound (send t) := by
  refine Action.keeps_get.bind fun l hl => ?_
  rw [if_pos hl.isOpen]
  split
  · exact (keeps_record t).bind fun _ _ => keeps_takeReply
  · exact Action.keeps_pure nofun

/-- An error that is not that there is no connection fails soundly. -/
lemma sound_failure {e : DriverError} (h : e ≠ .noConnection) : (failure e).Sound := by
  intro he
  refine h (Option.some.inj ?_)
  rw [← he, failure]
  split <;> rfl

/-- Sending keeps a connection live. -/
lemma Live.sending (l₀ : Side) : Sending (Live l₀) Sound Fault.Sound where
  send := keeps_send
  failure hr := sound_failure fun he => hr (congrArg _ he)
  unbuilt := nofun
  uncreated := nofun
  misfit _ := nofun

end WireClient

/-! ## Sessions -/

namespace Session

/-- The second session has come from the first by queries over a connection that is open. -/
structure Live (s t : Session WireClient Server) : Prop where
  connected : t.connected = s.connected
  settings : t.settings = s.settings
  host : t.host = s.host
  link : WireClient.Live ⟨s.client, s.far⟩ ⟨t.client, t.far⟩
  log : ∀ e ∈ t.log, e.Sound

namespace Live

variable {s : Session WireClient Server}

/-- Asking keeps a session live. -/
lemma keeps_ask (c : Call) : Action.Keeps s.Live (fun _ => True) Fault.Sound (ask c) :=
  keeps_viaClient ((WireClient.Live.sending _).keeps_ask c) (fun _ ht => ht.link)
    fun _ _ ht hl => ⟨ht.connected, ht.settings, ht.host, hl, ht.log⟩

/-- Whatever is made of queries keeps a session live. -/
lemma stable (s : Session WireClient Server) : Stable s.Live Fault.Sound where
  ticked ht := ⟨ht.connected, ht.settings, ht.host, ht.link, ht.log⟩
  logged := by
    refine fun ht he => ⟨ht.connected, ht.settings, ht.host, ht.link, fun x hx => ?_⟩
    rcases List.mem_append.1 hx with hx | hx
    · exact ht.log x hx
    · cases List.mem_singleton.1 hx
      exact he
  ask := keeps_ask
  misfit _ := nofun
  rejected _ _ := nofun

end Live

end Session

end CrudBench
