import CrudBench.Backend.Info
import CrudBench.Proofs.Initialisation
import CrudBench.Proofs.Request

/-!
# Commands

What a backend can be told to do from outside: to connect and to close, to tell about itself, and to
carry out requests. An invariant that outlasts connecting and closing, and whatever is made of
queries, holds for the whole life of a backend (`Session.Enduring`).
-/

namespace CrudBench

/-- What a backend can be told to do. -/
inductive Command where
  | init
  | cleanup
  | info
  | request (r : Request)

/-- What a backend returns. -/
inductive Response where
  | done
  | info (i : BackendInfo)
  | outcome (o : Outcome)

/-- The command is to initialise. -/
def Command.isInit : Command → Bool
  | init => true
  | _ => false

lemma Command.eq_init {c : Command} (h : c.isInit = true) : c = init := by
  cases c with
  | init => rfl
  | _ => cases h

variable {κ ω : Type} [Client κ ω]

/-- Does what a backend is told, whatever its client is. -/
def Command.act : Command → Action (Session κ ω) Response
  | init => do
    Session.init
    return .done
  | cleanup => do
    Session.cleanup
    return .done
  | info => return .info (← Session.info)
  | request r => return .outcome (← r.perform)

namespace Session

variable {I : Session κ ω → Prop}

lemma keeps_cleanup {F : Fault → Prop}
    (hc : Action.Keeps I (fun _ => True) F (viaClient Client.close))
    (hd : ∀ s, I s → I { s with connected := false }) :
    Action.Keeps I (fun _ => True) F cleanup := by
  intro s hs
  have h := hc s hs
  rw [cleanup]
  cases hx : viaClient Client.close s with
  | ok a t | error e t =>
    rw [hx] at h
    exact ⟨hd t h.1, h.2⟩

/-- A bootstrap keeps what making a schema ready and closing keep. -/
lemma keeps_bootstrap {st : Settings}
    (hs : Action.Keeps I (fun _ => True) (fun _ => True) (ensureSchema st))
    (hc : Action.Keeps I (fun _ => True) (fun _ => True) cleanup) :
    Action.Keeps I (fun _ => True) (fun _ => True) (bootstrap st) := by
  intro s hi
  rw [bootstrap_apply]
  cases hx : ensureSchema st s with
  | ok a t => exact hs.of_ok hi hx
  | error e t =>
    have ht := hs.of_error hi hx
    cases e with
    | operation e =>
      dsimp only
      cases hu : cleanup t with
      | ok a u => exact ⟨(hc.of_ok ht.1 hu).1, trivial⟩
      | error e' u => exact ⟨(hc.of_error ht.1 hu).1, trivial⟩
    | _ => exact ht

/-- Whatever a backend is told but to initialise itself keeps what queries and closing keep. -/
lemma Stable.keeps_act (h : Stable I fun _ => True)
    (hc : Action.Keeps I (fun _ => True) (fun _ => True) cleanup) {c : Command} (hne : c ≠ .init) :
    Action.Keeps I (fun _ => True) (fun _ => True) c.act := by
  cases c with
  | init => exact absurd rfl hne
  | cleanup => exact hc.bind fun _ _ => Action.keeps_pure trivial
  | info =>
    refine Action.Keeps.bind (P := fun _ => True) ?_ fun _ _ => Action.keeps_pure trivial
    exact Action.keeps_get.bind fun _ _ => h.keeps_given _
  | request r => exact (h.keeps_perform r).bind fun _ _ => Action.keeps_pure trivial

/-- The invariant holds for the whole life of a backend: it is kept by whatever is made of queries,
by closing, and by connecting, whether that is accepted or refused. -/
structure Enduring (I : Session κ ω → Prop) : Prop extends Stable I fun _ => True where
  closed : Action.Keeps I (fun _ => True) (fun _ => True) cleanup
  loaded : ∀ {s}, I s → I s.loaded
  refused : ∀ {s} st {e l}, I s → Client.connect (s.endpoint st) ⟨s.client, s.far⟩ = .error e l →
    I ((s.connecting st).linked l)
  accepted : ∀ {s} st {l}, I s → Client.connect (s.endpoint st) ⟨s.client, s.far⟩ = .ok () l →
    I ((s.connecting st).opened l)

namespace Enduring

variable (h : Enduring I)

include h

lemma keeps_init : Action.Keeps I (fun _ => True) (fun _ => True) init := by
  intro s hs
  rw [init_apply]
  cases s.resolved with
  | error e => exact ⟨h.loaded hs, trivial⟩
  | ok st =>
    dsimp only
    cases hx : Client.connect (s.endpoint st) ⟨s.client, s.far⟩ with
    | error e l => exact ⟨h.refused st hs hx, trivial⟩
    | ok a l =>
      exact keeps_bootstrap (h.toStable.keeps_ensureSchema st) h.closed _ (h.accepted st hs hx)

/-- Whatever a backend is told keeps what endures. -/
theorem keeps_act (c : Command) : Action.Keeps I (fun _ => True) (fun _ => True) c.act := by
  cases c with
  | init => exact h.keeps_init.bind fun _ _ => Action.keeps_pure trivial
  | _ => exact h.toStable.keeps_act h.closed nofun

end Enduring

end Session

end CrudBench
