import CrudBench.Proofs.Asking
import CrudBench.Store.Client
import Mathlib.Logic.Function.Iterate

/-!
# The timing of requests

Nothing but requests reads the clock of a site. A request that is decided without its client never
reads it, and changes nothing at all. Any other that returns has asked its client once, and has read
the clock once before that and once afterwards, however it ends. So the readings can be told apart:
of all requests of all backends the `j`-th one that reaches a client is timed by the readings
`2 * j` and `2 * j + 1` (`World.latencies_run`).
-/

namespace CrudBench

/-- What a clock shows at its `n`-th reading from now on, where the next one is the reading 0. -/
def Clock.reading (c : Clock) (n : Nat) : Float := (advance^[n] c).read.1

lemma Clock.advance_iterate (c : Clock) (n : Nat) : (advance^[n] c).advance = advance^[n + 1] c :=
  (Function.iterate_succ_apply' advance n c).symm

lemma Clock.taken_iterate (c : Clock) (n : Nat) : (advance^[n] c).taken = c.taken + n := by
  induction n with
  | zero => rfl
  | succ n ih =>
    rw [← advance_iterate, advance]
    exact congrArg (· + 1) ih

/-! ## Other commands -/

namespace Session

variable {κ ω : Type} [Client κ ω] (c : Clock)

lemma keeps_clock_cleanup : Action.Keeps (fun s : Session κ ω => s.clock = c) (fun _ => True)
    (fun _ => True) cleanup :=
  keeps_cleanup (keeps_viaClient_of_linked (fun _ hs => hs) Client.close) fun _ hs => hs

lemma keeps_clock_bootstrap (st : Settings) :
    Action.Keeps (fun s : Session κ ω => s.clock = c) (fun _ => True) (fun _ => True)
      (bootstrap st) :=
  keeps_bootstrap (keeps_ensureSchema (fun hs _ => hs)
    (fun _ _ => keeps_viaClient_of_linked (fun _ hs => hs) _) st) (keeps_clock_cleanup c)

lemma keeps_clock_init : Action.Keeps (fun s : Session κ ω => s.clock = c) (fun _ => True)
    (fun _ => True) init := by
  intro s hs
  rw [init_apply]
  cases s.resolved with
  | error e => exact ⟨hs, trivial⟩
  | ok st =>
    dsimp only
    cases Client.connect (s.endpoint st) ⟨s.client, s.far⟩ with
    | error e l => exact ⟨hs, trivial⟩
    | ok a l => exact keeps_clock_bootstrap c st ((s.connecting st).opened l) hs

/-- Nothing but requests reads the clock. -/
lemma keeps_clock_act {x : Command} (hx : x.isRequest = false) :
    Action.Keeps (fun s : Session κ ω => s.clock = c) (fun _ => True) (fun _ => True) x.act := by
  cases x with
  | init => exact (keeps_clock_init c).bind fun _ _ => Action.keeps_pure trivial
  | cleanup => exact (keeps_clock_cleanup c).bind fun _ _ => Action.keeps_pure trivial
  | info =>
    refine Action.Keeps.bind (P := fun _ => True) ?_ fun _ _ => Action.keeps_pure trivial
    exact Action.keeps_get.bind fun _ _ =>
      Action.keeps_given (fun _ _ => trivial) fun _ => trivial
  | request r => cases hx

end Session

/-! ## Runs -/

namespace Episode

variable {κ ω : Type}

/-- The request was decided without its client. It took no time, and has changed nothing; the clock
was not read. -/
structure Idle (e : Episode κ ω) : Prop where
  latency : e.outcome?.map Outcome.latency = some .zero
  after : e.after = e.before

/-- The request was the `j`-th that reached a client since a clock was `c`. It was carried out with
one call, and was timed by the readings `2 * j` and `2 * j + 1`, the only ones that it has taken. -/
structure Paced [Client κ ω] (c : Clock) (j : Nat) (e : Episode κ ω) : Prop where
  before : e.before.clock = Clock.advance^[2 * j] c
  after : e.after.clock = Clock.advance^[2 * (j + 1)] c
  latency : e.outcome?.map Outcome.latency =
    some (.real (elapsedMs (c.reading (2 * j)) (c.reading (2 * j + 1))))
  call : ∃ x, Link.mk e.after.client e.after.far =
    ((Client.ask x).outcome ⟨e.before.client, e.before.far⟩).2

end Episode

namespace Command

variable {κ ω : Type} [Client κ ω] {x : Command} {i : Nat} {s : Session κ ω}

/-- A request that has not raised has returned an outcome. -/
lemma exists_outcome (hx : x.isRequest = true) (h : (x.episode i s).raises = false) :
    ∃ o, (x.episode i s).outcome? = some o := by
  have hr : ((x.episode i s).raises) = (x.isRequest && (x.episode i s).outcome?.isNone) := rfl
  rw [hr, hx, Bool.true_and, Option.isNone_eq_false_iff] at h
  exact Option.isSome_iff_exists.1 h

/-- A request that does not reach its client is idle. -/
lemma idle_episode (hx : x.isRequest = true) (h : (x.episode i s).raises = false)
    (hr : (x.episode i s).reaches = false) : (x.episode i s).Idle := by
  obtain ⟨o, ho⟩ := exists_outcome hx h
  obtain ⟨r, rfl, ⟨hskip, hafter⟩ | ⟨hreaches, -⟩⟩ := outcome_cases ho
  · exact ⟨by rw [ho, Option.map_some, (Request.skipped_cases hskip).1], hafter⟩
  · rw [hr] at hreaches
    cases hreaches

/-- What does not reach a client leaves the clock alone. -/
lemma clock_episode (h : (x.episode i s).raises = false) (hr : (x.episode i s).reaches = false) :
    (x.episode i s).after.clock = s.clock := by
  cases hx : x.isRequest with
  | true =>
    rw [(idle_episode hx h hr).after]
    rfl
  | false => exact (Session.keeps_clock_act s.clock hx).outcome rfl

/-- A request that reaches its client reads the clock twice. -/
lemma paced_episode {c : Clock} {j : Nat} (hs : s.clock = Clock.advance^[2 * j] c)
    (h : (x.episode i s).raises = false) (hr : (x.episode i s).reaches = true) :
    (x.episode i s).Paced c j := by
  have hreaches : (x.isRequest && (x.episode i s).skipped?.isNone) = true := hr
  obtain ⟨hx, hnone⟩ := Bool.and_eq_true_iff.1 hreaches
  obtain ⟨o, ho⟩ := exists_outcome hx h
  obtain ⟨r, rfl, ⟨hskip, -⟩ | ⟨-, y, -, ha⟩⟩ := outcome_cases ho
  · rw [hskip] at hnone
    cases hnone
  · refine ⟨hs, ?_, ?_, y, ha.link⟩
    · rw [ha.clock, hs, Clock.advance_iterate, Clock.advance_iterate]
      rfl
    · rw [ho, Option.map_some, ha.latency, hs, Clock.advance_iterate]
      rfl

end Command

namespace World

variable {κ ω : Type} [Client κ ω]

/-- The requests of a run that reach their clients, in their order. -/
def reached (xs : List (Turn κ ω)) (w : World κ ω) : List (Episode κ ω) :=
  (run xs w).filter Episode.reaches

/-- A turn without an episode leaves the clock alone. -/
lemma clock_step_of_none {w : World κ ω} {x : Turn κ ω} (h : w.episode? x = none) :
    (w.step x).site.clock = w.site.clock := by
  cases x with
  | tell i c => rw [step_tell_of_none (Option.map_eq_none_iff.1 h)]
  | _ => rfl

/-- A turn with an episode leaves the clock as the episode does. -/
lemma clock_step_of_some {w : World κ ω} {x : Turn κ ω} {e : Episode κ ω}
    (h : w.episode? x = some e) :
    e.before.clock = w.site.clock ∧ (w.step x).site.clock = e.after.clock ∧
      ∃ (c : Command) (i : Nat), e = c.episode i e.before := by
  cases x with
  | tell i c =>
    obtain ⟨s, hs, rfl⟩ := Option.map_eq_some_iff.1 h
    refine ⟨?_, by rw [step_tell hs]; rfl, c, i, rfl⟩
    rw [(session?_eq_some.1 hs).2]
    rfl
  | _ => cases h

/-- Wherever the clock stands after an even number of readings, the requests that reach their
clients go on from there. -/
lemma paced_run {c : Clock} {j : Nat} {xs : List (Turn κ ω)} {w : World κ ω}
    (hw : w.site.clock = Clock.advance^[2 * j] c) (h : ∀ e ∈ run xs w, e.raises = false) :
    (∀ k (e : Episode κ ω), (reached xs w)[k]? = some e → e.Paced c (j + k)) ∧
      (w.after xs).site.clock = Clock.advance^[2 * (j + (reached xs w).length)] c := by
  induction xs generalizing j w with
  | nil => exact ⟨fun k e he => (nomatch he), hw⟩
  | cons x xs ih =>
    rw [reached, run, List.filter_append, ← reached]
    rw [run] at h
    have hrest : ∀ e ∈ run xs (w.step x), e.raises = false := fun e he =>
      h e (List.mem_append_right _ he)
    cases hx : w.episode? x with
    | none => exact ih (clock_step_of_none hx ▸ hw) hrest
    | some e =>
      obtain ⟨hbefore, hafter, d, i, he⟩ := clock_step_of_some hx
      have hraises : e.raises = false := h e (List.mem_append_left _ (by rw [hx]; exact .head _))
      rw [he] at hraises
      cases hr : e.reaches with
      | false =>
        rw [Option.toList_some, List.filter_cons_of_neg (by simp [hr]), List.filter_nil]
        refine ih ?_ hrest
        rw [hafter, he, Command.clock_episode hraises (he ▸ hr), hbefore, hw]
      | true =>
        have hp : e.Paced c j :=
          he ▸ Command.paced_episode (hbefore.trans hw) hraises (he ▸ hr)
        obtain ⟨hpaced, hclock⟩ := ih (hafter.trans hp.after) hrest
        rw [Option.toList_some, List.filter_cons_of_pos hr, List.filter_nil]
        refine ⟨fun k f hf => ?_, ?_⟩
        · cases k with
          | zero =>
            cases hf
            exact hp
          | succ k =>
            have := hpaced k f hf
            rwa [Nat.add_right_comm] at this
        · rw [List.singleton_append, List.length_cons, Nat.add_comm _ 1, ← Nat.add_assoc]
          exact hclock

end World

end CrudBench
