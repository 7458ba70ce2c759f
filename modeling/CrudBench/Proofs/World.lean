import CrudBench.Proofs.Command
import CrudBench.World

/-!
# Worlds in motion

A world takes one turn after the other. Backends join it and are told what to do; between that their
clients may be equipped anew, and what they share may change by itself. What backends were told to
do is a list of episodes, and what holds of every episode is told from what a turn preserves
(`World.forall_run`).
-/

namespace CrudBench

/-- What can happen in a world. -/
inductive Turn (κ ω : Type) where
  /-- A backend joins. -/
  | join (config : Properties) (client : κ)
  /-- A backend is told to do something. -/
  | tell (i : Nat) (c : Command)
  /-- A client is equipped anew. -/
  | equip (i : Nat) (f : κ → κ)
  /-- What lies beyond the clients changes. -/
  | renew (f : ω → ω)
  /-- The environment and the variables file change. -/
  | surround (environment : Environment) (file : VariablesFile)

/-- One thing that a backend was told to do: where it started, what came of it, and where it ended.
-/
structure Episode (κ ω : Type) where
  backend : Nat
  command : Command
  before : Session κ ω
  result : Except Fault Response
  after : Session κ ω

variable {κ ω : Type}

/-! ## Backends in a world -/

namespace World

variable {w : World κ ω} {i : Nat}

lemma session?_eq_some {s : Session κ ω} :
    w.session? i = some s ↔ w.backends[i]? = some s.toBackend ∧ w.site = s.toSite := by
  rw [session?, Option.map_eq_some_iff]
  constructor
  · rintro ⟨b, hb, rfl⟩
    exact ⟨hb, rfl⟩
  · rintro ⟨hb, hs⟩
    exact ⟨s.toBackend, hb, by rw [hs]⟩

lemma act_eq {α : Type} (w : World κ ω) (i : Nat) (x : Action (Session κ ω) α) :
    w.act i x = (w.session? i).map fun s => ((x.outcome s).1, w.absorb i (x.outcome s).2) := by
  rw [act]
  congr 1
  funext s
  rw [Action.outcome]
  cases x s <;> rfl

/-- After a session every backend is as it was but the one at work, and finds what the session has
left. -/
lemma session?_absorb {s : Session κ ω} (h : w.session? i = some s) (t : Session κ ω) (j : Nat) :
    (w.absorb i t).session? j =
      if j = i then some t else (w.session? j).map fun u => ⟨u.toBackend, t.toSite⟩ := by
  obtain ⟨hb, -⟩ := session?_eq_some.1 h
  obtain ⟨hi, -⟩ := List.getElem?_eq_some_iff.1 hb
  rw [session?, session?, absorb, List.getElem?_set]
  by_cases hj : j = i
  · subst hj
    simp [hi]
  · rw [if_neg hj, if_neg (Ne.symm hj), Option.map_map]
    rfl

end World

variable [Client κ ω]

/-! ## Turns -/

/-- What comes of telling a backend something. -/
def Command.episode (c : Command) (i : Nat) (s : Session κ ω) : Episode κ ω :=
  ⟨i, c, s, (c.act.outcome s).1, (c.act.outcome s).2⟩

lemma Command.episode_init (i : Nat) (s : Session κ ω) :
    Command.init.episode i s = ⟨i, .init, s, ((Session.init : Action (Session κ ω) Unit).outcome
      s).1.map fun _ => .done, ((Session.init : Action (Session κ ω) Unit).outcome s).2⟩ := by
  have h : (Command.init.act : Action (Session κ ω) Response).outcome s = _ :=
    Action.outcome_map Session.init (fun _ => Response.done) s
  rw [episode, h]

lemma Command.episode_request (r : Request) (i : Nat) (s : Session κ ω) :
    (Command.request r).episode i s = ⟨i, .request r, s,
      ((r.perform : Action (Session κ ω) Outcome).outcome s).1.map .outcome,
      ((r.perform : Action (Session κ ω) Outcome).outcome s).2⟩ := by
  have h : ((Command.request r).act : Action (Session κ ω) Response).outcome s = _ :=
    Action.outcome_map r.perform Response.outcome s
  rw [episode, h]

namespace World

/-- The world after a turn. -/
def step (w : World κ ω) : Turn κ ω → World κ ω
  | .join config client => w.add (.new config client)
  | .tell i c => ((w.act i c.act).map (·.2)).getD w
  | .equip i f =>
    { w with backends := w.backends.modify i fun b => { b with client := f b.client } }
  | .renew f => { w with site.far := f w.site.far }
  | .surround environment file =>
    { w with site := { w.site with environment := environment, file := file } }

/-- The episode that a turn is. -/
def episode? (w : World κ ω) : Turn κ ω → Option (Episode κ ω)
  | .tell i c => (w.session? i).map (c.episode i)
  | _ => none

/-- The episodes of turns, one after the other. -/
def run : List (Turn κ ω) → World κ ω → List (Episode κ ω)
  | [], _ => []
  | x :: xs, w => (w.episode? x).toList ++ run xs (w.step x)

/-- The world after turns, one after the other. -/
def after (xs : List (Turn κ ω)) (w : World κ ω) : World κ ω := xs.foldl step w

variable {w : World κ ω} {i : Nat} {c : Command}

/-- A backend that is there has an episode, and the world goes on from its end. -/
lemma step_tell {s : Session κ ω} (h : w.session? i = some s) (c : Command) :
    w.step (.tell i c) = w.absorb i (c.episode i s).after := by
  rw [step, act_eq, h]
  rfl

lemma step_tell_of_none (h : w.session? i = none) (c : Command) : w.step (.tell i c) = w := by
  rw [step, act_eq, h]
  rfl

lemma after_append (xs ys : List (Turn κ ω)) (w : World κ ω) :
    w.after (xs ++ ys) = (w.after xs).after ys := List.foldl_append

lemma length_step (w : World κ ω) (x : Turn κ ω) :
    w.backends.length ≤ (w.step x).backends.length := by
  cases x with
  | join config c => simp [step, add]
  | equip i f => simp [step]
  | tell i c =>
    cases hs : w.session? i with
    | none => simp [step_tell_of_none hs]
    | some s => simp [step_tell hs, absorb]
  | _ => exact Nat.le_refl _

/-- Where an episode stands in a run, a backend was told something. -/
lemma run_eq_append {xs : List (Turn κ ω)} {before after : List (Episode κ ω)} {e : Episode κ ω}
    (h : run xs w = before ++ e :: after) :
    ∃ ys zs i c s, xs = ys ++ .tell i c :: zs ∧ run ys w = before ∧
      (w.after ys).session? i = some s ∧ e = c.episode i s := by
  induction xs generalizing w before with
  | nil => simp [run] at h
  | cons x xs ih =>
    rw [run] at h
    -- either the episode is the one of this turn, or it comes in a later one
    cases hx : w.episode? x with
    | none =>
      rw [hx] at h
      obtain ⟨ys, zs, i, c, s, rfl, hr, hs, he⟩ := ih h
      exact ⟨x :: ys, zs, i, c, s, rfl, by rw [run, hx]; exact hr, hs, he⟩
    | some f =>
      rw [hx] at h
      cases before with
      | nil =>
        obtain ⟨rfl, -⟩ := List.cons.inj h
        cases x with
        | tell i c =>
          obtain ⟨s, hs, rfl⟩ := Option.map_eq_some_iff.1 hx
          exact ⟨[], xs, i, c, s, rfl, rfl, hs, rfl⟩
        | _ => cases hx
      | cons g before =>
        obtain ⟨rfl, hrest⟩ := List.cons.inj h
        obtain ⟨ys, zs, i, c, s, rfl, hr, hs, he⟩ := ih hrest
        exact ⟨x :: ys, zs, i, c, s, rfl, by rw [run, hx, hr]; rfl, hs, he⟩

/-- What every backend keeps for its whole life holds after a turn, if it holds of a backend that
joins, and of one whose client is equipped anew. -/
lemma step_backends {P : Nat → Backend κ → Prop}
    (h : ∀ j, Session.Enduring fun s : Session κ ω => P j s.toBackend)
    (hw : ∀ j b, w.backends[j]? = some b → P j b) {x : Turn κ ω}
    (hx : match x with
      | .join config c => P w.backends.length (.new config c)
      | .equip i f => ∀ b, P i b → P i { b with client := f b.client }
      | _ => True) : ∀ j b, (w.step x).backends[j]? = some b → P j b := by
  intro j b hb
  cases x with
  | join config c =>
    simp only [step, add, List.getElem?_append] at hb
    split at hb
    · exact hw j b hb
    next hj =>
      obtain ⟨hlt, rfl⟩ := List.getElem?_eq_some_iff.1 hb
      rw [List.length_singleton] at hlt
      obtain rfl : j = w.backends.length := by omega
      simpa using hx
  | tell i c =>
    cases hs : w.session? i with
    | none =>
      rw [step_tell_of_none hs] at hb
      exact hw j b hb
    | some s =>
      rw [step_tell hs] at hb
      simp only [absorb, List.getElem?_set] at hb
      by_cases hj : i = j
      · subst hj
        rw [if_pos rfl] at hb
        split at hb <;> cases hb
        exact ((h i).keeps_act c).outcome (hw i _ (session?_eq_some.1 hs).1)
      · rw [if_neg hj] at hb
        exact hw j b hb
  | equip i f =>
    simp only [step, List.getElem?_modify] at hb
    obtain ⟨a, ha, rfl⟩ := Option.map_eq_some_iff.1 hb
    by_cases hj : i = j
    · subst hj
      rw [if_pos rfl]
      exact hx a (hw i a ha)
    · rw [if_neg hj]
      exact hw j a ha
  | _ => exact hw j b hb

/-- What every backend keeps of what lies beyond its client holds after a turn, if it holds after
changes that happen by themselves. -/
lemma step_far {P : ω → Prop} (h : Session.Enduring fun s : Session κ ω => P s.far)
    (hw : P w.site.far) {x : Turn κ ω}
    (hx : match x with
      | .renew f => ∀ a, P a → P (f a)
      | _ => True) : P (w.step x).site.far := by
  cases x with
  | renew f => exact hx _ hw
  | tell i c =>
    cases hs : w.session? i with
    | none =>
      rw [step_tell_of_none hs]
      exact hw
    | some s =>
      rw [(session?_eq_some.1 hs).2] at hw
      rw [step_tell hs]
      exact (h.keeps_act c).outcome hw
  | _ => exact hw

/-- An invariant that every turn of a kind preserves holds after all turns of that kind, and what it
says of every episode holds of all their episodes. -/
theorem forall_run {I : World κ ω → Prop} {P : Turn κ ω → Prop} {Q : Episode κ ω → Prop}
    (hstep : ∀ w x, I w → P x → I (w.step x))
    (hepisode : ∀ w i (c : Command) s, I w → w.session? i = some s → Q (c.episode i s))
    (hw : I w) {xs : List (Turn κ ω)} (hxs : ∀ x ∈ xs, P x) :
    I (w.after xs) ∧ ∀ e ∈ run xs w, Q e := by
  induction xs generalizing w with
  | nil => exact ⟨hw, List.forall_mem_nil _⟩
  | cons x xs ih =>
    obtain ⟨hx, hxs⟩ := List.forall_mem_cons.1 hxs
    obtain ⟨ha, hq⟩ := ih (w := w.step x) (hstep w x hw hx) hxs
    refine ⟨ha, fun e he => ?_⟩
    rcases List.mem_append.1 he with he | he
    · have he := Option.mem_toList.1 he
      cases x with
      | tell i c =>
        obtain ⟨s, hs, rfl⟩ := Option.map_eq_some_iff.1 he
        exact hepisode w i c s hw hs
      | _ => cases he
    · exact hq e he

end World

end CrudBench
