import CrudBench.Backend.Records
import Mathlib.Tactic.Lemma

/-!
# Running actions

How the pieces of an action run on a state, and what a whole action keeps. An action keeps an
invariant if it ends in a state that has it whenever it starts in one, whether it returns or fails;
what it returns and how it fails can be restricted on the way (`Action.Keeps`).
-/

namespace CrudBench.Action

variable {σ α β : Type}

@[simp]
lemma pure_apply (a : α) (s : σ) : (pure a : Action σ α) s = .ok a s := rfl

@[simp]
lemma throw_apply (e : Fault) (s : σ) : (throw e : Action σ α) s = .error e s := rfl

/-- The second of two actions runs where the first has ended, unless that failed. -/
@[simp]
lemma bind_apply (x : Action σ α) (f : α → Action σ β) (s : σ) :
    (x >>= f) s = match x s with
      | .ok a t => f a t
      | .error e t => .error e t := by
  show EStateM.bind x f s = _
  unfold EStateM.bind
  cases x s <;> rfl

@[simp]
lemma get_apply (s : σ) : (get : Action σ σ) s = .ok s s := rfl

@[simp]
lemma modify_apply (f : σ → σ) (s : σ) : (modify f : Action σ PUnit) s = .ok () (f s) := rfl

@[simp]
lemma given_ok (a : α) : (given (.ok a) : Action σ α) = pure a := rfl

/-- What an action comes to, and the state that it reaches. -/
def outcome (x : Action σ α) (s : σ) : Except Fault α × σ :=
  match x s with
  | .ok a t => (.ok a, t)
  | .error e t => (.error e, t)

lemma outcome_bind (x : Action σ α) (f : α → Action σ β) (s : σ) :
    (x >>= f).outcome s = match x s with
      | .ok a t => (f a).outcome t
      | .error e t => (.error e, t) := by
  rw [outcome, bind_apply]
  cases x s <;> rfl

/-- Renaming what an action returns changes nothing else. -/
lemma outcome_map (x : Action σ α) (f : α → β) (s : σ) :
    (do return f (← x) : Action σ β).outcome s = ((x.outcome s).1.map f, (x.outcome s).2) := by
  rw [outcome, outcome, bind_apply]
  cases x s <;> rfl

/-- The action has returned. -/
def returned : EStateM.Result Fault σ α → Bool
  | .ok _ _ => true
  | .error _ _ => false

/-- The action keeps `I`. What it returns is in `Q`, and how it fails is in `F`. -/
def Keeps (I : σ → Prop) (Q : α → Prop) (F : Fault → Prop) (x : Action σ α) : Prop :=
  ∀ s, I s → match x s with
    | .ok a t => I t ∧ Q a
    | .error e t => I t ∧ F e

section Keeps

variable {I : σ → Prop} {P : α → Prop} {Q : β → Prop} {F : Fault → Prop}

lemma keeps_pure {a : α} (h : P a) : Keeps I P F (pure a) := fun _ hs => ⟨hs, h⟩

lemma keeps_throw {e : Fault} (h : F e) : Keeps I P F (throw e) := fun _ hs => ⟨hs, h⟩

/-- Two actions in a row keep what both keep. -/
lemma Keeps.bind {x : Action σ α} {f : α → Action σ β} (hx : Keeps I P F x)
    (hf : ∀ a, P a → Keeps I Q F (f a)) : Keeps I Q F (x >>= f) := by
  intro s hs
  have h := hx s hs
  rw [bind_apply]
  cases hxs : x s with
  | ok a t =>
    rw [hxs] at h
    exact hf a h.2 t h.1
  | error e t =>
    rw [hxs] at h
    exact h

lemma keeps_get : Keeps I I F get := fun _ hs => ⟨hs, hs⟩

/-- What is done for each of a list keeps what each of it keeps. -/
lemma keeps_forM {f : α → Action σ PUnit} (h : ∀ a, Keeps I (fun _ => True) F (f a)) (as : List α) :
    Keeps I (fun _ => True) F (as.forM f) := by
  induction as with
  | nil => exact keeps_pure trivial
  | cons a as ih => exact (h a).bind fun _ _ => ih

/-- A result that may be a misfit keeps everything. -/
lemma keeps_given {x : Except Misfit α} (h : ∀ a, x = .ok a → P a) (hF : ∀ e, F (.misfit e)) :
    Keeps I P F (given x) := by
  cases x with
  | ok a => exact keeps_pure (h a rfl)
  | error e => exact keeps_throw (hF e)

/-- What a returning action has kept. -/
lemma Keeps.of_ok {x : Action σ α} (h : Keeps I P F x) {s t : σ} {a : α} (hs : I s)
    (hx : x s = .ok a t) : I t ∧ P a := by
  have := h s hs
  rwa [hx] at this

/-- What a failing action has kept. -/
lemma Keeps.of_error {x : Action σ α} (h : Keeps I P F x) {s t : σ} {e : Fault} (hs : I s)
    (hx : x s = .error e t) : I t ∧ F e := by
  have := h s hs
  rwa [hx] at this

/-- What holds wherever an action ends is kept by it. -/
lemma keeps_of_outcome {x : Action σ α} (h : ∀ s, I s → I (x.outcome s).2) :
    Keeps I (fun _ => True) (fun _ => True) x := by
  intro s hs
  have hx := h s hs
  rw [Action.outcome] at hx
  cases hr : x s <;> rw [hr] at hx <;> exact ⟨hx, trivial⟩

/-- What is kept holds where an action ends, whatever it comes to. -/
lemma Keeps.outcome {x : Action σ α} (h : Keeps I P F x) {s : σ} (hs : I s) :
    I (x.outcome s).2 := by
  have hx := h s hs
  rw [Action.outcome]
  cases hr : x s <;> rw [hr] at hx <;> exact hx.1

end Keeps

end CrudBench.Action
