import Mathlib.Data.List.Forall2

/-!
# What returns

An action that can fail returns something with a property (`Returns`). One action after another
returns if the first returns something from which the second does, and so on along a list.
-/

namespace CrudBench

variable {α β ε : Type} {P : α → Prop} {Q : β → Prop}

/-- The action does not fail, and what it returns has a property. -/
def Returns (P : α → Prop) (x : Except ε α) : Prop := ∃ a, x = .ok a ∧ P a

@[simp]
lemma returns_ok {a : α} : Returns P (.ok a : Except ε α) ↔ P a :=
  ⟨fun ⟨_, h, hp⟩ => by cases h; exact hp, fun hp => ⟨a, rfl, hp⟩⟩

@[simp]
lemma returns_pure {a : α} : Returns P (pure a : Except ε α) ↔ P a := returns_ok

@[simp]
lemma not_returns_error {e : ε} : ¬Returns P (.error e : Except ε α) := nofun

lemma returns_bind {x : Except ε α} {f : α → Except ε β} :
    Returns Q (x >>= f) ↔ Returns (fun a => Returns Q (f a)) x := by
  cases x with
  | ok a => exact (returns_ok (P := fun a => Returns Q (f a))).symm
  | error e => exact iff_of_false not_returns_error not_returns_error

lemma Returns.mono {P' : α → Prop} {x : Except ε α} (h : Returns P x) (hp : ∀ a, P a → P' a) :
    Returns P' x := by
  obtain ⟨a, hx, ha⟩ := h
  exact ⟨a, hx, hp a ha⟩

lemma Returns.bind {x : Except ε α} {f : α → Except ε β} (h : Returns P x)
    (hf : ∀ a, P a → Returns Q (f a)) : Returns Q (x >>= f) := returns_bind.2 (h.mono hf)

lemma Returns.of_ok {x : Except ε α} {a : α} (h : Returns P x) (hx : x = .ok a) : P a := by
  obtain ⟨b, hb, hp⟩ := h
  cases hx.symm.trans hb
  exact hp

/-- What fails on no element of a list returns what it gives for each. -/
lemma Returns.mapM {R : α → β → Prop} {f : α → Except ε β} {xs : List α}
    (h : ∀ x ∈ xs, Returns (R x) (f x)) : Returns (List.Forall₂ R xs) (xs.mapM f) := by
  induction xs with
  | nil => exact ⟨[], rfl, .nil⟩
  | cons x xs ih =>
    rw [List.mapM_cons]
    refine (h x List.mem_cons_self).bind fun y hy => ?_
    refine (ih fun z hz => h z (List.mem_cons_of_mem x hz)).bind fun ys hys => ?_
    exact returns_pure.2 (.cons hy hys)

/-- What is returned for each element is returned along a list. -/
lemma mapM_eq_ok {f : α → Except ε β} {xs : List α} {ys : List β}
    (h : List.Forall₂ (fun x y => f x = .ok y) xs ys) : xs.mapM f = .ok ys := by
  induction h with
  | nil => rfl
  | cons hx _ ih =>
    rw [List.mapM_cons, hx, ih]
    rfl

/-- Something is returned along a list only if something is returned for each element. -/
lemma Returns.of_mapM {P : List β → Prop} {f : α → Except ε β} {xs : List α}
    (h : Returns P (xs.mapM f)) : ∀ x ∈ xs, Returns (fun _ => True) (f x) := by
  induction xs generalizing P with
  | nil => nofun
  | cons x xs ih =>
    rw [List.mapM_cons, returns_bind] at h
    obtain ⟨y, hy, hrest⟩ := h
    rw [returns_bind] at hrest
    intro z hz
    rcases List.mem_cons.1 hz with rfl | hz
    · exact ⟨y, hy, trivial⟩
    · exact ih hrest z hz

/-- What is kept from one element of a list to the next is kept along the list. -/
lemma Returns.foldlM {f : β → α → Except ε β} {xs : List α} {b : β} (hb : Q b)
    (h : ∀ b x, Q b → x ∈ xs → Returns Q (f b x)) : Returns Q (xs.foldlM f b) := by
  induction xs generalizing b with
  | nil => exact ⟨b, rfl, hb⟩
  | cons x xs ih =>
    rw [List.foldlM_cons]
    exact (h b x hb List.mem_cons_self).bind fun b' hb' =>
      ih hb' fun b x hb hx => h b x hb (List.mem_cons_of_mem _ hx)

end CrudBench
