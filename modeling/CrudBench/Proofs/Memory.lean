import CrudBench.Proofs.Action
import CrudBench.Settings.Properties

/-!
# Properties in memory

Properties are changed in place, and everyone who has their address sees the change. An action that
changes only properties that it has made itself leaves those that were there before as they are, and
this is what it keeps: the memory that it was started with is the beginning of the memory
(`Memory.keeps_copy`, `Memory.keeps_assign`).
-/

namespace CrudBench

/-- The properties that there are; their places are their addresses. -/
abbrev Memory := List Properties

namespace Memory

/-- The properties at an address. -/
def read (i : Nat) : Action Memory Properties := fun m => .ok (m.getD i .empty) m

/-- Makes a copy of the properties at an address, and tells its address. -/
def copy (i : Nat) : Action Memory Nat := fun m => .ok m.length (m ++ [m.getD i .empty])

/-- Puts a value under a name of the properties at an address, in place. -/
def assign (i : Nat) (name v : Value) : Action Memory Unit := modify (·.modify i (·.put name v))

variable {m : Memory} {p : Properties}

/-- A change behind a list is a change of what is behind it. -/
lemma modify_append {α : Type u} {as bs : List α} {i : Nat} (h : as.length ≤ i) (f : α → α) :
    (as ++ bs).modify i f = as ++ bs.modify (i - as.length) f := by
  refine List.ext_getElem? fun j => ?_
  rw [List.getElem?_modify, List.getElem?_append, List.getElem?_append, List.getElem?_modify]
  by_cases hj : j < as.length
  · have hne : i ≠ j := by omega
    simp [hj, hne]
  · have hij : i = j ↔ i - as.length = j - as.length := by omega
    simp only [hj, if_false, hij]

@[simp]
lemma read_last (m : Memory) (p : Properties) : read m.length (m ++ [p]) = .ok p (m ++ [p]) := by
  simp [read]

lemma copy_apply {i : Nat} (h : m[i]? = some p) : copy i m = .ok m.length (m ++ [p]) := by
  simp [copy, h]

@[simp]
lemma assign_last (m : Memory) (p : Properties) (name v : Value) :
    assign m.length name v (m ++ [p]) = .ok () (m ++ [p.put name v]) := by
  simp [assign, modify_append]

/-! ## What stays as it is -/

variable {F : Fault → Prop}

lemma keeps_read (m : Memory) (i : Nat) : Action.Keeps (m <+: ·) (fun _ => True) F (read i) :=
  fun _ h => ⟨h, trivial⟩

/-- A copy is new: it has none of the addresses that there were. -/
lemma keeps_copy (m : Memory) (i : Nat) :
    Action.Keeps (m <+: ·) (fun j => m.length ≤ j) F (copy i) := fun _ h =>
  ⟨h.trans (List.prefix_append _ _), h.length_le⟩

/-- Who changes what is new changes nothing else. -/
lemma keeps_assign {i : Nat} (h : m.length ≤ i) (name v : Value) :
    Action.Keeps (m <+: ·) (fun _ => True) F (assign i name v) := by
  rintro _ ⟨rest, rfl⟩
  refine ⟨?_, trivial⟩
  show m <+: (m ++ rest).modify i (·.put name v)
  rw [modify_append h]
  exact List.prefix_append m _

/-- What is at an address of a memory is there as long as the memory is kept. -/
lemma getElem?_of_prefix {m' : Memory} {i : Nat} (h : m <+: m') (hi : m[i]? = some p) :
    m'[i]? = some p := by
  obtain ⟨rest, rfl⟩ := h
  rw [List.getElem?_append_left (List.getElem?_eq_some_iff.1 hi).1, hi]

end Memory

end CrudBench
