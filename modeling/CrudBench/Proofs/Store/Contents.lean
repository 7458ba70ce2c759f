import CrudBench.Proofs.Store.Records

/-!
# Cells of contents

The contents of databases are cells, one for every database, table and key. Setting a cell changes
that cell only, and adds no table; cells that are set one after the other may be set in any order
(`Contents.setCell_comm`).
-/

namespace CrudBench

namespace SortedMap

variable {α : Type u}

/-- Maps of maps are equal if they hold the same keys, and what is found in them is. -/
lemma ext_at? {m n : SortedMap (SortedMap α)} (hkeys : ∀ j, m.contains j = n.contains j)
    (h : ∀ j k, m.at? j k = n.at? j k) : m = n := by
  refine ext_get? fun j => ?_
  have hj := hkeys j
  rw [contains, contains] at hj
  cases hm : m.get? j with
  | none =>
    cases hn : n.get? j with
    | none => rfl
    | some b => simp [hm, hn] at hj
  | some a =>
    cases hn : n.get? j with
    | none => simp [hm, hn] at hj
    | some b =>
      refine congrArg some (ext_get? fun k => ?_)
      have hk := h j k
      rw [at?, at?, hm, hn] at hk
      exact hk

lemma set_comm (m : SortedMap α) {j k : String} (h : j ≠ k) (x y : Option α) :
    (m.set j x).set k y = (m.set k y).set j x := by
  refine ext_get? fun i => ?_
  simp only [get?_set]
  by_cases hk : i = k
  · subst hk
    simp [h.symm]
  · simp [hk]

end SortedMap

namespace Contents

variable {m : Contents} {db t k db' t' k' : String}

/-- The record under a key of a table. -/
def cell? (m : Contents) (db t k : String) : Option Row := (m.at? db t).bind (·.get? k)

/-- The contents with this under a key of a table, if the table is there. -/
def setCell (m : Contents) (db t k : String) (cell : Option Row) : Contents :=
  match m.at? db t with
  | none => m
  | some cells => m.putAt db t (cells.set k cell)

lemma setCell_of_none (h : m.at? db t = none) (k : String) (cell : Option Row) :
    m.setCell db t k cell = m := by
  rw [setCell, h]

lemma setCell_of_some {cells : SortedMap Row} (h : m.at? db t = some cells) (k : String)
    (cell : Option Row) : m.setCell db t k cell = m.putAt db t (cells.set k cell) := by
  rw [setCell, h]

lemma cell?_of_some {cells : SortedMap Row} (h : m.at? db t = some cells) (k : String) :
    m.cell? db t k = cells.get? k := by
  rw [cell?, h, Option.bind_some]

/-- A table is changed where a cell of it is set. -/
lemma at?_setCell (m : Contents) (db t k : String) (cell : Option Row) (db' t' : String) :
    SortedMap.at? (m.setCell db t k cell) db' t' =
      if db' = db ∧ t' = t then (m.at? db' t').map (·.set k cell) else m.at? db' t' := by
  cases h : m.at? db t with
  | none =>
    rw [setCell_of_none h]
    split
    next he =>
      obtain ⟨rfl, rfl⟩ := he
      rw [h, Option.map_none]
    · rfl
  | some cells =>
    rw [setCell_of_some h, SortedMap.at?_putAt]
    split
    next he =>
      obtain ⟨rfl, rfl⟩ := he
      rw [h, Option.map_some]
    · rfl

lemma contains_setCell (m : Contents) (db t k : String) (cell : Option Row) (j : String) :
    SortedMap.contains (m.setCell db t k cell) j = m.contains j := by
  cases h : m.at? db t with
  | none => rw [setCell_of_none h]
  | some cells =>
    obtain ⟨tables, htables, -⟩ := Option.bind_eq_some_iff.1 h
    rw [setCell_of_some h, SortedMap.contains, SortedMap.contains, SortedMap.putAt,
      SortedMap.get?_insert]
    split
    next hj =>
      rw [hj, htables]
      rfl
    · rfl

/-- A cell that is set to what it holds changes nothing. -/
lemma setCell_self (m : Contents) (db t k : String) :
    m.setCell db t k (m.cell? db t k) = m := by
  cases h : m.at? db t with
  | none => exact setCell_of_none h k _
  | some cells => rw [setCell_of_some h, cell?_of_some h, SortedMap.putAt_set_self h]

/-- Every other cell is left alone. -/
lemma cell?_setCell_of_ne (h : ¬(db' = db ∧ t' = t ∧ k' = k)) (m : Contents) (cell : Option Row) :
    (m.setCell db t k cell).cell? db' t' k' = m.cell? db' t' k' := by
  rw [cell?, at?_setCell]
  split
  next he =>
    have hk : k' ≠ k := fun hk => h ⟨he.1, he.2, hk⟩
    cases hc : m.at? db' t' with
    | none => rw [cell?, hc, Option.map_none]
    | some cells =>
      rw [cell?_of_some hc, Option.map_some, Option.bind_some, SortedMap.get?_set, if_neg hk]
  · rfl

lemma cell?_setCell_self {cells : SortedMap Row} (h : m.at? db t = some cells) (k : String)
    (cell : Option Row) : (m.setCell db t k cell).cell? db t k = cell := by
  rw [cell?, at?_setCell, if_pos ⟨rfl, rfl⟩, h, Option.map_some, Option.bind_some,
    SortedMap.get?_set, if_pos rfl]

/-- Cells that differ may be set in either order. -/
lemma setCell_comm (h : ¬(db' = db ∧ t' = t ∧ k' = k)) (m : Contents) (x y : Option Row) :
    (m.setCell db t k x).setCell db' t' k' y = (m.setCell db' t' k' y).setCell db t k x := by
  refine SortedMap.ext_at? (fun j => ?_) fun i j => ?_
  · simp only [contains_setCell]
  · simp only [at?_setCell]
    by_cases he : i = db ∧ j = t
    · by_cases he' : i = db' ∧ j = t'
      · have hk : k ≠ k' := fun hk => h ⟨he'.1.symm.trans he.1, he'.2.symm.trans he.2, hk.symm⟩
        simp only [if_pos he, if_pos he', Option.map_map]
        congr 1
        funext cells
        exact cells.set_comm hk x y
      · simp only [if_pos he, if_neg he']
    · simp only [if_neg he]

/-- A table that is added has nothing in its cells. -/
lemma cell?_ensure (m : Contents) (db t db' t' k : String) :
    (m.ensure db t).cell? db' t' k = m.cell? db' t' k := by
  rw [ensure]
  split
  · rfl
  next h =>
    have hnone : m.at? db t = none := by simpa using h
    rw [cell?, SortedMap.at?_putAt]
    split
    next he =>
      obtain ⟨rfl, rfl⟩ := he
      rw [cell?, hnone]
      rfl
    · rfl

end Contents

end CrudBench
