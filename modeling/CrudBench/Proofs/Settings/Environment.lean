import CrudBench.Proofs.SortedMap
import CrudBench.Settings.Environment

/-!
# Environments with a variables file loaded

Which variables a file sets does not depend on the environment it is loaded into, only their values
do. So a file that was loaded has nothing left to set (`Environment.load_load`).
-/

namespace CrudBench.Environment

variable {env cur cur' : Environment}

/-- The variables that were assigned, and which of them have a value. -/
def shape (assigned : OrderedMap (Option String)) : List (String × Bool) :=
  assigned.entries.map fun e => (e.1, e.2.isSome)

/-- An assignment puts its variable among those that were assigned. -/
lemma map_putEntry {α β : Type} (f : α → β) (k : String) (a : α) (es : List (String × α)) :
    (OrderedMap.putEntry k a es).map (fun e => (e.1, f e.2)) =
      OrderedMap.putEntry k (f a) (es.map fun e => (e.1, f e.2)) := by
  induction es with
  | nil => rfl
  | cons e es ih =>
    simp only [OrderedMap.putEntry, List.map_cons]
    split
    · rfl
    · rw [List.map_cons, ih]

/-- The environment decides what the values are, not which variables have one. -/
lemma shape_resolve (env : Environment) (as : List Assignment) :
    shape (env.resolve as) =
      as.foldl (fun l a => OrderedMap.putEntry a.name a.value.isSome l) [] := by
  have h (m : OrderedMap (Option String)) :
      shape (as.foldl (fun assigned a => assigned.insert a.name
        (a.value.map fun cs => String.ofList (expand (env.valueOf assigned) 0 cs))) m) =
      as.foldl (fun l a => OrderedMap.putEntry a.name a.value.isSome l) (shape m) := by
    induction as generalizing m with
    | nil => rfl
    | cons a as ih =>
      rw [List.foldl_cons, ih, List.foldl_cons, shape, OrderedMap.insert, map_putEntry,
        Option.isSome_map]
      rfl
  exact h .empty

/-- Sets a variable to what it was assigned, unless it was set before. -/
def assign (env : Environment) (e : String × Option String) : Change Unit :=
  match e.2 with
  | some value => unless env.contains e.1 do set e.1 value
  | none => return

/-- A variable that can be set has its value afterwards, and nothing else changes. -/
lemma eq_insert_of_set {name value : String} (h : set name value cur = .ok () cur') :
    cur' = cur.insert name value := by
  cases hn : name.toList.contains '\x00' || value.toList.contains '\x00' with
  | true =>
    have hf : set name value cur = .error .nulCharacter cur := by
      simp only [set, hn, if_true]
      rfl
    rw [hf] at h
    cases h
  | false =>
    cases he : name.toList.contains '=' with
    | true =>
      have hf : set name value cur = .error .equalsSign cur := by
        simp only [set, hn, he, Bool.false_eq_true, if_true, if_false]
        rfl
      rw [hf] at h
      cases h
    | false =>
      have hs : set name value cur = .ok () (cur.insert name value) := by
        simp only [set, hn, he, Bool.false_eq_true, if_false]
        rfl
      rw [hs] at h
      cases h
      rfl

/-- Assigning keeps what is set, and sets a variable that has a value and was not set before. -/
lemma contains_assign {e : String × Option String} (h : assign env e cur = .ok () cur') {k : String}
    (hk : cur.contains k = true ∨ (k, true) = (e.1, e.2.isSome) ∧ env.contains k = false) :
    cur'.contains k = true := by
  obtain ⟨j, value⟩ := e
  cases value with
  | none =>
    cases h
    simpa using hk
  | some value =>
    by_cases hj : env.contains j = true
    · have hcur : cur' = cur := by
        simpa [assign, hj, pure, EStateM.pure, eq_comm] using h
      rcases hk with hk | ⟨hk, hn⟩
      · rwa [hcur]
      · cases hk
        exact absurd hj (by simp [hn])
    · have hset : set j value cur = .ok () cur' := by simpa [assign, hj] using h
      have hcur : cur' = cur.insert j value := eq_insert_of_set hset
      have hkj : k = j ∨ cur.contains k = true := hk.symm.imp (fun h => by cases h.1; rfl) id
      rw [hcur, SortedMap.contains, SortedMap.get?_insert]
      split
      · rfl
      next hne => exact hkj.resolve_left hne

/-- Once variables were assigned, those that have a value are set. -/
lemma contains_forM {es : List (String × Option String)}
    (h : es.forM (assign env) cur = .ok () cur') {k : String}
    (hk : cur.contains k = true ∨
      (k, true) ∈ es.map (fun e => (e.1, e.2.isSome)) ∧ env.contains k = false) :
    cur'.contains k = true := by
  induction es generalizing cur with
  | nil =>
    cases h
    simpa using hk
  | cons e es ih =>
    replace h : EStateM.bind (assign env e) (fun _ => es.forM (assign env)) cur = .ok () cur' := h
    cases ha : assign env e cur with
    | error f t => simp [EStateM.bind, ha] at h
    | ok u next =>
      have hrest : es.forM (assign env) next = .ok () cur' := by
        simpa [EStateM.bind, ha] using h
      refine ih hrest ?_
      rcases hk with hk | ⟨hk, hn⟩
      · exact .inl (contains_assign ha (.inl hk))
      · rcases List.mem_cons.1 hk with hk | hk
        · exact .inl (contains_assign ha (.inr ⟨hk, hn⟩))
        · exact .inr ⟨hk, hn⟩

/-- Nothing happens where every variable that has a value is set. -/
lemma forM_of_contains {es : List (String × Option String)}
    (h : ∀ k, (k, true) ∈ es.map (fun e => (e.1, e.2.isSome)) → env.contains k = true) :
    es.forM (assign env) cur = .ok () cur := by
  induction es with
  | nil => rfl
  | cons e es ih =>
    obtain ⟨j, value⟩ := e
    have ha : assign env (j, value) cur = .ok () cur := by
      cases value with
      | none => rfl
      | some value =>
        have hj : env.contains j = true := h j (by simp)
        simp [assign, hj]
        rfl
    show EStateM.bind (assign env (j, value)) (fun _ => es.forM (assign env)) cur = _
    simp only [EStateM.bind, ha]
    exact ih fun k hk => h k (List.mem_cons_of_mem _ hk)

/-- A file is loaded by assigning what it holds. -/
lemma load_eq (file : VariablesFile) (env : Environment) :
    load file env =
      if env.ignoresFiles then .ok () env
      else (env.resolve file.assignments).entries.forM (assign env) env := by
  show (if env.ignoresFiles then (pure () : Change Unit)
    else (env.resolve file.assignments).entries.forM (assign env)) env = _
  split <;> rfl

/-- A file that was loaded has nothing left to set. -/
theorem load_load {file : VariablesFile} (h : load file env = .ok () cur) :
    load file cur = .ok () cur := by
  rw [load_eq] at h ⊢
  split
  · rfl
  next hc =>
    split at h
    next he =>
      cases h
      exact absurd he hc
    · refine forM_of_contains fun k hk => ?_
      rw [← shape, shape_resolve, ← shape_resolve env] at hk
      cases he : env.contains k with
      | true => exact contains_forM h (.inl he)
      | false => exact contains_forM h (.inr ⟨hk, he⟩)

end CrudBench.Environment
