import CrudBench.Proofs.Settings.Environment
import Mathlib.Data.List.TakeWhile

/-!
# What a variables file sets

Loading a file sets the variables that it assigns a value to and that are not set, one after the
other, up to the first one that cannot be set (`Environment.load_apply`). So a variable that was set
before, even to nothing, hides what the file says (`Environment.get?_load`).
-/

namespace CrudBench.Environment

variable {env cur : Environment}

/-- Why a variable cannot be set to a value, if there is a reason. -/
def refusal? (name value : String) : Option Refusal :=
  if name.toList.contains '\x00' || value.toList.contains '\x00' then some .nulCharacter
  else if name.toList.contains '=' then some .equalsSign
  else none

lemma set_apply (name value : String) (env : Environment) :
    set name value env =
      match refusal? name value with
      | none => .ok () (env.insert name value)
      | some r => .error r env := by
  cases hn : name.toList.contains '\x00' || value.toList.contains '\x00' with
  | true =>
    simp only [set, refusal?, hn, if_true]
    rfl
  | false =>
    cases he : name.toList.contains '=' <;>
      simp only [set, refusal?, hn, he, Bool.false_eq_true, if_true, if_false] <;> rfl

/-- What an assigned variable has to be set to, with its name, if it gets a value and is not set. -/
def unset? (env : Environment) (e : String × Option String) : Option (String × String) :=
  if env.contains e.1 then none else e.2.map (e.1, ·)

lemma unset?_eq_some {e : String × Option String} {v : String × String}
    (h : env.unset? e = some v) : v.1 = e.1 ∧ env.get? v.1 = none := by
  rw [unset?] at h
  split at h
  · cases h
  next hc =>
    obtain ⟨s, -, rfl⟩ := Option.map_eq_some_iff.1 h
    exact ⟨rfl, by simpa [SortedMap.contains] using hc⟩

/-- What a file has to set. -/
def missing (env : Environment) (file : VariablesFile) : List (String × String) :=
  if env.ignoresFiles then [] else (env.resolve file.assignments).entries.filterMap env.unset?

/-- Why the first of the variables that cannot be set is refused. -/
def firstRefusal? (es : List (String × String)) : Option Refusal :=
  es.findSome? fun e => refusal? e.1 e.2

/-- What has to be set up to the first variable that cannot be. -/
def settable (es : List (String × String)) : List (String × String) :=
  es.takeWhile fun e => (refusal? e.1 e.2).isNone

lemma settable_eq_self {es : List (String × String)} (h : firstRefusal? es = none) :
    settable es = es := by
  refine List.takeWhile_eq_self_iff.2 fun e he => ?_
  rw [Option.isNone_iff_eq_none]
  exact List.findSome?_eq_none_iff.1 h e he

/-- An assignment sets a variable if it has one to set. -/
lemma assign_apply (env cur : Environment) (e : String × Option String) :
    assign env e cur =
      match env.unset? e with
      | none => .ok () cur
      | some v => set v.1 v.2 cur := by
  obtain ⟨k, value⟩ := e
  cases value with
  | none => cases h : env.contains k <;> simp [assign, unset?] <;> rfl
  | some value =>
    cases h : env.contains k <;> simp only [assign, unset?, h] <;> rfl

/-- Assignments set what there is to set, up to the first variable that cannot be. -/
lemma forM_assign (env cur : Environment) (es : List (String × Option String)) :
    es.forM (assign env) cur =
      match firstRefusal? (es.filterMap env.unset?) with
      | none => .ok () (cur.insertMany (settable (es.filterMap env.unset?)))
      | some r => .error r (cur.insertMany (settable (es.filterMap env.unset?))) := by
  induction es generalizing cur with
  | nil => rfl
  | cons e es ih =>
    have hcons : (e :: es).forM (assign env) cur =
        EStateM.bind (assign env e) (fun _ => es.forM (assign env)) cur := rfl
    rw [hcons, EStateM.bind, assign_apply]
    cases hv : env.unset? e with
    | none =>
      rw [List.filterMap_cons_none hv]
      exact ih cur
    | some v =>
      rw [List.filterMap_cons_some hv]
      simp only [set_apply, firstRefusal?, settable, List.findSome?_cons]
      cases hr : refusal? v.1 v.2 with
      | some r => simp [hr, SortedMap.insertMany]
      | none =>
        rw [List.takeWhile_cons_of_pos (by simp [hr])]
        exact ih (cur.insert v.1 v.2)

/-- Loading a file sets what it has to set, up to the first variable that cannot be. -/
theorem load_apply (file : VariablesFile) (env : Environment) :
    load file env =
      match firstRefusal? (env.missing file) with
      | none => .ok () (env.insertMany (settable (env.missing file)))
      | some r => .error r (env.insertMany (settable (env.missing file))) := by
  rw [load_eq, missing]
  split
  · rfl
  · exact forM_assign env env _

/-- No variable has to be set twice. -/
lemma nodup_missing (env : Environment) (file : VariablesFile) :
    ((env.missing file).map (·.1)).Nodup := by
  have hsub (es : List (String × Option String)) :
      ((es.filterMap env.unset?).map (·.1)).Sublist (es.map (·.1)) := by
    induction es with
    | nil => exact .slnil
    | cons e es ih =>
      cases hv : env.unset? e with
      | none =>
        rw [List.filterMap_cons_none hv]
        exact ih.cons e.1
      | some v =>
        rw [List.filterMap_cons_some hv, List.map_cons, (unset?_eq_some hv).1]
        exact ih.cons_cons e.1
  rw [missing]
  split
  · exact .nil
  · exact (env.resolve file.assignments).distinct.sublist (hsub _)

/-- A variable that is set does not have to be set. -/
lemma lookup_missing {k s : String} (h : env.get? k = some s) (file : VariablesFile) :
    (env.missing file).lookup k = none := by
  rw [List.lookup_eq_none_iff]
  intro v hv
  have hmem : v ∈ (env.resolve file.assignments).entries.filterMap env.unset? := by
    rw [missing] at hv
    split at hv
    · cases hv
    · exact hv
  obtain ⟨e, -, he⟩ := List.mem_filterMap.1 hmem
  have hne : k ≠ v.1 := by
    rintro rfl
    cases h.symm.trans (unset?_eq_some he).2
  simpa using hne

/-- Once a file was loaded, a variable has the value that it had before, or else the one that the
file has to set it to. -/
theorem get?_load {file : VariablesFile} (h : load file env = .ok () cur) (k : String) :
    cur.get? k = (env.get? k).or ((env.missing file).lookup k) := by
  rw [load_apply] at h
  cases hr : firstRefusal? (env.missing file) with
  | some r =>
    rw [hr] at h
    cases h
  | none =>
    rw [hr, settable_eq_self hr] at h
    cases h
    rw [SortedMap.get?_insertMany, SortedMap.lookup_reverse (nodup_missing env file)]
    cases he : env.get? k with
    | none => simp
    | some s => rw [lookup_missing he]; rfl

end CrudBench.Environment
