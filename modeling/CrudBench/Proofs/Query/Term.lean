import CrudBench.Call
import Mathlib.Tactic.Lemma

/-!
# Building terms

What the term of a call is made of: operations, texts, null, and the terms of the values that the
call is about. So a property of terms that operations, texts and null have holds of the whole term
if it holds of these values, and the term cannot be built only if one of these values has no term
(`Call.yields_term`).
-/

namespace CrudBench

/-- What is built has a property, or fails with an error that has one. -/
def Yields {α : Type} (P : α → Prop) (F : DriverError → Prop) (x : Except DriverError α) : Prop :=
  match x with
  | .ok a => P a
  | .error e => F e

section Yields

variable {α β : Type} {P : α → Prop} {Q : β → Prop} {F : DriverError → Prop}

/-- Building one thing after the other yields what the second yields. -/
lemma Yields.bind {x : Except DriverError α} {f : α → Except DriverError β} (hx : Yields P F x)
    (hf : ∀ a, P a → Yields Q F (f a)) : Yields Q F (x >>= f) := by
  cases x with
  | ok a => exact hf a hx
  | error e => exact hx

/-- Building a list yields a list of what its items yield. -/
lemma yields_mapM {f : α → Except DriverError β} {as : List α} (h : ∀ a ∈ as, Yields Q F (f a)) :
    Yields (fun bs => ∀ b ∈ bs, Q b) F (as.mapM f) := by
  induction as with
  | nil => exact List.forall_mem_nil _
  | cons a as ih =>
    rw [List.mapM_cons]
    refine (h a List.mem_cons_self).bind fun b hb => ?_
    refine (ih fun x hx => h x (List.mem_cons_of_mem _ hx)).bind fun bs hbs => ?_
    exact List.forall_mem_cons.2 ⟨hb, hbs⟩

end Yields

namespace Term

mutual

/-- A value has a term unless it is nested too deeply. -/
lemma yields_ofNested :
    ∀ (depth : Nat) (v : Value), Yields (fun _ => True) (· = .tooDeep) (ofNested depth v)
  | 0, .null | 0, .bool _ | 0, .int _ | 0, .float _ | 0, .str _ | 0, .list _ | 0, .object _ => rfl
  | depth + 1, .list items => (yields_ofItems depth items).bind fun _ _ => trivial
  | depth + 1, .object fields => (yields_ofFields depth fields).bind fun _ _ => trivial
  | _ + 1, .null | _ + 1, .bool _ | _ + 1, .int _ | _ + 1, .float _ | _ + 1, .str _ => trivial

/-- Items have terms unless one is nested too deeply. -/
lemma yields_ofItems :
    ∀ (depth : Nat) (vs : List Value), Yields (fun _ => True) (· = .tooDeep) (ofItems depth vs)
  | _, [] => trivial
  | depth, v :: vs =>
    (yields_ofNested depth v).bind fun _ _ => (yields_ofItems depth vs).bind fun _ _ => trivial

/-- Fields have terms unless one is nested too deeply. -/
lemma yields_ofFields : ∀ (depth : Nat) (fs : List (String × Value)),
    Yields (fun _ => True) (· = .tooDeep) (ofFields depth fs)
  | _, [] => trivial
  | depth, (_, v) :: fs =>
    (yields_ofNested depth v).bind fun _ _ => (yields_ofFields depth fs).bind fun _ _ => trivial

end

/-- A value has a term unless it is nested too deeply. -/
lemma yields_ofValue (v : Value) : Yields (fun _ => True) (· = .tooDeep) (ofValue v) :=
  yields_ofNested _ v

end Term

/-- The property is one of null, of texts, and of operations on terms that have it. -/
structure Term.Closed (P : Term → Prop) : Prop where
  null : P .null
  str : ∀ s, P (.str s)
  call : ∀ op args options, (∀ t ∈ args, P t) → (∀ o ∈ options, P o.2) → P (.call op args options)

/-- The values that a call is about, besides texts and null. -/
def Call.values : Call → List Value
  | get _ t key fields _ => t :: key :: fields
  | between _ t low limit fields _ => t :: low :: limit :: fields
  | update _ t key values _ => [t, key, values.row.value]
  | insert _ t row _ => [t, row.value]
  | delete _ t key _ => [t, key]
  | _ => []

section Query

open Query

variable {P : Term → Prop} (hP : Term.Closed P) {F : DriverError → Prop}

include hP

lemma yields_str (s : String) : Yields P F (Term.ofValue (.str s)) := hP.str s

lemma yields_null : Yields P F (Term.ofValue .null) := hP.null

lemma yields_modeValue (mode : Option ReadMode) :
    Yields P F (Term.ofValue (Call.modeValue mode)) := by
  cases mode with
  | none => exact hP.null
  | some m => exact hP.str m.name

/-- An operation is built from its arguments and options. -/
lemma yields_apply (op : Op) {args : List Built} {options : List (String × Built)}
    (ha : ∀ x ∈ args, Yields P F x) (ho : ∀ o ∈ options, Yields P F o.2) :
    Yields P F (apply op args options) := by
  refine (yields_mapM ha).bind fun ts hts => ?_
  have hos : Yields (fun os => ∀ o ∈ os, P o.2) F (options.mapM fun o => do return (o.1, ← o.2)) :=
    yields_mapM fun o hmem => (ho o hmem).bind fun t ht => ht
  exact hos.bind fun os hos => hP.call op ts os hts hos

/-- An operation without options is built from its arguments. -/
lemma yields_plain (op : Op) {args : List Built} (ha : ∀ x ∈ args, Yields P F x) :
    Yields P F (apply op args []) := yields_apply hP op ha (List.forall_mem_nil _)

lemma yields_databaseTerm (db : String) : Yields P F (databaseTerm (.str db)) :=
  yields_plain hP .database (by simp [yields_str hP])

lemma yields_tableTerm (db : String) {t mode : Value} (ht : Yields P F (Term.ofValue t))
    (hm : Yields P F (Term.ofValue mode)) : Yields P F (tableTerm (.str db) t mode) := by
  refine yields_apply hP .table (by simp [yields_databaseTerm hP, ht]) ?_
  split
  · simp [hm]
  · exact List.forall_mem_nil _

lemma yields_recordTerm (db : String) {t key mode : Value} (ht : Yields P F (Term.ofValue t))
    (hk : Yields P F (Term.ofValue key)) (hm : Yields P F (Term.ofValue mode)) :
    Yields P F (recordTerm (.str db) t key mode) :=
  yields_plain hP .get (by simp [yields_tableTerm hP db ht hm, hk])

lemma yields_rangeTerm (db : String) {t low limit mode : Value} (ht : Yields P F (Term.ofValue t))
    (hlow : Yields P F (Term.ofValue low)) (hlimit : Yields P F (Term.ofValue limit))
    (hm : Yields P F (Term.ofValue mode)) : Yields P F (rangeTerm (.str db) t low limit mode) := by
  have hmax : Yields P F (apply .maxValue [] []) :=
    yields_plain hP .maxValue (List.forall_mem_nil _)
  have hkey : Yields P F (apply .ascending [Term.ofValue (.str primaryKey)] []) :=
    yields_plain hP .ascending (by simp [yields_str hP])
  have hrange : Yields P F (apply .between
      [tableTerm (.str db) t mode, Term.ofValue low, apply .maxValue [] []] []) :=
    yields_plain hP .between (by simp [yields_tableTerm hP db ht hm, hlow, hmax])
  refine yields_plain hP .limit ?_
  simp only [List.forall_mem_cons, hlimit, true_and]
  exact ⟨yields_apply hP .orderBy (by simpa using hrange) (by simpa using hkey),
    List.forall_mem_nil _⟩

lemma yields_pluck {subject : Built} (h : Yields P F subject) {fields : List Value}
    (hf : ∀ v ∈ fields, Yields P F (Term.ofValue v)) : Yields P F (pluck subject (.list fields)) :=
  yields_plain hP .pluck (by simpa [h] using hf)

/-- The term of a call is built from the values that the call is about. -/
lemma Call.yields_term (c : Call) (hv : ∀ v ∈ c.values, Yields P F (Term.ofValue v)) :
    Yields P F c.query.term := by
  have hs (s : String) : Yields P F (Term.ofValue (.str s)) := yields_str hP s
  have hn : Yields P F (Term.ofValue .null) := yields_null hP
  cases c with
  | databaseList => exact yields_plain hP .databaseList (List.forall_mem_nil _)
  | databaseCreate db => exact yields_plain hP .databaseCreate (by simp [hs])
  | tableList db => exact yields_plain hP .tableList (by simp [yields_databaseTerm hP])
  | tableCreate db t key durability =>
    exact yields_apply hP .tableCreate (by simp [yields_databaseTerm hP, hs]) (by simp [hs])
  | tableWait db t =>
    exact yields_plain hP .wait (by simp [yields_tableTerm hP db (hs t) hn])
  | get db t key fields mode =>
    simp only [values, List.forall_mem_cons] at hv
    have hr := yields_recordTerm hP db hv.1 hv.2.1 (yields_modeValue hP mode)
    rw [query, term]
    split
    · exact yields_plain hP .default (by simp [yields_pluck hP hr hv.2.2, hn])
    · exact hr
  | between db t low limit fields mode =>
    simp only [values, List.forall_mem_cons] at hv
    have hr := yields_rangeTerm hP db hv.1 hv.2.1 hv.2.2.1 (yields_modeValue hP mode)
    rw [query, term]
    split
    · exact yields_pluck hP hr hv.2.2.2
    · exact hr
  | update db t key values durability =>
    simp only [Call.values, List.forall_mem_cons] at hv
    have hr := yields_recordTerm hP db hv.1 hv.2.1 hn
    exact yields_apply hP .update (by simp [hr, hv.2.2.1]) (by simp [hs])
  | insert db t row durability =>
    simp only [values, List.forall_mem_cons] at hv
    have ht := yields_tableTerm hP db hv.1 hn
    exact yields_apply hP .insert (by simp [ht, hv.2.1]) (by simp [hs])
  | delete db t key durability =>
    simp only [values, List.forall_mem_cons] at hv
    have hr := yields_recordTerm hP db hv.1 hv.2.1 hn
    exact yields_apply hP .delete (by simp [hr]) (by simp [hs])

end Query

/-- A call has a term unless a value in it is nested too deeply. -/
lemma Call.yields_query (c : Call) : Yields (fun _ => True) (· = .tooDeep) c.query.term :=
  c.yields_term ⟨trivial, fun _ => trivial, fun _ _ _ _ _ => trivial⟩ fun v _ =>
    Term.yields_ofValue v

end CrudBench
