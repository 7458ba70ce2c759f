import CrudBench.Proofs.Session

/-!
# Stages of a bootstrap

Making a schema ready takes up to five calls, and what one answers may be out of date when the next
is made. A stage is a bootstrap between two of its calls; advancing makes one call
(`Session.advance`). Stage after stage this is how a backend makes its schema ready
(`Session.finish_eq_ensureSchema`).
-/

namespace CrudBench

/-- A bootstrap between two calls, by the call that comes next. -/
inductive Stage where
  | listDatabases
  | createDatabase
  | listTables
  | createTable
  | awaitTable
  | ready
  deriving DecidableEq, Repr

/-- A call with its answer. -/
structure Exchange where
  call : Call
  answer : call.Answer

namespace Stage

/-- What a bootstrap does next: a call, and then, by its answer, what it reports and where it goes
on. -/
structure Pending where
  call : Call
  note : call.Answer → Option LogEntry
  next : call.Answer → Stage

/-- What is done next at a stage; nothing once the schema is ready. -/
def pending (st : Settings) : Stage → Option Pending
  | listDatabases => some {
      call := .databaseList
      note := fun _ => none
      next := fun names =>
        if Session.lists names st.database then listTables else createDatabase }
  | createDatabase => some {
      call := .databaseCreate st.database
      note := fun created =>
        some (if created then .databaseCreated st.database else .databaseExists st.database)
      next := fun _ => listTables }
  | listTables => some {
      call := .tableList st.database
      note := fun _ => none
      next := fun names => if Session.lists names st.table then awaitTable else createTable }
  | createTable => some {
      call := .tableCreate st.database st.table primaryKey st.durability
      note := fun created =>
        some (if created then .tableCreated st.database st.table st.durability
          else .tableExists st.database st.table)
      next := fun _ => awaitTable }
  | awaitTable => some {
      call := .tableWait st.database st.table
      note := fun _ => none
      next := fun _ => ready }
  | ready => none

/-- The most calls that are still to be made. -/
def left : Stage → Nat
  | listDatabases => 5
  | createDatabase => 4
  | listTables => 3
  | createTable => 2
  | awaitTable => 1
  | ready => 0

/-- A call brings a bootstrap forward. -/
lemma left_next {st : Settings} {x : Stage} {p : Pending} (h : x.pending st = some p)
    (answer : p.call.Answer) : (p.next answer).left < x.left := by
  cases x with
  | listDatabases | listTables =>
    cases h
    dsimp only
    split <;> decide
  | createDatabase | createTable | awaitTable =>
    cases h
    exact Nat.lt_succ_self _
  | ready => cases h

end Stage

namespace Session

variable {κ ω : Type} [Client κ ω]

/-- Makes the next call of a bootstrap. -/
def advance (st : Settings) (x : Stage) : Action (Session κ ω) (Stage × Option Exchange) :=
  match x.pending st with
  | none => return (x, none)
  | some p => do
    let answer ← ask p.call
    match p.note answer with
    | none => return (p.next answer, some ⟨p.call, answer⟩)
    | some e => do
      report e
      return (p.next answer, some ⟨p.call, answer⟩)

/-- Makes up to a number of calls of a bootstrap. -/
def finish (st : Settings) : Nat → Stage → Action (Session κ ω) Unit
  | 0, _ => return
  | n + 1, x => do
    let (y, _) ← advance st x
    finish st n y

/-- What is left of making a schema ready. -/
def rest (st : Settings) : Stage → Action (Session κ ω) Unit
  | .listDatabases => ensureSchema st
  | .createDatabase => do
    let created : Bool ← ask (.databaseCreate st.database)
    report (if created then .databaseCreated st.database else .databaseExists st.database)
    ensureTable st.database st.table st.durability
    ask (.tableWait st.database st.table)
  | .listTables => do
    ensureTable st.database st.table st.durability
    ask (.tableWait st.database st.table)
  | .createTable => do
    let created : Bool ← ask (.tableCreate st.database st.table primaryKey st.durability)
    report (if created then .tableCreated st.database st.table st.durability
      else .tableExists st.database st.table)
    ask (.tableWait st.database st.table)
  | .awaitTable => ask (.tableWait st.database st.table)
  | .ready => return

/-- To do what is left is to make one call, and then to do what is left. -/
lemma advance_rest (st : Settings) (x : Stage) :
    (advance st x >>= fun y => rest st y.1 : Action (Session κ ω) Unit) = rest st x := by
  cases x with
  | listDatabases =>
    simp only [advance, Stage.pending, rest, ensureSchema, ensureDatabase, bind_assoc, pure_bind]
    congr 1
    funext names
    by_cases h : lists names st.database = true
    · simp only [if_pos h, pure_bind]
    · simp only [if_neg h, bind_assoc]
  | listTables =>
    simp only [advance, Stage.pending, rest, ensureTable, bind_assoc, pure_bind]
    congr 1
    funext names
    by_cases h : lists names st.table = true
    · simp only [if_pos h, pure_bind]
    · simp only [if_neg h, bind_assoc]
  | createDatabase | createTable =>
    simp only [advance, Stage.pending, rest, bind_assoc, pure_bind]
  | awaitTable =>
    simp only [advance, Stage.pending, rest, bind_assoc, pure_bind]
    exact bind_pure _
  | ready => rfl

/-- A bootstrap that is left alone does what is left of it. -/
lemma finish_eq_rest (st : Settings) {n : Nat} {x : Stage} (h : x.left ≤ n) :
    (finish st n x : Action (Session κ ω) Unit) = rest st x := by
  induction n generalizing x with
  | zero => cases x <;> first | rfl | cases h
  | succ n ih =>
    rw [finish, ← advance_rest, advance]
    cases hp : x.pending st with
    | none =>
      simp only [pure_bind]
      cases x with
      | ready => exact ih (Nat.zero_le n)
      | _ => cases hp
    | some p =>
      simp only [bind_assoc]
      congr 1
      funext answer
      -- whatever the answer, one call less is left
      have hn : (p.next answer).left ≤ n :=
        Nat.le_of_lt_succ (Nat.lt_of_lt_of_le (Stage.left_next hp answer) h)
      cases p.note answer with
      | none => exact ih hn
      | some e => simp only [bind_assoc, pure_bind, ih hn]

/-- A bootstrap that is left alone makes its schema ready. -/
theorem finish_eq_ensureSchema (st : Settings) :
    (finish st 5 .listDatabases : Action (Session κ ω) Unit) = ensureSchema st :=
  finish_eq_rest st (Nat.le_refl 5)

end Session

end CrudBench
