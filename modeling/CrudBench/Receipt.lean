import CrudBench.Value.Text

/-!
# Receipts

A write is answered by a receipt: how many records were inserted, replaced, left unchanged, skipped,
deleted or in error, and the first error. A counter that is missing counts as zero.
-/

namespace CrudBench

/-- What a receipt counts. -/
inductive Counter where
  | inserted
  | replaced
  | unchanged
  | skipped
  | deleted
  | errors
  deriving DecidableEq, Repr

namespace Counter

/-- All counters, in the order in which they are reported. -/
def all : List Counter := [inserted, replaced, unchanged, skipped, deleted, errors]

/-- The field that holds the counter. -/
def name : Counter → String
  | inserted => "inserted"
  | replaced => "replaced"
  | unchanged => "unchanged"
  | skipped => "skipped"
  | deleted => "deleted"
  | errors => "errors"

end Counter

/-- The fields of an answer to a write. -/
structure Receipt where
  fields : List (String × Value)

namespace Receipt

/-- The receipt that an answer is. -/
def ofValue? : Value → Option Receipt
  | .object fields => some ⟨fields⟩
  | _ => none

/-- The value of a counter. -/
def counter (r : Receipt) (c : Counter) : Value := Value.field r.fields c.name

/-- The write did what was wanted: its counter is one, and there was no error. -/
def confirms (r : Receipt) (wanted : Counter) : Bool :=
  (r.counter wanted).isOne && !(r.counter .errors).isTruthy

/-- The write found no record. -/
def skippedOne (r : Receipt) : Bool := (r.counter .skipped).isOne

/-- The counters that are not zero. -/
def counts (r : Receipt) : List String :=
  (Counter.all.filter fun c => (r.counter c).isTruthy).map fun c =>
    c.name ++ "=" ++ (r.counter c).text

/-- Why a write that should have moved a counter to one failed: the first error, or else what was
counted. -/
def complaint (r : Receipt) (wanted : Counter) : String :=
  let first := Value.field r.fields "first_error"
  if first.isTruthy then first.text
  else
    "expected " ++ wanted.name ++ "=1, got " ++
      (if r.counts.isEmpty then "nothing" else ", ".intercalate r.counts)

end Receipt

end CrudBench
