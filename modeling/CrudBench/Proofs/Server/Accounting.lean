import CrudBench.Proofs.Server.Boundary

/-!
# Accounts of writes

A server answers a write with an account of it: natural numbers under the names of counters, any of
which may be missing, and perhaps its first error. What a write comes to is told from these numbers
(`PointRequest.write_accounted`). One kind of account is taken amiss: an update or a deletion that
was skipped counts as one of a missing record, even if there were errors.
-/

namespace CrudBench

/-- The counter that a write is to bring to one. -/
def Verb.wanted? : Verb → Option Counter
  | read _ => none
  | insert _ => some .inserted
  | update _ => some .replaced
  | delete => some .deleted

/-- The write works on a record that may be missing. -/
def Verb.mayMiss : Verb → Bool
  | update _ | delete => true
  | read _ | insert _ => false

/-- What a server says about a write. -/
structure Account where
  counted : Counter → Option Nat
  firstError : Option String

namespace Account

/-- The fields of a reply give the account, whatever else they hold. -/
structure GivenBy (a : Account) (fields : List (String × Value)) : Prop where
  counted : ∀ c : Counter, fields.lookup c.name = (a.counted c).map fun n => .int n
  firstError : fields.lookup "first_error" = a.firstError.map .str

/-- How much was counted; nothing, if that is not said. -/
def number (a : Account) (c : Counter) : Nat := (a.counted c).getD 0

/-- The counters that are not zero, in the order in which they are reported. -/
def counts (a : Account) : List String :=
  (Counter.all.filter fun c => 0 < a.number c).map fun c => c.name ++ "=" ++ (a.number c).repr

/-- Why a write has failed that should have brought a counter to one: the first error, if there is
a text of one, or else what was counted. -/
def complaint (a : Account) (wanted : Counter) : String :=
  if a.firstError.getD "" = "" then
    "expected " ++ wanted.name ++ "=1, got " ++
      (if a.counts.isEmpty then "nothing" else ", ".intercalate a.counts)
  else a.firstError.getD ""

/-- The account of a write that may miss its record, which says that it was skipped, and that there
were errors. -/
def Amiss (a : Account) (v : Verb) : Prop :=
  v.mayMiss = true ∧ a.number .skipped = 1 ∧ 0 < a.number .errors

/-- The outcome of a write is what the account of it says. -/
structure Settles (a : Account) (v : Verb) (wanted : Counter) (o : Outcome) : Prop where
  ok : o.status = .ok ↔ a.number wanted = 1 ∧ a.number .errors = 0
  error : o.status = .error → o.error = some (a.complaint wanted) ∧ a.complaint wanted ≠ ""
  /-- Errors are a failure, and a record is missing if the write could miss it, has not done what
  was wanted, was skipped, and met no error. -/
  apt : ¬a.Amiss v → (0 < a.number .errors → o.status = .error) ∧
    (o.status = .notFound ↔ v.mayMiss = true ∧ a.number wanted ≠ 1 ∧ a.number .skipped = 1 ∧
      a.number .errors = 0)
  amiss : a.Amiss v → o.status = .notFound

/-! ## Accounts as receipts -/

section GivenBy

variable {a : Account} {fields : List (String × Value)} (h : a.GivenBy fields)

include h

lemma GivenBy.counter_cases (c : Counter) :
    Receipt.counter ⟨fields⟩ c = .int (a.number c) ∨
      Receipt.counter ⟨fields⟩ c = .null ∧ a.number c = 0 := by
  rw [Receipt.counter, Value.field, h.counted, number]
  cases a.counted c with
  | none => exact .inr ⟨rfl, rfl⟩
  | some n => exact .inl rfl

lemma GivenBy.isOne (c : Counter) :
    (Receipt.counter ⟨fields⟩ c).isOne = decide (a.number c = 1) := by
  rcases h.counter_cases c with hc | ⟨hc, hn⟩
  · rw [hc, Bool.eq_iff_iff, decide_eq_true_iff]
    simp only [Value.isOne, beq_iff_eq]
    omega
  · rw [hc, hn]
    rfl

lemma GivenBy.isTruthy (c : Counter) :
    (Receipt.counter ⟨fields⟩ c).isTruthy = decide (0 < a.number c) := by
  rcases h.counter_cases c with hc | ⟨hc, hn⟩
  · rw [hc, Bool.eq_iff_iff, decide_eq_true_iff]
    simp only [Value.isTruthy, bne_iff_ne]
    omega
  · rw [hc, hn]
    rfl

lemma GivenBy.counts : Receipt.counts ⟨fields⟩ = a.counts := by
  rw [Receipt.counts, Account.counts]
  simp only [h.isTruthy]
  refine List.map_congr_left fun c hc => ?_
  -- a counter that is not zero is there, and shown as its number
  have hpos : 0 < a.number c := of_decide_eq_true (List.mem_filter.1 hc).2
  rcases h.counter_cases c with hc | ⟨-, hn⟩
  · rw [hc]
    have hneg : ¬(a.number c : Int) < 0 := by omega
    simp only [Value.text, Value.shown, Text.decimal, Text.decimalChars, if_neg hneg,
      Int.natAbs_natCast]
    rfl
  · exact absurd hn (Nat.ne_of_gt hpos)

lemma GivenBy.complaint (wanted : Counter) :
    Receipt.complaint ⟨fields⟩ wanted = a.complaint wanted := by
  rw [Receipt.complaint, Account.complaint, h.counts, Value.field, h.firstError]
  cases a.firstError with
  | none => rfl
  | some text =>
    by_cases ht : text = ""
    · subst ht
      rfl
    · simp [Value.isTruthy, ht, Value.text]

end GivenBy

lemma complaint_ne_empty (a : Account) (wanted : Counter) : a.complaint wanted ≠ "" := by
  rw [complaint]
  split
  · simp
  · assumption

/-- What a receipt makes of a write is what its account says. -/
lemma GivenBy.settles {a : Account} {fields : List (String × Value)} (h : a.GivenBy fields)
    (v : Verb) (wanted : Counter) (latency : Latency) :
    a.Settles v wanted (Receipt.verdict ⟨fields⟩ wanted v.mayMiss latency) := by
  have hconfirms : Receipt.confirms ⟨fields⟩ wanted = true ↔
      a.number wanted = 1 ∧ a.number .errors = 0 := by
    simp [Receipt.confirms, h.isOne, h.isTruthy]
  have hskipped : Receipt.skippedOne ⟨fields⟩ = true ↔ a.number .skipped = 1 := by
    simp [Receipt.skippedOne, h.isOne]
  rw [Receipt.verdict]
  by_cases hc : Receipt.confirms ⟨fields⟩ wanted = true
  · rw [if_pos hc]
    obtain ⟨hw, he⟩ := hconfirms.1 hc
    refine ⟨⟨fun _ => ⟨hw, he⟩, fun _ => rfl⟩, by simp [Outcome.ok], fun _ => ⟨?_, ?_⟩,
      fun hn => ?_⟩
    · exact fun hpos => absurd he (Nat.ne_of_gt hpos)
    · exact ⟨by simp [Outcome.ok], fun hn => absurd hw hn.2.1⟩
    · exact absurd he (Nat.ne_of_gt hn.2.2)
  · rw [if_neg hc]
    have hn := mt hconfirms.2 hc
    by_cases hm : (v.mayMiss && Receipt.skippedOne ⟨fields⟩) = true
    · rw [if_pos hm]
      rw [Bool.and_eq_true, hskipped] at hm
      refine ⟨⟨by simp [Outcome.notFound], fun hok => absurd hok hn⟩, by simp [Outcome.notFound],
        fun ha => ?_, fun _ => rfl⟩
      -- it was not taken amiss, so there was no error
      have he : a.number .errors = 0 := by
        by_contra he
        exact ha ⟨hm.1, hm.2, Nat.pos_of_ne_zero he⟩
      refine ⟨fun hpos => absurd he (Nat.ne_of_gt hpos), fun _ => ⟨hm.1, ?_, hm.2, he⟩,
        fun _ => rfl⟩
      exact fun hw => hn ⟨hw, he⟩
    · rw [if_neg hm]
      rw [Bool.and_eq_true, hskipped] at hm
      refine ⟨⟨by simp [Outcome.failed], fun hok => absurd hok hn⟩, fun _ => ?_,
        fun _ => ⟨fun _ => rfl, by simp [Outcome.failed], ?_⟩, ?_⟩
      · exact ⟨congrArg some (h.complaint wanted), a.complaint_ne_empty wanted⟩
      · exact fun hf => absurd ⟨hf.1, hf.2.2.1⟩ hm
      · exact fun ha => absurd ⟨ha.1, ha.2.1⟩ hm

end Account

/-! ## Writes -/

namespace PointRequest

lemma outcome?_write {r : PointRequest} {wanted : Counter} (hw : r.verb.wanted? = some wanted)
    (fields : List (String × Value)) : (PlainRequest.point r).outcome? (.object fields) =
      some (Receipt.verdict ⟨fields⟩ wanted r.verb.mayMiss) := by
  obtain ⟨t, key, verb⟩ := r
  cases verb with
  | read => cases hw
  | _ =>
    cases hw
    rfl

/-- A write over an open connection comes to what the account of it says that is replied. -/
theorem write_accounted {r : PointRequest} {wanted : Counter} (hw : r.verb.wanted? = some wanted)
    {s : Session WireClient Server} {st : Settings} (hc : s.connected = true)
    (hs : s.settings = some st) (hr : (PlainRequest.point r).shortcut? = none) {a : Account}
    {fields : List (String × Value)} (hreply : s.reply = .ok (.object fields))
    (ha : a.GivenBy fields) :
    ∃ o t, r.perform s = .ok o t ∧ a.Settles r.verb wanted o := by
  have hv : (PlainRequest.point r).verdict? s.reply =
      some (Receipt.verdict ⟨fields⟩ wanted r.verb.mayMiss) := by
    rw [hreply]
    exact outcome?_write hw fields
  obtain ⟨q, -, latency, t, ht, -, -⟩ := PlainRequest.concludes_of_verdict hc hs hr hv
  exact ⟨_, t, ht, ha.settles r.verb wanted latency⟩

/-- A deletion that the server counts as done is a success, even if it also counts a record as
skipped. -/
theorem write_accounted_deleted :
    let st : Settings := ⟨⟨["localhost"], nofun⟩, 28015, .hard, "usertable", "ycsb", none, 10⟩
    let fields : List (String × Value) :=
      [("deleted", .int 1), ("first_error", .str ""), ("skipped", .int 1)]
    let a : Account := ⟨fun c => match c with
      | .deleted | .skipped => some 1
      | _ => none, some ""⟩
    let s : Session WireClient Server :=
      { Session.fresh .empty ⟨true⟩
          ⟨.empty, ⟨[], []⟩, .empty, .new [1], [], ⟨none, none, [.ok (.object fields)], []⟩⟩
        with connected := true, settings := some st, host := some "localhost" }
    let r : PointRequest := ⟨"usertable", "k", .delete⟩
    a.GivenBy fields ∧ ¬a.Amiss r.verb ∧
      ∃ o t, r.perform s = .ok o t ∧ a.Settles r.verb .deleted o := by
  intro st fields a s r
  have ha : a.GivenBy fields := by
    refine ⟨fun c => ?_, rfl⟩
    cases c <;> rfl
  exact ⟨ha, fun hn => absurd hn.2.2 (by decide),
    @write_accounted r _ rfl s st rfl rfl rfl a fields rfl ha⟩

/-- An update that was skipped with an error is answered as if there were no such record, and the
error is not told. -/
theorem write_accounted_skipped :
    let st : Settings := ⟨⟨["localhost"], nofun⟩, 28015, .hard, "usertable", "ycsb", none, 10⟩
    let fields : List (String × Value) :=
      [("errors", .int 1), ("first_error", .str "Write failed"), ("skipped", .int 1)]
    let a : Account := ⟨fun c => match c with
      | .errors | .skipped => some 1
      | _ => none, some "Write failed"⟩
    let s : Session WireClient Server :=
      { Session.fresh .empty ⟨true⟩
          ⟨.empty, ⟨[], []⟩, .empty, .new [1], [], ⟨none, none, [.ok (.object fields)], []⟩⟩
        with connected := true, settings := some st, host := some "localhost" }
    let r : PointRequest := ⟨"usertable", "k", .update .empty⟩
    a.GivenBy fields ∧ 0 < a.number .errors ∧
      ∃ o t, r.perform s = .ok o t ∧ o.status = .notFound ∧ o.error = none := by
  intro st fields a s r
  have ha : a.GivenBy fields := by
    refine ⟨fun c => ?_, rfl⟩
    cases c <;> rfl
  exact ⟨ha, Nat.one_pos, _, _, rfl, rfl, rfl⟩

end PointRequest

end CrudBench
