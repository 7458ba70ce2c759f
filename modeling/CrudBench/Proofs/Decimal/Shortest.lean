import CrudBench.Decimal.Written
import Mathlib.Algebra.Group.Nat.Defs
import Mathlib.Data.List.DropRight
import Mathlib.Tactic.Lemma

/-!
# The digits of the shortest decimal

A positive number is written with digits of which the first is not zero (`leads_toDigits`), and the
shortest decimal that rounds to a positive double is itself positive (`shortest_coefficient_pos`):
what rounds to such a double keeps away from zero.
-/

namespace CrudBench.Decimal

/-! ## Digits -/

/-- Digits, of which there is at least one, without a zero in front. -/
structure Leads (ds : List Char) : Prop where
  digits : ∀ c ∈ ds, c.isDigit = true
  first : ∃ c cs, ds = c :: cs ∧ c ≠ '0'

lemma Leads.ne_nil {ds : List Char} (h : Leads ds) : ds ≠ [] := by
  obtain ⟨c, cs, rfl, -⟩ := h.first
  exact List.cons_ne_nil c cs

/-- More digits behind leave the first one as it is. -/
lemma Leads.append {ds es : List Char} (h : Leads ds) (he : ∀ c ∈ es, c.isDigit = true) :
    Leads (ds ++ es) := by
  obtain ⟨c, cs, rfl, hc⟩ := h.first
  exact ⟨fun d hd => (List.mem_append.1 hd).elim (h.digits d) (he d), c, cs ++ es, rfl, hc⟩

/-- So do fewer digits behind, as long as there is one. -/
lemma Leads.of_prefix {ds es : List Char} (h : Leads ds) (hp : es <+: ds) (hne : es ≠ []) :
    Leads es := by
  obtain ⟨c, cs, rfl⟩ := List.exists_cons_of_ne_nil hne
  obtain ⟨c', cs', rfl, hc⟩ := h.first
  obtain ⟨rfl, -⟩ := List.cons_prefix_cons.1 hp
  exact ⟨fun d hd => h.digits d (hp.subset hd), c, cs, rfl, hc⟩

lemma isDigit_of_mem_toDigits {n : Nat} : ∀ c ∈ Nat.toDigits 10 n, c.isDigit = true :=
  fun _ hc => Nat.isDigit_of_mem_toDigits (by decide) (by decide) hc

/-- A positive number does not start with a zero. -/
lemma leads_toDigits {n : Nat} (h : n ≠ 0) : Leads (Nat.toDigits 10 n) := by
  induction n using Nat.strongRecOn with
  | _ n ih =>
    rcases Nat.lt_or_ge n 10 with hlt | hge
    · have hfirst : ∀ n < 10, n ≠ 0 → Nat.digitChar n ≠ '0' := by decide
      exact ⟨isDigit_of_mem_toDigits, _, [], Nat.toDigits_of_lt_base hlt, hfirst n hlt h⟩
    · have hsplit := Nat.toDigits_of_base_le (b := 10) (by decide) hge
      have hhead : Leads (Nat.toDigits 10 (n / 10)) := ih (n / 10) (by omega) (by omega)
      rw [hsplit]
      refine hhead.append fun c hc => isDigit_of_mem_toDigits (n := n) c ?_
      rw [hsplit]
      exact List.mem_append_right _ hc

/-- Without its trailing zeros a number starts as before. -/
lemma Leads.significant {ds : List Char} (h : Leads ds) : Leads (significant ds) := by
  refine h.of_prefix (List.rdropWhile_prefix (· = '0') ds) fun hnil => ?_
  obtain ⟨c, cs, rfl, hc⟩ := h.first
  exact hc (of_decide_eq_true (List.rdropWhile_eq_nil_iff.1 hnil c List.mem_cons_self))

/-! ## The interval -/

/-- Zero does not round to a positive double. -/
lemma RoundingInterval.not_contains_zero {m : Nat} (hm : m ≠ 0) (q k : Int) :
    (RoundingInterval.of m q).contains (.ofDecimal 0 k) = false := by
  have hlow : 0 < (RoundingInterval.of m q).low.num := by
    refine Nat.mul_pos ?_ (Nat.pow_pos (by decide))
    split <;> omega
  have hden : 0 < (Ratio.ofDecimal 0 k).den := Nat.pow_pos (by decide)
  have hcmp : (RoundingInterval.of m q).low.cmp (.ofDecimal 0 k) = .gt := by
    rw [Ratio.cmp, Nat.compare_eq_gt, Ratio.ofDecimal, Nat.zero_mul, Nat.zero_mul]
    exact Nat.mul_pos hlow hden
  rw [contains, hcmp]

/-- A decimal that was picked from the interval of a positive double is positive. -/
lemma RoundingInterval.pick?_coefficient_pos {m : Nat} (hm : m ≠ 0) {q : Int} {r : Ratio}
    {digits : Nat} {d : Decimal} (h : (RoundingInterval.of m q).pick? r digits = some d) :
    d.coefficient ≠ 0 := by
  have hzero (k : Int) {a : Nat} (ha : (RoundingInterval.of m q).contains (.ofDecimal a k) = true) :
      a ≠ 0 := by
    rintro rfl
    rw [not_contains_zero hm] at ha
    cases ha
  rw [pick?] at h
  split at h
  next ha hb =>
    cases h
    show Ratio.nearer .. ≠ 0
    rw [Ratio.nearer]
    split
    · exact hzero _ ha
    · exact hzero _ hb
    · split
      · exact hzero _ ha
      · exact hzero _ hb
  next ha _ =>
    cases h
    exact hzero _ ha
  next hb =>
    cases h
    exact Nat.succ_ne_zero _
  · cases h

/-- The shortest decimal of a positive double is positive. -/
lemma shortest_coefficient_pos {m : Nat} (hm : m ≠ 0) (q : Int) :
    (shortest m q).coefficient ≠ 0 := by
  rw [shortest]
  cases h : (List.range' 1 17).findSome? ((RoundingInterval.of m q).pick? (Ratio.ofBinary m q)) with
  | none => exact hm
  | some d =>
    obtain ⟨digits, -, hpick⟩ := List.exists_of_findSome?_eq_some h
    exact RoundingInterval.pick?_coefficient_pos hm hpick

end CrudBench.Decimal
