import CrudBench.Proofs.Store.Keyed
import CrudBench.Proofs.Text.Successor
import Mathlib.Data.List.Forall2

/-!
# Scanning page by page

A scan of some records of a table visits the first keys of its range, and shows of each what a read
of it shows. Scanning on from behind the last key that was visited, until nothing is left, visits
every key of the range once (`Session.scan_exact`).
-/

namespace CrudBench

namespace SortedMap

variable {α : Type u}

/-- The keys from a key on. -/
def keysFrom (m : SortedMap α) (low : String) : List String := (m.startingAt low).keys

/-- From the successor of a key on there is what stands behind the key. -/
lemma entries_startingAt_successor {m : SortedMap α} {low : String} {front rest : List (String × α)}
    {e : String × α} (h : (m.startingAt low).entries = front ++ e :: rest) :
    (m.startingAt (Text.successor e.1)).entries = rest := by
  have hasc : (front ++ e :: rest).Pairwise fun a b => a.1 < b.1 := h ▸ (m.startingAt low).ascending
  obtain ⟨-, hrest, hfront⟩ := List.pairwise_append.1 hasc
  obtain ⟨hbehind, -⟩ := List.pairwise_cons.1 hrest
  have hlow : low ≤ e.1 :=
    (mem_keys_startingAt.1 (List.mem_map_of_mem (h ▸ List.mem_append_cons_self))).1
  calc
    (m.startingAt (Text.successor e.1)).entries
    _ = (m.startingAt low).entries.filter fun x => decide (Text.successor e.1 ≤ x.1) := by
      simp only [startingAt, filterKeys, List.filter_filter]
      refine List.filter_congr fun x _ => ?_
      rw [Bool.eq_iff_iff]
      simp only [decide_eq_true_eq, Bool.and_eq_true, Text.successor_le_iff]
      exact ⟨fun hx => ⟨hx, String.le_trans hlow (String.not_lt.1 (String.lt_asymm hx))⟩,
        fun hx => hx.1⟩
    _ = front.filter (fun x => decide (Text.successor e.1 ≤ x.1)) ++
        (e :: rest).filter fun x => decide (Text.successor e.1 ≤ x.1) := by
      rw [h, List.filter_append]
    _ = [] ++ rest := by
      congr 1
      · refine List.filter_eq_nil_iff.2 fun x hx => ?_
        have hlt := hfront x hx e List.mem_cons_self
        simpa [Text.successor_le_iff] using String.lt_asymm hlt
      · rw [List.filter_cons_of_neg (by simp [Text.successor_le_iff])]
        refine List.filter_eq_self.2 fun x hx => ?_
        simpa [Text.successor_le_iff] using hbehind x hx

/-- From the successor of a key on there are the keys behind the key. -/
lemma keysFrom_successor {m : SortedMap α} {low k : String} {front rest : List String}
    (h : m.keysFrom low = front ++ k :: rest) : m.keysFrom (Text.successor k) = rest := by
  obtain ⟨es, es', hes, -, hrest⟩ := List.map_eq_append_iff.1 h
  obtain ⟨e, fs, rfl, rfl, rfl⟩ := List.map_eq_cons_iff.1 hrest
  rw [keysFrom, keys, entries_startingAt_successor hes]

end SortedMap

/-! ## Pages -/

namespace Session

/-- A read of a key is answered with these fields of its record. -/
def Shows (s : Session StoreClient Store) (T : String) (fields : List String) (k : String)
    (d : Document) : Prop :=
  ∃ o t, read (.str T) (.str k) (.ofTexts fields) s = .ok o t ∧ o.data = some (.record d)

/-- A scan of so many records from a key on, in a table of these cells, returns the documents of the
first keys from there on, each as a read of it does, and changes nothing in the store. -/
structure Page (cells : SortedMap Row) (T : String) (fields : List String) (n : Int)
    (start : String) (s : Session StoreClient Store) (ks : List String) (ds : List Document)
    (t : Session StoreClient Store) : Prop where
  scanned : ∃ latency, scan (.str T) (.str start) (.int n) (.ofTexts fields) s =
    .ok (.found (.records ds) latency) t
  keys : ks = (cells.keysFrom start).take n.toNat
  shown : List.Forall₂ (s.Shows T fields) ks ds
  unchanged : t.far.databases = s.far.databases

/-- Page after page is scanned, each from behind the last key of the one before, until a page is
empty. -/
inductive Paged (cells : SortedMap Row) (T : String) (fields : List String) (n : Int) :
    String → Session StoreClient Store → List String → List Document →
      Session StoreClient Store → Prop
  | done {start s t} (h : Page cells T fields n start s [] [] t) :
      Paged cells T fields n start s [] [] t
  | next {start s t u front k ks ds ds'} (h : Page cells T fields n start s (front ++ [k]) ds t)
      (rest : Paged cells T fields n (Text.successor k) t ks ds' u) :
      Paged cells T fields n start s (front ++ [k] ++ ks) (ds ++ ds') u

variable {s : Session StoreClient Store} {st : Settings} {T : String} {cells : SortedMap Row}

section Serving

variable (hs : s.Serves st) (hc : s.contents.at? st.database T = some cells) (fields : List String)

include hs hc

/-- A read of a key that is there shows the visible fields of its record. -/
lemma Serves.shows {k : String} {row : Row} (hk : cells.get? k = some row) :
    s.Shows T fields k (row.visible fields) := by
  obtain ⟨o, t, ht, -, ho, -⟩ := PointRequest.perform_refines hs ⟨T, k, .read fields⟩
  refine ⟨o, t, ht, ?_⟩
  rw [ho.data, PointRequest.onContents_of_some hc]
  simp only [Verb.onCell, hk, Option.map_some]

/-- What is shown from a key on is what reads of the keys from there on show. -/
lemma Serves.forall₂_shows (start : String) :
    List.Forall₂ (s.Shows T fields) (cells.keysFrom start) (cells.shownFrom start fields) := by
  rw [SortedMap.keysFrom, SortedMap.keys, SortedMap.shownFrom, List.forall₂_map_left_iff,
    List.forall₂_map_right_iff, List.forall₂_same]
  intro e he
  have hk : cells.get? e.1 = some e.2 := SortedMap.get?_eq_some_iff_mem.2 (List.mem_filter.1 he).1
  exact hs.shows hc fields hk

/-- A scan of some records is a page. -/
lemma Serves.page (start : String) {n : Int} (hn : 1 ≤ n) :
    ∃ t, Page cells T fields n start s ((cells.keysFrom start).take n.toNat)
      ((cells.shownFrom start fields).take n.toNat) t ∧ t.Serves st := by
  obtain ⟨latency, t, ht, hb, hd⟩ := hs.scan_eq hc start (n := .int n) (show 0 < n by omega) fields
  exact ⟨t, ⟨⟨latency, ht⟩, rfl, List.forall₂_take n.toNat (hs.forall₂_shows hc fields start), hd⟩,
    hs.of_eq hb (hd ▸ hs.recorded)⟩

end Serving

/-- Pages that are scanned until one is empty visit all keys. -/
lemma Paged.keys_eq {fields : List String} {n : Int} (hn : 1 ≤ n) {start : String}
    {ks : List String} {ds : List Document} {t : Session StoreClient Store}
    (h : Paged cells T fields n start s ks ds t) : ks = cells.keysFrom start := by
  induction h with
  | @done start s t h =>
    rcases List.take_eq_nil_iff.1 h.keys.symm with h0 | hnil
    · omega
    · exact hnil.symm
  | @next start s t u front k ks ds ds' h rest ih =>
    have hsplit := List.take_append_drop n.toNat (cells.keysFrom start)
    rw [← h.keys, List.append_assoc, List.singleton_append] at hsplit
    rw [ih, SortedMap.keysFrom_successor hsplit.symm, List.append_assoc, List.singleton_append,
      hsplit]

/-- Page after page can be scanned until one is empty. -/
lemma Serves.paged (hs : s.Serves st) (hc : s.contents.at? st.database T = some cells)
    (fields : List String) (start : String) {n : Int} (hn : 1 ≤ n) :
    ∃ t, Paged cells T fields n start s (cells.keysFrom start) (cells.shownFrom start fields) t ∧
      t.far.databases = s.far.databases := by
  induction hlen : (cells.startingAt start).entries.length using Nat.strongRecOn
    generalizing start s with
  | ind len ih =>
    obtain ⟨t, hpage, ht⟩ := hs.page hc fields start hn
    have hsplit := List.take_append_drop n.toNat (cells.startingAt start).entries
    rw [SortedMap.keysFrom, SortedMap.keys, SortedMap.shownFrom, ← List.map_take, ← List.map_take]
      at hpage
    rcases List.eq_nil_or_concat ((cells.startingAt start).entries.take n.toNat) with
      hnil | ⟨front, e, hcons⟩
    · have hentries : (cells.startingAt start).entries = [] :=
        (List.take_eq_nil_iff.1 hnil).resolve_left (by omega)
      rw [SortedMap.keysFrom, SortedMap.keys, SortedMap.shownFrom, hentries]
      rw [hnil] at hpage
      exact ⟨t, .done hpage, hpage.unchanged⟩
    · generalize (cells.startingAt start).entries.drop n.toNat = rest at hsplit
      rw [hcons, List.concat_eq_append, List.append_assoc, List.singleton_append] at hsplit
      have hbehind := SortedMap.entries_startingAt_successor hsplit.symm
      have hc' : t.contents.at? st.database T = some cells := by
        rw [contents, hpage.unchanged]
        exact hc
      have hless : (cells.startingAt (Text.successor e.1)).entries.length < len := by
        rw [hbehind, ← hlen, ← hsplit]
        simp
        omega
      obtain ⟨u, hu, hd⟩ := ih _ hless ht hc' _ rfl
      rw [SortedMap.keysFrom, SortedMap.keys, SortedMap.shownFrom, hbehind] at hu
      rw [hcons, List.concat_eq_append, List.map_append, List.map_singleton] at hpage
      have hpaged := Paged.next hpage hu
      refine ⟨u, ?_, hd.trans hpage.unchanged⟩
      rw [SortedMap.keysFrom, SortedMap.keys, SortedMap.shownFrom, ← hsplit]
      simpa using hpaged

/-! ## Scans of a range -/

/-- Scans of a table of these cells from a key on are exactly its range from there on. -/
structure ScansExactly (s : Session StoreClient Store) (cells : SortedMap Row) (T : String)
    (fields : List String) (start : String) : Prop where
  ascending : (cells.keysFrom start).Pairwise (· < ·)
  range : ∀ k, k ∈ cells.keysFrom start ↔ start ≤ k ∧ cells.contains k = true
  page : ∀ n : Int, 1 ≤ n → ∃ ds t,
    Page cells T fields n start s ((cells.keysFrom start).take n.toNat) ds t
  shorter : ∀ n m : Int, 1 ≤ n → n ≤ m → ∀ ds es latency latency' t u,
    scan (.str T) (.str start) (.int n) (.ofTexts fields) s =
        .ok (.found (.records ds) latency) t →
      scan (.str T) (.str start) (.int m) (.ofTexts fields) s =
          .ok (.found (.records es) latency') u →
        ds <+: es
  paged : ∀ n : Int, 1 ≤ n → ∃ ds t, Paged cells T fields n start s (cells.keysFrom start) ds t ∧
    List.Forall₂ (s.Shows T fields) (cells.keysFrom start) ds ∧ t.far.databases = s.far.databases
  visited : ∀ n : Int, 1 ≤ n → ∀ ks ds t, Paged cells T fields n start s ks ds t →
    ks = cells.keysFrom start

/-- A session that serves scans exactly. -/
lemma Serves.scansExactly (hs : s.Serves st) (hc : s.contents.at? st.database T = some cells)
    (fields : List String) (start : String) : s.ScansExactly cells T fields start where
  ascending := SortedMap.pairwise_keys _
  range _ := SortedMap.mem_keys_startingAt
  page n hn := by
    obtain ⟨t, ht, -⟩ := hs.page hc fields start hn
    exact ⟨_, t, ht⟩
  shorter n m hn hnm ds es latency latency' t u h h' := by
    -- a scan has one result, so both are the ones that are known
    obtain ⟨_, _, hd, -⟩ := hs.scan_eq hc start (n := .int n) (show 0 < n by omega) fields
    obtain ⟨_, _, he, -⟩ := hs.scan_eq hc start (n := .int m) (show 0 < m by omega) fields
    cases h.symm.trans hd
    cases h'.symm.trans he
    exact List.take_prefix_take_left (Int.toNat_le_toNat hnm)
  paged n hn := by
    obtain ⟨t, ht, hd⟩ := hs.paged hc fields start hn
    exact ⟨_, t, ht, hs.forall₂_shows hc fields start, hd⟩
  visited n hn ks ds t h := h.keys_eq hn

/-- After any plain requests, a scan of so many records of a table from a key on shows exactly the
first keys of the range, in their order and each as a read of it does, and changes nothing. So fewer
records are a prefix of more, and scanning page by page, each time from the least text above the
last key, ends and visits every key of the range once. -/
theorem scan_exact (hs : s.Serves st) (rs : List PlainRequest)
    (hc : (PlainRequest.after rs s).contents.at? st.database T = some cells) (fields : List String)
    (start : String) :
    (PlainRequest.after rs s).ScansExactly cells T fields start ∧
      ∀ a b : String, Text.successor a ≤ b ↔ a < b :=
  ⟨(PlainRequest.serves_after hs rs).scansExactly hc fields start, fun _ _ => Text.successor_le_iff⟩

/-- A fresh backend over one record is initialised and puts another record in before it. -/
theorem scan_exact_pair :
    let s : Session StoreClient Store := .fresh .empty (.new false [])
      ⟨.empty, ⟨[], []⟩, .empty, .new [1], [], ⟨.single "ycsb" "usertable" "k" .empty, []⟩⟩
    let rs : List PlainRequest := [.point ⟨"usertable", "j", .insert .empty⟩]
    ∃ t st cells, init s = .ok () t ∧ t.Serves st ∧
      (PlainRequest.after rs t).contents.at? st.database "usertable" = some cells ∧
      cells.keysFrom "" = ["j", "k"] ∧
      (PlainRequest.after rs t).ScansExactly cells "usertable" [] "" := by
  intro s rs
  have hr : s.far.databases.Recorded := Databases.recorded_single "ycsb" "usertable" "k" .empty
  have hok : (match init s with
      | .ok _ t => t.settings.any fun st =>
        (((PlainRequest.after rs t).contents.at? st.database "usertable").map
          fun cells => cells.keysFrom "") == some ["j", "k"]
      | .error _ _ => false) = true := by decide +kernel
  cases h : init s with
  | error e t =>
    rw [h] at hok
    cases hok
  | ok a t =>
    obtain ⟨st, hst, -⟩ := serves_of_init hr h
    rw [h] at hok
    simp only [hst.settings, Option.any_some, beq_iff_eq, Option.map_eq_some_iff] at hok
    obtain ⟨cells, hc, hk⟩ := hok
    exact ⟨t, st, cells, rfl, hst, hc, hk, (scan_exact hst rs hc [] "").1⟩

end Session

end CrudBench
