import CrudBench.Proofs.Store.Idempotence
import CrudBench.Proofs.Store.KeyField

/-!
# Records under their keys

In databases whose records all stand under their keys, that remains so, whatever backends are told
to do and whichever failures are armed (`World.keys_kept`). So a scan that shows keys shows by which
key each record is read.
-/

namespace CrudBench

/-! ## Backends that share a store -/

/-- The visit is none of a backend that is told to carry out something else than a plain request. -/
def Visit.Plain : Visit → Prop
  | .tell _ (.request r) => ∃ p : PlainRequest, r = p.request
  | _ => True

namespace Session

variable {s : Session StoreClient Store}

/-- An initialisation leaves the databases as they are, or makes its schema ready. -/
lemma init_databases (s : Session StoreClient Store) :
    ((init : Action (Session StoreClient Store) Unit).outcome s).2.far.databases =
        s.far.databases ∨ ∃ st : Settings,
      ((init : Action (Session StoreClient Store) Unit).outcome s).2.far.databases =
        st.ensured s.far.databases := by
  rw [Action.outcome]
  cases hr : s.resolved with
  | error x =>
    rw [init_apply, hr]
    exact .inl rfl
  | ok st =>
    cases hf : s.client.refuses with
    | true =>
      obtain ⟨x, hx⟩ := init_of_refused hr hf
      rw [hx]
      exact .inl rfl
    | false =>
      cases ha : s.client.armed with
      | some message =>
        rw [init_of_armed hr hf ha]
        exact .inl rfl
      | none =>
        obtain ⟨t, ht, -, hd⟩ := init_of_unarmed hr hf ha
        rw [ht]
        exact .inr ⟨st, congrArg Store.databases hd⟩

/-- The session ends with databases of records that lead on from those it has begun with. -/
def LeadsOn (s : Session StoreClient Store) (t : Session StoreClient Store) : Prop :=
  t.far.databases.Recorded ∧ s.contents.Leads t.contents

lemma leadsOn_of_same {t : Session StoreClient Store} (hr : s.far.databases.Recorded)
    (h : t.far.databases = s.far.databases) : s.LeadsOn t := by
  rw [LeadsOn, contents, contents, h]
  exact ⟨hr, Contents.leads_refl _⟩

/-- Whatever a backend is told, if requests are plain, the databases lead on. -/
lemma leadsOn_act (hb : s.toBackend.Sound) (hr : s.far.databases.Recorded) {c : Command}
    (hc : ∀ r, c = .request r → ∃ p : PlainRequest, r = p.request) (i : Nat) :
    s.LeadsOn (c.episode i s).after := by
  cases c with
  | init =>
    rw [Command.episode_init]
    rcases init_databases s with h | ⟨st, h⟩
    · exact leadsOn_of_same hr h
    · rw [LeadsOn, contents, contents, h, Settings.ensured, Databases.records_ensure]
      exact ⟨hr.ensure st.database st.table, Contents.leads_ensure _ _ _⟩
  | cleanup =>
    refine leadsOn_of_same hr ?_
    rw [Command.episode, Command.act, Action.outcome, Action.bind_apply, cleanup_apply]
    cases s.client.isOpen <;> rfl
  | info =>
    refine leadsOn_of_same hr ?_
    show ((Command.info.act : Action (Session StoreClient Store) Response).outcome
      s).2.far.databases = _
    simp only [Action.outcome, Command.act, Session.info, Action.bind_apply, Action.get_apply]
    cases s.toBackend.info <;> rfl
  | request r =>
    obtain ⟨p, rfl⟩ := hc r rfl
    rw [Command.episode_request]
    rcases p.perform_ends hb.settings hr with
      ⟨o, t, ht, hd, -⟩ | ⟨st, -, latency, t, ht, -, hr', hd⟩
    · rw [Action.outcome, ht]
      exact leadsOn_of_same hr hd
    · rw [Action.outcome, ht]
      refine ⟨hr', ?_⟩
      show s.contents.Leads t.contents
      rw [hd]
      exact Contents.leads_conclude _ _ p

end Session

namespace World

variable {site : Site Store} {vs : List Visit}

lemma leadsOn_step {w : World StoreClient Store}
    (hw : ∀ (j : Nat) b, w.backends[j]? = some b → b.Sound)
    (hr : w.site.far.databases.Recorded) {v : Visit} (hv : v.Plain) :
    (w.step v.turn).site.far.databases.Recorded ∧
      w.site.far.databases.records.Leads (w.step v.turn).site.far.databases.records := by
  cases v with
  | tell i c =>
    show (w.step (.tell i c)).site.far.databases.Recorded ∧
      w.site.far.databases.records.Leads (w.step (.tell i c)).site.far.databases.records
    cases hs : w.session? i with
    | none =>
      rw [step_tell_of_none hs]
      exact ⟨hr, Contents.leads_refl _⟩
    | some s =>
      obtain ⟨hb, hsite⟩ := session?_eq_some.1 hs
      rw [step_tell hs, hsite]
      refine Session.leadsOn_act (hw i _ hb) (hsite ▸ hr) ?_ i
      rintro r rfl
      exact hv
  | _ => exact ⟨hr, Contents.leads_refl _⟩

/-- Databases of records lead on through visits, whoever they are. -/
lemma leadsOn_after {w : World StoreClient Store}
    (hw : ∀ (j : Nat) b, w.backends[j]? = some b → b.Sound)
    (hr : w.site.far.databases.Recorded) (hvs : ∀ v ∈ vs, v.Plain) :
    (w.after (vs.map Visit.turn)).site.far.databases.Recorded ∧
      w.site.far.databases.records.Leads
        (w.after (vs.map Visit.turn)).site.far.databases.records := by
  have h := Visit.keeps_after (w := w) (P := Visit.Plain)
    (I := fun w' => (∀ (j : Nat) b, w'.backends[j]? = some b → b.Sound) ∧
      w'.site.far.databases.Recorded ∧
      w.site.far.databases.records.Leads w'.site.far.databases.records) ?_
    ⟨hw, hr, Contents.leads_refl _⟩ hvs
  · exact h.2
  · rintro w' v ⟨hw', hr', hl⟩ hv
    obtain ⟨hr'', hl'⟩ := leadsOn_step hw' hr' hv
    exact ⟨Visit.sound_step hw' v, hr'', hl.trans hl'⟩

lemma recorded_of_visited (hr : site.far.databases.Recorded) (hvs : ∀ v ∈ vs, v.Plain) :
    (visited site vs).site.far.databases.Recorded :=
  (leadsOn_after (w := ⟨[], site⟩) Visit.sound_nil hr hvs).1

end World

/-! ## Scans that show keys -/

/-- The key is among the visible fields if it is asked for. -/
lemma Row.Keyed.get?_visible {key : String} {row : Row} (h : row.Keyed key) {fields : List String}
    (hf : primaryKey ∈ fields) : (row.visible fields).get? primaryKey = some key := by
  have hempty : fields.isEmpty = false := by cases fields <;> [cases hf; rfl]
  have hvisible : Row.isVisible fields primaryKey = true := by
    rw [isVisible, hempty]
    simpa using hf
  rw [visible, SortedMap.get?_map, SortedMap.get?_filterKeys, if_pos hvisible, h]
  rfl

namespace Session

variable {s : Session StoreClient Store} {st : Settings} {T : String} {cells : SortedMap Row}

/-- A read under this key that asks for the key gives it back. -/
def GivesBack (s : Session StoreClient Store) (T k : String) : Prop :=
  ∀ fields, primaryKey ∈ fields → ∃ o t d,
    read (.str T) (.str k) (.ofTexts fields) s = .ok o t ∧ o.status = .ok ∧
      o.data = some (.record d) ∧ d.get? primaryKey = some k

/-- A scan from a key on that asks for keys lists them in ascending order. Every backend that is at
work on the same database then reads each record by the key that was listed. -/
structure Lists (s : Session StoreClient Store) (w : World StoreClient Store) (i : Nat) (T : String)
    (o : Outcome) (t : Session StoreClient Store) : Prop where
  answered : s.connected = true → s.client.armed = none → ∀ st, s.settings = some st →
    (s.far.databases.table? st.database T).isSome = true → ∃ ds, o.data = some (.records ds)
  listed : ∀ ds, o.data = some (.records ds) → ∃ ks : List String,
    ds.map (·.get? primaryKey) = ks.map some ∧ ks.Pairwise (· < ·) ∧
      ∀ k ∈ ks, ∀ j u, (w.absorb i t).session? j = some u →
        u.connected = true → u.client.armed = none →
        u.settings.map (·.database) = s.settings.map (·.database) → u.GivesBack T k

lemma Serves.givesBack (hs : s.Serves st) (hd : s.far.databases.Keyed)
    (hc : s.contents.at? st.database T = some cells) {k : String} (hk : cells.contains k = true) :
    s.GivesBack T k := by
  intro fields hf
  obtain ⟨row, hrow⟩ := Option.isSome_iff_exists.1 hk
  have hkeyed : row.Keyed k := hd.of_get? hc hrow
  obtain ⟨latency, t, ht, -⟩ := hs.concludes (.point ⟨T, k, .read fields⟩)
  have hx : (PlainRequest.conclude st.database s.contents (.point ⟨T, k, .read fields⟩)).1 =
      .found (.record (row.visible fields)) := by
    rw [PlainRequest.conclude_of_some rfl hc]
    show (Verb.conclude k (cells.get? k) (.read fields)).1 = _
    rw [hrow]
    rfl
  rw [hx] at ht
  exact ⟨_, t, _, ht, rfl, rfl, hkeyed.get?_visible hf⟩

/-- What a table shows from a key on, with their keys, are the keys from there on. -/
lemma map_get?_shownFrom (hkeyed : ∀ k, ∀ row ∈ cells.get? k, row.Keyed k) (start : String)
    {fields : List String} (hf : primaryKey ∈ fields) (n : Nat) :
    ((cells.shownFrom start fields).take n).map (·.get? primaryKey) =
      ((cells.startingAt start).keys.take n).map some := by
  rw [SortedMap.shownFrom, SortedMap.keys, ← List.map_take, ← List.map_take, List.map_map,
    List.map_map]
  refine List.map_congr_left fun e he => ?_
  have hmem : e ∈ (cells.startingAt start).entries := List.mem_of_mem_take he
  have hentry : e ∈ cells.entries := (List.mem_filter.1 hmem).1
  exact (hkeyed e.1 e.2 (SortedMap.get?_eq_some_iff_mem.2 hentry)).get?_visible hf

end Session

namespace World

variable {site : Site Store} {us vs : List Visit} {i : Nat} {s : Session StoreClient Store}

/-- After one backend was at work, every backend is sound, and finds what that one has left. -/
lemma sound_of_absorb (hs : (visited site vs).session? i = some s) {t : Session StoreClient Store}
    (ht : t.toBackend = s.toBackend) {j : Nat} {u : Session StoreClient Store}
    (hu : ((visited site vs).absorb i t).session? j = some u) :
    u.toBackend.Sound ∧ u.far = t.far := by
  rw [session?_absorb hs] at hu
  split at hu
  · cases hu
    exact ⟨ht ▸ sound_of_visited hs, rfl⟩
  · obtain ⟨v, hv, rfl⟩ := Option.map_eq_some_iff.1 hu
    have hsound := sound_of_visited hv
    exact ⟨hsound, rfl⟩

lemma lists_of_no_record {w : World StoreClient Store} {T : String} {o : Outcome}
    {t : Session StoreClient Store} (hdata : ∀ data, o.data = some data → data = .records [])
    (hanswered : s.connected = true → s.client.armed = none → ∀ st, s.settings = some st →
      (s.far.databases.table? st.database T).isSome = true → ∃ ds, o.data = some (.records ds)) :
    s.Lists w i T o t := by
  refine ⟨hanswered, fun ds hds => ?_⟩
  cases hdata _ hds
  exact ⟨[], rfl, .nil, nofun⟩

/-- Over records under their keys, a session that serves lists the keys by which they are read. -/
lemma lists_of_serves (hs : (visited site vs).session? i = some s) {st : Settings}
    (hserves : s.Serves st) (hd : s.far.databases.Keyed) (T start : String) (n : Int)
    {fields : List String} (hf : primaryKey ∈ fields) :
    ∃ o t, Session.scan (.str T) (.str start) (.int n) (.ofTexts fields) s = .ok o t ∧
      s.Lists (visited site vs) i T o t := by
  obtain ⟨latency, t, ht, hb, hr, hcontents⟩ := hserves.concludes (.range T start n fields)
  refine ⟨_, t, ht, ?_⟩
  cases h : (PlainRequest.range T start n fields).shortcut? with
  | some o =>
    rcases PlainRequest.shortcut_cases h with ⟨_, _, hr, -⟩ | ⟨_, _, _, _, -, -, rfl⟩
    · cases hr
    · rw [PlainRequest.conclude_of_shortcut h]
      refine lists_of_no_record ?_ fun _ _ _ _ _ => ⟨[], rfl⟩
      rintro _ ⟨⟩
      rfl
  | none =>
    cases hc : s.contents.at? st.database T with
    | none =>
      rw [PlainRequest.conclude_of_none h hc]
      refine lists_of_no_record nofun fun _ _ st' hst' htable => ?_
      cases hserves.settings.symm.trans hst'
      rw [Session.contents, Databases.at?_records, Option.map_eq_none_iff] at hc
      rw [hc] at htable
      cases htable
    | some cells =>
      rw [PlainRequest.conclude_of_some h hc] at hcontents ⊢
      refine ⟨fun _ _ _ _ _ => ⟨_, rfl⟩, ?_⟩
      rintro _ ⟨⟩
      have hkeyed : ∀ k, ∀ row ∈ cells.get? k, row.Keyed k := fun k row => hd.of_get? hc
      have hsame : t.contents = s.contents := hcontents.trans (SortedMap.putAt_self hc)
      refine ⟨_, Session.map_get?_shownFrom hkeyed start hf n.toNat,
        (SortedMap.pairwise_keys _).sublist (List.take_sublist _ _), ?_⟩
      intro k hk j u hu hconnected harmed hsettings
      obtain ⟨hsound, hfar⟩ := sound_of_absorb hs hb hu
      -- whoever reads works on the same database, which the scan has left as it was
      obtain ⟨st', hst'⟩ := Option.isSome_iff_exists.1 (hsound.settings hconnected)
      rw [hst', hserves.settings] at hsettings
      have hdb : st'.database = st.database := Option.some.inj hsettings
      have hkeyed' : u.far.databases.Keyed := by
        rw [hfar]
        refine hr.keyed_iff.2 ?_
        show ∀ db t' k, ∀ row ∈ t.contents.cell? db t' k, row.Keyed k
        rw [hsame]
        exact hd.recorded.keyed_iff.1 hd
      have hfound : u.contents.at? st'.database T = some cells := by
        rw [hdb, ← hc, ← hsame, Session.contents, hfar]
        rfl
      have hlisted := SortedMap.mem_keys_startingAt.1 (List.mem_of_mem_take hk)
      exact Session.Serves.givesBack ⟨hconnected, hst', harmed, hkeyed'.recorded⟩ hkeyed' hfound
        hlisted.2

/-- In databases with records under their keys, a scan that asks for keys lists those by which the
records are read. -/
lemma lists_of_keyed (hs : (visited site vs).session? i = some s) (hd : s.far.databases.Keyed)
    (T start : String) (n : Int) {fields : List String} (hf : primaryKey ∈ fields) :
    ∃ o t, Session.scan (.str T) (.str start) (.int n) (.ofTexts fields) s = .ok o t ∧
      s.Lists (visited site vs) i T o t := by
  by_cases hserves : ∃ st, s.Serves st
  · obtain ⟨st, hserves⟩ := hserves
    exact lists_of_serves hs hserves hd T start n hf
  · obtain ⟨o, t, ht, -, hdata⟩ | ⟨st, hst, -⟩ := PlainRequest.perform_ends
      (sound_of_visited hs).settings hd.recorded (.range T start n fields)
    · exact ⟨o, t, ht, lists_of_no_record hdata fun hc ha st hst _ =>
        absurd ⟨st, hc, hst, ha, hd.recorded⟩ hserves⟩
    · exact absurd ⟨st, hst⟩ hserves

/-- From databases with records under their keys on, whatever backends are told that share them, and
whichever failures are armed, records stand under their keys. Nothing is put in under an empty key,
and what is written is text. Scans list the keys, in their order, by which records are read. -/
theorem keys_kept (hd : site.far.databases.Keyed) (hvs : ∀ v ∈ us ++ vs, v.Plain) :
    (visited site us).site.far.databases.LeadsTo (visited site (us ++ vs)).site.far.databases ∧
      ∀ i s, (visited site (us ++ vs)).session? i = some s →
        ∀ (T start : String) (n : Int) (fields : List String), primaryKey ∈ fields →
          ∃ o t, Session.scan (.str T) (.str start) (.int n) (.ofTexts fields) s = .ok o t ∧
            s.Lists (visited site (us ++ vs)) i T o t := by
  obtain ⟨hus, hvs⟩ := List.forall_mem_append.1 hvs
  obtain ⟨hr, hl⟩ := leadsOn_after (w := ⟨[], site⟩) Visit.sound_nil hd.recorded hus
  have hstart : (visited site us).site.far.databases.Keyed := (hd.leadsTo hr hl).keyed
  have hsound := Visit.sound_after (w := ⟨[], site⟩) Visit.sound_nil us
  obtain ⟨hr', hl'⟩ := leadsOn_after (w := visited site us) hsound hr hvs
  rw [← visited_append] at hr' hl'
  have hleads := hstart.leadsTo hr' hl'
  refine ⟨hleads, fun i s hs T start n fields hf => lists_of_keyed hs ?_ T start n hf⟩
  have hkeyed := hleads.keyed
  rw [(session?_eq_some.1 hs).2] at hkeyed
  exact hkeyed

/-- Two backends write and overwrite the key field of records, and one of them is armed. -/
theorem keys_kept_overwritten :
    let row (fields : List (String × Value)) : Value := Row.value (.ofList fields)
    let site : Site Store := ⟨.empty, ⟨[], []⟩, .empty, .new [1], [],
      ⟨.single "ycsb" "usertable" "" (Row.stored .empty ""), []⟩⟩
    let us : List Visit := [.join .empty false [], .join .empty false [], .tell 0 .init,
      .tell 1 .init, .arm 1 (.str "gone")]
    let vs : List Visit := [
      .tell 0 (.request (.insert (.str "usertable") (.str "k")
        (row [("__pk__", .int 7), ("n", .int 7)]))),
      .tell 1 (.request (.delete (.str "usertable") (.str "k"))),
      .tell 1 (.request (.update (.str "usertable") (.str "k")
        (row [("__pk__", .str "j"), ("n", .int 8)])))]
    site.far.databases.Keyed ∧ (∀ v ∈ us ++ vs, v.Plain) ∧
      (visited site us).site.far.databases.LeadsTo (visited site (us ++ vs)).site.far.databases ∧
      ((visited site (us ++ vs)).session? 1).isSome = true ∧
      ((visited site (us ++ vs)).site.far.databases.records.cell? "ycsb" "usertable" "k").any
        (fun row => row.entries.map (·.2.text) == ["k", "8"]) = true ∧
      ∀ s, (visited site (us ++ vs)).session? 1 = some s →
        ∃ o t, Session.scan (.str "usertable") (.str "") (.int 9) (.ofTexts ["__pk__"]) s =
          .ok o t ∧ s.Lists (visited site (us ++ vs)) 1 "usertable" o t := by
  intro row site us vs
  have hd : site.far.databases.Keyed :=
    Databases.keyed_single "ycsb" "usertable" (Row.keyed_stored .empty "")
  have hvs : ∀ v ∈ us ++ vs, v.Plain := by
    simp only [us, vs, List.cons_append, List.nil_append, List.forall_mem_cons, Visit.Plain,
      true_and]
    exact ⟨⟨.point ⟨"usertable", "k", .insert _⟩, rfl⟩, ⟨.point ⟨"usertable", "k", .delete⟩, rfl⟩,
      ⟨.point ⟨"usertable", "k", .update _⟩, rfl⟩, nofun⟩
  obtain ⟨hleads, hlists⟩ := keys_kept hd hvs
  exact ⟨hd, hvs, hleads, by decide +kernel, by decide +kernel,
    fun s hs => hlists 1 s hs "usertable" "" 9 ["__pk__"] List.mem_cons_self⟩

end World

end CrudBench
