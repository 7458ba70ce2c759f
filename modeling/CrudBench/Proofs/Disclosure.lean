import CrudBench.Proofs.Masking
import CrudBench.Proofs.World
import CrudBench.Store.Client

/-!
# What a backend tells about its configuration

Of a text under a name that suggests a secret, a backend tells the last four characters and nothing
else, in whatever state it is, and telling changes nothing: not the configuration, and not what
happens afterwards (`World.secrets_hidden`). What is told hides something of an entry in no other
case: short texts, values that are no texts, and whatever is inside another value are told as they
are (`Backend.hidden_iff`).
-/

namespace CrudBench

variable {κ ω : Type}

/-- The configuration as the backend tells it. -/
def Backend.shown (b : Backend κ) : Except Misfit (OrderedMap Value) := b.info.map (·.config)

lemma Backend.shown_eq (b : Backend κ) : b.shown = b.config.masked := by
  rw [shown, info]
  cases b.config.masked <;> rfl

/-! ## Telling -/

/-- The command is to tell about the backend. -/
def Command.isInfo : Command → Bool
  | info => true
  | _ => false

/-- The turn is to tell about a backend. -/
def Turn.isInfo : Turn κ ω → Bool
  | tell _ c => c.isInfo
  | _ => false

variable [Client κ ω]

/-- A backend is after telling about itself as it was before. -/
lemma Command.after_isInfo {c : Command} (h : c.isInfo = true) (s : Session κ ω) :
    (c.act.outcome s).2 = s := by
  cases c with
  | info =>
    rw [act, Action.outcome_map, Session.info, Action.outcome_bind, Action.get_apply]
    dsimp only
    cases s.toBackend.info <;> rfl
  | _ => cases h

namespace World

variable {w : World κ ω}

omit [Client κ ω] in
lemma absorb_self {i : Nat} {s : Session κ ω} (h : w.session? i = some s) : w.absorb i s = w := by
  obtain ⟨hb, hs⟩ := session?_eq_some.1 h
  rw [absorb, ← hs]
  congr
  rw [← List.getElem?_eq_some_iff.1 hb |>.2, List.set_getElem_self]

/-- Telling about a backend changes nothing in the world. -/
lemma step_isInfo {x : Turn κ ω} (h : x.isInfo = true) : w.step x = w := by
  cases x with
  | tell i c =>
    cases hs : w.session? i with
    | none => exact step_tell_of_none hs c
    | some s =>
      rw [step_tell hs]
      show w.absorb i (c.act.outcome s).2 = w
      rw [Command.after_isInfo h, absorb_self hs]
  | _ => cases h

/-- The episode of a turn tells about a backend if the turn does. -/
lemma isInfo_of_episode? {x : Turn κ ω} {e : Episode κ ω} (h : w.episode? x = some e) :
    e.command.isInfo = x.isInfo := by
  cases x with
  | tell i c =>
    obtain ⟨s, -, rfl⟩ := Option.map_eq_some_iff.1 h
    rfl
  | _ => cases h

/-- Without the turns in which backends tell about themselves the world ends as it does with them,
and all other episodes are the same. -/
lemma run_untold (xs : List (Turn κ ω)) (w : World κ ω) :
    w.after (xs.filter (!·.isInfo)) = w.after xs ∧
      run (xs.filter (!·.isInfo)) w = (run xs w).filter (!·.command.isInfo) := by
  induction xs generalizing w with
  | nil => exact ⟨rfl, rfl⟩
  | cons x xs ih =>
    obtain ⟨hafter, hrun⟩ := ih (w.step x)
    have htold : ((w.episode? x).toList).filter (!·.command.isInfo) =
        if x.isInfo then [] else (w.episode? x).toList := by
      cases he : w.episode? x with
      | none => simp
      | some e => cases hx : x.isInfo <;> simp [isInfo_of_episode? he, hx]
    rw [run, List.filter_append, htold, ← hrun]
    cases hx : x.isInfo with
    | true =>
      rw [step_isInfo hx] at hafter ⊢
      rw [List.filter_cons_of_neg (by simp [hx])]
      refine ⟨?_, rfl⟩
      rw [hafter]
      exact congrArg (xs.foldl step) (step_isInfo hx).symm
    | false =>
      rw [List.filter_cons_of_pos (by simp [hx])]
      exact ⟨hafter, rfl⟩

end World

/-- Whatever a backend is told, its configuration stays. -/
lemma Session.enduring_config (P : Properties → Prop) :
    Enduring fun s : Session κ ω => P s.config where
  toStable := .of_linked (fun h => h) (fun _ h => h) fun _ h => h
  closed := keeps_cleanup (keeps_viaClient_of_linked (fun _ h => h) _) fun _ h => h
  loaded h := h
  refused _ _ _ h _ := h
  accepted _ _ h _ := h

namespace World

variable {w : World κ ω} {i : Nat} {b : Backend κ}

/-- After a turn a backend has the configuration that it had. -/
lemma config_step (h : w.backends[i]? = some b) (x : Turn κ ω) :
    ∃ b', (w.step x).backends[i]? = some b' ∧ b'.config = b.config := by
  obtain ⟨hi, -⟩ := List.getElem?_eq_some_iff.1 h
  have hkept : ∀ j c, (w.step x).backends[j]? = some c → j = i → c.config = b.config := by
    refine step_backends (P := fun j c => j = i → c.config = b.config)
      (fun j => Session.enduring_config fun p => j = i → p = b.config) ?_ ?_
    · rintro j c hc rfl
      cases h.symm.trans hc
      rfl
    · cases x with
      | join config client => exact fun hj => absurd hj (Nat.ne_of_gt hi)
      | equip j f => exact fun c hc => hc
      | _ => trivial
  have hb := List.getElem?_eq_getElem (hi.trans_le (length_step w x))
  exact ⟨_, hb, hkept i _ hb rfl⟩

/-- A backend has the configuration that it joined with. -/
lemma config_after (h : w.backends[i]? = some b) (xs : List (Turn κ ω)) :
    ∃ b', (w.after xs).backends[i]? = some b' ∧ b'.config = b.config := by
  induction xs generalizing w b with
  | nil => exact ⟨b, h, rfl⟩
  | cons x xs ih =>
    obtain ⟨c, hc, hconfig⟩ := config_step h x
    obtain ⟨b', hb', hconfig'⟩ := ih hc
    exact ⟨b', hb', hconfig'.trans hconfig⟩

/-- Backends whose configurations differ in the beginnings of secrets only, which are texts that are
not empty, tell the same configuration, whatever states they are in. A configuration whose names are
texts is told entry by entry under these names, with every entry that is no secret as it is. No
backend ever has another configuration than the one that it joined with, and without the turns in
which backends tell about themselves everything else is as it is with them. In memory it is a copy
that is masked: however often that was done, the configuration is what it was, and the next copy is
what is told. -/
theorem secrets_hidden :
    (∀ b c : Backend κ, List.Forall₂ Resemble b.config.entries c.config.entries →
      b.shown = c.shown) ∧
    (∀ b : Backend κ, ((∃ shown, b.shown = .ok shown) ↔ b.config.Named) ∧
      ∀ shown, b.shown = .ok shown → List.Forall₂ ShownAs b.config.entries shown.entries) ∧
    (∀ (w : World κ ω) (xs : List (Turn κ ω)),
      (∀ (i : Nat) (b : Backend κ), w.backends[i]? = some b →
        ∃ b', (w.after xs).backends[i]? = some b' ∧ b'.config = b.config) ∧
      w.after (xs.filter (!·.isInfo)) = w.after xs ∧
      run (xs.filter (!·.isInfo)) w = (run xs w).filter (!·.command.isInfo)) ∧
    ∀ (m : Memory) (before : List Nat) (i : Nat) (b : Backend κ), m[i]? = some b.config →
      (Memory.masked m before)[i]? = some b.config ∧
      ∃ copy : Properties, (Memory.mask i).outcome (Memory.masked m before) =
          ((b.shown.map fun _ => (Memory.masked m before).length).mapError .misfit,
            Memory.masked m before ++ [copy]) ∧
        ∀ shown, b.shown = .ok shown →
          copy.entries = shown.entries.map fun e => (.str e.1, e.2) := by
  refine ⟨fun b c h => ?_, fun b => ⟨?_, fun shown h => ?_⟩,
    fun w xs => ⟨fun i b h => config_after h xs, run_untold xs w⟩, fun m before i b h => ?_⟩
  · rw [b.shown_eq, c.shown_eq, Properties.masked_congr h]
  · rw [b.shown_eq]
    exact ⟨fun ⟨_, h⟩ => (Properties.named_of_masked h).1,
      fun h => ⟨_, Properties.masked_of_named h⟩⟩
  · exact Properties.shownAs_of_masked (b.shown_eq ▸ h)
  · have hb := Memory.getElem?_of_prefix (Memory.prefix_masked m before) h
    rw [b.shown_eq]
    exact ⟨hb, Memory.outcome_mask hb⟩

/-- Two pass phrases that end alike are told alike, whether or not there is a connection, and the
second time as the first time. -/
theorem secrets_hidden_phrases :
    let p : Properties := .ofFields [("DB_Password", .str "correct horse"), ("host", .str "db1")]
    let q : Properties := .ofFields [("DB_Password", .str "dark horse"), ("host", .str "db1")]
    let b : Backend StoreClient := .new p (.new false [])
    let c : Backend StoreClient := { Backend.new q (.new false []) with connected := true }
    List.Forall₂ Resemble p.entries q.entries ∧ b.shown = c.shown ∧
      ∃ copy : Properties, (Memory.mask 0).outcome (Memory.masked [p] [0]) =
          (.ok (Memory.masked [p] [0]).length, Memory.masked [p] [0] ++ [copy]) ∧
        copy.entries = [(.str "DB_Password", .str "***orse"), (.str "host", .str "db1")] := by
  intro p q b c
  have hsecret : (Value.str "DB_Password").Sensitive := isSecret_iff.1 (by decide +kernel)
  have hplain : ¬(Value.str "host").Sensitive := fun h =>
    absurd (isSecret_iff.2 h) (by decide +kernel)
  have hpq : List.Forall₂ Resemble p.entries q.entries := by
    refine .cons ⟨rfl, fun h => absurd hsecret h, fun _ => ?_⟩
      (.cons ⟨rfl, fun _ => rfl, fun h => absurd h hplain⟩ .nil)
    exact ⟨_, _, rfl, rfl, by decide, by decide, by decide⟩
  have hnamed : Dictionary.Named p := by
    rintro e he
    rcases List.mem_cons.1 he with rfl | he
    · exact ⟨_, rfl⟩
    · rw [List.mem_singleton.1 he]
      exact ⟨_, rfl⟩
  have hb : b.shown = .ok (maskConfig p.inOrder) := by
    rw [b.shown_eq]
    exact Properties.masked_of_named hnamed
  obtain ⟨hcongr, -, -, hmemory⟩ := @secrets_hidden StoreClient Store _
  obtain ⟨-, copy, hcopy, hentries⟩ := hmemory [p] [0] 0 b rfl
  rw [hb] at hcopy
  refine ⟨hpq, hcongr b c hpq, copy, hcopy, ?_⟩
  rw [hentries _ hb]
  show ([("DB_Password", .str "correct horse"), ("host", .str "db1")].map maskEntry).map _ = _
  rw [List.map_cons, maskEntry_of_sensitive hsecret, maskValue_str (by decide), List.map_singleton,
    maskEntry_of_not hplain]
  have hend : "***" ++ String.ofList ("correct horse".toList.rtake 4) = "***orse" := by decide
  rw [hend]
  rfl

end World

/-! ## What is hidden -/

/-- A slot in a value: the whole of it, or a slot in a field of an object or in an item of a list.
-/
inductive Value.Slot where
  | whole
  | field (before : List (String × Value)) (name : String) (slot : Slot)
      (after : List (String × Value))
  | item (before : List Value) (slot : Slot) (after : List Value)

namespace Value.Slot

variable {v w : Value} {slot : Slot}

/-- The value with this in the slot. -/
def fill (v : Value) : Slot → Value
  | whole => v
  | field before name slot after => .object (before ++ (name, slot.fill v) :: after)
  | item before slot after => .list (before ++ slot.fill v :: after)

/-- Different values in a slot make different values. -/
lemma fill_inj (h : slot.fill v = slot.fill w) : v = w := by
  induction slot with
  | whole => exact h
  | field before name slot after ih =>
    have hfields := List.append_cancel_left (Value.object.inj h)
    exact ih (Prod.mk.inj (List.cons.inj hfields).1).2
  | item before slot after ih =>
    exact ih (List.cons.inj (List.append_cancel_left (Value.list.inj h))).1

/-- What has another value inside is no text. -/
lemma fill_ne_str (h : slot ≠ whole) (s : String) : slot.fill v ≠ .str s := by
  cases slot with
  | whole => exact absurd rfl h
  | _ => nofun

end Value.Slot

/-- Another text has the same end if the text has at least the length of an end. -/
lemma exists_rtake_eq_iff {s : String} :
    (∃ t : String, t ≠ s ∧ t.toList.rtake 4 = s.toList.rtake 4) ↔ 4 ≤ s.length := by
  rw [← String.length_toList]
  constructor
  · rintro ⟨t, hne, hend⟩
    by_contra hlt
    have hlength := congrArg List.length hend
    have hs : s.toList.length - 4 = 0 := by omega
    have ht : t.toList.length - 4 = 0 := by
      simp only [List.rtake, List.length_drop] at hlength
      omega
    rw [List.rtake, List.rtake, hs, ht, List.drop_zero, List.drop_zero] at hend
    exact hne (String.toList_injective hend)
  · intro h
    refine ⟨String.ofList ('x' :: s.toList), fun he => ?_, ?_⟩
    · have := congrArg (fun t : String => t.toList.length) he
      simp at this
    · have hdrop : s.toList.length + 1 - 4 = s.toList.length - 4 + 1 := by omega
      rw [List.rtake, List.rtake, String.toList_ofList, List.length_cons, hdrop,
        List.drop_succ_cons]

/-- A text with the end of one that has at least that length is not empty. -/
lemma ne_empty_of_rtake_eq {s t : String} (hs : 4 ≤ s.length)
    (h : t.toList.rtake 4 = s.toList.rtake 4) : t ≠ "" := by
  rintro rfl
  have hlength := congrArg List.length h
  simp only [List.rtake, List.length_drop, String.length_toList, String.length_empty] at hlength
  omega

/-- Two values in a slot are shown alike if they are equal, or if the slot is the whole of what
stands under a name that suggests a secret and they are texts that are not empty and have the same
end. -/
lemma maskEntry_fill_eq_iff {k : String} {slot : Value.Slot} {v w : Value} :
    maskEntry (k, slot.fill v) = maskEntry (k, slot.fill w) ↔ v = w ∨
      slot = .whole ∧ (Value.str k).Sensitive ∧ ∃ s t, v = .str s ∧ w = .str t ∧ s ≠ "" ∧ t ≠ "" ∧
        s.toList.rtake 4 = t.toList.rtake 4 := by
  by_cases hk : (Value.str k).Sensitive
  · rw [maskEntry_of_sensitive hk, maskEntry_of_sensitive hk, Prod.mk.injEq, maskValue_eq_iff]
    simp only [true_and, hk]
    refine or_congr ⟨Value.Slot.fill_inj, fun h => h ▸ rfl⟩ ?_
    by_cases hslot : slot = .whole
    · subst hslot
      exact (and_iff_right rfl).symm
    · refine iff_of_false ?_ fun h => hslot h.1
      rintro ⟨s, t, hs, -⟩
      exact Value.Slot.fill_ne_str hslot s hs
  · rw [maskEntry_of_not hk, maskEntry_of_not hk, Prod.mk.injEq]
    simp only [true_and, hk, false_and, and_false, or_false]
    exact ⟨Value.Slot.fill_inj, fun h => h ▸ rfl⟩

namespace Backend

omit [Client κ ω]

/-- The backend with a value under a name of its configuration. -/
def holding (b : Backend κ) (k : String) (v : Value) : Backend κ :=
  { b with config := b.config.put (.str k) v }

/-- A backend that holds the value under the name already is as it is. -/
lemma holding_self {b : Backend κ} {k : String} {v : Value} (h : b.config.get? (.str k) = some v) :
    b.holding k v = b := by
  rw [holding, Dictionary.put_self h]

lemma shown_holding {b : Backend κ} (hb : b.config.Named) (k : String) (v : Value) :
    (b.holding k v).shown = .ok ((maskConfig b.config.inOrder).insert k (maskEntry (k, v)).2) := by
  rw [shown_eq, holding, Properties.masked_put, Properties.masked_of_named hb]
  rfl

/-- What is held under a name is told alike if it is shown alike. -/
lemma shown_holding_eq_iff {b : Backend κ} (hb : b.config.Named) {k : String} {v w : Value} :
    (b.holding k v).shown = (b.holding k w).shown ↔ maskEntry (k, v) = maskEntry (k, w) := by
  rw [shown_holding hb, shown_holding hb]
  refine ⟨fun h => ?_, fun h => by rw [h]⟩
  have hk := congrArg (·.get? k) (Except.ok.inj h)
  rw [OrderedMap.get?_insert, OrderedMap.get?_insert, if_pos rfl, if_pos rfl] at hk
  exact Prod.ext rfl (Option.some.inj hk)

/-- Where a name is no text, nothing is told, whatever is held. -/
lemma shown_holding_of_not_named {b : Backend κ} (hb : ¬b.config.Named) (k : String) (v : Value) :
    (b.holding k v).shown = b.shown := by
  rw [shown_eq, shown_eq, holding, Properties.masked_put]
  cases hm : b.config.masked with
  | ok shown => exact absurd (Properties.named_of_masked hm).1 hb
  | error e => rfl

/-- Values in a slot that are told alike are equal, or the value is the whole of what stands under a
name that suggests a secret, and is a text of at least four characters. -/
lemma eq_or_secret_of_shown_eq {b : Backend κ} (hb : b.config.Named) {k : String}
    (slot : Value.Slot) {v w : Value}
    (h : (b.holding k (slot.fill w)).shown = (b.holding k (slot.fill v)).shown) :
    w = v ∨ slot = .whole ∧ (Value.str k).Sensitive ∧ ∃ s, v = .str s ∧ 4 ≤ s.length := by
  rw [shown_holding_eq_iff hb, maskEntry_fill_eq_iff] at h
  rcases h with heq | ⟨hslot, hk, s, t, rfl, rfl, -, -, hend⟩
  · exact .inl heq
  · by_cases hst : s = t
    · exact .inl (congrArg Value.str hst)
    · exact .inr ⟨hslot, hk, t, rfl, exists_rtake_eq_iff.1 ⟨s, hst, hend⟩⟩

/-- What a backend tells hides something of the value in a slot of what stands under a name of its
configuration, so that it could be another one, if it tells nothing because a name is no text, or if
the value is the whole of what stands under a name that suggests a secret, and is a text of at least
four characters. All else is told as it is. -/
theorem hidden_iff (b : Backend κ) (k : String) (slot : Value.Slot) (v : Value)
    (h : b.config.get? (.str k) = some (slot.fill v)) :
    (∃ v', v' ≠ v ∧ (b.holding k (slot.fill v')).shown = b.shown) ↔
      ¬b.config.Named ∨
        slot = .whole ∧ (Value.str k).Sensitive ∧ ∃ s, v = .str s ∧ 4 ≤ s.length := by
  have hself : b.shown = (b.holding k (slot.fill v)).shown := by rw [holding_self h]
  by_cases hb : b.config.Named
  · rw [hself]
    constructor
    · rintro ⟨v', hne, halike⟩
      exact .inr ((eq_or_secret_of_shown_eq hb slot halike).resolve_left hne)
    · rintro (hn | ⟨hslot, hk, s, rfl, hs⟩)
      · exact absurd hb hn
      · obtain ⟨t, hne, hend⟩ := exists_rtake_eq_iff.2 hs
        refine ⟨.str t, fun h => hne (Value.str.inj h), ?_⟩
        rw [shown_holding_eq_iff hb, maskEntry_fill_eq_iff]
        exact .inr ⟨hslot, hk, t, s, rfl, rfl, ne_empty_of_rtake_eq hs hend,
          ne_empty_of_rtake_eq hs rfl, hend⟩
  · have hvalues : Nontrivial Value := ⟨.null, .bool true, nofun⟩
    obtain ⟨v', hne⟩ := exists_ne v
    exact iff_of_true ⟨v', hne, shown_holding_of_not_named hb k (slot.fill v')⟩ (.inl hb)

/-- Of a long pass phrase something is hidden, and of a host nothing is. -/
theorem hidden_iff_phrase :
    let b : Backend Unit :=
      .new (.ofFields [("DB_Password", .str "correct horse"), ("host", .str "db1")]) ()
    b.config.get? (.str "DB_Password") = some (.str "correct horse") ∧
      (∃ v', v' ≠ .str "correct horse" ∧ (b.holding "DB_Password" v').shown = b.shown) ∧
      b.config.get? (.str "host") = some (.str "db1") ∧
      ¬∃ v', v' ≠ .str "db1" ∧ (b.holding "host" v').shown = b.shown := by
  intro b
  have hsecret : (Value.str "DB_Password").Sensitive := isSecret_iff.1 (by decide +kernel)
  have hplain : ¬(Value.str "host").Sensitive := fun h =>
    absurd (isSecret_iff.2 h) (by decide +kernel)
  have hnamed : b.config.Named := Dictionary.unnamed?_eq_none.1 (by decide)
  refine ⟨rfl, ?_, rfl, fun h => ?_⟩
  · exact (hidden_iff b "DB_Password" .whole (.str "correct horse") rfl).2
      (.inr ⟨rfl, hsecret, _, rfl, by decide⟩)
  · rcases (hidden_iff b "host" .whole (.str "db1") rfl).1 h with hn | ⟨-, hk, -⟩
    · exact hn hnamed
    · exact hplain hk

/-- A pass phrase of three letters is told, a token that is a number, and a pass phrase inside
another entry: no other value would be told alike. -/
theorem hidden_iff_told :
    let shown (k : String) (v : Value) := ((Backend.new .empty ()).holding k v).shown
    ((Value.str "password").Sensitive ∧
      shown "password" (.str "abc") = .ok ⟨[("password", .str "***abc")], by simp⟩ ∧
      ∀ v, shown "password" v = shown "password" (.str "abc") → v = .str "abc") ∧
    ((Value.str "api_token").Sensitive ∧
      shown "api_token" (.int 8021) = .ok ⟨[("api_token", .int 8021)], by simp⟩ ∧
      ∀ v, shown "api_token" v = shown "api_token" (.int 8021) → v = .int 8021) ∧
    let nested (v : Value) := shown "tls" (.object [("password", v)])
    nested (.str "correct horse") =
        .ok ⟨[("tls", .object [("password", .str "correct horse")])], by simp⟩ ∧
      ∀ v, nested v = nested (.str "correct horse") → v = .str "correct horse" := by
  intro shown
  have hnew : (Backend.new .empty ()).config.Named := Dictionary.named_empty
  have hpassword : (Value.str "password").Sensitive := isSecret_iff.1 (by decide +kernel)
  have htoken : (Value.str "api_token").Sensitive := isSecret_iff.1 (by decide +kernel)
  have htls : ¬(Value.str "tls").Sensitive := fun h => absurd (isSecret_iff.2 h) (by decide +kernel)
  refine ⟨⟨hpassword, ?_, fun v h => ?_⟩, ⟨htoken, ?_, fun v h => ?_⟩, ?_, fun v h => ?_⟩
  · have hend : "***" ++ String.ofList ("abc".toList.rtake 4) = "***abc" := by decide
    rw [← hend]
    exact (shown_holding hnew _ _).trans
      (by rw [maskEntry_of_sensitive hpassword, maskValue_str (by decide)]; rfl)
  · refine (eq_or_secret_of_shown_eq hnew .whole h).resolve_right ?_
    rintro ⟨-, -, s, hs, hlength⟩
    cases hs
    revert hlength
    decide
  · exact (shown_holding hnew _ _).trans (by rw [maskEntry_of_sensitive htoken]; rfl)
  · refine (eq_or_secret_of_shown_eq hnew .whole h).resolve_right ?_
    rintro ⟨-, -, s, hs, -⟩
    cases hs
  · exact (shown_holding hnew _ _).trans (by rw [maskEntry_of_not htls]; rfl)
  · refine (eq_or_secret_of_shown_eq hnew (.field [] "password" .whole []) h).resolve_right ?_
    rintro ⟨hslot, -⟩
    cases hslot

end Backend

end CrudBench
