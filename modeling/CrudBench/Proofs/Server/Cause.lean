import CrudBench.Proofs.Server.Path

/-!
# What a stopped bootstrap is told for

An error that stops a bootstrap ends its path, and the connection is closed. Closing can fail as
well, and of the two errors the later one is told: the one that stopped the bootstrap only if
closing went well (`Command.init_stopped`).
-/

namespace CrudBench

namespace Stage

variable {st : Settings} {x : Stage} {rs : List (Except DriverError Value)} {leg : Leg}

/-- A fault ends the path, so there is none before it. -/
lemma findSome?_fault_of_mem (h : leg ∈ x.path st rs) {f : Fault} (hf : leg.fault? = some f) :
    (x.path st rs).findSome? Leg.fault? = some f := by
  -- every leg of the path brings the bootstrap forward
  induction hn : x.left using Nat.strongRecOn generalizing x rs with
  | ind n ih =>
    cases hp : x.pending st with
    | none =>
      cases x with
      | ready =>
        rw [path_ready] at h
        cases h
      | _ => cases hp
    | some p =>
      rw [path_of_pending hp] at h ⊢
      generalize rs.head?.getD (.error .closed) = r at h ⊢
      obtain ⟨a, -, -, hy, hnone⟩ | ⟨e, -, -, hy, -⟩ := heard_cases hp r
      · rw [hy] at h ⊢
        rw [List.findSome?_cons, hnone]
        rcases List.mem_cons.1 h with rfl | h
        · cases hnone.symm.trans hf
        · exact ih _ (hn ▸ left_next hp a) h rfl
      · rw [hy] at h ⊢
        cases List.mem_singleton.1 h
        rw [List.findSome?_cons, hf]

end Stage

/-- An error of the family that stops a path fails an operation. -/
lemma Leg.fault?_of_stop {x : Stage} {e : DriverError} (hs : stop? (x, .error e) = some e)
    (he : e.inFamily = true) : fault? (x, .error e) = some (.operation (.reported e)) := by
  have hx : fault? (x, .error e) = (stop? (x, .error e)).map WireClient.failure := by
    cases x <;> rfl
  rw [hx, hs]
  exact congrArg some (if_pos he)

/-- In the step a backend was initialised whose bootstrap was stopped by an error. It has closed its
connection, and fails for that error if closing went well. An error of closing takes its place. -/
structure Step.Stopped (x : Step) (e : DriverError) : Prop where
  closed : x.after.Closed
  trace : ∃ before, x.after.far.trace = before ++ [.close]
  told : x.script.closeError = none → ∃ f, x.result = .error (.connection f) ∧
    f.message = "Schema bootstrap failed: " ++ e.message
  overtaken : ∀ c, x.script.closeError = some c → ∃ f, x.result = .error (.connection f) ∧
    f.message = (Script.error c).message

namespace Command

variable {s : Session WireClient Server} {st : Settings} {p : Script}

/-- A backend whose configuration gives settings, and that is accepted, is stopped by every error of
the family that is a reply on its path, unless it says that something exists already which was to be
created. -/
theorem init_stopped (hst : s.resolved = .ok st) (hc : p.connectError = none)
    (hcl : ∀ c, p.closeError = some c → c.1.inFamily = true) {x : Stage} {e : DriverError}
    (hleg : (x, .error e) ∈ Stage.path st .listDatabases p.server.replies)
    (hstop : Leg.stop? (x, .error e) = some e) (he : e.inFamily = true) :
    (init.step p s).Stopped e := by
  have hfault := Stage.findSome?_fault_of_mem hleg (Leg.fault?_of_stop hstop he)
  have hinit := Session.init_of_joined hst hc
  rw [Session.bootstrap_along (s := s.joined p st) rfl] at hinit
  have hlegs : (s.joined p st).legs st = Stage.path st .listDatabases p.server.replies := rfl
  rw [hlegs, hfault] at hinit
  generalize Stage.path st .listDatabases p.server.replies = legs at hinit
  have hclose : (s.joined p st).far.closeError = p.closeError.map Script.error := rfl
  cases hx : p.closeError with
  | none =>
    rw [hclose, hx] at hinit
    have hstep : init.step p s = ⟨.init, p, s, .error (.connection (.bootstrap (.reported e))),
        ((s.joined p st).along st legs).shut⟩ := by
      rw [step_init, hinit]
      rfl
    rw [hstep]
    refine ⟨⟨rfl, rfl⟩, ⟨_, rfl⟩, fun _ => ⟨_, rfl, rfl⟩, fun c h => ?_⟩
    cases hx.symm.trans h
  | some c =>
    have hfamily : (Script.error c).inFamily = true := hcl c hx
    rw [hclose, hx] at hinit
    have hstep : init.step p s = ⟨.init, p, s, .error (.connection (.closing (Script.error c))),
        ((s.joined p st).along st legs).shut⟩ := by
      simp only [step_init, hinit, Option.map_some, if_pos hfamily]
    rw [hstep]
    refine ⟨⟨rfl, rfl⟩, ⟨_, rfl⟩, fun h => ?_, fun c' h => ?_⟩
    · cases hx.symm.trans h
    · cases hx.symm.trans h
      exact ⟨_, rfl, rfl⟩

/-- There are not enough servers for the table, and closing the connection times out. -/
theorem init_stopped_late :
    let s : Session WireClient Server := .fresh .empty .new
      ⟨.empty, ⟨[], []⟩, .empty, .new [1], [], ⟨none, none, [], []⟩⟩
    let st : Settings := ⟨⟨["localhost"], nofun⟩, 28015, .hard, "usertable", "ycsb", none, 20⟩
    let e : DriverError := .reported .opFailed "Not enough servers"
    let p : Script := ⟨none, some (.timeout, ""),
      [.ok (.list [.str "ycsb"]), .ok (.list []), .error (.opFailed, "Not enough servers")]⟩
    s.resolved = .ok st ∧ (∀ c, p.closeError = some c → c.1.inFamily = true) ∧
      (.createTable, .error e) ∈ Stage.path st .listDatabases p.server.replies ∧
      Leg.stop? (.createTable, .error e) = some e ∧ e.inFamily = true ∧
      (init.step p s).Stopped e := by
  intro s st e p
  have hst : s.resolved = .ok st := Surroundings.ok_of_toOption (by decide +kernel)
  have hcl : ∀ c, p.closeError = some c → c.1.inFamily = true := by
    rintro _ ⟨⟩
    rfl
  have hleg : (.createTable, .error e) ∈ Stage.path st .listDatabases p.server.replies :=
    List.mem_cons_of_mem _ (List.mem_cons_of_mem _ List.mem_cons_self)
  have hstop : Leg.stop? (.createTable, .error e) = some e := by decide +kernel
  exact ⟨hst, hcl, hleg, hstop, rfl, init_stopped hst rfl hcl hleg hstop rfl⟩

/-- The server refuses to list its databases, and then closing fails because the connection is gone:
only that is told. -/
theorem init_stopped_overtaken :
    let s : Session WireClient Server := .fresh .empty .new
      ⟨.empty, ⟨[], []⟩, .empty, .new [1], [], ⟨none, none, [], []⟩⟩
    let st : Settings := ⟨⟨["localhost"], nofun⟩, 28015, .hard, "usertable", "ycsb", none, 20⟩
    let e : DriverError := .reported .permission "No permission"
    let p : Script := ⟨none, some (.driver, "Connection is closed."),
      [.error (.permission, "No permission")]⟩
    s.resolved = .ok st ∧ (∀ c, p.closeError = some c → c.1.inFamily = true) ∧
      (.listDatabases, .error e) ∈ Stage.path st .listDatabases p.server.replies ∧
      Leg.stop? (.listDatabases, .error e) = some e ∧ e.inFamily = true ∧
      ¬∃ f, (init.step p s).result = .error f ∧
        f.message = "Schema bootstrap failed: " ++ e.message := by
  intro s st e p
  have hst : s.resolved = .ok st := Surroundings.ok_of_toOption (by decide +kernel)
  have hcl : ∀ c, p.closeError = some c → c.1.inFamily = true := by
    rintro _ ⟨⟩
    rfl
  have hx : (match (init.step p s).result with
      | .error f => decide (f.message = "Connection is closed.")
      | .ok _ => false) = true := by
    decide +kernel
  refine ⟨hst, hcl, List.mem_cons_self, rfl, rfl, fun ⟨f, hf, hm⟩ => ?_⟩
  rw [hf, decide_eq_true_eq, hm] at hx
  revert hx
  decide

end Command

end CrudBench
