import HibikiCore.Safety.Alignment

/-!
# Who holds a work unit

A run that has not ended holds its unit: the unit is running, and the run is the active one. Or a
plan has left the unit out while the stop of the run was not confirmed yet; then the fences of a
submission refuse whatever the run still reports, as long as no plan lists the unit again.

Two commands break this. A plan may list a unit again before the run that the unit had is over: the
unit is cancelled, and nothing asks for that when the run completes it. And a gate that is opened in
the name of a run blocks the unit of the run, whichever run the unit has.
-/

namespace HibikiCore

set_option synthInstance.maxSize 100000000
set_option synthInstance.maxHeartbeats 400000

variable {env : Env} {auth : AuthContext} {p : Payload} {task : TaskRow} {run : AgentRunRow}
  {s t s' : DB} {w w' : World} {l : Label} {taskId runId wuId outboxId sessionId : String}
  {result : CommandResult} {operation : Operation} {T : String → Prop}

/-! ## Runs and the units they hold -/

/-- A run works on a unit: it was made for it, and has not ended. -/
structure WorksOn (s : DB) (runId wuId : String) (run : AgentRunRow) : Prop where
  found : s.agentRuns.find? runId = some run
  unit : run.workUnitId = some wuId
  live : run.status.isTerminal = false

/-- A unit is running, and a run is its active one. -/
def HeldBy (s : DB) (wuId runId : String) : Prop :=
  ∃ u, s.workUnitExecutions.find? wuId = some u ∧ u.status = .running ∧
    u.activeRunId = some runId

/-- A unit is left out by the ACTIVE plan of its task. -/
def LeftOut (s : DB) (wuId : String) : Prop :=
  ∃ u, s.workUnitExecutions.find? wuId = some u ∧ OffPlan s wuId u

/-- Whoever works on a unit holds it, unless the plan leaves the unit out. -/
def UnitsHeld (s : DB) : Prop :=
  ∀ runId wuId run, WorksOn s runId wuId run → HeldBy s wuId runId ∨ LeftOut s wuId

/-- A run has ended. -/
def EndedRun (s : DB) (runId : String) : Prop :=
  ∃ run, s.agentRuns.find? runId = some run ∧ run.status.isTerminal = true

/-- The units of a task that some nodes do not name. -/
def Unnamed (s : DB) (taskId : String) (nodes : List RawNode) (wuId : String) : Prop :=
  (∃ u, s.workUnitExecutions.find? wuId = some u ∧ u.taskId = taskId) ∧
    ∀ node ∈ nodes, node.workUnitId ≠ wuId

theorem WorksOn.not_ended (h : WorksOn s runId wuId run) : ¬EndedRun s runId := by
  rintro ⟨run', hrun', hended⟩
  obtain rfl := Option.some.inj (h.found.symm.trans hrun')
  rw [h.live] at hended
  cases hended

theorem HeldBy.unique {runId' : String} (h : HeldBy s wuId runId) (h' : HeldBy s wuId runId') :
    runId = runId' := by
  obtain ⟨u, hu, -, hactive⟩ := h
  obtain ⟨u', hu', -, hactive'⟩ := h'
  obtain rfl := Option.some.inj (hu.symm.trans hu')
  exact Option.some.inj (hactive.symm.trans hactive')

/-- A unit that the plan leaves out has ended, so nobody holds it. -/
theorem LeftOut.not_held (h : LeftOut s wuId) (halign : AlignInv s) : ¬HeldBy s wuId runId := by
  rintro ⟨u, hu, hrunning, -⟩
  obtain ⟨u', hu', hoff⟩ := h
  obtain rfl := Option.some.inj (hu.symm.trans hu')
  have hended := halign.ended wuId u hu hoff
  rw [hrunning] at hended
  cases hended

/-! ## Units are set free -/

/-- A run that has ended stays ended. -/
def RunFades (a b : AgentRunRow) : Prop := a.status.isTerminal = true → b.status.isTerminal = true

instance : Preord RunFades where
  refl _ h := h
  trans h h' ha := h' (h ha)

/-- What may become of a unit that is running: it goes on for its run, or its run does not work on
it any more, or some run that worked on it has ended. -/
inductive UnitFreed (s s' : DB) (wuId : String) (u : WorkUnitExecutionRow) : Prop
  | kept {u' : WorkUnitExecutionRow} (found : s'.workUnitExecutions.find? wuId = some u')
      (running : u'.status = .running) (active : u'.activeRunId = u.activeRunId)
  | left (gone : ∀ runId run', u.activeRunId = some runId → ¬WorksOn s' runId wuId run')
  | ended {runId : String} {run : AgentRunRow} (worked : WorksOn s runId wuId run)
      (ended : EndedRun s' runId)

/-- No run with a unit is new, and none that has ended goes on. Outside of some, a unit that is
running stays with its run until a run has ended. -/
structure Frees (T : String → Prop) (s s' : DB) : Prop where
  fades : Moves Refs.agentRuns RunFades s s'
  came : Arrivals Refs.agentRuns (fun _ a ↦ a.workUnitId = none) s s'
  units : ∀ wuId u, ¬T wuId → s.workUnitExecutions.find? wuId = some u → u.status = .running →
    UnitFreed s s' wuId u

namespace Frees

theorem ended (h : Frees T s s') (hended : EndedRun s runId) : EndedRun s' runId := by
  obtain ⟨run, hrun, hterminal⟩ := hended
  obtain ⟨run', hrun', hfades⟩ := h.fades runId run hrun
  exact ⟨run', hrun', hfades hterminal⟩

/-- Whoever works on a unit has done so before. -/
theorem worked (h : Frees T s s') {run' : AgentRunRow} (hworks : WorksOn s' runId wuId run') :
    ∃ run, WorksOn s runId wuId run ∧ run.taskId = run'.taskId := by
  rcases h.came runId run' hworks.found with ⟨run, hrun, hfixed⟩ | hnone
  · have hunit : run'.workUnitId = run.workUnitId := congrArg RunAssignment.workUnitId hfixed
    have htask : run'.taskId = run.taskId := congrArg RunAssignment.taskId hfixed
    refine ⟨run, ⟨hrun, hunit.symm.trans hworks.unit, ?_⟩, htask.symm⟩
    by_contra hended
    exact hworks.not_ended (h.ended ⟨run, hrun, by simpa using hended⟩)
  · have hunit : run'.workUnitId = none := hnone
    rw [hworks.unit] at hunit
    cases hunit

instance : Preord (Frees T) where
  refl s := ⟨Preord.refl s, Preord.refl s, fun _ _ _ hu hrunning ↦ .kept hu hrunning rfl⟩
  trans {s t s'} h h' := by
    refine ⟨Preord.trans h.fades h'.fades, Preord.trans h.came h'.came, ?_⟩
    intro wuId u hT hu hrunning
    cases h.units wuId u hT hu hrunning with
    | kept hu₁ hrunning₁ hactive₁ =>
      cases h'.units wuId _ hT hu₁ hrunning₁ with
      | kept hu₂ hrunning₂ hactive₂ => exact .kept hu₂ hrunning₂ (hactive₂.trans hactive₁)
      | left hgone => exact .left fun runId run' hactive ↦ hgone runId run' (hactive₁.trans hactive)
      | ended hworks hended =>
        obtain ⟨run, hworks', -⟩ := h.worked hworks
        exact .ended hworks' hended
    | left hgone =>
      refine .left fun runId run' hactive hworks ↦ ?_
      obtain ⟨run, hworks', -⟩ := h'.worked hworks
      exact hgone runId run hactive hworks'
    | ended hworks hended => exact .ended hworks (h'.ended hended)

/-- The tables beside runs and units. -/
abbrev besideHolding : List Relation :=
  [.tasks, .contracts, .activeContractMarkers, .explanations, .decisions, .gates, .plans,
    .activePlanMarkers, .workUnitSpecs, .plannerSessions, .activeExecuteRunMarkers,
    .activePlanRunMarkers, .workspaces, .contextManifests, .sideEffects, .events, .inbox,
    .outbox, .idempotencyKeys, .resultSnapshots, .artifacts, .acceptanceEvidence,
    .agentProfiles, .runInputs, .toolInvocations, .contextAppends, .taskMessages]

/-- Runs fade, and the units are left alone. -/
theorem of_units (hfades : Moves Refs.agentRuns RunFades s s')
    (hcame : Arrivals Refs.agentRuns (fun _ a ↦ a.workUnitId = none) s s')
    (hunits : s.workUnitExecutions = s'.workUnitExecutions) : Frees T s s' :=
  ⟨hfades, hcame, fun _ _ _ hu hrunning ↦ .kept (hunits ▸ hu) hrunning rfl⟩

theorem of_writes (h : Writes besideHolding s s') : Frees T s s' := by
  have hruns : s.agentRuns = s'.agentRuns := (h .agentRuns).2 (by decide)
  exact of_units (Moves.of_read hruns) (Arrivals.of_read hruns)
    ((h .workUnitExecutions).2 (by decide))

instance : Frame (Frees T) where
  still h := of_writes (h.mono fun _ hn ↦ (List.not_mem_nil hn).elim)

instance {n : Relation} [hn : Touches n besideHolding] : Indifferent (Frees T) n where
  writes h := of_writes (h.mono fun _ hm ↦ List.mem_singleton.mp hm ▸ hn.mem)

/-! ## Rows of units -/

/-- Units move along a relation that looks at those that are running. -/
theorem of_moves {le : WorkUnitExecutionRow → WorkUnitExecutionRow → Prop}
    (hle : ∀ a b, le a b → a.status = .running →
      b.status = .running ∧ b.activeRunId = a.activeRunId)
    (hruns : s.agentRuns = s'.agentRuns) (h : Moves Refs.workUnitExecutions le s s') :
    Frees T s s' := by
  refine ⟨Moves.of_read hruns, Arrivals.of_read hruns, fun wuId u _ hu hrunning ↦ ?_⟩
  obtain ⟨u', hu', hmove⟩ := h wuId u hu
  obtain ⟨hrunning', hactive⟩ := hle u u' hmove hrunning
  exact .kept hu' hrunning' hactive

/-- Units that are not running may be updated. -/
theorem updateWhere {q : String → WorkUnitExecutionRow → Bool}
    {f : WorkUnitExecutionRow → WorkUnitExecutionRow} {hf : ∀ a, SameFixed a (f a)}
    (hq : ∀ k a, q k a = true → a.status ≠ .running) :
    Respects (Frees T) (Refs.workUnitExecutions.updateWhere q f hf : Core Unit) where
  rel {s _ s'} h := by
    have hmoves : Respects (Moves Refs.workUnitExecutions UnitRuns)
        (Refs.workUnitExecutions.updateWhere q f hf : Core Unit) :=
      Moves.updateWhere fun k a hk hrunning ↦ absurd hrunning (hq k a hk)
    have hwrites : Writes [.workUnitExecutions] s s' := Respects.rel h
    exact of_moves (fun _ _ h ↦ h) ((hwrites .agentRuns).2 (by decide)) (hmoves.rel h)

/-- A unit loses its active run, if it is a certain one. -/
def UnitQuits (runId : String) (a b : WorkUnitExecutionRow) : Prop :=
  b.status = a.status ∧ (b.activeRunId = a.activeRunId ∨ a.activeRunId = some runId)

instance : Preord (UnitQuits runId) where
  refl _ := ⟨rfl, .inl rfl⟩
  trans h h' := by
    refine ⟨h'.1.trans h.1, ?_⟩
    rcases h.2 with hsame | hactive
    · rw [← hsame]
      exact h'.2
    · exact .inr hactive

/-- What a run that has ended gives up is free. -/
theorem of_quits (hruns : s.agentRuns = s'.agentRuns) (hended : EndedRun s' runId)
    (h : Moves Refs.workUnitExecutions (UnitQuits runId) s s') : Frees T s s' := by
  refine ⟨Moves.of_read hruns, Arrivals.of_read hruns, fun wuId u _ hu hrunning ↦ ?_⟩
  obtain ⟨u', hu', hstatus, hactive | hactive⟩ := h wuId u hu
  · exact .kept hu' (hstatus.trans hrunning) hactive
  · refine .left fun runId' run' hactive' hworks ↦ ?_
    obtain rfl := Option.some.inj (hactive.symm.trans hactive')
    exact hworks.not_ended hended

theorem clearRunOccupancy_quits {release : Bool}
    (h : clearRunOccupancy runId release s = .ok ((), s')) :
    Moves Refs.workUnitExecutions (UnitQuits runId) s s' := by
  have hfree (wuId : String) : Respects (Moves Refs.workUnitExecutions (UnitQuits runId))
      (Refs.workUnitExecutions.updateWhere (fun k u ↦ k == wuId && u.activeRunId == some runId)
        fun u ↦ { u with activeRunId := none } : Core Unit) :=
    Moves.updateWhere fun _ a hq ↦
      ⟨rfl, .inr (by simpa using (Bool.and_eq_true_iff.mp hq).2)⟩
  have hrespects : Respects (Moves Refs.workUnitExecutions (UnitQuits runId))
      (clearRunOccupancy runId release) := by
    rw [clearRunOccupancy]
    infer_instance
  exact hrespects.rel h

/-! ## Rows of runs -/

theorem update_run {f : AgentRunRow → AgentRunRow} {hf : ∀ a, SameFixed a (f a)}
    (hfades : ∀ a, RunFades a (f a)) :
    Respects (Frees T) (Refs.agentRuns.update runId f hf : Core Unit) where
  rel {s _ s'} h := by
    have hwrites : Writes [.agentRuns] s s' := Respects.rel h
    have hmoves : Respects (Moves Refs.agentRuns RunFades)
        (Refs.agentRuns.update runId f hf : Core Unit) := Moves.update hfades
    exact of_units (hmoves.rel h) (Respects.rel h) ((hwrites .workUnitExecutions).2 (by decide))

theorem updateWhere_run {q : String → AgentRunRow → Bool} {f : AgentRunRow → AgentRunRow}
    {hf : ∀ a, SameFixed a (f a)} (hfades : ∀ k a, q k a = true → RunFades a (f a)) :
    Respects (Frees T) (Refs.agentRuns.updateWhere q f hf : Core Unit) where
  rel {s _ s'} h := by
    have hwrites : Writes [.agentRuns] s s' := Respects.rel h
    have hmoves : Respects (Moves Refs.agentRuns RunFades)
        (Refs.agentRuns.updateWhere q f hf : Core Unit) := Moves.updateWhere hfades
    exact of_units (hmoves.rel h) (Respects.rel h) ((hwrites .workUnitExecutions).2 (by decide))

theorem RunDetail.fades {f : AgentRunRow → AgentRunRow} [hf : RunDetail f] (a : AgentRunRow) :
    RunFades a (f a) := by
  intro hended
  by_contra hlive
  have hactive := hf.active a (by simpa [AgentRunStatus.isActive] using hlive)
  rw [AgentRunStatus.isActive_of_terminal hended] at hactive
  cases hactive

instance : RunDetails (Frees T) where
  update _ _ _ _ := update_run RunDetail.fades
  updateWhere _ _ _ _ := updateWhere_run fun _ a _ ↦ RunDetail.fades a

/-- A run that ends gives up what it occupies. -/
theorem end_run {f : AgentRunRow → AgentRunRow} {hf : ∀ a, SameFixed a (f a)} [hend : RunEnd f]
    (hupdate : (Refs.agentRuns.update runId f hf : Core Unit) s = .ok ((), t))
    (hclear : clearRunOccupancy runId true t = .ok ((), s')) :
    Frees T s s' ∧ EndedRun s' runId := by
  have hupdated : Frees T s t := Respects.rel hupdate
  have hwrites : Writes occupancyTables t s' := Respects.rel hclear
  have hruns : t.agentRuns = s'.agentRuns := (hwrites .agentRuns).2 (by decide)
  have hended : EndedRun s' runId := by
    obtain ⟨run, u, hget, -⟩ := Tx.bind_ok.mp hclear
    obtain ⟨hrun, -⟩ := getRun_ok.mp hget
    obtain rfl := Ref.update_ok.mp hupdate
    have hfind : (s.agentRuns.modify runId f).find? runId = some run := hrun
    rw [Table.find?_modify_self] at hfind
    obtain ⟨a, -, rfl⟩ := Option.map_eq_some_iff.mp hfind
    exact ⟨f a, hruns ▸ hrun, hend.ends a⟩
  exact ⟨Preord.trans hupdated (of_quits hruns hended (clearRunOccupancy_quits hclear)), hended⟩

instance : EndsRuns (Frees T) where
  last runId f hf := by
    intro hend
    constructor
    intro s _ s' h
    obtain ⟨_, t, hupdate, hclear⟩ := Tx.bind_ok.mp h
    exact (end_run hupdate hclear).1
  next runId f hf m := by
    intro hend hm
    constructor
    intro s a s' h
    obtain ⟨_, t, hupdate, h₁⟩ := Tx.bind_ok.mp h
    obtain ⟨_, u, hclear, hrest⟩ := Tx.bind_ok.mp h₁
    exact Preord.trans (end_run hupdate hclear).1 (hm.rel hrest)

/-! ## The end of a run and its unit -/

/-- Runs are left alone, and all units but one. -/
structure Spares (wuId : String) (s s' : DB) : Prop where
  runs : s.agentRuns = s'.agentRuns
  units : ∀ k, k ≠ wuId → s'.workUnitExecutions.find? k = s.workUnitExecutions.find? k

namespace Spares

instance : Preord (Spares wuId) where
  refl _ := ⟨rfl, fun _ _ ↦ rfl⟩
  trans h h' := ⟨h.runs.trans h'.runs, fun k hk ↦ (h'.units k hk).trans (h.units k hk)⟩

theorem of_writes (h : Writes besideHolding s s') : Spares wuId s s' where
  runs := (h .agentRuns).2 (by decide)
  units k _ := congrArg (·.find? k) ((h .workUnitExecutions).2 (by decide)).symm

instance : Frame (Spares wuId) where
  still h := of_writes (h.mono fun _ hn ↦ (List.not_mem_nil hn).elim)

instance {n : Relation} [hn : Touches n besideHolding] : Indifferent (Spares wuId) n where
  writes h := of_writes (h.mono fun _ hm ↦ List.mem_singleton.mp hm ▸ hn.mem)

instance update {f : WorkUnitExecutionRow → WorkUnitExecutionRow} {hf : ∀ a, SameFixed a (f a)} :
    Respects (Spares wuId) (Refs.workUnitExecutions.update wuId f hf : Core Unit) where
  rel h := by
    obtain rfl := Ref.update_ok.mp h
    exact ⟨rfl, fun k hk ↦ Table.find?_modify_of_ne hk _ _⟩

theorem updateWhere {f : WorkUnitExecutionRow → WorkUnitExecutionRow}
    {q : String → WorkUnitExecutionRow → Bool} {hf : ∀ a, SameFixed a (f a)}
    (hq : ∀ k u, q k u = true → k = wuId) :
    Respects (Spares wuId) (Refs.workUnitExecutions.updateWhere q f hf : Core Unit) where
  rel {s _ s'} h := by
    obtain rfl := Ref.updateWhere_ok.mp h
    refine ⟨rfl, fun k hk ↦ (Table.find?_modifyWhere ..).trans ?_⟩
    change (s.workUnitExecutions.find? k).map _ = s.workUnitExecutions.find? k
    cases s.workUnitExecutions.find? k with
    | none => rfl
    | some u =>
      have hnot : ¬q k u = true := fun hqk ↦ hk (hq k u hqk)
      simp [hnot]

/-- An update of the unit, if it is running. -/
instance updateRunning {f : WorkUnitExecutionRow → WorkUnitExecutionRow}
    {hf : ∀ a, SameFixed a (f a)} :
    Respects (Spares wuId) (Refs.workUnitExecutions.updateWhere
      (fun k u ↦ k == wuId && u.status == .running) f hf : Core Unit) :=
  updateWhere fun _ _ hq ↦ by simpa using (Bool.and_eq_true_iff.mp hq).1

theorem recoverWorkUnitAfterLostRun {run : AgentRunRow}
    (hrun : s.agentRuns.find? runId = some run) (hwu : run.workUnitId = some wuId)
    (h : recoverWorkUnitAfterLostRun env runId s = .ok ((), s')) : Spares wuId s s' := by
  obtain ⟨run', t, hget, h₁⟩ := Tx.bind_ok.mp h
  obtain ⟨hrun', rfl⟩ := getRun_ok.mp hget
  obtain rfl := Option.some.inj (hrun.symm.trans hrun')
  rw [Tx.get_bind_ok] at h₁
  rcases Tx.withSome_ok.mp h₁ with ⟨wuId', hunit, h₂⟩ | ⟨hnone, -⟩
  · obtain rfl := Option.some.inj (hwu.symm.trans hunit)
    exact Respects.rel h₂
  · cases hwu.symm.trans hnone

end Spares

/-- The unit of a run that has ended may be changed. -/
theorem then_unit {run : AgentRunRow} (hworks : WorksOn s runId wuId run) (h : Frees T s t)
    (hended : EndedRun t runId) (hspares : Spares wuId t s') : Frees T s s' := by
  refine ⟨Preord.trans h.fades (Moves.of_read hspares.runs),
    Preord.trans h.came (Arrivals.of_read hspares.runs), fun k u hT hu hrunning ↦ ?_⟩
  have hended' : EndedRun s' runId := by
    rw [EndedRun, ← hspares.runs]
    exact hended
  by_cases hk : k = wuId
  · exact .ended (hk ▸ hworks) hended'
  · cases h.units k u hT hu hrunning with
    | kept hu' hrunning' hactive => exact .kept ((hspares.units k hk).trans hu') hrunning' hactive
    | left hgone =>
      refine .left fun runId' run' hactive hworks' ↦ hgone runId' run' hactive ?_
      exact ⟨hspares.runs ▸ hworks'.found, hworks'.unit, hworks'.live⟩
    | ended hworks' hend =>
      refine .ended hworks' ?_
      rw [EndedRun, ← hspares.runs]
      exact hend

/-- A run that has not ended ends, gives up what it occupies, and its unit is changed. -/
theorem release {run : AgentRunRow} {f : AgentRunRow → AgentRunRow} {hf : ∀ a, SameFixed a (f a)}
    [RunEnd f] {m : String → Core Unit} [∀ wuId, Respects (Spares wuId) (m wuId)]
    (hrun : s.agentRuns.find? runId = some run) (hlive : run.status.isTerminal = false)
    (h : ((Refs.agentRuns.update runId f hf : Core Unit) >>= fun _ ↦
      clearRunOccupancy runId true >>= fun _ ↦ Tx.withSome run.workUnitId m) s = .ok ((), s')) :
    Frees T s s' := by
  obtain ⟨_, t, hend, h₁⟩ := Tx.bind_ok.mp h
  obtain ⟨_, u, hclear, hfree⟩ := Tx.bind_ok.mp h₁
  obtain ⟨hfrees, hended⟩ := end_run (T := T) hend hclear
  rcases Tx.withSome_ok.mp hfree with ⟨wuId, hwu, hchange⟩ | ⟨-, rfl⟩
  · exact then_unit ⟨hrun, hwu, hlive⟩ hfrees hended (Respects.rel hchange)
  · exact hfrees

instance revokeUnsentStart_respects :
    Respects (Frees T) (revokeUnsentStart env outboxId runId task) where
  rel {s _ s'} h := by
    rw [revokeUnsentStart] at h
    obtain ⟨_, t, hkill, h₁⟩ := Tx.bind_ok.mp h
    refine Preord.trans (Respects.rel hkill) ?_
    rw [Tx.get_bind_ok] at h₁
    rcases Tx.withSome_ok.mp h₁ with ⟨run, hrun, h₂⟩ | ⟨-, rfl⟩
    · rcases Tx.when_ok.mp h₂ with ⟨hcreated, h₃⟩ | ⟨-, rfl⟩
      · exact release hrun (by rw [hcreated]; rfl) h₃
      · exact Preord.refl _
    · exact Preord.refl _

instance ackStop_respects {reason : String} {answer : StopResult} :
    Respects (Frees T) (ackStop env outboxId runId reason answer) where
  rel {s _ s'} h := by
    rw [ackStop] at h
    obtain ⟨_, t, hack, h₁⟩ := Tx.bind_ok.mp h
    refine Preord.trans (Respects.rel hack) ?_
    rw [Tx.get_bind_ok] at h₁
    rcases Tx.withSome_ok.mp h₁ with ⟨run, hrun, h₂⟩ | ⟨-, rfl⟩
    · obtain ⟨_, u, hworkspace, h₃⟩ := Tx.bind_ok.mp h₂
      obtain ⟨_, v, hsettle, hevent⟩ := Tx.bind_ok.mp h₃
      have hwrites : Writes [.workspaces] t u := Respects.rel hworkspace
      have hruns : t.agentRuns = u.agentRuns := (hwrites .agentRuns).2 (by decide)
      refine Preord.trans (Respects.rel hworkspace) (Preord.trans ?_ (Respects.rel hevent))
      rcases Tx.when_ok.mp hsettle with ⟨⟨-, hactive⟩, h₄⟩ | ⟨-, rfl⟩
      · exact release (hruns ▸ hrun) (by simpa [AgentRunStatus.isActive] using hactive) h₄
      · exact Preord.refl _
    · exact Preord.refl _

/-- A run that is lost was running. -/
theorem loseRun_frees {run : AgentRunRow} (hrun : s.agentRuns.find? runId = some run)
    (hrunning : run.status = .running) (h : loseRun env taskId runId s = .ok ((), s')) :
    Frees T s s' := by
  rw [loseRun] at h
  obtain ⟨_, t, hlose, h₁⟩ := Tx.bind_ok.mp h
  obtain ⟨_, u, hclear, h₂⟩ := Tx.bind_ok.mp h₁
  obtain ⟨_, v, hrecover, hevent⟩ := Tx.bind_ok.mp h₂
  refine Preord.trans ?_ (Respects.rel hevent)
  obtain ⟨hfrees, hended⟩ := end_run (T := T) hlose hclear
  have hpersist : Persists s u := Preord.trans (Respects.rel hlose) (Respects.rel hclear)
  obtain ⟨run', hrun', hfixed⟩ := (hpersist .agentRuns).1 runId run hrun
  have hunit : run'.workUnitId = run.workUnitId := congrArg RunAssignment.workUnitId hfixed
  cases hwu : run.workUnitId with
  | none =>
    obtain ⟨run'', u', hget, h₃⟩ := Tx.bind_ok.mp hrecover
    obtain ⟨hrun'', rfl⟩ := getRun_ok.mp hget
    obtain rfl := Option.some.inj (hrun'.symm.trans hrun'')
    rw [Tx.get_bind_ok, hunit, hwu] at h₃
    obtain ⟨-, rfl⟩ := Tx.pure_ok.mp h₃
    exact hfrees
  | some wuId =>
    exact then_unit ⟨hrun, hwu, by rw [hrunning]; rfl⟩ hfrees hended
      (.recoverWorkUnitAfterLostRun hrun' (hunit.trans hwu) hrecover)

instance reconcileRun_respects {notes : List String} :
    Respects (Frees T) (reconcileRun env taskId notes runId) where
  rel {s _ s'} h := by
    rw [reconcileRun] at h
    obtain ⟨run, t, hget, h₁⟩ := Tx.bind_ok.mp h
    obtain ⟨hrun, rfl⟩ := getRun_ok.mp hget
    rcases Tx.ite_ok.mp h₁ with ⟨-, hquarantine⟩ | ⟨-, h₂⟩
    · exact Respects.rel hquarantine
    · rcases Tx.ite_ok.mp h₂ with ⟨-, hpure⟩ | ⟨hrunning, h₃⟩
      · exact Respects.rel hpure
      · rcases Tx.ite_ok.mp h₃ with ⟨-, hlost⟩ | ⟨-, hlease⟩
        · obtain ⟨_, u, hlose, hpure⟩ := Tx.bind_ok.mp hlost
          exact Preord.trans (loseRun_frees hrun (not_not.mp hrunning) hlose)
            (Respects.rel hpure)
        · exact Respects.rel hlease

instance recomputeRunnableState_respects :
    Respects (Frees T) (recomputeRunnableState env taskId) := by
  have hfree : Respects (Frees T) (Refs.workUnitExecutions.updateWhere
      (fun _ u ↦ u.isGateBlocked taskId) fun u ↦
        { u with status := .pending, blockedReason := none, activeRunId := none } : Core Unit) := by
    refine updateWhere fun _ u hu hrunning ↦ ?_
    simp only [WorkUnitExecutionRow.isGateBlocked, Bool.and_eq_true, beq_iff_eq] at hu
    rw [hrunning] at hu
    cases hu.1.2
  rw [recomputeRunnableState]
  dsimp only [transitionWorkUnit_blockCleared]
  infer_instance

instance resumeTask_respects : Respects (Frees T) (resumeTask env auth p) := by
  have hfree (taskId : String) : Respects (Frees T)
      (Refs.workUnitExecutions.updateWhere
        (fun _ u ↦ u.taskId == taskId && u.status == .blocked && u.isPaused)
        fun u ↦ { u with status := .pending, blockedReason := none } : Core Unit) := by
    refine updateWhere fun _ u hu hrunning ↦ ?_
    simp only [Bool.and_eq_true, beq_iff_eq] at hu
    rw [hrunning] at hu
    cases hu.1.2
  rw [resumeTask]
  infer_instance

/-- A run that is started goes on. -/
instance ackOutboxAndMarkRunning_respects :
    Respects (Frees T) (ackOutboxAndMarkRunning env outboxId runId) := by
  have hstart : Respects (Frees T) (Refs.agentRuns.updateWhere
      (fun k r ↦ k == runId && r.status == .created)
      fun r ↦ { r with status := .running, startedAt := some env.now } : Core Unit) := by
    refine updateWhere_run fun k a hq hended ↦ ?_
    have hcreated : a.status = .created := by simpa using (Bool.and_eq_true_iff.mp hq).2
    rw [hcreated] at hended
    cases hended
  rw [ackOutboxAndMarkRunning]
  infer_instance

/-- A PLAN run has no unit. -/
instance createPlanRun_respects {session : PlannerSessionRow} :
    Respects (Frees T) (createPlanRun env auth p taskId task sessionId session) where
  rel {s _ s'} h := by
    obtain ⟨k, _, _, hcreated⟩ := createPlanRun_ok h
    have hunits : s.workUnitExecutions = s'.workUnitExecutions :=
      (hcreated.rest .workUnitExecutions).2 (by decide)
    have hold {k' : String} {a : AgentRunRow} (ha : s'.agentRuns.find? k' = some a) :
        s.agentRuns.find? k' = some a ∨ a.workUnitId = none := by
      rw [hcreated.runs, Table.find?_insert hcreated.fresh] at ha
      split at ha
      · obtain rfl := Option.some.inj ha
        exact .inr rfl
      · exact .inl ha
    refine of_units (fun k' a ha ↦ ⟨a, ?_, id⟩) (fun k' a ha ↦ ?_) hunits
    · change s'.agentRuns.find? k' = some a
      rw [hcreated.runs, Table.find?_insert hcreated.fresh]
      split
      · next heq =>
        subst heq
        cases hcreated.fresh.symm.trans ha
      · exact ha
    · exact (hold ha).imp (fun h ↦ ⟨a, h, SameFixed.refl a⟩) id

instance background : Background (Frees T) := inferInstance

/-! ## Commands -/

/-- Units that are not running are cancelled, whatever becomes of the others before that. -/
instance cancelTask_respects : Respects (Frees T) (cancelTask env auth p) where
  rel {s _ s'} h := by
    rw [cancelTask, Tx.get_bind_ok] at h
    obtain ⟨taskId, t₁, hkey, h₁⟩ := Tx.bind_ok.mp h
    obtain ⟨-, rfl⟩ := key_ok.mp hkey
    obtain ⟨task, t₂, hget, h₂⟩ := Tx.bind_ok.mp h₁
    obtain ⟨-, rfl⟩ := getTask_ok.mp hget
    obtain ⟨_, t₃, hmark, h₃⟩ := Tx.bind_ok.mp h₂
    obtain ⟨_, t₄, hstate, h₄⟩ := Tx.bind_ok.mp h₃
    obtain ⟨_, t₅, hrevoke, h₅⟩ := Tx.bind_ok.mp h₄
    obtain ⟨_, t₆, heffects, h₆⟩ := Tx.bind_ok.mp h₅
    obtain ⟨_, t₇, hunits, hrest⟩ := Tx.bind_ok.mp h₆
    have hbefore : Frees T t₂ t₆ :=
      Preord.trans (Respects.rel hmark) (Preord.trans (Respects.rel hstate)
        (Preord.trans (Respects.rel hrevoke) (Respects.rel heffects)))
    refine Preord.trans ?_ (Respects.rel hrest : Frees T t₇ s')
    have hwrites : Writes [.workUnitExecutions] t₆ t₇ := Respects.rel hunits
    have hruns : t₆.agentRuns = t₇.agentRuns := (hwrites .agentRuns).2 (by decide)
    refine ⟨Preord.trans hbefore.fades (Moves.of_read hruns),
      Preord.trans hbefore.came (Arrivals.of_read hruns), fun wuId u hT hu hrunning ↦ ?_⟩
    cases hbefore.units wuId u hT hu hrunning with
    | @kept u' hu' hrunning' hactive =>
      -- the units of the loop were not running when the command came
      have hnot : wuId ∉ cancellableUnits t₂ taskId := by
        intro hmem
        obtain ⟨r, hr, rfl⟩ := List.mem_map.mp hmem
        obtain ⟨hfind, hp⟩ := Table.mem_select.mp hr
        obtain rfl : u = r.2 := Option.some.inj (hu.symm.trans hfind)
        simp only [Bool.and_eq_true, Bool.or_eq_true, beq_iff_eq] at hp
        rcases hp.2 with hs | hs <;> rw [hrunning] at hs <;> cases hs
      refine .kept ?_ hrunning' hactive
      refine Tx.each_induct (P := fun v ↦ v.workUnitExecutions.find? wuId = some u') ?_ hu' hunits
      intro k hk v v' hv hround
      obtain rfl := Ref.update_ok.mp hround
      have hne : wuId ≠ k := fun heq ↦ hnot (heq ▸ hk)
      exact (Table.find?_modify_of_ne hne _ _).trans hv
    | left hgone =>
      refine .left fun runId run' hactive hworks ↦ hgone runId run' hactive ?_
      exact ⟨hruns ▸ hworks.found, hworks.unit, hworks.live⟩
    | ended hworks hend =>
      refine .ended hworks ?_
      rw [EndedRun, ← hruns]
      exact hend

/-- Every command that neither creates runs of units nor activates plans, and neither reports the
result of a run nor stops runs for a gate or a pause. -/
theorem handler_respects (hactivates : operation.activates = false)
    (hoperation : operation ∉ [.dispatchReadyRuns, .submitResult, .openBlockingGate,
      .runtimeQuiescent]) : Respects (Frees T) (handler env auth p operation) := by
  cases operation
  all_goals first
    | exact absurd hactivates (by decide)
    | exact absurd (by decide) hoperation
    | (dsimp only [handler]; infer_instance)

/-- The pause of a task is complete: its units wait, and its runs have ended. -/
theorem runtimeQuiescent_frees (howned : RunsOwned s)
    (h : runtimeQuiescent env auth p s = .ok (result, s')) : Frees T s s' := by
  obtain ⟨taskId, t₁, hkey, h₁⟩ := Tx.bind_ok.mp h
  obtain ⟨-, rfl⟩ := key_ok.mp hkey
  obtain ⟨task, t₂, hget, h₂⟩ := Tx.bind_ok.mp h₁
  obtain ⟨-, rfl⟩ := getTask_ok.mp hget
  obtain ⟨_, t₃, hcheck, h₃⟩ := Tx.bind_ok.mp h₂
  obtain ⟨-, rfl⟩ := Tx.check_ok.mp hcheck
  rw [Tx.get_bind_ok] at h₃
  obtain ⟨_, t₄, hcheck', h₄⟩ := Tx.bind_ok.mp h₃
  obtain ⟨-, rfl⟩ := Tx.check_ok.mp hcheck'
  obtain ⟨_, t₅, hblock, h₅⟩ := Tx.bind_ok.mp h₄
  obtain ⟨_, t₆, hcancel, hrest⟩ := Tx.bind_ok.mp h₅
  have hwrites : Writes [.workUnitExecutions] t₄ t₅ := Respects.rel hblock
  have hruns : t₄.agentRuns = t₅.agentRuns := (hwrites .agentRuns).2 (by decide)
  have hafter : Frees T t₅ s' := Preord.trans (Respects.rel hcancel) (Respects.rel hrest)
  have hended {k : String} (hk : k ∈ activeRuns t₄ taskId) : EndedRun s' k := by
    have hlast : Frees T t₆ s' := Respects.rel hrest
    refine hlast.ended (Tx.each_mem (I := fun _ ↦ True) (P := fun v ↦ EndedRun v k) hk
      (fun _ _ _ _ _ _ ↦ trivial) (fun v v' _ hround ↦ ?_) (fun _ _ v v' _ hend hround ↦ ?_)
      trivial hcancel)
    · obtain ⟨_, v₁, hupdate, hclear⟩ := Tx.bind_ok.mp hround
      exact (end_run (T := T) hupdate hclear).2
    · exact (Respects.rel hround : Frees T v v').ended hend
  refine ⟨Preord.trans (Moves.of_read hruns) hafter.fades,
    Preord.trans (Arrivals.of_read hruns) hafter.came, fun k u hT hu hrunning ↦ ?_⟩
  by_cases howner : u.taskId = taskId
  · refine .left fun runId run' hactive hworks ↦ ?_
    obtain ⟨run, hworked, -⟩ := hafter.worked hworks
    have hrun : t₄.agentRuns.find? runId = some run := hruns ▸ hworked.found
    obtain ⟨u', hu', hsame⟩ := howned runId run hrun k hworked.unit
    obtain rfl := Option.some.inj (hu.symm.trans hu')
    refine hworks.not_ended (hended (List.mem_map.mpr ⟨(runId, run), ?_, rfl⟩))
    exact Table.mem_select.mpr ⟨hrun, by
      simp [hsame.symm.trans howner, AgentRunStatus.isActive, hworked.live]⟩
  · have hu' : t₅.workUnitExecutions.find? k = some u := by
      obtain rfl := Ref.updateWhere_ok.mp hblock
      exact (Table.find?_modifyWhere ..).trans (by simp [hu, howner])
    cases hafter.units k u hT hu' hrunning with
    | kept hu' hrunning' hactive => exact .kept hu' hrunning' hactive
    | left hgone => exact .left hgone
    | ended hworks hend =>
      exact .ended ⟨hruns ▸ hworks.found, hworks.unit, hworks.live⟩ hend

/-- A unit may be changed before a run that works on it ends. -/
theorem before_end (hspares : Spares wuId s t) (h : Frees T t s')
    (hends : ∀ u, s.workUnitExecutions.find? wuId = some u → u.status = .running →
      ∃ runId run, WorksOn s runId wuId run ∧ EndedRun s' runId) : Frees T s s' := by
  refine ⟨Preord.trans (Moves.of_read hspares.runs) h.fades,
    Preord.trans (Arrivals.of_read hspares.runs) h.came, fun k u hT hu hrunning ↦ ?_⟩
  by_cases hk : k = wuId
  · subst hk
    obtain ⟨runId, run, hworks, hended⟩ := hends u hu hrunning
    exact .ended hworks hended
  · cases h.units k u hT ((hspares.units k hk).trans hu) hrunning with
    | kept hu' hrunning' hactive => exact .kept hu' hrunning' hactive
    | left hgone => exact .left hgone
    | ended hworks hend =>
      exact .ended ⟨hspares.runs ▸ hworks.found, hworks.unit, hworks.live⟩ hend

/-- A gate names no run, or one that its unit, if it is running, is running for. -/
def GateNamesHolder (s : DB) (named : Option String) : Prop :=
  ∀ runId run wuId u, named = some runId → s.agentRuns.find? runId = some run →
    run.workUnitId = some wuId → s.workUnitExecutions.find? wuId = some u →
    u.status = .running → run.status = .running

theorem blockGatedRun_frees {flushed : DB} {reason : WaitingReason}
    (hgate : GateNamesHolder s (some runId))
    (h : blockGatedRun env flushed taskId runId reason s = .ok ((), s')) : Frees T s s' := by
  rw [blockGatedRun, Tx.get_bind_ok] at h
  rcases Tx.withSome_ok.mp h with ⟨run, hrun, h₁⟩ | ⟨-, rfl⟩
  · rcases Tx.withSome_ok.mp h₁ with ⟨wuId, hwu, h₂⟩ | ⟨-, rfl⟩
    · obtain ⟨_, t₁, hblock, h₃⟩ := Tx.bind_ok.mp h₂
      obtain ⟨_, t₂, hmarker, h₄⟩ := Tx.bind_ok.mp h₃
      obtain ⟨_, t₃, hend, hstops⟩ := Tx.bind_ok.mp h₄
      have hspares : Spares wuId s t₁ := Respects.rel hblock
      have hmarked : Frees T t₁ t₂ := Respects.rel hmarker
      have hended : Frees T t₂ t₃ := Respects.rel hend
      have hstopped : Frees T t₃ s' := Respects.rel hstops
      refine before_end hspares (Preord.trans hmarked (Preord.trans hended hstopped)) ?_
      intro u hu hrunning
      have hruns := hgate runId run wuId u rfl hrun hwu hu hrunning
      refine ⟨runId, run, ⟨hrun, hwu, by rw [hruns]; rfl⟩, hstopped.ended ?_⟩
      rcases Tx.when_ok.mp hend with ⟨-, hupdate⟩ | ⟨hnot, -⟩
      · obtain rfl := Ref.update_ok.mp hupdate
        have hwrites : Writes [.activeExecuteRunMarkers] t₁ t₂ := Respects.rel hmarker
        have hsame : s.agentRuns = t₂.agentRuns :=
          hspares.runs.trans ((hwrites .agentRuns).2 (by decide))
        exact ⟨_, (Table.find?_modify_self _ _ _).trans (congrArg _ (hsame ▸ hrun)), rfl⟩
      · exact absurd hruns hnot
    · exact Preord.refl _
  · exact Preord.refl _

theorem openBlockingGate_frees (hgate : GateNamesHolder s (truthy p.runId))
    (h : openBlockingGate env auth p s = .ok (result, s')) : Frees T s s' := by
  rw [openBlockingGate, Tx.get_bind_ok] at h
  obtain ⟨taskId, t₁, hkey, h₁⟩ := Tx.bind_ok.mp h
  obtain ⟨-, rfl⟩ := key_ok.mp hkey
  obtain ⟨task, t₂, hget, h₂⟩ := Tx.bind_ok.mp h₁
  obtain ⟨-, rfl⟩ := getTask_ok.mp hget
  obtain ⟨decisionId, t₃, hdraw, h₃⟩ := Tx.bind_ok.mp h₂
  obtain ⟨_, t₄, hadd, h₄⟩ := Tx.bind_ok.mp h₃
  obtain ⟨_, t₅, hopen, h₅⟩ := Tx.bind_ok.mp h₄
  obtain ⟨_, t₆, hblock, hrest⟩ := Tx.bind_ok.mp h₅
  have hasked : Writes [.decisions, .gates] t₂ t₅ :=
    Preord.trans (Respects.rel hdraw) (Preord.trans (Respects.rel hadd) (Respects.rel hopen))
  have hruns : t₂.agentRuns = t₅.agentRuns := (hasked .agentRuns).2 (by decide)
  have hunits : t₂.workUnitExecutions = t₅.workUnitExecutions :=
    (hasked .workUnitExecutions).2 (by decide)
  have hbefore : Frees T t₂ t₅ := of_writes (hasked.mono (by decide))
  refine Preord.trans hbefore (Preord.trans ?_ (Respects.rel hrest : Frees T t₆ s'))
  rcases Tx.withSome_ok.mp hblock with ⟨runId, hnamed, h₆⟩ | ⟨-, rfl⟩
  · refine blockGatedRun_frees ?_ h₆
    intro runId' run wuId u hsame hrun hwu hu
    exact hgate runId' run wuId u (hnamed.trans hsame) (hruns ▸ hrun) hwu (hunits ▸ hu)
  · exact Preord.refl _

/-! ## Results -/

theorem runTransitions_succeed {status next : AgentRunStatus}
    (h : runTransitions status .succeed = some next) : next.isTerminal = true := by
  cases status <;> cases h
  rfl

/-- A run that reports ends. -/
theorem report_run {status next : AgentRunStatus} {f : AgentRunRow → AgentRunRow}
    {hf : ∀ a, SameFixed a (f a)} (hnext : runTransitions status .succeed = some next)
    (hstatus : ∀ a, (f a).status = next) (hrun : s.agentRuns.find? runId = some run)
    (h : (Refs.agentRuns.update runId f hf : Core Unit) s = .ok ((), s')) :
    Frees T s s' ∧ EndedRun s' runId := by
  have hterminal (a : AgentRunRow) : (f a).status.isTerminal = true := by
    rw [hstatus]
    exact runTransitions_succeed hnext
  refine ⟨(update_run fun a _ ↦ hterminal a).rel h, ?_⟩
  obtain rfl := Ref.update_ok.mp h
  exact ⟨f run, (Table.find?_modify_self _ _ _).trans (congrArg _ hrun), hterminal run⟩

/-- A result for an assignment that was superseded ends the run, which gives its unit up. -/
theorem recordSupersededResult_frees {report : RunResult} {ref : String}
    (hrun : s.agentRuns.find? runId = some run)
    (h : recordSupersededResult env auth runId wuId run report ref s = .ok (result, s')) :
    Frees T s s' := by
  obtain ⟨next, t₁, hrequire, h₁⟩ := Tx.bind_ok.mp h
  obtain ⟨hnext, rfl⟩ := Tx.require_ok.mp hrequire
  obtain ⟨_, t₂, hend, h₂⟩ := Tx.bind_ok.mp h₁
  obtain ⟨hfrees, hended⟩ := report_run (T := T) hnext (fun _ ↦ rfl) hrun hend
  rw [Tx.get_bind_ok] at h₂
  obtain ⟨_, t₃, hmarker, h₃⟩ := Tx.bind_ok.mp h₂
  obtain ⟨_, t₄, hquit, hrest⟩ := Tx.bind_ok.mp h₃
  have hmarked : Frees T t₂ t₃ := Respects.rel hmarker
  have hwrites : Writes [.workUnitExecutions] t₃ t₄ := Respects.rel hquit
  have hruns : t₃.agentRuns = t₄.agentRuns := (hwrites .agentRuns).2 (by decide)
  have hended' : EndedRun t₄ runId := by
    rw [EndedRun, ← hruns]
    exact hmarked.ended hended
  have hquits : Respects (Moves Refs.workUnitExecutions (UnitQuits runId))
      (Refs.workUnitExecutions.updateWhere (fun k u ↦ k == wuId && u.activeRunId == some runId)
        fun u ↦ { u with activeRunId := none } : Core Unit) :=
    Moves.updateWhere fun _ a hq ↦
      ⟨rfl, .inr (by simpa using (Bool.and_eq_true_iff.mp hq).2)⟩
  have hfreed : Frees T t₃ t₄ := of_quits hruns hended' (hquits.rel hquit)
  have hlast : Frees T t₄ s' := Respects.rel hrest
  exact Preord.trans hfrees (Preord.trans hmarked (Preord.trans hfreed hlast))

instance applyResultToUnit_spares {report : RunResult} {ref : String} {outcome : Outcome} :
    Respects (Spares wuId) (applyResultToUnit env taskId runId wuId report ref outcome) := by
  rw [applyResultToUnit]
  infer_instance

/-- A result that is accepted ends the run, and completes or blocks its unit. -/
theorem acceptRunResult_frees {report : RunResult} {ref : String}
    (hrun : s.agentRuns.find? runId = some run) (hlive : run.status.isTerminal = false)
    (h : acceptRunResult env auth runId run report ref s = .ok (result, s')) : Frees T s s' := by
  obtain ⟨next, t₁, hrequire, h₁⟩ := Tx.bind_ok.mp h
  obtain ⟨hnext, rfl⟩ := Tx.require_ok.mp hrequire
  obtain ⟨_, t₂, hend, h₂⟩ := Tx.bind_ok.mp h₁
  obtain ⟨_, t₃, hunit, h₃⟩ := Tx.bind_ok.mp h₂
  obtain ⟨_, t₄, hclear, hrest⟩ := Tx.bind_ok.mp h₃
  obtain ⟨hfrees, hended⟩ := report_run (T := T) hnext (fun _ ↦ rfl) hrun hend
  have happlied : Frees T t₁ t₃ := by
    rcases Tx.withSome_ok.mp hunit with ⟨wuId, hwu, happly⟩ | ⟨-, rfl⟩
    · exact then_unit ⟨hrun, hwu, hlive⟩ hfrees hended (Respects.rel happly)
    · exact hfrees
  have hcleared : Frees T t₃ t₄ := by
    rcases Tx.when_ok.mp hclear with ⟨-, hclear'⟩ | ⟨-, rfl⟩
    · have hwrites : Writes occupancyTables t₃ t₄ := Respects.rel hclear'
      have hruns : t₃.agentRuns = t₄.agentRuns := (hwrites .agentRuns).2 (by decide)
      have hended' : EndedRun t₃ runId := by
        rcases Tx.withSome_ok.mp hunit with ⟨wuId, -, happly⟩ | ⟨-, rfl⟩
        · have hspares : Spares wuId t₂ t₃ := Respects.rel happly
          rw [EndedRun, ← hspares.runs]
          exact hended
        · exact hended
      refine of_quits hruns ?_ (clearRunOccupancy_quits hclear')
      rw [EndedRun, ← hruns]
      exact hended'
    · exact Preord.refl _
  exact Preord.trans happlied (Preord.trans hcleared (Respects.rel hrest))

theorem submitResult_frees (h : submitResult env auth p s = .ok (result, s')) :
    Frees T s s' := by
  have hdraw (n : Nat) : Frees T s { s with drawn := n } := of_units (Moves.of_read rfl)
    (Arrivals.of_read rfl) rfl
  cases submitResult_ok h with
  | stopped _ _ _ ran => exact Respects.rel ran
  | overtaken _ _ _ _ ran => exact Respects.rel ran
  | @marked runId =>
    have hupdate : (Refs.agentRuns.update runId fun r ↦ { r with lateArrival := true } : Core Unit)
      s = .ok ((), { s with agentRuns := s.agentRuns.modify runId fun r ↦
        { r with lateArrival := true } }) := rfl
    exact Respects.rel hupdate
  | @superseded _ _ _ _ n _ _ _ found _ ran =>
    have hended : Frees T { s with drawn := n } s' := recordSupersededResult_frees found ran
    exact Preord.trans (hdraw n) hended
  | @accepted _ _ _ n _ _ accepts ran =>
    have hended : Frees T { s with drawn := n } s' :=
      acceptRunResult_frees accepts.found accepts.live ran
    exact Preord.trans (hdraw n) hended

/-! ## Plans -/

instance : Inserts (Frees T) Refs.workUnitExecutions where
  insert e k a := by
    constructor
    intro s _ s' h
    have hmoves : Moves Refs.workUnitExecutions UnitRuns s s' := Respects.rel h
    obtain ⟨-, rfl⟩ := Ref.insert_ok.mp h
    exact of_moves (fun _ _ h ↦ h) rfl hmoves

instance rebindUnit_respects {node : RawNode} {wu : WorkUnitExecutionRow} :
    Respects (Frees T) (rebindUnit node wu) := by
  have hbind : Respects (Frees T) (Refs.workUnitExecutions.update node.workUnitId
      fun u ↦ { u with specVersion := node.version } : Core Unit) := by
    constructor
    intro s _ s' h
    have hmoves : Respects (Moves Refs.workUnitExecutions UnitRuns)
        (Refs.workUnitExecutions.update node.workUnitId
          fun u ↦ { u with specVersion := node.version } : Core Unit) :=
      Moves.update fun a hrunning ↦ ⟨hrunning, rfl⟩
    have hmoved := hmoves.rel h
    obtain rfl := Ref.update_ok.mp h
    exact of_moves (fun _ _ h ↦ h) rfl hmoved
  rw [rebindUnit]
  infer_instance

instance installUnit_respects {node : RawNode} :
    Respects (Frees T) (installUnit taskId node) := by
  rw [installUnit]
  exact .seq inferInstance fun _ ↦ by split <;> infer_instance

/-- A unit is removed that is one of the exceptions. -/
theorem removeUnit_respects {flushed : DB} (hT : T wuId) :
    Respects (Frees T) (removeUnit env flushed taskId wuId) := by
  have hcancel : Respects (Frees T) (cancelRemovedUnit wuId) := by
    constructor
    intro s _ s' h
    obtain rfl := Ref.update_ok.mp h
    refine ⟨Moves.of_read rfl, Arrivals.of_read rfl, fun k u hk hu hrunning ↦ .kept ?_ hrunning rfl⟩
    have hne : k ≠ wuId := fun heq ↦ hk (heq ▸ hT)
    exact (Table.find?_modify_of_ne hne _ _).trans hu
  rw [removeUnit]
  infer_instance

theorem alignUnits_frees {flushed : DB} {objective : Option String} {title : String}
    {contract : ContractContent} {nodes : List RawNode}
    (h : alignUnits env flushed taskId objective title contract nodes s = .ok ((), s')) :
    Frees (Unnamed s' taskId nodes) s s' := by
  rw [alignUnits] at h
  obtain ⟨_, t, hinstall, hrest⟩ := Tx.bind_ok.mp h
  rw [Tx.get_bind_ok] at hrest
  have hpersist : Persists t s' := Respects.rel hrest
  refine Preord.trans (Respects.rel hinstall) ?_
  refine Tx.each_induct (P := Frees (Unnamed s' taskId nodes) t) ?_ (Preord.refl t) hrest
  intro k hk u u' hu hround
  refine Preord.trans hu ((removeUnit_respects ?_).rel hround)
  obtain ⟨r, hr, rfl⟩ := List.mem_map.mp hk
  obtain ⟨hfind, hp⟩ := Table.mem_select.mp hr
  simp only [Bool.and_eq_true, beq_iff_eq, Bool.not_eq_true'] at hp
  obtain ⟨a, ha, hsame⟩ := hpersist.unit hfind
  refine ⟨⟨a, ha, hsame.trans hp.1⟩, fun node hnode heq ↦ ?_⟩
  have hmem : r.1 ∈ nodes.map RawNode.workUnitId := heq ▸ List.mem_map_of_mem hnode
  rw [List.contains_iff_mem.mpr hmem] at hp
  cases hp.2

end Frees

section Installs

variable {r : PlanRequest} {version : Nat} {contract : ContractRow}

/-- An activation removes units of its task that its nodes do not name. -/
theorem InstallsPlan.frees (h : InstallsPlan env auth p operation s s' r task version contract) :
    Frees (Unnamed s' r.taskId r.nodes) s s' := by
  obtain ⟨n, v, u₁, u₂, u₃, u₄, u, hstages, hrecords⟩ := h.stages
  have hadvance : Writes [.tasks, .events] u₃ u₄ := Respects.rel hstages.advance
  have hafter : Writes (.tasks :: .events :: requestRecords) u₃ s' :=
    Preord.trans (hadvance.mono (by decide)) (Preord.trans (hstages.events.mono (by decide))
      (hrecords.mono (by decide)))
  have hunits : u₃.workUnitExecutions = s'.workUnitExecutions :=
    (hafter .workUnitExecutions).2 (by decide)
  have halign : Frees (Unnamed s' r.taskId r.nodes) u₂ u₃ := by
    have hsame : Unnamed u₃ r.taskId r.nodes = Unnamed s' r.taskId r.nodes := by
      funext k
      rw [Unnamed, Unnamed, hunits]
    exact hsame ▸ Frees.alignUnits_frees hstages.align
  have hdrawn : Frees (Unnamed s' r.taskId r.nodes) s { s with drawn := n } :=
    Frame.still (writes_drawn _ _)
  exact Preord.trans hdrawn (Preord.trans (Respects.rel hstages.install)
    (Preord.trans (Respects.rel hstages.supersede)
      (Preord.trans halign (Frees.of_writes (hafter.mono (by decide))))))

/-- A unit that was left out, or that the new plan does not name, is left out. -/
theorem InstallsPlan.leftOut (h : InstallsPlan env auth p operation s s' r task version contract)
    (hpersist : Persists s s') {u : WorkUnitExecutionRow}
    (hu : s.workUnitExecutions.find? wuId = some u)
    (hoff : u.taskId = r.taskId ∨ OffPlan s wuId u)
    (hnot : u.taskId = r.taskId → ∀ node ∈ r.nodes, node.workUnitId ≠ wuId) :
    LeftOut s' wuId := by
  obtain ⟨u', hu', hsame⟩ := hpersist.unit hu
  refine ⟨u', hu', ?_⟩
  rw [OffPlan, hsame]
  by_cases htask : u.taskId = r.taskId
  · refine ⟨task.planVersion.getD 0 + 1, _, ?_, htask ▸ h.installed, hnot htask⟩
    rw [h.rest.markers, DB.setPlan_markers, if_pos htask]
  · obtain ⟨v, plan, hmarker, hplan, hnodes⟩ := hoff.resolve_left htask
    obtain ⟨plan', hplan', hfixed⟩ := (hpersist .plans).1 (u.taskId, v) plan hplan
    have hsame' : plan'.nodes = plan.nodes := congrArg (·.2.2.2.1) hfixed
    refine ⟨v, plan', ?_, hplan', hsame'.symm ▸ hnodes⟩
    rw [h.rest.markers, DB.setPlan_markers, if_neg htask]
    exact hmarker

end Installs

/-! ## Steps -/

namespace UnitsHeld

/-- Where no plan is installed, nobody loses a unit that still works on it. -/
theorem of_frees (h : UnitsHeld s) (halign : AlignInv s) (hfrees : Frees (fun _ ↦ False) s s')
    (hnone : NoPlanInstalled s s') (hpersist : Persists s s') : UnitsHeld s' := by
  intro runId wuId run' hworks'
  obtain ⟨run, hworks, -⟩ := hfrees.worked hworks'
  rcases h runId wuId run hworks with hheld | ⟨u, hu, hoff⟩
  · obtain ⟨u, hu, hrunning, hactive⟩ := hheld
    left
    cases hfrees.units wuId u id hu hrunning with
    | kept hu' hrunning' hactive' => exact ⟨_, hu', hrunning', hactive'.trans hactive⟩
    | left hgone => exact absurd hworks' (hgone runId run' hactive)
    | @ended other _ hother hended =>
      -- whoever worked on the unit held it, so it is the same run that has ended
      rcases h other wuId _ hother with hholds | hleft
      · obtain rfl := hholds.unique ⟨u, hu, hrunning, hactive⟩
        exact absurd hended hworks'.not_ended
      · exact absurd ⟨u, hu, hrunning, hactive⟩ (hleft.not_held halign)
  · right
    obtain ⟨u', hu', hsame⟩ := hpersist.unit hu
    refine ⟨u', hu', ?_⟩
    rw [OffPlan, hsame, hnone.markers, hnone.plans]
    exact hoff

/-- A plan that lists no unit that has ended while a run still works on it. -/
def ListsNoEnded (s : DB) (nodes : List RawNode) : Prop :=
  ∀ node ∈ nodes, ∀ runId run u, WorksOn s runId node.workUnitId run →
    s.workUnitExecutions.find? node.workUnitId = some u → u.status.isTerminal = false

theorem of_installs {r : PlanRequest} {version : Nat} {contract : ContractRow} (h : UnitsHeld s)
    (halign : AlignInv s) (howned : RunsOwned s)
    (hinstall : InstallsPlan env auth p operation s s' r task version contract)
    (hpersist : Persists s s') (hlists : ListsNoEnded s r.nodes) : UnitsHeld s' := by
  have hfrees := hinstall.frees
  intro runId wuId run' hworks'
  obtain ⟨run, hworks, -⟩ := hfrees.worked hworks'
  obtain ⟨u, hu, -⟩ := howned runId run hworks.found wuId hworks.unit
  by_cases hnamed : u.taskId = r.taskId ∧ ∀ node ∈ r.nodes, node.workUnitId ≠ wuId
  · exact .inr (hinstall.leftOut hpersist hu (.inl hnamed.1) fun _ ↦ hnamed.2)
  have hnot : ¬Unnamed s' r.taskId r.nodes wuId := by
    rintro ⟨⟨u', hu', howner⟩, hnodes⟩
    obtain ⟨u'', hu'', hsame⟩ := hpersist.unit hu
    obtain rfl := Option.some.inj (hu'.symm.trans hu'')
    exact hnamed ⟨hsame.symm.trans howner, hnodes⟩
  rcases h runId wuId run hworks with hheld | ⟨u', hu', hoff⟩
  · obtain ⟨u', hu', hrunning, hactive⟩ := hheld
    left
    cases hfrees.units wuId u' hnot hu' hrunning with
    | kept hkept hrunning' hactive' => exact ⟨_, hkept, hrunning', hactive'.trans hactive⟩
    | left hgone => exact absurd hworks' (hgone runId run' hactive)
    | @ended other _ hother hended =>
      rcases h other wuId _ hother with hholds | hleft
      · obtain rfl := hholds.unique ⟨u', hu', hrunning, hactive⟩
        exact absurd hended hworks'.not_ended
      · exact absurd ⟨u', hu', hrunning, hactive⟩ (hleft.not_held halign)
  · obtain rfl := Option.some.inj (hu.symm.trans hu')
    refine .inr (hinstall.leftOut hpersist hu (.inr hoff) fun _ node hnode heq ↦ ?_)
    -- the unit has ended, so the plan may not list it
    have hended := halign.ended wuId u hu hoff
    rw [hlists node hnode runId run u (heq ▸ hworks) (heq ▸ hu)] at hended
    cases hended

end UnitsHeld

/-! ## Dispatch -/

/-- Units that are running stay with their runs, and whoever is new holds the unit it works on. -/
structure Deals (s s' : DB) : Prop where
  units : Units UnitRuns s s'
  came : ∀ runId wuId run', WorksOn s' runId wuId run' →
    (∃ run, WorksOn s runId wuId run) ∨ HeldBy s' wuId runId

namespace Deals

theorem held (h : Units UnitRuns s s') (hheld : HeldBy s wuId runId) : HeldBy s' wuId runId := by
  obtain ⟨u, hu, hrunning, hactive⟩ := hheld
  obtain ⟨u', hu', hmove⟩ := h wuId u hu
  obtain ⟨hrunning', hactive'⟩ := hmove hrunning
  exact ⟨u', hu', hrunning', hactive'.trans hactive⟩

/-- No run is new. -/
theorem of_runs (h : Units UnitRuns s s') (hruns : s.agentRuns = s'.agentRuns) : Deals s s' :=
  ⟨h, fun _ _ run' hworks ↦ .inl ⟨run', hruns ▸ hworks.found, hworks.unit, hworks.live⟩⟩

instance : Preord Deals where
  refl s := of_runs (Preord.refl s) rfl
  trans h h' := by
    refine ⟨Preord.trans h.units h'.units, fun runId wuId run' hworks ↦ ?_⟩
    rcases h'.came runId wuId run' hworks with ⟨run, hworks'⟩ | hheld
    · exact (h.came runId wuId run hworks').imp id (held h'.units)
    · exact .inr hheld

theorem of_writes (h : Writes Frees.besideHolding s s') : Deals s s' :=
  of_runs (Moves.of_read ((h .workUnitExecutions).2 (by decide))) ((h .agentRuns).2 (by decide))

instance : Frame Deals where
  still h := of_writes (h.mono fun _ hn ↦ (List.not_mem_nil hn).elim)

instance {n : Relation} [hn : Touches n Frees.besideHolding] : Indifferent Deals n where
  writes h := of_writes (h.mono fun _ hm ↦ List.mem_singleton.mp hm ▸ hn.mem)

instance dispatchNode_respects {version globalActive taskActive : Nat} {edges : List RawEdge}
    {created : List String} {node : RawNode} :
    Respects Deals
      (dispatchNode env auth taskId version edges globalActive taskActive created node) where
  rel {s created' s'} h := by
    have hunits : Units UnitRuns s s' := Respects.rel h
    rcases dispatchNode_cases h with ⟨-, hwrites⟩ | ⟨t, task, wu, runId, manifestId, hdispatched⟩
    · exact of_runs hunits ((hwrites .agentRuns).2 (by decide))
    obtain ⟨hfresh, hcreated, hstarted⟩ := createExecuteRun_ok hdispatched.run
    have hruns : s.agentRuns = t.agentRuns := (hdispatched.before .agentRuns).2 (by decide)
    refine ⟨hunits, fun k wuId run' hworks ↦ ?_⟩
    have hfound := hworks.found
    rw [hcreated, Table.find?_insert hfresh] at hfound
    split at hfound
    · next heq =>
      right
      subst heq
      obtain rfl := Option.some.inj hfound
      obtain rfl : node.workUnitId = wuId := Option.some.inj hworks.unit
      have hbound : t.workUnitExecutions.find? node.workUnitId =
          some { wu with specVersion := node.version } := by
        rw [hdispatched.bound, Table.find?_modify_self, hdispatched.found]
        rfl
      rw [HeldBy, hstarted]
      exact ⟨_, (Table.find?_modify_self _ _ _).trans (congrArg _ hbound), rfl, rfl⟩
    · exact .inl ⟨run', hruns ▸ hfound, hworks.unit, hworks.live⟩

instance dispatchReadyRuns_respects : Respects Deals (dispatchReadyRuns env auth p) :=
  inferInstance

end Deals

theorem UnitsHeld.of_deals (h : UnitsHeld s) (hdeals : Deals s s')
    (hnone : NoPlanInstalled s s') (hpersist : Persists s s') : UnitsHeld s' := by
  intro runId wuId run' hworks'
  rcases hdeals.came runId wuId run' hworks' with ⟨run, hworks⟩ | hheld
  · rcases h runId wuId run hworks with hheld | ⟨u, hu, hoff⟩
    · exact .inl (Deals.held hdeals.units hheld)
    · right
      obtain ⟨u', hu', hsame⟩ := hpersist.unit hu
      refine ⟨u', hu', ?_⟩
      rw [OffPlan, hsame, hnone.markers, hnone.plans]
      exact hoff
  · exact .inl hheld

/-! ## Steps of the system -/

/-- A step that lets the runs hold their units: no activation that is carried out lists a unit that
has ended while a run still works on it, and no gate is opened in the name of a run that is not
running while its unit is. -/
structure LetsHold (w : World) (l : Label) : Prop where
  plans : ∀ env q w' r task version contract, l = .command env q → system.step w l = some w' →
    InstallsPlan env q.auth q.payload q.operation w.db w'.db r task version contract →
    UnitsHeld.ListsNoEnded w.db r.nodes
  gates : ∀ env q, l = .command env q → q.operation = .openBlockingGate →
    Frees.GateNamesHolder w.db (truthy q.payload.runId)

/-- A command installs a plan, dispatches runs, or sets units free. -/
theorem handler_frees (howned : RunsOwned s)
    (hgates : operation = .openBlockingGate → Frees.GateNamesHolder s (truthy p.runId))
    (h : handler env auth p operation s = .ok (result, s')) :
    (∃ r task version contract, InstallsPlan env auth p operation s s' r task version contract) ∨
      Deals s s' ∨ Frees (fun _ ↦ False) s s' := by
  by_cases hactivates : operation.activates = true
  · rcases handler_activates hactivates h with ⟨r, n, hasks, hplan⟩ | hevents | ⟨_, hpropose⟩
    · exact .inl (InstallsPlan.of_request hasks hplan)
    · exact .inr (.inr (Indifferent.writes hevents))
    · exact .inr (.inr (Respects.rel hpropose))
  by_cases hdispatch : operation = .dispatchReadyRuns
  · subst hdispatch
    exact .inr (.inl (Deals.dispatchReadyRuns_respects.rel h))
  right
  right
  by_cases hsubmit : operation = .submitResult
  · subst hsubmit
    exact Frees.submitResult_frees h
  by_cases hgate : operation = .openBlockingGate
  · subst hgate
    have hopen : openBlockingGate env auth p s = .ok (result, s') := h
    exact Frees.openBlockingGate_frees (hgates rfl) hopen
  by_cases hquiet : operation = .runtimeQuiescent
  · subst hquiet
    exact Frees.runtimeQuiescent_frees howned h
  refine (Frees.handler_respects (eq_false_of_ne_true hactivates) ?_).rel h
  simp [hdispatch, hsubmit, hgate, hquiet]

namespace UnitsHeld

theorem step_command (hheld : UnitsHeld w.db) (halign : AlignInv w.db) (howned : RunsOwned w.db)
    {q : Request} (hok : LetsHold w (.command env q))
    (hstep : system.step w (.command env q) = some w') : UnitsHeld w'.db := by
  have hpersist : Persists w.db w'.db := step_rel hstep
  have hinstalls {env' : Env} {q' : Request} {r : PlanRequest} {task : TaskRow} {version : Nat}
      {contract : ContractRow} (hl : Label.command env q = .command env' q')
      (hinstall : InstallsPlan env' q'.auth q'.payload q'.operation w.db w'.db r task version
        contract) : UnitsHeld w'.db :=
    hheld.of_installs halign howned hinstall hpersist
      (hok.plans env' q' w' r task version contract hl hstep hinstall)
  rcases step_plans hstep with hnone | ⟨env', q', r, task, version, contract, hl, hinstall⟩
  · rcases HibikiCore.step_command hstep with hrecords | ⟨t, t', result, hran, hrecords⟩
    · exact hheld.of_frees halign (.of_writes (hrecords.mono (by decide))) hnone hpersist
    obtain ⟨n, rfl⟩ := hran.start
    have hdrawn : Writes [] w.db { w.db with drawn := n } := writes_drawn _ _
    have hgates (hoperation : q.operation = .openBlockingGate) :
        Frees.GateNamesHolder { w.db with drawn := n } (truthy q.payload.runId) :=
      hok.gates env q rfl hoperation
    have howned' : RunsOwned { w.db with drawn := n } := howned
    rcases handler_frees howned' hgates hran.run with ⟨r, task, version, contract, hinstall⟩ |
      hdeals | hfrees
    · exact hinstalls rfl (hinstall.trans hrecords).of_drawn
    · exact hheld.of_deals (Preord.trans (Frame.still hdrawn) (Preord.trans hdeals
        (Deals.of_writes (hrecords.mono (by decide))))) hnone hpersist
    · exact hheld.of_frees halign (Preord.trans (Frame.still hdrawn) (Preord.trans hfrees
        (.of_writes (hrecords.mono (by decide))))) hnone hpersist
  · exact hinstalls hl hinstall

theorem step (hheld : UnitsHeld w.db) (halign : AlignInv w.db) (howned : RunsOwned w.db)
    (hok : LetsHold w l) (hstep : system.step w l = some w') : UnitsHeld w'.db := by
  cases l
  case command env q => exact hheld.step_command halign howned hok hstep
  all_goals
    rcases step_plans hstep with hnone | ⟨_, _, _, _, _, _, hl, -⟩
    · exact hheld.of_frees halign (step_background Preord.refl rfl hstep) hnone (step_rel hstep)
    · cases hl

/-- A result is accepted only from the run that holds the unit. -/
theorem acceptsHolders (hheld : UnitsHeld s) (howned : RunsOwned s) : AcceptsHolders s := by
  intro auth p runId run wuId u haccepts hwu hu
  rcases hheld runId wuId run ⟨haccepts.found, hwu, haccepts.live⟩ with hholds | ⟨u', hu', hoff⟩
  · obtain ⟨u', hu', hrunning, hactive⟩ := hholds
    obtain rfl := Option.some.inj (hu.symm.trans hu')
    exact ⟨hrunning, hactive⟩
  · exact absurd hwu (hoff.not_accepted hu' howned haccepts)

end UnitsHeld

theorem unitsHeld_invariant : system.Invariant LetsHold fun w ↦
    (RunsOwned w.db ∧ AlignInv w.db) ∧ UnitsHeld w.db :=
  (alignInv_invariant LetsHold).strengthen (fun _ _ _ h ↦ by cases h.found)
    fun _ _ _ hinv _ hheld hok hstep ↦ hheld.step hinv.2 hinv.1 hok hstep

/-- The unit is cancelled with the first plan that leaves it out, and listed again by the next one;
its run was not stopped yet. -/
def sampleRelisted : List Label :=
  let human := AuthContext.ofHuman "owner"
  sampleStarted ++
    [ .ask human .activatePlan
        { taskId := some "task_i", nodes := some [{ workUnitId := "other" }] },
      .ask human .activatePlan
        { taskId := some "task_i", nodes := some [{ workUnitId := "unit" }] } ]

/-- The run of the samples submits its result. -/
def sampleSubmit : Label :=
  .ask
    { principalId := "owner"
      actorId := "local:run_iiiiiiiiii"
      actorType := .internal
      boundTaskId := some "task_i"
      boundRunId := some "run_iiiiiiiiii"
      boundFencingEpoch := some 1
      boundGrantEpoch := some 0 }
    .submitResult
    { taskId := some "task_i", runId := some "run_iiiiiiiiii", fencingEpoch := some 1 }

/-- In every run of the system whose steps let the runs hold their units, whatever comes next moves
a unit as `UnitStep` says, and a unit that has ended keeps its status. -/
theorem units_complete_once {w w' : World} (h : system.ReachableBy LetsHold w)
    (hrun : system.Run LetsHold w w') :
    (∀ l w₁, system.step w' l = some w₁ →
      ∀ wuId u, w'.db.workUnitExecutions.find? wuId = some u →
        ∃ u', w₁.db.workUnitExecutions.find? wuId = some u' ∧ UnitStep u u' l) ∧
    ∀ wuId u, w.db.workUnitExecutions.find? wuId = some u → u.status.isTerminal = true →
      ∃ u', w'.db.workUnitExecutions.find? wuId = some u' ∧ u'.status = u.status := by
  have haccepts (v : World) (hv : system.ReachableBy LetsHold v) : AcceptsHolders v.db := by
    obtain ⟨⟨howned, -⟩, hheld⟩ := unitsHeld_invariant.of_reachable hv
    exact hheld.acceptsHolders howned
  constructor
  · intro l w₁ hstep wuId u hu
    exact step_units (haccepts w' (h.trans hrun)) hstep hu
  · intro wuId u hu hended
    induction hrun with
    | refl => exact ⟨u, hu, rfl⟩
    | @step v _ _ hbefore _ hstep ih =>
      obtain ⟨u₁, hu₁, hsame₁⟩ := ih
      obtain ⟨u₂, hu₂, hmove⟩ := step_units (haccepts v (h.trans hbefore)) hstep hu₁
      exact ⟨u₂, hu₂, (hmove.ended (hsame₁ ▸ hended)).trans hsame₁⟩

/-- A step that neither activates plans nor opens gates. -/
def Label.isCalm : Label → Bool
  | .command _ q => !q.operation.activates && q.operation != .openBlockingGate
  | _ => true

theorem LetsHold.of_calm (h : l.isCalm = true) : LetsHold w l where
  plans env q w' r task version contract hl _ hinstall := by
    subst hl
    have hactivates := hinstall.asks.activates
    rw [Label.isCalm, hactivates] at h
    cases h
  gates env q hl hoperation := by
    subst hl
    rw [Label.isCalm, hoperation] at h
    cases h

/-- Where there is no run, nobody holds a unit. -/
theorem LetsHold.of_noRuns (h : ∀ runId, w.db.agentRuns.find? runId = none) : LetsHold w l where
  plans _ _ _ _ _ _ _ _ _ _ _ _ runId _ _ hworks := by
    cases (h runId).symm.trans hworks.found
  gates _ _ _ _ runId _ _ _ _ hrun := by cases (h runId).symm.trans hrun

/-- The plan that leaves the unit of the samples out. -/
def sampleLeaving : Label :=
  .ask (.ofHuman "owner") .activatePlan
    { taskId := some "task_i", nodes := some [{ workUnitId := "other" }] }

theorem LetsHold.sampleLeaving (h : w.db.workUnitExecutions.find? "other" = none) :
    LetsHold w sampleLeaving where
  plans env q w' r task version contract hl _ hinstall := by
    obtain ⟨rfl, rfl⟩ := Label.command.inj hl
    intro node hnode runId run u _ hu
    cases hinstall.asks with
    | plan _ hgiven =>
      obtain rfl := Option.some.inj hgiven
      obtain rfl := List.mem_singleton.mp hnode
      cases h.symm.trans hu
  gates env q hl hoperation := by
    obtain ⟨rfl, rfl⟩ := Label.command.inj hl
    cases hoperation

/-- The result of a run whose unit a plan has left out does not complete the unit. -/
theorem units_complete_once_sampleLeaving :
    ∃ w w' u u', system.ReachableBy LetsHold w ∧ system.step w sampleSubmit = some w' ∧
      (∃ run, WorksOn w.db "run_iiiiiiiiii" "unit" run ∧ run.status = .running) ∧
      w.db.workUnitExecutions.find? "unit" = some u ∧ u.status = .cancelled ∧
      w'.db.workUnitExecutions.find? "unit" = some u' ∧ u'.status = .cancelled := by
  have hview : (system.exec system.init (sampleStarted.take 3)).bind (fun w₁ ↦
      (system.exec w₁ [sampleStarted.get ⟨3, by decide⟩]).bind fun w₂ ↦
        (system.exec w₂ (sampleStarted.drop 4)).bind fun w₃ ↦
          (system.step w₃ sampleLeaving).bind fun w₄ ↦
            (system.step w₄ sampleSubmit).map fun _ ↦
              (w₁.db.agentRuns.rows.length, (w₃.db.workUnitExecutions.find? "other").isNone,
                (w₄.db.agentRuns.find? "run_iiiiiiiiii").map fun run ↦
                  (run.status, run.workUnitId),
                (w₄.db.workUnitExecutions.find? "unit").map (·.status))) =
      some (0, true, some (.running, some "unit"), some .cancelled) := by
    decide +kernel
  obtain ⟨w₁, happrove, hview₁⟩ := Option.bind_eq_some_iff.mp hview
  obtain ⟨w₂, hactivate, hview₂⟩ := Option.bind_eq_some_iff.mp hview₁
  obtain ⟨w₃, hstart, hview₃⟩ := Option.bind_eq_some_iff.mp hview₂
  obtain ⟨w₄, hleave, hview₄⟩ := Option.bind_eq_some_iff.mp hview₃
  obtain ⟨w₅, hsubmit, hfound⟩ := Option.map_eq_some_iff.mp hview₄
  simp only [Prod.mk.injEq, Option.map_eq_some_iff, Option.isNone_iff_eq_none] at hfound
  obtain ⟨hempty, hother, ⟨run, hrun, hrunning, hwu⟩, u, hu, hcancelled⟩ := hfound
  have hcalm : ∀ l ∈ sampleStarted.take 3 ++ sampleStarted.drop 4, l.isCalm = true := by decide
  have happroved : system.Run LetsHold system.init w₁ :=
    .of_exec_ok (fun l hl _ ↦ .of_calm (hcalm l (List.mem_append_left _ hl))) happrove
  have hactivated : system.Run LetsHold w₁ w₂ := by
    obtain ⟨v, hstep, hdone⟩ := Option.bind_eq_some_iff.mp hactivate
    obtain rfl := Option.some.inj hdone
    refine Machine.Run.refl.step (.of_noRuns fun runId ↦ ?_) hstep
    rw [Table.find?, List.eq_nil_of_length_eq_zero hempty]
    rfl
  have hstarted : system.Run LetsHold w₂ w₃ :=
    .of_exec_ok (fun l hl _ ↦ .of_calm (hcalm l (List.mem_append_right _ hl))) hstart
  have hleft : system.ReachableBy LetsHold w₄ :=
    ((happroved.trans hactivated).trans hstarted).step (.sampleLeaving hother) hleave
  have hsubmitted : system.Run LetsHold w₄ w₅ :=
    Machine.Run.refl.step (.of_calm (by decide)) hsubmit
  obtain ⟨u', hu', hsame⟩ :=
    (units_complete_once hleft hsubmitted).2 "unit" u hu (by rw [hcancelled]; rfl)
  exact ⟨w₄, w₅, u, u', hleft, hsubmit, ⟨run, ⟨hrun, hwu, by rw [hrunning]; rfl⟩, hrunning⟩, hu,
    hcancelled, hu', hsame.trans hcancelled⟩

/-- The result of the run completes the cancelled unit. -/
theorem sampleRelisted_completed :
    (system.exec system.init sampleRelisted).bind (fun w ↦
      (w.db.workUnitExecutions.find? "unit").map (·.status)) = some .cancelled ∧
    (system.exec system.init (sampleRelisted ++ [sampleSubmit])).bind (fun w ↦
      (w.db.workUnitExecutions.find? "unit").map (·.status)) = some .done := by
  constructor <;> decide +kernel

end HibikiCore
