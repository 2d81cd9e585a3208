import HibikiCore.Safety.Definitions
import HibikiCore.Safety.Limits
import HibikiCore.Safety.Integrity

/-!
# The units of an ACTIVE plan

An activation gives each node of its plan a unit and a workspace, bound to the version that the node
names, and ends what the plan leaves out. Between two activations the dispatch of runs binds units
too, but only as the ACTIVE plan says, and results are accepted for the units of the plan only. So
the units of an ACTIVE plan fit its nodes in every reachable state, and those of the task that are
not in it have ended.
-/

namespace HibikiCore

set_option synthInstance.maxSize 100000000
set_option synthInstance.maxHeartbeats 400000

variable {env : Env} {auth : AuthContext} {p : Payload} {r : PlanRequest} {task : TaskRow}
  {s s' : DB} {w w' : World} {l : Label} {taskId runId wuId title : String}
  {objective : Option String} {contract : ContractContent} {nodes : List RawNode} {node : RawNode}
  {result : CommandResult} {operation : Operation} {P : RawNode → Prop}

/-! ## The versions that units are bound to -/

/-- An update of a unit that gives no value for its version. -/
instance {a : WorkUnitExecutionRow → String} {c : WorkUnitExecutionRow → WorkUnitStatus}
    {d g : WorkUnitExecutionRow → Option String} {e : WorkUnitExecutionRow → Nat}
    {f : WorkUnitExecutionRow → Option Time} {h : WorkUnitExecutionRow → Option BlockedReason}
    {i : WorkUnitExecutionRow → Option Verdict} {j : WorkUnitExecutionRow → Option String} :
    Leaves WorkUnitExecutionRow.specVersion fun u ↦
      ⟨a u, u.specVersion, c u, d u, e u, f u, g u, h u, i u, j u⟩ :=
  ⟨fun _ ↦ rfl⟩

/-- A unit is named with a version by one of some nodes. -/
def Names (P : RawNode → Prop) (wuId : String) (version : Nat) : Prop :=
  ∃ node, P node ∧ node.workUnitId = wuId ∧ node.version = version

/-- The units persist; new ones, and those bound to another version than before, are bound as one
of some nodes names them. -/
abbrev BoundTo (P : RawNode → Prop) : DB → DB → Prop :=
  SetsColumn Refs.workUnitExecutions WorkUnitExecutionRow.specVersion (Names P)

namespace BoundTo

/-- A unit that none of the nodes names was there before, bound to the same version. -/
theorem back {u' : WorkUnitExecutionRow} (h : BoundTo P s s')
    (hu' : s'.workUnitExecutions.find? wuId = some u') (hnot : ∀ n, P n → n.workUnitId ≠ wuId) :
    ∃ u, s.workUnitExecutions.find? wuId = some u ∧ u'.specVersion = u.specVersion := by
  rcases h.origin hu' with ⟨u, hu, hsame | ⟨n, hn, hunit, -⟩⟩ | ⟨-, n, hn, hunit, -⟩
  · exact ⟨u, hu, hsame⟩
  · exact absurd hunit (hnot n hn)
  · exact absurd hunit (hnot n hn)

instance recomputeRunnableState_respects :
    Respects (BoundTo P) (recomputeRunnableState env taskId) := by
  rw [recomputeRunnableState]
  dsimp only [transitionWorkUnit_blockCleared]
  infer_instance

instance clearRunOccupancy_respects {release : Bool} :
    Respects (BoundTo P) (clearRunOccupancy runId release) := by
  rw [clearRunOccupancy]
  infer_instance

instance recoverWorkUnitAfterLostRun_respects :
    Respects (BoundTo P) (recoverWorkUnitAfterLostRun env runId) := by
  rw [recoverWorkUnitAfterLostRun]
  dsimp only [transitionWorkUnit_runBlocked, transitionWorkUnit_runRetryableFailed]
  infer_instance

instance cancelRemovedUnit_respects : Respects (BoundTo P) (cancelRemovedUnit wuId) := by
  rw [cancelRemovedUnit]
  infer_instance

instance blockContextOverflow_respects {manifest : ContextManifest} :
    Respects (BoundTo P) (blockContextOverflow env auth taskId wuId manifest) := by
  rw [blockContextOverflow]
  infer_instance

instance applyResultToUnit_respects {result : RunResult} {ref : String} {outcome : Outcome} :
    Respects (BoundTo P) (applyResultToUnit env taskId runId wuId result ref outcome) := by
  rw [applyResultToUnit]
  dsimp only [transitionWorkUnit_runBlocked, transitionWorkUnit_runCompleted]
  infer_instance

instance recordSupersededResult_respects {run : AgentRunRow} {result : RunResult} {ref : String} :
    Respects (BoundTo P) (recordSupersededResult env auth runId wuId run result ref) := by
  rw [recordSupersededResult]
  infer_instance

instance runtimeQuiescent_respects : Respects (BoundTo P) (runtimeQuiescent env auth p) := by
  rw [runtimeQuiescent]
  infer_instance

instance resumeTask_respects : Respects (BoundTo P) (resumeTask env auth p) := by
  rw [resumeTask]
  infer_instance

instance blockGatedRun_respects {flushed : DB} {reason : WaitingReason} :
    Respects (BoundTo P) (blockGatedRun env flushed taskId runId reason) := by
  rw [blockGatedRun]
  infer_instance

instance revokeUnsentStart_respects {outboxId : String} :
    Respects (BoundTo P) (revokeUnsentStart env outboxId runId task) := by
  rw [revokeUnsentStart]
  infer_instance

instance cancelTask_respects : Respects (BoundTo P) (cancelTask env auth p) := by
  rw [cancelTask]
  infer_instance

instance settleStoppedRun_respects {run : AgentRunRow} {reason : String} :
    Respects (BoundTo P) (settleStoppedRun env runId run reason) := by
  rw [settleStoppedRun]
  infer_instance

instance background : Background (BoundTo P) := inferInstance

/-- Only the activation of plans and the dispatch of runs bind units. -/
theorem handler_respects (hactivates : operation.activates = false)
    (hruns : operation ≠ .dispatchReadyRuns) :
    Respects (BoundTo P) (handler env auth p operation) := by
  cases operation
  all_goals first
    | exact absurd hactivates (by decide)
    | exact (hruns rfl).elim
    | (dsimp only [handler]; infer_instance)

/-! ### Nodes -/

/-- Binding the unit of a node to the version of the node. -/
theorem update_node {f : WorkUnitExecutionRow → WorkUnitExecutionRow} {hf : ∀ a, SameFixed a (f a)}
    (hnode : P node) (hversion : ∀ a, (f a).specVersion = node.version) :
    Respects (BoundTo P) (Refs.workUnitExecutions.update node.workUnitId f hf : Core Unit) :=
  SetsColumn.update fun a ↦ .inr ⟨node, hnode, rfl, (hversion a).symm⟩

theorem installNode_respects (hnode : P node) :
    Respects (BoundTo P) (installNode env taskId objective title contract node) := by
  have hadd : Respects (BoundTo P)
      (add Refs.workUnitExecutions node.workUnitId (freshUnit taskId node.version)) :=
    SetsColumn.insert ⟨node, hnode, rfl, rfl⟩
  have hbind : Respects (BoundTo P) (Refs.workUnitExecutions.update node.workUnitId
      fun u ↦ { u with specVersion := node.version } : Core Unit) := update_node hnode fun _ ↦ rfl
  have hrebind (wu : WorkUnitExecutionRow) : Respects (BoundTo P) (rebindUnit node wu) := by
    rw [rebindUnit]
    infer_instance
  have hunit : Respects (BoundTo P) (installUnit taskId node) := by
    rw [installUnit]
    exact .seq inferInstance fun _ ↦ by split <;> infer_instance
  rw [installNode]
  infer_instance

theorem alignUnits {flushed : DB}
    (h : HibikiCore.alignUnits env flushed taskId objective title contract nodes s = .ok ((), s')) :
    BoundTo (· ∈ nodes) s s' := by
  rw [HibikiCore.alignUnits] at h
  obtain ⟨_, t, hinstall, hrest⟩ := Tx.bind_ok.mp h
  have hinstalled : BoundTo (· ∈ nodes) s t :=
    Tx.each_induct (P := BoundTo (· ∈ nodes) s)
      (fun _ hmem u u' hu hstep ↦ Preord.trans hu ((installNode_respects hmem).rel hstep))
      (Preord.refl s) hinstall
  exact Preord.trans hinstalled (Respects.rel hrest)

theorem createExecuteRun_respects {r : RunIdentity} {attempt : Nat} (hnode : P node)
    (hunit : r.workUnitId = node.workUnitId) (hversion : r.specVersion = node.version) :
    Respects (BoundTo P) (createExecuteRun env auth taskId task r attempt) := by
  have hbind : Respects (BoundTo P) (Refs.workUnitExecutions.update r.workUnitId fun u ↦
      { u with
        status := .running
        activeRunId := some r.runId
        attemptCount := attempt
        specVersion := r.specVersion } : Core Unit) := by
    rw [hunit]
    exact update_node hnode fun _ ↦ hversion
  rw [createExecuteRun]
  dsimp only [transitionWorkUnit_runStarted]
  infer_instance

theorem dispatchNode_respects {version globalActive taskActive : Nat} {edges : List RawEdge}
    {created : List String} (hnode : P node) : Respects (BoundTo P)
      (dispatchNode env auth taskId version edges globalActive taskActive created node) := by
  have hbind : Respects (BoundTo P) (Refs.workUnitExecutions.update node.workUnitId
      fun u ↦ { u with specVersion := node.version } : Core Unit) := update_node hnode fun _ ↦ rfl
  have hcreate (task : TaskRow) (runId : String) (manifest : ContextManifest)
      (workspaceId : Option String) (fencing version attempt : Nat) :
      Respects (BoundTo P) (createExecuteRun env auth taskId task
        { runId, workUnitId := node.workUnitId, specVersion := node.version, manifest, workspaceId,
          fencing, profileVersion := version } attempt) :=
    createExecuteRun_respects hnode rfl rfl
  have hunit (wu : WorkUnitExecutionRow) (workspace : Option (String × WorkspaceRow)) :
      Respects (BoundTo P)
        (dispatchUnit env auth taskId version node wu workspace created) := by
    rw [dispatchUnit]
    infer_instance
  rw [dispatchNode]
  exact .seq inferInstance fun _ ↦ by split <;> infer_instance

end BoundTo

/-! ## Steps -/

/-- A node of an ACTIVE plan. -/
def Listed (s : DB) (node : RawNode) : Prop :=
  ∃ t v plan, s.activePlanMarkers.find? t = some ⟨v⟩ ∧ s.plans.find? (t, v) = some plan ∧
    node ∈ plan.nodes

theorem dispatchPlanNodes_bound (h : dispatchPlanNodes env auth p taskId s = .ok (result, s')) :
    BoundTo (Listed s) s s' := by
  rw [dispatchPlanNodes, Tx.get_bind_ok] at h
  cases hmarker : s.activePlanMarkers.find? taskId with
  | none =>
    rw [hmarker] at h
    obtain ⟨-, rfl⟩ := Tx.pure_ok.mp h
    exact Preord.refl _
  | some marker =>
    rw [hmarker] at h
    obtain ⟨plan, t, hplan, h₁⟩ := Tx.bind_ok.mp h
    obtain ⟨hstored, rfl⟩ := Tx.require_ok.mp hplan
    obtain ⟨created, t₁, hloop, hpure⟩ := Tx.bind_ok.mp h₁
    obtain ⟨-, rfl⟩ := Tx.pure_ok.mp hpure
    refine Tx.fold_induct (P := BoundTo (Listed t) t) ?_ (Preord.refl t) hloop
    intro node hnode created created' u u' hu hround
    have hlisted : Listed t node := ⟨taskId, _, plan, hmarker, hstored, hnode⟩
    exact Preord.trans hu ((BoundTo.dispatchNode_respects hlisted).rel hround)

theorem handler_bound (h : handler env auth p operation s = .ok (result, s')) :
    BoundTo (Listed s) s s' ∨ ∃ r task version contract,
      InstallsPlan env auth p operation s s' r task version contract := by
  by_cases hactivates : operation.activates = true
  · rcases handler_activates hactivates h with ⟨r, n, hasks, hplan⟩ | hevents | ⟨_, hpropose⟩
    · exact .inr (InstallsPlan.of_request hasks hplan)
    · exact .inl (Indifferent.writes hevents)
    · exact .inl (Respects.rel hpropose)
  · by_cases hruns : operation = .dispatchReadyRuns
    · subst hruns
      rcases dispatchReadyRuns_ok h with rfl | ⟨taskId, -, -, -, -, hbudget | hnodes⟩
      · exact .inl (Preord.refl _)
      · exact .inl (Respects.rel hbudget)
      · exact .inl (dispatchPlanNodes_bound hnodes)
    · have hother := eq_false_of_ne_true hactivates
      exact .inl ((BoundTo.handler_respects hother hruns).rel h)

/-- Units are bound as the nodes of ACTIVE plans name them, or by the plan that is installed. -/
theorem step_bound (hstep : system.step w l = some w') :
    BoundTo (Listed w.db) w.db w'.db ∨ ∃ env request r task version contract,
      l = .command env request ∧ InstallsPlan env request.auth request.payload request.operation
        w.db w'.db r task version contract :=
  step_installs (fun hw ↦ SetsColumn.of_read ((hw .workUnitExecutions).2 (by decide)))
    handler_bound hstep

/-! ## Runs and their units -/

/-- The work unit of a run is one of the task of the run. -/
def RunsOwned (s : DB) : Prop :=
  ∀ runId run, s.agentRuns.find? runId = some run → ∀ wuId, run.workUnitId = some wuId →
    ∃ u, s.workUnitExecutions.find? wuId = some u ∧ u.taskId = run.taskId

/-- A unit persists with its task. -/
theorem Persists.unit {u : WorkUnitExecutionRow} (h : Persists s s')
    (hu : s.workUnitExecutions.find? wuId = some u) :
    ∃ u', s'.workUnitExecutions.find? wuId = some u' ∧ u'.taskId = u.taskId :=
  (h .workUnitExecutions).1 wuId u hu

namespace RunsOwned

theorem of_kept (h : RunsOwned s) (hpersist : Persists s s')
    (hruns : ∀ runId run', s'.agentRuns.find? runId = some run' →
      (∃ run, s.agentRuns.find? runId = some run ∧ run'.workUnitId = run.workUnitId ∧
        run'.taskId = run.taskId) ∨
      ∀ wuId, run'.workUnitId = some wuId →
        ∃ u, s.workUnitExecutions.find? wuId = some u ∧ u.taskId = run'.taskId) :
    RunsOwned s' := by
  intro runId run' hrun' wuId hwu
  have hfound : ∃ u, s.workUnitExecutions.find? wuId = some u ∧ u.taskId = run'.taskId := by
    rcases hruns runId run' hrun' with ⟨run, hrun, hunit, htask⟩ | hnew
    · rw [htask]
      exact h runId run hrun wuId (hunit.symm.trans hwu)
    · exact hnew wuId hwu
  obtain ⟨u, hu, howner⟩ := hfound
  obtain ⟨u', hu', hsame⟩ := hpersist.unit hu
  exact ⟨u', hu', hsame.trans howner⟩

/-- Without new runs. -/
theorem of_noRuns (h : RunsOwned s) (hpersist : Persists s s')
    (hnone : NewRuns (fun _ ↦ False) s s') : RunsOwned s' := by
  refine h.of_kept hpersist fun runId run' hrun' ↦ .inl ?_
  rcases hnone runId run' hrun' with ⟨run, hrun, hfixed⟩ | hfalse
  · exact ⟨run, hrun, congrArg RunAssignment.workUnitId hfixed,
      congrArg RunAssignment.taskId hfixed⟩
  · exact hfalse.elim

theorem dispatchNode {version globalActive taskActive : Nat} {edges : List RawEdge}
    {created created' : List String} (hinv : RunsOwned s)
    (h : HibikiCore.dispatchNode env auth taskId version edges globalActive taskActive created node
      s = .ok (created', s')) : RunsOwned s' := by
  have hpersist : Persists s s' := Respects.rel h
  rcases dispatchNode_cases h with ⟨-, hnone⟩ | ⟨t, task, wu, runId, manifestId, hdispatched⟩
  · exact hinv.of_noRuns hpersist (.of_read ((hnone .agentRuns).2 (by decide)))
  · obtain ⟨hfresh, hruns, -⟩ := createExecuteRun_ok hdispatched.run
    have hsame : s.agentRuns = t.agentRuns := (hdispatched.before .agentRuns).2 (by decide)
    refine hinv.of_kept hpersist fun k run' hrun' ↦ ?_
    rw [hruns, Table.find?_insert hfresh] at hrun'
    split at hrun'
    · obtain rfl := Option.some.inj hrun'
      refine .inr fun wuId hwu ↦ ?_
      obtain rfl := Option.some.inj hwu
      exact ⟨wu, hdispatched.found, hdispatched.ofTask⟩
    · exact .inl ⟨run', hsame ▸ hrun', rfl, rfl⟩

theorem dispatchSessionRun {sessionId : String} (hinv : RunsOwned s)
    (h : HibikiCore.dispatchSessionRun env auth p taskId sessionId s = .ok (result, s')) :
    RunsOwned s' := by
  have hpersist : Persists s s' := Respects.rel h
  rcases dispatchSessionRun_ok h with rfl | ⟨-, rfl⟩ | ⟨task, session, -, hcreate⟩
  · exact hinv
  · exact hinv
  · obtain ⟨runId, manifestId, input, hrun⟩ := createPlanRun_ok hcreate
    refine hinv.of_kept hpersist fun k run' hrun' ↦ ?_
    rw [hrun.runs, Table.find?_insert hrun.fresh] at hrun'
    split at hrun'
    · obtain rfl := Option.some.inj hrun'
      exact .inr nofun
    · exact .inl ⟨run', hrun', rfl, rfl⟩

theorem handler (hinv : RunsOwned s)
    (h : HibikiCore.handler env auth p operation s = .ok (result, s')) : RunsOwned s' := by
  have hpersist : Persists s s' := Respects.rel h
  by_cases hready : operation = .dispatchReadyRuns
  · subst hready
    rcases dispatchReadyRuns_ok h with rfl | ⟨taskId, -, -, -, -, hbudget | hnodes⟩
    · exact hinv
    · exact hinv.of_noRuns hpersist (Respects.rel hbudget)
    · rw [dispatchPlanNodes, Tx.get_bind_ok] at hnodes
      cases hmarker : s.activePlanMarkers.find? taskId with
      | none =>
        rw [hmarker] at hnodes
        obtain ⟨-, rfl⟩ := Tx.pure_ok.mp hnodes
        exact hinv
      | some marker =>
        rw [hmarker] at hnodes
        obtain ⟨plan, t, hplan, h₁⟩ := Tx.bind_ok.mp hnodes
        obtain ⟨-, rfl⟩ := Tx.require_ok.mp hplan
        obtain ⟨created, t₁, hloop, hpure⟩ := Tx.bind_ok.mp h₁
        obtain ⟨-, rfl⟩ := Tx.pure_ok.mp hpure
        exact Tx.fold_induct (fun _ _ _ _ _ _ hu hround ↦ dispatchNode hu hround) hinv hloop
  · by_cases hplanner : operation = .dispatchPlannerRun
    · subst hplanner
      rcases dispatchPlannerRun_ok h with rfl | ⟨taskId, -, -, -, -, sessionId, t, hsession, hrun⟩
      · exact hinv
      · refine dispatchSessionRun ?_ hrun
        rcases hsession with rfl | hbump
        · exact hinv
        · exact hinv.of_noRuns (Respects.rel hbump) (Respects.rel hbump)
    · exact hinv.of_noRuns hpersist ((NewRuns.handler_respects hready hplanner).rel h)

end RunsOwned

theorem runsOwned_invariant (ok : World → Label → Prop) :
    system.Invariant ok fun w ↦ RunsOwned w.db where
  init _ _ h := nomatch h
  step w l w' hinv _ hstep := by
    have hrecorded {u u' : DB} (hw : Writes requestRecords u u') (hu : RunsOwned u) :
        RunsOwned u' :=
      hu.of_noRuns (persists_of_writes hw) (.of_read ((hw .agentRuns).2 (by decide)))
    cases l
    case command env r =>
      rcases step_command hstep with hrecords | ⟨t, t', result, hran, hrecords⟩
      · exact hrecorded hrecords hinv
      · obtain ⟨n, rfl⟩ := hran.start
        have hdrawn : RunsOwned { w.db with drawn := n } := hinv
        exact hrecorded hrecords (hdrawn.handler hran.run)
    all_goals exact hinv.of_noRuns (step_rel hstep) (step_background Preord.refl rfl hstep)

/-! ## Units that have ended -/

/-- A unit of a task that is not among the nodes of the ACTIVE plan of the task. -/
def OffPlan (s : DB) (wuId : String) (u : WorkUnitExecutionRow) : Prop :=
  ∃ v plan, s.activePlanMarkers.find? u.taskId = some ⟨v⟩ ∧
    s.plans.find? (u.taskId, v) = some plan ∧ ∀ node ∈ plan.nodes, node.workUnitId ≠ wuId

/-- No result is accepted for a unit that is not in the plan. -/
theorem OffPlan.not_accepted {run : AgentRunRow} {u : WorkUnitExecutionRow} (h : OffPlan s wuId u)
    (hu : s.workUnitExecutions.find? wuId = some u) (howned : RunsOwned s)
    (haccepts : Accepts s auth p runId run) : run.workUnitId ≠ some wuId := by
  intro hwu
  obtain ⟨v, plan, hmarker, hplan, hoff⟩ := h
  obtain ⟨u', hu', howner⟩ := howned runId run haccepts.found wuId hwu
  obtain rfl := Option.some.inj (hu.symm.trans hu')
  have hcurrent := haccepts.current
  rw [hwu, Option.all_some, assignmentCurrent, hu, ← howner, hmarker] at hcurrent
  simp only [Option.bind_some, hplan, Bool.and_eq_true] at hcurrent
  obtain ⟨-, hlisted⟩ := hcurrent
  cases hfind : plan.nodes.find? fun n ↦ n.workUnitId == wuId with
  | none =>
    rw [hfind] at hlisted
    cases hlisted
  | some node =>
    exact hoff node (List.mem_of_find?_eq_some hfind) (by simpa using List.find?_some hfind)

/-- A unit has ended. -/
def EndedUnit (s : DB) (wuId : String) : Prop :=
  ∃ u, s.workUnitExecutions.find? wuId = some u ∧ u.status.isTerminal = true

theorem UnitSettles.ended {a b : WorkUnitExecutionRow} (h : UnitSettles a b)
    (ha : a.status.isTerminal = true) : b.status.isTerminal = true := by
  rcases h with hsame | ⟨hlive, -⟩
  · rw [hsame]
    exact ha
  · rw [hlive] at ha
    cases ha

theorem EndedUnit.of_settles (h : EndedUnit s wuId) (hsettles : Units UnitSettles s s') :
    EndedUnit s' wuId := by
  obtain ⟨u, hu, hend⟩ := h
  obtain ⟨u', hu', hmove⟩ := hsettles wuId u hu
  exact ⟨u', hu', hmove.ended hend⟩

theorem handler_ended {u : WorkUnitExecutionRow} (howned : RunsOwned s)
    (hu : s.workUnitExecutions.find? wuId = some u) (hend : u.status.isTerminal = true)
    (hoff : OffPlan s wuId u) (h : handler env auth p operation s = .ok (result, s')) :
    EndedUnit s' wuId := by
  have hended : EndedUnit s wuId := ⟨u, hu, hend⟩
  by_cases hdispatch : operation = .dispatchReadyRuns
  · subst hdispatch
    have hstarts : Units UnitStarts s s' := UnitsStart.dispatchReadyRuns_respects.rel h
    obtain ⟨u', hu', hsame | ⟨hpending, -⟩⟩ := hstarts wuId u hu
    · exact ⟨u', hu', hsame.symm ▸ hend⟩
    · rw [hpending] at hend
      cases hend
  by_cases hsubmit : operation = .submitResult
  · subst hsubmit
    have hkeeps (hmoves : Units UnitKeeps s s') : EndedUnit s' wuId := by
      obtain ⟨u', hu', hsame⟩ := hmoves wuId u hu
      exact ⟨u', hu', hsame.symm ▸ hend⟩
    have hdraw (n : Nat) : Units UnitKeeps s { s with drawn := n } := Moves.of_read rfl
    cases submitResult_ok h with
    | stopped _ _ _ ran => exact hkeeps (Respects.rel ran)
    | overtaken _ _ _ _ ran => exact hkeeps (Respects.rel ran)
    | marked => exact hkeeps (Moves.of_read rfl)
    | superseded _ _ _ ran => exact hkeeps (Preord.trans (hdraw _) (Respects.rel ran))
    | accepted accepts ran =>
      obtain ⟨u', hu', hsame | ⟨hwu, -⟩⟩ := UnitsBut.acceptRunResult ran wuId u hu
      · exact ⟨u', hu', hsame.symm ▸ hend⟩
      · exact absurd hwu (hoff.not_accepted hu howned accepts)
  · exact hended.of_settles ((UnitsSettle.handler_settles hdispatch hsubmit).rel h)

/-- A unit that is not in the plan of its task and has ended does not come back to life. -/
theorem step_ended {u : WorkUnitExecutionRow} (howned : RunsOwned w.db)
    (hu : w.db.workUnitExecutions.find? wuId = some u) (hend : u.status.isTerminal = true)
    (hoff : OffPlan w.db wuId u) (hstep : system.step w l = some w') : EndedUnit w'.db wuId := by
  cases l
  case command env r =>
    rcases step_command hstep with hrecords | ⟨t, t', result, hran, hrecords⟩
    · exact ⟨u, (hrecords .workUnitExecutions).2 (by decide) ▸ hu, hend⟩
    · obtain ⟨n, rfl⟩ := hran.start
      have hdrawn : RunsOwned { w.db with drawn := n } := howned
      have hhandled : EndedUnit t' wuId := handler_ended hdrawn hu hend hoff hran.run
      obtain ⟨u', hu', hend'⟩ := hhandled
      exact ⟨u', (hrecords .workUnitExecutions).2 (by decide) ▸ hu', hend'⟩
  all_goals
    have hsettles : Units UnitSettles w.db w'.db := step_background Preord.refl rfl hstep
    exact EndedUnit.of_settles ⟨u, hu, hend⟩ hsettles

/-! ## What an activation does to the units -/

/-- A node has a unit and a workspace of a task, and the unit is bound to the version that the node
names. -/
structure NodeAligned (s : DB) (taskId : String) (node : RawNode) : Prop where
  unit : ∃ u, s.workUnitExecutions.find? node.workUnitId = some u ∧ u.taskId = taskId ∧
    u.specVersion = node.version
  workspace : ∃ ws, s.workspaces.find? node.asRead.workspace = some ws ∧ ws.taskId = taskId

theorem rebindUnit_bound {wu : WorkUnitExecutionRow}
    (hwu : s.workUnitExecutions.find? node.workUnitId = some wu)
    (h : rebindUnit node wu s = .ok ((), s')) :
    ∃ u, s'.workUnitExecutions.find? node.workUnitId = some u ∧ u.taskId = wu.taskId ∧
      u.specVersion = node.version := by
  rcases Tx.ite_ok.mp h with ⟨-, hcheck⟩ | ⟨-, hbind⟩
  · obtain ⟨hversion, rfl⟩ := Tx.check_ok.mp hcheck
    exact ⟨wu, hwu, rfl, hversion⟩
  · rcases Tx.when_ok.mp hbind with ⟨-, hboth⟩ | ⟨hsame, rfl⟩
    · obtain ⟨_, t, hcheck, hupdate⟩ := Tx.bind_ok.mp hboth
      obtain ⟨-, rfl⟩ := Tx.check_ok.mp hcheck
      obtain rfl := Ref.update_ok.mp hupdate
      exact ⟨_, (Table.find?_modify_self _ _ _).trans (congrArg _ hwu), rfl, rfl⟩
    · exact ⟨wu, hwu, rfl, not_not.mp hsame⟩

theorem installUnit_bound
    (howned : (s.workUnitExecutions.find? node.workUnitId).all (·.taskId = taskId) = true)
    (h : installUnit taskId node s = .ok ((), s')) :
    ∃ u, s'.workUnitExecutions.find? node.workUnitId = some u ∧ u.taskId = taskId ∧
      u.specVersion = node.version := by
  rw [installUnit, Tx.get_bind_ok] at h
  cases hwu : s.workUnitExecutions.find? node.workUnitId with
  | none =>
    simp only [hwu] at h
    obtain ⟨hnone, rfl⟩ := Ref.insert_ok.mp h
    exact ⟨_, (Table.find?_insert hnone _ _).trans (if_pos rfl), rfl, rfl⟩
  | some wu =>
    simp only [hwu] at h
    obtain ⟨u, hu, hsame, hversion⟩ := rebindUnit_bound hwu h
    rw [hwu] at howned
    exact ⟨u, hu, hsame.trans (by simpa using howned), hversion⟩

theorem installWorkspace_owned (h : installWorkspace taskId node s = .ok ((), s')) :
    ∃ ws, s'.workspaces.find? node.asRead.workspace = some ws ∧ ws.taskId = taskId := by
  rw [installWorkspace, Tx.get_bind_ok] at h
  cases hws : s.workspaces.find? node.asRead.workspace with
  | none =>
    simp only [hws] at h
    obtain ⟨hnone, rfl⟩ := Ref.insert_ok.mp h
    exact ⟨_, (Table.find?_insert hnone _ _).trans (if_pos rfl), rfl⟩
  | some ws =>
    simp only [hws] at h
    obtain ⟨howner, rfl⟩ := Tx.check_ok.mp h
    exact ⟨ws, hws, howner⟩

theorem installNode_aligned
    (howned : (s.workUnitExecutions.find? node.workUnitId).all (·.taskId = taskId) = true)
    (h : installNode env taskId objective title contract node s = .ok ((), s')) :
    NodeAligned s' taskId node := by
  obtain ⟨_, t₁, hspec, h₁⟩ := Tx.bind_ok.mp h
  obtain ⟨_, t₂, hunit, hworkspace⟩ := Tx.bind_ok.mp h₁
  have hbefore : Writes [.workUnitSpecs] s t₁ := Respects.rel hspec
  have hafter : Writes [.workspaces] t₂ s' := Respects.rel hworkspace
  have hsame : s.workUnitExecutions = t₁.workUnitExecutions :=
    (hbefore .workUnitExecutions).2 (by decide)
  have hkept : t₂.workUnitExecutions = s'.workUnitExecutions :=
    (hafter .workUnitExecutions).2 (by decide)
  rw [hsame] at howned
  refine ⟨?_, installWorkspace_owned hworkspace⟩
  rw [← hkept]
  exact installUnit_bound howned hunit

/-- A unit that is removed from the plan has ended. -/
theorem removeUnit_ended {flushed : DB} {u : WorkUnitExecutionRow}
    (hu : s.workUnitExecutions.find? wuId = some u)
    (h : removeUnit env flushed taskId wuId s = .ok ((), s')) : EndedUnit s' wuId := by
  have hcancelled {t t' : DB} {u : WorkUnitExecutionRow}
      (hu : t.workUnitExecutions.find? wuId = some u)
      (hcancel : cancelRemovedUnit wuId t = .ok ((), t')) : EndedUnit t' wuId := by
    obtain rfl := Ref.update_ok.mp hcancel
    exact ⟨_, (Table.find?_modify_self _ _ _).trans (congrArg _ hu), rfl⟩
  rw [removeUnit, Tx.get_bind_ok, hu] at h
  rcases Tx.when_ok.mp h with ⟨-, h₁⟩ | ⟨hlive, rfl⟩
  · rcases Tx.ite_ok.mp h₁ with ⟨-, hcancel⟩ | ⟨-, h₂⟩
    · exact hcancelled hu hcancel
    · obtain ⟨_, t₁, hstop, h₃⟩ := Tx.bind_ok.mp h₂
      obtain ⟨_, t₂, hcancel, hdelete⟩ := Tx.bind_ok.mp h₃
      have hpersist : Persists s t₁ := Respects.rel hstop
      obtain ⟨u₁, hu₁, -⟩ := hpersist.unit hu
      obtain ⟨u₂, hu₂, hend⟩ := hcancelled hu₁ hcancel
      obtain rfl := Ref.delete_ok.mp hdelete
      exact ⟨u₂, hu₂, hend⟩
  · exact ⟨u, hu, by simpa using hlive⟩

/-- A node stays aligned while units persist and its own is not bound anew. -/
theorem NodeAligned.of_bound (h : NodeAligned s taskId node) (hpersist : Persists s s')
    (hbound : BoundTo P s s') (hother : ∀ n, P n → n.workUnitId = node.workUnitId →
      n.version = node.version) : NodeAligned s' taskId node := by
  obtain ⟨u, hu, howner, hversion⟩ := h.unit
  obtain ⟨ws, hws, howner'⟩ := h.workspace
  obtain ⟨u', hu', hset⟩ := hbound.kept _ u hu
  obtain ⟨u'', hu'', hsame⟩ := hpersist.unit hu
  obtain rfl := Option.some.inj (hu'.symm.trans hu'')
  obtain ⟨ws', hws', hsame'⟩ := (hpersist .workspaces).1 _ ws hws
  refine ⟨⟨u', hu', hsame.trans howner, ?_⟩, ws', hws', (congrArg Prod.fst hsame').trans howner'⟩
  rcases hset with hkept | ⟨n, hn, hunit, hversion'⟩
  · exact hkept.trans hversion
  · exact hversion'.symm.trans (hother n hn hunit)

/-- The units of the nodes, as far as there are any, are of the task. -/
def NodesOwned (s : DB) (taskId : String) (nodes : List RawNode) : Prop :=
  ∀ node ∈ nodes, (s.workUnitExecutions.find? node.workUnitId).all (·.taskId = taskId) = true

theorem NodesOwned.installNode (hnodes : NodesOwned s taskId nodes) (hnode : node ∈ nodes)
    (h : HibikiCore.installNode env taskId objective title contract node s = .ok ((), s')) :
    NodesOwned s' taskId nodes := by
  have hpersist : Persists s s' := Respects.rel h
  have hbound := (BoundTo.installNode_respects (P := (· = node)) rfl).rel h
  obtain ⟨⟨u, hu, howner, -⟩, -⟩ := installNode_aligned (hnodes node hnode) h
  intro n hn
  rw [Option.all_eq_true]
  intro a ha
  rw [decide_eq_true_iff]
  cases hfind : s.workUnitExecutions.find? n.workUnitId with
  | none =>
    obtain ⟨_, rfl, hunit, -⟩ := hbound.came _ a ha hfind
    rw [hunit, ha] at hu
    cases hu
    exact howner
  | some a₀ =>
    obtain ⟨a', ha', hsame⟩ := hpersist.unit hfind
    obtain rfl := Option.some.inj (ha.symm.trans ha')
    have howned := hnodes n hn
    rw [hfind] at howned
    exact hsame.trans (by simpa using howned)

theorem installNodes_aligned (hnodup : (nodes.map RawNode.workUnitId).Nodup)
    (howned : NodesOwned s taskId nodes) (hnode : node ∈ nodes)
    (h : Tx.each nodes (installNode env taskId objective title contract) s = .ok ((), s')) :
    NodeAligned s' taskId node := by
  refine Tx.each_mem (I := fun u ↦ NodesOwned u taskId nodes)
    (P := fun u ↦ NodeAligned u taskId node) hnode
    (fun b hb u u' hu hround ↦ hu.installNode hb hround)
    (fun u u' hu hround ↦ installNode_aligned (hu node hnode) hround) ?_ howned h
  intro b hb u u' hu haligned hround
  by_cases hsame : b.workUnitId = node.workUnitId
  · -- nodes are named apart, so this is the same one
    obtain rfl : b = node := List.inj_on_of_nodup_map hnodup hb hnode hsame
    exact installNode_aligned (hu b hb) hround
  · have hbound := (BoundTo.installNode_respects (P := (· = b)) rfl).rel hround
    refine haligned.of_bound (Respects.rel hround) hbound ?_
    rintro n rfl hunit
    exact absurd hunit hsame

/-- After the units were aligned with a plan, its nodes are aligned, and the other units of the task
have ended. -/
theorem alignUnits_aligned {flushed : DB} (hnodup : (nodes.map RawNode.workUnitId).Nodup)
    (howned : NodesOwned s taskId nodes)
    (h : alignUnits env flushed taskId objective title contract nodes s = .ok ((), s')) :
    (∀ node ∈ nodes, NodeAligned s' taskId node) ∧
      ∀ wuId u, s'.workUnitExecutions.find? wuId = some u → u.taskId = taskId →
        (∀ node ∈ nodes, node.workUnitId ≠ wuId) → u.status.isTerminal = true := by
  rw [alignUnits] at h
  obtain ⟨_, t, hinstall, hrest⟩ := Tx.bind_ok.mp h
  rw [Tx.get_bind_ok] at hrest
  have hpersist : Persists t s' := Respects.rel hrest
  have hbound : BoundTo (fun _ ↦ False) t s' := Respects.rel hrest
  refine ⟨fun node hnode ↦ ?_, fun wuId u hu howner hoff ↦ ?_⟩
  · exact (installNodes_aligned hnodup howned hnode hinstall).of_bound hpersist hbound nofun
  · obtain ⟨a, ha, -⟩ := hbound.back hu nofun
    obtain ⟨u', hu', hsame⟩ := hpersist.unit ha
    obtain rfl := Option.some.inj (hu.symm.trans hu')
    have horphan : wuId ∈ orphanUnits t taskId nodes := by
      refine List.mem_map.mpr ⟨(wuId, a), Table.mem_select.mpr ⟨ha, ?_⟩, rfl⟩
      simpa [hsame.symm.trans howner] using fun node hnode ↦ hoff node hnode
    have hended : EndedUnit s' wuId := by
      refine Tx.each_mem (I := fun v : DB ↦ ∃ b, v.workUnitExecutions.find? wuId = some b)
        (P := fun v ↦ EndedUnit v wuId) horphan (fun _ _ v v' hv hround ↦ ?_)
        (fun v v' hv hround ↦ ?_)
        (fun _ _ v v' _ hended hround ↦ hended.of_settles (Respects.rel hround)) ⟨a, ha⟩ hrest
      · obtain ⟨b, hb⟩ := hv
        obtain ⟨b', hb', -⟩ := (Respects.rel hround : Persists v v').unit hb
        exact ⟨b', hb'⟩
      · obtain ⟨b, hb⟩ := hv
        exact removeUnit_ended hb hround
    obtain ⟨b, hb, hend⟩ := hended
    obtain rfl := Option.some.inj (hu.symm.trans hb)
    exact hend

/-! ## What an activation installs -/

namespace InstallsPlan

variable {version : Nat} {contract : ContractRow}

/-- The names of the nodes are different. -/
theorem nodup (h : InstallsPlan env auth p operation s s' r task version contract) :
    (r.nodes.map RawNode.workUnitId).Nodup := by
  have hgraph := h.admitted.graph.distinct
  rwa [List.map_map] at hgraph

theorem nodesOwned (h : InstallsPlan env auth p operation s s' r task version contract) :
    NodesOwned s r.taskId r.nodes := fun node hnode ↦ (h.admitted.owned node hnode).2

theorem bound (h : InstallsPlan env auth p operation s s' r task version contract) :
    BoundTo (· ∈ r.nodes) s s' := by
  obtain ⟨n, v, u₁, u₂, u₃, u₄, u, hstages, hrecords⟩ := h.stages
  have hdrawn : BoundTo (· ∈ r.nodes) s { s with drawn := n } := SetsColumn.of_read rfl
  have hinstall : BoundTo (· ∈ r.nodes) { s with drawn := n } u₁ := Respects.rel hstages.install
  have hsupersede : BoundTo (· ∈ r.nodes) u₁ u₂ := Respects.rel hstages.supersede
  have hadvance : BoundTo (· ∈ r.nodes) u₃ u₄ := Respects.rel hstages.advance
  have hevents : BoundTo (· ∈ r.nodes) u₄ u := Indifferent.writes hstages.events
  have hafter : BoundTo (· ∈ r.nodes) u s' :=
    SetsColumn.of_read ((hrecords .workUnitExecutions).2 (by decide))
  exact Preord.trans hdrawn (Preord.trans hinstall (Preord.trans hsupersede
    (Preord.trans (BoundTo.alignUnits hstages.align)
      (Preord.trans hadvance (Preord.trans hevents hafter)))))

/-- The nodes of the plan are aligned, and the other units of the task have ended. -/
theorem aligned (h : InstallsPlan env auth p operation s s' r task version contract) :
    (∀ node ∈ r.nodes, NodeAligned s' r.taskId node) ∧
      ∀ wuId u, s'.workUnitExecutions.find? wuId = some u → u.taskId = r.taskId →
        (∀ node ∈ r.nodes, node.workUnitId ≠ wuId) → u.status.isTerminal = true := by
  obtain ⟨n, v, u₁, u₂, u₃, u₄, u, hstages, hrecords⟩ := h.stages
  have hinstall : Writes [.plans, .activePlanMarkers, .tasks] { s with drawn := n } u₁ :=
    Respects.rel hstages.install
  have hsupersede : Writes [.decisions, .gates] u₁ u₂ := Respects.rel hstages.supersede
  have hadvance : Writes [.tasks, .events] u₃ u₄ := Respects.rel hstages.advance
  have hafter : Writes (.tasks :: .events :: requestRecords) u₃ s' :=
    Preord.trans (hadvance.mono (by decide)) (Preord.trans (hstages.events.mono (by decide))
      (hrecords.mono (by decide)))
  have hbefore : s.workUnitExecutions = u₂.workUnitExecutions :=
    ((hinstall .workUnitExecutions).2 (by decide)).trans
      ((hsupersede .workUnitExecutions).2 (by decide))
  have hunits : u₃.workUnitExecutions = s'.workUnitExecutions :=
    (hafter .workUnitExecutions).2 (by decide)
  have hworkspaces : u₃.workspaces = s'.workspaces := (hafter .workspaces).2 (by decide)
  have howned : NodesOwned u₂ r.taskId r.nodes := by
    intro node hnode
    rw [← hbefore]
    exact h.nodesOwned node hnode
  obtain ⟨hnodes, hothers⟩ := alignUnits_aligned h.nodup howned hstages.align
  refine ⟨fun node hnode ↦ ?_, fun wuId u' hu' ↦ hothers wuId u' (hunits ▸ hu')⟩
  obtain ⟨hunit, hworkspace⟩ := hnodes node hnode
  exact ⟨hunits ▸ hunit, hworkspaces ▸ hworkspace⟩

/-- New definitions are of units that the plan names, and of its task. -/
theorem specs (h : InstallsPlan env auth p operation s s' r task version contract)
    {k : String × Nat} {spec : WorkUnitSpecRow} (hspec : s'.workUnitSpecs.find? k = some spec) :
    s.workUnitSpecs.find? k = some spec ∨
      ∃ node ∈ r.nodes, k.1 = node.workUnitId ∧ spec.taskId = r.taskId := by
  obtain ⟨n, v, u₁, u₂, u₃, u₄, u, hstages, hrecords⟩ := h.stages
  have hbefore : SpecsSame { s with drawn := n } u₂ :=
    Preord.trans (Respects.rel hstages.install) (Respects.rel hstages.supersede)
  have hafter : SpecsSame u₃ s' :=
    Preord.trans (Respects.rel hstages.advance)
      (Preord.trans (.of_writes (hstages.events.mono (by decide)))
        (.of_writes (hrecords.mono (by decide))))
  have halign := hstages.align
  rw [alignUnits] at halign
  obtain ⟨_, t, hinstall, hrest⟩ := Tx.bind_ok.mp halign
  have hkept : SpecsSame t u₃ := Respects.rel hrest
  have harrive : SpecsOf env r.taskId r.objective task.title contract.content r.nodes u₂ t :=
    Tx.each_induct (P := SpecsOf env r.taskId r.objective task.title contract.content r.nodes u₂)
      (fun b hb u u' hu hstep ↦ Preord.trans hu ((installNode_specs hb).rel hstep))
      (Preord.refl u₂) hinstall
  rw [show s'.workUnitSpecs = u₃.workUnitSpecs from hafter,
    show u₃.workUnitSpecs = t.workUnitSpecs from hkept] at hspec
  rcases harrive k spec hspec with ⟨spec₀, hspec₀, hsame⟩ | ⟨node, hnode, hkey, hnew⟩
  · obtain rfl : spec = spec₀ := hsame
    exact .inl ((congrArg (·.find? k) hbefore).symm.trans hspec₀)
  · refine .inr ⟨node, hnode, congrArg Prod.fst hkey, ?_⟩
    have hrow : spec = specRow env r.taskId
      (nodeSpec node r.objective task.title contract.content) := hnew
    rw [hrow]
    rfl

end InstallsPlan

/-! ## ACTIVE contracts do not go away -/

theorem step_contractMarkers (hstep : system.step w l = some w') {t : String} {v : Nat}
    (h : w.db.activeContractMarkers.find? t = some ⟨v⟩) :
    ∃ v', w'.db.activeContractMarkers.find? t = some ⟨v'⟩ := by
  have hactivates {t' : String} {v' : Nat} {contract : ContractRow}
      (hactivates : Activates w.db w'.db t' v' contract) :
      ∃ v', w'.db.activeContractMarkers.find? t = some ⟨v'⟩ := by
    obtain ⟨contracts, -, hkept⟩ := hactivates
    rw [hkept.markers, DB.install_markers]
    split
    · exact ⟨_, rfl⟩
    · exact ⟨v, h⟩
  rcases step_contracts hstep with hnone | ⟨_, _, -, -, hchange⟩
  · exact ⟨v, hnone.markers ▸ h⟩
  · cases hchange with
    | quiet hnone => exact ⟨v, hnone.markers ▸ h⟩
    | approved _ _ _ _ _ _ activates => exact hactivates activates
    | merged _ _ _ _ activates => exact hactivates activates

/-! ## The invariant -/

/-- The plans are well-formed, the units and workspaces of an ACTIVE plan are there and bound as its
nodes say, and what it left out has ended. -/
structure AlignInv (s : DB) : Prop where
  graph : ∀ k plan, s.plans.find? k = some plan →
    WellFormedGraph (plan.nodes.map RawNode.toPlanNode) (plan.edges.map RawEdge.toPlanEdge)
  specs : ∀ k spec, s.workUnitSpecs.find? k = some spec →
    ∃ u, s.workUnitExecutions.find? k.1 = some u ∧ u.taskId = spec.taskId
  aligned : ∀ t v plan, s.activePlanMarkers.find? t = some ⟨v⟩ →
    s.plans.find? (t, v) = some plan → ∀ node ∈ plan.nodes, NodeAligned s t node
  ended : ∀ wuId u, s.workUnitExecutions.find? wuId = some u → OffPlan s wuId u →
    u.status.isTerminal = true
  contract : ∀ t v, s.activePlanMarkers.find? t = some ⟨v⟩ →
    ∃ version, s.activeContractMarkers.find? t = some ⟨version⟩

namespace AlignInv

/-- Nodes of ACTIVE plans with the same unit are the same. -/
theorem listed_eq (hinv : AlignInv s) {t : String} {v : Nat} {plan : PlanRow} {n : RawNode}
    (hmarker : s.activePlanMarkers.find? t = some ⟨v⟩) (hplan : s.plans.find? (t, v) = some plan)
    (hnode : node ∈ plan.nodes) (hlisted : Listed s n) (hsame : n.workUnitId = node.workUnitId) :
    n = node := by
  obtain ⟨t', v', plan', hmarker', hplan', hnode'⟩ := hlisted
  obtain ⟨u, hu, howner, -⟩ := (hinv.aligned t v plan hmarker hplan node hnode).unit
  obtain ⟨u', hu', howner', -⟩ := (hinv.aligned t' v' plan' hmarker' hplan' n hnode').unit
  rw [hsame, hu] at hu'
  obtain rfl := Option.some.inj hu'
  obtain rfl : t = t' := howner.symm.trans howner'
  obtain rfl : v = v' :=
    congrArg ActivePlanMarker.planVersion (Option.some.inj (hmarker.symm.trans hmarker'))
  obtain rfl := Option.some.inj (hplan.symm.trans hplan')
  have hgraph := (hinv.graph _ plan hplan).distinct
  rw [List.map_map] at hgraph
  exact List.inj_on_of_nodup_map hgraph hnode' hnode hsame

/-- Steps that install no plan. -/
theorem of_none (hinv : AlignInv w.db) (howned : RunsOwned w.db)
    (hstep : system.step w l = some w') (hnone : NoPlanInstalled w.db w'.db)
    (hspecs : SpecsSame w.db w'.db) (hbound : BoundTo (Listed w.db) w.db w'.db) :
    AlignInv w'.db where
  graph k plan hplan := hinv.graph k plan (hnone.plans ▸ hplan)
  specs k spec hspec := by
    rw [show w'.db.workUnitSpecs = w.db.workUnitSpecs from hspecs] at hspec
    obtain ⟨u, hu, howner⟩ := hinv.specs k spec hspec
    obtain ⟨u', hu', hsame⟩ := (step_rel hstep : Persists w.db w'.db).unit hu
    exact ⟨u', hu', hsame.trans howner⟩
  aligned t v plan hmarker hplan node hnode := by
    rw [hnone.markers] at hmarker
    rw [hnone.plans] at hplan
    refine (hinv.aligned t v plan hmarker hplan node hnode).of_bound (step_rel hstep) hbound ?_
    intro n hlisted hsame
    rw [hinv.listed_eq hmarker hplan hnode hlisted hsame]
  ended wuId u' hu' hoff := by
    obtain ⟨u, hu, -⟩ : ∃ u, w.db.workUnitExecutions.find? wuId = some u ∧
        (u'.specVersion = u.specVersion ∨ Names (Listed w.db) wuId u'.specVersion) := by
      rcases hbound.origin hu' with hkept | ⟨hfree, n, ⟨t, v, plan, hmarker, hplan, hn⟩, rfl, -⟩
      · exact hkept
      · -- the units of listed nodes are there already
        obtain ⟨u, hu, -⟩ := (hinv.aligned t v plan hmarker hplan n hn).unit
        exact absurd (hfree.symm.trans hu) nofun
    obtain ⟨u'', hu'', hsame⟩ := (step_rel hstep : Persists w.db w'.db).unit hu
    obtain rfl := Option.some.inj (hu'.symm.trans hu'')
    have hoff₀ : OffPlan w.db wuId u := by
      rw [OffPlan, hsame, hnone.markers, hnone.plans] at hoff
      exact hoff
    obtain ⟨a, ha, hend⟩ := step_ended howned hu (hinv.ended wuId u hu hoff₀) hoff₀ hstep
    obtain rfl := Option.some.inj (hu'.symm.trans ha)
    exact hend
  contract t v hmarker := by
    obtain ⟨version, hversion⟩ := hinv.contract t v (hnone.markers ▸ hmarker)
    exact step_contractMarkers hstep hversion

/-- Every plan after an activation is the new one, or was there with the same nodes and edges. -/
theorem plans_of_installs {version : Nat} {contract : ContractRow} {k : String × Nat}
    {plan' : PlanRow} (h : InstallsPlan env auth p operation s s' r task version contract)
    (hpersist : Persists s s') (hplan' : s'.plans.find? k = some plan') :
    k = (r.taskId, task.planVersion.getD 0 + 1) ∧
        plan' = newPlan env task version r.nodes r.edges ∨
      ∃ plan, s.plans.find? k = some plan ∧ plan'.nodes = plan.nodes ∧
        plan'.edges = plan.edges := by
  have hplaced := hplan'
  rw [h.rest.plans] at hplaced
  rcases PlanInv.setPlan_came h.free hplaced with hnew | ⟨-, hretired⟩
  · exact .inl hnew
  · obtain ⟨plan, hplan, -⟩ := DB.retirePlan_plans hretired
    obtain ⟨plan'', hplan'', hfixed⟩ := (hpersist .plans).1 k plan hplan
    obtain rfl := Option.some.inj (hplan'.symm.trans hplan'')
    have hcolumns := Prod.mk.inj (Prod.mk.inj (Prod.mk.inj (Prod.mk.inj hfixed).2).2).2
    exact .inr ⟨plan, hplan, hcolumns.1, (Prod.mk.inj hcolumns.2).1⟩

/-- The ACTIVE plan of another task is not touched by an activation. -/
theorem marked_of_installs {version v : Nat} {contract : ContractRow} {t : String}
    {plan' : PlanRow} (h : InstallsPlan env auth p operation s s' r task version contract)
    (hmarker : s'.activePlanMarkers.find? t = some ⟨v⟩)
    (hplan : s'.plans.find? (t, v) = some plan') :
    t = r.taskId ∧ plan' = newPlan env task version r.nodes r.edges ∨
      t ≠ r.taskId ∧ s.activePlanMarkers.find? t = some ⟨v⟩ ∧
        s.plans.find? (t, v) = some plan' := by
  rw [h.rest.markers, DB.setPlan_markers] at hmarker
  by_cases ht : t = r.taskId
  · rw [if_pos ht] at hmarker
    obtain rfl : _ = v := congrArg ActivePlanMarker.planVersion (Option.some.inj hmarker)
    rw [ht, h.installed] at hplan
    exact .inl ⟨ht, (Option.some.inj hplan).symm⟩
  · rw [if_neg ht] at hmarker
    rw [h.rest.plans] at hplan
    rcases PlanInv.setPlan_came h.free hplan with ⟨hk, -⟩ | ⟨-, hretired⟩
    · exact absurd (Prod.mk.inj hk).1 ht
    · exact .inr ⟨ht, hmarker, (DB.retirePlan_kept s r.taskId ht).symm.trans hretired⟩

/-- Steps that install a plan. -/
theorem of_installs {version : Nat} {contract : ContractRow} (hinv : AlignInv w.db)
    (howned : RunsOwned w.db) (hstep : system.step w l = some w')
    (h : InstallsPlan env auth p operation w.db w'.db r task version contract) :
    AlignInv w'.db where
  graph k plan hplan := by
    rcases plans_of_installs h (step_rel hstep) hplan with ⟨-, rfl⟩ | ⟨plan₀, hplan₀, hn, he⟩
    · exact h.admitted.graph
    · rw [hn, he]
      exact hinv.graph k plan₀ hplan₀
  specs k spec hspec := by
    rcases h.specs hspec with hold | ⟨node, hnode, hkey, howner⟩
    · obtain ⟨u, hu, howner⟩ := hinv.specs k spec hold
      obtain ⟨u', hu', hsame⟩ := (step_rel hstep : Persists w.db w'.db).unit hu
      exact ⟨u', hu', hsame.trans howner⟩
    · obtain ⟨u, hu, howner', -⟩ := (h.aligned.1 node hnode).unit
      exact ⟨u, hkey ▸ hu, howner'.trans howner.symm⟩
  aligned t v plan hmarker hplan node hnode := by
    rcases marked_of_installs h hmarker hplan with ⟨rfl, rfl⟩ | ⟨hne, hmarker₀, hplan₀⟩
    · exact h.aligned.1 node hnode
    · have haligned := hinv.aligned t v plan hmarker₀ hplan₀ node hnode
      refine haligned.of_bound (step_rel hstep) h.bound fun n hn hsame ↦ ?_
      -- a unit of the new plan would be of its task
      obtain ⟨u, hu, howner, -⟩ := haligned.unit
      have hnamed := h.nodesOwned n hn
      rw [hsame, hu] at hnamed
      exact absurd (howner.symm.trans (by simpa using hnamed)) hne
  ended wuId u' hu' hoff := by
    obtain ⟨v, plan, hmarker, hplan, hnodes⟩ := hoff
    rcases marked_of_installs h hmarker hplan with ⟨howner, rfl⟩ | ⟨hne, hmarker₀, hplan₀⟩
    · exact h.aligned.2 wuId u' hu' howner hnodes
    · obtain ⟨u, hu, -⟩ : ∃ u, w.db.workUnitExecutions.find? wuId = some u ∧
          (u'.specVersion = u.specVersion ∨ Names (· ∈ r.nodes) wuId u'.specVersion) := by
        rcases h.bound.origin hu' with hkept | ⟨-, n, hn, rfl, -⟩
        · exact hkept
        · obtain ⟨u, hu, howner, -⟩ := (h.aligned.1 n hn).unit
          obtain rfl := Option.some.inj (hu'.symm.trans hu)
          exact absurd howner hne
      obtain ⟨u'', hu'', hsame⟩ := (step_rel hstep : Persists w.db w'.db).unit hu
      obtain rfl := Option.some.inj (hu'.symm.trans hu'')
      have hoff₀ : OffPlan w.db wuId u := by
        rw [hsame] at hmarker₀ hplan₀
        exact ⟨v, plan, hmarker₀, hplan₀, hnodes⟩
      obtain ⟨a, ha, hend⟩ := step_ended howned hu (hinv.ended wuId u hu hoff₀) hoff₀ hstep
      obtain rfl := Option.some.inj (hu'.symm.trans ha)
      exact hend
  contract t v hmarker := by
    have hbefore : ∃ version, w.db.activeContractMarkers.find? t = some ⟨version⟩ := by
      rw [h.rest.markers, DB.setPlan_markers] at hmarker
      split at hmarker
      · next heq => exact ⟨version, heq ▸ h.admitted.marker⟩
      · exact hinv.contract t v hmarker
    obtain ⟨version', hversion⟩ := hbefore
    exact step_contractMarkers hstep hversion

end AlignInv

theorem alignInv_invariant (ok : World → Label → Prop) :
    system.Invariant ok fun w ↦ RunsOwned w.db ∧ AlignInv w.db where
  init := ⟨fun _ _ h ↦ (nomatch h), (fun _ _ h ↦ nomatch h), (fun _ _ h ↦ nomatch h),
    (fun _ _ _ h ↦ nomatch h), (fun _ _ h ↦ nomatch h), (fun _ _ h ↦ nomatch h)⟩
  step w l w' hinv hok hstep := by
    obtain ⟨howned, halign⟩ := hinv
    refine ⟨(runsOwned_invariant ok).step w l w' howned hok hstep, ?_⟩
    rcases step_plans hstep with hnone | ⟨_, _, _, _, _, _, -, hinstall⟩
    · rcases step_specs hstep with hspecs | ⟨_, _, _, _, _, _, -, hinstall⟩
      · rcases step_bound hstep with hbound | ⟨_, _, _, _, _, _, -, hinstall⟩
        · exact halign.of_none howned hstep hnone hspecs hbound
        · exact halign.of_installs howned hstep hinstall
      · exact halign.of_installs howned hstep hinstall
    · exact halign.of_installs howned hstep hinstall

end HibikiCore
