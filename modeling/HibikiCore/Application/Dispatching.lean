import HibikiCore.Application.Frames

/-!
# What a dispatch needs and does

The commands that create runs begin in the same way: the task is found, it belongs to the caller,
and the guard of dispatch looks at its state, its ACTIVE contract and its gates. One of them then
creates a run for each unit of the plan that is ready, the other one for the planner session.
-/

namespace HibikiCore

set_option synthInstance.maxSize 100000000
set_option synthInstance.maxHeartbeats 400000

variable {env : Env} {auth : AuthContext} {p : Payload} {task : TaskRow} {s s' : DB}
  {taskId sessionId : String} {result : CommandResult}

/-- A task of the caller for which runs may be created, and its ACTIVE contract. -/
structure Dispatchable (auth : AuthContext) (p : Payload) (s : DB) (taskId : String)
    (task : TaskRow) (version : Nat) (contract : ContractRow) : Prop where
  named : p.taskId = some taskId
  found : s.tasks.find? taskId = some task
  owner : auth.principalId = task.principalId
  marker : s.activeContractMarkers.find? taskId = some ⟨version⟩
  contract : s.contracts.find? (taskId, version) = some contract
  state : task.state.isDispatchable = true
  gate : hasBlockingGate s taskId = false
  cancel : task.cancelIntent = false
  pause : task.pauseIntent = false

/-- The common beginning: nothing is done, or everything that is needed holds. -/
theorem dispatch_begins {f : String → TaskRow → Core CommandResult}
    (h : (do
      let taskId ← key "task_id" p.taskId
      let task ← getTask taskId
      assertTaskPrincipal auth task
      let contract ← activeContract taskId
      let db ← get
      match guardDispatch (dispatchView db taskId task contract.isSome) with
      | some e => return .failure e.code e.message
      | none => f taskId task : Core CommandResult) s = .ok (result, s')) :
    s' = s ∨ ∃ taskId task version contract,
      Dispatchable auth p s taskId task version contract ∧ f taskId task s = .ok (result, s') := by
  obtain ⟨taskId, t₁, hkey, h₁⟩ := Tx.bind_ok.mp h
  obtain ⟨hnamed, rfl⟩ := key_ok.mp hkey
  obtain ⟨task, t₂, hget, h₂⟩ := Tx.bind_ok.mp h₁
  obtain ⟨hfound, rfl⟩ := getTask_ok.mp hget
  obtain ⟨_, t₃, hcheck, h₃⟩ := Tx.bind_ok.mp h₂
  obtain ⟨howner, rfl⟩ := Tx.check_ok.mp hcheck
  obtain ⟨active, t₄, hactive, h₄⟩ := Tx.bind_ok.mp h₃
  obtain ⟨rfl, hcontract⟩ := activeContract_ok.mp hactive
  rw [Tx.get_bind_ok] at h₄
  cases hguard : guardDispatch (dispatchView t₄ taskId task active.isSome) with
  | some e =>
    rw [hguard] at h₄
    exact .inl (Tx.pure_ok.mp h₄).2
  | none =>
    rw [hguard] at h₄
    obtain ⟨hstate, hsome, hgate, hcancel, hpause⟩ := guardDispatch_eq_none.mp hguard
    rcases hcontract with ⟨-, rfl⟩ | ⟨version, contract, hmarker, hrow, rfl⟩
    · cases hsome
    · exact .inr ⟨taskId, task, version, contract,
        ⟨hnamed, hfound, howner, hmarker, hrow, hstate, hgate, hcancel, hpause⟩, h₄⟩

/-- A dispatch of ready units asks for a higher budget, or creates runs for the units. -/
theorem dispatchReadyRuns_ok (h : dispatchReadyRuns env auth p s = .ok (result, s')) :
    s' = s ∨ ∃ taskId task version contract,
      Dispatchable auth p s taskId task version contract ∧
        (openResourceGate env taskId s = .ok ((), s') ∨
          dispatchPlanNodes env auth p taskId s = .ok (result, s')) := by
  rcases dispatch_begins h with hsame | ⟨taskId, task, version, contract, hneeds, hrun⟩
  · exact .inl hsame
  · refine .inr ⟨taskId, task, version, contract, hneeds, ?_⟩
    rcases Tx.ite_ok.mp hrun with ⟨-, hbudget⟩ | ⟨-, hnodes⟩
    · obtain ⟨_, t, hgate, hpure⟩ := Tx.bind_ok.mp hbudget
      obtain ⟨-, rfl⟩ := Tx.pure_ok.mp hpure
      exact .inl hgate
    · exact .inr hnodes

/-- A dispatch of the planner creates a run of the session of the task, which may be new. -/
theorem dispatchPlannerRun_ok (h : dispatchPlannerRun env auth p s = .ok (result, s')) :
    s' = s ∨ ∃ taskId task version contract,
      Dispatchable auth p s taskId task version contract ∧ ∃ sessionId t,
        (t = s ∨ bumpPlannerGeneration env auth taskId s = .ok (sessionId, t)) ∧
          dispatchSessionRun env auth p taskId sessionId t = .ok (result, s') := by
  rcases dispatch_begins h with hsame | ⟨taskId, task, version, contract, hneeds, hrun⟩
  · exact .inl hsame
  · refine .inr ⟨taskId, task, version, contract, hneeds, ?_⟩
    cases hsession : task.activePlannerSessionId with
    | some sessionId =>
      rw [hsession] at hrun
      exact ⟨sessionId, s, .inl rfl, hrun⟩
    | none =>
      rw [hsession] at hrun
      obtain ⟨sessionId, t, hbump, hrest⟩ := Tx.bind_ok.mp hrun
      exact ⟨sessionId, t, .inr hbump, hrest⟩

/-! ## Runs of work units -/

/-- A run of a work unit is a new row, and an attempt of the unit. -/
theorem createExecuteRun_ok {r : RunIdentity} {attempt : Nat}
    (h : createExecuteRun env auth taskId task r attempt s = .ok ((), s')) :
    s.agentRuns.find? r.runId = none ∧
      s'.agentRuns = s.agentRuns.insert r.runId (createdRun env taskId task r attempt) ∧
      s'.workUnitExecutions = s.workUnitExecutions.modify r.workUnitId fun u ↦
        { u with
          status := .running
          activeRunId := some r.runId
          attemptCount := attempt
          specVersion := r.specVersion } := by
  rw [createExecuteRun, Tx.get_bind_ok] at h
  obtain ⟨_, t₁, hmanifest, h₁⟩ := Tx.bind_ok.mp h
  obtain ⟨_, t₂, hrun, h₂⟩ := Tx.bind_ok.mp h₁
  obtain ⟨_, t₃, hinput, h₃⟩ := Tx.bind_ok.mp h₂
  obtain ⟨_, t₄, hmarker, h₄⟩ := Tx.bind_ok.mp h₃
  obtain ⟨_, t₅, hunit, h₅⟩ := Tx.bind_ok.mp h₄
  have hrest : Writes [.workspaces, .outbox, .events] t₅ s' := Respects.rel h₅
  obtain ⟨-, rfl⟩ := Ref.insert_ok.mp hmanifest
  obtain ⟨hfresh, rfl⟩ := Ref.insert_ok.mp hrun
  obtain ⟨-, rfl⟩ := Ref.insert_ok.mp hinput
  obtain ⟨-, rfl⟩ := Ref.insert_ok.mp hmarker
  obtain rfl := Ref.update_ok.mp hunit
  exact ⟨hfresh, ((hrest .agentRuns).2 (by decide)).symm,
    ((hrest .workUnitExecutions).2 (by decide)).symm⟩

/-- The lock of the workspace of a new run. -/
theorem createExecuteRun_workspaces {r : RunIdentity} {attempt : Nat}
    (h : createExecuteRun env auth taskId task r attempt s = .ok ((), s')) :
    match r.workspaceId with
    | some wsId => s'.workspaces = s.workspaces.modify wsId fun ws ↦
        { ws with
          state := .locked
          ownerRunId := some r.runId
          fencingEpoch := r.fencing
          writerAlive := true }
    | none => s'.workspaces = s.workspaces := by
  rw [createExecuteRun, Tx.get_bind_ok] at h
  obtain ⟨_, t₁, hmanifest, h₁⟩ := Tx.bind_ok.mp h
  obtain ⟨_, t₂, hrun, h₂⟩ := Tx.bind_ok.mp h₁
  obtain ⟨_, t₃, hinput, h₃⟩ := Tx.bind_ok.mp h₂
  obtain ⟨_, t₄, hmarker, h₄⟩ := Tx.bind_ok.mp h₃
  obtain ⟨_, t₅, hunit, h₅⟩ := Tx.bind_ok.mp h₄
  obtain ⟨_, t₆, hlock, h₆⟩ := Tx.bind_ok.mp h₅
  have hrest : Writes [.outbox, .events] t₆ s' := Respects.rel h₆
  have hsame : t₆.workspaces = s'.workspaces := (hrest .workspaces).2 (by decide)
  have hbefore : Writes [.contextManifests, .agentRuns, .runInputs, .activeExecuteRunMarkers,
      .workUnitExecutions] s t₅ :=
    Preord.trans (Respects.rel hmanifest) (Preord.trans (Respects.rel hrun)
      (Preord.trans (Respects.rel hinput) (Preord.trans (Respects.rel hmarker)
        (Respects.rel hunit))))
  have hkept : s.workspaces = t₅.workspaces := (hbefore .workspaces).2 (by decide)
  rcases Tx.withSome_ok.mp hlock with ⟨wsId, hws, hupdate⟩ | ⟨hws, rfl⟩
  · rw [hws, hkept]
    exact hsame.symm.trans (Ref.read_of_update hupdate)
  · rw [hws, hkept]
    exact hsame.symm

/-- The run that is created for a node. -/
def nodeRun (env : Env) (db : DB) (taskId : String) (task : TaskRow) (node : RawNode)
    (workspace : Option (String × WorkspaceRow)) (profileVersion : Nat)
    (runId manifestId : String) : RunIdentity where
  runId := runId
  workUnitId := node.workUnitId
  specVersion := node.version
  manifest := buildContextManifest env db taskId task runId manifestId node.workUnitId
    node.version profileVersion (workspace.map Prod.fst) (contractAndLimits db taskId task).2
  workspaceId := workspace.map Prod.fst
  fencing := (workspace.map fun w ↦ w.2.fencingEpoch + 1).getD 1
  profileVersion := profileVersion

/-- What the loop has found of the unit of a node when it tries to dispatch it. -/
structure NodeReady (env : Env) (taskId : String) (edges : List RawEdge) (node : RawNode) (s : DB)
    (wu : WorkUnitExecutionRow) : Prop where
  found : s.workUnitExecutions.find? node.workUnitId = some wu
  pending : wu.status = .pending
  ofTask : wu.taskId = taskId
  due : wu.nextRetryAt.any (env.now < ·) = false
  satisfied : depsSatisfied s node.workUnitId edges = true
  free : (nodeWorkspace s node).any (fun w ↦ workspaceBusy s w.2) = false
  unmarked : markerHeld s node.workUnitId = false

/-- A turn of the loop creates the run of a node in the state `t`, in which the unit is bound to
the version of the node and has no marker. -/
structure NodeDispatched (env : Env) (auth : AuthContext) (taskId : String)
    (profileVersion : Nat) (edges : List RawEdge) (globalActive taskActive : Nat)
    (created created' : List String) (node : RawNode) (s t s' : DB) (task : TaskRow)
    (wu : WorkUnitExecutionRow) (runId manifestId : String) : Prop
    extends NodeReady env taskId edges node s wu where
  globalRoom : globalActive + created.length < Defaults.globalRunConcurrency
  taskRoom : taskActive + created.length < Defaults.perTaskRunConcurrency
  foundTask : s.tasks.find? taskId = some task
  left : wu.attemptCount + 1 ≤ Defaults.maxWorkUnitAttempts
  listed : created' = created ++ [runId]
  before : Writes [.workUnitExecutions, .activeExecuteRunMarkers] s t
  bound : t.workUnitExecutions = s.workUnitExecutions.modify node.workUnitId fun u ↦
    { u with specVersion := node.version }
  dropped : t.activeExecuteRunMarkers.find? node.workUnitId = none
  budget : ∀ m, m = (nodeRun env t taskId task node (nodeWorkspace s node) profileVersion runId
    manifestId).manifest → m.mandatoryBytes ≤ m.maxMaterializedBytes
  run : createExecuteRun env auth taskId task
    (nodeRun env t taskId task node (nodeWorkspace s node) profileVersion runId manifestId)
    (wu.attemptCount + 1) t = .ok ((), s')

theorem dropMarker_ok {wuId : String} {u u' : DB}
    (hsame : s.activeExecuteRunMarkers = u.activeExecuteRunMarkers)
    (h : (Tx.when ((s.activeExecuteRunMarkers.find? wuId).isSome = true) do
      Refs.activeExecuteRunMarkers.delete wuId : Core Unit) u = .ok ((), u')) :
    u'.activeExecuteRunMarkers.find? wuId = none := by
  rcases Tx.when_ok.mp h with ⟨-, hdelete⟩ | ⟨hnone, rfl⟩
  · obtain rfl := Ref.delete_ok.mp hdelete
    exact (Table.find?_erase _ _ _).trans (if_pos rfl)
  · rw [← hsame]
    exact Option.not_isSome_iff_eq_none.mp hnone

theorem bindUnit_units {wu : WorkUnitExecutionRow}
    (hwu : s.workUnitExecutions.find? wuId = some wu)
    (h : (Tx.when (wu.specVersion ≠ version) (Refs.workUnitExecutions.update wuId
      fun u ↦ { u with specVersion := version }) : Core Unit) s = .ok ((), s')) :
    s'.workUnitExecutions = s.workUnitExecutions.modify wuId fun u ↦
      { u with specVersion := version } := by
  rcases Tx.when_ok.mp h with ⟨-, hbind⟩ | ⟨hsame, rfl⟩
  · exact Ref.read_of_update hbind
  · refine (Table.modify_eq_self_iff.mpr fun u hu ↦ ?_).symm
    obtain rfl := Option.some.inj (hwu.symm.trans hu)
    rw [← not_not.mp hsame]

/-- The end of a turn that creates a run. -/
structure UnitDispatched (env : Env) (auth : AuthContext) (taskId : String)
    (profileVersion : Nat) (created created' : List String) (node : RawNode)
    (workspace : Option (String × WorkspaceRow)) (s t s' : DB) (task : TaskRow)
    (wu : WorkUnitExecutionRow) (runId manifestId : String) : Prop where
  foundTask : s.tasks.find? taskId = some task
  left : wu.attemptCount + 1 ≤ Defaults.maxWorkUnitAttempts
  listed : created' = created ++ [runId]
  budget : ∀ m, m = (nodeRun env t taskId task node workspace profileVersion runId
    manifestId).manifest → m.mandatoryBytes ≤ m.maxMaterializedBytes
  run : createExecuteRun env auth taskId task
    (nodeRun env t taskId task node workspace profileVersion runId manifestId)
    (wu.attemptCount + 1) t = .ok ((), s')

/-- A unit is blocked, or a run of it is created. -/
theorem dispatchUnit_cases {profileVersion : Nat} {node : RawNode} {wu : WorkUnitExecutionRow}
    {workspace : Option (String × WorkspaceRow)} {created created' : List String}
    (h : dispatchUnit env auth taskId profileVersion node wu workspace created s =
      .ok (created', s')) :
    created' = created ∧ Writes [.workUnitExecutions, .events] s s' ∨
      ∃ task runId manifestId n, UnitDispatched env auth taskId profileVersion created created'
        node workspace s { s with drawn := n } s' task wu runId manifestId := by
  obtain ⟨task, t₁, hget, h₁⟩ := Tx.bind_ok.mp h
  obtain ⟨hfound, rfl⟩ := getTask_ok.mp hget
  obtain ⟨runId, t₂, hdraw, h₂⟩ := Tx.bind_ok.mp h₁
  obtain ⟨-, rfl⟩ := newId_ok.mp hdraw
  have hdrawn (n : Nat) : Writes [.workUnitExecutions, .events] t₁ { t₁ with drawn := n } :=
    writes_drawn _ _
  rcases Tx.ite_ok.mp h₂ with ⟨-, h₃⟩ | ⟨hleft, h₃⟩
  · obtain ⟨_, t₃, hblock, hpure⟩ := Tx.bind_ok.mp h₃
    obtain ⟨rfl, rfl⟩ := Tx.pure_ok.mp hpure
    exact .inl ⟨rfl, Preord.trans (hdrawn _) (Respects.rel hblock)⟩
  obtain ⟨manifestId, t₃, hdraw', h₄⟩ := Tx.bind_ok.mp h₃
  obtain ⟨-, rfl⟩ := newId_ok.mp hdraw'
  rw [Tx.get_bind_ok] at h₄
  rcases Tx.ite_ok.mp h₄ with ⟨-, h₅⟩ | ⟨hbudget, h₅⟩
  · obtain ⟨_, t₄, hblock, hpure⟩ := Tx.bind_ok.mp h₅
    obtain ⟨rfl, rfl⟩ := Tx.pure_ok.mp hpure
    exact .inl ⟨rfl, Preord.trans (hdrawn _) (Respects.rel hblock)⟩
  · obtain ⟨_, t₄, hcreate, hpure⟩ := Tx.bind_ok.mp h₅
    obtain ⟨rfl, rfl⟩ := Tx.pure_ok.mp hpure
    refine .inr ⟨task, runId, manifestId, _, hfound, not_lt.mp hleft, rfl, ?_, hcreate⟩
    rintro m rfl
    exact not_lt.mp hbudget

/-- A turn of the loop creates no run, or it has found the unit of the node ready. -/
theorem dispatchNode_cases {profileVersion globalActive taskActive : Nat} {edges : List RawEdge}
    {created created' : List String} {node : RawNode}
    (h : dispatchNode env auth taskId profileVersion edges globalActive taskActive created node s =
      .ok (created', s')) :
    created' = created ∧ Writes [.workUnitExecutions, .activeExecuteRunMarkers, .events] s s' ∨
      ∃ t task wu runId manifestId, NodeDispatched env auth taskId profileVersion edges
        globalActive taskActive created created' node s t s' task wu runId manifestId := by
  rw [dispatchNode, Tx.get_bind_ok] at h
  cases hwu : s.workUnitExecutions.find? node.workUnitId with
  | none =>
    simp only [hwu] at h
    obtain ⟨rfl, rfl⟩ := Tx.pure_ok.mp h
    exact .inl ⟨rfl, Preord.refl _⟩
  | some wu =>
    simp only [hwu] at h
    rcases Tx.ite_ok.mp h with ⟨-, hpure⟩ | ⟨hguard, h₁⟩
    · obtain ⟨rfl, rfl⟩ := Tx.pure_ok.mp hpure
      exact .inl ⟨rfl, Preord.refl _⟩
    simp only [not_or, not_le, not_not] at hguard
    obtain ⟨hglobal, htask, hpending, howner⟩ := hguard
    obtain ⟨_, t₁, hbind, h₂⟩ := Tx.bind_ok.mp h₁
    have hunit : Writes [.workUnitExecutions] s t₁ := Respects.rel hbind
    have hbound : Writes [.workUnitExecutions, .activeExecuteRunMarkers] s t₁ :=
      hunit.mono (by decide)
    have hunits := bindUnit_units hwu hbind
    rcases Tx.ite_ok.mp h₂ with ⟨-, hpure⟩ | ⟨hready, h₃⟩
    · obtain ⟨rfl, rfl⟩ := Tx.pure_ok.mp hpure
      exact .inl ⟨rfl, hbound.mono (by decide)⟩
    simp only [not_or, Bool.not_eq_true, Bool.not_eq_false] at hready
    obtain ⟨hdue, hsatisfied, hfree, hunmarked⟩ := hready
    obtain ⟨_, t₂, hdrop, hdispatch⟩ := Tx.bind_ok.mp h₃
    have hdropped : Writes [.activeExecuteRunMarkers] t₁ t₂ := Respects.rel hdrop
    have hbefore : Writes [.workUnitExecutions, .activeExecuteRunMarkers] s t₂ :=
      Preord.trans hbound (hdropped.mono (by decide))
    have hmarkers : s.activeExecuteRunMarkers = t₁.activeExecuteRunMarkers :=
      (hunit .activeExecuteRunMarkers).2 (by decide)
    have hunmarked' : t₂.activeExecuteRunMarkers.find? node.workUnitId = none :=
      dropMarker_ok hmarkers hdrop
    have hkept : t₁.workUnitExecutions = t₂.workUnitExecutions :=
      (hdropped .workUnitExecutions).2 (by decide)
    rcases dispatchUnit_cases hdispatch with ⟨rfl, hnone⟩ | ⟨task, runId, manifestId, n, hrun⟩
    · exact .inl ⟨rfl, Preord.trans (hbefore.mono (by decide)) (hnone.mono (by decide))⟩
    · exact .inr ⟨{ t₂ with drawn := n }, task, wu, runId, manifestId,
        { found := hwu
          pending := hpending
          ofTask := howner
          due := hdue
          satisfied := hsatisfied
          free := hfree
          unmarked := hunmarked
          globalRoom := hglobal
          taskRoom := htask
          foundTask := (congrArg (·.find? taskId) ((hbefore .tasks).2 (by decide))).trans
            hrun.foundTask
          left := hrun.left
          listed := hrun.listed
          before := Preord.trans hbefore (writes_drawn _ _)
          bound := hkept.symm.trans hunits
          dropped := hunmarked'
          budget := hrun.budget
          run := hrun.run }⟩

/-! ## Runs of planner sessions -/

/-- The PLAN run of a session is a new row in the generation of the session, and the one that the
session and its marker name. -/
structure PlanRunCreated (sessionId : String) (session : PlannerSessionRow) (s s' : DB)
    (runId : String) (run : AgentRunRow) (input : RunInputRow) : Prop where
  fresh : s.agentRuns.find? runId = none
  runs : s'.agentRuns = s.agentRuns.insert runId run
  newInput : s.runInputs.find? runId = none
  inputs : s'.runInputs = s.runInputs.insert runId input
  binding : input.spec.planner = some (plannerBinding sessionId session)
  unmarked : s.activePlanRunMarkers.find? sessionId = none
  markers : s'.activePlanRunMarkers = s.activePlanRunMarkers.insert sessionId ⟨runId⟩
  sessions : s'.plannerSessions = s.plannerSessions.modify sessionId fun ps ↦
    { ps with activeRunId := some runId }
  rest : Writes [.agentRuns, .contextManifests, .runInputs, .activePlanRunMarkers,
    .plannerSessions, .outbox, .events] s s'

theorem createPlanRun_ok {session : PlannerSessionRow}
    (h : createPlanRun env auth p taskId task sessionId session s = .ok (result, s')) :
    ∃ runId manifestId input, PlanRunCreated sessionId session s s' runId
      (planRun env taskId task sessionId runId manifestId p.resumedFromRunId) input := by
  have hrest : Writes [.agentRuns, .contextManifests, .runInputs, .activePlanRunMarkers,
    .plannerSessions, .outbox, .events] s s' := Respects.rel h
  obtain ⟨runId, t₁, hdraw, h₁⟩ := Tx.bind_ok.mp h
  obtain ⟨manifestId, t₂, hdraw', h₂⟩ := Tx.bind_ok.mp h₁
  obtain ⟨-, rfl⟩ := newId_ok.mp hdraw
  obtain ⟨-, rfl⟩ := newId_ok.mp hdraw'
  obtain ⟨_, t₃, hrun, h₃⟩ := Tx.bind_ok.mp h₂
  obtain ⟨hfresh, rfl⟩ := Ref.insert_ok.mp hrun
  obtain ⟨contract, t₄, hactive, h₄⟩ := Tx.bind_ok.mp h₃
  obtain ⟨rfl, -⟩ := activeContract_ok.mp hactive
  rw [Tx.get_bind_ok] at h₄
  obtain ⟨_, t₅, hmanifest, h₅⟩ := Tx.bind_ok.mp h₄
  obtain ⟨-, rfl⟩ := Ref.insert_ok.mp hmanifest
  obtain ⟨_, t₆, hinput, h₆⟩ := Tx.bind_ok.mp h₅
  obtain ⟨hnew, rfl⟩ := Ref.insert_ok.mp hinput
  obtain ⟨_, t₇, hmarker, h₇⟩ := Tx.bind_ok.mp h₆
  obtain ⟨hunmarked, rfl⟩ := Ref.insert_ok.mp hmarker
  obtain ⟨_, t₈, hsession, h₈⟩ := Tx.bind_ok.mp h₇
  obtain rfl := Ref.update_ok.mp hsession
  have hlast : Writes [.outbox, .events] _ s' := Respects.rel h₈
  exact ⟨runId, manifestId, _, hfresh, ((hlast .agentRuns).2 (by decide)).symm, hnew,
    ((hlast .runInputs).2 (by decide)).symm, rfl, hunmarked,
    ((hlast .activePlanRunMarkers).2 (by decide)).symm,
    ((hlast .plannerSessions).2 (by decide)).symm, hrest⟩

/-- What holds when the dispatch of a session creates a run. -/
structure SessionReady (s : DB) (taskId sessionId : String) (task : TaskRow)
    (session : PlannerSessionRow) : Prop where
  found : s.tasks.find? taskId = some task
  stored : s.plannerSessions.find? sessionId = some session
  active : session.status = .active
  owner : session.taskId = taskId
  free : markedPlanRun s sessionId = none
  globalRoom : countActiveRuns s < Defaults.globalRunConcurrency
  taskRoom : countTaskActiveRuns s taskId < Defaults.perTaskRunConcurrency

/-- The database without the marker of a session. -/
def DB.dropPlanMarker (s : DB) (sessionId : String) : DB :=
  { s with activePlanRunMarkers := s.activePlanRunMarkers.erase sessionId }

/-- The dispatch of a session at most drops a marker that is left over, or creates a run. -/
theorem dispatchSessionRun_ok
    (h : dispatchSessionRun env auth p taskId sessionId s = .ok (result, s')) :
    s' = s ∨ markedPlanRun s sessionId = none ∧ s' = s.dropPlanMarker sessionId ∨
      ∃ task session, SessionReady s taskId sessionId task session ∧
        createPlanRun env auth p taskId task sessionId session (s.dropPlanMarker sessionId) =
          .ok (result, s') := by
  obtain ⟨task, t₁, hget, h₁⟩ := Tx.bind_ok.mp h
  obtain ⟨hfound, rfl⟩ := getTask_ok.mp hget
  rw [Tx.get_bind_ok] at h₁
  obtain ⟨session, t₂, hsession, h₂⟩ := Tx.bind_ok.mp h₁
  obtain ⟨hstored, rfl⟩ := Tx.require_ok.mp hsession
  obtain ⟨_, t₃, hstatus, h₃⟩ := Tx.bind_ok.mp h₂
  obtain ⟨hactive, rfl⟩ := Tx.check_ok.mp hstatus
  obtain ⟨_, t₄, howner, h₄⟩ := Tx.bind_ok.mp h₃
  obtain ⟨howned, rfl⟩ := Tx.check_ok.mp howner
  cases hmarked : markedPlanRun t₄ sessionId with
  | some runId =>
    rw [hmarked] at h₄
    exact .inl (Tx.pure_ok.mp h₄).2
  | none =>
    rw [hmarked] at h₄
    dsimp only at h₄
    obtain ⟨_, t₅, hdrop, h₅⟩ := Tx.bind_ok.mp h₄
    obtain rfl := Ref.delete_ok.mp hdrop
    rcases Tx.ite_ok.mp h₅ with ⟨-, hfull⟩ | ⟨hglobal, h₆⟩
    · exact .inr (.inl ⟨rfl, (Tx.pure_ok.mp hfull).2⟩)
    · rcases Tx.ite_ok.mp h₆ with ⟨-, hfull⟩ | ⟨htask, hcreate⟩
      · exact .inr (.inl ⟨rfl, (Tx.pure_ok.mp hfull).2⟩)
      · exact .inr (.inr ⟨task, session, ⟨hfound, hstored, hactive, howned, hmarked,
          not_le.mp hglobal, not_le.mp htask⟩, hcreate⟩)

end HibikiCore
