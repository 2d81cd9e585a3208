import HibikiCore.Application.Plans
import HibikiCore.Application.Runs

/-!
# Planner sessions

A task has one planner session with a generation; PLAN runs are created in the current generation,
and proposals and checkpoints are accepted from it. Messages to the planner are a log for each
task. A repair after a failed verification is a plan revision.
-/

namespace HibikiCore

open Value (ofNat ofOption)

/-! ## Generations -/

/-- Ends the PLAN run of a session before its generation advances. -/
def revokePlanRun (env : Env) (flushed : DB) (taskId sessionId : String) : Core Unit := do
  let db ← get
  Tx.withSome (db.activePlanRunMarkers.find? sessionId) fun marker ↦ do
    if (db.agentRuns.find? marker.runId).any (·.status.isActive) then do
      Refs.agentRuns.update marker.runId fun r ↦
        { r with
          status := .cancelled
          terminalReason := some .plannerGenerationBumped
          finishedAt := some env.now }
      clearRunOccupancy marker.runId true
      enqueueStopsForRuns env flushed taskId [marker.runId] "planner_generation_bumped"
    else Refs.activePlanRunMarkers.delete sessionId
  Refs.plannerSessions.update sessionId fun ps ↦
    { ps with activeRunId := none, generation := ps.generation + 1 }

/-- The planner session of a task, new or in its next generation; the result is its name. -/
def bumpPlannerGeneration (env : Env) (auth : AuthContext) (taskId : String) : Core String := do
  let flushed ← get
  let task ← getTask taskId
  let drawn ← newId env "ps"
  let sessionId := (truthy task.activePlannerSessionId).getD drawn
  if (flushed.plannerSessions.find? sessionId).isNone then do
    add Refs.plannerSessions sessionId
      { taskId
        generation := 1
        activeRunId := none
        checkpointRef := none
        checkpointVersion := 0
        lastConsumedMessageSeq := 0
        status := .active }
    Refs.tasks.update taskId fun t ↦ { t with activePlannerSessionId := some sessionId }
  else revokePlanRun env flushed taskId sessionId
  Refs.plannerSessions.update sessionId fun ps ↦
    { ps with checkpointVersion := ps.checkpointVersion + 1 }
  let db ← get
  let session ← Tx.require (db.plannerSessions.find? sessionId) .assertion
  appendEvent env taskId "planner.generation_bumped" auth.actorId
    [("generation", ofNat session.generation)]
  return sessionId

def replacePlannerGeneration (env : Env) (auth : AuthContext) (p : Payload) :
    Core CommandResult := do
  let taskId ← key "task_id" p.taskId
  let task ← getTask taskId
  assertTaskPrincipal auth task
  let sessionId ← bumpPlannerGeneration env auth taskId
  let db ← get
  let session ← Tx.require (db.plannerSessions.find? sessionId) .assertion
  return .success
    [("task_id", .text taskId), ("planner_session_id", .text sessionId),
      ("generation", ofNat session.generation)]

/-! ## Who may write for a planner -/

/-- An internal actor must be the active PLAN run of the session. -/
def assertPlanRunBinding (auth : AuthContext) (taskId sessionId : String)
    (session : PlannerSessionRow) (p : Payload) : Core Unit := do
  Tx.check (auth.actorType = .internal)
    (.authorization "planner write requires Human or Internal actor")
  let unbound : Error :=
    .authorization "planner credential is not bound to the active PLAN run"
  let runId ← Tx.require (truthy session.activeRunId) unbound
  Tx.check (auth.boundRunId = some runId) unbound
  let db ← get
  let run ← Tx.require (db.agentRuns.find? runId)
    (.notFound "run_not_found" "plan run not found")
  Tx.check (run.assignmentKind = .plan ∧ run.plannerSessionId = some sessionId)
    (.precondition "not_plan_run" "run is not the PLAN run")
  Tx.check (run.status.isTerminal = false) (.authorization "PLAN run is no longer active")
  assertRunWriteBinding auth runId run (some taskId) (some (p.runId.getD runId)) none false

/-- The refusal of a write that names another generation. -/
def staleGeneration (taskId : String) (session : PlannerSessionRow) (p : Payload) :
    CommandResult :=
  .failure "stale_generation" "stale planner generation"
    [("got", ofNat (p.generation.getD 0)), ("expected", ofNat session.generation),
      ("task_id", .text taskId)]

/-! ## Proposals -/

/-- A proposal that changes the authorization becomes a contract delta for a human to decide. -/
def proposeContractDelta (env : Env) (taskId : String) (p : Payload) : Core CommandResult := do
  let contract ← activeContract taskId
  let active ← Tx.require contract (.precondition "no_active_contract" "no active contract")
  let decisionId ← newId env "dec"
  let delta := p.delta.getD {}
  let target := Digest.contract (mergeContractContent active.2.content delta)
  add Refs.decisions decisionId
    { pendingDecision env taskId .contractDelta "delta" (active.1 + 1) target
        Defaults.decisionTtl with
      contractVersion := some active.1
      payload := some
        { delta
          baselineContractVersion := active.1
          baselineContractHash := active.2.contentHash
          approvedMergedHash := target } }
  openGate env taskId decisionId .contractDelta
  setTaskState env taskId .blockingGateOpened (some .contractDelta)
  return .success
    [("task_id", .text taskId), ("requires_contract_delta", .flag true),
      ("decision_id", .text decisionId)]

def submitPlanProposal (env : Env) (auth : AuthContext) (p : Payload) : Core CommandResult := do
  let taskId ← key "task_id" p.taskId
  let task ← getTask taskId
  let sessionId ← Tx.require task.activePlannerSessionId
    (.precondition "no_planner_session" "no planner session")
  let db ← get
  let session ← Tx.require (db.plannerSessions.find? sessionId) .assertion
  assertTaskPrincipal auth task
  if p.generation.getD 0 ≠ session.generation then do
    appendEvent env taskId "plan.proposal_rejected_stale_generation" auth.actorId
      [("got", ofNat (p.generation.getD 0)), ("expected", ofNat session.generation)]
    return staleGeneration taskId session p
  else do
    Tx.when (auth.actorType ≠ .human) (assertPlanRunBinding auth taskId sessionId session p)
    if p.changesAuthorization then proposeContractDelta env taskId p
    else do
      let nodes ← key "nodes" p.nodes
      activatePlan env auth
        { taskId
          nodes
          edges := p.edges
          expectedContractVersion := p.expectedContractVersion
          expectedPlanVersion := p.expectedPlanVersion
          objective := p.objective }

/-! ## PLAN runs -/

def plannerBinding (sessionId : String) (session : PlannerSessionRow) : PlannerBinding where
  plannerSessionId := sessionId
  generation := session.generation
  checkpointRef := session.checkpointRef
  checkpointVersion := session.checkpointVersion
  lastConsumedMessageSeq := session.lastConsumedMessageSeq

/-- The context of a PLAN run: the contract and the state of the session. -/
def planManifest (env : Env) (db : DB) (taskId : String) (task : TaskRow)
    (runId manifestId : String) (contract : Option (Nat × ContractRow))
    (binding : PlannerBinding) : ContextManifest :=
  let mandatory := (contract.map fun c ↦ contractRef taskId c.1 c.2).toList
  { contextManifestId := manifestId
    taskId
    runId
    contractVersion := task.contractVersion
    planVersion := task.planVersion
    assignmentRef := none
    profileRef := "planner@v1"
    mandatoryRefs := mandatory
    dependencyResultRefs := []
    maxMaterializedBytes := contextBudget (contractAndLimits db taskId task).2
    mandatoryBytes := mandatoryContextBytes env db taskId mandatory
    workUnitObjective := none
    workspaceId := none
    planner := some binding }

def planRunSpec (taskId : String) (task : TaskRow) (runId : String)
    (manifest : ContextManifest) (binding : PlannerBinding) : RunExecutionSpec where
  runId := runId
  taskId := taskId
  workUnitId := none
  assignmentKind := .plan
  profileId := "planner"
  profileVersion := 1
  contractVersion := task.contractVersion.getD 0
  planVersion := task.planVersion
  contextManifestId := manifest.contextManifestId
  contextManifest := manifest
  workspaceId := none
  workspacePath := none
  grantedTools := []
  permissionCeiling := []
  principalId := task.principalId
  agentInstanceId := "planner:" ++ runId
  grantEpoch := task.revokeEpoch
  fencingEpoch := 1
  revokeEpoch := task.revokeEpoch
  modelCallLimit := task.modelCallLimit
  maxTurns := Defaults.maxRunModelTurns
  wallTimeoutSeconds := Defaults.runWallTimeoutSeconds
  objective := "Plan task " ++ task.title
  workType := "PLAN"
  goalLabel := "PLAN"
  contextPolicy := "FRESH"
  inputRefs := []
  expectedOutputs := []
  acceptanceCriteria := []
  unknownCeilingTools := []
  resourceLimits := {}
  planner := some binding

def planRun (env : Env) (taskId : String) (task : TaskRow) (sessionId runId manifestId : String)
    (resumedFromRunId : Option String) : AgentRunRow where
  taskId := taskId
  assignmentKind := .plan
  plannerSessionId := some sessionId
  workUnitId := none
  workUnitSpecVersion := none
  attemptNo := 1
  agentInstanceId := "planner:" ++ runId
  profileId := "planner"
  profileVersion := 1
  contractVersion := task.contractVersion.getD 0
  planVersion := task.planVersion
  contextManifestId := manifestId
  workspaceId := none
  status := .created
  terminalReason := none
  fencingEpoch := 1
  grantEpoch := task.revokeEpoch
  leaseExpiresAt := env.now + Defaults.leaseSeconds
  lastHeartbeatAt := none
  startedAt := none
  finishedAt := none
  resumedFromRunId := resumedFromRunId
  resultRef := none
  result := none
  lateArrival := false
  sandboxContainerId := none
  sandboxExitUnconfirmed := false

def planStartPayload (taskId : String) (task : TaskRow) (runId : String)
    (binding : PlannerBinding) : StartPayload where
  runId := runId
  taskId := taskId
  assignmentKind := .plan
  principalId := task.principalId
  agentInstanceId := "planner:" ++ runId
  grantEpoch := task.revokeEpoch
  fencingEpoch := 1
  revokeEpoch := task.revokeEpoch
  workUnitId := none
  workspaceId := none
  workspacePath := none
  grantedTools := []
  spec := none
  planner := some binding

/-- Creates the PLAN run of a session with all that belongs to it. -/
def createPlanRun (env : Env) (auth : AuthContext) (p : Payload) (taskId : String)
    (task : TaskRow) (sessionId : String) (session : PlannerSessionRow) :
    Core CommandResult := do
  let runId ← newId env "run"
  let manifestId ← newId env "ctx"
  let binding := plannerBinding sessionId session
  add Refs.agentRuns runId (planRun env taskId task sessionId runId manifestId p.resumedFromRunId)
  let contract ← activeContract taskId
  let db ← get
  let manifest := planManifest env db taskId task runId manifestId contract binding
  add Refs.contextManifests manifestId
    { taskId
      runId
      contractVersion := task.contractVersion.getD 0
      planVersion := task.planVersion
      content := manifest
      createdAt := env.now }
  add Refs.runInputs runId
    { taskId
      workspaceId := none
      workspacePath := none
      spec := planRunSpec taskId task runId manifest binding
      createdAt := env.now }
  add Refs.activePlanRunMarkers sessionId ⟨runId⟩
  Refs.plannerSessions.update sessionId fun ps ↦ { ps with activeRunId := some runId }
  enqueue env taskId (.agentStart (planStartPayload taskId task runId binding)) task.revokeEpoch
  appendEvent env taskId "plan_run.created" auth.actorId
    [("run_id", .text runId), ("planner_session_id", .text sessionId),
      ("generation", ofNat session.generation)]
  return .success
    [("task_id", .text taskId), ("run_id", .text runId), ("planner_session_id", .text sessionId),
      ("generation", ofNat session.generation)]

/-- The run a session marks as active, if it still is. -/
def markedPlanRun (db : DB) (sessionId : String) : Option String :=
  (db.activePlanRunMarkers.find? sessionId).bind fun m ↦
    if (db.agentRuns.find? m.runId).any (·.status.isActive) then some m.runId else none

/-- Creates the PLAN run of an ACTIVE session, unless it has one or the limits are reached. -/
def dispatchSessionRun (env : Env) (auth : AuthContext) (p : Payload) (taskId sessionId : String) :
    Core CommandResult := do
  let task ← getTask taskId
  let db ← get
  let session ← Tx.require (db.plannerSessions.find? sessionId) .assertion
  Tx.check (session.status = .active)
    (.precondition "planner_session_inactive" "planner session is not ACTIVE")
  Tx.check (session.taskId = taskId)
    (.precondition "planner_task_mismatch" "planner session task mismatch")
  match markedPlanRun db sessionId with
  | some runId =>
    return .success
      [("task_id", .text taskId), ("run_id", .text runId), ("already_active", .flag true),
        ("generation", ofNat session.generation)]
  | none => do
    Refs.activePlanRunMarkers.delete sessionId
    if Defaults.globalRunConcurrency ≤ countActiveRuns db then
      return .failure "concurrency_limit" "global run concurrency exhausted"
    else if Defaults.perTaskRunConcurrency ≤ countTaskActiveRuns db taskId then
      return .failure "concurrency_limit" "per-task run concurrency exhausted"
    else createPlanRun env auth p taskId task sessionId session

def dispatchPlannerRun (env : Env) (auth : AuthContext) (p : Payload) : Core CommandResult := do
  let taskId ← key "task_id" p.taskId
  let task ← getTask taskId
  assertTaskPrincipal auth task
  let contract ← activeContract taskId
  let db ← get
  match guardDispatch (dispatchView db taskId task contract.isSome) with
  | some e => return .failure e.code e.message
  | none =>
    match task.activePlannerSessionId with
    | some sessionId => dispatchSessionRun env auth p taskId sessionId
    | none => do
      -- the first PLAN run needs a session, of generation 1
      let sessionId ← bumpPlannerGeneration env auth taskId
      dispatchSessionRun env auth p taskId sessionId

/-! ## Checkpoints and messages -/

/-- The new position of the message cursor: not back, and not past the log. -/
def checkCursor (taskId : String) (session : PlannerSessionRow) (p : Payload) : Core Nat := do
  let db ← get
  let consumed := (truthyNat p.lastConsumedMessageSeq).getD session.lastConsumedMessageSeq
  Tx.check (session.lastConsumedMessageSeq ≤ consumed)
    (.precondition "cursor_regression" "message cursor must not move backwards")
  Tx.check (consumed ≤ maxSeq db.taskMessages taskId)
    (.precondition "cursor_past_end" "message cursor past end of log")
  return consumed

def advancePlannerCheckpoint (env : Env) (auth : AuthContext) (p : Payload) :
    Core CommandResult := do
  let taskId ← key "task_id" p.taskId
  let task ← getTask taskId
  let sessionId ← Tx.require (truthy task.activePlannerSessionId <|> truthy p.plannerSessionId)
    (.precondition "no_planner_session" "no planner session")
  let db ← get
  let session ← Tx.require ((db.plannerSessions.find? sessionId).filter (·.taskId == taskId))
    (.notFound "planner_session_not_found" "planner session not found")
  assertTaskPrincipal auth task
  if p.generation.getD 0 ≠ session.generation then do
    appendEvent env taskId "plan.proposal_rejected_stale_generation" auth.actorId
      [("got", ofNat (p.generation.getD 0)), ("expected", ofNat session.generation)]
    return staleGeneration taskId session p
  else do
    Tx.when (auth.actorType ≠ .human) (assertPlanRunBinding auth taskId sessionId session p)
    let consumed ← checkCursor taskId session p
    let checkpointRef := p.checkpointRef.getD session.checkpointRef
    Refs.plannerSessions.update sessionId fun ps ↦
      { ps with
        checkpointRef
        checkpointVersion := ps.checkpointVersion + 1
        lastConsumedMessageSeq := consumed }
    let data : Data :=
      [("planner_session_id", .text sessionId), ("checkpoint_ref", ofOption checkpointRef),
        ("checkpoint_version", ofNat (session.checkpointVersion + 1)),
        ("last_consumed_message_seq", ofNat consumed), ("generation", ofNat session.generation)]
    appendEvent env taskId "planner.checkpoint_advanced" auth.actorId data
    return .success (("task_id", .text taskId) :: data)

/-- A run that posts, or is named by a human who posts, is a run of the task. -/
def checkPoster (auth : AuthContext) (taskId : String) (p : Payload) : Core Unit :=
  match auth.actorType with
  | .internal => do
    let runId ← Tx.require (truthy p.runId)
      (.authorization "Internal actors must bind post_task_message to a run_id")
    let run ← getRun runId
    Tx.check (run.taskId = taskId) (.authorization "run task mismatch")
    assertRunWriteBinding auth runId run p.taskId p.runId p.fencingEpoch true
  | .human =>
    Tx.withSome (truthy p.runId) fun runId ↦ do
      let run ← getRun runId
      Tx.check (run.taskId = taskId) (.authorization "run task mismatch")
  | .userAgent => throw (.authorization "post_task_message requires Human or Internal actor")

def postTaskMessage (env : Env) (auth : AuthContext) (p : Payload) : Core CommandResult := do
  let taskId ← key "task_id" p.taskId
  let task ← getTask taskId
  assertTaskPrincipal auth task
  checkPoster auth taskId p
  let db ← get
  let nextSeq := maxSeq db.taskMessages taskId + 1
  let kind := orElse p.kind "note"
  add Refs.taskMessages (taskId, nextSeq)
    { senderRunId := p.runId
      senderActor := some auth.actorId
      kind
      body := .posted (p.body.getD "\x7b\x7d")
      createdAt := env.now }
  appendEvent env taskId "task.message_posted" auth.actorId
    [("sequence_no", ofNat nextSeq), ("kind", .text kind), ("run_id", ofOption p.runId)]
  return .success
    [("task_id", .text taskId), ("sequence_no", ofNat nextSeq), ("kind", .text kind)]

/-- Only the service creates runs: a request to spawn one is refused and recorded. -/
def requestSpawn (env : Env) (auth : AuthContext) (p : Payload) : Core CommandResult := do
  Tx.withSome (truthy p.taskId) fun taskId ↦ do
    let _ ← getTask taskId
    appendEvent env taskId "spawn.refused" auth.actorId
      [("reason", .text "core_only_spawn"), ("requested_by", .text auth.actorType.text),
        ("actor_id", .text auth.actorId), ("detail", ofOption (truthy p.detail <|> p.kind))]
  return .failure "spawn_forbidden" "formal dispatch is Core-only; Planner/Worker spawn refused"
    [("task_id", ofOption (truthy p.taskId))]

def closePlannerSession (env : Env) (auth : AuthContext) (p : Payload) : Core CommandResult := do
  let taskId ← key "task_id" p.taskId
  let task ← getTask taskId
  assertTaskPrincipal auth task
  let sessionId ← Tx.require task.activePlannerSessionId
    (.precondition "no_planner_session" "no planner session")
  let db ← get
  let _ ← Tx.require (db.plannerSessions.find? sessionId) .assertion
  Tx.check (markedPlanRun db sessionId = none)
    (.precondition "active_plan_run" "active PLAN run still present")
  let status := orElse p.status "CLOSED"
  Refs.plannerSessions.update sessionId fun ps ↦
    { ps with
      status := if status = "ACTIVE" then .active else .other status
      activeRunId := none }
  appendEvent env taskId "planner.session_closed" auth.actorId
    [("planner_session_id", .text sessionId), ("status", .text status)]
  return .success
    [("task_id", .text taskId), ("planner_session_id", .text sessionId), ("status", .text status)]

/-! ## Repair -/

/-- The revision that replaces a failed verification by a repair and a new verification. -/
def repairProposal (task : TaskRow) (p : Payload) (failedId repairId verifyId : String) :
    Payload :=
  let objective := orElse p.objective ("repair after " ++ failedId
    ++ match truthy (p.failedEvidence.map stripText) with
      | some evidence => ": " ++ evidence
      | none => "")
  let includeVerify := p.includeVerify.getD true
  let repair : RawNode :=
    { workUnitId := repairId
      specVersion := some 1
      workType := some "REPAIR"
      objective := some objective }
  let verify : RawNode :=
    { workUnitId := verifyId, specVersion := some 1, workType := some "VERIFY" }
  let edge : RawEdge :=
    { fromWorkUnitId := repairId
      toWorkUnitId := verifyId
      predicate := some .verdictPass
      artifactHash := some (orElse p.artifactHash "repair-target-hash") }
  { nodes := some (p.keepNodes.filter (·.workUnitId ≠ failedId)
      ++ repair :: if includeVerify then [verify] else [])
    edges := p.keepEdges ++ if includeVerify then [edge] else []
    expectedPlanVersion := task.planVersion.map Int.ofNat
    expectedContractVersion := task.contractVersion
    generation := p.generation
    objective := some (orElse p.objective ("repair after " ++ failedId)) }

def requestRepairPlan (env : Env) (auth : AuthContext) (p : Payload) : Core CommandResult := do
  let taskId ← key "task_id" p.taskId
  let task ← getTask taskId
  assertTaskPrincipal auth task
  let failedId ← key "failed_verify_work_unit_id" p.failedVerifyWorkUnitId
  let db ← get
  let wu ← Tx.require ((db.workUnitExecutions.find? failedId).filter (·.taskId == taskId))
    (.notFound "work_unit_not_found" "verify work unit not found")
  Tx.check (wu.selectedVerdict = some .fail)
    (.precondition "verify_not_failed" "repair requires a FAIL verify verdict")
  let drawnRepair ← newId env "wu"
  let drawnVerify ← newId env "wu"
  let proposal := repairProposal task p failedId ((truthy p.repairWorkUnitId).getD drawnRepair)
    ((truthy p.newVerifyWorkUnitId).getD drawnVerify)
  if (truthy task.activePlannerSessionId).isSome ∧ p.generation.isSome then
    submitPlanProposal env auth { proposal with taskId := some taskId }
  else
    activatePlan env auth
      { taskId
        nodes := proposal.nodes.getD []
        edges := proposal.edges
        expectedContractVersion := proposal.expectedContractVersion
        expectedPlanVersion := proposal.expectedPlanVersion
        objective := proposal.objective }

end HibikiCore
