import Mathlib.Algebra.GroupWithZero.Nat
import HibikiCore.Application.Support

/-!
# Dispatching runs

A run is created together with everything it may see and do: its context manifest, its execution
contract, the markers that make it the active run of its assignment, the lock of its workspace, and
the outbox row that will start it.
-/

namespace HibikiCore

open Value (ofNat)

/-! ## Dependencies -/

/-- One edge into a work unit is satisfied. -/
def edgeSatisfied (db : DB) (e : RawEdge) : Bool :=
  match db.workUnitExecutions.find? e.fromWorkUnitId with
  | none => false
  | some dep =>
    match e.predicate.getD .done with
    | .done => dep.status == .done
    | .verdictPass =>
      dep.status == .done && dep.selectedVerdict == some .pass
        && ((truthy e.artifactHash).isNone || dep.verifiedArtifactHash == e.artifactHash)

def depsSatisfied (db : DB) (wuId : String) (edges : List RawEdge) : Bool :=
  (edges.filter (·.toWorkUnitId == wuId)).all (edgeSatisfied db)

/-! ## The context of a run -/

def contractRef (taskId : String) (version : Nat) (contract : ContractRow) : ContextRef where
  kind := .contract
  ref := some ("contract:" ++ taskId ++ ":v" ++ toString version)
  version := some version
  hash := some contract.contentHash

def deliverableRef (d : Deliverable) : ContextRef where
  kind := .deliverable
  ref := d.deliverableId
  expectedKind := d.expectedKind

def planRef (taskId : String) (version : Nat) (plan : PlanRow) : ContextRef where
  kind := .plan
  ref := some ("plan:" ++ taskId ++ ":v" ++ toString version)
  version := some version
  hash := some plan.contentHash

/-- What an upstream unit hands to a run, if it has a result. -/
def dependencyRef (db : DB) (e : RawEdge) : Option ContextRef := do
  let upstream ← db.workUnitExecutions.find? e.fromWorkUnitId
  let resultRef ← truthy upstream.selectedResultRef
  return {
    kind := .dependencyResult
    ref := some resultRef
    hash := upstream.verifiedArtifactHash.map .artifact
    workUnitId := some e.fromWorkUnitId }

/-- The size of the artifact a reference names, as far as it is registered. -/
def registeredBytes (db : DB) (taskId : String) (ref : ContextRef) : Nat :=
  match ref.kind, ref.hash with
  | .dependencyResult, some (.artifact h) =>
    ((db.artifacts.find? (taskId, h)).bind ArtifactRow.sizeBytes).getD 0
  | _, _ => 0

/-- The size of the inputs that is knowable before they are materialized. -/
def mandatoryContextBytes (env : Env) (db : DB) (taskId : String) (refs : List ContextRef) :
    Nat :=
  (refs.map env.refBytes).sum + (refs.map (registeredBytes db taskId)).sum

def planOf (db : DB) (taskId : String) (task : TaskRow) : Option (Nat × PlanRow) :=
  task.planVersion.bind fun v ↦ (db.plans.find? (taskId, v)).map fun p ↦ (v, p)

def mandatoryRefs (db : DB) (taskId : String) (task : TaskRow) : List ContextRef :=
  (match task.contractVersion, taskContract db taskId task with
    | some v, some contract =>
      contractRef taskId v contract :: (contract.content.deliverables.getD []).map deliverableRef
    | _, _ => []) ++
  (match planOf db taskId task with
    | some (v, plan) => [planRef taskId v plan]
    | none => [])

def dependencyRefs (db : DB) (taskId : String) (task : TaskRow) (wuId : String) :
    List ContextRef :=
  match planOf db taskId task with
  | none => []
  | some (_, plan) => (plan.edges.filter (·.toWorkUnitId == wuId)).filterMap (dependencyRef db)

def contextBudget (limits : ResourceLimits) : Int :=
  intOr limits.contextMaxMaterializedBytes Defaults.contextMaxMaterializedBytes

/-- The initial context authorization of an EXECUTE run. -/
def buildContextManifest (env : Env) (db : DB) (taskId : String) (task : TaskRow)
    (runId manifestId wuId : String) (specVersion profileVersion : Nat)
    (workspaceId : Option String) (limits : ResourceLimits) : ContextManifest :=
  let mandatory := mandatoryRefs db taskId task
  let dependencies := dependencyRefs db taskId task wuId
  { contextManifestId := manifestId
    taskId
    runId
    contractVersion := task.contractVersion
    planVersion := task.planVersion
    assignmentRef := some wuId
    profileRef := "local@v" ++ toString profileVersion
    mandatoryRefs := mandatory
    dependencyResultRefs := dependencies
    maxMaterializedBytes := contextBudget limits
    mandatoryBytes := mandatoryContextBytes env db taskId (mandatory ++ dependencies)
    workUnitObjective := (db.workUnitSpecs.find? (wuId, specVersion)).map (·.objective)
    workspaceId
    planner := none }

/-! ## The execution contract of a run -/

def toolCatalog : List String := ["fs.read", "fs.write", "fs.list", "shell.run", "artifact.publish"]

/-- The tools a ceiling grants, reading always among them, and the names it grants in vain. -/
def normalizeCeilingTools (requested : List String) : List String × List String :=
  let granted := ((requested.filter toolCatalog.contains).foldl
    (fun acc t ↦ if acc.contains t then acc else acc ++ [t]) [])
  (if granted.contains "fs.read" then granted else "fs.read" :: granted,
    requested.filter fun t ↦ !toolCatalog.contains t)

def workspacePath (env : Env) (workspaceId : Option String) : Option String := do
  let root ← truthy env.workspaceRoot
  let wsId ← truthy workspaceId
  return (root.dropEndWhile '/').toString ++ "/" ++ wsId

/-- The identity and the epochs a run is created with. -/
structure RunIdentity where
  runId : String
  workUnitId : String
  specVersion : Nat
  manifest : ContextManifest
  workspaceId : Option String
  fencing : Nat
  profileVersion : Nat

/-- Everything the worker is allowed to do for a run. -/
def buildRunExecutionSpec (env : Env) (db : DB) (taskId : String) (task : TaskRow)
    (r : RunIdentity) : RunExecutionSpec :=
  let (ceiling, limits) := contractAndLimits db taskId task
  let (granted, unknownTools) := normalizeCeilingTools ceiling
  let specRow := db.workUnitSpecs.find? (r.workUnitId, r.specVersion)
  let objective := (specRow.map (·.objective)).getD task.title
  let workType := (specRow.map (·.content.workType)).getD ""
  let contract := ((taskContract db taskId task).map (·.content)).getD {}
  let outputs := (specRow.map (·.content.expectedOutputs)).getD []
  let criteria := (specRow.map (·.content.acceptanceCriteria)).getD []
  { runId := r.runId
    taskId
    workUnitId := some r.workUnitId
    assignmentKind := .execute
    profileId := "local"
    profileVersion := r.profileVersion
    contractVersion := task.contractVersion.getD 0
    planVersion := task.planVersion
    contextManifestId := r.manifest.contextManifestId
    contextManifest := r.manifest
    workspaceId := r.workspaceId
    workspacePath := workspacePath env r.workspaceId
    grantedTools := granted
    permissionCeiling := ceiling
    principalId := task.principalId
    agentInstanceId := "local:" ++ r.runId
    grantEpoch := task.revokeEpoch
    fencingEpoch := r.fencing
    revokeEpoch := task.revokeEpoch
    modelCallLimit := min (intOr limits.maxModelCalls Defaults.maxTaskModelCalls)
      task.modelCallLimit
    maxTurns := min (intOr limits.maxTurns Defaults.maxRunModelTurns) Defaults.maxRunModelTurns
    wallTimeoutSeconds := min (intOr limits.wallTimeoutSeconds Defaults.runWallTimeoutSeconds)
      Defaults.runWallTimeoutSeconds
    objective
    workType
    goalLabel := orElse (some workType) objective
    contextPolicy := orElse (specRow.map (·.content.contextPolicy)) "FRESH"
    inputRefs := ((specRow.map (·.content.inputRefs)).getD []).filter (· ≠ "")
    expectedOutputs :=
      (if outputs.isEmpty then contract.expectedOutputs.getD [] else outputs).filter (· ≠ "")
    acceptanceCriteria :=
      if criteria.isEmpty then contract.acceptanceCriteria.getD [] else criteria
    unknownCeilingTools := unknownTools
    resourceLimits := limits
    planner := none }

/-! ## EXECUTE runs -/

/-- A workspace that may not get another writer now. -/
def workspaceBusy (db : DB) (ws : WorkspaceRow) : Bool :=
  ws.state == .quarantined || (ws.writerAlive && (truthy ws.ownerRunId).isSome)
    || ((truthy ws.ownerRunId).bind db.agentRuns.find?).any (·.status.isActive)

/-- The workspace of a node, or else the first one of its unit. -/
def nodeWorkspace (db : DB) (node : RawNode) : Option (String × WorkspaceRow) :=
  match db.workspaces.find? node.workspace with
  | some ws => some (node.workspace, ws)
  | none => (db.workspaces.select fun _ w ↦ w.workUnitId == node.workUnitId).head?

def createdRun (env : Env) (taskId : String) (task : TaskRow) (r : RunIdentity)
    (attempt : Nat) : AgentRunRow where
  taskId := taskId
  assignmentKind := .execute
  plannerSessionId := none
  workUnitId := some r.workUnitId
  workUnitSpecVersion := some r.specVersion
  attemptNo := attempt
  agentInstanceId := "local:" ++ r.runId
  profileId := "fake"
  profileVersion := r.profileVersion
  contractVersion := task.contractVersion.getD 0
  planVersion := task.planVersion
  contextManifestId := r.manifest.contextManifestId
  workspaceId := r.workspaceId
  status := .created
  terminalReason := none
  fencingEpoch := r.fencing
  grantEpoch := task.revokeEpoch
  leaseExpiresAt := env.now + Defaults.leaseSeconds
  lastHeartbeatAt := none
  startedAt := none
  finishedAt := none
  resumedFromRunId := none
  resultRef := none
  result := none
  lateArrival := false
  sandboxContainerId := none
  sandboxExitUnconfirmed := false

def startPayload (taskId : String) (task : TaskRow) (spec : RunExecutionSpec) : StartPayload where
  runId := spec.runId
  taskId := taskId
  assignmentKind := .execute
  principalId := task.principalId
  agentInstanceId := spec.agentInstanceId
  grantEpoch := spec.grantEpoch
  fencingEpoch := spec.fencingEpoch
  revokeEpoch := task.revokeEpoch
  workUnitId := spec.workUnitId
  workspaceId := spec.workspaceId
  workspacePath := spec.workspacePath
  grantedTools := spec.grantedTools
  spec := some spec
  planner := none

/-- Creates the run of a work unit with all that belongs to it. -/
def createExecuteRun (env : Env) (auth : AuthContext) (taskId : String) (task : TaskRow)
    (r : RunIdentity) (attempt : Nat) : Core Unit := do
  let db ← get
  add Refs.contextManifests r.manifest.contextManifestId
    { taskId
      runId := r.runId
      contractVersion := task.contractVersion.getD 0
      planVersion := task.planVersion
      content := r.manifest
      createdAt := env.now }
  add Refs.agentRuns r.runId (createdRun env taskId task r attempt)
  let spec := buildRunExecutionSpec env db taskId task r
  add Refs.runInputs r.runId
    { taskId
      workspaceId := r.workspaceId
      workspacePath := spec.workspacePath
      spec
      createdAt := env.now }
  add Refs.activeExecuteRunMarkers r.workUnitId ⟨r.runId⟩
  -- the loop has found the unit PENDING
  Refs.workUnitExecutions.update r.workUnitId fun u ↦
    { u with
      status := transitionWorkUnit .pending .runStarted runStarted_known
      activeRunId := some r.runId
      attemptCount := attempt
      specVersion := r.specVersion }
  Tx.withSome r.workspaceId fun wsId ↦
    Refs.workspaces.update wsId fun ws ↦
      { ws with
        state := .locked
        ownerRunId := some r.runId
        fencingEpoch := r.fencing
        writerAlive := true }
  enqueue env taskId (.agentStart (startPayload taskId task spec)) task.revokeEpoch
  appendEvent env taskId "run.created" auth.actorId
    [("run_id", .text r.runId), ("work_unit_id", .text r.workUnitId)]

/-- A unit whose mandatory context does not fit is blocked instead of run with less. -/
def blockContextOverflow (env : Env) (auth : AuthContext) (taskId wuId : String)
    (manifest : ContextManifest) : Core Unit := do
  Refs.workUnitExecutions.update wuId fun u ↦
    { u with status := .blocked, blockedReason := some .contextOverflow }
  appendEvent env taskId "work_unit.blocked" auth.actorId
    [("work_unit_id", .text wuId), ("reason", .text "context_overflow"),
      ("mandatory_bytes", ofNat manifest.mandatoryBytes),
      ("context_budget", .int manifest.maxMaterializedBytes)]

/-- Tries to dispatch a pending unit whose retry time, dependencies, workspace and marker allow
it; the result are the runs created so far. -/
def dispatchUnit (env : Env) (auth : AuthContext) (taskId : String) (profileVersion : Nat)
    (node : RawNode) (wu : WorkUnitExecutionRow) (workspace : Option (String × WorkspaceRow))
    (created : List String) : Core (List String) := do
  let task ← getTask taskId
  let wuId := node.workUnitId
  let runId ← newId env "run"
  let attempt := wu.attemptCount + 1
  if Defaults.maxWorkUnitAttempts < attempt then do
    Refs.workUnitExecutions.update wuId fun u ↦
      { u with status := .blocked, blockedReason := some .attemptsExhausted }
    return created
  else do
    let manifestId ← newId env "ctx"
    let db ← get
    let manifest := buildContextManifest env db taskId task runId manifestId wuId node.version
      profileVersion (workspace.map Prod.fst) (contractAndLimits db taskId task).2
    if manifest.maxMaterializedBytes < manifest.mandatoryBytes then do
      blockContextOverflow env auth taskId wuId manifest
      return created
    else do
      createExecuteRun env auth taskId task
        { runId
          workUnitId := wuId
          specVersion := node.version
          manifest
          workspaceId := workspace.map Prod.fst
          fencing := (workspace.map fun w ↦ w.2.fencingEpoch + 1).getD 1
          profileVersion }
        attempt
      return created ++ [runId]

/-- The marker of a unit belongs to a run that still holds it. -/
def markerHeld (db : DB) (wuId : String) : Bool :=
  ((db.activeExecuteRunMarkers.find? wuId).bind fun m ↦ db.agentRuns.find? m.runId).any
    (·.status.isActive)

/-- One node of the plan in the dispatch loop. -/
def dispatchNode (env : Env) (auth : AuthContext) (taskId : String) (profileVersion : Nat)
    (edges : List RawEdge) (globalActive taskActive : Nat) (created : List String)
    (node : RawNode) : Core (List String) := do
  let db ← get
  match db.workUnitExecutions.find? node.workUnitId with
  | none => return created
  | some wu =>
    if Defaults.globalRunConcurrency ≤ globalActive + created.length
        ∨ Defaults.perTaskRunConcurrency ≤ taskActive + created.length
        ∨ wu.status ≠ .pending ∨ wu.taskId ≠ taskId then
      return created
    else do
      Tx.when (wu.specVersion ≠ node.version) do
        Refs.workUnitExecutions.update node.workUnitId fun u ↦
          { u with specVersion := node.version }
      let workspace := nodeWorkspace db node
      if wu.nextRetryAt.any (env.now < ·) ∨ depsSatisfied db node.workUnitId edges = false
          ∨ workspace.any (fun w ↦ workspaceBusy db w.2) ∨ markerHeld db node.workUnitId then
        return created
      else do
        -- a marker that is left over from a run that ended does not block the unit
        Tx.when ((db.activeExecuteRunMarkers.find? node.workUnitId).isSome = true) do
          Refs.activeExecuteRunMarkers.delete node.workUnitId
        dispatchUnit env auth taskId profileVersion node wu workspace created

def openResourceGate (env : Env) (taskId : String) : Core Unit := do
  let task ← getTask taskId
  let decisionId ← newId env "dec"
  add Refs.decisions decisionId
    (pendingDecision env taskId .resourceLimit "budget" 1 (.limit task.modelCallLimit)
      Defaults.decisionTtl)
  openGate env taskId decisionId .resourceLimit
  setTaskState env taskId .blockingGateOpened (some .resourceLimit)

/-- What `guardDispatch` sees of a task. -/
def dispatchView (db : DB) (taskId : String) (task : TaskRow) (hasContract : Bool) :
    DispatchView where
  taskState := task.state
  hasActiveContract := hasContract
  hasBlockingGate := hasBlockingGate db taskId
  cancelIntent := task.cancelIntent
  pauseIntent := task.pauseIntent

/-- A version, the first if none is given. -/
def versionOrFirst (v : Option Nat) : Nat := (truthyNat v).getD 1

/-- Creates runs for the units of the ACTIVE plan that are ready. -/
def dispatchPlanNodes (env : Env) (auth : AuthContext) (p : Payload) (taskId : String) :
    Core CommandResult := do
  let db ← get
  match db.activePlanMarkers.find? taskId with
  | none => return .failure "no_active_plan" "no ACTIVE plan"
  | some marker =>
    let plan ← Tx.require (db.plans.find? (taskId, marker.planVersion)) .noResult
    let created ← Tx.fold
      (dispatchNode env auth taskId (versionOrFirst p.profileVersion) plan.edges
        (countActiveRuns db) (countTaskActiveRuns db taskId)) [] plan.nodes
    return .success [("task_id", .text taskId), ("created_runs", .names created)]

def dispatchReadyRuns (env : Env) (auth : AuthContext) (p : Payload) : Core CommandResult := do
  let taskId ← key "task_id" p.taskId
  let task ← getTask taskId
  assertTaskPrincipal auth task
  let contract ← activeContract taskId
  let db ← get
  match guardDispatch (dispatchView db taskId task contract.isSome) with
  | some e => return .failure e.code e.message
  | none =>
    if task.modelCallLimit ≤ task.modelCallsUsed then do
      openResourceGate env taskId
      return .failure "resource_limit" "model call budget exhausted"
    else dispatchPlanNodes env auth p taskId

end HibikiCore
