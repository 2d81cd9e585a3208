import HibikiCore.Application.Acceptance
import HibikiCore.Domain.Plan

/-!
# Plans

Activating a plan: the graph is validated, the previous plan superseded, and the work units and
workspaces of the task brought in line with the nodes. Nodes that are kept keep their units; units
of removed nodes are cancelled and their runs stopped.
-/

namespace HibikiCore

open Value (ofNat)

/-- What an activation is asked with. -/
structure PlanRequest where
  taskId : String
  nodes : List RawNode
  edges : List RawEdge
  expectedContractVersion : Option Nat
  expectedPlanVersion : Option Int
  objective : Option String := none

/-! ## Refusals before anything is written -/

def checkNodeOwner (taskId : String) (node : RawNode) : Core Unit := do
  let db ← get
  Tx.check ((db.workUnitSpecs.select fun k s ↦ k.1 == node.workUnitId && s.taskId != taskId) = [])
    (.precondition "cross_task_work_unit"
      ("work unit " ++ node.workUnitId ++ " belongs to another task"))
  Tx.check ((db.workUnitExecutions.find? node.workUnitId).all (·.taskId = taskId))
    (.precondition "cross_task_work_unit"
      ("work unit execution " ++ node.workUnitId ++ " belongs to another task"))

def checkPlanCaps (taskId : String) (nodes : List RawNode) : Core Unit := do
  let db ← get
  Tx.check (nodes.length ≤ Defaults.maxWorkUnitsPerTask)
    (.precondition "plan_work_unit_cap" "plan exceeds max_work_units_per_task (30)")
  Tx.check ((db.plans.select fun k _ ↦ k.1 == taskId).length < Defaults.maxPlanRevisions)
    (.precondition "plan_revision_cap" "plan exceeds max_plan_revisions (10)")
  Tx.each nodes (checkNodeOwner taskId)

/-! ## Nodes -/

/-- The definition a node gives to its work unit. -/
def nodeSpec (node : RawNode) (planObjective : Option String) (title : String)
    (contract : ContractContent) : WorkUnitSpec where
  objective := orElse node.asRead.objective (orElse planObjective title)
  workType := orElse node.workType "EXECUTE"
  contextPolicy := orElse node.asRead.contextPolicy "FRESH"
  inputRefs := node.asRead.inputRefs
  expectedOutputs := node.asRead.expectedOutputs
  acceptanceCriteria :=
    if node.asRead.acceptanceCriteria.isEmpty then contract.acceptanceCriteria.getD []
    else node.asRead.acceptanceCriteria
  requiredCapabilities := node.asRead.requiredCapabilities
  requestedPermissions := node.asRead.requestedPermissions
  workspacePolicy := orElse node.asRead.workspacePolicy "dedicated"

/-- Stores the definition of a node, unless its version is stored already. -/
def installSpec (env : Env) (taskId : String) (node : RawNode) (spec : WorkUnitSpec) :
    Core Unit := do
  let db ← get
  let specKey := (node.workUnitId, node.version)
  Tx.when (db.workUnitSpecs.find? specKey = none) do
    add Refs.workUnitSpecs specKey
      { taskId
        objective := spec.objective
        workType := spec.workType
        contentHash := .spec spec
        content := spec
        createdAt := env.now }
  Tx.check ((db.workUnitSpecs.find? specKey).all (·.taskId = taskId))
    (.precondition "cross_task_work_unit" "work unit spec task mismatch")

def specImmutable (message : String) : Error := .precondition "work_unit_spec_immutable" message

/-- A unit that exists keeps its definition; only one that never started may be bound anew. -/
def rebindUnit (node : RawNode) (wu : WorkUnitExecutionRow) : Core Unit :=
  if wu.status.isTerminal then
    Tx.check (wu.specVersion = node.version)
      (specImmutable ("work unit " ++ node.workUnitId ++ " is terminal at spec v"
        ++ toString wu.specVersion ++ "; definition change needs a new work_unit_id"))
  else
    Tx.when (wu.specVersion ≠ node.version) do
      Tx.check (wu.status = .pending ∧ truthy wu.activeRunId = none ∧ wu.attemptCount = 0)
        (specImmutable ("work unit " ++ node.workUnitId ++ " already bound to spec v"
          ++ toString wu.specVersion
          ++ " with progress; definition/input change requires a new work_unit_id"))
      Refs.workUnitExecutions.update node.workUnitId fun u ↦ { u with specVersion := node.version }

def freshUnit (taskId : String) (specVersion : Nat) : WorkUnitExecutionRow where
  taskId := taskId
  specVersion := specVersion
  status := .pending
  activeRunId := none
  attemptCount := 0
  nextRetryAt := none
  selectedResultRef := none
  blockedReason := none
  selectedVerdict := none
  verifiedArtifactHash := none

/-- The unit of a node, new or kept. -/
def installUnit (taskId : String) (node : RawNode) : Core Unit := do
  let db ← get
  match db.workUnitExecutions.find? node.workUnitId with
  | none => add Refs.workUnitExecutions node.workUnitId (freshUnit taskId node.version)
  | some wu => rebindUnit node wu

/-- The workspace of a node, new or kept; nodes may name the same one. -/
def installWorkspace (taskId : String) (node : RawNode) : Core Unit := do
  let db ← get
  match db.workspaces.find? node.asRead.workspace with
  | none =>
    add Refs.workspaces node.asRead.workspace
      { taskId
        workUnitId := node.workUnitId
        state := .ready
        ownerRunId := none
        fencingEpoch := 0
        writerAlive := false }
  | some ws =>
    Tx.check (ws.taskId = taskId)
      (.precondition "cross_task_workspace" "workspace belongs to another task")

def installNode (env : Env) (taskId : String) (planObjective : Option String) (title : String)
    (contract : ContractContent) (node : RawNode) : Core Unit := do
  installSpec env taskId node (nodeSpec node planObjective title contract)
  installUnit taskId node
  installWorkspace taskId node

/-! ## Removed nodes -/

def cancelRemovedUnit (wuId : String) : Core Unit :=
  Refs.workUnitExecutions.update wuId fun u ↦
    { u with status := .cancelled, blockedReason := some .removedFromPlan, activeRunId := none }

/-- The unsent start of a run that is not needed any more is dead, and the run cancelled. -/
def cancelUnsentStart (env : Env) (taskId runId : String) : Core Unit := do
  let db ← get
  let starts := db.outbox.select fun _ ob ↦
    ob.taskId == taskId && ob.status == .pending && ob.command.startRun == some runId
  Tx.each starts fun ob ↦ do
    Refs.outbox.update ob.1 fun o ↦ { o with status := .dead }
    Refs.agentRuns.update runId fun r ↦
      { r with
        status := .cancelled
        finishedAt := some env.now
        terminalReason := some .removedFromPlan }
    clearRunOccupancy runId true

/-- What is live of a removed unit is stopped. -/
def stopRemovedUnit (env : Env) (flushed : DB) (taskId : String) (wu : WorkUnitExecutionRow) :
    Core Unit := do
  let db ← get
  Tx.withSome (truthy wu.activeRunId) fun runId ↦
    Tx.withSome (db.agentRuns.find? runId) fun run ↦
      Tx.when (run.status.isActive = true) do
        enqueueStopsForRuns env flushed taskId [runId] "removed_from_plan"
        Tx.when (run.status = .created) (cancelUnsentStart env taskId runId)

/-- A unit that is no longer in the plan is cancelled, unless it has ended. -/
def removeUnit (env : Env) (flushed : DB) (taskId wuId : String) : Core Unit := do
  let db ← get
  Tx.withSome (db.workUnitExecutions.find? wuId) fun wu ↦
    Tx.when (wu.status.isTerminal = false) do
      if wu.status = .pending then cancelRemovedUnit wuId
      else do
        stopRemovedUnit env flushed taskId wu
        cancelRemovedUnit wuId
        Refs.activeExecuteRunMarkers.delete wuId

/-- The units of the task that the nodes leave out. -/
def orphanUnits (db : DB) (taskId : String) (nodes : List RawNode) : List String :=
  (db.workUnitExecutions.select fun wuId u ↦
    u.taskId == taskId && !(nodes.map RawNode.workUnitId).contains wuId).map Prod.fst

/-! ## Activation -/

/-- The new plan takes the place of the ACTIVE one. -/
def installPlan (env : Env) (taskId : String) (task : TaskRow) (contractVersion : Nat)
    (nodes : List RawNode) (edges : List RawEdge) : Core Nat := do
  let db ← get
  let version := task.planVersion.getD 0 + 1
  Tx.withSome (db.activePlanMarkers.find? taskId) fun marker ↦ do
    Refs.plans.update (taskId, marker.planVersion) fun p ↦ { p with status := .superseded }
    Refs.activePlanMarkers.delete taskId
  add Refs.plans (taskId, version)
    { basePlanVersion := task.planVersion
      contractVersion
      contentHash := .plan nodes edges
      nodes
      edges
      status := .active
      createdAt := env.now }
  add Refs.activePlanMarkers taskId ⟨version⟩
  Refs.tasks.update taskId fun t ↦ { t with planVersion := some version }
  return version

/-- Brings units and workspaces in line with the nodes, and removes what they leave out. -/
def alignUnits (env : Env) (flushed : DB) (taskId : String) (objective : Option String)
    (title : String) (contract : ContractContent) (nodes : List RawNode) : Core Unit := do
  Tx.each nodes (installNode env taskId objective title contract)
  let db ← get
  Tx.each (orphanUnits db taskId nodes) (removeUnit env flushed taskId)

def activatePlan (env : Env) (auth : AuthContext) (r : PlanRequest) : Core CommandResult := do
  let flushed ← get
  let taskId := r.taskId
  let task ← getTask taskId
  assertTaskPrincipal auth task
  let contract ← activeContract taskId
  let active ← Tx.require contract noActiveContract
  Tx.check (r.expectedContractVersion.all (· = active.1))
    (.conflict "version_conflict" "contract version conflict")
  -- without a plan there is nothing to compare with
  Tx.check (r.expectedPlanVersion.all fun e ↦ task.planVersion.all fun v ↦ e = (v : Int))
    (.conflict "version_conflict" "plan version conflict")
  Tx.lift (validateDag env.frames (r.nodes.map RawNode.toPlanNode)
    (r.edges.map RawEdge.toPlanEdge))
  checkPlanCaps taskId r.nodes
  let version ← installPlan env taskId task active.1 r.nodes r.edges
  supersedePendingAcceptance env taskId
  alignUnits env flushed taskId r.objective task.title active.2.content r.nodes
  Tx.when (task.state = .planning ∨ task.state = .verifying) do
    setTaskState env taskId .planActivated none
  appendEvent env taskId "plan.activated" auth.actorId [("plan_version", ofNat version)]
  let task ← getTask taskId
  return .success
    [("task_id", .text taskId), ("plan_version", ofNat version),
      ("nodes", .names (r.nodes.map RawNode.workUnitId)), ("state", .text task.state.text)]

def activatePlanCommand (env : Env) (auth : AuthContext) (p : Payload) : Core CommandResult := do
  let taskId ← key "task_id" p.taskId
  let nodes ← key "nodes" p.nodes
  activatePlan env auth
    { taskId
      nodes
      edges := p.edges
      expectedContractVersion := p.expectedContractVersion
      expectedPlanVersion := p.expectedPlanVersion
      objective := p.objective }

def activateMinimalPlan (env : Env) (auth : AuthContext) (p : Payload) : Core CommandResult := do
  let taskId ← key "task_id" p.taskId
  let task ← getTask taskId
  assertTaskPrincipal auth task
  let contract ← activeContract taskId
  let active ← Tx.require contract noActiveContract
  let drawn ← newId env "wu"
  activatePlan env auth
    { taskId
      nodes := [{ workUnitId := (truthy p.workUnitId).getD drawn
                  specVersion := some 1
                  workType := some "EXECUTE" }]
      edges := []
      expectedContractVersion := some active.1
      expectedPlanVersion := none }

end HibikiCore
