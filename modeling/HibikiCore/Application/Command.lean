import HibikiCore.Application.Decisions
import HibikiCore.Application.Planner
import HibikiCore.Application.Results
import HibikiCore.Application.Control
import HibikiCore.Application.Effects

/-!
# Commands

The routing of a command: which task it is about, whether a caller that acts for a run may make it,
whether it was answered before, and which handler answers it.

A command that was answered is recorded twice: in the inbox under its actor and message, and, if
it succeeded, under its principal, task, operation and idempotency key. The first record is found
by a repeated message, the second by a repeated request under a new message.
-/

namespace HibikiCore

/-- A command as a caller makes it. -/
structure Request where
  operation : Operation
  auth : AuthContext
  payload : Payload
  messageId : Option String := none
  idempotencyKey : Option String := none
  deriving DecidableEq, Repr

/-! ## The task of a command -/

/-- The keys of a payload or of recorded data that name the target of a command. -/
structure Target where
  taskId : Option String
  decisionId : Option String
  runId : Option String
  workspaceId : Option String
  effectId : Option String
  deriving DecidableEq, Repr

def Payload.target (p : Payload) : Target where
  taskId := p.taskId
  decisionId := p.decisionId
  runId := p.runId
  workspaceId := p.workspaceId
  effectId := p.effectId

def Data.target (d : Data) : Target where
  taskId := d.textAt "task_id"
  decisionId := d.textAt "decision_id"
  runId := d.textAt "run_id"
  workspaceId := d.textAt "workspace_id"
  effectId := d.textAt "effect_id"

/-- The tasks of the rows a target names, in the order they are looked at. -/
def Target.owners (t : Target) (db : DB) : List String :=
  [ (truthy t.decisionId).bind fun id ↦ (db.decisions.find? id).map DecisionRow.taskId,
    (truthy t.runId).bind fun id ↦ (db.agentRuns.find? id).map AgentRunRow.taskId,
    (truthy t.workspaceId).bind fun id ↦ (db.workspaces.find? id).map WorkspaceRow.taskId,
    (truthy t.effectId).bind fun id ↦ (db.sideEffects.find? id).map SideEffectRow.taskId
  ].filterMap id

/-- One row's task next to the task so far. -/
def agreeOnTask (supplied owner : String) : Core String := do
  Tx.check (supplied = "" ∨ supplied = owner) (.authorization "task mismatch")
  return owner

/-- The one task a command is about, or the empty name. -/
def commandTaskId (operation : Operation) (t : Target) : Core String := do
  if operation = .createTask then return ""
  else do
    let db ← get
    Tx.fold agreeOnTask (t.taskId.getD "") (t.owners db)

/-! ## Commands of runs -/

/-- The operations that a run makes about itself. -/
def runOperations : List Operation :=
  [.submitResult, .heartbeat, .setWriterAlive, .confirmRunExit, .registerSandboxIdentity]

/-- The run on whose behalf a command of a run is made. -/
def commandRunId (operation : Operation) (p : Payload) : Core (Option String) := do
  if operation = .setWriterAlive then do
    let wsId ← key "workspace_id" p.workspaceId
    let db ← get
    let ws ← Tx.require (db.workspaces.find? wsId) (.notFound "not_found" "workspace not found")
    let runId ← Tx.require (truthy p.runId <|> truthy ws.ownerRunId)
      (.authorization "workspace owner mismatch")
    Tx.check (ws.ownerRunId = some runId) (.authorization "workspace owner mismatch")
    return some runId
  else return truthy p.runId

def authorizeRunCommand (operation : Operation) (auth : AuthContext) (p : Payload) : Core Unit :=
  Tx.when (operation ∈ runOperations) do
    let runId ← commandRunId operation p
    let runId ← Tx.require runId (.notFound "run_not_found" "run not found")
    let run ← getRun runId
    if operation = .confirmRunExit ∧ auth.isHuman = true then do
      let task ← getTask run.taskId
      Tx.check (auth.principalId = task.principalId) (.authorization "run principal mismatch")
    else assertRunWriteBinding auth runId run p.taskId p.runId p.fencingEpoch true

/-! ## Inbox and idempotency -/

/-- The answer to a message that was answered before. -/
def checkInbox (auth : AuthContext) (messageId : String) (ph : Fingerprint) :
    Core (Option CommandResult) := do
  let db ← get
  match db.inbox.find? (auth.actorId, messageId) with
  | none => return none
  | some row => do
    Tx.check (row.payloadHash = ph)
      (.idempotencyConflict "inbox_conflict" "same message_id with different payload")
    return some { row.result with replayed := true }

/-- Rows of the inbox with the same principal, task, operation and message. -/
def inboxTaken (db : DB) (auth : AuthContext) (taskId : String) (operation : Operation)
    (messageId : String) : Bool :=
  !(db.inbox.select fun k r ↦ k.2 == messageId && r.principalId == auth.principalId
    && r.taskId == some taskId && r.operationType == operation).isEmpty

def storeInbox (env : Env) (auth : AuthContext) (taskId : String) (operation : Operation)
    (messageId : String) (ph : Fingerprint) (result : CommandResult) : Core Unit := do
  let db ← get
  Tx.when (db.inbox.find? (auth.actorId, messageId) = none) do
    Tx.check (inboxTaken db auth taskId operation messageId = false ∨ taskId = "")
      (.integrity "inbox_messages")
    add Refs.inbox (auth.actorId, messageId)
      { principalId := auth.principalId
        taskId := truthy (some taskId)
        operationType := operation
        payloadHash := ph
        result := { result with replayed := false }
        createdAt := env.now }

/-- A record that has no task yet is adopted by the task its data names. -/
def adoptLegacy (auth : AuthContext) (taskId : String) (operation : Operation)
    (idempotencyKey : String) : Core (Option IdempotencyRow) := do
  let db ← get
  match db.idempotencyKeys.find? (auth.principalId, "", operation, idempotencyKey) with
  | none => return none
  | some row => do
    let owner ← commandTaskId operation row.result.target
    if owner = taskId then do
      Refs.idempotencyKeys.delete (auth.principalId, "", operation, idempotencyKey)
      add Refs.idempotencyKeys (auth.principalId, taskId, operation, idempotencyKey) row
      return some row
    else return none

/-- The record of a request, if there is one. -/
def idempotencyRecord (auth : AuthContext) (taskId : String) (operation : Operation)
    (idempotencyKey : String) : Core (Option IdempotencyRow) := do
  let db ← get
  match db.idempotencyKeys.find? (auth.principalId, taskId, operation, idempotencyKey) with
  | some row => return some row
  | none =>
    if taskId ≠ "" ∧ operation ≠ .createTask then
      adoptLegacy auth taskId operation idempotencyKey
    else return none

/-- The answer to a request that succeeded before. -/
def checkIdempotency (auth : AuthContext) (taskId : String) (operation : Operation)
    (idempotencyKey : String) (ph : Fingerprint) : Core (Option CommandResult) := do
  let record ← idempotencyRecord auth taskId operation idempotencyKey
  match record with
  | none => return none
  | some row => do
    Tx.check (row.payloadHash = ph)
      (.idempotencyConflict "idempotency_conflict" "same idempotency key with different payload")
    return some (.replay row.result)

def storeIdempotency (env : Env) (auth : AuthContext) (taskId : String) (operation : Operation)
    (idempotencyKey : String) (ph : Fingerprint) (result : CommandResult) : Core Unit :=
  Tx.when (result.ok = true) do
    add Refs.idempotencyKeys (auth.principalId, taskId, operation, idempotencyKey)
      { payloadHash := ph, result := result.data, createdAt := env.now }

/-! ## Handlers -/

/-- The handler of an operation. -/
def handler (env : Env) (auth : AuthContext) (p : Payload) : Operation → Core CommandResult
  | .createTask => createTask env auth p
  | .submitContract => submitContract env auth p
  | .approveContract => approveContract env auth p
  | .resolveDecision => resolveDecisionCommand env auth p
  | .activateMinimalPlan => activateMinimalPlan env auth p
  | .activatePlan => activatePlanCommand env auth p
  | .dispatchReadyRuns => dispatchReadyRuns env auth p
  | .submitResult => submitResult env auth p
  | .pauseTask => pauseTask env auth p
  | .resumeTask => resumeTask env auth p
  | .cancelTask => cancelTask env auth p
  | .runtimeQuiescent => runtimeQuiescent env auth p
  | .cancellationSettled => cancellationSettled env auth p
  | .acceptResult => acceptResult env auth p
  | .prepareAcceptance => prepareAcceptance env auth p
  | .proposeSideEffect => proposeSideEffect env auth p
  | .approveSideEffect => approveSideEffect env auth p
  | .dispatchSideEffect => dispatchSideEffect env auth p
  | .reconcileSideEffect => reconcileSideEffect env auth p
  | .confirmRunExit => confirmRunExit env auth p
  | .openBlockingGate => openBlockingGate env auth p
  | .recordModelUsage => recordModelUsage env auth p
  | .setWriterAlive => setWriterAlive env auth p
  | .registerSandboxIdentity => registerSandboxIdentity env auth p
  | .heartbeat => heartbeat env auth p
  | .publishArtifact => publishArtifact env auth p
  | .contextAppend => contextAppend env auth p
  | .seedProfile => seedProfile env auth p
  | .replacePlannerGeneration => replacePlannerGeneration env auth p
  | .submitPlanProposal => submitPlanProposal env auth p
  | .applyContractDelta => applyContractDelta env auth p
  | .dispatchPlannerRun => dispatchPlannerRun env auth p
  | .advancePlannerCheckpoint => advancePlannerCheckpoint env auth p
  | .postTaskMessage => postTaskMessage env auth p
  | .requestSpawn => requestSpawn env auth p
  | .closePlannerSession => closePlannerSession env auth p
  | .requestRepairPlan => requestRepairPlan env auth p
  | .unknown name => throw (.precondition "unknown_operation" ("unknown operation " ++ name))

/-! ## Execution -/

/-- The task under which a fresh answer is recorded. -/
def storeTaskId (operation : Operation) (taskId : String) (result : CommandResult) : String :=
  if operation = .createTask then ""
  else if taskId ≠ "" then taskId else (result.data.textAt "task_id").getD ""

/-- Answers a request that was not answered before, and records the answer. -/
def answer (env : Env) (r : Request) (taskId messageId idempotencyKey : String) :
    Core CommandResult := do
  let result ← handler env r.auth r.payload r.operation
  storeIdempotency env r.auth (storeTaskId r.operation taskId result) r.operation idempotencyKey
    (payloadHash r.operation r.payload) result
  storeInbox env r.auth (storeTaskId r.operation taskId result) r.operation messageId
    (payloadHash r.operation r.payload) result
  return result

/-- Answers a message that was not answered before. -/
def answerMessage (env : Env) (r : Request) (taskId messageId idempotencyKey : String) :
    Core CommandResult := do
  let replay ← checkIdempotency r.auth (if r.operation = .createTask then "" else taskId)
    r.operation idempotencyKey (payloadHash r.operation r.payload)
  match replay with
  | some result => do
    storeInbox env r.auth taskId r.operation messageId (payloadHash r.operation r.payload) result
    return result
  | none => answer env r taskId messageId idempotencyKey

def executeInTx (env : Env) (r : Request) (messageId idempotencyKey : String) :
    Core CommandResult := do
  let taskId ← commandTaskId r.operation r.payload.target
  authorizeRunCommand r.operation r.auth r.payload
  let hit ← checkInbox r.auth messageId (payloadHash r.operation r.payload)
  match hit with
  | some result => return result
  | none => answerMessage env r taskId messageId idempotencyKey

/-- The message a request comes with, or a new one. -/
def requestMessage (env : Env) (r : Request) : Core String :=
  match truthy r.messageId with
  | some messageId => return messageId
  | none => newId env "msg"

/-- A command: the guard of its operation, and its transaction. -/
def execute (env : Env) (r : Request) : Core CommandResult := do
  Tx.withSome (guardOperation r.auth r.operation) fun e ↦ throw e
  let messageId ← requestMessage env r
  executeInTx env r messageId ((truthy r.idempotencyKey).getD messageId)

end HibikiCore
