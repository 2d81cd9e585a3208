import HibikiCore.Store.Footprint
import HibikiCore.Domain.Types
import HibikiCore.Domain.Errors

/-!
# The rows

One structure for each table. The primary key is not a column here: it stands in the table, as do
the unique pairs that take the place of the surrogate keys (a task and a version, a task and a
sequence number, a principal with task, operation and key).

After each row stands what of it is immutable: the columns that the service writes once, when it
inserts the row.
-/

namespace HibikiCore

structure TaskRow where
  principalId : String
  intentRef : Json
  title : String
  state : TaskState
  stateReason : Option WaitingReason
  stateRevision : Nat
  contractVersion : Option Nat
  planVersion : Option Nat
  activePlannerSessionId : Option String
  finalResultRefs : Option String
  cancelIntent : Bool
  pauseIntent : Bool
  revokeEpoch : Nat
  modelCallsUsed : Int
  modelCallLimit : Int
  createIdempotencyKey : Option String
  createdAt : Time
  updatedAt : Time
  deriving DecidableEq, Repr

instance : Columns TaskRow where
  Fixed := String × Json × String × Option String × Time
  fixed r := (r.principalId, r.intentRef, r.title, r.createIdempotencyKey, r.createdAt)

/-- Keyed by task and version. -/
structure ContractRow where
  supersedesVersion : Option Nat
  contentHash : Digest
  content : ContractContent
  status : ContractStatus
  approvedBy : Option String
  approvedAt : Option Time
  createdAt : Time
  deriving DecidableEq, Repr

instance : Columns ContractRow where
  Fixed := Option Nat × Digest × ContractContent × Time
  fixed r := (r.supersedesVersion, r.contentHash, r.content, r.createdAt)

/-- Keyed by task: at most one ACTIVE contract for each. -/
structure ActiveContractMarker where
  contractVersion : Nat
  deriving DecidableEq, Repr

instance : Columns ActiveContractMarker where
  Fixed := ActiveContractMarker
  fixed r := r

structure ExplanationRow where
  taskId : String
  contractVersion : Nat
  contentHash : Digest
  content : Explanation
  createdAt : Time
  deriving DecidableEq, Repr

instance : Columns ExplanationRow where
  Fixed := ExplanationRow
  fixed r := r

/-- What an approved contract delta was measured against. -/
structure DeltaEnvelope where
  delta : ContractContent
  baselineContractVersion : Nat
  baselineContractHash : Digest
  approvedMergedHash : Digest
  deriving DecidableEq, Repr

structure DecisionRow where
  taskId : String
  decisionKind : DecisionKind
  targetRef : String
  targetVersion : Nat
  targetHash : Digest
  contractVersion : Option Nat
  explanationRef : Option String
  explanationHash : Option Digest
  parametersHash : Option Digest
  resultSnapshotRef : Option String
  status : DecisionStatus
  choice : Option String
  decidedByActor : Option String
  decidedByPrincipal : Option String
  decidedAt : Option Time
  createdAt : Time
  expiresAt : Time
  gateLifecycle : GateLifecycle
  payload : Option DeltaEnvelope
  deriving DecidableEq, Repr

/-- What a decision is about, and until when it may be taken. -/
structure DecisionTerms where
  taskId : String
  decisionKind : DecisionKind
  targetRef : String
  targetVersion : Nat
  targetHash : Digest
  contractVersion : Option Nat
  resultSnapshotRef : Option String
  createdAt : Time
  expiresAt : Time
  payload : Option DeltaEnvelope
  deriving DecidableEq, Repr

instance : Columns DecisionRow where
  Fixed := DecisionTerms
  fixed r :=
    ⟨r.taskId, r.decisionKind, r.targetRef, r.targetVersion, r.targetHash, r.contractVersion,
      r.resultSnapshotRef, r.createdAt, r.expiresAt, r.payload⟩

structure GateRow where
  taskId : String
  decisionId : String
  reason : WaitingReason
  lifecycle : GateLifecycle
  createdAt : Time
  resolvedAt : Option Time
  deriving DecidableEq, Repr

instance : Columns GateRow where
  Fixed := String × String × WaitingReason × Time
  fixed r := (r.taskId, r.decisionId, r.reason, r.createdAt)

/-- A gate that is open, or approved and not applied yet, blocks its task. -/
def GateRow.isUnresolved (g : GateRow) : Bool :=
  g.lifecycle == .opened || g.lifecycle == .approvedPendingApply

/-- Keyed by task and version. -/
structure PlanRow where
  basePlanVersion : Option Nat
  contractVersion : Nat
  contentHash : Digest
  nodes : List RawNode
  edges : List RawEdge
  status : PlanStatus
  createdAt : Time
  deriving DecidableEq, Repr

instance : Columns PlanRow where
  Fixed := Option Nat × Nat × Digest × List RawNode × List RawEdge × Time
  fixed r := (r.basePlanVersion, r.contractVersion, r.contentHash, r.nodes, r.edges, r.createdAt)

/-- Keyed by task: at most one ACTIVE plan for each. -/
structure ActivePlanMarker where
  planVersion : Nat
  deriving DecidableEq, Repr

instance : Columns ActivePlanMarker where
  Fixed := ActivePlanMarker
  fixed r := r

/-- Keyed by work unit and version. -/
structure WorkUnitSpecRow where
  taskId : String
  objective : String
  workType : String
  contentHash : Digest
  content : WorkUnitSpec
  createdAt : Time
  deriving DecidableEq, Repr

instance : Columns WorkUnitSpecRow where
  Fixed := WorkUnitSpecRow
  fixed r := r

structure WorkUnitExecutionRow where
  taskId : String
  specVersion : Nat
  status : WorkUnitStatus
  activeRunId : Option String
  attemptCount : Nat
  nextRetryAt : Option Time
  selectedResultRef : Option String
  blockedReason : Option BlockedReason
  selectedVerdict : Option Verdict
  verifiedArtifactHash : Option String
  deriving DecidableEq, Repr

instance : Columns WorkUnitExecutionRow where
  Fixed := String
  fixed r := r.taskId

inductive PlannerSessionStatus
  | active | other (text : String)
  deriving DecidableEq, Repr

structure PlannerSessionRow where
  taskId : String
  generation : Nat
  activeRunId : Option String
  checkpointRef : Option String
  checkpointVersion : Nat
  lastConsumedMessageSeq : Nat
  status : PlannerSessionStatus
  deriving DecidableEq, Repr

instance : Columns PlannerSessionRow where
  Fixed := String
  fixed r := r.taskId

/-- Why a run ended. -/
inductive TerminalReason
  | paused | startRevoked | removedFromPlan | plannerGenerationBumped | processMissing
  | stop (reason : String)
  deriving DecidableEq, Repr

structure AgentRunRow where
  taskId : String
  assignmentKind : AssignmentKind
  plannerSessionId : Option String
  workUnitId : Option String
  workUnitSpecVersion : Option Nat
  attemptNo : Nat
  agentInstanceId : String
  profileId : String
  profileVersion : Nat
  contractVersion : Nat
  planVersion : Option Nat
  contextManifestId : String
  workspaceId : Option String
  status : AgentRunStatus
  terminalReason : Option TerminalReason
  fencingEpoch : Nat
  grantEpoch : Nat
  leaseExpiresAt : Time
  lastHeartbeatAt : Option Time
  startedAt : Option Time
  finishedAt : Option Time
  resumedFromRunId : Option String
  resultRef : Option String
  result : Option RunResult
  lateArrival : Bool
  sandboxContainerId : Option String
  sandboxExitUnconfirmed : Bool
  deriving DecidableEq, Repr

/-- The assignment of a run and the identity it is executed under. -/
structure RunAssignment where
  taskId : String
  assignmentKind : AssignmentKind
  plannerSessionId : Option String
  workUnitId : Option String
  workUnitSpecVersion : Option Nat
  attemptNo : Nat
  agentInstanceId : String
  contractVersion : Nat
  planVersion : Option Nat
  workspaceId : Option String
  fencingEpoch : Nat
  grantEpoch : Nat
  deriving DecidableEq, Repr

instance : Columns AgentRunRow where
  Fixed := RunAssignment
  fixed r :=
    ⟨r.taskId, r.assignmentKind, r.plannerSessionId, r.workUnitId, r.workUnitSpecVersion,
      r.attemptNo, r.agentInstanceId, r.contractVersion, r.planVersion, r.workspaceId,
      r.fencingEpoch, r.grantEpoch⟩

/-- Keyed by work unit: at most one non-terminal EXECUTE run for each. -/
structure ActiveExecuteRunMarker where
  runId : String
  deriving DecidableEq, Repr

instance : Columns ActiveExecuteRunMarker where
  Fixed := ActiveExecuteRunMarker
  fixed r := r

/-- Keyed by planner session: at most one non-terminal PLAN run for each. -/
structure ActivePlanRunMarker where
  runId : String
  deriving DecidableEq, Repr

instance : Columns ActivePlanRunMarker where
  Fixed := ActivePlanRunMarker
  fixed r := r

structure WorkspaceRow where
  taskId : String
  workUnitId : String
  state : WorkspaceState
  ownerRunId : Option String
  fencingEpoch : Nat
  writerAlive : Bool
  deriving DecidableEq, Repr

instance : Columns WorkspaceRow where
  Fixed := String × String
  fixed r := (r.taskId, r.workUnitId)

structure ContextManifestRow where
  taskId : String
  runId : String
  contractVersion : Nat
  planVersion : Option Nat
  content : ContextManifest
  createdAt : Time
  deriving DecidableEq, Repr

instance : Columns ContextManifestRow where
  Fixed := ContextManifestRow
  fixed r := r

/-- A receipt or a query answer of the external system. -/
inductive ReceiptStatus
  | succeeded | failed | unknown
  deriving DecidableEq, Repr

structure Receipt where
  status : ReceiptStatus
  providerOperationId : Option String := none
  error : Option String := none
  body : Json := ""
  deriving DecidableEq, Repr

structure SideEffectRow where
  taskId : String
  logicalActionKey : String
  originWorkUnitId : Option String
  requestRunId : Option String
  actionType : String
  targetRef : String
  parametersHash : Digest
  actionDigest : Digest
  parameters : Json
  contractVersion : Nat
  authorizationRef : Option String
  expiresAt : Option Time
  externalIdempotencyKey : String
  providerOperationId : Option String
  state : SideEffectState
  dispatchAttempts : Nat
  receipt : Option Receipt
  lastError : Option String
  supportsIdempotentQuery : Bool
  createdAt : Time
  deriving DecidableEq, Repr

/-- What an effect is: the action, where it comes from and the contract it was proposed under. -/
structure EffectTerms where
  taskId : String
  logicalActionKey : String
  originWorkUnitId : Option String
  requestRunId : Option String
  actionType : String
  targetRef : String
  parametersHash : Digest
  actionDigest : Digest
  parameters : Json
  contractVersion : Nat
  externalIdempotencyKey : String
  supportsIdempotentQuery : Bool
  deriving DecidableEq, Repr

instance : Columns SideEffectRow where
  Fixed := EffectTerms
  fixed r :=
    ⟨r.taskId, r.logicalActionKey, r.originWorkUnitId, r.requestRunId, r.actionType, r.targetRef,
      r.parametersHash, r.actionDigest, r.parameters, r.contractVersion, r.externalIdempotencyKey,
      r.supportsIdempotentQuery⟩

/-- Keyed by task and sequence number. -/
structure EventRow where
  eventType : String
  actorId : Option String
  payload : Data
  occurredAt : Time
  deriving DecidableEq, Repr

instance : Columns EventRow where
  Fixed := EventRow
  fixed r := r

/-- Keyed by actor and message. -/
structure InboxRow where
  principalId : String
  taskId : Option String
  operationType : Operation
  payloadHash : Fingerprint
  result : CommandResult
  createdAt : Time
  deriving DecidableEq, Repr

instance : Columns InboxRow where
  Fixed := InboxRow
  fixed r := r

/-- What an agent is started with. -/
structure StartPayload where
  runId : String
  taskId : String
  assignmentKind : AssignmentKind
  principalId : String
  agentInstanceId : String
  grantEpoch : Nat
  fencingEpoch : Nat
  revokeEpoch : Nat
  workUnitId : Option String
  workspaceId : Option String
  workspacePath : Option String
  grantedTools : List String
  spec : Option RunExecutionSpec
  planner : Option PlannerBinding
  deriving DecidableEq, Repr

/-- What an external effect is sent with. -/
structure DispatchPayload where
  effectId : String
  externalIdempotencyKey : String
  parameters : Json
  targetRef : String
  actionType : String
  supportsIdempotentQuery : Bool
  deriving DecidableEq, Repr

/-- The command of an outbox row with its payload. -/
inductive OutboxCommand
  | agentStart (payload : StartPayload)
  | agentStop (runId reason : String)
  | sideEffectDispatch (payload : DispatchPayload)
  deriving DecidableEq, Repr

namespace OutboxCommand

/-- The run an `agent.start` starts. -/
def startRun : OutboxCommand → Option String
  | .agentStart p => some p.runId
  | _ => none

/-- The run an `agent.stop` stops. -/
def stopRun : OutboxCommand → Option String
  | .agentStop runId _ => some runId
  | _ => none

/-- The effect a `side_effect.dispatch` sends. -/
def dispatchEffect : OutboxCommand → Option String
  | .sideEffectDispatch p => some p.effectId
  | _ => none

end OutboxCommand

structure OutboxRow where
  taskId : String
  command : OutboxCommand
  status : OutboxStatus
  revokeEpoch : Nat
  createdAt : Time
  leasedUntil : Option Time
  ackedAt : Option Time
  deriving DecidableEq, Repr

instance : Columns OutboxRow where
  Fixed := String × OutboxCommand × Time
  fixed r := (r.taskId, r.command, r.createdAt)

/-- A row that is waiting to be claimed, or claimed. -/
def OutboxRow.isLive (r : OutboxRow) : Bool := r.status == .pending || r.status == .inFlight

/-- Keyed by principal, task, operation and key. -/
structure IdempotencyRow where
  payloadHash : Fingerprint
  result : Data
  createdAt : Time
  deriving DecidableEq, Repr

instance : Columns IdempotencyRow where
  Fixed := IdempotencyRow
  fixed r := r

structure ResultSnapshotRow where
  taskId : String
  contractVersion : Nat
  planVersion : Option Nat
  contentHash : Digest
  content : SnapshotContent
  createdAt : Time
  deriving DecidableEq, Repr

instance : Columns ResultSnapshotRow where
  Fixed := ResultSnapshotRow
  fixed r := r

/-- Keyed by task and hash. -/
structure ArtifactRow where
  workUnitId : Option String
  runId : Option String
  resultRef : Option String
  artifactUri : Option String
  sizeBytes : Option Nat
  sourcePath : Option String
  createdAt : Time
  deriving DecidableEq, Repr

instance : Columns ArtifactRow where
  Fixed := Option String × Option String × Option String × Time
  fixed r := (r.workUnitId, r.runId, r.resultRef, r.createdAt)

structure AcceptanceEvidenceRow where
  taskId : String
  criterionId : String
  artifactHash : String
  workUnitId : Option String
  runId : String
  resultRef : Option String
  verdict : Verdict
  sequenceNo : Nat
  createdAt : Time
  deriving DecidableEq, Repr

instance : Columns AcceptanceEvidenceRow where
  Fixed := AcceptanceEvidenceRow
  fixed r := r

/-- Keyed by profile and version. -/
structure AgentProfileRow where
  content : Json
  createdAt : Time
  deriving DecidableEq, Repr

instance : Columns AgentProfileRow where
  Fixed := AgentProfileRow
  fixed r := r

/-- Keyed by run. -/
structure RunInputRow where
  taskId : String
  workspaceId : Option String
  workspacePath : Option String
  spec : RunExecutionSpec
  createdAt : Time
  deriving DecidableEq, Repr

instance : Columns RunInputRow where
  Fixed := RunInputRow
  fixed r := r

inductive ToolOutcome
  | ok | error | timeout | denied | other (text : String)
  deriving DecidableEq, Repr

structure ToolInvocationRow where
  taskId : String
  runId : String
  workUnitId : Option String
  sequenceNo : Int
  toolName : String
  allowed : Bool
  denyReason : Option String
  grantEpoch : Int
  fencingEpoch : Int
  outcome : Option ToolOutcome
  deriving DecidableEq, Repr

instance : Columns ToolInvocationRow where
  Fixed := String × String × Int × String
  fixed r := (r.taskId, r.runId, r.sequenceNo, r.toolName)

structure ContextAppendRow where
  taskId : String
  runId : String
  sequenceNo : Nat
  reason : String
  authorizedRef : String
  version : Option String
  contentHash : Option String
  grantRef : Option String
  materializedHash : Option String
  createdAt : Time
  deriving DecidableEq, Repr

instance : Columns ContextAppendRow where
  Fixed := ContextAppendRow
  fixed r := r

/-- The body of a message: a worker's report, or what an actor posted. -/
inductive MessageBody
  | result (runId : String) (workUnitId : Option String) (outcome : Outcome)
      (verdict : Option Verdict) (artifactRefs : List (Option String))
  | posted (body : Json)
  deriving DecidableEq, Repr

/-- Keyed by task and sequence number. -/
structure TaskMessageRow where
  senderRunId : Option String
  senderActor : Option String
  kind : String
  body : MessageBody
  createdAt : Time
  deriving DecidableEq, Repr

instance : Columns TaskMessageRow where
  Fixed := TaskMessageRow
  fixed r := r

end HibikiCore
