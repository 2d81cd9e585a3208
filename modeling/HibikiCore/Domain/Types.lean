import HibikiCore.Domain.Content

/-!
# Identities, requests and results

`AuthContext` is the identity the server fills in; nothing in a payload overrides it. `Payload` is
the union of the keys that the commands read, each of which may be absent, next to what else there
is. An `Operation` is one of the commands of the service, or a name that is none.
-/

namespace HibikiCore

/-- Server-filled identity of a caller. The `bound` fields are the runtime credential of a run. -/
structure AuthContext where
  principalId : String
  actorId : String
  actorType : ActorType
  scopes : List String := []
  boundTaskId : Option String := none
  boundRunId : Option String := none
  boundFencingEpoch : Option Nat := none
  boundGrantEpoch : Option Nat := none
  deriving DecidableEq, Repr

namespace AuthContext

def isHuman (auth : AuthContext) : Bool := auth.actorType == .human

def hasScope (auth : AuthContext) (scope : String) : Bool :=
  auth.scopes.contains scope || auth.isHuman

end AuthContext

inductive Operation
  | createTask | submitContract | approveContract | resolveDecision | activateMinimalPlan
  | activatePlan | dispatchReadyRuns | submitResult | pauseTask | resumeTask | cancelTask
  | runtimeQuiescent | cancellationSettled | acceptResult | prepareAcceptance | proposeSideEffect
  | approveSideEffect | dispatchSideEffect | reconcileSideEffect | confirmRunExit
  | openBlockingGate | recordModelUsage | setWriterAlive | registerSandboxIdentity | heartbeat
  | publishArtifact | contextAppend | seedProfile | replacePlannerGeneration | submitPlanProposal
  | applyContractDelta | dispatchPlannerRun | advancePlannerCheckpoint | postTaskMessage
  | requestSpawn | closePlannerSession | requestRepairPlan
  | unknown (name : String)
  deriving DecidableEq, Repr

def Operation.text : Operation → String
  | .createTask => "create_task"
  | .submitContract => "submit_contract"
  | .approveContract => "approve_contract"
  | .resolveDecision => "resolve_decision"
  | .activateMinimalPlan => "activate_minimal_plan"
  | .activatePlan => "activate_plan"
  | .dispatchReadyRuns => "dispatch_ready_runs"
  | .submitResult => "submit_result"
  | .pauseTask => "pause_task"
  | .resumeTask => "resume_task"
  | .cancelTask => "cancel_task"
  | .runtimeQuiescent => "runtime_quiescent"
  | .cancellationSettled => "cancellation_settled"
  | .acceptResult => "accept_result"
  | .prepareAcceptance => "prepare_acceptance"
  | .proposeSideEffect => "propose_side_effect"
  | .approveSideEffect => "approve_side_effect"
  | .dispatchSideEffect => "dispatch_side_effect"
  | .reconcileSideEffect => "reconcile_side_effect"
  | .confirmRunExit => "confirm_run_exit"
  | .openBlockingGate => "open_blocking_gate"
  | .recordModelUsage => "record_model_usage"
  | .setWriterAlive => "set_writer_alive"
  | .registerSandboxIdentity => "register_sandbox_identity"
  | .heartbeat => "heartbeat"
  | .publishArtifact => "publish_artifact"
  | .contextAppend => "context_append"
  | .seedProfile => "seed_profile"
  | .replacePlannerGeneration => "replace_planner_generation"
  | .submitPlanProposal => "submit_plan_proposal"
  | .applyContractDelta => "apply_contract_delta"
  | .dispatchPlannerRun => "dispatch_planner_run"
  | .advancePlannerCheckpoint => "advance_planner_checkpoint"
  | .postTaskMessage => "post_task_message"
  | .requestSpawn => "request_spawn"
  | .closePlannerSession => "close_planner_session"
  | .requestRepairPlan => "request_repair_plan"
  | .unknown name => name

/-- A JSON value that is a text, or another one. -/
inductive JsonValue
  | text (s : String)
  | other (json : Json)
  deriving DecidableEq, Repr

/-- A payload, client-supplied identity fields already dropped. -/
structure Payload where
  /-- A key named `operation`, which takes the place of the operation in the request's hash. -/
  operation : Option JsonValue := none
  /-- What no command looks at: other keys, and a null in the place of a missing value. -/
  rest : Json := ""
  taskId : Option String := none
  decisionId : Option String := none
  runId : Option String := none
  workspaceId : Option String := none
  effectId : Option String := none
  workUnitId : Option String := none
  title : Option String := none
  intent : Option Json := none
  createKey : Option String := none
  modelCallLimit : Option Int := none
  contract : Option ContractContent := none
  objective : Option String := none
  inScope : Option Json := none
  outOfScope : Option Json := none
  constraints : Option Json := none
  assumptions : Option Json := none
  deliverables : List Deliverable := []
  acceptanceCriteria : List Criterion := []
  allowedSideEffects : List String := []
  permissionCeiling : Option Ceiling := none
  resourceLimits : Option ResourceLimits := none
  humanGates : Option Json := none
  choice : Option String := none
  expectedTargetVersion : Option Nat := none
  expectedTargetHash : Option Digest := none
  expectedContractVersion : Option Nat := none
  expectedPlanVersion : Option Int := none
  nodes : Option (List RawNode) := none
  edges : List RawEdge := []
  profileVersion : Option Nat := none
  fencingEpoch : Option Nat := none
  result : Option RunResult := none
  resultRef : Option String := none
  acceptUnknown : Bool := false
  evidence : List EvidenceItem := []
  openItems : Option Json := none
  logicalActionKey : Option String := none
  actionType : Option String := none
  targetRef : Option String := none
  parameters : Option Json := none
  supportsIdempotentQuery : Option Bool := none
  reason : Option String := none
  calls : Option Int := none
  alive : Option Bool := none
  quarantine : Bool := false
  containerId : Option String := none
  exitConfirmed : Option Bool := none
  profileId : Option String := none
  content : Option Json := none
  generation : Option Nat := none
  changesAuthorization : Bool := false
  delta : Option ContractContent := none
  resumedFromRunId : Option String := none
  plannerSessionId : Option String := none
  /-- Present with no text when the caller sends a null. -/
  checkpointRef : Option (Option String) := none
  lastConsumedMessageSeq : Option Nat := none
  body : Option Json := none
  kind : Option String := none
  detail : Option Json := none
  status : Option String := none
  failedVerifyWorkUnitId : Option String := none
  repairWorkUnitId : Option String := none
  newVerifyWorkUnitId : Option String := none
  artifactHash : Option String := none
  failedEvidence : Option String := none
  keepNodes : List RawNode := []
  keepEdges : List RawEdge := []
  includeVerify : Option Bool := none
  path : Option String := none
  expectedHash : Option String := none
  authorizedRef : Option String := none
  ref : Option String := none
  version : Option String := none
  contentHash : Option String := none
  materializedHash : Option String := none
  grantRef : Option String := none
  maxBytes : Option Nat := none
  deriving DecidableEq, Repr

/-- The hash of a request: the operation next to the payload, whose own key of that name wins. -/
structure Fingerprint where
  operation : JsonValue
  payload : Payload
  deriving DecidableEq, Repr

def payloadHash (operation : Operation) (payload : Payload) : Fingerprint :=
  ⟨payload.operation.getD (.text operation.text), { payload with operation := none }⟩

/-- A value in the data of a result or of an event. -/
inductive Value
  | null
  | flag (b : Bool)
  | int (i : Int)
  | text (s : String)
  | names (l : List String)
  | digest (d : Digest)
  deriving DecidableEq, Repr

namespace Value

/-- A value that may be missing. -/
def ofOption (o : Option String) : Value := o.elim .null .text

def ofNat (n : Nat) : Value := .int n

def ofOptionNat (o : Option Nat) : Value := o.elim .null .ofNat

end Value

/-- The data of a result or of an event: named values. -/
abbrev Data := List (String × Value)

/-- The text under a name, if there is one. -/
def Data.textAt (d : Data) (key : String) : Option String :=
  match d.lookup key with
  | some (.text s) => some s
  | _ => none

structure CommandResult where
  ok : Bool
  data : Data
  errorCode : Option String := none
  errorMessage : Option String := none
  replayed : Bool := false
  deriving DecidableEq, Repr

namespace CommandResult

def success (data : Data) : CommandResult := { ok := true, data }

def replay (data : Data) : CommandResult := { ok := true, data, replayed := true }

def failure (code message : String) (data : Data := []) : CommandResult :=
  { ok := false, data, errorCode := some code, errorMessage := some message }

end CommandResult

/-- A text that Python takes for true: present and not empty. -/
def truthy (o : Option String) : Option String := o.filter (· ≠ "")

/-- A number that Python takes for true: present and not zero. -/
def truthyNat (o : Option Nat) : Option Nat := o.filter (· ≠ 0)

theorem truthy_eq_some {o : Option String} {s : String} :
    truthy o = some s ↔ o = some s ∧ s ≠ "" := by
  rw [truthy, Option.filter_eq_some_iff]
  simp

end HibikiCore
