import HibikiCore.Domain.Enums

/-!
# Stored content and its digests

What the service stores as JSON and reads back is a record here. A part that is stored and handed
on but never looked into stays a text, `Json`.

## Digests

A digest is the content it was computed from: the hash over canonical JSON is taken to be
injective, and nothing else about it is used. A digest that a client sends is one as well, since
any text may be sent; `Digest.text` are the texts that are the hash of nothing the service stores.
-/

namespace HibikiCore

/-- The canonical text of a value that is stored and handed on, never looked into. -/
abbrev Json := String

/-- Seconds since the clock's origin. -/
abbrev Time := Nat

/-! ## Contracts -/

/-- What a contract says an accepted task delivers. -/
structure Deliverable where
  deliverableId : Option String := none
  expectedKind : Option String := none
  description : Json := ""
  deriving DecidableEq, Repr

/-- A criterion of acceptance; one that does not say so is required. -/
structure Criterion where
  criterionId : String
  required : Option Bool := none
  statement : Json := ""
  deriving DecidableEq, Repr

def Criterion.isRequired (c : Criterion) : Bool := c.required.getD true

/-- A permission ceiling is an object with a list of tools, or the bare list. -/
inductive Ceiling
  | object (tools : List String)
  | bare (tools : List String)
  deriving DecidableEq, Repr

/-- The limits of a contract that the service reads. -/
structure ResourceLimits where
  modelCallLimit : Option Int := none
  maxModelCalls : Option Int := none
  wallTimeoutSeconds : Option Int := none
  maxTurns : Option Int := none
  contextMaxMaterializedBytes : Option Int := none
  deriving DecidableEq, Repr

/-- `dict.update`: the entries of the second argument win. -/
def ResourceLimits.update (base delta : ResourceLimits) : ResourceLimits where
  modelCallLimit := delta.modelCallLimit <|> base.modelCallLimit
  maxModelCalls := delta.maxModelCalls <|> base.maxModelCalls
  wallTimeoutSeconds := delta.wallTimeoutSeconds <|> base.wallTimeoutSeconds
  maxTurns := delta.maxTurns <|> base.maxTurns
  contextMaxMaterializedBytes :=
    delta.contextMaxMaterializedBytes <|> base.contextMaxMaterializedBytes

/-- The content of a contract. Every key may be absent, so the same record is a contract delta. -/
structure ContractContent where
  objective : Option String := none
  inScope : Option Json := none
  outOfScope : Option Json := none
  constraints : Option Json := none
  assumptions : Option Json := none
  deliverables : Option (List Deliverable) := none
  acceptanceCriteria : Option (List Criterion) := none
  allowedSideEffects : Option (List String) := none
  permissionCeiling : Option Ceiling := none
  resourceLimits : Option ResourceLimits := none
  humanGates : Option Json := none
  expectedOutputs : Option (List String) := none
  /-- Whether approval leads straight to execution. -/
  simple : Option Bool := none
  deriving DecidableEq, Repr

/-- `_merge_contract_content`: limits are updated entry by entry, other keys replaced. -/
def mergeContractContent (base delta : ContractContent) : ContractContent :=
  { base with
    resourceLimits :=
      match delta.resourceLimits with
      | some limits => some ((base.resourceLimits.getD {}).update limits)
      | none => base.resourceLimits
    objective := delta.objective <|> base.objective
    inScope := delta.inScope <|> base.inScope
    outOfScope := delta.outOfScope <|> base.outOfScope
    constraints := delta.constraints <|> base.constraints
    assumptions := delta.assumptions <|> base.assumptions
    deliverables := delta.deliverables <|> base.deliverables
    acceptanceCriteria := delta.acceptanceCriteria <|> base.acceptanceCriteria
    allowedSideEffects := delta.allowedSideEffects <|> base.allowedSideEffects
    permissionCeiling := delta.permissionCeiling <|> base.permissionCeiling
    humanGates := delta.humanGates <|> base.humanGates }

/-! ## Plans -/

/-- A node as a plan stores it. -/
structure RawNode where
  workUnitId : String
  specVersion : Option Nat := none
  workType : Option String := none
  workspaceId : Option String := none
  objective : Option String := none
  contextPolicy : Option String := none
  inputRefs : List String := []
  expectedOutputs : List String := []
  acceptanceCriteria : List Criterion := []
  requiredCapabilities : List String := []
  requestedPermissions : List String := []
  workspacePolicy : Option String := none
  deriving DecidableEq, Repr

/-- An edge as a plan stores it, from the prerequisite to the dependent. -/
structure RawEdge where
  fromWorkUnitId : String
  toWorkUnitId : String
  predicate : Option DependencyPredicate := none
  artifactHash : Option String := none
  deriving DecidableEq, Repr

/-- A definition of a work unit, fixed for its version. -/
structure WorkUnitSpec where
  objective : String
  workType : String
  contextPolicy : String
  inputRefs : List String
  expectedOutputs : List String
  acceptanceCriteria : List Criterion
  requiredCapabilities : List String
  requestedPermissions : List String
  workspacePolicy : String
  deriving DecidableEq, Repr

/-! ## Results and acceptance -/

/-- A statement that a criterion holds of an artifact. -/
structure EvidenceItem where
  criterionId : Option String := none
  workUnitId : Option String := none
  resultRef : Option String := none
  artifactHash : Option String := none
  artifactRef : Option String := none
  verdict : Option Verdict := none
  runId : Option String := none
  deriving DecidableEq, Repr

inductive Outcome
  | completed | blocked | other (text : String)
  deriving DecidableEq, Repr

def Outcome.text : Outcome → String
  | .completed => "COMPLETED"
  | .blocked => "BLOCKED"
  | .other text => text

/-- What a run reports. A reference is a hash, or an object that may lack one. -/
structure RunResult where
  outcome : Option Outcome := none
  blockers : List String := []
  verdict : Option Verdict := none
  artifactRefs : List (Option String) := []
  verifiedArtifactRefs : List (Option String) := []
  acceptanceEvidence : List EvidenceItem := []
  body : Json := ""
  deriving DecidableEq, Repr

/-- A unit of the plan and the result it contributes. -/
structure DeliverableResult where
  workUnitId : String
  resultRef : String
  verdict : Option Verdict
  deriving DecidableEq, Repr

/-- What a final acceptance is asked for. -/
structure SnapshotContent where
  contractVersion : Nat
  planVersion : Option Nat
  deliverables : List DeliverableResult
  evidence : List EvidenceItem
  openItems : Json
  deriving DecidableEq, Repr

/-- The part of a contract that is explained to the human who approves it. -/
structure Explanation where
  objective : String
  deliverables : List Deliverable
  acceptanceCriteria : List Criterion
  permissionCeiling : Ceiling
  resourceLimits : ResourceLimits
  allowedSideEffects : List String
  deriving DecidableEq, Repr

/-- An external action, the content of an action digest. -/
structure Action where
  actionType : String
  targetRef : String
  parameters : Json
  deriving DecidableEq, Repr

/-! ## Digests -/

inductive Digest
  | contract (content : ContractContent)
  | explanation (content : Explanation)
  | plan (nodes : List RawNode) (edges : List RawEdge)
  | spec (content : WorkUnitSpec)
  | action (content : Action)
  | parameters (content : Json)
  | snapshot (content : SnapshotContent)
  | gateRequest (taskId : String) (reason targetRef runId : Option String)
  | limit (limit : Int)
  | artifact (hash : String)
  | text (text : String)
  deriving DecidableEq, Repr

/-! ## Context and execution contracts -/

inductive ContextRefKind
  | contract | deliverable | plan | dependencyResult
  deriving DecidableEq, Repr

/-- One entry of what a run is authorized to see. -/
structure ContextRef where
  kind : ContextRefKind
  ref : Option String := none
  version : Option Nat := none
  hash : Option Digest := none
  expectedKind : Option String := none
  workUnitId : Option String := none
  deriving DecidableEq, Repr

/-- What a PLAN run is told about its session. -/
structure PlannerBinding where
  plannerSessionId : String
  generation : Nat
  checkpointRef : Option String
  checkpointVersion : Nat
  lastConsumedMessageSeq : Nat
  deriving DecidableEq, Repr

/-- The initial context of a run, immutable. -/
structure ContextManifest where
  contextManifestId : String
  taskId : String
  runId : String
  contractVersion : Option Nat
  planVersion : Option Nat
  assignmentRef : Option String
  profileRef : String
  mandatoryRefs : List ContextRef
  dependencyResultRefs : List ContextRef
  maxMaterializedBytes : Int
  mandatoryBytes : Nat
  workUnitObjective : Option String
  workspaceId : Option String
  planner : Option PlannerBinding
  deriving DecidableEq, Repr

/-- What a worker is allowed to do, frozen when its run is created. -/
structure RunExecutionSpec where
  runId : String
  taskId : String
  workUnitId : Option String
  assignmentKind : AssignmentKind
  profileId : String
  profileVersion : Nat
  contractVersion : Nat
  planVersion : Option Nat
  contextManifestId : String
  contextManifest : ContextManifest
  workspaceId : Option String
  workspacePath : Option String
  grantedTools : List String
  permissionCeiling : List String
  principalId : String
  agentInstanceId : String
  grantEpoch : Nat
  fencingEpoch : Nat
  revokeEpoch : Nat
  modelCallLimit : Int
  maxTurns : Int
  wallTimeoutSeconds : Int
  objective : String
  workType : String
  goalLabel : String
  contextPolicy : String
  inputRefs : List String
  expectedOutputs : List String
  acceptanceCriteria : List Criterion
  unknownCeilingTools : List String
  resourceLimits : ResourceLimits
  planner : Option PlannerBinding
  deriving DecidableEq, Repr

end HibikiCore
