import HibikiCore.Application.Support

/-!
# Final acceptance

What a task has delivered, which verdict counts for a criterion, and the snapshot a human is asked
to accept.
-/

namespace HibikiCore

/-! ## Evidence -/

/-- The hash an item of evidence fixes. -/
def EvidenceItem.fixedHash (item : EvidenceItem) : Option String :=
  truthy item.artifactHash <|> truthy item.artifactRef

/-- The last item of a criterion. -/
def evidenceFor (evidence : List EvidenceItem) (criterionId : String) : Option EvidenceItem :=
  (evidence.filter fun item ↦ truthy item.criterionId == some criterionId).getLast?

/-- Every required criterion has evidence with a fixed hash and the verdict PASS. -/
def assertAcceptanceEvidence (required : List Criterion) (evidence : List EvidenceItem) :
    Core Unit :=
  Tx.each required fun c ↦ do
    let item ← Tx.require (evidenceFor evidence c.criterionId)
      (.precondition "missing_evidence" ("missing evidence for criterion " ++ c.criterionId))
    Tx.check (item.fixedHash ≠ none)
      (.precondition "missing_evidence"
        ("criterion " ++ c.criterionId ++ " lacks fixed artifact hash"))
    Tx.check (item.verdict ≠ some .fail)
      (.precondition "evidence_failed"
        ("criterion " ++ c.criterionId ++ " evidence verdict is FAIL"))
    Tx.check (item.verdict = some .pass)
      (.precondition "missing_evidence"
        ("criterion " ++ c.criterionId ++ " evidence verdict not PASS"))

def requiredCriteria (content : ContractContent) : List Criterion :=
  (content.acceptanceCriteria.getD []).filter Criterion.isRequired

def resolveRegisteredArtifact (taskId artifactHash : String) : Core Unit := do
  let db ← get
  Tx.check ((db.artifacts.find? (taskId, artifactHash)).isSome = true)
    (.precondition "unregistered_artifact"
      ("artifact " ++ artifactHash ++ " is not registered for this task"))

/-- The run whose result a unit has selected; more than one is an error. -/
def selectedRun (db : DB) (wuId : String) (resultRef : String) :
    Except Error (Option AgentRunRow) :=
  match db.agentRuns.select fun _ r ↦ r.workUnitId == some wuId && r.resultRef == some resultRef
  with
  | [] => .ok none
  | [r] => .ok (some r.2)
  | _ => .error ⟨.uncaught, "MultipleResultsFound", "Multiple rows were found"⟩

/-- The hashes that one node of the plan delivers. -/
def nodeDeliveryHashes (db : DB) (node : RawNode) : Except Error (List String) :=
  match db.workUnitExecutions.find? node.workUnitId with
  | none => .ok []
  | some wu =>
    match truthy wu.selectedResultRef with
    | none => .ok []
    | some resultRef =>
      if wu.status ≠ .done then .ok []
      else do
        match ← selectedRun db node.workUnitId resultRef with
        | none => .ok []
        | some run =>
          let result := run.result.getD {}
          return (result.artifactRefs ++ result.verifiedArtifactRefs).filterMap truthy

/-- The hashes currently delivered by the units of a plan that are done. -/
def currentDeliveryHashes (db : DB) (nodes : List RawNode) : Except Error (List String) := do
  let hashes ← nodes.mapM (nodeDeliveryHashes db)
  return hashes.flatten

/-- Evidence rows, latest first: by sequence number, then by time. -/
def evidenceOrder (a b : String × AcceptanceEvidenceRow) : Bool :=
  b.2.sequenceNo < a.2.sequenceNo
    || (a.2.sequenceNo == b.2.sequenceNo && b.2.createdAt ≤ a.2.createdAt)

/-- The evidence that counts for a criterion. -/
def latestCriterionEvidence (db : DB) (taskId criterionId : String) (wuIds : List String)
    (deliveryHashes : List String) : Option AcceptanceEvidenceRow :=
  let rows := (db.acceptanceEvidence.select fun _ r ↦
    r.taskId == taskId && r.criterionId == criterionId).mergeSort evidenceOrder
  (rows.find? fun r ↦
    match r.2.workUnitId with
    | none => false
    | some wuId =>
      wuIds.contains wuId && deliveryHashes.contains r.2.artifactHash &&
        (db.workUnitExecutions.find? wuId).any fun wu ↦ wu.selectedResultRef == r.2.resultRef
    ).map Prod.snd

def evidenceItemFromRow (criterionId : String) (row : AcceptanceEvidenceRow) : EvidenceItem where
  criterionId := some criterionId
  workUnitId := row.workUnitId
  resultRef := row.resultRef
  artifactHash := some row.artifactHash
  verdict := some row.verdict
  runId := some row.runId

/-- Evidence a caller adds must repeat what the service found by itself. -/
def checkExtraEvidence (taskId : String) (wuIds deliveryHashes : List String)
    (defaults : List EvidenceItem) (item : EvidenceItem) : Core Unit := do
  let missing : Error := .precondition "missing_evidence"
    "extra evidence requires criterion_id and artifact_hash"
  let criterionId ← Tx.require (truthy item.criterionId) missing
  let artifactHash ← Tx.require item.fixedHash missing
  resolveRegisteredArtifact taskId artifactHash
  let notCurrent : Error := .precondition "evidence_not_current"
    ("artifact " ++ artifactHash ++ " is not the current delivery for criterion " ++ criterionId)
  Tx.check ((evidenceFor defaults criterionId).bind EvidenceItem.artifactHash
    = some artifactHash) notCurrent
  let db ← get
  let rows := (db.acceptanceEvidence.select fun _ r ↦ r.taskId == taskId
    && r.criterionId == criterionId && r.artifactHash == artifactHash).mergeSort evidenceOrder
  let row ← Tx.require (rows.head?.map Prod.snd)
    (.precondition "missing_evidence"
      ("no verification evidence for criterion " ++ criterionId ++ " / " ++ artifactHash))
  Tx.check (row.workUnitId.all (wuIds.contains ·))
    (.precondition "evidence_not_current"
      ("artifact " ++ artifactHash ++ " is not from the current plan deliverables"))
  Tx.check (deliveryHashes = [] ∨ artifactHash ∈ deliveryHashes) notCurrent

/-- The evidence of a snapshot, one item for each required criterion that has any. -/
def buildAcceptanceEvidence (taskId : String) (nodes : List RawNode) (required : List Criterion)
    (extra : List EvidenceItem) : Core (List EvidenceItem) := do
  let db ← get
  let wuIds := nodes.map RawNode.workUnitId
  let deliveryHashes ← Tx.lift (currentDeliveryHashes db nodes)
  let defaults := required.filterMap fun c ↦
    (latestCriterionEvidence db taskId c.criterionId wuIds deliveryHashes).map
      (evidenceItemFromRow c.criterionId)
  Tx.each extra (checkExtraEvidence taskId wuIds deliveryHashes defaults)
  return defaults

/-! ## Preparing an acceptance -/

/-- What a node of the plan contributes; it must be done and have a result. -/
def nodeDeliverable (node : RawNode) : Core DeliverableResult := do
  let db ← get
  let wu ← Tx.require ((db.workUnitExecutions.find? node.workUnitId).filter (·.status == .done))
    (.precondition "incomplete_work" ("work unit " ++ node.workUnitId ++ " not DONE"))
  let resultRef ← Tx.require (truthy wu.selectedResultRef)
    (.precondition "missing_evidence" ("work unit " ++ node.workUnitId ++ " missing result"))
  return { workUnitId := node.workUnitId, resultRef, verdict := wu.selectedVerdict }

def nodeDeliverables (nodes : List RawNode) : Core (List DeliverableResult) :=
  Tx.fold (fun acc node ↦ do return acc ++ [← nodeDeliverable node]) [] nodes

def prepareAcceptance (env : Env) (_auth : AuthContext) (p : Payload) : Core CommandResult := do
  let taskId ← key "task_id" p.taskId
  let task ← getTask taskId
  let contract ← activeContract taskId
  let active ← Tx.require contract (.precondition "no_active_contract" "no active contract")
  let db ← get
  Tx.check ((db.sideEffects.select fun _ e ↦ e.taskId == taskId && e.state == .unknown) = [])
    (.precondition "unknown_side_effect" "UNKNOWN side effects")
  Tx.check (otherBlockingGates db taskId none = [])
    (.precondition "blocking_gate_open" "other blocking gates remain")
  assertNoLiveWriters env taskId
  let marker ← Tx.require (db.activePlanMarkers.find? taskId)
    (.precondition "no_active_plan" "no active plan")
  let plan ← Tx.require (db.plans.find? (taskId, marker.planVersion)) .noResult
  let deliverables ← nodeDeliverables plan.nodes
  let required := requiredCriteria active.2.content
  let evidence ← buildAcceptanceEvidence taskId plan.nodes required p.evidence
  assertAcceptanceEvidence required evidence
  supersedePendingAcceptance env taskId
  let content : SnapshotContent :=
    { contractVersion := active.1
      planVersion := task.planVersion
      deliverables
      evidence
      openItems := p.openItems.getD "[]" }
  let snapshotId ← newId env "snap"
  add Refs.resultSnapshots snapshotId
    { taskId
      contractVersion := active.1
      planVersion := task.planVersion
      contentHash := .snapshot content
      content
      createdAt := env.now }
  let decisionId ← newId env "dec"
  add Refs.decisions decisionId
    { pendingDecision env taskId .finalAcceptance snapshotId 1 (.snapshot content)
        Defaults.decisionTtl with
      contractVersion := some active.1
      resultSnapshotRef := some snapshotId }
  openGate env taskId decisionId .finalAcceptance
  if task.state.isDispatchable then
    setTaskState env taskId .acceptanceReady (some .finalAcceptance)
  else do
    Tx.check (task.state = .waitingHuman)
      (.precondition "invalid_state" ("cannot prepare acceptance from " ++ task.state.text))
    Refs.tasks.update taskId fun t ↦ { t with stateReason := some .finalAcceptance }
  return .success
    [("task_id", .text taskId), ("decision_id", .text decisionId),
      ("result_snapshot_id", .text snapshotId), ("content_hash", .digest (.snapshot content))]

end HibikiCore
