import HibikiCore.Application.Support

/-!
# Tasks and contracts

Creating a task, submitting a contract for approval, and applying an approved contract delta.
-/

namespace HibikiCore

open Value (ofNat)

/-! ## Tasks -/

def createTask (env : Env) (auth : AuthContext) (p : Payload) : Core CommandResult := do
  let drawn ← newId env "task"
  let taskId := (truthy p.taskId).getD drawn
  let title := orElse p.title "untitled"
  let db ← get
  -- a second task under the same creation key violates a unique constraint
  Tx.check (p.createKey = none ∨ (db.tasks.select fun _ t ↦ t.principalId == auth.principalId
      && t.createIdempotencyKey == p.createKey) = [])
    (.integrity "uq_tasks_principal_create_key")
  add Refs.tasks taskId
    { principalId := auth.principalId
      intentRef := p.intent.getD ""
      title
      state := .new
      stateReason := none
      stateRevision := 0
      contractVersion := none
      planVersion := none
      activePlannerSessionId := none
      finalResultRefs := none
      cancelIntent := false
      pauseIntent := false
      revokeEpoch := 0
      modelCallsUsed := 0
      modelCallLimit := (p.modelCallLimit.filter (· ≠ 0)).getD Defaults.maxTaskModelCalls
      createIdempotencyKey := p.createKey
      createdAt := env.now
      updatedAt := env.now }
  Tx.when (db.agentProfiles.find? ("fake", 1) = none) do
    add Refs.agentProfiles ("fake", 1)
      { content := "\x7b\"instructions\":\"fake worker\"\x7d", createdAt := env.now }
  appendEvent env taskId "task.created" auth.actorId [("title", .text title)]
  return .success [("task_id", .text taskId), ("state", .text TaskState.new.text)]

/-! ## Submitting a contract -/

/-- The contract that a request without one describes. -/
def requestedContract (p : Payload) (task : TaskRow) : ContractContent where
  objective := some (orElse p.objective task.title)
  inScope := some (p.inScope.getD "[]")
  outOfScope := some (p.outOfScope.getD "[]")
  constraints := some (p.constraints.getD "[]")
  assumptions := some (p.assumptions.getD "[]")
  deliverables := some <| if p.deliverables.isEmpty then
      [{ deliverableId := some "d1", expectedKind := some "text", description := "result" }]
    else p.deliverables
  acceptanceCriteria := some <| if p.acceptanceCriteria.isEmpty then
      [{ criterionId := "c1", required := some true, statement := "done" }]
    else p.acceptanceCriteria
  allowedSideEffects := some p.allowedSideEffects
  permissionCeiling := some (p.permissionCeiling.getD (.object ["read"]))
  resourceLimits := some (p.resourceLimits.getD {})
  humanGates := some (p.humanGates.getD "[]")

/-- Contracts that were submitted and not decided give way to a new submission. -/
def supersedePriorContracts (env : Env) (taskId : String) : Core Unit := do
  Refs.contracts.updateWhere
    (fun k c ↦ k.1 == taskId && (c.status == .draft || c.status == .pendingApproval))
    fun c ↦ { c with status := .superseded }
  let db ← get
  let pending := db.decisions.select fun _ d ↦
    d.taskId == taskId && d.decisionKind == .contractApproval && d.status == .pending
  Tx.each pending fun d ↦ do
    Refs.decisions.update d.1 fun r ↦ { r with status := .superseded }
    resolveGates env d.1

def submitContract (env : Env) (auth : AuthContext) (p : Payload) : Core CommandResult := do
  let taskId ← key "task_id" p.taskId
  let task ← getTask taskId
  Tx.check (task.principalId = auth.principalId) (.authorization "task principal mismatch")
  let content := (p.contract.filter (· ≠ {})).getD (requestedContract p task)
  let db ← get
  let version := maxSeq db.contracts taskId + 1
  supersedePriorContracts env taskId
  let contentHash := Digest.contract content
  add Refs.contracts (taskId, version)
    { supersedesVersion := task.contractVersion
      contentHash
      content
      status := .pendingApproval
      approvedBy := none
      approvedAt := none
      createdAt := env.now }
  let objective ← key "objective" content.objective
  let deliverables ← key "deliverables" content.deliverables
  let acceptanceCriteria ← key "acceptance_criteria" content.acceptanceCriteria
  let permissionCeiling ← key "permission_ceiling" content.permissionCeiling
  let explanation : Explanation :=
    { objective
      deliverables
      acceptanceCriteria
      permissionCeiling
      resourceLimits := content.resourceLimits.getD {}
      allowedSideEffects := content.allowedSideEffects.getD [] }
  let explanationId ← newId env "expl"
  add Refs.explanations explanationId
    { taskId
      contractVersion := version
      contentHash := .explanation explanation
      content := explanation
      createdAt := env.now }
  let decisionId ← newId env "dec"
  add Refs.decisions decisionId
    { pendingDecision env taskId .contractApproval ("contract:" ++ taskId) version contentHash
        Defaults.decisionTtl with
      contractVersion := some version
      explanationRef := some explanationId
      explanationHash := some (.explanation explanation) }
  openGate env taskId decisionId .contractApproval
  setTaskState env taskId .contractSubmitted (some .contractApproval)
  appendEvent env taskId "contract.submitted" auth.actorId
    [("contract_version", ofNat version), ("decision_id", .text decisionId)]
  let task ← getTask taskId
  return .success
    [("task_id", .text taskId), ("contract_version", ofNat version),
      ("content_hash", .digest contentHash), ("decision_id", .text decisionId),
      ("explanation_id", .text explanationId),
      ("explanation_hash", .digest (.explanation explanation)), ("state", .text task.state.text)]

/-! ## Activating a contract -/

/-- The contract the marker of a task names gives way to another. -/
def retireActiveContract (taskId : String) : Core Unit := do
  let db ← get
  Tx.withSome (db.activeContractMarkers.find? taskId) fun marker ↦ do
    Refs.contracts.update (taskId, marker.contractVersion) fun c ↦
      { c with status := .superseded }
    Refs.activeContractMarkers.delete taskId

/-- A limit in the contract becomes the scheduling budget of the task. -/
def syncModelCallLimit (taskId : String) (content : ContractContent) : Core Unit :=
  Tx.withSome (content.resourceLimits.bind ResourceLimits.modelCallLimit) fun limit ↦
    Refs.tasks.update taskId fun t ↦ { t with modelCallLimit := limit }

/-! ## Contract deltas -/

/-- An approved delta that can no longer be applied: its gate closes, the approval stays. -/
def invalidateStaleContractDelta (env : Env) (taskId decisionId : String) (decision : DecisionRow)
    (authActor code : String) : Core Unit := do
  resolveGates env decisionId
  Refs.decisions.update decisionId fun d ↦ { d with gateLifecycle := .resolved }
  let task ← getTask taskId
  appendEvent env taskId "contract.delta_apply_rejected_stale" authActor
    [("decision_id", .text decisionId), ("code", .text code),
      ("target_version", ofNat decision.targetVersion),
      ("current_contract_version", .ofOptionNat task.contractVersion)]
  recomputeRunnableState env taskId

/-- Makes the merge of a delta into its baseline the ACTIVE contract. -/
def activateContractDelta (env : Env) (auth : AuthContext) (taskId decisionId : String)
    (task : TaskRow) (decision : DecisionRow) (envelope : DeltaEnvelope) :
    Core CommandResult := do
  let db ← get
  let version := decision.targetVersion
  let base ← Tx.require (db.contracts.find? (taskId, envelope.baselineContractVersion)) .noResult
  let merged := mergeContractContent base.content envelope.delta
  let contentHash := Digest.contract merged
  Tx.check (contentHash = decision.targetHash)
    (.conflict "target_hash_conflict" "merged contract hash mismatch")
  retireActiveContract taskId
  add Refs.contracts (taskId, version)
    { supersedesVersion := task.contractVersion
      contentHash
      content := merged
      status := .active
      approvedBy := decision.decidedByActor
      approvedAt := some env.now
      createdAt := env.now }
  add Refs.activeContractMarkers taskId ⟨version⟩
  Refs.tasks.update taskId fun t ↦ { t with contractVersion := some version }
  syncModelCallLimit taskId merged
  resolveGates env decisionId
  Refs.decisions.update decisionId fun d ↦ { d with gateLifecycle := .resolved }
  recomputeRunnableState env taskId
  appendEvent env taskId "contract.delta_applied" auth.actorId
    [("decision_id", .text decisionId), ("contract_version", ofNat version)]
  let task ← getTask taskId
  return .success
    [("task_id", .text taskId), ("contract_version", ofNat version),
      ("decision_id", .text decisionId), ("state", .text task.state.text),
      ("model_call_limit", .int task.modelCallLimit)]

/-- Activates an approved delta once the writers are gone; the baseline must still be ACTIVE. -/
def applyContractDelta (env : Env) (auth : AuthContext) (p : Payload) : Core CommandResult := do
  let decisionId ← key "decision_id" p.decisionId
  let db ← get
  let decision ← Tx.require (db.decisions.find? decisionId)
    (.notFound "decision_not_found" "decision not found")
  Tx.check (decision.decisionKind = .contractDelta)
    (.precondition "invalid_decision_kind" "not a contract delta")
  Tx.check (decision.status = .approved)
    (.precondition "decision_not_approved" "delta decision not approved")
  let taskId := decision.taskId
  let task ← getTask taskId
  Tx.check (task.principalId = auth.principalId) (.authorization "decision principal mismatch")
  Tx.check ((db.gates.select fun _ g ↦ g.decisionId == decisionId
      && g.lifecycle == .approvedPendingApply) ≠ [])
    (.precondition "delta_not_pending_apply" "delta gate not awaiting apply")
  assertNoLiveWriters env taskId
  let envelope ← Tx.require decision.payload
    (.precondition "delta_payload_missing" "contract delta payload missing")
  let contract ← activeContract taskId
  let active ← Tx.require contract
    (.precondition "no_active_contract" "no active contract")
  if task.contractVersion.getD 0 ≠ envelope.baselineContractVersion
      ∨ active.1 ≠ envelope.baselineContractVersion then do
    invalidateStaleContractDelta env taskId decisionId decision auth.actorId "baseline_stale"
    return .failure "baseline_stale" "baseline contract superseded"
      [("decision_id", .text decisionId)]
  else if active.2.contentHash ≠ envelope.baselineContractHash then do
    invalidateStaleContractDelta env taskId decisionId decision auth.actorId "baseline_stale"
    return .failure "baseline_stale" "baseline contract content changed"
      [("decision_id", .text decisionId)]
  else if (db.contracts.find? (taskId, decision.targetVersion)).isSome then do
    invalidateStaleContractDelta env taskId decisionId decision auth.actorId
      "target_version_taken"
    return .failure "target_version_taken" "target contract version already exists"
      [("decision_id", .text decisionId), ("target_version", ofNat decision.targetVersion)]
  else activateContractDelta env auth taskId decisionId task decision envelope

end HibikiCore
