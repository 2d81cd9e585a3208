import HibikiCore.Application.Contracts
import HibikiCore.Application.Acceptance

/-!
# Decisions

Resolving a decision, and what an approval does for each kind of it. `approve_contract`,
`approve_side_effect` and `accept_result` are aliases.
-/

namespace HibikiCore

/-! ## What an approval does -/

def applyContractApproval (env : Env) (taskId decisionId : String) (decision : DecisionRow)
    (actorId : String) : Core Unit := do
  let db ← get
  let contract ← Tx.require (db.contracts.find? (taskId, decision.targetVersion)) .noResult
  retireActiveContract taskId
  Refs.contracts.update (taskId, decision.targetVersion) fun c ↦
    { c with status := .active, approvedBy := some actorId, approvedAt := some env.now }
  add Refs.activeContractMarkers taskId ⟨decision.targetVersion⟩
  Refs.tasks.update taskId fun t ↦ { t with contractVersion := some decision.targetVersion }
  resolveGates env decisionId
  Refs.decisions.update decisionId fun d ↦ { d with gateLifecycle := .resolved }
  syncModelCallLimit taskId contract.content
  setTaskState env taskId
    (if contract.content.simple.getD true then .contractApprovedSimple else .contractApproved) none

/-- The units the ACTIVE plan of a task names; none if it has no such plan. -/
def currentPlanIds (db : DB) (taskId : String) : List String :=
  match db.activePlanMarkers.find? taskId with
  | none => []
  | some marker =>
    match db.plans.find? (taskId, marker.planVersion) with
    | none => []
    | some plan => plan.nodes.map RawNode.workUnitId

/-- Units that still have work to do and are of the current plan. -/
def acceptanceBlockers (db : DB) (taskId : String) : List (String × WorkUnitExecutionRow) :=
  let currentIds := currentPlanIds db taskId
  db.workUnitExecutions.select fun wuId u ↦
    u.taskId == taskId && !u.status.isTerminal && (currentIds.isEmpty || currentIds.contains wuId)

/-- Everything the acceptance of a result is checked against on resolution. -/
def checkFinalAcceptance (env : Env) (taskId decisionId : String) (decision : DecisionRow) :
    Core Unit := do
  let task ← getTask taskId
  let db ← get
  let mismatch : Error := .conflict "target_hash_conflict" "result snapshot mismatch"
  let snapshot ← Tx.require (decision.resultSnapshotRef.bind db.resultSnapshots.find?) mismatch
  Tx.check (snapshot.contentHash = decision.targetHash) mismatch
  Tx.check (some snapshot.contractVersion = task.contractVersion)
    (.conflict "snapshot_stale" "acceptance snapshot contract stale")
  Tx.check (snapshot.planVersion = task.planVersion)
    (.conflict "snapshot_stale" "acceptance snapshot plan stale")
  Tx.check (acceptanceBlockers db taskId = [])
    (.precondition "incomplete_work" "incomplete work units block acceptance")
  Tx.check (otherBlockingGates db taskId (some decisionId) = [])
    (.precondition "blocking_gate_open" "other blocking gates remain")
  assertNoLiveWriters env taskId
  let contract ← activeContract taskId
  let active ← Tx.require contract (.precondition "no_active_contract" "no active contract")
  assertAcceptanceEvidence (requiredCriteria active.2.content) snapshot.content.evidence
  Tx.check ((db.agentRuns.select fun _ r ↦ r.taskId == taskId && r.status.isActive) = [])
    (.precondition "active_runs" "active runs present")
  -- effects that are still being sent are not asked about
  Tx.check ((db.sideEffects.select fun _ e ↦ e.taskId == taskId && e.state == .unknown) = [])
    (.precondition "unknown_side_effect" "unresolved UNKNOWN side effects")

def applyFinalAcceptance (env : Env) (taskId decisionId : String) (decision : DecisionRow) :
    Core Unit := do
  checkFinalAcceptance env taskId decisionId decision
  resolveGates env decisionId
  Refs.tasks.update taskId fun t ↦ { t with finalResultRefs := decision.resultSnapshotRef }
  setTaskState env taskId .finalAccepted none

def applySideEffectApproval (env : Env) (taskId decisionId : String) (decision : DecisionRow) :
    Core Unit := do
  let db ← get
  let effect ← Tx.require (db.sideEffects.find? decision.targetRef)
    (.notFound "not_found" "side effect not found")
  Tx.check (effect.actionDigest = decision.targetHash)
    (.conflict "target_hash_conflict"
      "side effect digest mismatch — parameters/target changed")
  let next ← Tx.require (sideEffectTransitions effect.state .approve)
    (.invalidTransition "SideEffect" SideEffectEvent.approve.text effect.state.text)
  Refs.sideEffects.update decision.targetRef fun e ↦
    { e with
      state := next
      authorizationRef := some decisionId
      expiresAt := some (env.now + Defaults.sideEffectApprovalTtl) }
  resolveGates env decisionId
  recomputeRunnableState env taskId

/-- The approval of a delta is recorded; the gate stays until the delta is applied. -/
def applyContractDeltaApproval (env : Env) (taskId decisionId : String) (decision : DecisionRow) :
    Core Unit := do
  Tx.check (decision.payload.isSome = true)
    (.precondition "delta_payload_missing" "contract delta payload missing")
  setGates decisionId .approvedPendingApply none
  Refs.decisions.update decisionId fun d ↦ { d with gateLifecycle := .approvedPendingApply }
  let task ← getTask taskId
  if task.state = .waitingHuman then
    Refs.tasks.update taskId fun t ↦ { t with stateReason := some .contractDelta }
  else setTaskState env taskId .blockingGateOpened (some .contractDelta)

def applyApprovedDecision (env : Env) (taskId decisionId : String) (decision : DecisionRow)
    (actorId : String) : Core Unit :=
  match decision.decisionKind with
  | .contractApproval => applyContractApproval env taskId decisionId decision actorId
  | .finalAcceptance => applyFinalAcceptance env taskId decisionId decision
  | .sideEffectApproval => applySideEffectApproval env taskId decisionId decision
  | .contractDelta => applyContractDeltaApproval env taskId decisionId decision
  | .clarification | .resourceLimit => do
    resolveGates env decisionId
    recomputeRunnableState env taskId

/-! ## Resolving -/

/-- What the resolution of a decision is asked with. -/
structure Resolution where
  decisionId : Option String
  choice : Option String := none
  expectedTargetVersion : Option Nat := none
  expectedTargetHash : Option Digest := none

/-- The contract a pending approval is about still has the content that was submitted. -/
def checkContractUnchanged (decision : DecisionRow) : Core Unit := do
  let db ← get
  let contract ← Tx.require (db.contracts.find? (decision.taskId, decision.targetVersion))
    .noResult
  Tx.check (contract.contentHash = decision.targetHash)
    (.conflict "target_hash_conflict" "contract hash changed")

/-- A pending decision is taken. -/
def settleDecision (env : Env) (auth : AuthContext) (decisionId : String) (decision : DecisionRow)
    (choice : String) : Core CommandResult := do
  let taskId := decision.taskId
  Refs.decisions.update decisionId fun d ↦
    { d with
      choice := some choice
      decidedByActor := some auth.actorId
      decidedByPrincipal := some auth.principalId
      decidedAt := some env.now
      status := if choice = "APPROVE" then .approved else .rejected }
  if choice = "APPROVE" then applyApprovedDecision env taskId decisionId decision auth.actorId
  else do
    resolveGates env decisionId
    recomputeRunnableState env taskId
  let status := if choice = "APPROVE" then DecisionStatus.approved else .rejected
  appendEvent env taskId "decision.resolved" auth.actorId
    [("decision_id", .text decisionId), ("status", .text status.text), ("choice", .text choice)]
  let task ← getTask taskId
  return .success
    [("decision_id", .text decisionId), ("status", .text status.text), ("choice", .text choice),
      ("task_id", .text taskId), ("task_state", .text task.state.text)]

def resolveDecision (env : Env) (auth : AuthContext) (r : Resolution) : Core CommandResult := do
  let decisionId ← key "decision_id" r.decisionId
  let db ← get
  let decision ← Tx.require (db.decisions.find? decisionId)
    (.notFound "decision_not_found" "decision not found")
  Tx.withSome (guardHumanDecision auth decision.decisionKind) fun e ↦ throw e
  let task ← getTask decision.taskId
  Tx.check (task.principalId = auth.principalId) (.authorization "decision principal mismatch")
  if decision.status = .approved ∨ decision.status = .rejected then
    return .replay
      [("decision_id", .text decisionId), ("status", .text decision.status.text),
        ("choice", .ofOption decision.choice), ("task_id", .text decision.taskId),
        ("replayed", .flag true)]
  else do
    Tx.check (decision.status = .pending)
      (.precondition "decision_not_pending" ("decision status " ++ decision.status.text))
    -- the EXPIRED mark that precedes this refusal is rolled back with it
    Tx.check (env.now ≤ decision.expiresAt) (.precondition "decision_expired" "decision expired")
    Tx.check (r.expectedTargetVersion.all (· = decision.targetVersion))
      (.conflict "target_version_conflict" "target version mismatch")
    Tx.check (r.expectedTargetHash.all (· = decision.targetHash))
      (.conflict "target_hash_conflict" "target hash mismatch")
    Tx.when (decision.decisionKind = .contractApproval) (checkContractUnchanged decision)
    settleDecision env auth decisionId decision (upperText (orElse r.choice "APPROVE"))

def approveContract (env : Env) (auth : AuthContext) (p : Payload) : Core CommandResult :=
  resolveDecision env auth
    { decisionId := p.decisionId
      choice := some (orElse p.choice "APPROVE")
      expectedTargetVersion := p.expectedTargetVersion
      expectedTargetHash := p.expectedTargetHash }

def approveSideEffect (env : Env) (auth : AuthContext) (p : Payload) : Core CommandResult :=
  resolveDecision env auth
    { decisionId := p.decisionId
      choice := some "APPROVE"
      expectedTargetHash := p.expectedTargetHash }

def acceptResult (env : Env) (auth : AuthContext) (p : Payload) : Core CommandResult :=
  resolveDecision env auth
    { decisionId := p.decisionId
      choice := some "APPROVE"
      expectedTargetHash := p.expectedTargetHash }

def resolveDecisionCommand (env : Env) (auth : AuthContext) (p : Payload) : Core CommandResult :=
  resolveDecision env auth
    { decisionId := p.decisionId
      choice := p.choice
      expectedTargetVersion := p.expectedTargetVersion
      expectedTargetHash := p.expectedTargetHash }

end HibikiCore
