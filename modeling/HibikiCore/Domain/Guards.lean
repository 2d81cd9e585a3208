import Mathlib.Data.List.Nodup
import Mathlib.Tactic.SplitIfs
import HibikiCore.Domain.Transitions
import HibikiCore.Domain.Types

/-!
# Guards

Who may call an operation, when runs are dispatched, and when an external effect may be sent. A
guard answers with the error it raises, or with none.
-/

namespace HibikiCore

/-! ## Operations by actor -/

def humanOnlyOps : List Operation :=
  [.approveContract, .approveSideEffect, .resolveDecision, .acceptResult, .resumeTask,
    .applyContractDelta]

def interruptOps : List Operation := [.pauseTask, .cancelTask]

def internalOnlyOps : List Operation :=
  [.submitResult, .setWriterAlive, .registerSandboxIdentity, .heartbeat, .publishArtifact,
    .contextAppend, .recordModelUsage]

def exitConfirmOps : List Operation := [.confirmRunExit]

def humanTaskOrchestrationOps : List Operation :=
  [.dispatchReadyRuns, .activatePlan, .activateMinimalPlan, .dispatchPlannerRun,
    .replacePlannerGeneration, .requestRepairPlan, .closePlannerSession, .requestSpawn]

def plannerBoundOps : List Operation := [.submitPlanProposal, .advancePlannerCheckpoint]

def humanDecisionKinds : List DecisionKind :=
  [.contractApproval, .contractDelta, .sideEffectApproval, .finalAcceptance]

def requireHuman (auth : AuthContext) (operation : String) : Option Error :=
  if auth.actorType ≠ .human then
    some (.authorization ("operation '" ++ operation ++ "' requires Human actor; got "
      ++ auth.actorType.text))
  else none

def requireInternal (auth : AuthContext) (operation : String) : Option Error :=
  if auth.actorType ≠ .internal then
    some (.authorization ("operation '" ++ operation ++ "' requires Internal actor; got "
      ++ auth.actorType.text))
  else none

def requireInterruptScope (auth : AuthContext) (operation : String) : Option Error :=
  if auth.isHuman then none
  else if !auth.hasScope "task:interrupt" then
    some (.authorization ("operation '" ++ operation ++ "' requires task:interrupt scope"))
  else none

def requireExitConfirmActor (auth : AuthContext) (operation : String) : Option Error :=
  if auth.actorType ≠ .human ∧ auth.actorType ≠ .internal then
    some (.authorization ("operation '" ++ operation ++ "' requires Human or Internal actor; got "
      ++ auth.actorType.text))
  else none

/-- The error with which an actor is turned away from an operation, if it is. -/
def guardOperation (auth : AuthContext) (operation : Operation) : Option Error :=
  if operation ∈ humanOnlyOps then requireHuman auth operation.text
  else if operation ∈ humanTaskOrchestrationOps then requireHuman auth operation.text
  else if operation ∈ interruptOps then requireInterruptScope auth operation.text
  else if operation ∈ internalOnlyOps then requireInternal auth operation.text
  else if operation ∈ exitConfirmOps then requireExitConfirmActor auth operation.text
  else if operation ∈ plannerBoundOps then
    if auth.actorType ≠ .human ∧ auth.actorType ≠ .internal then
      some (.authorization ("operation '" ++ operation.text
        ++ "' requires Human or Internal actor"))
    else none
  else none

/-- The formal kinds of decisions are for humans, whatever command resolves them. -/
def guardHumanDecision (auth : AuthContext) (kind : DecisionKind) : Option Error :=
  if kind ∈ humanDecisionKinds then requireHuman auth ("decision:" ++ kind.text) else none

/-! ## Dispatch of runs -/

/-- What `guardDispatch` looks at. -/
structure DispatchView where
  taskState : TaskState
  hasActiveContract : Bool
  hasBlockingGate : Bool
  cancelIntent : Bool
  pauseIntent : Bool
  deriving DecidableEq, Repr

def guardDispatch (v : DispatchView) : Option Error :=
  if !v.taskState.isDispatchable then
    some (.precondition "dispatch_blocked_state"
      ("task state " ++ v.taskState.text ++ " does not allow business run dispatch"))
  else if !v.hasActiveContract then
    some (.precondition "no_active_contract"
      "ACTIVE Contract required before PLAN/EXECUTE dispatch")
  else if v.hasBlockingGate then
    some (.precondition "dispatch_frozen_gate" "blocking gate open; dispatch frozen")
  else if v.cancelIntent then some (.precondition "dispatch_frozen_cancel" "cancel intent active")
  else if v.pauseIntent then some (.precondition "dispatch_frozen_pause" "pause intent active")
  else none

theorem guardDispatch_eq_none {v : DispatchView} :
    guardDispatch v = none ↔ v.taskState.isDispatchable = true ∧ v.hasActiveContract = true ∧
      v.hasBlockingGate = false ∧ v.cancelIntent = false ∧ v.pauseIntent = false := by
  rw [guardDispatch]
  constructor
  · intro h
    split_ifs at h
    simp_all
  · rintro ⟨h₁, h₂, h₃, h₄, h₅⟩
    simp [h₁, h₂, h₃, h₄, h₅]

/-! ## Sending external effects -/

/-- What `guardSideEffectSend` looks at. -/
structure SendView where
  taskState : TaskState
  cancelIntent : Bool
  pauseIntent : Bool
  hasBlockingGate : Bool
  effectContractVersion : Nat
  /-- The version of the ACTIVE contract, if there is one. -/
  activeContractVersion : Option Nat
  approvalExpired : Bool
  effectState : SideEffectState
  allowedStates : List SideEffectState
  deriving DecidableEq, Repr

/-- Shared eligibility for registering and transmitting external effects. -/
def guardSideEffectSend (v : SendView) : Option Error :=
  if v.cancelIntent ∨ v.taskState = .cancelling then
    some (.precondition "dispatch_frozen_cancel" "cancel intent active")
  else if v.pauseIntent ∨ v.taskState = .pausing ∨ v.taskState = .paused then
    some (.precondition "dispatch_frozen_pause" "pause active; external dispatch frozen")
  else if v.taskState.isTerminal then
    some (.precondition "dispatch_blocked_state"
      ("task state " ++ v.taskState.text ++ " forbids external dispatch"))
  else if v.hasBlockingGate then
    some (.precondition "dispatch_frozen_gate" "blocking gate open; external dispatch frozen")
  else if v.activeContractVersion = none then
    some (.precondition "no_active_contract" "ACTIVE Contract required before external dispatch")
  else if v.activeContractVersion ≠ some v.effectContractVersion then
    some (.precondition "contract_replaced" "side effect authorized under superseded contract")
  else if v.approvalExpired then some (.precondition "approval_expired" "approval expired")
  else if v.effectState ∉ v.allowedStates then
    some (.precondition "not_authorized"
      ("effect not eligible for send: " ++ v.effectState.text))
  else none

/-- The guard passes exactly when every one of its conditions holds. -/
theorem guardSideEffectSend_eq_none {v : SendView} :
    guardSideEffectSend v = none ↔
      (v.cancelIntent = false ∧ v.taskState ≠ .cancelling) ∧
      (v.pauseIntent = false ∧ v.taskState ≠ .pausing ∧ v.taskState ≠ .paused) ∧
      v.taskState.isTerminal = false ∧ v.hasBlockingGate = false ∧
      v.activeContractVersion = some v.effectContractVersion ∧ v.approvalExpired = false ∧
      v.effectState ∈ v.allowedStates := by
  rw [guardSideEffectSend]
  constructor
  · intro h
    split_ifs at h
    simp_all
  · rintro ⟨⟨h₁, h₂⟩, ⟨h₃, h₄, h₅⟩, h₆, h₇, h₈, h₉, h₁₀⟩
    simp [h₁, h₂, h₃, h₄, h₅, h₆, h₇, h₈, h₉, h₁₀]

end HibikiCore
