import Mathlib.Init

/-!
# Enumerations

The state names of the durable entities, with the texts they are stored and printed as.
-/

namespace HibikiCore

inductive ActorType
  | human | userAgent | internal
  deriving DecidableEq, Repr

def ActorType.text : ActorType → String
  | .human => "HUMAN"
  | .userAgent => "USER_AGENT"
  | .internal => "INTERNAL"

inductive TaskState
  | new | waitingHuman | planning | executing | verifying | pausing | paused | cancelling
  | completed | failed | aborted
  deriving DecidableEq, Repr

def TaskState.text : TaskState → String
  | .new => "NEW"
  | .waitingHuman => "WAITING_HUMAN"
  | .planning => "PLANNING"
  | .executing => "EXECUTING"
  | .verifying => "VERIFYING"
  | .pausing => "PAUSING"
  | .paused => "PAUSED"
  | .cancelling => "CANCELLING"
  | .completed => "COMPLETED"
  | .failed => "FAILED"
  | .aborted => "ABORTED"

inductive ContractStatus
  | draft | pendingApproval | active | superseded | rejected
  deriving DecidableEq, Repr

inductive DecisionKind
  | contractApproval | contractDelta | sideEffectApproval | finalAcceptance | clarification
  | resourceLimit
  deriving DecidableEq, Repr

def DecisionKind.text : DecisionKind → String
  | .contractApproval => "CONTRACT_APPROVAL"
  | .contractDelta => "CONTRACT_DELTA"
  | .sideEffectApproval => "SIDE_EFFECT_APPROVAL"
  | .finalAcceptance => "FINAL_ACCEPTANCE"
  | .clarification => "CLARIFICATION"
  | .resourceLimit => "RESOURCE_LIMIT"

inductive DecisionStatus
  | pending | approved | rejected | expired | superseded
  deriving DecidableEq, Repr

def DecisionStatus.text : DecisionStatus → String
  | .pending => "PENDING"
  | .approved => "APPROVED"
  | .rejected => "REJECTED"
  | .expired => "EXPIRED"
  | .superseded => "SUPERSEDED"

inductive GateLifecycle
  | opened | approvedPendingApply | resolved
  deriving DecidableEq, Repr

inductive PlanStatus
  | proposed | active | superseded | rejected
  deriving DecidableEq, Repr

inductive WorkUnitStatus
  | pending | running | blocked | done | failed | cancelled
  deriving DecidableEq, Repr

def WorkUnitStatus.text : WorkUnitStatus → String
  | .pending => "PENDING"
  | .running => "RUNNING"
  | .blocked => "BLOCKED"
  | .done => "DONE"
  | .failed => "FAILED"
  | .cancelled => "CANCELLED"

inductive AgentRunStatus
  | created | running | succeeded | failed | timedOut | cancelled | lost
  deriving DecidableEq, Repr

def AgentRunStatus.text : AgentRunStatus → String
  | .created => "CREATED"
  | .running => "RUNNING"
  | .succeeded => "SUCCEEDED"
  | .failed => "FAILED"
  | .timedOut => "TIMED_OUT"
  | .cancelled => "CANCELLED"
  | .lost => "LOST"

inductive AssignmentKind
  | plan | execute
  deriving DecidableEq, Repr

inductive SideEffectState
  | proposed | waitingApproval | authorized | dispatching | succeeded | failedConfirmed | unknown
  | cancelled
  deriving DecidableEq, Repr

def SideEffectState.text : SideEffectState → String
  | .proposed => "PROPOSED"
  | .waitingApproval => "WAITING_APPROVAL"
  | .authorized => "AUTHORIZED"
  | .dispatching => "DISPATCHING"
  | .succeeded => "SUCCEEDED"
  | .failedConfirmed => "FAILED_CONFIRMED"
  | .unknown => "UNKNOWN"
  | .cancelled => "CANCELLED"

inductive WorkspaceState
  | ready | locked | quarantined | archived
  deriving DecidableEq, Repr

/-- A verdict is a text; three texts are verdicts of the protocol. -/
inductive Verdict
  | pass | fail | blocked | other (text : String)
  deriving DecidableEq, Repr

inductive DependencyPredicate
  | done | verdictPass
  deriving DecidableEq, Repr

inductive OutboxStatus
  | pending | inFlight | acked | dead
  deriving DecidableEq, Repr

/-- Why a task waits. The gate command accepts reasons of the caller's own. -/
inductive WaitingReason
  | clarification | contractApproval | contractDelta | sideEffectApproval | finalAcceptance
  | resourceLimit | executionBlocked | executionUncertain | other (text : String)
  deriving DecidableEq, Repr

def WaitingReason.text : WaitingReason → String
  | .clarification => "clarification"
  | .contractApproval => "contract_approval"
  | .contractDelta => "contract_delta"
  | .sideEffectApproval => "side_effect_approval"
  | .finalAcceptance => "final_acceptance"
  | .resourceLimit => "resource_limit"
  | .executionBlocked => "execution_blocked"
  | .executionUncertain => "execution_uncertain"
  | .other text => text

/-- Why a work unit does not run. -/
inductive BlockedReason
  | paused | attemptsExhausted | lostRunEffectUnknown | contextOverflow | removedFromPlan
  | gate (reason : WaitingReason) | blockers (text : String)
  deriving DecidableEq, Repr

/-- The text that is stored, which is all that is compared. -/
def BlockedReason.text : BlockedReason → String
  | .paused => "paused"
  | .attemptsExhausted => "attempts_exhausted"
  | .lostRunEffectUnknown => "lost_run_effect_unknown"
  | .contextOverflow => "context_overflow"
  | .removedFromPlan => "removed_from_plan"
  | .gate reason => reason.text
  | .blockers text => text

end HibikiCore
