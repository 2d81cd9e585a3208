import HibikiCore.Domain.Enums
import HibikiCore.Domain.Errors

/-!
# Transition tables

The tables are partial functions; a pair that is not in a table is an invalid transition.
-/

namespace HibikiCore

inductive TaskEvent
  | clarification | contractSubmitted | contractApproved | contractApprovedSimple
  | clarificationAnswered | decisionResolved | decisionResolvedWaiting | planActivated
  | blockingGateOpened | requiredOutputsReady | verificationFailed | acceptanceReady
  | finalAccepted | pauseRequested | runtimeQuiescent | resumeRequested | resumeRequestedRunnable
  | cancelRequested | cancellationSettled | taskFailed
  deriving DecidableEq, Repr

def TaskEvent.text : TaskEvent → String
  | .clarification => "clarification"
  | .contractSubmitted => "contract.submitted"
  | .contractApproved => "contract.approved"
  | .contractApprovedSimple => "contract.approved_simple"
  | .clarificationAnswered => "clarification.answered"
  | .decisionResolved => "decision.resolved"
  | .decisionResolvedWaiting => "decision.resolved_waiting"
  | .planActivated => "plan.activated"
  | .blockingGateOpened => "blocking_gate.opened"
  | .requiredOutputsReady => "required_outputs.ready"
  | .verificationFailed => "verification.failed"
  | .acceptanceReady => "acceptance.ready"
  | .finalAccepted => "final.accepted"
  | .pauseRequested => "pause.requested"
  | .runtimeQuiescent => "runtime.quiescent"
  | .resumeRequested => "resume.requested"
  | .resumeRequestedRunnable => "resume.requested_runnable"
  | .cancelRequested => "cancel.requested"
  | .cancellationSettled => "cancellation.settled"
  | .taskFailed => "task.failed"

def taskTransitions : TaskState → TaskEvent → Option TaskState
  | .new, .clarification => some .waitingHuman
  | .new, .contractSubmitted => some .waitingHuman
  | .waitingHuman, .contractSubmitted => some .waitingHuman
  | .waitingHuman, .contractApproved => some .planning
  | .waitingHuman, .contractApprovedSimple => some .executing
  | .waitingHuman, .clarificationAnswered => some .new
  | .waitingHuman, .decisionResolved => some .executing
  | .waitingHuman, .decisionResolvedWaiting => some .waitingHuman
  | .planning, .planActivated => some .executing
  | .executing, .planActivated => some .executing
  | .verifying, .planActivated => some .executing
  | .waitingHuman, .blockingGateOpened => some .waitingHuman
  | .planning, .blockingGateOpened => some .waitingHuman
  | .executing, .blockingGateOpened => some .waitingHuman
  | .verifying, .blockingGateOpened => some .waitingHuman
  | .executing, .requiredOutputsReady => some .verifying
  | .verifying, .verificationFailed => some .executing
  | .executing, .acceptanceReady => some .waitingHuman
  | .verifying, .acceptanceReady => some .waitingHuman
  | .planning, .acceptanceReady => some .waitingHuman
  | .waitingHuman, .finalAccepted => some .completed
  | .new, .pauseRequested => some .pausing
  | .waitingHuman, .pauseRequested => some .pausing
  | .planning, .pauseRequested => some .pausing
  | .executing, .pauseRequested => some .pausing
  | .verifying, .pauseRequested => some .pausing
  | .pausing, .runtimeQuiescent => some .paused
  | .paused, .resumeRequested => some .waitingHuman
  | .paused, .resumeRequestedRunnable => some .executing
  | .new, .cancelRequested => some .cancelling
  | .waitingHuman, .cancelRequested => some .cancelling
  | .planning, .cancelRequested => some .cancelling
  | .executing, .cancelRequested => some .cancelling
  | .verifying, .cancelRequested => some .cancelling
  | .pausing, .cancelRequested => some .cancelling
  | .paused, .cancelRequested => some .cancelling
  | .cancelling, .cancellationSettled => some .aborted
  | .new, .taskFailed => some .failed
  | .waitingHuman, .taskFailed => some .failed
  | .planning, .taskFailed => some .failed
  | .executing, .taskFailed => some .failed
  | .verifying, .taskFailed => some .failed
  | .pausing, .taskFailed => some .failed
  | .paused, .taskFailed => some .failed
  | _, _ => none

inductive WorkUnitEvent
  | runStarted | runRetryableFailed | runBlocked | runCompleted | blockCleared | unitFailed
  | unitCancelled
  deriving DecidableEq, Repr

def workUnitTransitions : WorkUnitStatus → WorkUnitEvent → Option WorkUnitStatus
  | .pending, .runStarted => some .running
  | .running, .runRetryableFailed => some .pending
  | .running, .runBlocked => some .blocked
  | .running, .runCompleted => some .done
  | .blocked, .blockCleared => some .pending
  | .pending, .unitFailed => some .failed
  | .running, .unitFailed => some .failed
  | .blocked, .unitFailed => some .failed
  | .pending, .unitCancelled => some .cancelled
  | .running, .unitCancelled => some .cancelled
  | .blocked, .unitCancelled => some .cancelled
  | _, _ => none

/-- `transition_work_unit` where the table has the move. -/
def transitionWorkUnit (current : WorkUnitStatus) (event : WorkUnitEvent)
    (h : (workUnitTransitions current event).isSome = true) : WorkUnitStatus :=
  (workUnitTransitions current event).get h

theorem runStarted_known : (workUnitTransitions .pending .runStarted).isSome = true := rfl

theorem runRetryableFailed_known :
    (workUnitTransitions .running .runRetryableFailed).isSome = true := rfl

theorem runBlocked_known : (workUnitTransitions .running .runBlocked).isSome = true := rfl

theorem runCompleted_known : (workUnitTransitions .running .runCompleted).isSome = true := rfl

theorem blockCleared_known : (workUnitTransitions .blocked .blockCleared).isSome = true := rfl

@[simp] theorem transitionWorkUnit_runStarted {h} :
    transitionWorkUnit .pending .runStarted h = .running := rfl

@[simp] theorem transitionWorkUnit_runRetryableFailed {h} :
    transitionWorkUnit .running .runRetryableFailed h = .pending := rfl

@[simp] theorem transitionWorkUnit_runBlocked {h} :
    transitionWorkUnit .running .runBlocked h = .blocked := rfl

@[simp] theorem transitionWorkUnit_runCompleted {h} :
    transitionWorkUnit .running .runCompleted h = .done := rfl

@[simp] theorem transitionWorkUnit_blockCleared {h} :
    transitionWorkUnit .blocked .blockCleared h = .pending := rfl

inductive RunEvent
  | start | fail | cancel | succeed | timeout | lost
  deriving DecidableEq, Repr

def RunEvent.text : RunEvent → String
  | .start => "start"
  | .fail => "fail"
  | .cancel => "cancel"
  | .succeed => "succeed"
  | .timeout => "timeout"
  | .lost => "lost"

def runTransitions : AgentRunStatus → RunEvent → Option AgentRunStatus
  | .created, .start => some .running
  | .created, .fail => some .failed
  | .created, .cancel => some .cancelled
  | .running, .succeed => some .succeeded
  | .running, .fail => some .failed
  | .running, .timeout => some .timedOut
  | .running, .cancel => some .cancelled
  | .running, .lost => some .lost
  | _, _ => none

inductive SideEffectEvent
  | requestApproval | preauthorize | approve | reject | claimDispatch | cancel | succeed
  | failConfirmed | uncertain
  deriving DecidableEq, Repr

def SideEffectEvent.text : SideEffectEvent → String
  | .requestApproval => "request_approval"
  | .preauthorize => "preauthorize"
  | .approve => "approve"
  | .reject => "reject"
  | .claimDispatch => "claim_dispatch"
  | .cancel => "cancel"
  | .succeed => "succeed"
  | .failConfirmed => "fail_confirmed"
  | .uncertain => "uncertain"

def sideEffectTransitions : SideEffectState → SideEffectEvent → Option SideEffectState
  | .proposed, .requestApproval => some .waitingApproval
  | .proposed, .preauthorize => some .authorized
  | .waitingApproval, .approve => some .authorized
  | .waitingApproval, .reject => some .cancelled
  | .authorized, .claimDispatch => some .dispatching
  | .authorized, .cancel => some .cancelled
  | .dispatching, .succeed => some .succeeded
  | .dispatching, .failConfirmed => some .failedConfirmed
  | .dispatching, .uncertain => some .unknown
  | .proposed, .cancel => some .cancelled
  | .waitingApproval, .cancel => some .cancelled
  | _, _ => none

/-- The error of a pair that is not in the table of an entity. -/
def Error.invalidTransition (entity event current : String) : Error :=
  ⟨.invalidTransition, "invalid_transition",
    entity ++ " cannot apply '" ++ event ++ "' from " ++ current⟩

/-! ## Classes of states -/

/-- A task that is completed, failed or aborted has ended. -/
def TaskState.isTerminal : TaskState → Bool
  | .completed | .failed | .aborted => true
  | _ => false

/-- The states from which runs are dispatched. -/
def TaskState.isDispatchable : TaskState → Bool
  | .planning | .executing | .verifying => true
  | _ => false

def WorkUnitStatus.isTerminal : WorkUnitStatus → Bool
  | .done | .failed | .cancelled => true
  | _ => false

def AgentRunStatus.isTerminal : AgentRunStatus → Bool
  | .created | .running => false
  | _ => true

/-- A run that is created or running still holds its assignment. -/
def AgentRunStatus.isActive (status : AgentRunStatus) : Bool := !status.isTerminal

/-- A terminal task state has no outgoing transition. -/
theorem taskTransitions_terminal {state : TaskState} (h : state.isTerminal = true)
    (event : TaskEvent) : taskTransitions state event = none := by
  cases state <;> simp_all [TaskState.isTerminal] <;> cases event <;> rfl

/-- Once cancellation was requested, the only way on is to settle it. -/
theorem taskTransitions_cancelling {event : TaskEvent} {next : TaskState}
    (h : taskTransitions .cancelling event = some next) : next = .aborted := by
  cases event <;> simp_all [taskTransitions]

end HibikiCore
