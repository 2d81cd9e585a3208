import HibikiCore.Application.Support

/-!
# Pausing, cancelling and gates

What is pending when a task is paused, cancelled or gated: starts and external effects that were
not sent are revoked, those that may have been sent are left in doubt, and live runs are stopped.
-/

namespace HibikiCore

open Value (ofNat)

/-! ## Revoking the outbox -/

/-- A claimed dispatch may have been sent: its effect is in doubt. -/
def revokeClaimedDispatch (env : Env) (outboxId effectId : String) : Core Unit := do
  Refs.sideEffects.updateWhere (fun k e ↦ k == effectId && e.state == .dispatching)
    fun e ↦ { e with state := .unknown }
  Refs.outbox.update outboxId fun ob ↦ { ob with status := .acked, ackedAt := some env.now }

/-- A dispatch that was not claimed was not sent. -/
def revokeUnsentDispatch (outboxId effectId : String) (task : TaskRow) : Core Unit := do
  Refs.outbox.update outboxId fun ob ↦
    { ob with status := .dead, revokeEpoch := task.revokeEpoch }
  Refs.sideEffects.updateWhere (fun k e ↦ k == effectId && e.state == .dispatching)
    fun e ↦ { e with state := if task.cancelIntent then .cancelled else .authorized }

/-- A start that was not sent: its run is cancelled and its unit pending again. -/
def revokeUnsentStart (env : Env) (outboxId runId : String) (task : TaskRow) : Core Unit := do
  Refs.outbox.update outboxId fun ob ↦
    { ob with status := .dead, revokeEpoch := task.revokeEpoch }
  let db ← get
  Tx.withSome (db.agentRuns.find? runId) fun run ↦
    Tx.when (run.status = .created) do
      Refs.agentRuns.update runId fun r ↦
        { r with
          status := .cancelled
          finishedAt := some env.now
          terminalReason := some .startRevoked }
      clearRunOccupancy runId true
      Tx.withSome run.workUnitId fun wuId ↦
        Refs.workUnitExecutions.updateWhere (fun k u ↦ k == wuId && u.status == .running)
          fun u ↦ { u with status := .pending, blockedReason := none, activeRunId := none }

/-- A start that was claimed, or whose agent may be alive: its workspace is kept. -/
def revokeUncertainStart (outboxId runId : String) (task : TaskRow) : Core Unit := do
  Refs.outbox.update outboxId fun ob ↦
    { ob with status := .dead, revokeEpoch := task.revokeEpoch }
  keepStartOccupancy runId

/-- One row in the revocation loop; the result are the runs to stop so far. -/
def revokeOutboxRow (env : Env) (task : TaskRow) (stops : List String)
    (row : String × OutboxRow) : Core (List String) :=
  match row.2.command with
  | .sideEffectDispatch payload =>
    if row.2.status = .inFlight then do
      revokeClaimedDispatch env row.1 payload.effectId
      return stops
    else do
      revokeUnsentDispatch row.1 payload.effectId task
      return stops
  | .agentStart payload =>
    if row.2.status = .inFlight ∨ adapterMayBeAlive env payload.runId = true then do
      revokeUncertainStart row.1 payload.runId task
      return stops ++ [payload.runId]
    else do
      revokeUnsentStart env row.1 payload.runId task
      return stops
  | .agentStop _ _ => return stops

/-- The starts and dispatches of a task that wait or are under way. -/
def revocableOutbox (db : DB) (taskId : String) : List (String × OutboxRow) :=
  db.outbox.select fun _ ob ↦ ob.taskId == taskId && ob.isLive && ob.command.stopRun.isNone

/-- Revokes unsent starts and unsent external dispatches. The stops it asks for do not see the
ones that this transaction asked for before. -/
def invalidatePendingOutbox (env : Env) (flushed : DB) (taskId : String) : Core Unit := do
  let task ← getTask taskId
  let db ← get
  let stops ← Tx.fold (revokeOutboxRow env task) [] (revocableOutbox db taskId)
  Tx.when (stops ≠ []) (enqueueStopsForRuns env flushed taskId stops "start_inflight_revoked")

/-! ## Pause and resume -/

def pauseTask (env : Env) (auth : AuthContext) (p : Payload) : Core CommandResult := do
  let flushed ← get
  let taskId ← key "task_id" p.taskId
  let task ← getTask taskId
  Tx.check (task.state ≠ .cancelling)
    (.precondition "cancelling" "cannot pause while cancelling")
  Refs.tasks.update taskId fun t ↦ { t with pauseIntent := true }
  setTaskState env taskId .pauseRequested none
  invalidatePendingOutbox env flushed taskId
  enqueueStops env flushed taskId "pause"
  appendEvent env taskId "pause.requested" auth.actorId []
  let task ← getTask taskId
  return .success [("task_id", .text taskId), ("state", .text task.state.text)]

/-- Ends what a paused task had under way. -/
def cancelPausedRun (env : Env) (runId : String) : Core Unit := do
  Refs.agentRuns.update runId fun r ↦
    { r with
      status := .cancelled
      finishedAt := some env.now
      terminalReason := some .paused }
  clearRunOccupancy runId true

/-- The active runs of a task. -/
def activeRuns (db : DB) (taskId : String) : List String :=
  (db.agentRuns.select fun _ r ↦ r.taskId == taskId && r.status.isActive).map Prod.fst

def runtimeQuiescent (env : Env) (auth : AuthContext) (p : Payload) : Core CommandResult := do
  let taskId ← key "task_id" p.taskId
  let task ← getTask taskId
  Tx.check (task.state = .pausing) (.precondition "invalid_state" "not pausing")
  let db ← get
  -- the quarantine that precedes this refusal is rolled back with it
  Tx.check (taskHasLiveWriter env db taskId = false)
    (.precondition "writer_alive" "writer still alive; cannot mark PAUSED")
  Refs.workUnitExecutions.updateWhere (fun _ u ↦ u.taskId == taskId && u.status == .running)
    fun u ↦ { u with status := .blocked, blockedReason := some .paused, activeRunId := none }
  Tx.each (activeRuns db taskId) (cancelPausedRun env)
  Refs.tasks.update taskId fun t ↦ { t with pauseIntent := false }
  setTaskState env taskId .runtimeQuiescent none
  appendEvent env taskId "task.paused" auth.actorId []
  let task ← getTask taskId
  return .success [("task_id", .text taskId), ("state", .text task.state.text)]

def resumeTask (env : Env) (auth : AuthContext) (p : Payload) : Core CommandResult := do
  let taskId ← key "task_id" p.taskId
  let task ← getTask taskId
  Tx.check (task.state = .paused) (.precondition "invalid_state" "not paused")
  let db ← get
  if hasBlockingGate db taskId then
    setTaskState env taskId .resumeRequested (task.stateReason <|> some .contractApproval)
  else do
    setTaskState env taskId .resumeRequestedRunnable none
    Refs.workUnitExecutions.updateWhere
      (fun _ u ↦ u.taskId == taskId && u.status == .blocked && u.isPaused)
      fun u ↦ { u with status := .pending, blockedReason := none }
  appendEvent env taskId "task.resumed" auth.actorId []
  let task ← getTask taskId
  return .success [("task_id", .text taskId), ("state", .text task.state.text)]

/-! ## Cancel -/

/-- The states of an effect that a cancellation looks at. -/
def SideEffectState.isCancellable : SideEffectState → Bool
  | .proposed | .waitingApproval | .authorized | .dispatching => true
  | _ => false

/-- The query that looks for a dispatch that was not claimed; it sees flushed rows only. -/
def dispatchStillPending (flushed : DB) (taskId effectId : String) : Bool :=
  !(flushed.outbox.select fun _ ob ↦ ob.taskId == taskId && ob.status == .pending
    && ob.command.dispatchEffect == some effectId).isEmpty

/-- The second pass over one effect: the query found it by its flushed state, and the branch is
taken by the state it has in memory. -/
def cancelEffect (flushed : DB) (taskId effectId : String) : Core Unit := do
  let db ← get
  Tx.withSome (db.sideEffects.find? effectId) fun effect ↦
    if effect.state = .dispatching then
      Tx.when (dispatchStillPending flushed taskId effectId = true) do
        Refs.sideEffects.update effectId fun e ↦ { e with state := .cancelled }
    else Refs.sideEffects.update effectId fun e ↦ { e with state := .cancelled }

/-- The effects the second pass of a cancellation walks, by their flushed states. -/
def cancellableEffects (flushed : DB) (taskId : String) : List String :=
  (flushed.sideEffects.select fun _ e ↦
    e.taskId == taskId && e.state.isCancellable).map Prod.fst

/-- The units a cancellation ends, by their flushed states. -/
def cancellableUnits (flushed : DB) (taskId : String) : List String :=
  (flushed.workUnitExecutions.select fun _ u ↦
    u.taskId == taskId && (u.status == .pending || u.status == .blocked)).map Prod.fst

def cancelTask (env : Env) (auth : AuthContext) (p : Payload) : Core CommandResult := do
  let flushed ← get
  let taskId ← key "task_id" p.taskId
  let _ ← getTask taskId
  Refs.tasks.update taskId fun t ↦
    { t with cancelIntent := true, revokeEpoch := t.revokeEpoch + 1 }
  setTaskState env taskId .cancelRequested none
  invalidatePendingOutbox env flushed taskId
  Tx.each (cancellableEffects flushed taskId) (cancelEffect flushed taskId)
  Tx.each (cancellableUnits flushed taskId) fun wuId ↦
    Refs.workUnitExecutions.update wuId fun u ↦ { u with status := .cancelled }
  enqueueStops env flushed taskId "cancel"
  appendEvent env taskId "cancel.requested" auth.actorId []
  let task ← getTask taskId
  return .success
    [("task_id", .text taskId), ("state", .text task.state.text),
      ("revoke_epoch", ofNat task.revokeEpoch)]

def cancellationSettled (env : Env) (auth : AuthContext) (p : Payload) : Core CommandResult := do
  let taskId ← key "task_id" p.taskId
  let task ← getTask taskId
  Tx.check (task.state = .cancelling) (.precondition "invalid_state" "not cancelling")
  let db ← get
  Tx.check (p.acceptUnknown = true ∨ (db.sideEffects.select fun _ e ↦ e.taskId == taskId
      && (e.state == .unknown || e.state == .dispatching)) = [])
    (.precondition "unresolved_external" "unresolved external effects")
  assertNoLiveWriters env taskId
  Refs.agentRuns.updateWhere (fun _ r ↦ r.taskId == taskId && r.status.isActive) fun r ↦
    { r with status := .cancelled, finishedAt := some env.now }
  setTaskState env taskId .cancellationSettled none
  appendEvent env taskId "task.aborted" auth.actorId []
  let task ← getTask taskId
  return .success [("task_id", .text taskId), ("state", .text task.state.text)]

/-! ## Gates -/

/-- The reason a gate is opened with. -/
def gateReason (p : Payload) : WaitingReason :=
  match truthy p.reason with
  | some text => .other text
  | none => .executionBlocked

/-- The run a gate names is blocked: its unit waits, and it is stopped. -/
def blockGatedRun (env : Env) (flushed : DB) (taskId runId : String) (reason : WaitingReason) :
    Core Unit := do
  let db ← get
  Tx.withSome (db.agentRuns.find? runId) fun run ↦
    Tx.withSome run.workUnitId fun wuId ↦ do
      Refs.workUnitExecutions.updateWhere (fun k u ↦ k == wuId && u.status == .running)
        fun u ↦ { u with status := .blocked, blockedReason := some (.gate reason),
                         activeRunId := none }
      Tx.when (db.activeExecuteRunMarkers.find? wuId = some ⟨runId⟩) do
        Refs.activeExecuteRunMarkers.delete wuId
      Tx.when (run.status = .running) do
        Refs.agentRuns.update runId fun r ↦
          { r with
            status := .succeeded
            result := some { outcome := some .blocked, blockers := [reason.text] }
            finishedAt := some env.now }
      enqueueStopsForRuns env flushed taskId [runId] "blocking_gate"

def openBlockingGate (env : Env) (_auth : AuthContext) (p : Payload) : Core CommandResult := do
  let flushed ← get
  let taskId ← key "task_id" p.taskId
  let _ ← getTask taskId
  let decisionId ← newId env "dec"
  let reason := gateReason p
  add Refs.decisions decisionId
    (pendingDecision env taskId .clarification (orElse p.targetRef "gate") 1
      (.gateRequest taskId p.reason p.targetRef p.runId) Defaults.decisionTtl)
  openGate env taskId decisionId reason
  Tx.withSome (truthy p.runId) fun runId ↦ blockGatedRun env flushed taskId runId reason
  setTaskState env taskId .blockingGateOpened (some reason)
  invalidatePendingOutbox env flushed taskId
  let task ← getTask taskId
  return .success
    [("task_id", .text taskId), ("decision_id", .text decisionId),
      ("state", .text task.state.text)]

end HibikiCore
