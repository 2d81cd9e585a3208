import HibikiCore.Application.Control
import HibikiCore.Application.Outbox

/-!
# Reconciliation at startup

Claimed rows whose lease has expired are settled without sending anything again, and runs whose
process is missing are declared lost. Tasks that are paused, wait for a human or are being
cancelled are left alone.
-/

namespace HibikiCore

/-! ## Expired claims -/

/-- The claimed rows that are not leased any more. -/
def expiredOutbox (env : Env) (db : DB) : List (String × OutboxRow) :=
  db.outbox.select fun _ ob ↦ ob.status == .inFlight && ob.leasedUntil.all (· ≤ env.now)

/-- A dispatch that was claimed may have been sent: its effect is in doubt. -/
def expireDispatch (env : Env) (outboxId effectId : String) : Core Unit := do
  let db ← get
  Tx.withSome (db.sideEffects.find? effectId) fun effect ↦
    Tx.when (effect.state = .dispatching ∨ effect.state = .unknown) do
      Refs.sideEffects.update effectId fun e ↦
        { e with
          state := .unknown
          lastError := some (orElse e.lastError "outbox_inflight_timeout") }
      parkTask env effect.taskId .executionUncertain
  ackOutbox env outboxId false

/-- Settles one expired claim; the notes are handed along. -/
def expireRow (env : Env) (flushed : DB) (notes : List String) (r : String × OutboxRow) :
    Core (List String) :=
  match r.2.command with
  | .sideEffectDispatch payload => do
    expireDispatch env r.1 payload.effectId
    return notes ++ ["outbox_unknown:" ++ r.1]
  | .agentStart payload => do
    fenceClaimedAgentStart env flushed r.1 r.2 payload.runId "outbox_inflight_timeout"
    return notes ++ ["outbox_fence_start:" ++ r.1]
  | .agentStop _ _ => do
    Refs.outbox.update r.1 fun ob ↦ { ob with status := .pending, leasedUntil := none }
    return notes ++ ["outbox_reclaim:" ++ r.1]

/-! ## Runs -/

/-- Whether the container of a run still runs, or may. -/
def sandboxContainerAlive (env : Env) (run : AgentRunRow) : Bool :=
  run.sandboxExitUnconfirmed || (truthy run.sandboxContainerId).any env.containerRunning

/-- A workspace whose sandbox may be running is not released. -/
def quarantineUnconfirmed (run : AgentRunRow) (notes : List String) : Core (List String) := do
  let db ← get
  match (truthy run.workspaceId).filter fun wsId ↦ (db.workspaces.find? wsId).isSome with
  | none => return notes
  | some wsId => do
    Refs.workspaces.update wsId fun ws ↦ { ws with state := .quarantined, writerAlive := true }
    return notes ++ ["quarantine_unconfirmed:" ++ wsId]

/-- A run that is marked running and has no process is lost. -/
def loseRun (env : Env) (taskId runId : String) : Core Unit := do
  Refs.agentRuns.update runId fun r ↦
    { r with
      status := .lost
      terminalReason := some .processMissing
      finishedAt := some env.now }
  clearRunOccupancy runId true
  recoverWorkUnitAfterLostRun env runId
  appendEvent env taskId "run.lost" none [("run_id", .text runId)]

/-- A run that is alive after its lease keeps its workspace to itself. -/
def quarantineExpiredLease (env : Env) (run : AgentRunRow) (notes : List String) :
    Core (List String) := do
  let db ← get
  match (truthy run.workspaceId).filter fun wsId ↦ (db.workspaces.find? wsId).isSome with
  | some wsId =>
    if run.leaseExpiresAt < env.now then do
      Refs.workspaces.update wsId fun ws ↦ { ws with state := .quarantined }
      return notes ++ ["quarantine:" ++ wsId]
    else return notes
  | none => return notes

def reconcileRun (env : Env) (taskId : String) (notes : List String) (runId : String) :
    Core (List String) := do
  let run ← getRun runId
  if sandboxContainerAlive env run then quarantineUnconfirmed run notes
  else if run.status ≠ .running then return notes
  else if (env.inspect runId).alive = false then do
    loseRun env taskId runId
    return notes ++ ["lost:" ++ runId]
  else quarantineExpiredLease env run notes

/-- The states in which reconciliation leaves a task alone. -/
def TaskState.isKept : TaskState → Bool
  | .paused | .waitingHuman | .cancelling => true
  | _ => false

def reconcileTask (env : Env) (notes : List String) (taskId : String) : Core (List String) := do
  let task ← getTask taskId
  if task.state.isKept then return notes ++ ["keep:" ++ taskId ++ ":" ++ task.state.text]
  else do
    let db ← get
    Tx.fold (reconcileRun env taskId) notes (activeRuns db taskId)

/-- Startup reconciliation; the result are its notes. -/
def reconcile (env : Env) : Core (List String) := do
  let flushed ← get
  let notes ← Tx.fold (expireRow env flushed) [] (expiredOutbox env flushed)
  let db ← get
  Tx.fold (reconcileTask env) notes ((db.tasks.select fun _ _ ↦ true).map Prod.fst)

end HibikiCore
