import HibikiCore.Application.Environment
import HibikiCore.Text.Basic
import HibikiCore.Domain.Plan

/-!
# What the commands share

Task state, gates, the ACTIVE contract, the occupancy of work units, sessions and workspaces by
runs, stops, lost runs, and the eligibility of an external effect.

A query of the session sees what was flushed, and a row that is loaded keeps the values that were
assigned to it since. Where the two differ inside one transaction, the function takes the flushed
database as an argument of its own: it is the state from before the rows that the transaction has
added and not flushed.
-/

namespace HibikiCore

/-! ## Task state and gates -/

/-- Moves a task along its transition table. -/
def setTaskState (env : Env) (taskId : String) (event : TaskEvent)
    (reason : Option WaitingReason) : Core Unit := do
  let task ← getTask taskId
  let next ← Tx.require (taskTransitions task.state event)
    (.invalidTransition "Task" event.text task.state.text)
  Refs.tasks.update taskId fun t ↦
    { t with
      state := next
      stateReason := reason
      stateRevision := t.stateRevision + 1
      updatedAt := env.now }

/-- The unresolved gates of a task. -/
def blockingGates (db : DB) (taskId : String) : List (String × GateRow) :=
  db.gates.select fun _ g ↦ g.taskId == taskId && g.isUnresolved

def hasBlockingGate (db : DB) (taskId : String) : Bool := !(blockingGates db taskId).isEmpty

theorem hasBlockingGate_iff {db : DB} {taskId : String} :
    hasBlockingGate db taskId = true ↔
      ∃ k g, db.gates.find? k = some g ∧ g.taskId = taskId ∧ g.isUnresolved = true := by
  rw [hasBlockingGate, Bool.not_eq_true', List.isEmpty_eq_false_iff_exists_mem, blockingGates]
  simp only [Table.mem_select, Prod.exists, Bool.and_eq_true, beq_iff_eq]

def otherBlockingGates (db : DB) (taskId : String) (excludeDecisionId : Option String) :
    List (String × GateRow) :=
  (blockingGates db taskId).filter fun g ↦ some g.2.decisionId != excludeDecisionId

/-- Marks the gates of a decision. -/
def setGates (decisionId : String) (lifecycle : GateLifecycle) (resolvedAt : Option Time) :
    Core Unit :=
  Refs.gates.updateWhere (fun _ g ↦ g.decisionId == decisionId) fun g ↦
    { g with lifecycle, resolvedAt := resolvedAt <|> g.resolvedAt }

def resolveGates (env : Env) (decisionId : String) : Core Unit :=
  setGates decisionId .resolved (some env.now)

/-- Opens a gate for a decision that waits for a human. -/
def openGate (env : Env) (taskId decisionId : String) (reason : WaitingReason) : Core Unit := do
  let gateId ← newId env "gate"
  add Refs.gates gateId
    { taskId, decisionId, reason, lifecycle := .opened, createdAt := env.now, resolvedAt := none }

/-- A decision that waits for a human, about a target; other columns are set by the caller. -/
def pendingDecision (env : Env) (taskId : String) (kind : DecisionKind) (targetRef : String)
    (targetVersion : Nat) (targetHash : Digest) (ttl : Time) : DecisionRow where
  taskId := taskId
  decisionKind := kind
  targetRef := targetRef
  targetVersion := targetVersion
  targetHash := targetHash
  contractVersion := none
  explanationRef := none
  explanationHash := none
  parametersHash := none
  resultSnapshotRef := none
  status := .pending
  choice := none
  decidedByActor := none
  decidedByPrincipal := none
  decidedAt := none
  createdAt := env.now
  expiresAt := env.now + ttl
  gateLifecycle := .opened
  payload := none

/-- The reason of a unit reads as that of a pause. -/
def WorkUnitExecutionRow.isPaused (u : WorkUnitExecutionRow) : Bool :=
  u.blockedReason.any fun r ↦ r.text == "paused"

/-- Units that a resolved gate sets free again. -/
def WorkUnitExecutionRow.isGateBlocked (u : WorkUnitExecutionRow) (taskId : String) : Bool :=
  u.taskId == taskId && u.status == .blocked
    && !u.blockedReason.any fun r ↦ r.text == "paused" || r.text == "attempts_exhausted"

/-- After a gate resolves, leaves WAITING_HUMAN only if no other gate remains. -/
def recomputeRunnableState (env : Env) (taskId : String) : Core Unit := do
  let task ← getTask taskId
  let db ← get
  Tx.when (task.state = .waitingHuman ∧ hasBlockingGate db taskId = false
      ∧ task.cancelIntent = false) do
    Refs.workUnitExecutions.updateWhere (fun _ u ↦ u.isGateBlocked taskId) fun u ↦
      { u with
        status := transitionWorkUnit .blocked .blockCleared blockCleared_known
        blockedReason := none
        activeRunId := none }
    setTaskState env taskId .decisionResolved none

def supersedePendingAcceptance (env : Env) (taskId : String) : Core Unit := do
  let db ← get
  let pending := db.decisions.select fun _ d ↦
    d.taskId == taskId && d.decisionKind == .finalAcceptance && d.status == .pending
  Tx.each pending fun d ↦ do
    Refs.decisions.update d.1 fun r ↦ { r with status := .superseded }
    resolveGates env d.1

/-! ## The ACTIVE contract -/

/-- The row the marker of a task names, with its version. -/
def activeContract (taskId : String) : Core (Option (Nat × ContractRow)) := do
  let db ← get
  match db.activeContractMarkers.find? taskId with
  | none => return none
  | some marker =>
    let contract ← Tx.require (db.contracts.find? (taskId, marker.contractVersion)) .noResult
    return some (marker.contractVersion, contract)

instance activeContract_respects {R : DB → DB → Prop} [Preord R] {taskId : String} :
    Respects R (activeContract taskId) := by
  rw [activeContract]
  exact .seq inferInstance fun _ ↦ by split <;> infer_instance

theorem activeContract_ok {taskId : String} {contract : Option (Nat × ContractRow)} {s s' : DB} :
    activeContract taskId s = .ok (contract, s') ↔
      (s' = s ∧ (s.activeContractMarkers.find? taskId = none ∧ contract = none ∨
        ∃ version row, s.activeContractMarkers.find? taskId = some ⟨version⟩ ∧
          s.contracts.find? (taskId, version) = some row ∧ contract = some (version, row))) := by
  rw [activeContract, Tx.get_bind_ok]
  cases s.activeContractMarkers.find? taskId with
  | none => simp [and_comm]
  | some marker =>
    simp only [Tx.bind_ok, Tx.require_ok, Tx.pure_ok]
    constructor
    · rintro ⟨row, _, ⟨hrow, rfl⟩, rfl, rfl⟩
      exact ⟨rfl, .inr ⟨marker.contractVersion, row, rfl, hrow, rfl⟩⟩
    · rintro ⟨rfl, ⟨hnone, -⟩ | ⟨version, row, hmarker, hrow, rfl⟩⟩
      · cases hnone
      · obtain rfl := Option.some.inj hmarker
        exact ⟨row, _, ⟨hrow, rfl⟩, rfl, rfl⟩

def noActiveContract : Error := .precondition "no_active_contract" "no ACTIVE contract"

/-- The contract a task names, which need not be the one its marker names. -/
def taskContract (db : DB) (taskId : String) (task : TaskRow) : Option ContractRow :=
  task.contractVersion.bind fun v ↦ db.contracts.find? (taskId, v)

/-- The permission ceiling and the limits of the contract of a task. -/
def contractAndLimits (db : DB) (taskId : String) (task : TaskRow) :
    List String × ResourceLimits :=
  match taskContract db taskId task with
  | none => ([], {})
  | some contract =>
    (match contract.content.permissionCeiling with
      | some (.object tools) => tools
      | some (.bare tools) => tools
      | none => [],
    contract.content.resourceLimits.getD {})

/-- A positive budget, or the fallback. -/
def intOr (value : Option Int) (fallback : Int) : Int :=
  match value with
  | some v => if 0 < v then v else fallback
  | none => fallback

/-! ## Occupancy -/

/-- A run that ended gives up its session, its work unit and, unless told otherwise, its
workspace; while the exit of its sandbox is in doubt the workspace is quarantined instead. -/
def clearRunOccupancy (runId : String) (releaseWorkspace : Bool) : Core Unit := do
  let run ← getRun runId
  let db ← get
  Tx.when (run.assignmentKind = .plan) do
    Tx.withSome run.plannerSessionId fun sessionId ↦ do
      Tx.when (db.activePlanRunMarkers.find? sessionId = some ⟨runId⟩) do
        Refs.activePlanRunMarkers.delete sessionId
      Refs.plannerSessions.updateWhere (fun k ps ↦ k == sessionId && ps.activeRunId == some runId)
        fun ps ↦ { ps with activeRunId := none }
  Tx.withSome run.workUnitId fun wuId ↦ do
    Tx.when (db.activeExecuteRunMarkers.find? wuId = some ⟨runId⟩) do
      Refs.activeExecuteRunMarkers.delete wuId
    Refs.workUnitExecutions.updateWhere (fun k u ↦ k == wuId && u.activeRunId == some runId)
      fun u ↦ { u with activeRunId := none }
  Tx.when (releaseWorkspace = true) do
    Tx.withSome run.workspaceId fun wsId ↦ do
      if run.sandboxExitUnconfirmed then
        Refs.workspaces.updateWhere (fun k ws ↦ k == wsId && ws.ownerRunId == some runId)
          fun ws ↦ { ws with writerAlive := true, state := .quarantined }
      else
        Refs.workspaces.updateWhere (fun k ws ↦ k == wsId && ws.ownerRunId == some runId)
          fun ws ↦ { ws with writerAlive := false, state := .ready, ownerRunId := none }

/-- A container exit releases the workspace only of a run that has itself ended. -/
def releaseWorkspaceAfterConfirmedExit (runId : String) : Core Unit := do
  let run ← getRun runId
  Tx.when (run.status.isTerminal = true) do
    Tx.withSome run.workspaceId fun wsId ↦ do
      Refs.workspaces.updateWhere (fun k ws ↦ k == wsId && ws.ownerRunId == some runId)
        fun ws ↦ { ws with writerAlive := false, state := .ready, ownerRunId := none }

def adapterMayBeAlive (env : Env) (runId : String) : Bool :=
  (env.inspect runId).alive || (env.inspect runId).writerAlive

/-- A start may have reached the adapter: the workspace is not freed yet. -/
def keepStartOccupancy (runId : String) : Core Unit := do
  let db ← get
  Tx.withSome ((db.agentRuns.find? runId).bind AgentRunRow.workspaceId) fun wsId ↦ do
    Refs.workspaces.updateWhere (fun k ws ↦ k == wsId && ws.ownerRunId == some runId)
      fun ws ↦ { ws with writerAlive := true }

/-! ## Outbox -/

/-- The row of a command that waits to be claimed. -/
def pendingOutbox (env : Env) (taskId : String) (command : OutboxCommand) (revokeEpoch : Nat) :
    OutboxRow where
  taskId := taskId
  command := command
  status := .pending
  revokeEpoch := revokeEpoch
  createdAt := env.now
  leasedUntil := none
  ackedAt := none

def enqueue (env : Env) (taskId : String) (command : OutboxCommand) (revokeEpoch : Nat) :
    Core Unit := do
  let outboxId ← newId env "ob"
  add Refs.outbox outboxId (pendingOutbox env taskId command revokeEpoch)

/-- The runs of a task for which a stop waits or is under way. -/
def pendingStops (db : DB) (taskId : String) : List String :=
  (db.outbox.select fun _ ob ↦ ob.taskId == taskId && ob.isLive).filterMap fun r ↦
    r.2.command.stopRun

/-- Asks for stops, except of runs for which a flushed row asks already. -/
def enqueueStopsForRuns (env : Env) (flushed : DB) (taskId : String) (runIds : List String)
    (reason : String) : Core Unit := do
  let task ← getTask taskId
  Tx.each runIds fun runId ↦
    Tx.when (runId ∉ pendingStops flushed taskId) do
      enqueue env taskId (.agentStop runId reason) task.revokeEpoch

/-- Stop targets: active runs, and any run whose workspace may still have a writer. -/
def runsRequiringStop (env : Env) (db : DB) (taskId : String) : List String :=
  (db.agentRuns.select fun runId run ↦ run.taskId == taskId &&
    (run.status.isActive ||
      match run.workspaceId.bind db.workspaces.find? with
      | some ws => ws.ownerRunId == some runId && (adapterMayBeAlive env runId || ws.writerAlive)
      | none => false)).map Prod.fst

def enqueueStops (env : Env) (flushed : DB) (taskId : String) (reason : String) : Core Unit := do
  let db ← get
  enqueueStopsForRuns env flushed taskId (runsRequiringStop env db taskId) reason

/-- A claimed start is uncertain: its row is dead, its occupancy stays, and it is stopped. -/
def fenceClaimedAgentStart (env : Env) (flushed : DB) (outboxId : String) (row : OutboxRow)
    (runId reason : String) : Core Unit := do
  Refs.outbox.update outboxId fun ob ↦ { ob with status := .dead, leasedUntil := none }
  let db ← get
  Tx.withSome (db.tasks.find? row.taskId) fun task ↦ do
    Refs.outbox.update outboxId fun ob ↦ { ob with revokeEpoch := task.revokeEpoch }
  Tx.when ((db.agentRuns.find? runId).isSome = true) do
    keepStartOccupancy runId
    Tx.when ((db.tasks.find? row.taskId).isSome = true) do
      enqueueStopsForRuns env flushed row.taskId [runId] reason

/-! ## Lost runs -/

inductive RecoveryPolicy
  | blocked | retry
  deriving DecidableEq, Repr

/-- A lost run that may have had an effect is never retried, nor one without attempts left. -/
def lostRunRecoveryPolicy (hasEffect : Bool) (attempts maxAttempts : Nat) : RecoveryPolicy :=
  if hasEffect then .blocked else if maxAttempts ≤ attempts then .blocked else .retry

/-- Whether a run may have reached the outside world. -/
def hadEffect (db : DB) (runId : String) (run : AgentRunRow) : Bool :=
  (truthy run.resultRef).isSome
    || !(db.toolInvocations.select fun _ i ↦ i.runId == runId
        && (i.toolName == "shell.run" || i.toolName == "artifact.publish") && i.allowed
        && i.outcome == some .ok).isEmpty
    || !(db.artifacts.select fun _ a ↦ a.runId == some runId && a.artifactUri.isSome).isEmpty

/-- Parks a task for a human, unless it has ended or waits already. -/
def parkTask (env : Env) (taskId : String) (reason : WaitingReason) : Core Unit := do
  let db ← get
  Tx.withSome (db.tasks.find? taskId) fun task ↦
    Tx.when (task.state.isTerminal = false ∧ task.state ≠ .waitingHuman) do
      setTaskState env taskId .blockingGateOpened (some reason)

/-- After a run was declared lost, its work unit is runnable again or blocked with a reason. -/
def recoverWorkUnitAfterLostRun (env : Env) (runId : String) : Core Unit := do
  let run ← getRun runId
  let db ← get
  Tx.withSome run.workUnitId fun wuId ↦
    Tx.withSome (db.workUnitExecutions.find? wuId) fun wu ↦
      Tx.when (wu.status = .running) do
        if lostRunRecoveryPolicy (hadEffect db runId run) wu.attemptCount
            Defaults.maxWorkUnitAttempts = .blocked ∧ hadEffect db runId run = true then do
          Refs.workUnitExecutions.update wuId fun u ↦
            { u with
              status := transitionWorkUnit .running .runBlocked runBlocked_known
              blockedReason := some .lostRunEffectUnknown
              nextRetryAt := none }
          parkTask env run.taskId .executionUncertain
        else if Defaults.maxWorkUnitAttempts ≤ wu.attemptCount then do
          Refs.workUnitExecutions.update wuId fun u ↦
            { u with
              status := transitionWorkUnit .running .runBlocked runBlocked_known
              blockedReason := some .attemptsExhausted
              nextRetryAt := none }
          parkTask env run.taskId .executionBlocked
        else
          Refs.workUnitExecutions.update wuId fun u ↦
            { u with
              status := transitionWorkUnit .running .runRetryableFailed runRetryableFailed_known
              nextRetryAt := some (env.now
                + Defaults.retryBackoffSeconds.getD (min (wu.attemptCount - 1) 1) 0)
              blockedReason := none }

/-! ## Live writers -/

/-- Whether a run of a task may still have a process or a writer. -/
def taskHasLiveWriter (env : Env) (db : DB) (taskId : String) : Bool :=
  (db.agentRuns.select fun _ run ↦ run.taskId == taskId).any fun r ↦
    (r.2.status.isActive && adapterMayBeAlive env r.1) ||
      match r.2.workspaceId.bind db.workspaces.find? with
      | some ws => ws.ownerRunId == some r.1 && (adapterMayBeAlive env r.1 || ws.writerAlive)
      | none => false

def assertNoLiveWriters (env : Env) (taskId : String) : Core Unit := do
  let db ← get
  Tx.check (taskHasLiveWriter env db taskId = false)
    (.precondition "writer_alive" "executor still alive or workspace writer not released")

def countActiveRuns (db : DB) : Nat :=
  (db.agentRuns.select fun _ run ↦ run.status.isActive).length

def countTaskActiveRuns (db : DB) (taskId : String) : Nat :=
  (db.agentRuns.select fun _ run ↦ run.status.isActive && run.taskId == taskId).length

/-! ## Sending external effects -/

/-- The precondition an effect fails to meet for being sent, if any. -/
def sideEffectEligibility (env : Env) (taskId effectId : String)
    (allowedStates : List SideEffectState) : Core (Option Error) := do
  let contract ← activeContract taskId
  let task ← getTask taskId
  let db ← get
  let effect ← Tx.require (db.sideEffects.find? effectId)
    (.notFound "not_found" "effect not found")
  return guardSideEffectSend
    { taskState := task.state
      cancelIntent := task.cancelIntent
      pauseIntent := task.pauseIntent
      hasBlockingGate := hasBlockingGate db taskId
      effectContractVersion := effect.contractVersion
      activeContractVersion := contract.map Prod.fst
      approvalExpired := effect.expiresAt.any (· < env.now)
      effectState := effect.state
      allowedStates }

instance sideEffectEligibility_respects {R : DB → DB → Prop} [Preord R] {env : Env}
    {taskId effectId : String} {allowed : List SideEffectState} :
    Respects R (sideEffectEligibility env taskId effectId allowed) := by
  rw [sideEffectEligibility]
  infer_instance

/-- What holds of an effect that may be sent. -/
structure Sendable (env : Env) (db : DB) (taskId : String) (task : TaskRow)
    (effect : SideEffectRow) (allowed : List SideEffectState) : Prop where
  row : db.tasks.find? taskId = some task
  cancel : task.cancelIntent = false ∧ task.state ≠ .cancelling
  pause : task.pauseIntent = false ∧ task.state ≠ .pausing ∧ task.state ≠ .paused
  live : task.state.isTerminal = false
  gate : hasBlockingGate db taskId = false
  contract : ∃ row, db.activeContractMarkers.find? taskId = some ⟨effect.contractVersion⟩ ∧
    db.contracts.find? (taskId, effect.contractVersion) = some row
  unexpired : effect.expiresAt.any (· < env.now) = false
  state : effect.state ∈ allowed

/-- An effect to which nothing is objected may be sent. -/
theorem sideEffectEligibility_none {env : Env} {taskId effectId : String}
    {allowed : List SideEffectState} {effect : SideEffectRow} {s s' : DB}
    (heffect : s.sideEffects.find? effectId = some effect)
    (h : sideEffectEligibility env taskId effectId allowed s = .ok (none, s')) :
    ∃ task, Sendable env s taskId task effect allowed := by
  obtain ⟨contract, t₁, hcontract, h₁⟩ := Tx.bind_ok.mp h
  obtain ⟨rfl, hactive⟩ := activeContract_ok.mp hcontract
  obtain ⟨task, t₂, hget, h₂⟩ := Tx.bind_ok.mp h₁
  obtain ⟨htask, rfl⟩ := getTask_ok.mp hget
  rw [Tx.get_bind_ok] at h₂
  obtain ⟨effect', t₃, hrequire, h₃⟩ := Tx.bind_ok.mp h₂
  obtain ⟨heffect', rfl⟩ := Tx.require_ok.mp hrequire
  obtain rfl := Option.some.inj (heffect.symm.trans heffect')
  have hnone := (Tx.pure_ok.mp h₃).1.symm
  obtain ⟨hcancel, hpause, hlive, hgate, hversion, hexpired, hstate⟩ :=
    guardSideEffectSend_eq_none.mp hnone
  refine ⟨task, htask, hcancel, hpause, hlive, hgate, ?_, hexpired, hstate⟩
  rcases hactive with ⟨-, rfl⟩ | ⟨version, row, hmarker, hrow, rfl⟩
  · cases hversion
  · obtain rfl : version = effect.contractVersion := Option.some.inj hversion
    exact ⟨row, hmarker, hrow⟩

/-! ## Identity of a caller -/

def assertTaskPrincipal (auth : AuthContext) (task : TaskRow) : Core Unit :=
  Tx.check (auth.principalId = task.principalId) (.authorization "task principal mismatch")

/-- Binds a write of a run to its task, its identity and its epochs. -/
def assertRunWriteBinding (auth : AuthContext) (runId : String) (run : AgentRunRow)
    (payloadTaskId payloadRunId : Option String) (fencingEpoch : Option Nat)
    (requireFencing : Bool) : Core Unit := do
  let task ← getTask run.taskId
  Tx.check (auth.principalId = task.principalId) (.authorization "run principal mismatch")
  Tx.when (requireFencing = true) do
    let epoch ← Tx.require fencingEpoch (.conflict "fencing_required" "fencing_epoch required")
    Tx.check (epoch = run.fencingEpoch)
      (.conflict "fencing_conflict" "fencing epoch mismatch")
  Tx.check (payloadTaskId.all (· = run.taskId)) (.authorization "run task mismatch")
  Tx.check (payloadRunId.all (· = runId)) (.authorization "run id mismatch")
  Tx.check (auth.boundTaskId = some run.taskId ∧ auth.boundRunId = some runId
      ∧ auth.boundFencingEpoch = some run.fencingEpoch
      ∧ auth.boundGrantEpoch = some run.grantEpoch ∧ auth.actorId = run.agentInstanceId)
    (.authorization "authenticated runtime is not bound to this run")

/-- What holds of a write that is bound to a run. -/
structure RunBound (auth : AuthContext) (runId : String) (run : AgentRunRow) (task : TaskRow)
    (payloadTaskId payloadRunId : Option String) (fencingEpoch : Option Nat) : Prop where
  principal : auth.principalId = task.principalId
  fencing : fencingEpoch = some run.fencingEpoch
  sameTask : payloadTaskId.all (· = run.taskId)
  sameRun : payloadRunId.all (· = runId)
  runtime : auth.boundTaskId = some run.taskId ∧ auth.boundRunId = some runId
    ∧ auth.boundFencingEpoch = some run.fencingEpoch
    ∧ auth.boundGrantEpoch = some run.grantEpoch ∧ auth.actorId = run.agentInstanceId

theorem assertRunWriteBinding_ok {auth : AuthContext} {runId : String} {run : AgentRunRow}
    {t r : Option String} {epoch : Option Nat} {s s' : DB} :
    assertRunWriteBinding auth runId run t r epoch true s = .ok ((), s') ↔
      s' = s ∧ ∃ task, s.tasks.find? run.taskId = some task ∧
        RunBound auth runId run task t r epoch := by
  rw [assertRunWriteBinding]
  constructor
  · intro h
    obtain ⟨task, s₁, hget, h₁⟩ := Tx.bind_ok.mp h
    obtain ⟨htask, rfl⟩ := getTask_ok.mp hget
    obtain ⟨_, s₂, hprincipal, h₂⟩ := Tx.bind_ok.mp h₁
    obtain ⟨hp, rfl⟩ := Tx.check_ok.mp hprincipal
    obtain ⟨_, s₃, hfencing, h₃⟩ := Tx.bind_ok.mp h₂
    simp only [Tx.when_ok, Tx.bind_ok, Tx.require_ok, Tx.check_ok, true_and, not_true,
      false_and, or_false] at hfencing
    obtain ⟨e, _, ⟨he, rfl⟩, rfl, rfl⟩ := hfencing
    obtain ⟨_, s₄, htaskId, h₄⟩ := Tx.bind_ok.mp h₃
    obtain ⟨ht, rfl⟩ := Tx.check_ok.mp htaskId
    obtain ⟨_, s₅, hrunId, h₅⟩ := Tx.bind_ok.mp h₄
    obtain ⟨hr, rfl⟩ := Tx.check_ok.mp hrunId
    obtain ⟨hruntime, rfl⟩ := Tx.check_ok.mp h₅
    exact ⟨rfl, task, htask, hp, he, ht, hr, hruntime⟩
  · rintro ⟨rfl, task, htask, hp, he, ht, hr, hruntime⟩
    simp only [Tx.bind_ok, getTask_ok, Tx.check_ok, Tx.when_ok, Tx.require_ok]
    exact ⟨task, _, ⟨htask, rfl⟩, (), _, ⟨hp, rfl⟩, (), _,
      .inl ⟨trivial, _, _, ⟨he, rfl⟩, rfl, rfl⟩, (), _, ⟨ht, rfl⟩, (), _, ⟨hr, rfl⟩, hruntime, rfl⟩

end HibikiCore
