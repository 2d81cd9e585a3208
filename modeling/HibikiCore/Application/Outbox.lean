import Mathlib.Data.List.Sort
import HibikiCore.Application.Effects

/-!
# The outbox

What was written in a transaction is carried out after it: a row is claimed, the adapter is called
outside any transaction, and the outcome is recorded in a further transaction. A start and an
external dispatch are checked once more right before the call.

Nothing here decides when these transactions run. Between any two of them other commands, other
claims and a crash may happen.
-/

namespace HibikiCore

/-- A claimed row as its thread keeps it. -/
structure OutboxItem where
  outboxId : String
  taskId : String
  command : OutboxCommand
  deriving DecidableEq, Repr

namespace Defaults

def outboxLeaseSeconds : Time := 30

end Defaults

/-! ## Claiming -/

/-- The rows that wait, oldest first. -/
def pendingOutboxByAge (db : DB) : List (String × OutboxRow) :=
  (db.outbox.select fun _ ob ↦ ob.status == .pending).insertionSort
    fun a b ↦ a.2.createdAt ≤ b.2.createdAt

/-- The backoff of a row is over. -/
def OutboxRow.isDue (now : Time) (row : OutboxRow) : Bool := row.leasedUntil.all (· ≤ now)

def claimableOutbox (env : Env) (db : DB) : Option (String × OutboxRow) :=
  (pendingOutboxByAge db).find? fun r ↦ r.2.isDue env.now

/-- The row that is claimed waits, and its backoff is over. -/
theorem claimableOutbox_some {env : Env} {db : DB} {k : String} {row : OutboxRow}
    (h : claimableOutbox env db = some (k, row)) :
    db.outbox.find? k = some row ∧ row.status = .pending ∧ row.isDue env.now = true := by
  have hmem := List.mem_of_find?_eq_some h
  rw [pendingOutboxByAge, List.mem_insertionSort, Table.mem_select, beq_iff_eq] at hmem
  have hdue := List.find?_some h
  exact ⟨hmem.1, hmem.2, hdue⟩

def killOutbox (outboxId : String) : Core Unit :=
  Refs.outbox.update outboxId fun ob ↦ { ob with status := .dead }

def ackOutbox (env : Env) (outboxId : String) (dead : Bool) : Core Unit :=
  Refs.outbox.update outboxId fun ob ↦
    { ob with status := if dead then .dead else .acked, ackedAt := some env.now }

def leaseOutbox (env : Env) (outboxId : String) (row : OutboxRow) : Core (Option OutboxItem) := do
  Refs.outbox.update outboxId fun ob ↦
    { ob with status := .inFlight, leasedUntil := some (env.now + Defaults.outboxLeaseSeconds) }
  return some ⟨outboxId, row.taskId, row.command⟩

/-- A claimed row, under a lease. -/
def OutboxRow.leased (env : Env) (row : OutboxRow) : OutboxRow :=
  { row with status := .inFlight, leasedUntil := some (env.now + Defaults.outboxLeaseSeconds) }

theorem leaseOutbox_ok {env : Env} {outboxId : String} {row : OutboxRow}
    {result : Option OutboxItem} {s s' : DB}
    (h : leaseOutbox env outboxId row s = .ok (result, s')) :
    result = some ⟨outboxId, row.taskId, row.command⟩ ∧
      s' = { s with outbox := s.outbox.modify outboxId (OutboxRow.leased env) } := by
  obtain ⟨_, t, hupdate, hpure⟩ := Tx.bind_ok.mp h
  obtain ⟨rfl, rfl⟩ := Tx.pure_ok.mp hpure
  exact ⟨rfl, Ref.update_ok.mp hupdate⟩

/-- A start that was overtaken by a cancel, a pause or a state without dispatch. -/
def startOvertaken (row : OutboxRow) (task : TaskRow) : Bool :=
  decide (row.revokeEpoch < task.revokeEpoch) || task.cancelIntent || task.pauseIntent
    || !task.state.isDispatchable

def claimStart (env : Env) (outboxId : String) (row : OutboxRow) (task : Option TaskRow) :
    Core (Option OutboxItem) :=
  if task.any (startOvertaken row) then do
    killOutbox outboxId
    return none
  else leaseOutbox env outboxId row

/-- A task that is being cancelled, or is asked to be. -/
def TaskRow.isCancelling (task : TaskRow) : Bool := task.cancelIntent || task.state == .cancelling

/-- An effect that was not sent goes back to being authorized, or ends with its task. -/
def releaseUnsentEffect (effectId : String) (effect : SideEffectRow) (task : TaskRow) :
    Core Unit :=
  if effect.state = .dispatching then
    setEffectState effectId (if task.isCancelling then .cancelled else .authorized)
  else
    Tx.when (effect.state = .authorized ∧ task.isCancelling = true)
      (setEffectState effectId .cancelled)

/-- A row of an earlier epoch is not sent. -/
def killRevokedDispatch (outboxId effectId : String) (effect : SideEffectRow) (task : TaskRow) :
    Core Unit := do
  killOutbox outboxId
  Tx.when (effect.state = .dispatching)
    (setEffectState effectId (if task.cancelIntent then .cancelled else .authorized))

def claimDispatch (env : Env) (outboxId : String) (row : OutboxRow) (effectId : String)
    (task : TaskRow) : Core (Option OutboxItem) := do
  let db ← get
  match db.sideEffects.find? effectId with
  | none => do
    killOutbox outboxId
    return none
  | some effect => do
    let refusal ← sideEffectEligibility env row.taskId effectId [.dispatching, .authorized]
    if refusal.isSome then do
      killOutbox outboxId
      releaseUnsentEffect effectId effect task
      return none
    else if row.revokeEpoch < task.revokeEpoch then do
      killRevokedDispatch outboxId effectId effect task
      return none
    else do
      Tx.when (effect.state = .authorized) (setEffectState effectId .dispatching)
      leaseOutbox env outboxId row

def claimRow (env : Env) (outboxId : String) (row : OutboxRow) : Core (Option OutboxItem) := do
  let db ← get
  match row.command with
  | .agentStart _ => claimStart env outboxId row (db.tasks.find? row.taskId)
  | .agentStop _ _ => leaseOutbox env outboxId row
  | .sideEffectDispatch payload =>
    match db.tasks.find? row.taskId with
    | none => leaseOutbox env outboxId row
    | some task => claimDispatch env outboxId row payload.effectId task

/-- Claims the oldest row that is due. -/
def claimOneOutbox (env : Env) : Core (Option OutboxItem) := do
  let db ← get
  match claimableOutbox env db with
  | none => return none
  | some (outboxId, row) => claimRow env outboxId row

section Claimed

variable {env : Env} {outboxId effectId : String} {row : OutboxRow} {task : TaskRow}
  {item : OutboxItem} {s s' : DB}

/-- A claim of a row that came about. -/
structure Claimed (env : Env) (outboxId : String) (row : OutboxRow) (item : OutboxItem)
    (s s' : DB) : Prop where
  item : item = ⟨outboxId, row.taskId, row.command⟩
  outbox : s'.outbox = s.outbox.modify outboxId (OutboxRow.leased env)

theorem leaseOutbox_claimed (h : leaseOutbox env outboxId row s = .ok (some item, s')) :
    Claimed env outboxId row item s s' := by
  obtain ⟨hitem, rfl⟩ := leaseOutbox_ok h
  exact ⟨Option.some.inj hitem, rfl⟩

theorem claimStart_claimed {task : Option TaskRow}
    (h : claimStart env outboxId row task s = .ok (some item, s')) :
    Claimed env outboxId row item s s' := by
  rcases Tx.ite_ok.mp h with ⟨-, hkill⟩ | ⟨-, hlease⟩
  · simp at hkill
  · exact leaseOutbox_claimed hlease

theorem claimDispatch_claimed
    (h : claimDispatch env outboxId row effectId task s = .ok (some item, s')) :
    Claimed env outboxId row item s s' := by
  rw [claimDispatch, Tx.get_bind_ok] at h
  cases heffect : s.sideEffects.find? effectId with
  | none => simp [heffect] at h
  | some effect =>
    rw [heffect] at h
    obtain ⟨refusal, t, heligible, hrest⟩ := Tx.bind_ok.mp h
    obtain rfl : s = t := Respects.rel (R := Eq) heligible
    rcases Tx.ite_ok.mp hrest with ⟨-, hrefused⟩ | ⟨-, hrest₁⟩
    · simp at hrefused
    · rcases Tx.ite_ok.mp hrest₁ with ⟨-, hrevoked⟩ | ⟨-, hclaim⟩
      · simp at hrevoked
      · obtain ⟨_, t, hset, hlease⟩ := Tx.bind_ok.mp hclaim
        have houtbox : t.outbox = s.outbox := by
          rcases Tx.when_ok.mp hset with ⟨-, hupdate⟩ | ⟨-, rfl⟩
          · obtain rfl := Ref.update_ok.mp hupdate
            rfl
          · rfl
        obtain ⟨hitem, hout⟩ := leaseOutbox_claimed hlease
        exact ⟨hitem, houtbox ▸ hout⟩

theorem claimRow_claimed (h : claimRow env outboxId row s = .ok (some item, s')) :
    Claimed env outboxId row item s s' := by
  rw [claimRow, Tx.get_bind_ok] at h
  cases hcommand : row.command with
  | agentStart payload =>
    rw [hcommand] at h
    exact claimStart_claimed h
  | agentStop runId reason =>
    rw [hcommand] at h
    exact leaseOutbox_claimed h
  | sideEffectDispatch payload =>
    rw [hcommand] at h
    cases htask : s.tasks.find? row.taskId with
    | none =>
      simp only [htask] at h
      exact leaseOutbox_claimed h
    | some task =>
      simp only [htask] at h
      exact claimDispatch_claimed h

/-- What is claimed is a row that waited. -/
theorem claimOneOutbox_claimed (h : claimOneOutbox env s = .ok (some item, s')) :
    ∃ k row, s.outbox.find? k = some row ∧ row.status = .pending ∧
      Claimed env k row item s s' := by
  rw [claimOneOutbox, Tx.get_bind_ok] at h
  cases hclaimable : claimableOutbox env s with
  | none => simp [hclaimable] at h
  | some r =>
    rw [hclaimable] at h
    obtain ⟨hrow, hpending, -⟩ := claimableOutbox_some hclaimable
    exact ⟨r.1, r.2, hrow, hpending, claimRow_claimed h⟩

end Claimed

/-! ## Starting agents -/

/-- A claimed start that must not be sent any more. -/
def startForbidden (db : DB) (row : OutboxRow) (runId : String) : Bool :=
  match db.agentRuns.find? runId, db.tasks.find? row.taskId with
  | some run, some task =>
    run.status.isTerminal || row.revokeEpoch != task.revokeEpoch || task.cancelIntent
      || task.pauseIntent || hasBlockingGate db row.taskId || !task.state.isDispatchable
  | _, _ => true

/-- What holds of a start that may be sent. -/
structure StartAllowed (db : DB) (row : OutboxRow) (runId : String) (run : AgentRunRow)
    (task : TaskRow) : Prop where
  found : db.agentRuns.find? runId = some run
  owner : db.tasks.find? row.taskId = some task
  live : run.status.isTerminal = false
  epoch : row.revokeEpoch = task.revokeEpoch
  cancel : task.cancelIntent = false
  pause : task.pauseIntent = false
  gate : hasBlockingGate db row.taskId = false
  state : task.state.isDispatchable = true

theorem startForbidden_eq_false {db : DB} {row : OutboxRow} {runId : String}
    (h : startForbidden db row runId = false) : ∃ run task, StartAllowed db row runId run task := by
  rw [startForbidden] at h
  cases hrun : db.agentRuns.find? runId with
  | none => simp [hrun] at h
  | some run =>
    cases htask : db.tasks.find? row.taskId with
    | none => simp [hrun, htask] at h
    | some task =>
      simp only [hrun, htask, Bool.or_eq_false_iff, bne_eq_false_iff_eq, Bool.not_eq_false'] at h
      obtain ⟨⟨⟨⟨⟨hlive, hepoch⟩, hcancel⟩, hpause⟩, hgate⟩, hstate⟩ := h
      exact ⟨run, task, hrun, htask, hlive, hepoch, hcancel, hpause, hgate, hstate⟩

/-- The check right before a start is sent; a start that fails it is fenced. -/
def startSendAllowed (env : Env) (outboxId runId : String) : Core Bool := do
  let db ← get
  match db.outbox.find? outboxId with
  | none => return false
  | some row =>
    if row.status ≠ .inFlight then return false
    else if startForbidden db row runId then do
      fenceClaimedAgentStart env db outboxId row runId "start_send_revoked"
      return false
    else return true

theorem startSendAllowed_true {env : Env} {outboxId runId : String} {s s' : DB}
    (h : startSendAllowed env outboxId runId s = .ok (true, s')) :
    s' = s ∧ ∃ row run task, s.outbox.find? outboxId = some row ∧ row.status = .inFlight ∧
      StartAllowed s row runId run task := by
  rw [startSendAllowed, Tx.get_bind_ok] at h
  cases hrow : s.outbox.find? outboxId with
  | none => simp [hrow] at h
  | some row =>
    rw [hrow] at h
    rcases Tx.ite_ok.mp h with ⟨-, hunclaimed⟩ | ⟨hclaimed, hrest⟩
    · simp at hunclaimed
    · rcases Tx.ite_ok.mp hrest with ⟨-, hfenced⟩ | ⟨hallowed, hpass⟩
      · simp at hfenced
      · obtain ⟨-, rfl⟩ := Tx.pure_ok.mp hpass
        obtain ⟨run, task, hallowed⟩ := startForbidden_eq_false (Bool.not_eq_true _ ▸ hallowed)
        exact ⟨rfl, row, run, task, rfl, of_not_not hclaimed, hallowed⟩

/-- A start that was acknowledged after its task was stopped, or its run cancelled. -/
def startAckRevoked (db : DB) (row : Option OutboxRow) (run : Option AgentRunRow)
    (task : Option (String × TaskRow)) : Bool :=
  (match row with
    | none => true
    | some row => row.status == .dead)
  || (match task with
    | none => false
    | some (taskId, task) =>
      task.cancelIntent || task.pauseIntent || task.state == .waitingHuman
        || task.state == .pausing || task.state == .paused || task.state == .cancelling
        || hasBlockingGate db taskId)
  || run.any fun run ↦ run.status == .cancelled

/-- The acknowledgement came too late: the adapter has started the agent, so it is stopped. -/
def fenceAckedStart (env : Env) (flushed : DB) (outboxId runId : String)
    (run : Option AgentRunRow) (task : Option (String × TaskRow)) : Core Unit := do
  Refs.outbox.updateWhere (fun k ob ↦ k == outboxId && ob.status == .inFlight) fun ob ↦
    { ob with
      status := .dead
      revokeEpoch := (task.map fun t ↦ t.2.revokeEpoch).getD ob.revokeEpoch }
  Tx.when (run.isSome = true) do
    Tx.withSome task fun t ↦ do
      keepStartOccupancy runId
      enqueueStopsForRuns env flushed t.1 [runId] "start_ack_fenced"

/-- The adapter has started the agent. -/
def ackOutboxAndMarkRunning (env : Env) (outboxId runId : String) : Core Unit := do
  let db ← get
  let run := db.agentRuns.find? runId
  let task := run.bind fun r ↦ (db.tasks.find? r.taskId).map fun t ↦ (r.taskId, t)
  if startAckRevoked db (db.outbox.find? outboxId) run task then
    fenceAckedStart env db outboxId runId run task
  else do
    ackOutbox env outboxId false
    Refs.agentRuns.updateWhere (fun k r ↦ k == runId && r.status == .created) fun r ↦
      { r with status := .running, startedAt := some env.now }

/-! ## Stopping agents -/

/-- What the adapter answers to a stop. -/
structure StopResult where
  startRevoked : Option Bool := none
  alive : Option Bool := none
  writerAlive : Option Bool := none
  deriving DecidableEq, Repr

/-- The agent is gone and will not be started later. -/
def StopResult.stopped (r : StopResult) : Bool :=
  r.startRevoked == some true && r.alive == some false && r.writerAlive == some false

/-- The workspace of a run that was asked to stop. -/
def settleStoppedWorkspace (runId : String) (run : AgentRunRow) (stopped : Bool) : Core Unit :=
  Tx.withSome run.workspaceId fun wsId ↦
    if stopped then do
      Refs.workspaces.updateWhere (fun k ws ↦ k == wsId && ws.ownerRunId == some runId)
        fun ws ↦ { ws with writerAlive := false }
      Refs.workspaces.updateWhere
        (fun k ws ↦ k == wsId && ws.ownerRunId == some runId && ws.state != .quarantined)
        fun ws ↦ { ws with state := .ready, ownerRunId := none }
    else
      Refs.workspaces.updateWhere (fun k ws ↦ k == wsId && ws.ownerRunId == some runId)
        fun ws ↦ { ws with state := .quarantined, writerAlive := true }

/-- A run ends by a confirmed stop. Its unit is set free; of a unit that is to be blocked, a run
that never ran leaves the status as it is. -/
def settleStoppedRun (env : Env) (runId : String) (run : AgentRunRow) (reason : String) :
    Core Unit := do
  Refs.agentRuns.update runId fun r ↦
    { r with
      status := .cancelled
      finishedAt := some env.now
      terminalReason := r.terminalReason <|> some (.stop reason) }
  clearRunOccupancy runId true
  Tx.withSome run.workUnitId fun wuId ↦
    Refs.workUnitExecutions.updateWhere (fun k u ↦ k == wuId && u.status == .running) fun u ↦
      { u with
        status :=
          if u.blockedReason.all (·.text = "") then .pending
          else if run.status = .running then .blocked
          else u.status
        activeRunId := none }

def ackStop (env : Env) (outboxId runId reason : String) (result : StopResult) : Core Unit := do
  ackOutbox env outboxId false
  let db ← get
  Tx.withSome (db.agentRuns.find? runId) fun run ↦ do
    settleStoppedWorkspace runId run result.stopped
    Tx.when (result.stopped = true ∧ run.status.isActive = true)
      (settleStoppedRun env runId run reason)
    Tx.when (result.stopped = true) do
      appendEvent env run.taskId "run.exit_confirmed" none
        [("run_id", .text runId), ("start_revoked", .flag true)]

/-! ## Sending external effects -/

/-- A dispatch that fails its last check was not sent. -/
def releaseRefusedDispatch (outboxId effectId : String) (effect : SideEffectRow)
    (task : TaskRow) : Core Unit := do
  killOutbox outboxId
  Tx.when (effect.state = .dispatching)
    (setEffectState effectId (if task.isCancelling then .cancelled else .authorized))

/-- The check right before an effect is sent. -/
def precheck (env : Env) (item : OutboxItem) (effectId : String) : Core Bool := do
  let db ← get
  match db.outbox.find? item.outboxId, db.sideEffects.find? effectId with
  | some row, some effect =>
    match (db.tasks.find? item.taskId).map (item.taskId, ·)
        <|> (db.tasks.find? effect.taskId).map (effect.taskId, ·) with
    | none => do
      killOutbox item.outboxId
      return false
    | some (taskId, task) =>
      if row.status = .dead then return false
      else do
        let refusal ← sideEffectEligibility env taskId effectId [.dispatching]
        if refusal.isSome then do
          releaseRefusedDispatch item.outboxId effectId effect task
          return false
        else return true
  | _, _ => return false

/-- What was true when the check passed. -/
structure Prechecked (env : Env) (s : DB) (item : OutboxItem) (effectId taskId : String)
    (row : OutboxRow) (effect : SideEffectRow) (task : TaskRow) : Prop where
  claim : s.outbox.find? item.outboxId = some row
  live : row.status ≠ .dead
  found : s.sideEffects.find? effectId = some effect
  owner : taskId = item.taskId ∨ s.tasks.find? item.taskId = none ∧ taskId = effect.taskId
  sendable : Sendable env s taskId task effect [.dispatching]

theorem precheck_true {env : Env} {item : OutboxItem} {effectId : String} {s s' : DB}
    (h : precheck env item effectId s = .ok (true, s')) :
    s' = s ∧ ∃ taskId row effect task, Prechecked env s item effectId taskId row effect task := by
  rw [precheck, Tx.get_bind_ok] at h
  cases hrow : s.outbox.find? item.outboxId with
  | none => simp [hrow] at h
  | some row =>
    cases heffect : s.sideEffects.find? effectId with
    | none => simp [hrow, heffect] at h
    | some effect =>
      simp only [hrow, heffect] at h
      cases htask : (s.tasks.find? item.taskId).map (item.taskId, ·)
        <|> (s.tasks.find? effect.taskId).map (effect.taskId, ·) with
      | none => simp [htask] at h
      | some r =>
        simp only [htask] at h
        rcases Tx.ite_ok.mp h with ⟨-, hdead⟩ | ⟨hlive, hcheck⟩
        · simp at hdead
        · obtain ⟨refusal, t, heligible, hrest⟩ := Tx.bind_ok.mp hcheck
          obtain rfl : s = t := Respects.rel (R := Eq) heligible
          rcases Tx.ite_ok.mp hrest with ⟨-, hrefused⟩ | ⟨hnone, hpass⟩
          · simp at hrefused
          · obtain ⟨-, rfl⟩ := Tx.pure_ok.mp hpass
            rw [Option.not_isSome_iff_eq_none] at hnone
            subst hnone
            obtain ⟨task, hsendable⟩ := sideEffectEligibility_none heffect heligible
            refine ⟨rfl, r.1, row, effect, task, hrow, hlive, heffect, ?_, hsendable⟩
            cases hitem : s'.tasks.find? item.taskId with
            | some task' =>
              rw [hitem] at htask
              have hr : some (item.taskId, task') = some r := htask
              exact .inl (by rw [← Option.some.inj hr])
            | none =>
              rw [hitem] at htask
              have hr : (s'.tasks.find? effect.taskId).map (effect.taskId, ·) = some r := htask
              obtain ⟨_, -, rfl⟩ := Option.map_eq_some_iff.mp hr
              exact .inr ⟨rfl, rfl⟩

/-- What became of an effect that was sent. -/
def recordReceipt (env : Env) (effectId taskId : String) (receipt : Receipt) : Core Unit :=
  match receipt.status with
  | .succeeded =>
    Refs.sideEffects.update effectId fun e ↦
      { e with
        state := .succeeded
        receipt := some receipt
        providerOperationId := receipt.providerOperationId }
  | .failed =>
    Refs.sideEffects.update effectId fun e ↦
      { e with state := .failedConfirmed, lastError := receipt.error }
  | .unknown => do
    setEffectState effectId .unknown
    parkTask env taskId .executionUncertain

/-- Records what the external system answered. -/
def applyReceipt (env : Env) (outboxId effectId : String) (receipt : Receipt) : Core Unit := do
  let db ← get
  ackOutbox env outboxId false
  Tx.withSome (db.sideEffects.find? effectId) fun effect ↦
    recordReceipt env effectId effect.taskId receipt

/-! ## Failures -/

/-- A dispatch that raised may have been sent: its effect is in doubt. -/
def failDispatch (env : Env) (outboxId effectId error : String) : Core Unit := do
  let db ← get
  Tx.withSome (db.sideEffects.find? effectId) fun effect ↦
    Tx.when (effect.state = .dispatching ∨ effect.state = .authorized) do
      Refs.sideEffects.update effectId fun e ↦
        { e with state := .unknown, lastError := some error }
      parkTask env effect.taskId .executionUncertain
  ackOutbox env outboxId false

/-- Handling a claimed row raised; only a stop is tried again. -/
def failRow (env : Env) (flushed : DB) (outboxId : String) (row : OutboxRow) (error : String) :
    Core Unit :=
  match row.command with
  | .sideEffectDispatch payload => failDispatch env outboxId payload.effectId error
  | .agentStart payload =>
    Tx.when (row.status ≠ .dead)
      (fenceClaimedAgentStart env flushed outboxId row payload.runId "start_dispatch_failed")
  | .agentStop _ _ =>
    Tx.when (row.status ≠ .dead) do
      Refs.outbox.update outboxId fun ob ↦
        { ob with
          status := .pending
          leasedUntil := some (env.now + Defaults.retryBackoffSeconds.headD 0) }

def failOutbox (env : Env) (outboxId error : String) : Core Unit := do
  let db ← get
  Tx.withSome (db.outbox.find? outboxId) fun row ↦ failRow env db outboxId row error

end HibikiCore
