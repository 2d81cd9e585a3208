import HibikiCore.Application.Command
import HibikiCore.Application.Reconcile

/-!
# What the pieces of the service respect

A relation that is indifferent to the tables that a piece of the service writes is respected by
it. The proofs follow the definitions, so that each invariant of the database has to be argued for
only where its own tables are written.

`AgentRows` is asked of relations that look at the outbox: they must put up with the rows of
agents, which many commands write. The relations that look at other rows of the outbox are argued
for where those are written.
-/

namespace HibikiCore

set_option synthInstance.maxSize 100000000
set_option synthInstance.maxHeartbeats 400000

/-- A relation that puts up with new stops in the outbox. -/
class StopRows (R : DB → DB → Prop) : Prop where
  enqueueStop : ∀ env taskId runId reason epoch,
    Respects R (enqueue env taskId (.agentStop runId reason) epoch)

/-- A relation that puts up with what the commands do to starts and stops in the outbox. -/
class AgentRows (R : DB → DB → Prop) : Prop extends StopRows R where
  enqueueStart : ∀ env taskId payload epoch,
    Respects R (enqueue env taskId (.agentStart payload) epoch)
  killStarts : ∀ taskId runId, Respects R (killStarts taskId runId)

attribute [instance] StopRows.enqueueStop AgentRows.enqueueStart AgentRows.killStarts

/-- A relation that puts up with new dispatches, and with the ends of rows of the outbox. -/
class OutboxRows (R : DB → DB → Prop) : Prop where
  enqueue : ∀ env taskId payload epoch,
    Respects R (enqueue env taskId (.sideEffectDispatch payload) epoch)
  kill : ∀ outboxId, Respects R (killOutbox outboxId)
  ack : ∀ env outboxId dead, Respects R (ackOutbox env outboxId dead)

/-- A relation that puts up with the steps a row of the outbox goes through. -/
class OutboxSteps (R : DB → DB → Prop) : Prop extends OutboxRows R where
  lease : ∀ env outboxId row, Respects R (leaseOutbox env outboxId row)

attribute [instance] OutboxRows.enqueue OutboxRows.kill OutboxRows.ack OutboxSteps.lease

/-- A relation that puts up with new events. -/
class EventRows (R : DB → DB → Prop) : Prop where
  append : ∀ (env : Env) (taskId eventType : String) (authActor : Option String)
    (payload : Data), Respects R (appendEvent env taskId eventType authActor payload)

attribute [instance] EventRows.append

instance {R : DB → DB → Prop} [Preord R] [Indifferent R Relation.events] : EventRows R where
  append _ _ _ _ _ := inferInstance

/-- A kind of decision that is about neither a contract delta nor a final acceptance. -/
class OrdinaryKind (kind : DecisionKind) : Prop where
  delta : kind ≠ .contractDelta
  acceptance : kind ≠ .finalAcceptance

/-- A decision of an ordinary kind that waits to be taken. -/
class Ordinary (d : DecisionRow) : Prop where
  pending : d.status = .pending
  kind : OrdinaryKind d.decisionKind

/-- A final acceptance that waits to be taken. -/
class Acceptance (d : DecisionRow) : Prop where
  pending : d.status = .pending
  kind : d.decisionKind = .finalAcceptance

/-- A relation that puts up with new decisions of ordinary kinds. -/
class OrdinaryDecisions (R : DB → DB → Prop) : Prop where
  insert : ∀ {ε : Type} (e : ε) (k : String) (d : DecisionRow) [Ordinary d],
    Respects R (Refs.decisions.insert e k d)

/-- A relation that puts up with new final acceptances. -/
class AcceptanceDecisions (R : DB → DB → Prop) : Prop where
  insert : ∀ {ε : Type} (e : ε) (k : String) (d : DecisionRow) [Acceptance d],
    Respects R (Refs.decisions.insert e k d)

attribute [instance] OrdinaryDecisions.insert AcceptanceDecisions.insert

/-- A relation that puts up with new decisions of ordinary kinds and the gates that are opened for
them. -/
class Questions (R : DB → DB → Prop) : Prop where
  ask : ∀ {α : Type} (env : Env) (taskId k : String) (d : DecisionRow) (reason : WaitingReason)
    (m : Core α) [Ordinary d] [Respects R m],
    Respects R (add Refs.decisions k d >>= fun _ ↦ openGate env taskId k reason >>= fun _ ↦ m)

attribute [instance] Questions.ask

section Ordinary

instance : OrdinaryKind .contractApproval := ⟨nofun, nofun⟩

instance : OrdinaryKind .sideEffectApproval := ⟨nofun, nofun⟩

instance : OrdinaryKind .clarification := ⟨nofun, nofun⟩

instance : OrdinaryKind .resourceLimit := ⟨nofun, nofun⟩

variable {env : Env} {taskId ref : String} {kind : DecisionKind} {version : Nat} {hash : Digest}
  {ttl : Time} {contractVersion : Option Nat}

instance [hk : OrdinaryKind kind] :
    Ordinary (pendingDecision env taskId kind ref version hash ttl) := ⟨rfl, hk⟩

instance [hk : OrdinaryKind kind] {explanationRef : Option String}
    {explanationHash : Option Digest} :
    Ordinary { pendingDecision env taskId kind ref version hash ttl with
      contractVersion, explanationRef, explanationHash } := ⟨rfl, hk⟩

instance [hk : OrdinaryKind kind] {parametersHash : Option Digest} :
    Ordinary { pendingDecision env taskId kind ref version hash ttl with
      contractVersion, parametersHash } := ⟨rfl, hk⟩

instance {resultSnapshotRef : Option String} :
    Acceptance { pendingDecision env taskId .finalAcceptance ref version hash ttl with
      contractVersion, resultSnapshotRef } := ⟨rfl, rfl⟩

end Ordinary

instance {R : DB → DB → Prop} [Inserts R Refs.decisions] : OrdinaryDecisions R where
  insert _ _ _ _ := inferInstance

instance {R : DB → DB → Prop} [Inserts R Refs.decisions] : AcceptanceDecisions R where
  insert _ _ _ _ := inferInstance

instance {R : DB → DB → Prop} [Preord R] [OrdinaryDecisions R]
    [∀ env taskId decisionId reason, Respects R (openGate env taskId decisionId reason)] :
    Questions R where
  ask _ _ _ _ _ _ _ _ := inferInstance

/-- An update of a task that is about neither its state, nor the versions of its contract and its
plan, nor its planner session. -/
class TaskDetail (f : TaskRow → TaskRow) : Prop where
  state : ∀ t, (f t).state = t.state
  contractVersion : ∀ t, (f t).contractVersion = t.contractVersion
  planVersion : ∀ t, (f t).planVersion = t.planVersion
  plannerSession : ∀ t, (f t).activePlannerSessionId = t.activePlannerSessionId

/-- A relation that puts up with the updates of tasks that are about details. -/
class TaskDetails (R : DB → DB → Prop) : Prop where
  update : ∀ (k : String) (f : TaskRow → TaskRow) (hf : ∀ t, SameFixed t (f t)) [TaskDetail f],
    Respects R (Refs.tasks.update k f hf : Core Unit)

attribute [instance] TaskDetails.update

/-- An update that gives no value for the four columns. -/
instance {a c : TaskRow → String} {b : TaskRow → Json} {e : TaskRow → Option WaitingReason}
    {f m : TaskRow → Nat} {j o : TaskRow → Option String} {k l : TaskRow → Bool}
    {n n' : TaskRow → Int} {q r : TaskRow → Time} :
    TaskDetail fun t ↦
      ⟨a t, b t, c t, t.state, e t, f t, t.contractVersion, t.planVersion,
        t.activePlannerSessionId, j t, k t, l t, m t, n t, n' t, o t, q t, r t⟩ :=
  ⟨fun _ ↦ rfl, fun _ ↦ rfl, fun _ ↦ rfl, fun _ ↦ rfl⟩

instance {R : DB → DB → Prop} [Updates R Refs.tasks] : TaskDetails R where
  update _ _ _ _ := inferInstance

/-- A relation that puts up with new versions of the contracts of tasks. -/
class ContractVersions (R : DB → DB → Prop) : Prop where
  update : ∀ (k : String) (v : Nat),
    Respects R (Refs.tasks.update k fun t ↦ { t with contractVersion := some v } : Core Unit)

/-- A relation that puts up with new versions of the plans of tasks. -/
class PlanVersions (R : DB → DB → Prop) : Prop where
  update : ∀ (k : String) (v : Nat),
    Respects R (Refs.tasks.update k fun t ↦ { t with planVersion := some v } : Core Unit)

/-- A relation that puts up with new planner sessions of tasks. -/
class TaskSessions (R : DB → DB → Prop) : Prop where
  update : ∀ k sessionId : String, Respects R
    (Refs.tasks.update k fun t ↦ { t with activePlannerSessionId := some sessionId } : Core Unit)

attribute [instance] ContractVersions.update PlanVersions.update TaskSessions.update

instance {R : DB → DB → Prop} [Updates R Refs.tasks] : ContractVersions R where
  update _ _ := inferInstance

instance {R : DB → DB → Prop} [Updates R Refs.tasks] : PlanVersions R where
  update _ _ := inferInstance

instance {R : DB → DB → Prop} [Updates R Refs.tasks] : TaskSessions R where
  update _ _ := inferInstance

/-- A status that an update gives to work units, and that is not that of a completed unit. -/
class OpenStatus (c : WorkUnitExecutionRow → WorkUnitStatus) : Prop where
  done : ∀ u, c u = .done → u.status = .done

instance : OpenStatus fun u ↦ u.status := ⟨fun _ ↦ id⟩

instance : OpenStatus fun _ ↦ .pending := ⟨fun _ h ↦ nomatch h⟩

instance : OpenStatus fun _ ↦ .running := ⟨fun _ h ↦ nomatch h⟩

instance : OpenStatus fun _ ↦ .blocked := ⟨fun _ h ↦ nomatch h⟩

instance : OpenStatus fun _ ↦ .cancelled := ⟨fun _ h ↦ nomatch h⟩

instance {q : WorkUnitExecutionRow → Prop} [∀ u, Decidable (q u)]
    {c d : WorkUnitExecutionRow → WorkUnitStatus} [hc : OpenStatus c] [hd : OpenStatus d] :
    OpenStatus fun u ↦ if q u then c u else d u where
  done u h := by
    split at h
    · exact hc.done u h
    · exact hd.done u h

/-- An update of a work unit that is neither an attempt nor a result. -/
class UnitDetail (f : WorkUnitExecutionRow → WorkUnitExecutionRow) : Prop where
  done : ∀ u, (f u).status = .done → u.status = .done
  attemptCount : ∀ u, (f u).attemptCount = u.attemptCount
  selectedResultRef : ∀ u, (f u).selectedResultRef = u.selectedResultRef
  selectedVerdict : ∀ u, (f u).selectedVerdict = u.selectedVerdict
  verifiedArtifactHash : ∀ u, (f u).verifiedArtifactHash = u.verifiedArtifactHash

/-- A relation that puts up with the updates of work units that are about details. -/
class UnitDetails (R : DB → DB → Prop) : Prop where
  update : ∀ (k : String) (f : WorkUnitExecutionRow → WorkUnitExecutionRow)
    (hf : ∀ u, SameFixed u (f u)) [UnitDetail f],
    Respects R (Refs.workUnitExecutions.update k f hf : Core Unit)
  updateWhere : ∀ (q : String → WorkUnitExecutionRow → Bool)
    (f : WorkUnitExecutionRow → WorkUnitExecutionRow) (hf : ∀ u, SameFixed u (f u))
    [UnitDetail f], Respects R (Refs.workUnitExecutions.updateWhere q f hf : Core Unit)

attribute [instance] UnitDetails.update UnitDetails.updateWhere

/-- An update that gives no value for the four columns. -/
instance {a : WorkUnitExecutionRow → String} {b : WorkUnitExecutionRow → Nat}
    {c : WorkUnitExecutionRow → WorkUnitStatus} {d : WorkUnitExecutionRow → Option String}
    {e : WorkUnitExecutionRow → Option Time} {h : WorkUnitExecutionRow → Option BlockedReason}
    [hc : OpenStatus c] :
    UnitDetail fun u ↦
      ⟨a u, b u, c u, d u, u.attemptCount, e u, u.selectedResultRef, h u, u.selectedVerdict,
        u.verifiedArtifactHash⟩ :=
  ⟨hc.done, fun _ ↦ rfl, fun _ ↦ rfl, fun _ ↦ rfl, fun _ ↦ rfl⟩

instance {R : DB → DB → Prop} [Updates R Refs.workUnitExecutions] : UnitDetails R where
  update _ _ _ _ := inferInstance
  updateWhere _ _ _ _ := inferInstance

/-- A relation that puts up with the completion of work units. -/
class UnitCompletions (R : DB → DB → Prop) : Prop where
  update : ∀ (k ref : String) (verdict : Option Verdict) (hash : Option String), Respects R
    (Refs.workUnitExecutions.update k fun u ↦
      { u with
        status := .done
        selectedResultRef := some ref
        selectedVerdict := verdict
        verifiedArtifactHash := hash <|> u.verifiedArtifactHash
        activeRunId := none } : Core Unit)

attribute [instance] UnitCompletions.update

instance {R : DB → DB → Prop} [Updates R Refs.workUnitExecutions] : UnitCompletions R where
  update _ _ _ _ := inferInstance

/-- A status that a run does not leave. -/
class EndStatus (status : AgentRunStatus) : Prop where
  terminal : status.isTerminal = true

instance : EndStatus .cancelled := ⟨rfl⟩

instance : EndStatus .lost := ⟨rfl⟩

instance : EndStatus .succeeded := ⟨rfl⟩

/-- An update of a run that does not make it active. -/
class RunDetail (f : AgentRunRow → AgentRunRow) : Prop where
  active : ∀ r, (f r).status.isActive = true → r.status.isActive = true

/-- An update that ends a run. -/
class RunEnd (f : AgentRunRow → AgentRunRow) : Prop where
  ends : ∀ r, (f r).status.isTerminal = true

section RunUpdates

variable {a : AgentRunRow → String} {b : AgentRunRow → AssignmentKind}
  {c d f' g : AgentRunRow → Option String} {e h : AgentRunRow → Option Nat}
  {i j k : AgentRunRow → Nat} {l m n : AgentRunRow → String}
  {o : AgentRunRow → Option TerminalReason} {q r : AgentRunRow → Nat} {t : AgentRunRow → Time}
  {u v w : AgentRunRow → Option Time} {x y z : AgentRunRow → Option String}
  {result : AgentRunRow → Option RunResult} {late unconfirmed : AgentRunRow → Bool}

/-- An update that gives no value for the status. -/
instance : RunDetail fun s ↦
    ⟨a s, b s, c s, d s, e s, i s, l s, m s, j s, k s, h s, n s, g s, s.status, o s, q s, r s, t s,
      u s, v s, w s, x s, y s, result s, late s, z s, unconfirmed s⟩ :=
  ⟨fun _ hs ↦ hs⟩

instance {status : AgentRunStatus} [hs : EndStatus status] : RunEnd fun s ↦
    ⟨a s, b s, c s, d s, e s, i s, l s, m s, j s, k s, h s, n s, g s, status, o s, q s, r s, t s,
      u s, v s, w s, x s, y s, result s, late s, z s, unconfirmed s⟩ :=
  ⟨fun _ ↦ hs.terminal⟩

end RunUpdates

theorem AgentRunStatus.isActive_of_terminal {status : AgentRunStatus}
    (h : status.isTerminal = true) : status.isActive = false := by
  cases status <;> simp_all [isTerminal, isActive]

instance {f : AgentRunRow → AgentRunRow} [hf : RunEnd f] : RunDetail f where
  active r hactive := by
    rw [AgentRunStatus.isActive_of_terminal (hf.ends r)] at hactive
    cases hactive

/-- A relation that puts up with the updates of runs that make none active. -/
class RunDetails (R : DB → DB → Prop) : Prop where
  update : ∀ (k : String) (f : AgentRunRow → AgentRunRow) (hf : ∀ r, SameFixed r (f r))
    [RunDetail f], Respects R (Refs.agentRuns.update k f hf : Core Unit)
  updateWhere : ∀ (q : String → AgentRunRow → Bool) (f : AgentRunRow → AgentRunRow)
    (hf : ∀ r, SameFixed r (f r)) [RunDetail f],
    Respects R (Refs.agentRuns.updateWhere q f hf : Core Unit)

attribute [instance] RunDetails.update RunDetails.updateWhere

instance {R : DB → DB → Prop} [Updates R Refs.agentRuns] : RunDetails R where
  update _ _ _ _ := inferInstance
  updateWhere _ _ _ _ := inferInstance

/-- A relation that puts up with the end of a run that gives up what it occupies. -/
class EndsRuns (R : DB → DB → Prop) : Prop where
  last : ∀ (runId : String) (f : AgentRunRow → AgentRunRow) (hf : ∀ r, SameFixed r (f r))
    [RunEnd f], Respects R
      ((Refs.agentRuns.update runId f hf : Core Unit) >>= fun _ ↦ clearRunOccupancy runId true)
  next : ∀ {α : Type} (runId : String) (f : AgentRunRow → AgentRunRow)
    (hf : ∀ r, SameFixed r (f r)) (m : Core α) [RunEnd f] [Respects R m], Respects R
      ((Refs.agentRuns.update runId f hf : Core Unit) >>= fun _ ↦
        clearRunOccupancy runId true >>= fun _ ↦ m)

attribute [instance] EndsRuns.last EndsRuns.next

instance {R : DB → DB → Prop} [Preord R] [RunDetails R]
    [∀ runId releaseWorkspace, Respects R (clearRunOccupancy runId releaseWorkspace)] :
    EndsRuns R where
  last _ _ _ _ := inferInstance
  next _ _ _ _ _ _ := inferInstance

variable {R : DB → DB → Prop} [Frame R] {env : Env} {auth : AuthContext} {p : Payload}
  {task : TaskRow} {run : AgentRunRow} {row : OutboxRow} {flushed : DB}
  {taskId runId wuId wsId decisionId sessionId outboxId effectId : String}

/-! ## What the commands share -/

section Reads

variable {R : DB → DB → Prop} [Preord R]

instance assertNoLiveWriters_respects : Respects R (assertNoLiveWriters env taskId) := by
  rw [assertNoLiveWriters]
  infer_instance

instance assertTaskPrincipal_respects : Respects R (assertTaskPrincipal auth task) := by
  rw [assertTaskPrincipal]
  infer_instance

instance assertRunWriteBinding_respects {t r : Option String} {epoch : Option Nat}
    {fencing : Bool} :
    Respects R (assertRunWriteBinding auth runId run t r epoch fencing) := by
  rw [assertRunWriteBinding]
  infer_instance

instance assertPlanRunBinding_respects {session : PlannerSessionRow} :
    Respects R (assertPlanRunBinding auth taskId sessionId session p) := by
  rw [assertPlanRunBinding]
  infer_instance

end Reads

/-! ## Rows of the outbox -/

instance enqueue_respects [Inserts R Refs.outbox] {command : OutboxCommand} {epoch : Nat} :
    Respects R (enqueue env taskId command epoch) := by
  rw [enqueue]
  infer_instance

instance killStarts_respects [Updates R Refs.outbox] : Respects R (killStarts taskId runId) := by
  rw [killStarts]
  infer_instance

instance killOutbox_respects [Updates R Refs.outbox] : Respects R (killOutbox outboxId) := by
  rw [killOutbox]
  infer_instance

instance ackOutbox_respects [Updates R Refs.outbox] {dead : Bool} :
    Respects R (ackOutbox env outboxId dead) := by
  rw [ackOutbox]
  infer_instance

instance leaseOutbox_respects [Updates R Refs.outbox] :
    Respects R (leaseOutbox env outboxId row) := by
  rw [leaseOutbox]
  infer_instance

instance agentRows_of_statements [Inserts R Refs.outbox] [Updates R Refs.outbox] : AgentRows R where
  enqueueStart _ _ _ _ := inferInstance
  enqueueStop _ _ _ _ _ := inferInstance
  killStarts _ _ := inferInstance

instance outboxSteps_of_statements [Inserts R Refs.outbox] [Updates R Refs.outbox] :
    OutboxSteps R where
  enqueue _ _ _ _ := inferInstance
  kill _ := inferInstance
  ack _ _ _ := inferInstance
  lease _ _ _ := inferInstance

instance enqueueStopsForRuns_respects [StopRows R] {runIds : List String} {reason : String} :
    Respects R (enqueueStopsForRuns env flushed taskId runIds reason) := by
  rw [enqueueStopsForRuns]
  infer_instance

instance enqueueStops_respects [StopRows R] {reason : String} :
    Respects R (enqueueStops env flushed taskId reason) := by
  rw [enqueueStops]
  infer_instance

instance setTaskState_respects [Updates R Refs.tasks] {event : TaskEvent}
    {reason : Option WaitingReason} : Respects R (setTaskState env taskId event reason) := by
  rw [setTaskState]
  infer_instance

instance setGates_respects [Updates R Refs.gates] {lifecycle : GateLifecycle}
    {resolvedAt : Option Time} : Respects R (setGates decisionId lifecycle resolvedAt) := by
  rw [setGates]
  infer_instance

instance resolveGates_respects
    [∀ decisionId lifecycle resolvedAt, Respects R (setGates decisionId lifecycle resolvedAt)] :
    Respects R (resolveGates env decisionId) := by
  rw [resolveGates]
  infer_instance

instance openGate_respects [Inserts R Refs.gates] {reason : WaitingReason} :
    Respects R (openGate env taskId decisionId reason) := by
  rw [openGate]
  infer_instance

instance recomputeRunnableState_respects [UnitDetails R]
    [∀ env taskId reason, Respects R (setTaskState env taskId .decisionResolved reason)] :
    Respects R (recomputeRunnableState env taskId) := by
  rw [recomputeRunnableState]
  dsimp only [transitionWorkUnit_blockCleared]
  infer_instance

instance supersedePendingAcceptance_respects [Updates R Refs.decisions]
    [∀ env decisionId, Respects R (resolveGates env decisionId)] :
    Respects R (supersedePendingAcceptance env taskId) := by
  rw [supersedePendingAcceptance]
  infer_instance

instance clearRunOccupancy_respects [Deletes R Refs.activePlanRunMarkers]
    [Updates R Refs.plannerSessions] [Deletes R Refs.activeExecuteRunMarkers]
    [UnitDetails R] [Updates R Refs.workspaces] {releaseWorkspace : Bool} :
    Respects R (clearRunOccupancy runId releaseWorkspace) := by
  rw [clearRunOccupancy]
  infer_instance

instance releaseWorkspaceAfterConfirmedExit_respects [Updates R Refs.workspaces] :
    Respects R (releaseWorkspaceAfterConfirmedExit runId) := by
  rw [releaseWorkspaceAfterConfirmedExit]
  infer_instance

instance keepStartOccupancy_respects [Updates R Refs.workspaces] :
    Respects R (keepStartOccupancy runId) := by
  rw [keepStartOccupancy]
  infer_instance

instance parkTask_respects
    [∀ env taskId reason, Respects R (setTaskState env taskId .blockingGateOpened reason)]
    {reason : WaitingReason} : Respects R (parkTask env taskId reason) := by
  rw [parkTask]
  infer_instance

instance recoverWorkUnitAfterLostRun_respects [UnitDetails R]
    [∀ env taskId reason, Respects R (parkTask env taskId reason)] :
    Respects R (recoverWorkUnitAfterLostRun env runId) := by
  rw [recoverWorkUnitAfterLostRun]
  dsimp only [transitionWorkUnit_runBlocked, transitionWorkUnit_runRetryableFailed]
  infer_instance

/-! ## Tasks and contracts -/

instance createTask_respects [Inserts R Refs.tasks] [Inserts R Refs.agentProfiles]
    [EventRows R] : Respects R (createTask env auth p) := by
  rw [createTask]
  infer_instance

instance supersedePriorContracts_respects [Updates R Refs.contracts] [Updates R Refs.decisions]
    [∀ env decisionId, Respects R (resolveGates env decisionId)] :
    Respects R (supersedePriorContracts env taskId) := by
  rw [supersedePriorContracts]
  infer_instance

instance submitContract_respects [Inserts R Refs.contracts] [Inserts R Refs.explanations]
    [Questions R] [EventRows R]
    [∀ env taskId, Respects R (supersedePriorContracts env taskId)]
    [∀ env taskId reason, Respects R (setTaskState env taskId .contractSubmitted reason)] :
    Respects R (submitContract env auth p) := by
  rw [submitContract]
  infer_instance

instance retireActiveContract_respects [Updates R Refs.contracts]
    [Deletes R Refs.activeContractMarkers] : Respects R (retireActiveContract taskId) := by
  rw [retireActiveContract]
  infer_instance

instance syncModelCallLimit_respects [TaskDetails R] {content : ContractContent} :
    Respects R (syncModelCallLimit taskId content) := by
  rw [syncModelCallLimit]
  infer_instance

instance invalidateStaleContractDelta_respects [Updates R Refs.decisions]
    [EventRows R] [∀ env decisionId, Respects R (resolveGates env decisionId)]
    [∀ env taskId, Respects R (recomputeRunnableState env taskId)] {decision : DecisionRow}
    {actor code : String} :
    Respects R (invalidateStaleContractDelta env taskId decisionId decision actor code) := by
  rw [invalidateStaleContractDelta]
  infer_instance

instance activateContractDelta_respects [Inserts R Refs.contracts]
    [Inserts R Refs.activeContractMarkers] [ContractVersions R] [Updates R Refs.decisions]
    [EventRows R] [∀ taskId, Respects R (retireActiveContract taskId)]
    [∀ taskId content, Respects R (syncModelCallLimit taskId content)]
    [∀ env decisionId, Respects R (resolveGates env decisionId)]
    [∀ env taskId, Respects R (recomputeRunnableState env taskId)] {decision : DecisionRow}
    {envelope : DeltaEnvelope} :
    Respects R (activateContractDelta env auth taskId decisionId task decision envelope) := by
  rw [activateContractDelta]
  infer_instance

instance applyContractDelta_respects
    [∀ env taskId decisionId decision actor code,
      Respects R (invalidateStaleContractDelta env taskId decisionId decision actor code)]
    [∀ env auth taskId decisionId task decision envelope,
      Respects R (activateContractDelta env auth taskId decisionId task decision envelope)] :
    Respects R (applyContractDelta env auth p) := by
  rw [applyContractDelta]
  infer_instance

/-! ## Acceptance -/

instance assertAcceptanceEvidence_respects {required : List Criterion}
    {evidence : List EvidenceItem} : Respects R (assertAcceptanceEvidence required evidence) := by
  rw [assertAcceptanceEvidence]
  infer_instance

instance resolveRegisteredArtifact_respects {hash : String} :
    Respects R (resolveRegisteredArtifact taskId hash) := by
  rw [resolveRegisteredArtifact]
  infer_instance

instance checkExtraEvidence_respects
    [∀ taskId hash, Respects R (resolveRegisteredArtifact taskId hash)] {wuIds hashes : List String}
    {defaults : List EvidenceItem} {item : EvidenceItem} :
    Respects R (checkExtraEvidence taskId wuIds hashes defaults item) := by
  rw [checkExtraEvidence]
  infer_instance

instance buildAcceptanceEvidence_respects
    [∀ taskId wuIds hashes defaults item,
      Respects R (checkExtraEvidence taskId wuIds hashes defaults item)] {nodes : List RawNode}
    {required : List Criterion} {extra : List EvidenceItem} :
    Respects R (buildAcceptanceEvidence taskId nodes required extra) := by
  rw [buildAcceptanceEvidence]
  infer_instance

instance nodeDeliverable_respects {node : RawNode} : Respects R (nodeDeliverable node) := by
  rw [nodeDeliverable]
  infer_instance

instance nodeDeliverables_respects [∀ node, Respects R (nodeDeliverable node)]
    {nodes : List RawNode} : Respects R (nodeDeliverables nodes) := by
  rw [nodeDeliverables]
  infer_instance

instance prepareAcceptance_respects [Inserts R Refs.resultSnapshots] [AcceptanceDecisions R]
    [TaskDetails R] [∀ nodes, Respects R (nodeDeliverables nodes)]
    [∀ taskId nodes required extra,
      Respects R (buildAcceptanceEvidence taskId nodes required extra)]
    [∀ required evidence, Respects R (assertAcceptanceEvidence required evidence)]
    [∀ env taskId, Respects R (supersedePendingAcceptance env taskId)]
    [∀ env taskId decisionId reason, Respects R (openGate env taskId decisionId reason)]
    [∀ env taskId reason, Respects R (setTaskState env taskId .acceptanceReady reason)] :
    Respects R (prepareAcceptance env auth p) := by
  rw [prepareAcceptance]
  infer_instance

/-! ## Decisions -/

instance applyContractApproval_respects [Updates R Refs.contracts]
    [Inserts R Refs.activeContractMarkers] [ContractVersions R] [Updates R Refs.decisions]
    [∀ taskId, Respects R (retireActiveContract taskId)]
    [∀ env decisionId, Respects R (resolveGates env decisionId)]
    [∀ taskId content, Respects R (syncModelCallLimit taskId content)]
    [∀ env taskId event reason, Respects R (setTaskState env taskId event reason)]
    {decision : DecisionRow} {actorId : String} :
    Respects R (applyContractApproval env taskId decisionId decision actorId) := by
  rw [applyContractApproval]
  infer_instance

instance checkFinalAcceptance_respects
    [∀ required evidence, Respects R (assertAcceptanceEvidence required evidence)]
    {decision : DecisionRow} :
    Respects R (checkFinalAcceptance env taskId decisionId decision) := by
  rw [checkFinalAcceptance]
  infer_instance

instance applyFinalAcceptance_respects [TaskDetails R]
    [∀ env taskId decisionId decision,
      Respects R (checkFinalAcceptance env taskId decisionId decision)]
    [∀ env decisionId, Respects R (resolveGates env decisionId)]
    [∀ env taskId reason, Respects R (setTaskState env taskId .finalAccepted reason)]
    {decision : DecisionRow} :
    Respects R (applyFinalAcceptance env taskId decisionId decision) := by
  rw [applyFinalAcceptance]
  infer_instance

instance applySideEffectApproval_respects [Updates R Refs.sideEffects]
    [∀ env decisionId, Respects R (resolveGates env decisionId)]
    [∀ env taskId, Respects R (recomputeRunnableState env taskId)] {decision : DecisionRow} :
    Respects R (applySideEffectApproval env taskId decisionId decision) := by
  rw [applySideEffectApproval]
  infer_instance

instance applyContractDeltaApproval_respects [Updates R Refs.decisions] [TaskDetails R]
    [∀ decisionId lifecycle resolvedAt, Respects R (setGates decisionId lifecycle resolvedAt)]
    [∀ env taskId reason, Respects R (setTaskState env taskId .blockingGateOpened reason)]
    {decision : DecisionRow} :
    Respects R (applyContractDeltaApproval env taskId decisionId decision) := by
  rw [applyContractDeltaApproval]
  infer_instance

instance checkContractUnchanged_respects {decision : DecisionRow} :
    Respects R (checkContractUnchanged decision) := by
  rw [checkContractUnchanged]
  infer_instance

instance applyApprovedDecision_respects
    [∀ env taskId decisionId decision actorId,
      Respects R (applyContractApproval env taskId decisionId decision actorId)]
    [∀ env taskId decisionId decision,
      Respects R (applyFinalAcceptance env taskId decisionId decision)]
    [∀ env taskId decisionId decision,
      Respects R (applySideEffectApproval env taskId decisionId decision)]
    [∀ env taskId decisionId decision,
      Respects R (applyContractDeltaApproval env taskId decisionId decision)]
    [∀ env decisionId, Respects R (resolveGates env decisionId)]
    [∀ env taskId, Respects R (recomputeRunnableState env taskId)] {decision : DecisionRow}
    {actorId : String} :
    Respects R (applyApprovedDecision env taskId decisionId decision actorId) := by
  rw [applyApprovedDecision]
  split <;> infer_instance

instance settleDecision_respects [Updates R Refs.decisions] [EventRows R]
    [∀ env taskId decisionId decision actorId,
      Respects R (applyApprovedDecision env taskId decisionId decision actorId)]
    [∀ env decisionId, Respects R (resolveGates env decisionId)]
    [∀ env taskId, Respects R (recomputeRunnableState env taskId)] {decision : DecisionRow}
    {choice : String} : Respects R (settleDecision env auth decisionId decision choice) := by
  rw [settleDecision]
  infer_instance

instance resolveDecision_respects [∀ decision, Respects R (checkContractUnchanged decision)]
    [∀ env auth decisionId decision choice,
      Respects R (settleDecision env auth decisionId decision choice)]
    {r : Resolution} : Respects R (resolveDecision env auth r) := by
  rw [resolveDecision]
  infer_instance

instance approveContract_respects [∀ env auth r, Respects R (resolveDecision env auth r)] :
    Respects R (approveContract env auth p) := by
  rw [approveContract]
  infer_instance

instance approveSideEffect_respects [∀ env auth r, Respects R (resolveDecision env auth r)] :
    Respects R (approveSideEffect env auth p) := by
  rw [approveSideEffect]
  infer_instance

instance acceptResult_respects [∀ env auth r, Respects R (resolveDecision env auth r)] :
    Respects R (acceptResult env auth p) := by
  rw [acceptResult]
  infer_instance

instance resolveDecisionCommand_respects [∀ env auth r, Respects R (resolveDecision env auth r)] :
    Respects R (resolveDecisionCommand env auth p) := by
  rw [resolveDecisionCommand]
  infer_instance

/-! ## Plans -/

instance checkNodeOwner_respects {node : RawNode} : Respects R (checkNodeOwner taskId node) := by
  rw [checkNodeOwner]
  infer_instance

instance checkPlanCaps_respects [∀ taskId node, Respects R (checkNodeOwner taskId node)]
    {nodes : List RawNode} : Respects R (checkPlanCaps taskId nodes) := by
  rw [checkPlanCaps]
  infer_instance

instance installSpec_respects [Inserts R Refs.workUnitSpecs] {node : RawNode}
    {spec : WorkUnitSpec} : Respects R (installSpec env taskId node spec) := by
  rw [installSpec]
  infer_instance

instance rebindUnit_respects [UnitDetails R] {node : RawNode}
    {wu : WorkUnitExecutionRow} : Respects R (rebindUnit node wu) := by
  rw [rebindUnit]
  infer_instance

instance installUnit_respects [Inserts R Refs.workUnitExecutions]
    [∀ node wu, Respects R (rebindUnit node wu)] {node : RawNode} :
    Respects R (installUnit taskId node) := by
  rw [installUnit]
  exact .seq inferInstance fun _ ↦ by split <;> infer_instance

instance installWorkspace_respects [Inserts R Refs.workspaces] {node : RawNode} :
    Respects R (installWorkspace taskId node) := by
  rw [installWorkspace]
  exact .seq inferInstance fun _ ↦ by split <;> infer_instance

instance installNode_respects
    [∀ env taskId node spec, Respects R (installSpec env taskId node spec)]
    [∀ taskId node, Respects R (installUnit taskId node)]
    [∀ taskId node, Respects R (installWorkspace taskId node)] {objective : Option String}
    {title : String} {contract : ContractContent} {node : RawNode} :
    Respects R (installNode env taskId objective title contract node) := by
  rw [installNode]
  infer_instance

instance cancelRemovedUnit_respects [UnitDetails R] :
    Respects R (cancelRemovedUnit wuId) := by
  rw [cancelRemovedUnit]
  infer_instance

instance stopRemovedUnit_respects [StopRows R]
    [∀ env taskId runId, Respects R (cancelUnsentStart env taskId runId)]
    {wu : WorkUnitExecutionRow} : Respects R (stopRemovedUnit env flushed taskId wu) := by
  rw [stopRemovedUnit]
  infer_instance

instance removeUnit_respects [Deletes R Refs.activeExecuteRunMarkers]
    [∀ wuId, Respects R (cancelRemovedUnit wuId)]
    [∀ env flushed taskId wu, Respects R (stopRemovedUnit env flushed taskId wu)] :
    Respects R (removeUnit env flushed taskId wuId) := by
  rw [removeUnit]
  infer_instance

instance installPlan_respects [Inserts R Refs.plans] [Updates R Refs.plans]
    [Inserts R Refs.activePlanMarkers] [Deletes R Refs.activePlanMarkers] [PlanVersions R]
    {version : Nat} {nodes : List RawNode} {edges : List RawEdge} :
    Respects R (installPlan env taskId task version nodes edges) := by
  rw [installPlan]
  infer_instance

instance alignUnits_respects
    [∀ env taskId objective title contract node,
      Respects R (installNode env taskId objective title contract node)]
    [∀ env flushed taskId wuId, Respects R (removeUnit env flushed taskId wuId)]
    {objective : Option String} {title : String} {contract : ContractContent}
    {nodes : List RawNode} :
    Respects R (alignUnits env flushed taskId objective title contract nodes) := by
  rw [alignUnits]
  infer_instance

instance activatePlan_respects [EventRows R]
    [∀ taskId nodes, Respects R (checkPlanCaps taskId nodes)]
    [∀ env taskId task version nodes edges,
      Respects R (installPlan env taskId task version nodes edges)]
    [∀ env taskId, Respects R (supersedePendingAcceptance env taskId)]
    [∀ env flushed taskId objective title contract nodes,
      Respects R (alignUnits env flushed taskId objective title contract nodes)]
    [∀ env taskId reason, Respects R (setTaskState env taskId .planActivated reason)]
    {r : PlanRequest} : Respects R (activatePlan env auth r) := by
  rw [activatePlan]
  infer_instance

instance activatePlanCommand_respects [∀ env auth r, Respects R (activatePlan env auth r)] :
    Respects R (activatePlanCommand env auth p) := by
  rw [activatePlanCommand]
  infer_instance

instance activateMinimalPlan_respects [∀ env auth r, Respects R (activatePlan env auth r)] :
    Respects R (activateMinimalPlan env auth p) := by
  rw [activateMinimalPlan]
  infer_instance

/-! ## Runs -/

instance createExecuteRun_respects [Inserts R Refs.contextManifests] [Inserts R Refs.agentRuns]
    [Inserts R Refs.runInputs] [Inserts R Refs.activeExecuteRunMarkers]
    [Updates R Refs.workUnitExecutions] [Updates R Refs.workspaces] [EventRows R]
    [AgentRows R] {r : RunIdentity} {attempt : Nat} :
    Respects R (createExecuteRun env auth taskId task r attempt) := by
  rw [createExecuteRun]
  infer_instance

instance blockContextOverflow_respects [UnitDetails R]
    [EventRows R] {manifest : ContextManifest} :
    Respects R (blockContextOverflow env auth taskId wuId manifest) := by
  rw [blockContextOverflow]
  infer_instance

instance dispatchUnit_respects [UnitDetails R]
    [∀ env auth taskId wuId manifest,
      Respects R (blockContextOverflow env auth taskId wuId manifest)]
    [∀ env auth taskId task r attempt, Respects R (createExecuteRun env auth taskId task r attempt)]
    {version : Nat} {node : RawNode} {wu : WorkUnitExecutionRow}
    {ws : Option (String × WorkspaceRow)} {created : List String} :
    Respects R (dispatchUnit env auth taskId version node wu ws created) := by
  rw [dispatchUnit]
  infer_instance

instance dispatchNode_respects [UnitDetails R]
    [Deletes R Refs.activeExecuteRunMarkers]
    [∀ env auth taskId version node wu ws created,
      Respects R (dispatchUnit env auth taskId version node wu ws created)]
    {version globalActive taskActive : Nat} {edges : List RawEdge} {created : List String}
    {node : RawNode} :
    Respects R
      (dispatchNode env auth taskId version edges globalActive taskActive created node) := by
  rw [dispatchNode]
  exact .seq inferInstance fun _ ↦ by split <;> infer_instance

instance openResourceGate_respects [Questions R]
    [∀ env taskId reason, Respects R (setTaskState env taskId .blockingGateOpened reason)] :
    Respects R (openResourceGate env taskId) := by
  rw [openResourceGate]
  infer_instance

instance dispatchPlanNodes_respects
    [∀ env auth taskId version edges globalActive taskActive created node,
      Respects R
        (dispatchNode env auth taskId version edges globalActive taskActive created node)] :
    Respects R (dispatchPlanNodes env auth p taskId) := by
  rw [dispatchPlanNodes]
  exact .seq inferInstance fun _ ↦ by split <;> infer_instance

instance dispatchReadyRuns_respects [∀ env taskId, Respects R (openResourceGate env taskId)]
    [∀ env auth p taskId, Respects R (dispatchPlanNodes env auth p taskId)] :
    Respects R (dispatchReadyRuns env auth p) := by
  rw [dispatchReadyRuns]
  refine .seq inferInstance fun taskId ↦ .seq inferInstance fun task ↦ ?_
  refine .seq inferInstance fun _ ↦ ?_
  refine .seq inferInstance fun contract ↦ .seq inferInstance fun db ↦ ?_
  split <;> infer_instance

/-! ## Planner sessions -/

instance revokePlanRun_respects [EndsRuns R] [Deletes R Refs.activePlanRunMarkers]
    [Updates R Refs.plannerSessions] [StopRows R] :
    Respects R (revokePlanRun env flushed taskId sessionId) := by
  rw [revokePlanRun]
  infer_instance

instance bumpPlannerGeneration_respects [Inserts R Refs.plannerSessions]
    [Updates R Refs.plannerSessions] [TaskSessions R] [EventRows R]
    [∀ env flushed taskId sessionId, Respects R (revokePlanRun env flushed taskId sessionId)] :
    Respects R (bumpPlannerGeneration env auth taskId) := by
  rw [bumpPlannerGeneration]
  infer_instance

instance replacePlannerGeneration_respects
    [∀ env auth taskId, Respects R (bumpPlannerGeneration env auth taskId)] :
    Respects R (replacePlannerGeneration env auth p) := by
  rw [replacePlannerGeneration]
  infer_instance

instance proposeContractDelta_respects [Inserts R Refs.decisions]
    [∀ env taskId decisionId reason, Respects R (openGate env taskId decisionId reason)]
    [∀ env taskId reason, Respects R (setTaskState env taskId .blockingGateOpened reason)] :
    Respects R (proposeContractDelta env taskId p) := by
  rw [proposeContractDelta]
  infer_instance

instance submitPlanProposal_respects [EventRows R]
    [∀ auth taskId sessionId session p,
      Respects R (assertPlanRunBinding auth taskId sessionId session p)]
    [∀ env taskId p, Respects R (proposeContractDelta env taskId p)]
    [∀ env auth r, Respects R (activatePlan env auth r)] :
    Respects R (submitPlanProposal env auth p) := by
  rw [submitPlanProposal]
  infer_instance

instance createPlanRun_respects [Inserts R Refs.agentRuns] [Inserts R Refs.contextManifests]
    [Inserts R Refs.runInputs] [Inserts R Refs.activePlanRunMarkers]
    [Updates R Refs.plannerSessions] [EventRows R] [AgentRows R]
    {session : PlannerSessionRow} :
    Respects R (createPlanRun env auth p taskId task sessionId session) := by
  rw [createPlanRun]
  infer_instance

instance dispatchSessionRun_respects [Deletes R Refs.activePlanRunMarkers]
    [∀ env auth p taskId task sessionId session,
      Respects R (createPlanRun env auth p taskId task sessionId session)] :
    Respects R (dispatchSessionRun env auth p taskId sessionId) := by
  rw [dispatchSessionRun]
  refine .seq inferInstance fun task ↦ .seq inferInstance fun db ↦ ?_
  refine .seq inferInstance fun session ↦ ?_
  refine .seq inferInstance fun _ ↦ .seq inferInstance fun _ ↦ ?_
  split <;> infer_instance

instance dispatchPlannerRun_respects
    [∀ env auth p taskId sessionId, Respects R (dispatchSessionRun env auth p taskId sessionId)]
    [∀ env auth taskId, Respects R (bumpPlannerGeneration env auth taskId)] :
    Respects R (dispatchPlannerRun env auth p) := by
  rw [dispatchPlannerRun]
  refine .seq inferInstance fun taskId ↦ .seq inferInstance fun task ↦ ?_
  refine .seq inferInstance fun _ ↦ ?_
  refine .seq inferInstance fun contract ↦ .seq inferInstance fun db ↦ ?_
  split
  · infer_instance
  · split <;> infer_instance

instance checkCursor_respects {session : PlannerSessionRow} :
    Respects R (checkCursor taskId session p) := by
  rw [checkCursor]
  infer_instance

instance advancePlannerCheckpoint_respects [Updates R Refs.plannerSessions]
    [EventRows R]
    [∀ auth taskId sessionId session p,
      Respects R (assertPlanRunBinding auth taskId sessionId session p)]
    [∀ taskId session p, Respects R (checkCursor taskId session p)] :
    Respects R (advancePlannerCheckpoint env auth p) := by
  rw [advancePlannerCheckpoint]
  infer_instance

instance checkPoster_respects : Respects R (checkPoster auth taskId p) := by
  rw [checkPoster]
  split <;> infer_instance

instance postTaskMessage_respects [Inserts R Refs.taskMessages] [EventRows R]
    [∀ auth taskId p, Respects R (checkPoster auth taskId p)] :
    Respects R (postTaskMessage env auth p) := by
  rw [postTaskMessage]
  infer_instance

instance requestSpawn_respects [EventRows R] :
    Respects R (requestSpawn env auth p) := by
  rw [requestSpawn]
  infer_instance

instance closePlannerSession_respects [Updates R Refs.plannerSessions]
    [EventRows R] : Respects R (closePlannerSession env auth p) := by
  rw [closePlannerSession]
  infer_instance

instance requestRepairPlan_respects [∀ env auth p, Respects R (submitPlanProposal env auth p)]
    [∀ env auth r, Respects R (activatePlan env auth r)] :
    Respects R (requestRepairPlan env auth p) := by
  rw [requestRepairPlan]
  infer_instance

/-! ## What runs report -/

instance registerArtifact_respects [Inserts R Refs.artifacts] {hash : String} :
    Respects R (registerArtifact env taskId runId run hash) := by
  rw [registerArtifact]
  infer_instance

instance registerEvidence_respects [Inserts R Refs.acceptanceEvidence] {seen : List String}
    {e : EvidenceItem} : Respects R (registerEvidence env taskId runId run seen e) := by
  rw [registerEvidence]
  exact .seq inferInstance fun _ ↦ by split <;> infer_instance

instance registerResultArtifacts_respects
    [∀ env taskId runId run hash, Respects R (registerArtifact env taskId runId run hash)]
    [∀ env taskId runId run seen e, Respects R (registerEvidence env taskId runId run seen e)]
    {result : RunResult} {apply : Bool} :
    Respects R (registerResultArtifacts env taskId runId result apply) := by
  rw [registerResultArtifacts]
  infer_instance

instance recordLateResult_respects [RunDetails R] [EventRows R]
    {result : RunResult} {event : String} {data : Data} :
    Respects R (recordLateResult env auth runId run result event data) := by
  rw [recordLateResult]
  infer_instance

instance recordSupersededResult_respects [Updates R Refs.agentRuns]
    [Deletes R Refs.activeExecuteRunMarkers] [UnitDetails R]
    [EventRows R]
    [∀ env taskId runId result apply,
      Respects R (registerResultArtifacts env taskId runId result apply)] {result : RunResult}
    {ref : String} : Respects R (recordSupersededResult env auth runId wuId run result ref) := by
  rw [recordSupersededResult]
  infer_instance

instance maybeAdvanceVerifyTaskState_respects
    [∀ env taskId reason, Respects R (setTaskState env taskId .requiredOutputsReady reason)]
    [∀ env taskId reason, Respects R (setTaskState env taskId .verificationFailed reason)]
    {result : RunResult} {outcome : Outcome} :
    Respects R (maybeAdvanceVerifyTaskState env taskId wuId result outcome) := by
  rw [maybeAdvanceVerifyTaskState]
  infer_instance

instance applyResultToUnit_respects [UnitDetails R] [UnitCompletions R]
    [Deletes R Refs.activeExecuteRunMarkers]
    [∀ env taskId runId result apply,
      Respects R (registerResultArtifacts env taskId runId result apply)]
    [∀ env taskId wuId result outcome,
      Respects R (maybeAdvanceVerifyTaskState env taskId wuId result outcome)] {result : RunResult}
    {ref : String} {outcome : Outcome} :
    Respects R (applyResultToUnit env taskId runId wuId result ref outcome) := by
  rw [applyResultToUnit]
  dsimp only [transitionWorkUnit_runBlocked, transitionWorkUnit_runCompleted]
  infer_instance

instance postResultMessage_respects [Inserts R Refs.taskMessages] {result : RunResult}
    {outcome : Outcome} :
    Respects R (postResultMessage env auth taskId runId run result outcome) := by
  rw [postResultMessage]
  infer_instance

instance acceptRunResult_respects [Updates R Refs.agentRuns] [EventRows R]
    [∀ env taskId runId wuId result ref outcome,
      Respects R (applyResultToUnit env taskId runId wuId result ref outcome)]
    [∀ runId releaseWorkspace, Respects R (clearRunOccupancy runId releaseWorkspace)]
    [∀ env auth taskId runId run result outcome,
      Respects R (postResultMessage env auth taskId runId run result outcome)] {result : RunResult}
    {ref : String} : Respects R (acceptRunResult env auth runId run result ref) := by
  rw [acceptRunResult]
  infer_instance

instance submitHeldResult_respects [RunDetails R]
    [∀ env auth runId wuId run result ref,
      Respects R (recordSupersededResult env auth runId wuId run result ref)]
    [∀ env auth runId run result ref, Respects R (acceptRunResult env auth runId run result ref)]
    {result : RunResult} : Respects R (submitHeldResult env auth p runId run result) := by
  rw [submitHeldResult]
  have hrest (db : DB) (ref : String) : Respects R
      (match run.workUnitId.filter fun wuId ↦ !assignmentCurrent db runId run wuId with
        | some wuId => recordSupersededResult env auth runId wuId run result ref
        | none => acceptRunResult env auth runId run result ref) := by
    split <;> infer_instance
  infer_instance

instance submitResult_respects
    [∀ env auth runId run result event data,
      Respects R (recordLateResult env auth runId run result event data)]
    [∀ env auth p runId run result, Respects R (submitHeldResult env auth p runId run result)] :
    Respects R (submitResult env auth p) := by
  rw [submitResult]
  have hrest (runId : String) (run : AgentRunRow) (db : DB) (result : RunResult) : Respects R
      (match supersededBy db runId run with
        | some other => recordLateResult env auth runId run result "run.late_result"
            [("active_run_id", .text other)]
        | none => submitHeldResult env auth p runId run result) := by
    split <;> infer_instance
  infer_instance

instance recordModelUsage_respects [TaskDetails R] :
    Respects R (recordModelUsage env auth p) := by
  rw [recordModelUsage]
  infer_instance

instance confirmRunExit_respects [EventRows R] [AgentRows R] :
    Respects R (confirmRunExit env auth p) := by
  rw [confirmRunExit]
  infer_instance

instance setWriterAlive_respects [Updates R Refs.workspaces] :
    Respects R (setWriterAlive env auth p) := by
  rw [setWriterAlive]
  infer_instance

instance registerSandboxIdentity_respects [RunDetails R] [Updates R Refs.workspaces]
    [∀ runId, Respects R (releaseWorkspaceAfterConfirmedExit runId)] :
    Respects R (registerSandboxIdentity env auth p) := by
  rw [registerSandboxIdentity]
  infer_instance

instance heartbeat_respects [RunDetails R] : Respects R (heartbeat env auth p) := by
  rw [heartbeat]
  infer_instance

instance assertWorkspaceAccessibleByRun_respects :
    Respects R (assertWorkspaceAccessibleByRun runId run wsId) := by
  rw [assertWorkspaceAccessibleByRun]
  infer_instance

instance readWorkspaceBytes_respects
    [∀ runId run wsId, Respects R (assertWorkspaceAccessibleByRun runId run wsId)] {path : String}
    {maxBytes : Option Nat} : Respects R (readWorkspaceBytes env runId run path wsId maxBytes) := by
  rw [readWorkspaceBytes]
  infer_instance

instance publishArtifact_respects [Inserts R Refs.artifacts] [Updates R Refs.artifacts]
    [EventRows R]
    [∀ env runId run path wsId maxBytes,
      Respects R (readWorkspaceBytes env runId run path wsId maxBytes)] :
    Respects R (publishArtifact env auth p) := by
  rw [publishArtifact]
  infer_instance

instance readAppendedRef_respects
    [∀ env runId run path wsId maxBytes,
      Respects R (readWorkspaceBytes env runId run path wsId maxBytes)] {ref : String}
    {maxBytes : Option Nat} : Respects R (readAppendedRef env runId run ref maxBytes) := by
  rw [readAppendedRef]
  infer_instance

instance contextAppend_respects [Inserts R Refs.contextAppends] [EventRows R]
    [∀ env runId run ref maxBytes, Respects R (readAppendedRef env runId run ref maxBytes)] :
    Respects R (contextAppend env auth p) := by
  rw [contextAppend]
  infer_instance

instance seedProfile_respects [Inserts R Refs.agentProfiles] :
    Respects R (seedProfile env auth p) := by
  rw [seedProfile]
  infer_instance

/-! ## Pausing, cancelling and gates -/

instance cancelPausedRun_respects [EndsRuns R] :
    Respects R (cancelPausedRun env runId) := by
  rw [cancelPausedRun]
  infer_instance

instance runtimeQuiescent_respects [UnitDetails R] [TaskDetails R]
    [EventRows R] [∀ env runId, Respects R (cancelPausedRun env runId)]
    [∀ env taskId reason, Respects R (setTaskState env taskId .runtimeQuiescent reason)] :
    Respects R (runtimeQuiescent env auth p) := by
  rw [runtimeQuiescent]
  infer_instance

instance resumeTask_respects [UnitDetails R] [EventRows R]
    [∀ env taskId reason, Respects R (setTaskState env taskId .resumeRequested reason)]
    [∀ env taskId reason, Respects R (setTaskState env taskId .resumeRequestedRunnable reason)] :
    Respects R (resumeTask env auth p) := by
  rw [resumeTask]
  infer_instance

instance cancellationSettled_respects [RunDetails R] [EventRows R]
    [∀ env taskId reason, Respects R (setTaskState env taskId .cancellationSettled reason)] :
    Respects R (cancellationSettled env auth p) := by
  rw [cancellationSettled]
  infer_instance

instance blockGatedRun_respects [UnitDetails R]
    [Deletes R Refs.activeExecuteRunMarkers] [RunDetails R] [StopRows R]
    {reason : WaitingReason} : Respects R (blockGatedRun env flushed taskId runId reason) := by
  rw [blockGatedRun]
  infer_instance

instance pauseTask_respects [TaskDetails R] [EventRows R] [StopRows R]
    [∀ env taskId reason, Respects R (setTaskState env taskId .pauseRequested reason)]
    [∀ env flushed taskId, Respects R (invalidatePendingOutbox env flushed taskId)] :
    Respects R (pauseTask env auth p) := by
  rw [pauseTask]
  infer_instance

instance openBlockingGate_respects [Questions R]
    [∀ env flushed taskId runId reason, Respects R (blockGatedRun env flushed taskId runId reason)]
    [∀ env taskId reason, Respects R (setTaskState env taskId .blockingGateOpened reason)]
    [∀ env flushed taskId, Respects R (invalidatePendingOutbox env flushed taskId)] :
    Respects R (openBlockingGate env auth p) := by
  rw [openBlockingGate]
  infer_instance

instance cancelTask_respects [TaskDetails R] [UnitDetails R]
    [EventRows R] [StopRows R]
    [∀ env taskId reason, Respects R (setTaskState env taskId .cancelRequested reason)]
    [∀ env flushed taskId, Respects R (invalidatePendingOutbox env flushed taskId)]
    [∀ flushed taskId effectId, Respects R (cancelEffect flushed taskId effectId)] :
    Respects R (cancelTask env auth p) := by
  rw [cancelTask]
  infer_instance

/-! ## External effects -/

instance requestEffectApproval_respects [Questions R]
    [∀ env taskId reason, Respects R (setTaskState env taskId .blockingGateOpened reason)]
    {version : Nat} {digest parameters : Digest} :
    Respects R (requestEffectApproval env taskId effectId version digest parameters) := by
  rw [requestEffectApproval]
  infer_instance

instance effectDecision_respects
    [∀ env taskId effectId version digest parameters,
      Respects R (requestEffectApproval env taskId effectId version digest parameters)]
    {version : Nat} {preauthorized : Bool} {action : Action} :
    Respects R (effectDecision env taskId effectId version preauthorized action) := by
  rw [effectDecision]
  infer_instance

instance proposeSideEffect_respects
    [∀ env auth p taskId key version preauthorized action,
      Respects R (insertEffect env auth p taskId key version preauthorized action)] :
    Respects R (proposeSideEffect env auth p) := by
  rw [proposeSideEffect]
  have hrest (taskId key : String) (version : Nat) (allowed : Bool) (action : Action) (db : DB) :
      Respects R (match effectByKey db taskId key with
        | some (effectId, existing) => do
          Tx.check (existing.actionDigest = .action action)
            (.conflict "side_effect_digest_conflict"
              "logical_action_key exists with different parameters/target")
          return CommandResult.replay
            [("effect_id", .text effectId), ("state", .text existing.state.text),
              ("reused", .flag true), ("task_id", .text taskId),
              ("action_digest", .digest existing.actionDigest)]
        | none => insertEffect env auth p taskId key version allowed action) := by
    split <;> infer_instance
  infer_instance

/-! ## Claims and calls -/

instance claimStart_respects [OutboxSteps R] {task : Option TaskRow} :
    Respects R (claimStart env outboxId row task) := by
  rw [claimStart]
  infer_instance

instance startSendAllowed_respects
    [∀ env flushed outboxId row runId reason,
      Respects R (fenceClaimedAgentStart env flushed outboxId row runId reason)] :
    Respects R (startSendAllowed env outboxId runId) := by
  rw [startSendAllowed]
  exact .seq inferInstance fun _ ↦ by split <;> infer_instance

instance ackOutboxAndMarkRunning_respects [Updates R Refs.agentRuns] [OutboxRows R]
    [∀ env flushed outboxId runId run task,
      Respects R (fenceAckedStart env flushed outboxId runId run task)] :
    Respects R (ackOutboxAndMarkRunning env outboxId runId) := by
  rw [ackOutboxAndMarkRunning]
  infer_instance

instance settleStoppedWorkspace_respects [Updates R Refs.workspaces] {stopped : Bool} :
    Respects R (settleStoppedWorkspace runId run stopped) := by
  rw [settleStoppedWorkspace]
  infer_instance

instance settleStoppedRun_respects [EndsRuns R] [UnitDetails R]
    {reason : String} : Respects R (settleStoppedRun env runId run reason) := by
  rw [settleStoppedRun]
  infer_instance

instance ackStop_respects [EventRows R] [OutboxRows R]
    [∀ runId run stopped, Respects R (settleStoppedWorkspace runId run stopped)]
    [∀ env runId run reason, Respects R (settleStoppedRun env runId run reason)] {reason : String}
    {result : StopResult} : Respects R (ackStop env outboxId runId reason result) := by
  rw [ackStop]
  infer_instance

instance quarantineUnconfirmed_respects [Updates R Refs.workspaces] {notes : List String} :
    Respects R (quarantineUnconfirmed run notes) := by
  rw [quarantineUnconfirmed]
  exact .seq inferInstance fun _ ↦ by split <;> infer_instance

instance loseRun_respects [EndsRuns R] [EventRows R]
    [∀ env runId, Respects R (recoverWorkUnitAfterLostRun env runId)] :
    Respects R (loseRun env taskId runId) := by
  rw [loseRun]
  infer_instance

instance quarantineExpiredLease_respects [Updates R Refs.workspaces] {notes : List String} :
    Respects R (quarantineExpiredLease env run notes) := by
  rw [quarantineExpiredLease]
  exact .seq inferInstance fun _ ↦ by split <;> infer_instance

instance reconcileRun_respects [∀ run notes, Respects R (quarantineUnconfirmed run notes)]
    [∀ env taskId runId, Respects R (loseRun env taskId runId)]
    [∀ env run notes, Respects R (quarantineExpiredLease env run notes)] {notes : List String} :
    Respects R (reconcileRun env taskId notes runId) := by
  rw [reconcileRun]
  infer_instance

instance reconcileTask_respects
    [∀ env taskId notes runId, Respects R (reconcileRun env taskId notes runId)]
    {notes : List String} : Respects R (reconcileTask env notes taskId) := by
  rw [reconcileTask]
  infer_instance

instance reconcile_respects [∀ env flushed notes r, Respects R (expireRow env flushed notes r)]
    [∀ env notes taskId, Respects R (reconcileTask env notes taskId)] :
    Respects R (reconcile env) := by
  rw [reconcile]
  infer_instance

/-! ## What became of effects -/

instance cancelEffect_respects [Updates R Refs.sideEffects] :
    Respects R (cancelEffect flushed taskId effectId) := by
  rw [cancelEffect]
  infer_instance

instance insertEffect_respects [Inserts R Refs.sideEffects] [EventRows R]
    [∀ env taskId effectId version preauthorized action,
      Respects R (effectDecision env taskId effectId version preauthorized action)] {key : String}
    {version : Nat} {preauthorized : Bool} {action : Action} :
    Respects R (insertEffect env auth p taskId key version preauthorized action) := by
  rw [insertEffect]
  infer_instance

instance dispatchSideEffect_respects [Updates R Refs.sideEffects] [EventRows R]
    [OutboxRows R] : Respects R (dispatchSideEffect env auth p) := by
  rw [dispatchSideEffect]
  infer_instance

instance setEffectState_respects [Updates R Refs.sideEffects] {state : SideEffectState} :
    Respects R (setEffectState effectId state) := by
  rw [setEffectState]
  infer_instance

instance reconcileWithoutQuery_respects
    [∀ effectId state, Respects R (setEffectState effectId state)]
    [∀ env taskId reason, Respects R (setTaskState env taskId .blockingGateOpened reason)]
    {effect : SideEffectRow} : Respects R (reconcileWithoutQuery env effectId effect) := by
  rw [reconcileWithoutQuery]
  infer_instance

instance effectUnknown_respects [∀ effectId state, Respects R (setEffectState effectId state)] :
    Respects R (effectUnknown effectId) := by
  rw [effectUnknown]
  infer_instance

instance reconcileWithQuery_respects [Updates R Refs.sideEffects]
    [∀ effectId, Respects R (effectUnknown effectId)]
    [∀ effectId state, Respects R (setEffectState effectId state)] {answer : Option Receipt} :
    Respects R (reconcileWithQuery effectId answer) := by
  unfold reconcileWithQuery
  split
  · infer_instance
  · split <;> infer_instance

instance reconcileSideEffect_respects
    [∀ env effectId effect, Respects R (reconcileWithoutQuery env effectId effect)]
    [∀ effectId answer, Respects R (reconcileWithQuery effectId answer)] :
    Respects R (reconcileSideEffect env auth p) := by
  rw [reconcileSideEffect]
  infer_instance

instance releaseUnsentEffect_respects [∀ effectId state, Respects R (setEffectState effectId state)]
    {effect : SideEffectRow} : Respects R (releaseUnsentEffect effectId effect task) := by
  rw [releaseUnsentEffect]
  infer_instance

instance killRevokedDispatch_respects [OutboxRows R]
    [∀ effectId state, Respects R (setEffectState effectId state)] {effect : SideEffectRow} :
    Respects R (killRevokedDispatch outboxId effectId effect task) := by
  rw [killRevokedDispatch]
  infer_instance

instance claimDispatch_respects [OutboxSteps R]
    [∀ effectId effect task, Respects R (releaseUnsentEffect effectId effect task)]
    [∀ outboxId effectId effect task,
      Respects R (killRevokedDispatch outboxId effectId effect task)]
    [∀ effectId state, Respects R (setEffectState effectId state)] :
    Respects R (claimDispatch env outboxId row effectId task) := by
  rw [claimDispatch]
  exact .seq inferInstance fun _ ↦ by split <;> infer_instance

instance claimRow_respects [OutboxSteps R]
    [∀ env outboxId row task, Respects R (claimStart env outboxId row task)]
    [∀ env outboxId row effectId task, Respects R (claimDispatch env outboxId row effectId task)] :
    Respects R (claimRow env outboxId row) := by
  rw [claimRow]
  refine .seq inferInstance fun db ↦ ?_
  split
  · infer_instance
  · infer_instance
  · split <;> infer_instance

instance claimOneOutbox_respects [∀ env outboxId row, Respects R (claimRow env outboxId row)] :
    Respects R (claimOneOutbox env) := by
  rw [claimOneOutbox]
  exact .seq inferInstance fun _ ↦ by split <;> infer_instance

instance releaseRefusedDispatch_respects [OutboxRows R]
    [∀ effectId state, Respects R (setEffectState effectId state)] {effect : SideEffectRow} :
    Respects R (releaseRefusedDispatch outboxId effectId effect task) := by
  rw [releaseRefusedDispatch]
  infer_instance

instance precheck_respects [OutboxRows R]
    [∀ outboxId effectId effect task,
      Respects R (releaseRefusedDispatch outboxId effectId effect task)] {item : OutboxItem} :
    Respects R (precheck env item effectId) := by
  rw [precheck]
  refine .seq inferInstance fun db ↦ ?_
  split
  · split <;> infer_instance
  · infer_instance

instance recordReceipt_respects [Updates R Refs.sideEffects]
    [∀ effectId state, Respects R (setEffectState effectId state)]
    [∀ env taskId reason, Respects R (parkTask env taskId reason)] {receipt : Receipt} :
    Respects R (recordReceipt env effectId taskId receipt) := by
  unfold recordReceipt
  split <;> infer_instance

instance applyReceipt_respects [OutboxRows R]
    [∀ env effectId taskId receipt, Respects R (recordReceipt env effectId taskId receipt)]
    {receipt : Receipt} : Respects R (applyReceipt env outboxId effectId receipt) := by
  rw [applyReceipt]
  infer_instance

instance failDispatch_respects [Updates R Refs.sideEffects] [OutboxRows R]
    [∀ env taskId reason, Respects R (parkTask env taskId reason)] {error : String} :
    Respects R (failDispatch env outboxId effectId error) := by
  rw [failDispatch]
  infer_instance

instance expireDispatch_respects [Updates R Refs.sideEffects] [OutboxRows R]
    [∀ env taskId reason, Respects R (parkTask env taskId reason)] :
    Respects R (expireDispatch env outboxId effectId) := by
  rw [expireDispatch]
  infer_instance

/-! ## The outbox -/

instance cancelUnsentStart_respects [Updates R Refs.outbox] [EndsRuns R] :
    Respects R (cancelUnsentStart env taskId runId) := by
  rw [cancelUnsentStart]
  infer_instance

instance revokeClaimedDispatch_respects [Updates R Refs.sideEffects] [Updates R Refs.outbox] :
    Respects R (revokeClaimedDispatch env outboxId effectId) := by
  rw [revokeClaimedDispatch]
  infer_instance

instance revokeUnsentDispatch_respects [Updates R Refs.outbox] [Updates R Refs.sideEffects] :
    Respects R (revokeUnsentDispatch outboxId effectId task) := by
  rw [revokeUnsentDispatch]
  infer_instance

instance revokeUnsentStart_respects [Updates R Refs.outbox] [EndsRuns R]
    [UnitDetails R] :
    Respects R (revokeUnsentStart env outboxId runId task) := by
  rw [revokeUnsentStart]
  infer_instance

instance revokeUncertainStart_respects [Updates R Refs.outbox]
    [∀ runId, Respects R (keepStartOccupancy runId)] :
    Respects R (revokeUncertainStart outboxId runId task) := by
  rw [revokeUncertainStart]
  infer_instance

instance revokeOutboxRow_respects
    [∀ env outboxId effectId, Respects R (revokeClaimedDispatch env outboxId effectId)]
    [∀ outboxId effectId task, Respects R (revokeUnsentDispatch outboxId effectId task)]
    [∀ outboxId runId task, Respects R (revokeUncertainStart outboxId runId task)]
    [∀ env outboxId runId task, Respects R (revokeUnsentStart env outboxId runId task)]
    {stops : List String} {r : String × OutboxRow} :
    Respects R (revokeOutboxRow env task stops r) := by
  rw [revokeOutboxRow]
  split <;> infer_instance

instance invalidatePendingOutbox_respects [StopRows R]
    [∀ env task stops r, Respects R (revokeOutboxRow env task stops r)] :
    Respects R (invalidatePendingOutbox env flushed taskId) := by
  rw [invalidatePendingOutbox]
  infer_instance

instance fenceClaimedAgentStart_respects [Updates R Refs.outbox] [StopRows R]
    [∀ runId, Respects R (keepStartOccupancy runId)] {reason : String} :
    Respects R (fenceClaimedAgentStart env flushed outboxId row runId reason) := by
  rw [fenceClaimedAgentStart]
  infer_instance

instance fenceAckedStart_respects [Updates R Refs.outbox] [StopRows R]
    [∀ runId, Respects R (keepStartOccupancy runId)] {run : Option AgentRunRow}
    {task : Option (String × TaskRow)} :
    Respects R (fenceAckedStart env flushed outboxId runId run task) := by
  rw [fenceAckedStart]
  infer_instance

instance failRow_respects [Updates R Refs.outbox]
    [∀ env outboxId effectId error, Respects R (failDispatch env outboxId effectId error)]
    [∀ env flushed outboxId row runId reason,
      Respects R (fenceClaimedAgentStart env flushed outboxId row runId reason)] {error : String} :
    Respects R (failRow env flushed outboxId row error) := by
  rw [failRow]
  split <;> infer_instance

instance failOutbox_respects
    [∀ env flushed outboxId row error, Respects R (failRow env flushed outboxId row error)]
    {error : String} : Respects R (failOutbox env outboxId error) := by
  rw [failOutbox]
  infer_instance

instance expireRow_respects [Updates R Refs.outbox]
    [∀ env outboxId effectId, Respects R (expireDispatch env outboxId effectId)]
    [∀ env flushed outboxId row runId reason,
      Respects R (fenceClaimedAgentStart env flushed outboxId row runId reason)]
    {notes : List String} {r : String × OutboxRow} :
    Respects R (expireRow env flushed notes r) := by
  rw [expireRow]
  split <;> infer_instance

/-! ## Commands -/

instance agreeOnTask_respects {supplied owner : String} :
    Respects R (agreeOnTask supplied owner) := by
  rw [agreeOnTask]
  infer_instance

instance commandTaskId_respects [∀ supplied owner, Respects R (agreeOnTask supplied owner)]
    {operation : Operation} {target : Target} : Respects R (commandTaskId operation target) := by
  rw [commandTaskId]
  infer_instance

instance commandRunId_respects {operation : Operation} : Respects R (commandRunId operation p) := by
  rw [commandRunId]
  infer_instance

instance authorizeRunCommand_respects [∀ operation p, Respects R (commandRunId operation p)]
    {operation : Operation} : Respects R (authorizeRunCommand operation auth p) := by
  rw [authorizeRunCommand]
  infer_instance

instance checkInbox_respects {message : String} {ph : Fingerprint} :
    Respects R (checkInbox auth message ph) := by
  rw [checkInbox]
  exact .seq inferInstance fun _ ↦ by split <;> infer_instance

instance storeInbox_respects [Indifferent R Relation.inbox] {operation : Operation}
    {message : String} {ph : Fingerprint} {result : CommandResult} :
    Respects R (storeInbox env auth taskId operation message ph result) := by
  rw [storeInbox]
  infer_instance

instance adoptLegacy_respects [Indifferent R Relation.idempotencyKeys]
    [∀ operation target, Respects R (commandTaskId operation target)] {operation : Operation}
    {ikey : String} : Respects R (adoptLegacy auth taskId operation ikey) := by
  rw [adoptLegacy]
  exact .seq inferInstance fun _ ↦ by split <;> infer_instance

instance idempotencyRecord_respects
    [∀ auth taskId operation ikey, Respects R (adoptLegacy auth taskId operation ikey)]
    {operation : Operation} {ikey : String} :
    Respects R (idempotencyRecord auth taskId operation ikey) := by
  rw [idempotencyRecord]
  exact .seq inferInstance fun _ ↦ by split <;> infer_instance

instance checkIdempotency_respects
    [∀ auth taskId operation ikey, Respects R (idempotencyRecord auth taskId operation ikey)]
    {operation : Operation} {ikey : String} {ph : Fingerprint} :
    Respects R (checkIdempotency auth taskId operation ikey ph) := by
  rw [checkIdempotency]
  exact .seq inferInstance fun _ ↦ by split <;> infer_instance

instance storeIdempotency_respects [Indifferent R Relation.idempotencyKeys] {operation : Operation}
    {ikey : String} {ph : Fingerprint} {result : CommandResult} :
    Respects R (storeIdempotency env auth taskId operation ikey ph result) := by
  rw [storeIdempotency]
  infer_instance

instance requestMessage_respects {r : Request} : Respects R (requestMessage env r) := by
  rw [requestMessage]
  split <;> infer_instance

/-- A command respects what its handler respects. -/
theorem execute_respects [Indifferent R Relation.inbox]
    [∀ auth taskId operation ikey ph,
      Respects R (checkIdempotency auth taskId operation ikey ph)]
    [∀ env auth taskId operation ikey ph result,
      Respects R (storeIdempotency env auth taskId operation ikey ph result)] {r : Request}
    (h : Respects R (handler env r.auth r.payload r.operation)) : Respects R (execute env r) := by
  have hanswer (taskId messageId ikey : String) :
      Respects R (answer env r taskId messageId ikey) := by
    rw [answer]
    infer_instance
  have hmessage (taskId messageId ikey : String) :
      Respects R (answerMessage env r taskId messageId ikey) := by
    rw [answerMessage]
    exact .seq inferInstance fun _ ↦ by split <;> infer_instance
  have htx (messageId ikey : String) : Respects R (executeInTx env r messageId ikey) := by
    rw [executeInTx]
    refine .seq inferInstance fun _ ↦ .seq inferInstance fun _ ↦ .seq inferInstance fun _ ↦ ?_
    split <;> infer_instance
  rw [execute]
  infer_instance

end HibikiCore
