import HibikiCore.Safety.Runnable
import HibikiCore.Safety.Units
import HibikiCore.Safety.Evidence

/-!
# Units that are parked

When a task pauses, its running units are blocked, and the reason says so; when it is resumed they
wait again. A unit is parked if the text of its reason is that of a pause, whoever wrote it. Whatever
sets blocked units free elsewhere leaves the parked ones.
-/

namespace HibikiCore

set_option synthInstance.maxSize 100000000
set_option synthInstance.maxHeartbeats 400000

variable {env : Env} {auth : AuthContext} {p : Payload} {task : TaskRow} {run : AgentRunRow}
  {row : OutboxRow} {flushed s s' : DB} {w w' : World} {l : Label}
  {taskId runId wuId outboxId sessionId t : String} {event : TaskEvent} {result : CommandResult}

/-! ## Tasks that are held -/

/-- The states that a task leaves only when somebody resumes it, if it leaves them at all. -/
def TaskState.isHeld : TaskState → Bool
  | .pausing | .paused | .cancelling | .completed | .failed | .aborted => true
  | .new | .waitingHuman | .planning | .executing | .verifying => false

/-- The events that lead from a held state to another one. -/
def releasingEvents : List TaskEvent := [.resumeRequested, .resumeRequestedRunnable]

theorem firm_held (h : event ∉ releasingEvents) : Firm TaskState.isHeld event where
  firm {state next} hnext hQ := by
    cases event <;> first
      | exact absurd (by decide) h
      | (cases state <;> cases hnext <;> first | rfl | cases hQ)

section Firm

instance : Firm TaskState.isHeld .contractSubmitted := firm_held (by decide)

instance : Firm TaskState.isHeld .contractApproved := firm_held (by decide)

instance : Firm TaskState.isHeld .contractApprovedSimple := firm_held (by decide)

instance : Firm TaskState.isHeld .decisionResolved := firm_held (by decide)

instance : Firm TaskState.isHeld .planActivated := firm_held (by decide)

instance : Firm TaskState.isHeld .blockingGateOpened := firm_held (by decide)

instance : Firm TaskState.isHeld .requiredOutputsReady := firm_held (by decide)

instance : Firm TaskState.isHeld .verificationFailed := firm_held (by decide)

instance : Firm TaskState.isHeld .acceptanceReady := firm_held (by decide)

instance : Firm TaskState.isHeld .finalAccepted := firm_held (by decide)

instance : Firm TaskState.isHeld .pauseRequested := firm_held (by decide)

instance : Firm TaskState.isHeld .runtimeQuiescent := firm_held (by decide)

instance : Firm TaskState.isHeld .cancelRequested := firm_held (by decide)

instance : Firm TaskState.isHeld .cancellationSettled := firm_held (by decide)

end Firm

/-- The tasks that are held stay held, but for some. -/
abbrev HeldStay (T : String → Prop) : DB → DB → Prop := StateStays TaskState.isHeld T

namespace HeldStay

variable {T : String → Prop}

instance background : Background (HeldStay T) := inferInstance

instance applyContractApproval_respects {decisionId : String} {decision : DecisionRow}
    {actorId : String} : Respects (HeldStay T)
      (applyContractApproval env taskId decisionId decision actorId) := by
  have hset (simple : Bool) : Respects (HeldStay T) (setTaskState env taskId
      (if simple then .contractApprovedSimple else .contractApproved) none) := by
    split <;> infer_instance
  rw [applyContractApproval]
  infer_instance

theorem handler_respects {operation : Operation} (hresume : operation ≠ .resumeTask) :
    Respects (HeldStay T) (handler env auth p operation) := by
  cases operation
  case resumeTask => exact (hresume rfl).elim
  all_goals (dsimp only [handler]; infer_instance)

end HeldStay

/-! ## Units that come to be parked -/

/-- A unit that has not ended is parked. -/
def Parked (u : WorkUnitExecutionRow) : Prop := u.isPaused = true ∧ u.status.isTerminal = false

/-- A unit is parked, but not as the units of some tasks may be. -/
def ParkedAstray (T : String → Prop) (u : WorkUnitExecutionRow) : Prop :=
  Parked u ∧ ¬(u.status = .blocked ∧ T u.taskId)

/-- The units that come to be parked are blocked, and of tasks among some. -/
abbrev Parks (T : String → Prop) : DB → DB → Prop :=
  Enters Refs.workUnitExecutions (ParkedAstray T) fun _ ↦ False

/-- The run that a gate names has a running unit, and the gate is opened with the reason of a
pause. -/
structure GatesPaused (s : DB) (p : Payload) (wuId : String) (u : WorkUnitExecutionRow) :
    Prop where
  reads : (gateReason p).text = "paused"
  named : ∃ runId run, truthy p.runId = some runId ∧ s.agentRuns.find? runId = some run ∧
    run.workUnitId = some wuId
  found : s.workUnitExecutions.find? wuId = some u
  running : u.status = .running

/-- A result blocks its unit with the text of a pause. -/
def RunResult.readsPaused (delivery : RunResult) : Prop :=
  delivery.outcome = some .blocked ∧ blockersText delivery = "paused"

namespace Parks

variable {T : String → Prop}

/-- An update that gives another reason. -/
theorem stray_of_reason {u : WorkUnitExecutionRow} {r : Option BlockedReason}
    (hr : (r.any fun r ↦ r.text == "paused") = false) (h : u.blockedReason = r) :
    ¬ParkedAstray T u := by
  intro hu
  have hpaused : u.isPaused = true := hu.1.1
  rw [WorkUnitExecutionRow.isPaused, h, hr] at hpaused
  cases hpaused

theorem update_reason {f : WorkUnitExecutionRow → WorkUnitExecutionRow}
    {hf : ∀ u, SameFixed u (f u)} (r : Option BlockedReason)
    (hr : (r.any fun r ↦ r.text == "paused") = false) (h : ∀ u, (f u).blockedReason = r) :
    Respects (Parks T) (Refs.workUnitExecutions.update wuId f hf : Core Unit) :=
  Enters.update fun u hu ↦ absurd hu (stray_of_reason hr (h u))

theorem updateWhere_reason {q : String → WorkUnitExecutionRow → Bool}
    {f : WorkUnitExecutionRow → WorkUnitExecutionRow} {hf : ∀ u, SameFixed u (f u)}
    (r : Option BlockedReason) (hr : (r.any fun r ↦ r.text == "paused") = false)
    (h : ∀ u, (f u).blockedReason = r) :
    Respects (Parks T) (Refs.workUnitExecutions.updateWhere q f hf : Core Unit) :=
  Enters.updateWhere fun _ u _ hu ↦ absurd hu (stray_of_reason hr (h u))

instance recomputeRunnableState_respects :
    Respects (Parks T) (recomputeRunnableState env taskId) := by
  have hfree : Respects (Parks T) (Refs.workUnitExecutions.updateWhere
      (fun _ u ↦ u.isGateBlocked taskId) fun u ↦
        { u with status := .pending, blockedReason := none, activeRunId := none } : Core Unit) :=
    updateWhere_reason none rfl fun _ ↦ rfl
  rw [recomputeRunnableState]
  dsimp only [transitionWorkUnit_blockCleared]
  infer_instance

instance clearRunOccupancy_respects {release : Bool} :
    Respects (Parks T) (clearRunOccupancy runId release) := by
  have hfree (wuId : String) : Respects (Parks T) (Refs.workUnitExecutions.updateWhere
      (fun k u ↦ k == wuId && u.activeRunId == some runId)
      fun u ↦ { u with activeRunId := none } : Core Unit) :=
    Enters.updateWhere fun _ _ _ hu ↦ .inl hu
  rw [clearRunOccupancy]
  infer_instance

instance recoverWorkUnitAfterLostRun_respects :
    Respects (Parks T) (recoverWorkUnitAfterLostRun env runId) := by
  have hunknown (wuId : String) : Respects (Parks T) (Refs.workUnitExecutions.update wuId fun u ↦
      { u with
        status := .blocked
        blockedReason := some .lostRunEffectUnknown
        nextRetryAt := none } : Core Unit) := update_reason _ (by decide) fun _ ↦ rfl
  have hexhausted (wuId : String) : Respects (Parks T) (Refs.workUnitExecutions.update wuId fun u ↦
      { u with
        status := .blocked
        blockedReason := some .attemptsExhausted
        nextRetryAt := none } : Core Unit) := update_reason _ (by decide) fun _ ↦ rfl
  have hretry (wuId : String) (next : Option Time) :
      Respects (Parks T) (Refs.workUnitExecutions.update wuId fun u ↦
        { u with
          status := .pending
          nextRetryAt := next
          blockedReason := none } : Core Unit) := update_reason none rfl fun _ ↦ rfl
  rw [recoverWorkUnitAfterLostRun]
  dsimp only [transitionWorkUnit_runBlocked, transitionWorkUnit_runRetryableFailed]
  infer_instance

/-! ### Plans and dispatch -/

instance rebindUnit_respects {node : RawNode} {wu : WorkUnitExecutionRow} :
    Respects (Parks T) (rebindUnit node wu) := by
  have hbind : Respects (Parks T) (Refs.workUnitExecutions.update node.workUnitId
      fun u ↦ { u with specVersion := node.version } : Core Unit) :=
    Enters.update fun _ hu ↦ .inl hu
  rw [rebindUnit]
  infer_instance

instance installUnit_respects {node : RawNode} :
    Respects (Parks T) (installUnit taskId node) := by
  have hadd : Respects (Parks T)
      (add Refs.workUnitExecutions node.workUnitId (freshUnit taskId node.version)) :=
    Enters.insert (stray_of_reason (r := none) rfl rfl)
  rw [installUnit]
  exact .seq inferInstance fun _ ↦ by split <;> infer_instance

instance cancelRemovedUnit_respects : Respects (Parks T) (cancelRemovedUnit wuId) := by
  have hcancel : Respects (Parks T) (Refs.workUnitExecutions.update wuId fun u ↦
      { u with
        status := .cancelled
        blockedReason := some .removedFromPlan
        activeRunId := none } : Core Unit) := update_reason _ (by decide) fun _ ↦ rfl
  rw [cancelRemovedUnit]
  infer_instance

/-- The paused units of a task were paused before. -/
abbrev KeepsPaused (t : String) : DB → DB → Prop :=
  Enters Refs.workUnitExecutions (fun u ↦ u.isPaused = true ∧ u.taskId = t) fun _ ↦ False

namespace KeepsPaused

instance createExecuteRun_respects {r : RunIdentity} {attempt : Nat} :
    Respects (KeepsPaused t) (createExecuteRun env auth taskId task r attempt) := by
  have hstart : Respects (KeepsPaused t) (Refs.workUnitExecutions.update r.workUnitId fun u ↦
      { u with
        status := .running
        activeRunId := some r.runId
        attemptCount := attempt
        specVersion := r.specVersion } : Core Unit) := Enters.update fun _ hu ↦ .inl hu
  rw [createExecuteRun]
  dsimp only [transitionWorkUnit_runStarted]
  infer_instance

/-- An update that gives another reason. -/
theorem update_reason {f : WorkUnitExecutionRow → WorkUnitExecutionRow}
    {hf : ∀ u, SameFixed u (f u)} (r : Option BlockedReason)
    (hr : (r.any fun r ↦ r.text == "paused") = false) (h : ∀ u, (f u).blockedReason = r) :
    Respects (KeepsPaused t) (Refs.workUnitExecutions.update wuId f hf : Core Unit) := by
  refine Enters.update fun u hu ↦ ?_
  have hpaused : (f u).isPaused = true := hu.1
  rw [WorkUnitExecutionRow.isPaused, h, hr] at hpaused
  cases hpaused

instance blockContextOverflow_respects {manifest : ContextManifest} :
    Respects (KeepsPaused t) (blockContextOverflow env auth taskId wuId manifest) := by
  have hblock : Respects (KeepsPaused t) (Refs.workUnitExecutions.update wuId fun u ↦
      { u with status := .blocked, blockedReason := some .contextOverflow } : Core Unit) :=
    update_reason _ (by decide) fun _ ↦ rfl
  rw [blockContextOverflow]
  infer_instance

instance dispatchUnit_respects {version : Nat} {node : RawNode} {wu : WorkUnitExecutionRow}
    {ws : Option (String × WorkspaceRow)} {created : List String} :
    Respects (KeepsPaused t) (dispatchUnit env auth taskId version node wu ws created) := by
  have hblock : Respects (KeepsPaused t) (Refs.workUnitExecutions.update node.workUnitId fun u ↦
      { u with status := .blocked, blockedReason := some .attemptsExhausted } : Core Unit) :=
    update_reason _ (by decide) fun _ ↦ rfl
  rw [dispatchUnit]
  infer_instance

instance dispatchNode_respects {version globalActive taskActive : Nat} {edges : List RawEdge}
    {created : List String} {node : RawNode} : Respects (KeepsPaused t)
      (dispatchNode env auth taskId version edges globalActive taskActive created node) := by
  have hbind : Respects (KeepsPaused t) (Refs.workUnitExecutions.update node.workUnitId
      fun u ↦ { u with specVersion := node.version } : Core Unit) :=
    Enters.update fun _ hu ↦ .inl hu
  rw [dispatchNode]
  exact .seq inferInstance fun _ ↦ by split <;> infer_instance

end KeepsPaused

/-- What is dispatched was pending, and is not parked by it. -/
instance dispatchReadyRuns_respects : Respects (Parks T) (dispatchReadyRuns env auth p) where
  rel {s _ s'} h k b hb hstray := by
    have hkeeps : KeepsPaused b.taskId s s' := Respects.rel h
    have hstarts : Units UnitStarts s s' := UnitsStart.dispatchReadyRuns_respects.rel h
    obtain ⟨a, ha, hpaused, howner⟩ := (hkeeps k b hb ⟨hstray.1.1, rfl⟩).resolve_right id
    obtain ⟨b', hb', hmove⟩ := hstarts k a ha
    obtain rfl := Option.some.inj (hb.symm.trans hb')
    refine .inl ⟨a, ha, ?_⟩
    rcases hmove with hsame | ⟨hpending, -⟩
    · refine ⟨⟨hpaused, hsame ▸ hstray.1.2⟩, ?_⟩
      rw [← hsame, howner]
      exact hstray.2
    · refine ⟨⟨hpaused, by rw [hpending]; rfl⟩, ?_⟩
      rw [hpending]
      exact fun h ↦ nomatch h.1

/-! ### Stops, gates and cancellations -/

instance revokeUnsentStart_respects :
    Respects (Parks T) (revokeUnsentStart env outboxId runId task) := by
  have hfree (wuId : String) : Respects (Parks T) (Refs.workUnitExecutions.updateWhere
      (fun k u ↦ k == wuId && u.status == .running) fun u ↦
        { u with status := .pending, blockedReason := none, activeRunId := none } : Core Unit) :=
    updateWhere_reason none rfl fun _ ↦ rfl
  rw [revokeUnsentStart]
  infer_instance

instance settleStoppedRun_respects {reason : String} :
    Respects (Parks T) (settleStoppedRun env runId run reason) := by
  have hfree (wuId : String) : Respects (Parks T) (Refs.workUnitExecutions.updateWhere
      (fun k u ↦ k == wuId && u.status == .running) fun u ↦
        { u with
          status :=
            if u.blockedReason.all (·.text = "") then .pending
            else if run.status = .running then .blocked
            else u.status
          activeRunId := none } : Core Unit) := by
    refine Enters.updateWhere fun _ u hu hstray ↦ .inl ?_
    have hrunning : u.status = .running := by simpa using (Bool.and_eq_true_iff.mp hu).2
    refine ⟨⟨hstray.1.1, by rw [hrunning]; rfl⟩, ?_⟩
    rw [hrunning]
    exact fun h ↦ nomatch h.1
  rw [settleStoppedRun]
  infer_instance

instance cancelTask_respects : Respects (Parks T) (cancelTask env auth p) := by
  have hcancel (wuId : String) : Respects (Parks T) (Refs.workUnitExecutions.update wuId
      fun u ↦ { u with status := .cancelled } : Core Unit) :=
    Enters.update fun _ hu ↦ nomatch hu.1.2
  rw [cancelTask]
  infer_instance

/-- The units that a pause blocks are of its task. -/
theorem runtimeQuiescent_parks (h : runtimeQuiescent env auth p s = .ok (result, s')) :
    ∃ t task, s.tasks.find? t = some task ∧ task.state = .pausing ∧
      ∀ T : String → Prop, T t → Parks T s s' := by
  obtain ⟨t, t₁, hkey, h₁⟩ := Tx.bind_ok.mp h
  obtain ⟨-, rfl⟩ := key_ok.mp hkey
  obtain ⟨task, t₂, hget, h₂⟩ := Tx.bind_ok.mp h₁
  obtain ⟨htask, rfl⟩ := getTask_ok.mp hget
  obtain ⟨_, t₃, hcheck, h₃⟩ := Tx.bind_ok.mp h₂
  obtain ⟨hpausing, rfl⟩ := Tx.check_ok.mp hcheck
  refine ⟨t, task, htask, hpausing, fun T hT ↦ ?_⟩
  have hblock : Respects (Parks T) (Refs.workUnitExecutions.updateWhere
      (fun _ u ↦ u.taskId == t && u.status == .running) fun u ↦
        { u with status := .blocked, blockedReason := some .paused, activeRunId := none }
          : Core Unit) := by
    refine Enters.updateWhere fun _ u hu hstray ↦ absurd ⟨rfl, ?_⟩ hstray.2
    have howner : u.taskId = t := by simpa using (Bool.and_eq_true_iff.mp hu).1
    exact howner ▸ hT
  exact Respects.rel h₃

theorem blockGatedRun_parks {reason : WaitingReason}
    (hT : reason.text = "paused" → ∀ run wuId u, s.agentRuns.find? runId = some run →
      run.workUnitId = some wuId → s.workUnitExecutions.find? wuId = some u →
        u.status = .running → T u.taskId)
    (h : blockGatedRun env flushed taskId runId reason s = .ok ((), s')) : Parks T s s' := by
  rw [blockGatedRun, Tx.get_bind_ok] at h
  rcases Tx.withSome_ok.mp h with ⟨run, hrun, h₁⟩ | ⟨-, rfl⟩
  · rcases Tx.withSome_ok.mp h₁ with ⟨wuId, hwu, h₂⟩ | ⟨-, rfl⟩
    · obtain ⟨_, t₁, hblock, hrest⟩ := Tx.bind_ok.mp h₂
      have hkept : Parks T t₁ s' := Respects.rel hrest
      refine Preord.trans (Enters.of_updateWhere (fun k u hu hq hstray ↦ ?_) hblock) hkept
      by_cases hreads : reason.text = "paused"
      · obtain ⟨hk, hstatus⟩ := Bool.and_eq_true_iff.mp hq
        rw [beq_iff_eq] at hk hstatus
        exact absurd ⟨rfl, hT hreads run wuId u hrun hwu (hk ▸ hu) hstatus⟩ hstray.2
      · have hpaused : (BlockedReason.gate reason).text = "paused" := by
          simpa [WorkUnitExecutionRow.isPaused] using hstray.1.1
        exact absurd hpaused hreads
    · exact Preord.refl _
  · exact Preord.refl _

theorem openBlockingGate_parks (hT : ∀ wuId u, GatesPaused s p wuId u → T u.taskId)
    (h : openBlockingGate env auth p s = .ok (result, s')) : Parks T s s' := by
  rw [openBlockingGate, Tx.get_bind_ok] at h
  obtain ⟨t, t₁, hkey, h₁⟩ := Tx.bind_ok.mp h
  obtain ⟨-, rfl⟩ := key_ok.mp hkey
  obtain ⟨task, t₂, hget, h₂⟩ := Tx.bind_ok.mp h₁
  obtain ⟨-, rfl⟩ := getTask_ok.mp hget
  obtain ⟨decisionId, t₃, hdraw, h₃⟩ := Tx.bind_ok.mp h₂
  obtain ⟨_, t₄, hadd, h₄⟩ := Tx.bind_ok.mp h₃
  obtain ⟨_, t₅, hgate, h₅⟩ := Tx.bind_ok.mp h₄
  obtain ⟨_, t₆, hblock, hrest⟩ := Tx.bind_ok.mp h₅
  have hwrites₁ : Writes [] t₂ t₃ := Respects.rel hdraw
  have hwrites₂ : Writes [.decisions] t₃ t₄ := Respects.rel hadd
  have hwrites₃ : Writes [.gates] t₄ t₅ := Respects.rel hgate
  have hwrites : Writes [.decisions, .gates] t₂ t₅ :=
    Preord.trans (hwrites₁.mono (by decide))
      (Preord.trans (hwrites₂.mono (by decide)) (hwrites₃.mono (by decide)))
  have hruns : t₂.agentRuns = t₅.agentRuns := (hwrites .agentRuns).2 (by decide)
  have hunits : t₂.workUnitExecutions = t₅.workUnitExecutions :=
    (hwrites .workUnitExecutions).2 (by decide)
  have hkept : Parks T t₆ s' := Respects.rel hrest
  refine Preord.trans (.of_read hunits) (Preord.trans ?_ hkept)
  rcases Tx.withSome_ok.mp hblock with ⟨runId, hnamed, hrun⟩ | ⟨-, rfl⟩
  · refine blockGatedRun_parks (fun hreads run wuId u hfound hwu hu hrunning ↦ ?_) hrun
    exact hT wuId u
      ⟨hreads, ⟨runId, run, hnamed, hruns ▸ hfound, hwu⟩, hunits ▸ hu, hrunning⟩
  · exact Preord.refl _

/-! ### Results -/

instance recordSupersededResult_respects {delivery : RunResult} {ref : String} :
    Respects (Parks T) (recordSupersededResult env auth runId wuId run delivery ref) := by
  have hfree : Respects (Parks T) (Refs.workUnitExecutions.updateWhere
      (fun k u ↦ k == wuId && u.activeRunId == some runId)
      fun u ↦ { u with activeRunId := none } : Core Unit) :=
    Enters.updateWhere fun _ _ _ hu ↦ .inl hu
  rw [recordSupersededResult]
  infer_instance

theorem applyResultToUnit_parks {delivery : RunResult} {ref : String} {outcome : Outcome}
    (hT : outcome = .blocked → blockersText delivery = "paused" →
      ∀ u, s.workUnitExecutions.find? wuId = some u → T u.taskId)
    (h : applyResultToUnit env taskId runId wuId delivery ref outcome s = .ok ((), s')) :
    Parks T s s' := by
  obtain ⟨_, t₁, hregister, h₁⟩ := Tx.bind_ok.mp h
  rw [Tx.get_bind_ok] at h₁
  have hregistered : Writes [.artifacts, .events, .acceptanceEvidence] s t₁ := Respects.rel hregister
  have hunits : s.workUnitExecutions = t₁.workUnitExecutions :=
    (hregistered .workUnitExecutions).2 (by decide)
  refine Preord.trans (.of_read hunits) ?_
  rcases Tx.ite_ok.mp h₁ with ⟨hblocked, h₂⟩ | ⟨-, h₂⟩
  · obtain ⟨_, t₂, hblock, hrest⟩ := Tx.bind_ok.mp h₂
    have hkept : Parks T t₂ s' := Respects.rel hrest
    refine Preord.trans (Enters.of_update (fun u hu hstray ↦ ?_) hblock) hkept
    have hpaused : blockersText delivery = "paused" := by
      simpa [WorkUnitExecutionRow.isPaused, BlockedReason.text] using hstray.1.1
    exact absurd ⟨rfl, hT hblocked hpaused u (hunits ▸ hu)⟩ hstray.2
  · obtain ⟨_, t₂, hdone, hrest⟩ := Tx.bind_ok.mp h₂
    have hkept : Parks T t₂ s' := Respects.rel hrest
    refine Preord.trans (Enters.of_update (fun u _ hstray ↦ ?_) hdone) hkept
    have hlive : WorkUnitStatus.isTerminal .done = false := hstray.1.2
    cases hlive

theorem acceptRunResult_parks {delivery : RunResult} {ref : String}
    (hT : delivery.readsPaused → ∀ wuId u, run.workUnitId = some wuId →
      s.workUnitExecutions.find? wuId = some u → T u.taskId)
    (h : acceptRunResult env auth runId run delivery ref s = .ok (result, s')) :
    Parks T s s' := by
  obtain ⟨next, t₁, hrequire, h₁⟩ := Tx.bind_ok.mp h
  obtain ⟨-, rfl⟩ := Tx.require_ok.mp hrequire
  obtain ⟨_, t₂, hend, h₂⟩ := Tx.bind_ok.mp h₁
  obtain ⟨_, t₃, hunit, hrest⟩ := Tx.bind_ok.mp h₂
  have hended : Writes [.agentRuns] t₁ t₂ := Respects.rel hend
  have hunits : t₁.workUnitExecutions = t₂.workUnitExecutions :=
    (hended .workUnitExecutions).2 (by decide)
  have hkept : Parks T t₃ s' := Respects.rel hrest
  refine Preord.trans (.of_read hunits) (Preord.trans ?_ hkept)
  rcases Tx.withSome_ok.mp hunit with ⟨wuId, hwu, happly⟩ | ⟨-, rfl⟩
  · refine applyResultToUnit_parks (fun hblocked hreads u hu ↦ ?_) happly
    have houtcome : delivery.outcome = some .blocked := by
      cases hout : delivery.outcome with
      | none =>
        rw [hout] at hblocked
        cases hblocked
      | some outcome =>
        rw [hout] at hblocked
        exact congrArg some hblocked
    exact hT ⟨houtcome, hreads⟩ wuId u hwu (hunits ▸ hu)
  · exact Preord.refl _

/-- The submission of a result parks a unit only if it is blocked with the text of a pause. -/
theorem submitResult_parks
    (hT : ∀ runId run wuId u, Accepts s auth p runId run → (p.result.getD {}).readsPaused →
      run.workUnitId = some wuId → s.workUnitExecutions.find? wuId = some u → T u.taskId)
    (h : submitResult env auth p s = .ok (result, s')) : Parks T s s' := by
  have hdraw (n : Nat) : Parks T s { s with drawn := n } := .of_read rfl
  cases submitResult_ok h with
  | stopped _ _ _ ran => exact Respects.rel ran
  | overtaken _ _ _ _ ran => exact Respects.rel ran
  | marked => exact .of_read rfl
  | superseded _ _ _ ran => exact Preord.trans (hdraw _) (Respects.rel ran)
  | accepted accepts ran =>
    refine Preord.trans (hdraw _) (acceptRunResult_parks (fun hreads wuId u hwu hu ↦ ?_) ran)
    exact hT _ _ wuId u accepts hreads hwu hu

instance background : Background (Parks T) := inferInstance

/-- Every command but four. -/
theorem handler_respects {operation : Operation} (hquiescent : operation ≠ .runtimeQuiescent)
    (hresume : operation ≠ .resumeTask) (hgate : operation ≠ .openBlockingGate)
    (hsubmit : operation ≠ .submitResult) :
    Respects (Parks T) (handler env auth p operation) := by
  cases operation
  case runtimeQuiescent => exact (hquiescent rfl).elim
  case resumeTask => exact (hresume rfl).elim
  case openBlockingGate => exact (hgate rfl).elim
  case submitResult => exact (hsubmit rfl).elim
  all_goals (dsimp only [handler]; infer_instance)

end Parks

/-! ## Parked units of held tasks -/

def HeldTask (s : DB) (t : String) : Prop :=
  ∃ task, s.tasks.find? t = some task ∧ task.state.isHeld = true

/-- The parked units are blocked, and their tasks are held. -/
def ParkedHeld (s : DB) : Prop :=
  ∀ k u, s.workUnitExecutions.find? k = some u → Parked u →
    u.status = .blocked ∧ HeldTask s u.taskId

theorem ParkedHeld.step (h : ParkedHeld s) (hparks : Parks (HeldTask s') s s')
    (hheld : HeldStay (fun _ ↦ False) s s') : ParkedHeld s' := by
  intro k b hb hparked
  by_contra hnot
  obtain ⟨a, ha, hstray⟩ := (hparks k b hb ⟨hparked, hnot⟩).resolve_right id
  obtain ⟨hblocked, task, htask, hstate⟩ := h k a ha hstray.1
  have hnext : HeldTask s' a.taskId := (hheld a.taskId task htask hstate).resolve_right id
  exact hstray.2 ⟨hblocked, hnext⟩

theorem HeldTask.stay (h : HeldTask s t) (hheld : HeldStay (fun _ ↦ False) s s') :
    HeldTask s' t := by
  obtain ⟨task, htask, hstate⟩ := h
  exact (hheld t task htask hstate).resolve_right id

/-- After a task was resumed its units are not parked, unless it had a gate. -/
theorem resumeTask_parked (hinv : ParkedHeld s)
    (hplain : ∀ t task k u, p.taskId = some t → s.tasks.find? t = some task →
      task.state = .paused → hasBlockingGate s t = true →
        s.workUnitExecutions.find? k = some u → u.taskId = t → ¬Parked u)
    (h : resumeTask env auth p s = .ok (result, s')) : ParkedHeld s' := by
  obtain ⟨t, t₁, hkey, h₁⟩ := Tx.bind_ok.mp h
  obtain ⟨hnamed, rfl⟩ := key_ok.mp hkey
  obtain ⟨task, t₂, hget, h₂⟩ := Tx.bind_ok.mp h₁
  obtain ⟨htask, rfl⟩ := getTask_ok.mp hget
  obtain ⟨_, t₃, hcheck, h₃⟩ := Tx.bind_ok.mp h₂
  obtain ⟨hpaused, rfl⟩ := Tx.check_ok.mp hcheck
  rw [Tx.get_bind_ok] at h₃
  have hheld : HeldStay (· = t) t₃ s' := Respects.rel h₃
  -- what is parked afterwards was parked before, and is of another task
  have hothers : ∀ k u, s'.workUnitExecutions.find? k = some u → Parked u →
      t₃.workUnitExecutions.find? k = some u ∧ u.taskId ≠ t := by
    intro k u hu hparked
    rcases Tx.ite_ok.mp h₃ with ⟨hgated, h₄⟩ | ⟨-, h₄⟩
    · have hwrites : Writes [.tasks, .events] t₃ s' := Respects.rel h₄
      have hunits : t₃.workUnitExecutions = s'.workUnitExecutions :=
        (hwrites .workUnitExecutions).2 (by decide)
      have hbefore : t₃.workUnitExecutions.find? k = some u := hunits ▸ hu
      exact ⟨hbefore, fun howner ↦
        hplain t task k u hnamed htask hpaused hgated hbefore howner hparked⟩
    · obtain ⟨_, t₄, hset, h₅⟩ := Tx.bind_ok.mp h₄
      obtain ⟨_, t₅, hfree, hrest⟩ := Tx.bind_ok.mp h₅
      have hwrites₁ : Writes [.tasks] t₃ t₄ := Respects.rel hset
      have hwrites₂ : Writes [.events] t₅ s' := Respects.rel hrest
      have hunits₁ : t₃.workUnitExecutions = t₄.workUnitExecutions :=
        (hwrites₁ .workUnitExecutions).2 (by decide)
      have hunits₂ : t₅.workUnitExecutions = s'.workUnitExecutions :=
        (hwrites₂ .workUnitExecutions).2 (by decide)
      obtain rfl := Ref.updateWhere_ok.mp hfree
      rw [← hunits₂] at hu
      change (t₄.workUnitExecutions.modifyWhere _ _).find? k = some u at hu
      rw [Table.find?_modifyWhere, ← hunits₁] at hu
      obtain ⟨a, ha, rfl⟩ := Option.map_eq_some_iff.mp hu
      by_cases hfreed : (a.taskId == t && a.status == .blocked && a.isPaused) = true
      · rw [if_pos hfreed] at hparked
        exact absurd hparked.1 Bool.false_ne_true
      · rw [if_neg hfreed] at hparked ⊢
        refine ⟨ha, fun howner ↦ hfreed ?_⟩
        rw [howner, (hinv k a ha hparked).1, hparked.1]
        simp
  intro k u hu hparked
  obtain ⟨hbefore, hother⟩ := hothers k u hu hparked
  obtain ⟨hblocked, task', htask', hstate⟩ := hinv k u hbefore hparked
  exact ⟨hblocked, (hheld u.taskId task' htask' hstate).resolve_right hother⟩

/-! ## Steps -/

/-- A step that leaves a unit parked whose task is not held any more, or never was. -/
inductive Strands (s : DB) : Label → Prop
  /-- A paused task is resumed while it has a gate. -/
  | resumed {env : Env} {r : Request} {t k : String} {task : TaskRow} {u : WorkUnitExecutionRow}
      (guard : guardOperation r.auth r.operation = none) (asked : r.operation = .resumeTask)
      (named : r.payload.taskId = some t) (found : s.tasks.find? t = some task)
      (paused : task.state = .paused) (gated : hasBlockingGate s t = true)
      (unit : s.workUnitExecutions.find? k = some u) (owner : u.taskId = t) (parked : Parked u) :
      Strands s (.command env r)
  /-- A gate is opened with the reason of a pause. -/
  | gated {env : Env} {r : Request} {wuId : String} {u : WorkUnitExecutionRow}
      (guard : guardOperation r.auth r.operation = none) (asked : r.operation = .openBlockingGate)
      (gates : GatesPaused s r.payload wuId u) (going : ¬HeldTask s u.taskId) :
      Strands s (.command env r)
  /-- A result is blocked with the text of a pause. -/
  | delivered {env : Env} {r : Request} {runId wuId : String} {run : AgentRunRow}
      {u : WorkUnitExecutionRow} (guard : guardOperation r.auth r.operation = none)
      (asked : r.operation = .submitResult) (accepts : Accepts s r.auth r.payload runId run)
      (reads : (r.payload.result.getD {}).readsPaused) (owner : run.workUnitId = some wuId)
      (unit : s.workUnitExecutions.find? wuId = some u) (going : ¬HeldTask s u.taskId) :
      Strands s (.command env r)

/-- The identifiers that were drawn do not matter. -/
theorem Strands.of_drawn {n : Nat} (h : Strands { s with drawn := n } l) : Strands s l := by
  cases h with
  | resumed guard asked named found paused gated unit owner parked =>
    exact .resumed guard asked named found paused gated unit owner parked
  | gated guard asked gates going =>
    exact .gated guard asked ⟨gates.reads, gates.named, gates.found, gates.running⟩ going
  | delivered guard asked accepts reads owner unit going =>
    exact .delivered guard asked accepts.of_drawn reads owner unit going

theorem ParkedHeld.of_same (h : ParkedHeld s)
    (hunits : s.workUnitExecutions = s'.workUnitExecutions) (htasks : s.tasks = s'.tasks) :
    ParkedHeld s' := by
  intro k u hu hparked
  obtain ⟨hblocked, task, htask, hstate⟩ := h k u (hunits ▸ hu) hparked
  exact ⟨hblocked, task, htasks ▸ htask, hstate⟩

theorem handler_parked {r : Request} (hinv : ParkedHeld s) (hok : ¬Strands s (.command env r))
    (hguard : guardOperation r.auth r.operation = none)
    (h : handler env r.auth r.payload r.operation s = .ok (result, s')) : ParkedHeld s' := by
  by_cases hresume : r.operation = .resumeTask
  · rw [hresume] at h
    refine resumeTask_parked hinv (fun t task k u hnamed htask hpaused hgated hu howner hparked ↦ ?_)
      h
    exact hok (.resumed hguard hresume hnamed htask hpaused hgated hu howner hparked)
  have hheld : HeldStay (fun _ ↦ False) s s' := (HeldStay.handler_respects hresume).rel h
  refine hinv.step ?_ hheld
  by_cases hquiescent : r.operation = .runtimeQuiescent
  · rw [hquiescent] at h
    obtain ⟨t, task, htask, hpausing, hparks⟩ := Parks.runtimeQuiescent_parks h
    have hbefore : HeldTask s t := ⟨task, htask, by rw [hpausing]; rfl⟩
    exact hparks _ (hbefore.stay hheld)
  by_cases hgate : r.operation = .openBlockingGate
  · rw [hgate] at h
    have hopen : openBlockingGate env r.auth r.payload s = .ok (result, s') := h
    refine Parks.openBlockingGate_parks (fun wuId u hgates ↦ ?_) hopen
    by_contra hgoing
    exact hok (.gated hguard hgate hgates fun hbefore ↦ hgoing (hbefore.stay hheld))
  by_cases hsubmit : r.operation = .submitResult
  · rw [hsubmit] at h
    refine Parks.submitResult_parks (fun runId run wuId u haccepts hreads hwu hu ↦ ?_) h
    by_contra hgoing
    exact hok (.delivered hguard hsubmit haccepts hreads hwu hu fun hbefore ↦
      hgoing (hbefore.stay hheld))
  · exact (Parks.handler_respects hquiescent hresume hgate hsubmit).rel h

theorem parkedHeld_invariant :
    system.Invariant (fun w l ↦ ¬Strands w.db l) fun w ↦ ParkedHeld w.db where
  init _ _ h := nomatch h
  step w l w' h hok hstep := by
    cases l
    case command env r =>
      rcases step_command hstep with hrecords | ⟨u, u', result, hran, hrecords⟩
      · exact h.of_same ((hrecords .workUnitExecutions).2 (by decide))
          ((hrecords .tasks).2 (by decide))
      obtain ⟨n, rfl⟩ := hran.start
      have hbefore : ParkedHeld { w.db with drawn := n } := h.of_same rfl rfl
      have hafter : ParkedHeld u' := handler_parked hbefore
        (fun hstrands ↦ hok hstrands.of_drawn) hran.guard hran.run
      exact hafter.of_same ((hrecords .workUnitExecutions).2 (by decide))
        ((hrecords .tasks).2 (by decide))
    all_goals
      have hparks : Parks (HeldTask w'.db) w.db w'.db := step_background Preord.refl rfl hstep
      exact h.step hparks (step_background Preord.refl rfl hstep)

/-- A task is runnable, is neither paused nor cancelled, and has no gate. -/
structure Going (s : DB) (t : String) (task : TaskRow) : Prop where
  found : s.tasks.find? t = some task
  runnable : task.state = .executing ∨ task.state = .verifying
  unpaused : task.pauseIntent = false
  uncancelled : task.cancelIntent = false
  ungated : hasBlockingGate s t = false

/-- In every run whose steps strand no parked unit, the units of a task that is going are not blocked
with the reason of a pause. -/
theorem going_task_not_paused {w : World} (h : system.ReachableBy (fun w l ↦ ¬Strands w.db l) w)
    {t : String} {task : TaskRow} (hgoing : Going w.db t task) {k : String}
    {u : WorkUnitExecutionRow} (hu : w.db.workUnitExecutions.find? k = some u)
    (howner : u.taskId = t) :
    ¬(u.status = .blocked ∧ ∃ reason, u.blockedReason = some reason ∧ reason.text = "paused") := by
  rintro ⟨hblocked, reason, hreason, htext⟩
  have hparked : Parked u := by
    refine ⟨?_, by rw [hblocked]; rfl⟩
    rw [WorkUnitExecutionRow.isPaused, hreason]
    simpa using htext
  obtain ⟨-, task', htask', hheld⟩ := parkedHeld_invariant.of_reachable h k u hu hparked
  rw [howner, hgoing.found] at htask'
  obtain rfl := Option.some.inj htask'
  rcases hgoing.runnable with hstate | hstate
  all_goals
    rw [hstate] at hheld
    cases hheld

/-- The run of the sample gives its workspace back, and its task is paused. -/
def samplePause : List Label :=
  [ .ask (.ofHuman "owner") .pauseTask { taskId := some "task_i" },
    .ask (sampleAgent "run_iiiiiiiiii") .setWriterAlive
      { taskId := some "task_i", runId := some "run_iiiiiiiiii", fencingEpoch := some 1
        workspaceId := some "ws_unit", alive := some false },
    .ask (.ofHuman "owner") .runtimeQuiescent { taskId := some "task_i" } ]

/-- The task of the sample is resumed. -/
def sampleResume : Label := .ask (.ofHuman "owner") .resumeTask { taskId := some "task_i" }

/-- What a sample has of its task and of its unit. -/
def sampleGoing (w : World) :
    Option (TaskState × Bool × Bool) × Bool × Option (String × WorkUnitStatus × Option String) :=
  ((w.db.tasks.find? "task_i").map fun task ↦ (task.state, task.pauseIntent, task.cancelIntent),
    hasBlockingGate w.db "task_i",
    (w.db.workUnitExecutions.find? "unit").map fun u ↦
      (u.taskId, u.status, u.blockedReason.map BlockedReason.text))

theorem Going.of_sample {unit : Option (String × WorkUnitStatus × Option String)}
    (h : sampleGoing w = (some (.executing, false, false), false, unit)) :
    ∃ task, Going w.db "task_i" task ∧ (w.db.workUnitExecutions.find? "unit").map (fun u ↦
      (u.taskId, u.status, u.blockedReason.map BlockedReason.text)) = unit := by
  simp only [sampleGoing, Prod.mk.injEq, Option.map_eq_some_iff] at h
  obtain ⟨⟨task, hfound, hstate, hpause, hcancel⟩, hgate, hunit⟩ := h
  exact ⟨task, ⟨hfound, .inl hstate, hpause, hcancel, hgate⟩, hunit⟩

/-- An effect waits for its approval while its task is paused and resumed. Once it is rejected the
task is going, and its unit is blocked for ever. -/
theorem sampleGated_paused :
    ∃ w task u, system.Reachable w ∧ Going w.db "task_i" task ∧
      w.db.workUnitExecutions.find? "unit" = some u ∧ u.taskId = "task_i" ∧
      u.status = .blocked ∧ ∃ reason, u.blockedReason = some reason ∧ reason.text = "paused" := by
  have hview : (system.exec system.init (sampleStarted ++
      [.ask (.ofHuman "owner") .proposeSideEffect
        { taskId := some "task_i", logicalActionKey := some "key", targetRef := some "target" }] ++
      samplePause ++ [sampleResume, .ask (.ofHuman "owner") .resolveDecision
        { decisionId := some "dec_iiiiiiiiiiiiiii", choice := some "REJECT" }])).map sampleGoing =
      some (some (.executing, false, false), false,
        some ("task_i", .blocked, some "paused")) := by
    decide +kernel
  obtain ⟨w, hexec, hsample⟩ := Option.map_eq_some_iff.mp hview
  obtain ⟨task, hgoing, hunit⟩ := Going.of_sample hsample
  obtain ⟨u, hu, hfacts⟩ := Option.map_eq_some_iff.mp hunit
  simp only [Prod.mk.injEq, Option.map_eq_some_iff] at hfacts
  obtain ⟨howner, hblocked, hreason⟩ := hfacts
  exact ⟨w, task, u, .of_exec hexec, hgoing, hu, howner, hblocked, hreason⟩

/-- A step that neither resumes, nor opens a gate, nor delivers a result strands nothing. -/
def Label.mayStrand : Label → Bool
  | .command _ r => r.operation ∈ [.resumeTask, .openBlockingGate, .submitResult]
  | _ => false

theorem Strands.mayStrand (h : Strands s l) : l.mayStrand = true := by
  cases h with
  | resumed _ asked => simp [Label.mayStrand, asked]
  | gated _ asked => simp [Label.mayStrand, asked]
  | delivered _ asked => simp [Label.mayStrand, asked]

/-- Without a gate the unit of the sample is not blocked after its task was resumed. -/
theorem going_task_not_paused_samplePause :
    ∃ w task u, system.ReachableBy (fun w l ↦ ¬Strands w.db l) w ∧ Going w.db "task_i" task ∧
      w.db.workUnitExecutions.find? "unit" = some u ∧ u.status = .pending ∧
      ¬(u.status = .blocked ∧
        ∃ reason, u.blockedReason = some reason ∧ reason.text = "paused") := by
  have hview : (system.exec system.init (sampleStarted ++ samplePause)).bind (fun w ↦
      (system.step w sampleResume).map fun w' ↦ (hasBlockingGate w.db "task_i", sampleGoing w')) =
      some (false, some (.executing, false, false), false, some ("task_i", .pending, none)) := by
    decide +kernel
  obtain ⟨w, hexec, hrest⟩ := Option.bind_eq_some_iff.mp hview
  obtain ⟨w', hstep, hfacts⟩ := Option.map_eq_some_iff.mp hrest
  obtain ⟨hfree, hsample⟩ := Prod.mk.inj hfacts
  have hquiet : ∀ l ∈ sampleStarted ++ samplePause, l.mayStrand = false := by decide
  have hpaused : system.ReachableBy (fun w l ↦ ¬Strands w.db l) w :=
    .of_exec_ok (fun l hl _ hstrands ↦ by
      have hmay := hstrands.mayStrand
      rw [hquiet l hl] at hmay
      cases hmay) hexec
  have hresumed : ¬Strands w.db sampleResume := by
    intro hstrands
    cases hstrands with
    | resumed _ _ named _ _ gated =>
      obtain rfl := Option.some.inj named
      rw [hfree] at gated
      cases gated
    | gated _ asked => cases asked
    | delivered _ asked => cases asked
  have hreach : system.ReachableBy (fun w l ↦ ¬Strands w.db l) w' := hpaused.step hresumed hstep
  obtain ⟨task, hgoing, hunit⟩ := Going.of_sample hsample
  obtain ⟨u, hu, hunit'⟩ := Option.map_eq_some_iff.mp hunit
  simp only [Prod.mk.injEq] at hunit'
  exact ⟨w', task, u, hreach, hgoing, hu, hunit'.2.1,
    going_task_not_paused hreach hgoing hu hunit'.1⟩

end HibikiCore
