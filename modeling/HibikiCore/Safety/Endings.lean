import HibikiCore.Application.Accepting
import HibikiCore.Safety.Runnable
import HibikiCore.Safety.Versions

/-!
# Tasks that have ended

A task ends when its result is accepted and when its cancellation is settled. The first asks that no
run of it is active, and the second ends the runs that are. Runs are created for runnable tasks only,
so a task that has ended has no active run.
-/

namespace HibikiCore

set_option synthInstance.maxSize 100000000
set_option synthInstance.maxHeartbeats 400000

variable {env : Env} {auth : AuthContext} {p : Payload} {task : TaskRow} {s s' : DB} {w w' : World}
  {l : Label} {taskId decisionId t : String} {event : TaskEvent} {result : CommandResult}
  {decision : DecisionRow} {T : String → Prop}

/-! ## What ends a task -/

/-- The events that lead to a terminal state. -/
def endingEvents : List TaskEvent := [.finalAccepted, .cancellationSettled, .taskFailed]

theorem calm_ended (h : event ∉ endingEvents) : Calm TaskState.isTerminal event where
  calm {state next} hnext hQ := by
    cases event <;> first
      | exact absurd (by decide) h
      | (cases state <;> cases hnext <;> cases hQ)

section Calm

instance : Calm TaskState.isTerminal .contractSubmitted := calm_ended (by decide)

instance : Calm TaskState.isTerminal .contractApproved := calm_ended (by decide)

instance : Calm TaskState.isTerminal .contractApprovedSimple := calm_ended (by decide)

instance : Calm TaskState.isTerminal .decisionResolved := calm_ended (by decide)

instance : Calm TaskState.isTerminal .planActivated := calm_ended (by decide)

instance : Calm TaskState.isTerminal .blockingGateOpened := calm_ended (by decide)

instance : Calm TaskState.isTerminal .requiredOutputsReady := calm_ended (by decide)

instance : Calm TaskState.isTerminal .verificationFailed := calm_ended (by decide)

instance : Calm TaskState.isTerminal .acceptanceReady := calm_ended (by decide)

instance : Calm TaskState.isTerminal .pauseRequested := calm_ended (by decide)

instance : Calm TaskState.isTerminal .runtimeQuiescent := calm_ended (by decide)

instance : Calm TaskState.isTerminal .resumeRequested := calm_ended (by decide)

instance : Calm TaskState.isTerminal .resumeRequestedRunnable := calm_ended (by decide)

instance : Calm TaskState.isTerminal .cancelRequested := calm_ended (by decide)

end Calm

/-- The tasks that came to an end are among some. -/
abbrev Ended (T : String → Prop) : DB → DB → Prop := StateEnters TaskState.isTerminal T

namespace Ended

instance background : Background (Ended T) := inferInstance

/-- Besides the commands that resolve decisions one command ends tasks. -/
theorem handler_respects {operation : Operation} (hresolve : resolution p operation = none)
    (hsettle : operation ≠ .cancellationSettled) :
    Respects (Ended T) (handler env auth p operation) := by
  cases operation
  case cancellationSettled => exact (hsettle rfl).elim
  case approveContract | resolveDecision | acceptResult | approveSideEffect => cases hresolve
  case createTask => exact StateEnters.createTask_enters rfl
  all_goals (dsimp only [handler]; infer_instance)

end Ended

/-- An approved contract makes its task runnable. -/
instance applyContractApproval_ended {actorId : String} :
    Respects (Ended T) (applyContractApproval env taskId decisionId decision actorId) := by
  have hset (simple : Bool) : Respects (Ended T) (setTaskState env taskId
      (if simple then .contractApprovedSimple else .contractApproved) none) := by
    split <;> infer_instance
  rw [applyContractApproval]
  infer_instance

/-! ## Ends without active runs -/

/-- No run of a task is active. -/
def Resting (s : DB) (t : String) : Prop :=
  ∀ runId run, s.agentRuns.find? runId = some run → run.taskId = t → run.status.isActive = false

theorem Resting.of_runs (h : Resting s t) (hsame : s.agentRuns = s'.agentRuns) : Resting s' t :=
  fun runId run hrun howner ↦ h runId run (hsame ▸ hrun) howner

theorem resting_of_select
    (h : (s.agentRuns.select fun _ r ↦ r.taskId == t && r.status.isActive) = []) : Resting s t := by
  intro runId run hrun howner
  by_contra hactive
  have hmem : (runId, run) ∈ s.agentRuns.select fun _ r ↦ r.taskId == t && r.status.isActive := by
    rw [Table.mem_select]
    exact ⟨hrun, by simp [howner, hactive]⟩
  rw [h] at hmem
  cases hmem

theorem checkFinalAcceptance_rests
    (h : checkFinalAcceptance env taskId decisionId decision s = .ok ((), s')) :
    s' = s ∧ Resting s taskId := by
  have hreads : Respects Eq (checkFinalAcceptance env taskId decisionId decision) := by
    rw [checkFinalAcceptance]
    infer_instance
  obtain rfl : s = s' := hreads.rel h
  obtain ⟨task, t₁, hget, h₁⟩ := Tx.bind_ok.mp h
  obtain ⟨-, rfl⟩ := getTask_ok.mp hget
  rw [Tx.get_bind_ok] at h₁
  obtain ⟨snapshot, t₂, hsnapshot, h₂⟩ := Tx.bind_ok.mp h₁
  obtain ⟨-, rfl⟩ := Tx.require_ok.mp hsnapshot
  obtain ⟨_, t₃, hhash, h₃⟩ := Tx.bind_ok.mp h₂
  obtain ⟨-, rfl⟩ := Tx.check_ok.mp hhash
  obtain ⟨_, t₄, hcontract, h₄⟩ := Tx.bind_ok.mp h₃
  obtain ⟨-, rfl⟩ := Tx.check_ok.mp hcontract
  obtain ⟨_, t₅, hplan, h₅⟩ := Tx.bind_ok.mp h₄
  obtain ⟨-, rfl⟩ := Tx.check_ok.mp hplan
  obtain ⟨_, t₆, hunits, h₆⟩ := Tx.bind_ok.mp h₅
  obtain ⟨-, rfl⟩ := Tx.check_ok.mp hunits
  obtain ⟨_, t₇, hgates, h₇⟩ := Tx.bind_ok.mp h₆
  obtain ⟨-, rfl⟩ := Tx.check_ok.mp hgates
  obtain ⟨_, t₈, hwriters, h₈⟩ := Tx.bind_ok.mp h₇
  obtain rfl : t₇ = t₈ := Respects.rel (R := Eq) hwriters
  obtain ⟨contract, t₉, hactive, h₉⟩ := Tx.bind_ok.mp h₈
  obtain rfl : t₇ = t₉ := Respects.rel (R := Eq) hactive
  obtain ⟨active, t₁₀, hrequire, h₁₀⟩ := Tx.bind_ok.mp h₉
  obtain ⟨-, rfl⟩ := Tx.require_ok.mp hrequire
  obtain ⟨_, t₁₁, hevidence, h₁₁⟩ := Tx.bind_ok.mp h₁₀
  obtain rfl : t₁₀ = t₁₁ := Respects.rel (R := Eq) hevidence
  obtain ⟨_, t₁₂, hruns, -⟩ := Tx.bind_ok.mp h₁₁
  obtain ⟨hnone, rfl⟩ := Tx.check_ok.mp hruns
  exact ⟨rfl, resting_of_select hnone⟩

theorem applyFinalAcceptance_rests
    (h : applyFinalAcceptance env taskId decisionId decision s = .ok ((), s')) :
    Ended (· = taskId) s s' ∧ Resting s' taskId := by
  have hends : Respects (Ended (· = taskId))
      (applyFinalAcceptance env taskId decisionId decision) := by
    rw [applyFinalAcceptance]
    infer_instance
  refine ⟨hends.rel h, ?_⟩
  obtain ⟨_, t₁, hcheck, h₁⟩ := Tx.bind_ok.mp h
  obtain ⟨rfl, hrests⟩ := checkFinalAcceptance_rests hcheck
  have hafter : Writes [.gates, .tasks] t₁ s' := Respects.rel h₁
  exact hrests.of_runs ((hafter .agentRuns).2 (by decide))

/-- A resolution that ends a task leaves no active run of it. -/
theorem resolveDecision_ends {r : Resolution}
    (h : resolveDecision env auth r s = .ok (result, s')) :
    Ended (fun _ ↦ False) s s' ∨ ∃ t, Ended (· = t) s s' ∧ Resting s' t := by
  rcases resolveDecision_cases h with rfl |
    ⟨decisionId, decision, task, u, hresolves, hevents, ⟨hkind, happly⟩ | ⟨hkind, v, u₁, hfrees⟩⟩
  · exact .inl (Preord.refl _)
  · have htakes : Writes [.decisions] s (s.take env auth r.verdict decisionId) := DB.take_writes
    cases hk : decision.decisionKind <;> rw [hk] at hkind
    case finalAcceptance =>
      rw [applyApprovedDecision, hk] at happly
      obtain ⟨hends, hrests⟩ := applyFinalAcceptance_rests happly
      refine .inr ⟨decision.taskId, Preord.trans (Indifferent.writes htakes)
        (Preord.trans hends (Indifferent.writes hevents)), ?_⟩
      exact hrests.of_runs ((hevents .agentRuns).2 (by decide))
    case contractApproval | contractDelta =>
      rw [applyApprovedDecision, hk] at happly
      dsimp only at happly
      exact .inl (Preord.trans (Indifferent.writes htakes)
        (Preord.trans (Respects.rel happly) (Indifferent.writes hevents)))
    all_goals cases hkind
  · have hbegin : Ended (fun _ ↦ False) s v := .of_read ((hfrees.before .tasks).2 (by decide))
    exact .inl (Preord.trans hbegin (Preord.trans (Respects.rel hfrees.gates)
      (Preord.trans (Respects.rel hfrees.state) (Indifferent.writes hevents))))

/-- A cancellation that is settled leaves no active run of its task. -/
theorem cancellationSettled_ends (h : cancellationSettled env auth p s = .ok (result, s')) :
    ∃ t, Ended (· = t) s s' ∧ Resting s' t := by
  obtain ⟨taskId, t₁, hkey, h₁⟩ := Tx.bind_ok.mp h
  obtain ⟨-, rfl⟩ := key_ok.mp hkey
  refine ⟨taskId, ?_, ?_⟩
  · exact Respects.rel h₁
  obtain ⟨task, t₂, hget, h₂⟩ := Tx.bind_ok.mp h₁
  obtain ⟨-, rfl⟩ := getTask_ok.mp hget
  obtain ⟨_, t₃, hcheck, h₃⟩ := Tx.bind_ok.mp h₂
  obtain ⟨-, rfl⟩ := Tx.check_ok.mp hcheck
  rw [Tx.get_bind_ok] at h₃
  obtain ⟨_, t₄, hexternal, h₄⟩ := Tx.bind_ok.mp h₃
  obtain ⟨-, rfl⟩ := Tx.check_ok.mp hexternal
  obtain ⟨_, t₅, hwriters, h₅⟩ := Tx.bind_ok.mp h₄
  obtain rfl : t₄ = t₅ := Respects.rel (R := Eq) hwriters
  obtain ⟨_, t₆, hcancel, h₆⟩ := Tx.bind_ok.mp h₅
  have hafter : Writes [.tasks, .events] t₆ s' := Respects.rel h₆
  obtain rfl := Ref.updateWhere_ok.mp hcancel
  refine Resting.of_runs (fun runId run hrun howner ↦ ?_) ((hafter .agentRuns).2 (by decide))
  change (t₄.agentRuns.modifyWhere _ _).find? runId = some run at hrun
  rw [Table.find?_modifyWhere] at hrun
  obtain ⟨run₀, -, rfl⟩ := Option.map_eq_some_iff.mp hrun
  split
  · rfl
  · next hnot =>
    rw [if_neg hnot] at howner
    simpa [howner] using hnot

/-- A command leaves no active run of a task that it ends. -/
theorem handler_ends {operation : Operation}
    (h : handler env auth p operation s = .ok (result, s')) :
    ∃ T : String → Prop, Ended T s s' ∧ ∀ t, T t → Resting s' t := by
  cases hr : resolution p operation with
  | some r =>
    rw [handler_resolution hr] at h
    rcases resolveDecision_ends h with hends | ⟨t, hends, hrests⟩
    · exact ⟨_, hends, fun _ hfalse ↦ hfalse.elim⟩
    · exact ⟨_, hends, fun t' ht ↦ ht ▸ hrests⟩
  | none =>
    by_cases hsettle : operation = .cancellationSettled
    · subst hsettle
      obtain ⟨t, hends, hrests⟩ := cancellationSettled_ends h
      exact ⟨_, hends, fun t' ht ↦ ht ▸ hrests⟩
    · have hends : Ended (fun _ ↦ False) s s' := (Ended.handler_respects hr hsettle).rel h
      exact ⟨_, hends, fun _ hfalse ↦ hfalse.elim⟩

/-- A step leaves no active run of a task that it ends. -/
theorem step_ends (hstep : system.step w l = some w') :
    ∃ T : String → Prop, Ended T w.db w'.db ∧ ∀ t, T t → Resting w'.db t := by
  cases l
  case command env request =>
    rcases step_command hstep with hrecords | ⟨u, u', result, hran, hrecords⟩
    · exact ⟨fun _ ↦ False, .of_read ((hrecords .tasks).2 (by decide)), fun _ h ↦ h.elim⟩
    obtain ⟨n, rfl⟩ := hran.start
    obtain ⟨T, hends, hrests⟩ := handler_ends hran.run
    have hdrawn : Ended T w.db { w.db with drawn := n } := Frame.still (writes_drawn _ _)
    have hafter : Ended T u' w'.db := .of_read ((hrecords .tasks).2 (by decide))
    refine ⟨T, Preord.trans hdrawn (Preord.trans hends hafter), fun t ht ↦ ?_⟩
    exact (hrests t ht).of_runs ((hrecords .agentRuns).2 (by decide))
  all_goals exact ⟨fun _ ↦ False, step_background Preord.refl rfl hstep, fun _ h ↦ h.elim⟩

/-! ## New runs -/

/-- What is new among the runs belongs to tasks that have not ended. -/
abbrev NewRunsOpen (s : DB) : DB → DB → Prop :=
  NewRuns fun t ↦ ∀ task, s.tasks.find? t = some task → task.state.isTerminal = false

theorem handler_newRunsOpen {operation : Operation}
    (h : handler env auth p operation s = .ok (result, s')) : NewRunsOpen s s s' := by
  refine (NewRuns.dispatchable h).mono fun _ f hf task htask ↦ ?_
  obtain ⟨task', version, contract, hneeds⟩ := hf
  obtain rfl := Option.some.inj (hneeds.found.symm.trans htask)
  have hrunnable := hneeds.state
  cases hstate : task'.state <;> rw [hstate] at hrunnable <;> first | rfl | cases hrunnable

theorem step_newRunsOpen (hstep : system.step w l = some w') : NewRunsOpen w.db w.db w'.db := by
  cases l
  case command env request =>
    rcases step_command hstep with hrecords | ⟨u, u', result, hran, hrecords⟩
    · exact .of_read ((hrecords .agentRuns).2 (by decide))
    obtain ⟨n, rfl⟩ := hran.start
    have hnew : NewRunsOpen w.db { w.db with drawn := n } u' := handler_newRunsOpen hran.run
    have hdrawn : NewRunsOpen w.db w.db { w.db with drawn := n } := Frame.still (writes_drawn _ _)
    have hafter : NewRunsOpen w.db u' w'.db := .of_read ((hrecords .agentRuns).2 (by decide))
    exact Preord.trans hdrawn (Preord.trans hnew hafter)
  all_goals exact step_background Preord.refl rfl hstep

/-! ## Every run of the system -/

/-- A task that has ended has no active run. -/
theorem ended_rests_invariant (ok : World → Label → Prop) :
    system.Invariant ok fun w ↦ ∀ t task, w.db.tasks.find? t = some task →
      task.state.isTerminal = true → Resting w.db t where
  init _ _ h := nomatch h
  step w l w' h _ hstep t task htask hended runId run hrun howner := by
    obtain ⟨T, hends, hrests⟩ := step_ends hstep
    rcases hends t task htask hended with ⟨task₀, htask₀, hended₀⟩ | ht
    · by_contra hnot
      have hactive : run.status.isActive = true := by simpa using hnot
      rcases step_activeRun hstep (step_newRunsOpen hstep) hrun hactive with
        ⟨run₀, hrun₀, hfixed, hactive₀⟩ | hopen
      · have howner₀ : run₀.taskId = t := (congrArg RunAssignment.taskId hfixed).symm.trans howner
        rw [h t task₀ htask₀ hended₀ runId run₀ hrun₀ howner₀] at hactive₀
        cases hactive₀
      · have hfound : w.db.tasks.find? run.taskId = some task₀ := howner ▸ htask₀
        have hstate := hopen task₀ hfound
        rw [hended₀] at hstate
        cases hstate
    · exact hrests t ht runId run hrun howner

end HibikiCore
