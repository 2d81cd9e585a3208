import HibikiCore.Safety.Selections
import HibikiCore.Safety.Verdicts

/-!
# The references of results

A run gives its result a reference when it ends, and keeps it. So the result that a unit has selected
by its reference stays that of a run of the unit, whatever the run submits later.
-/

namespace HibikiCore

set_option synthInstance.maxSize 100000000
set_option synthInstance.maxHeartbeats 400000

variable {env : Env} {auth : AuthContext} {p : Payload} {task : TaskRow} {run : AgentRunRow}
  {flushed s s' : DB} {w w' : World} {l : Label}
  {taskId runId wuId ref outboxId sessionId : String} {result : RunResult}
  {reply : CommandResult} {operation : Operation}

/-! ## The references of results -/

section Leaves

variable {a : AgentRunRow → String} {b : AgentRunRow → AssignmentKind}
  {c d : AgentRunRow → Option String} {e : AgentRunRow → Option Nat} {f : AgentRunRow → Nat}
  {g h : AgentRunRow → String} {i j : AgentRunRow → Nat} {k : AgentRunRow → Option Nat}
  {m : AgentRunRow → String} {n : AgentRunRow → Option String} {o : AgentRunRow → AgentRunStatus}
  {q : AgentRunRow → Option TerminalReason} {t u : AgentRunRow → Nat} {v : AgentRunRow → Time}
  {x y z : AgentRunRow → Option Time} {resumed container : AgentRunRow → Option String}
  {given : AgentRunRow → Option RunResult} {late unconfirmed : AgentRunRow → Bool}

/-- An update of a run that gives no value for the reference of its result. -/
instance : Leaves AgentRunRow.resultRef fun r ↦
    ⟨a r, b r, c r, d r, e r, f r, g r, h r, i r, j r, k r, m r, n r, o r, q r, t r, u r, v r, x r,
      y r, z r, resumed r, r.resultRef, given r, late r, container r, unconfirmed r⟩ :=
  ⟨fun _ ↦ rfl⟩

end Leaves

/-- The runs keep the references of their results, and a new run has none. -/
abbrev ReferencesKept : DB → DB → Prop :=
  KeepsColumn Refs.agentRuns AgentRunRow.resultRef none

namespace ReferencesKept

instance createExecuteRun_respects {r : RunIdentity} {attempt : Nat} :
    Respects ReferencesKept (createExecuteRun env auth taskId task r attempt) := by
  have hadd : Respects ReferencesKept
      (add Refs.agentRuns r.runId (createdRun env taskId task r attempt)) :=
    KeepsColumn.insert rfl
  rw [createExecuteRun]
  infer_instance

instance createPlanRun_respects {session : PlannerSessionRow} :
    Respects ReferencesKept (createPlanRun env auth p taskId task sessionId session) := by
  have hadd (runId manifestId : String) : Respects ReferencesKept (add Refs.agentRuns runId
      (planRun env taskId task sessionId runId manifestId p.resumedFromRunId)) :=
    KeepsColumn.insert rfl
  rw [createPlanRun]
  infer_instance

instance revokeUnsentStart_respects :
    Respects ReferencesKept (revokeUnsentStart env outboxId runId task) := by
  rw [revokeUnsentStart]
  infer_instance

instance cancelUnsentStart_respects :
    Respects ReferencesKept (cancelUnsentStart env taskId runId) := by
  rw [cancelUnsentStart]
  infer_instance

instance revokePlanRun_respects :
    Respects ReferencesKept (revokePlanRun env flushed taskId sessionId) := by
  rw [revokePlanRun]
  infer_instance

instance cancelPausedRun_respects : Respects ReferencesKept (cancelPausedRun env runId) := by
  rw [cancelPausedRun]
  infer_instance

instance cancellationSettled_respects :
    Respects ReferencesKept (cancellationSettled env auth p) := by
  rw [cancellationSettled]
  infer_instance

instance settleStoppedRun_respects {reason : String} :
    Respects ReferencesKept (settleStoppedRun env runId run reason) := by
  rw [settleStoppedRun]
  infer_instance

instance loseRun_respects : Respects ReferencesKept (loseRun env taskId runId) := by
  rw [loseRun]
  infer_instance

instance blockGatedRun_respects {reason : WaitingReason} :
    Respects ReferencesKept (blockGatedRun env flushed taskId runId reason) := by
  rw [blockGatedRun]
  infer_instance

instance registerSandboxIdentity_respects :
    Respects ReferencesKept (registerSandboxIdentity env auth p) := by
  rw [registerSandboxIdentity]
  infer_instance

instance ackOutboxAndMarkRunning_respects :
    Respects ReferencesKept (ackOutboxAndMarkRunning env outboxId runId) := by
  rw [ackOutboxAndMarkRunning]
  infer_instance

instance heartbeat_respects : Respects ReferencesKept (heartbeat env auth p) := by
  rw [heartbeat]
  infer_instance

/-- Only a result brings a reference. -/
theorem handler_respects (hsubmit : operation ≠ .submitResult) :
    Respects ReferencesKept (handler env auth p operation) := by
  cases operation
  case submitResult => exact (hsubmit rfl).elim
  all_goals (dsimp only [handler]; infer_instance)

instance background : Background ReferencesKept := inferInstance

end ReferencesKept

/-- A run that has a reference had it before, or has ended. -/
def Referenced (s s' : DB) : Prop :=
  ∀ k run' ref, s'.agentRuns.find? k = some run' → run'.resultRef = some ref →
    (∃ run, s.agentRuns.find? k = some run ∧ run.resultRef = some ref) ∨
      run'.status.isTerminal = true

theorem ReferencesKept.referenced (h : ReferencesKept s s') : Referenced s s' := by
  intro k run' ref hrun' href
  rcases h.origin hrun' with ⟨run, hrun, hsame⟩ | ⟨-, hnone⟩
  · exact .inl ⟨run, hrun, hsame.symm.trans href⟩
  · cases href.symm.trans hnone

/-- Rows of which one is modified. -/
theorem Referenced.of_modify (runId : String) (f : AgentRunRow → AgentRunRow)
    (hruns : s'.agentRuns = s.agentRuns.modify runId f)
    (hf : ∀ r, (f r).resultRef = r.resultRef ∨ (f r).status.isTerminal = true) :
    Referenced s s' := by
  intro k run' ref hrun' href
  rw [hruns, Table.find?_modify] at hrun'
  split at hrun'
  · obtain ⟨run, hrun, rfl⟩ := Option.map_eq_some_iff.mp hrun'
    exact (hf run).imp (fun hsame ↦ ⟨run, hrun, hsame.symm.trans href⟩) id
  · exact .inl ⟨run', hrun', href⟩

theorem Submission.referenced (h : Submission env auth p s reply s') : Referenced s s' := by
  cases h with
  | stopped _ _ _ ran => exact .of_modify _ _ (recordLateResult_runs ran) fun _ ↦ .inl rfl
  | overtaken _ _ _ _ ran => exact .of_modify _ _ (recordLateResult_runs ran) fun _ ↦ .inl rfl
  | @marked runId =>
    exact .of_modify runId (fun r ↦ { r with lateArrival := true }) rfl fun _ ↦ .inl rfl
  | @superseded runId _ ref run n _ _ _ found _ ran =>
    obtain ⟨next, t₁, hrequire, h₁⟩ := Tx.bind_ok.mp ran
    obtain ⟨hnext, rfl⟩ := Tx.require_ok.mp hrequire
    obtain ⟨_, t₂, hupdate, hrest⟩ := Tx.bind_ok.mp h₁
    obtain rfl := Ref.update_ok.mp hupdate
    have hwrites : Writes besideRuns _ s' := Respects.rel hrest
    have hended : next.isTerminal = true := by
      cases hstatus : run.status <;> rw [hstatus] at hnext <;> cases hnext
      rfl
    have hruns : s'.agentRuns = s.agentRuns.modify runId fun r ↦
        { r with
          lateArrival := true
          result := some (p.result.getD {})
          resultRef := some ref
          status := next
          finishedAt := some env.now } := ((hwrites .agentRuns).2 (by decide)).symm
    exact .of_modify _ _ hruns fun _ ↦ .inr hended
  | accepted _ ran =>
    have hruns := acceptRunResult_runs ran
    exact .of_modify _ _ hruns fun _ ↦ .inr rfl

theorem step_referenced (hstep : system.step w l = some w') : Referenced w.db w'.db := by
  by_cases hl : l.isCommand = false
  · have hkept : ReferencesKept w.db w'.db := step_background Preord.refl hl hstep
    exact hkept.referenced
  cases l with
  | command env r =>
    rcases step_command hstep with hrecords | ⟨t, t', reply, hran, hrecords⟩
    · have hkept : ReferencesKept w.db w'.db := .of_read ((hrecords .agentRuns).2 (by decide))
      exact hkept.referenced
    have hruns : t'.agentRuns = w'.db.agentRuns := (hrecords .agentRuns).2 (by decide)
    obtain ⟨n, rfl⟩ := hran.start
    have hhandler := hran.run
    have hreferenced : Referenced { w.db with drawn := n } t' := by
      by_cases hsubmit : r.operation = .submitResult
      · rw [hsubmit] at hhandler
        exact (submitResult_ok hhandler).referenced
      · exact ((ReferencesKept.handler_respects hsubmit).rel hhandler).referenced
    intro k run' ref hrun' href
    exact hreferenced k run' ref (hruns ▸ hrun') href
  | _ => exact absurd rfl hl

/-- Runs that have given their results a reference have ended. -/
def RefsEnded (s : DB) : Prop :=
  ∀ runId run ref, s.agentRuns.find? runId = some run → run.resultRef = some ref →
    run.status.isTerminal = true

theorem RefsEnded.of_step (h : RefsEnded w.db) (hstep : system.step w l = some w') :
    RefsEnded w'.db := by
  intro runId run' ref hrun' href
  rcases step_referenced hstep runId run' ref hrun' href with ⟨run, hrun, hbefore⟩ | hended
  · obtain ⟨run₁, hrun₁, hended, -⟩ := step_endedRun hstep hrun (h runId run ref hrun hbefore)
    obtain rfl := Option.some.inj (hrun'.symm.trans hrun₁)
    exact hended
  · exact hended

/-- Runs that have given a reference keep it. -/
theorem HasResult.of_step (h : HasResult w.db wuId ref runId) (hended : RefsEnded w.db)
    (hstep : system.step w l = some w') : HasResult w'.db wuId ref runId := by
  obtain ⟨run, hrun, hunit, href⟩ := h
  obtain ⟨run', hrun', -, hunit', href'⟩ := step_endedRun hstep hrun (hended runId run ref hrun href)
  exact ⟨run', hrun', hunit'.trans hunit, href'.trans href⟩

/-! ## Completions -/

variable {u : WorkUnitExecutionRow}

/-- A run that has ended with the result that its unit has selected. -/
structure Reported (s : DB) (wuId ref runId : String) (result : RunResult) (run : AgentRunRow) :
    Prop where
  found : s.agentRuns.find? runId = some run
  unit : run.workUnitId = some wuId
  reference : run.resultRef = some ref
  result : run.result = some result
  ended : run.status.isTerminal = true

theorem CompletesUnit.reports (h : CompletesUnit w l w' wuId taskId result) :
    ∃ ref runId run u', w'.db.workUnitExecutions.find? wuId = some u' ∧ u'.status = .done ∧
      u'.selectedResultRef = some ref ∧ Reported w'.db wuId ref runId result run := by
  obtain ⟨env, auth, runId, run, u, ref, n, reply, t, hrun, hwu, -, hu, haccept, hrecords⟩ :=
    h.accepted
  have hunits : t.workUnitExecutions = w'.db.workUnitExecutions :=
    (hrecords .workUnitExecutions).2 (by decide)
  have hruns : t.agentRuns = w'.db.agentRuns := (hrecords .agentRuns).2 (by decide)
  obtain ⟨u', hu', hdone, hselection⟩ :=
    acceptRunResult_completes (s := { w.db with drawn := n }) hwu h.completed hu haccept
  have hafter := acceptRunResult_runs haccept
  rw [hruns] at hafter
  have hrun' := (congrArg (·.find? runId) hafter).trans
    ((Table.find?_modify_self _ _ _).trans (congrArg (Option.map _) hrun))
  exact ⟨ref, runId, _, u', hunits ▸ hu', hdone, congrArg Prod.fst hselection, hrun', hwu, rfl, rfl,
    rfl⟩

/-- The result that a unit has selected is that of a run. -/
def SelectedReported (s : DB) : Prop :=
  ∀ wuId u ref, s.workUnitExecutions.find? wuId = some u → u.status = .done →
    truthy u.selectedResultRef = some ref → ∃ runId, HasResult s wuId ref runId

theorem SelectedReported.of_step (h : SelectedReported w.db) (hended : RefsEnded w.db)
    (hstep : system.step w l = some w') : SelectedReported w'.db := by
  intro wuId u' ref hu' hdone hselected
  by_cases hcompletes : ∃ taskId result, CompletesUnit w l w' wuId taskId result
  · obtain ⟨taskId, result, hcompletes⟩ := hcompletes
    obtain ⟨ref', runId, run, u'', hu'', -, hselected', hreports⟩ := hcompletes.reports
    obtain rfl := Option.some.inj (hu'.symm.trans hu'')
    rw [hselected', truthy, Option.filter_eq_some_iff] at hselected
    obtain rfl := Option.some.inj hselected.1
    exact ⟨runId, run, hreports.found, hreports.unit, hreports.reference⟩
  · have hrests := step_rests hstep fun taskId result hnot ↦ hcompletes ⟨taskId, result, hnot⟩
    obtain ⟨u, hu, hbefore⟩ := hrests.done u' hu' hdone
    obtain ⟨u'', hu'', hsame⟩ := hrests.kept u hu
    obtain rfl := Option.some.inj (hu'.symm.trans hu'')
    have hkept : u'.selectedResultRef = u.selectedResultRef := congrArg Prod.fst hsame
    obtain ⟨runId, hresult⟩ := h wuId u ref hu hbefore (hkept ▸ hselected)
    exact ⟨runId, hresult.of_step hended hstep⟩

end HibikiCore
