import HibikiCore.Safety.Units

/-!
# The result of a run

A run stores its result once while it is running. After that the result is written only by the late
path of a submission: a run that has ended may submit again, and what it submits then takes the
place of the stored result, also when that result has completed a unit.
-/

namespace HibikiCore

set_option synthInstance.maxSize 100000000
set_option synthInstance.maxHeartbeats 400000

/-- A run that is not running keeps its result, and does not run again. -/
def RunRests (a b : AgentRunRow) : Prop :=
  a.status ≠ .running → b.status ≠ .running ∧ b.result = a.result ∧ b.resultRef = a.resultRef

instance : Preord RunRests where
  refl _ h := ⟨h, rfl, rfl⟩
  trans h h' ha := by
    obtain ⟨hb, hresult, href⟩ := h ha
    obtain ⟨hc, hresult', href'⟩ := h' hb
    exact ⟨hc, hresult'.trans hresult, href'.trans href⟩

/-- A run that has ended keeps its result. -/
def ResultStays (a b : AgentRunRow) : Prop :=
  a.status.isTerminal = true → b.result = a.result ∧ b.resultRef = a.resultRef

theorem RunRests.stays {a b : AgentRunRow} (h : RunRests a b) : ResultStays a b := by
  intro hended
  refine (h ?_).2
  rintro hrunning
  rw [hrunning] at hended
  cases hended

abbrev RunsRest : DB → DB → Prop := Moves Refs.agentRuns RunRests

variable {env : Env} {auth : AuthContext} {p : Payload} {task : TaskRow} {run : AgentRunRow}
  {row : OutboxRow} {flushed s s' : DB} {taskId runId wuId outboxId sessionId : String}

namespace RunsRest

theorem stays (h : RunsRest s s') : Moves Refs.agentRuns ResultStays s s' := by
  intro k run hrun
  obtain ⟨run', hrun', hrests⟩ := h k run hrun
  exact ⟨run', hrun', hrests.stays⟩

/-- An update that leaves the result, and does not make the run running. -/
theorem update {f : AgentRunRow → AgentRunRow} {hf : ∀ a, SameFixed a (f a)}
    (h : ∀ a, RunRests a (f a)) :
    Respects RunsRest (Refs.agentRuns.update runId f hf : Core Unit) :=
  Moves.update h

/-! ## Runs that end -/

instance revokeUnsentStart_respects :
    Respects RunsRest (revokeUnsentStart env outboxId runId task) := by
  have hcancel : Respects RunsRest (Refs.agentRuns.update runId fun r ↦
      { r with
        status := .cancelled
        finishedAt := some env.now
        terminalReason := some .startRevoked } : Core Unit) := update fun _ _ ↦ by simp
  rw [revokeUnsentStart]
  infer_instance

instance cancelUnsentStart_respects :
    Respects RunsRest (cancelUnsentStart env taskId runId) := by
  have hcancel : Respects RunsRest (Refs.agentRuns.update runId fun r ↦
      { r with
        status := .cancelled
        finishedAt := some env.now
        terminalReason := some .removedFromPlan } : Core Unit) := update fun _ _ ↦ by simp
  rw [cancelUnsentStart]
  infer_instance

instance revokePlanRun_respects :
    Respects RunsRest (revokePlanRun env flushed taskId sessionId) := by
  have hcancel (runId : String) : Respects RunsRest (Refs.agentRuns.update runId fun r ↦
      { r with
        status := .cancelled
        terminalReason := some .plannerGenerationBumped
        finishedAt := some env.now } : Core Unit) := update fun _ _ ↦ by simp
  rw [revokePlanRun]
  infer_instance

instance cancelPausedRun_respects : Respects RunsRest (cancelPausedRun env runId) := by
  have hcancel : Respects RunsRest (Refs.agentRuns.update runId fun r ↦
      { r with
        status := .cancelled
        finishedAt := some env.now
        terminalReason := some .paused } : Core Unit) := update fun _ _ ↦ by simp
  rw [cancelPausedRun]
  infer_instance

instance cancellationSettled_respects : Respects RunsRest (cancellationSettled env auth p) := by
  have hcancel (taskId : String) : Respects RunsRest (Refs.agentRuns.updateWhere
      (fun _ r ↦ r.taskId == taskId && r.status.isActive) fun r ↦
        { r with status := .cancelled, finishedAt := some env.now } : Core Unit) :=
    Moves.updateWhere fun _ _ _ _ ↦ by simp
  rw [cancellationSettled]
  infer_instance

instance settleStoppedRun_respects {reason : String} :
    Respects RunsRest (settleStoppedRun env runId run reason) := by
  have hcancel : Respects RunsRest (Refs.agentRuns.update runId fun r ↦
      { r with
        status := .cancelled
        finishedAt := some env.now
        terminalReason := r.terminalReason <|> some (.stop reason) } : Core Unit) :=
    update fun _ _ ↦ by simp
  rw [settleStoppedRun]
  infer_instance

instance loseRun_respects : Respects RunsRest (loseRun env taskId runId) := by
  have hlose : Respects RunsRest (Refs.agentRuns.update runId fun r ↦
      { r with
        status := .lost
        terminalReason := some .processMissing
        finishedAt := some env.now } : Core Unit) := update fun _ _ ↦ by simp
  rw [loseRun]
  infer_instance

/-- The run a gate blocks gets a result, if it is running. -/
instance blockGatedRun_respects {reason : WaitingReason} :
    Respects RunsRest (blockGatedRun env flushed taskId runId reason) where
  rel {s _ s'} h := by
    rw [blockGatedRun, Tx.get_bind_ok] at h
    rcases Tx.withSome_ok.mp h with ⟨run, hrun, h₁⟩ | ⟨-, rfl⟩
    · rcases Tx.withSome_ok.mp h₁ with ⟨wuId, -, h₂⟩ | ⟨-, rfl⟩
      · obtain ⟨_, t₁, hblock, h₃⟩ := Tx.bind_ok.mp h₂
        obtain ⟨_, t₂, hmarker, h₄⟩ := Tx.bind_ok.mp h₃
        obtain ⟨_, t₃, hend, hstop⟩ := Tx.bind_ok.mp h₄
        have hblocked : Writes occupancyTables s t₁ := Respects.rel hblock
        have hdropped : Writes occupancyTables t₁ t₂ := Respects.rel hmarker
        have hruns₁ : s.agentRuns = t₁.agentRuns := (hblocked .agentRuns).2 (by decide)
        have hruns₂ : t₁.agentRuns = t₂.agentRuns := (hdropped .agentRuns).2 (by decide)
        have hsame : RunsRest s t₂ := Moves.of_read (hruns₁.trans hruns₂)
        refine Preord.trans hsame (Preord.trans ?_ (Respects.rel hstop))
        rcases Tx.when_ok.mp hend with ⟨hrunning, hupdate⟩ | ⟨-, rfl⟩
        · refine Moves.of_update (fun a ha hne ↦ ?_) hupdate
          rw [hruns₁, hruns₂] at hrun
          obtain rfl := Option.some.inj (hrun.symm.trans ha)
          exact absurd hrunning hne
        · exact Preord.refl _
      · exact Preord.refl _
    · exact Preord.refl _

/-! ## What leaves the result -/

instance registerSandboxIdentity_respects :
    Respects RunsRest (registerSandboxIdentity env auth p) := by
  have hcontainer (runId container : String) : Respects RunsRest (Refs.agentRuns.update runId
      fun r ↦ { r with sandboxContainerId := some container } : Core Unit) :=
    update fun _ h ↦ ⟨h, rfl, rfl⟩
  have hexit (runId : String) (confirmed : Bool) : Respects RunsRest
      (Refs.agentRuns.update runId fun r ↦ { r with sandboxExitUnconfirmed := !confirmed }
        : Core Unit) :=
    update fun _ h ↦ ⟨h, rfl, rfl⟩
  rw [registerSandboxIdentity]
  infer_instance

instance heartbeat_respects : Respects RunsRest (heartbeat env auth p) := by
  have hbeat (runId : String) : Respects RunsRest (Refs.agentRuns.update runId fun r ↦
      { r with
        lastHeartbeatAt := some env.now
        leaseExpiresAt := env.now + Defaults.leaseSeconds } : Core Unit) :=
    update fun _ h ↦ ⟨h, rfl, rfl⟩
  rw [heartbeat]
  infer_instance

instance createExecuteRun_respects {r : RunIdentity} {attempt : Nat} :
    Respects RunsRest (createExecuteRun env auth taskId task r attempt) := by
  rw [createExecuteRun]
  infer_instance

instance createPlanRun_respects {session : PlannerSessionRow} :
    Respects RunsRest (createPlanRun env auth p taskId task sessionId session) := by
  rw [createPlanRun]
  infer_instance

/-- Every command but the submission of a result. -/
theorem handler_rests {operation : Operation} (hsubmit : operation ≠ .submitResult) :
    Respects RunsRest (handler env auth p operation) := by
  cases operation <;> first
    | exact absurd rfl hsubmit
    | (dsimp only [handler]; infer_instance)

end RunsRest

/-! ## Submissions -/

/-- A bound runtime whose run has ended reports on a stopped run. -/
theorem isStoppedRunResult_of_bound {p₁ p₂ : Option String} {epoch : Option Nat}
    (hactor : auth.actorType = .internal) (hbound : RunBound auth runId run task p₁ p₂ epoch)
    (hended : run.status.isTerminal = true) : isStoppedRunResult auth runId run = true := by
  obtain ⟨htask, hrun, -, -, hid⟩ := hbound.runtime
  simp [isStoppedRunResult, hactor, htask, hrun, hid, hended]

/-- Only an internal actor submits results. -/
theorem submitResult_internal {auth : AuthContext}
    (h : guardOperation auth .submitResult = none) : auth.actorType = .internal := by
  have hguard : requireInternal auth Operation.submitResult.text = none := h
  by_contra hactor
  simp [requireInternal, hactor] at hguard

theorem recordLateResult_runs {result : RunResult} {event : String} {data : Data}
    {reply : CommandResult}
    (h : recordLateResult env auth runId run result event data s = .ok (reply, s')) :
    s'.agentRuns = s.agentRuns.modify runId fun r ↦
      { r with lateArrival := true, result := some result } := by
  obtain ⟨_, t, hupdate, hrest⟩ := Tx.bind_ok.mp h
  obtain rfl := Ref.update_ok.mp hupdate
  have hwrites : Writes [.events] _ s' := Respects.rel hrest
  exact ((hwrites .agentRuns).2 (by decide)).symm

/-- A live run succeeds with its result. -/
theorem acceptRunResult_runs {result : RunResult} {ref : String} {reply : CommandResult}
    (h : acceptRunResult env auth runId run result ref s = .ok (reply, s')) :
    s'.agentRuns = s.agentRuns.modify runId fun r ↦
      { r with
        result := some result
        resultRef := some ref
        status := .succeeded
        finishedAt := some env.now } := by
  obtain ⟨next, t₁, hrequire, h₁⟩ := Tx.bind_ok.mp h
  obtain ⟨hnext, rfl⟩ := Tx.require_ok.mp hrequire
  have hsucceeded : next = .succeeded := by
    cases hs : run.status <;> rw [hs] at hnext <;> cases hnext
    rfl
  subst hsucceeded
  obtain ⟨_, t₂, hupdate, hrest⟩ := Tx.bind_ok.mp h₁
  obtain rfl := Ref.update_ok.mp hupdate
  have hwrites : Writes besideRuns _ s' := Respects.rel hrest
  exact ((hwrites .agentRuns).2 (by decide)).symm

theorem recordSupersededResult_runs {result : RunResult} {ref : String} {reply : CommandResult}
    (h : recordSupersededResult env auth runId wuId run result ref s = .ok (reply, s')) :
    ∀ k, k ≠ runId → s'.agentRuns.find? k = s.agentRuns.find? k := by
  obtain ⟨next, t₁, hrequire, h₁⟩ := Tx.bind_ok.mp h
  obtain ⟨-, rfl⟩ := Tx.require_ok.mp hrequire
  obtain ⟨_, t₂, hupdate, hrest⟩ := Tx.bind_ok.mp h₁
  obtain rfl := Ref.update_ok.mp hupdate
  have hwrites : Writes besideRuns _ s' := Respects.rel hrest
  have hruns := (hwrites .agentRuns).2 (by decide)
  intro k hk
  exact (congrArg (·.find? k) hruns).symm.trans (Table.find?_modify_of_ne hk _ _)

/-- A submission changes the result of a run that has ended only by its own late path. -/
theorem Submission.stays {reply : CommandResult} {k : String} (hactor : auth.actorType = .internal)
    (h : Submission env auth p s reply s') (hrun : s.agentRuns.find? k = some run)
    (hended : run.status.isTerminal = true)
    (hkeep : p.runId = some k → isStoppedRunResult auth k run = true →
      run.result = some (p.result.getD {})) :
    ∃ run', s'.agentRuns.find? k = some run' ∧ run'.result = run.result ∧
      run'.resultRef = run.resultRef := by
  cases h with
  | @stopped runId run₁ _ _ _ _ named found why ran =>
    rw [recordLateResult_runs ran]
    by_cases hk : k = runId
    · subst hk
      obtain rfl := Option.some.inj (hrun.symm.trans found)
      refine ⟨_, (Table.find?_modify_self _ _ _).trans (congrArg _ hrun), ?_, rfl⟩
      exact (hkeep named why).symm
    · exact ⟨run, (Table.find?_modify_of_ne hk _ _).trans hrun, rfl, rfl⟩
  | @overtaken runId run₁ _ _ _ _ named found why bound ran =>
    rw [recordLateResult_runs ran]
    by_cases hk : k = runId
    · subst hk
      obtain rfl := Option.some.inj (hrun.symm.trans found)
      obtain ⟨task, -, hbound⟩ := bound
      rw [isStoppedRunResult_of_bound hactor hbound hended] at why
      cases why
    · exact ⟨run, (Table.find?_modify_of_ne hk _ _).trans hrun, rfl, rfl⟩
  | @marked runId run₁ named found =>
    by_cases hk : k = runId
    · subst hk
      exact ⟨_, (Table.find?_modify_self _ _ _).trans (congrArg _ hrun), rfl, rfl⟩
    · exact ⟨run, (Table.find?_modify_of_ne hk _ _).trans hrun, rfl, rfl⟩
  | @superseded runId _ _ run₁ _ _ _ named found live ran =>
    have hk : k ≠ runId := by
      rintro rfl
      obtain rfl := Option.some.inj (hrun.symm.trans found)
      rw [hended] at live
      cases live
    exact ⟨run, (recordSupersededResult_runs ran k hk).trans hrun, rfl, rfl⟩
  | @accepted runId _ run₁ _ _ _ accepts ran =>
    have hk : k ≠ runId := by
      rintro rfl
      obtain rfl := Option.some.inj (hrun.symm.trans accepts.found)
      have live := accepts.live
      rw [hended] at live
      cases live
    rw [acceptRunResult_runs ran]
    exact ⟨run, (Table.find?_modify_of_ne hk _ _).trans hrun, rfl, rfl⟩

/-! ## Steps -/

theorem ackOutboxAndMarkRunning_stays
    (h : ackOutboxAndMarkRunning env outboxId runId s = .ok ((), s')) :
    Moves Refs.agentRuns ResultStays s s' := by
  refine ackOutboxAndMarkRunning_moves (fun _ _ ↦ ⟨rfl, rfl⟩) (fun a ha hended ↦ ?_) h
  rw [ha] at hended
  cases hended

instance resultStays_background : Background (Moves Refs.agentRuns ResultStays) :=
  background_of_ack RunsRest.stays fun _ _ _ ↦ ⟨ackOutboxAndMarkRunning_stays⟩

/-- A submission for a run that has ended, if it comes from the runtime of the run, repeats the
result that is stored. -/
def repeatsResult (runId : String) (w : World) (l : Label) : Prop :=
  ∀ env r run, l = .command env r → r.operation = .submitResult →
    r.payload.runId = some runId → w.db.agentRuns.find? runId = some run →
    isStoppedRunResult r.auth runId run = true → run.result = some (r.payload.result.getD {})

variable {w w' : World} {l : Label}

theorem step_result (hok : repeatsResult runId w l) (hstep : system.step w l = some w')
    (hrun : w.db.agentRuns.find? runId = some run) (hended : run.status.isTerminal = true) :
    ∃ run', w'.db.agentRuns.find? runId = some run' ∧ run'.result = run.result ∧
      run'.resultRef = run.resultRef := by
  by_cases hl : l.isCommand = false
  · have hstays : Moves Refs.agentRuns ResultStays w.db w'.db :=
      step_background (fun _ _ run hrun ↦ ⟨run, hrun, fun _ ↦ ⟨rfl, rfl⟩⟩) hl hstep
    obtain ⟨run', hrun', hsame⟩ := hstays runId run hrun
    exact ⟨run', hrun', hsame hended⟩
  cases l with
  | command env r =>
    rcases step_command hstep with hrecords | ⟨t, t', result, hran, hrecords⟩
    · have hruns : w.db.agentRuns = w'.db.agentRuns := (hrecords .agentRuns).2 (by decide)
      exact ⟨run, hruns ▸ hrun, rfl, rfl⟩
    have hruns : t'.agentRuns = w'.db.agentRuns := (hrecords .agentRuns).2 (by decide)
    rw [← hruns]
    obtain ⟨n, rfl⟩ := hran.start
    have hhandler := hran.run
    by_cases hsubmit : r.operation = .submitResult
    · have hguard := hran.guard
      rw [hsubmit] at hhandler hguard
      exact (submitResult_ok hhandler).stays (submitResult_internal hguard) hrun hended
        (hok env r run rfl hsubmit · hrun)
    · have hrests := (RunsRest.handler_rests hsubmit).rel hhandler
      obtain ⟨run', hrun', hrest⟩ := hrests runId run hrun
      exact ⟨run', hrun', hrest.stays hended⟩
  | _ => exact absurd rfl hl

/-! ## Completed units -/

/-- A step in which the result of a run completes a unit. -/
structure Completes (runId : String) (w : World) (l : Label) (w' : World) : Prop where
  step : system.step w l = some w'
  submitted : ∃ env r, l = .command env r ∧ r.operation = .submitResult ∧
    r.payload.runId = some runId
  completed : ∃ wuId u u', w.db.workUnitExecutions.find? wuId = some u ∧ u.status ≠ .done ∧
    w'.db.workUnitExecutions.find? wuId = some u' ∧ u'.status = .done

/-- The run whose result completes a unit has ended with that result. -/
theorem Completes.ended (h : Completes runId w l w') :
    ∃ run, w'.db.agentRuns.find? runId = some run ∧ run.status.isTerminal = true := by
  obtain ⟨env, r, rfl, hsubmit, hnamed⟩ := h.submitted
  obtain ⟨wuId, u, u', hu, hopen, hu', hdone⟩ := h.completed
  have hkept (hkeeps : Units UnitKeeps w.db w'.db) : False := by
    obtain ⟨u₁, hu₁, hsame⟩ := hkeeps wuId u hu
    obtain rfl := Option.some.inj (hu₁.symm.trans hu')
    exact hopen (hsame.symm.trans hdone)
  rcases step_command h.step with hrecords | ⟨t, t', result, hran, hrecords⟩
  · exact (hkept (Moves.of_read ((hrecords .workUnitExecutions).2 (by decide)))).elim
  have hruns : t'.agentRuns = w'.db.agentRuns := (hrecords .agentRuns).2 (by decide)
  have hrecorded : Units UnitKeeps t' w'.db :=
    Moves.of_read ((hrecords .workUnitExecutions).2 (by decide))
  obtain ⟨n, rfl⟩ := hran.start
  have hdraw (m : Nat) : Units UnitKeeps w.db { w.db with drawn := m } := Moves.of_read rfl
  have hrun := hran.run
  rw [hsubmit] at hrun
  cases submitResult_ok hrun with
  | stopped _ _ _ ran | overtaken _ _ _ _ ran =>
    exact (hkept (Preord.trans (hdraw n) (Preord.trans (Respects.rel ran) hrecorded))).elim
  | marked => exact (hkept (Preord.trans (Moves.of_read rfl) hrecorded)).elim
  | superseded _ _ _ ran =>
    exact (hkept (Preord.trans (hdraw _) (Preord.trans (Respects.rel ran) hrecorded))).elim
  | accepted accepts ran =>
    obtain rfl := Option.some.inj (hnamed.symm.trans accepts.named)
    rw [← hruns, acceptRunResult_runs ran]
    exact ⟨_, (Table.find?_modify_self _ _ _).trans (congrArg _ accepts.found), rfl⟩

/-- A result of the sample run. -/
def sampleResult (artifactHash : String) : Label :=
  .ask
    { principalId := "owner"
      actorId := "local:run_iiiiiiiiii"
      actorType := .internal
      boundTaskId := some "task_i"
      boundRunId := some "run_iiiiiiiiii"
      boundFencingEpoch := some 1
      boundGrantEpoch := some 0 }
    .submitResult
    { taskId := some "task_i"
      runId := some "run_iiiiiiiiii"
      fencingEpoch := some 1
      result := some { artifactRefs := [some artifactHash] } }

/-- Once the result of a run has completed a unit, the result and its reference stay as they are in
every run of the system in which the runtime of the ended run submits nothing else. -/
theorem accepted_result_kept {runId : String} {w w₁ w₂ : World} {l : Label}
    (hcompletes : Completes runId w l w₁) (h : system.Run (repeatsResult runId) w₁ w₂) :
    ∃ run₁ run₂, w₁.db.agentRuns.find? runId = some run₁ ∧
      w₂.db.agentRuns.find? runId = some run₂ ∧
      run₂.result = run₁.result ∧ run₂.resultRef = run₁.resultRef := by
  obtain ⟨run₁, hrun₁, hended⟩ := hcompletes.ended
  suffices hinv : ∃ run₂, w₂.db.agentRuns.find? runId = some run₂ ∧
      run₂.status.isTerminal = true ∧ run₂.result = run₁.result ∧
      run₂.resultRef = run₁.resultRef by
    obtain ⟨run₂, hrun₂, -, hsame⟩ := hinv
    exact ⟨run₁, run₂, hrun₁, hrun₂, hsame⟩
  induction h with
  | refl => exact ⟨run₁, hrun₁, hended, rfl, rfl⟩
  | step _ hok hstep ih =>
    obtain ⟨run₂, hrun₂, hended₂, hresult₂, href₂⟩ := ih
    obtain ⟨run₃, hrun₃, hresult₃, href₃⟩ := step_result hok hstep hrun₂ hended₂
    have hsteps : system.Run (repeatsResult runId) _ _ := .step .refl hok hstep
    obtain ⟨run₃', hrun₃', hstatus⟩ := ended_run_kept hsteps hrun₂ hended₂
    obtain rfl := Option.some.inj (hrun₃.symm.trans hrun₃')
    exact ⟨run₃, hrun₃, hstatus ▸ hended₂, hresult₃.trans hresult₂, href₃.trans href₂⟩

/-- What is stored of the sample run and its unit. -/
def sampleDelivery (w : World) : Option (Option RunResult) × Option WorkUnitStatus :=
  ((w.db.agentRuns.find? "run_iiiiiiiiii").map (·.result),
    (w.db.workUnitExecutions.find? "unit").map (·.status))

theorem sampleResult_view :
    (system.exec system.init sampleStarted).bind (fun w ↦
      (system.step w (sampleResult "first")).bind fun w₁ ↦
        (system.step w₁ (sampleResult "second")).map fun w₂ ↦
          ((sampleDelivery w).2, sampleDelivery w₁, sampleDelivery w₂)) =
      some (some .running,
        (some (some { artifactRefs := [some "first"] }), some .done),
        (some (some { artifactRefs := [some "second"] }), some .done)) := by
  decide +kernel

/-- The run submits again after its result has completed the unit, and the stored result is another
one. -/
theorem sampleResult_replaced :
    ∃ w w₁ w₂, system.exec system.init sampleStarted = some w ∧
      Completes "run_iiiiiiiiii" w (sampleResult "first") w₁ ∧
      system.step w₁ (sampleResult "second") = some w₂ ∧
      (w₁.db.agentRuns.find? "run_iiiiiiiiii").map (·.result) =
        some (some { artifactRefs := [some "first"] }) ∧
      (w₂.db.agentRuns.find? "run_iiiiiiiiii").map (·.result) =
        some (some { artifactRefs := [some "second"] }) := by
  obtain ⟨w, hw, hw'⟩ := Option.bind_eq_some_iff.mp sampleResult_view
  obtain ⟨w₁, hstep₁, hw₁⟩ := Option.bind_eq_some_iff.mp hw'
  obtain ⟨w₂, hstep₂, hview⟩ := Option.map_eq_some_iff.mp hw₁
  simp only [Prod.mk.injEq, sampleDelivery, Option.map_eq_some_iff] at hview
  obtain ⟨⟨u, hu, hrunning⟩, ⟨⟨run₁, hrun₁, hresult₁⟩, u₁, hu₁, hdone⟩,
    ⟨run₂, hrun₂, hresult₂⟩, -⟩ := hview
  refine ⟨w, w₁, w₂, hw, ⟨hstep₁, ⟨_, _, rfl, rfl, rfl⟩, "unit", u, u₁, hu, ?_, hu₁, hdone⟩,
    hstep₂, ?_, ?_⟩
  · rw [hrunning]
    decide
  · rw [hrun₁, Option.map_some, hresult₁]
  · rw [hrun₂, Option.map_some, hresult₂]

theorem accepted_result_kept_sample :
    ∃ w w₁ w₂ run₁ run₂, system.exec system.init sampleStarted = some w ∧
      Completes "run_iiiiiiiiii" w (sampleResult "first") w₁ ∧
      system.step w₁ (.reconcile .silent) = some w₂ ∧
      w₁.db.agentRuns.find? "run_iiiiiiiiii" = some run₁ ∧
      w₂.db.agentRuns.find? "run_iiiiiiiiii" = some run₂ ∧
      run₂.result = run₁.result ∧ run₂.resultRef = run₁.resultRef := by
  obtain ⟨w, hw, hw'⟩ := Option.bind_eq_some_iff.mp sampleResult_view
  obtain ⟨w₁, hstep₁, hw₁⟩ := Option.bind_eq_some_iff.mp hw'
  obtain ⟨w₂, hstep₂, hview⟩ := Option.map_eq_some_iff.mp hw₁
  simp only [Prod.mk.injEq, sampleDelivery, Option.map_eq_some_iff] at hview
  obtain ⟨⟨u, hu, hrunning⟩, ⟨-, u₁, hu₁, hdone⟩, -⟩ := hview
  have hcompletes : Completes "run_iiiiiiiiii" w (sampleResult "first") w₁ := by
    refine ⟨hstep₁, ⟨_, _, rfl, rfl, rfl⟩, "unit", u, u₁, hu, ?_, hu₁, hdone⟩
    rw [hrunning]
    decide
  have hstep : system.step w₁ (.reconcile .silent) = some (w₁.commit (reconcile .silent)) := rfl
  have hok : repeatsResult "run_iiiiiiiiii" w₁ (.reconcile .silent) := by
    intro env r run hl
    cases hl
  obtain ⟨run₁, run₂, hrun₁, hrun₂, hsame⟩ :=
    accepted_result_kept hcompletes (.step .refl hok hstep)
  exact ⟨w, w₁, _, run₁, run₂, hw, hcompletes, hstep, hrun₁, hrun₂, hsame⟩

end HibikiCore
