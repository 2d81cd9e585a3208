import HibikiCore.Safety.Integrity
import HibikiCore.Safety.Gates

/-!
# Runs and the version that authorises them

A run is created for the version of the contract that is ACTIVE at that time. It keeps this version
as long as it lives, so it crosses versions if and only if another one becomes ACTIVE before the run
has ended. Neither of the commands that make a contract ACTIVE ends the runs of the task.
-/

namespace HibikiCore

set_option synthInstance.maxSize 100000000
set_option synthInstance.maxHeartbeats 400000

variable {env : Env} {auth : AuthContext} {p : Payload} {task : TaskRow} {s s' : DB} {w w' : World}
  {l : Label} {taskId t : String} {v : Nat} {result : CommandResult}

/-! ## New runs -/

/-- The contract of a task is at a version. -/
def AtVersion (t : String) (v : Nat) (s : DB) : Prop :=
  ∃ task, s.tasks.find? t = some task ∧ task.contractVersion = some v

/-- What is new among the runs belongs to a task and to a version of its contract. -/
abbrev NewRunsAt (t : String) (v : Nat) : DB → DB → Prop :=
  Arrivals Refs.agentRuns fun _ f ↦ f.taskId = t ∧ f.contractVersion = v

/-- While the contract of a task is at a version, new runs are of this version. -/
def RunsOfVersion (t : String) (v : Nat) (s s' : DB) : Prop :=
  AtVersion t v s → AtVersion t v s' ∧ NewRunsAt t v s s'

namespace RunsOfVersion

instance : Preord (RunsOfVersion t v) where
  refl _ h := ⟨h, Preord.refl _⟩
  trans h h' hat := by
    obtain ⟨hmid, hnew⟩ := h hat
    obtain ⟨hend, hnew'⟩ := h' hmid
    exact ⟨hend, Preord.trans hnew hnew'⟩

theorem of_new (hversions : VersionsKept s s') (hnew : NewRunsAt t v s s') :
    RunsOfVersion t v s s' := by
  rintro ⟨task, htask, hversion⟩
  obtain ⟨task', htask', hsame⟩ := hversions.kept t task htask
  exact ⟨⟨task', htask', hsame.trans hversion⟩, hnew⟩

instance : Frame (RunsOfVersion t v) where
  still h := of_new (Frame.still h) (Frame.still h)

instance {n : Relation} [Beside Refs.tasks n] [Beside Refs.agentRuns n] :
    Indifferent (RunsOfVersion t v) n where
  writes h := of_new (Indifferent.writes h) (Indifferent.writes h)

theorem createExecuteRun_new {r : RunIdentity} {attempt : Nat} (h : task.contractVersion = some v) :
    Respects (NewRunsAt t v) (createExecuteRun env auth t task r attempt) := by
  have hadd : Respects (NewRunsAt t v)
      (add Refs.agentRuns r.runId (createdRun env t task r attempt)) := by
    refine Arrivals.insert ⟨rfl, ?_⟩
    change task.contractVersion.getD 0 = v
    rw [h]
    rfl
  rw [createExecuteRun]
  infer_instance

instance dispatchUnit_respects {version : Nat} {node : RawNode} {wu : WorkUnitExecutionRow}
    {workspace : Option (String × WorkspaceRow)} {created : List String} :
    Respects (RunsOfVersion t v) (dispatchUnit env auth t version node wu workspace created) where
  rel {s created' s'} h := by
    intro hat
    have hversions : VersionsKept s s' := by
      refine Respects.rel (m := dispatchUnit env auth t version node wu workspace created) h
    obtain ⟨task, t₁, hget, h₁⟩ := Tx.bind_ok.mp h
    obtain ⟨htask, rfl⟩ := getTask_ok.mp hget
    obtain ⟨task', htask', hversion⟩ := hat
    obtain rfl := Option.some.inj (htask.symm.trans htask')
    have hcreate (r : RunIdentity) (attempt : Nat) : Respects (NewRunsAt t v)
        (createExecuteRun env auth t task r attempt) := createExecuteRun_new hversion
    exact of_new hversions (Respects.rel h₁) ⟨task, htask, hversion⟩

instance dispatchNode_respects {version globalActive taskActive : Nat} {edges : List RawEdge}
    {created : List String} {node : RawNode} :
    Respects (RunsOfVersion t v)
      (dispatchNode env auth t version edges globalActive taskActive created node) := by
  rw [dispatchNode]
  exact .seq inferInstance fun _ ↦ by split <;> infer_instance

instance dispatchPlanNodes_respects :
    Respects (RunsOfVersion t v) (dispatchPlanNodes env auth p t) := by
  rw [dispatchPlanNodes]
  exact .seq inferInstance fun _ ↦ by split <;> infer_instance

theorem createPlanRun_new {sessionId : String} {session : PlannerSessionRow}
    (h : task.contractVersion = some v) :
    Respects (NewRunsAt t v) (createPlanRun env auth p t task sessionId session) := by
  have hadd (runId manifestId : String) : Respects (NewRunsAt t v) (add Refs.agentRuns runId
      (planRun env t task sessionId runId manifestId p.resumedFromRunId)) := by
    refine Arrivals.insert ⟨rfl, ?_⟩
    change task.contractVersion.getD 0 = v
    rw [h]
    rfl
  rw [createPlanRun]
  infer_instance

instance dispatchSessionRun_respects {sessionId : String} :
    Respects (RunsOfVersion t v) (dispatchSessionRun env auth p t sessionId) where
  rel {s result s'} h := by
    intro hat
    have hversions : VersionsKept s s' := by
      have hrespects : Respects VersionsKept (dispatchSessionRun env auth p t sessionId) := by
        rw [dispatchSessionRun]
        refine .seq inferInstance fun task ↦ .seq inferInstance fun db ↦ ?_
        refine .seq inferInstance fun session ↦ ?_
        refine .seq inferInstance fun _ ↦ .seq inferInstance fun _ ↦ ?_
        split <;> infer_instance
      exact hrespects.rel h
    obtain ⟨task, t₁, hget, h₁⟩ := Tx.bind_ok.mp h
    obtain ⟨htask, rfl⟩ := getTask_ok.mp hget
    obtain ⟨task', htask', hversion⟩ := hat
    obtain rfl := Option.some.inj (htask.symm.trans htask')
    have hcreate (session : PlannerSessionRow) : Respects (NewRunsAt t v)
        (createPlanRun env auth p t task sessionId session) := createPlanRun_new hversion
    refine of_new hversions ?_ ⟨task, htask, hversion⟩
    rw [Tx.get_bind_ok] at h₁
    obtain ⟨session, t₂, hsession, h₂⟩ := Tx.bind_ok.mp h₁
    obtain ⟨-, rfl⟩ := Tx.require_ok.mp hsession
    obtain ⟨_, t₃, hactive, h₃⟩ := Tx.bind_ok.mp h₂
    obtain ⟨-, rfl⟩ := Tx.check_ok.mp hactive
    obtain ⟨_, t₄, howner, h₄⟩ := Tx.bind_ok.mp h₃
    obtain ⟨-, rfl⟩ := Tx.check_ok.mp howner
    cases hmarked : markedPlanRun t₄ sessionId with
    | some runId =>
      rw [hmarked] at h₄
      exact Respects.rel h₄
    | none =>
      rw [hmarked] at h₄
      exact Respects.rel h₄

end RunsOfVersion

/-! ## Commands -/

/-- What is new among the runs is bound to the version of its task that is ACTIVE. -/
abbrev NewRunsBound (s : DB) : DB → DB → Prop :=
  Arrivals Refs.agentRuns fun _ f ↦
    s.activeContractMarkers.find? f.taskId = some ⟨f.contractVersion⟩

/-- A command creates runs for the ACTIVE version only. -/
theorem handler_newRuns {operation : Operation} (hinv : ContractInv s)
    (h : handler env auth p operation s = .ok (result, s')) : NewRunsBound s s s' := by
  have hbound {taskId : String} {task : TaskRow} {version : Nat} {contract : ContractRow}
      (hneeds : Dispatchable auth p s taskId task version contract)
      (hruns : RunsOfVersion taskId version s s') : NewRunsBound s s s' := by
    have hversion := hinv.version hneeds.found
    rw [hneeds.marker] at hversion
    refine Arrivals.mono ?_ (hruns ⟨task, hneeds.found, hversion⟩).2
    rintro k f ⟨howner, hsame⟩
    rw [howner, hsame]
    exact hneeds.marker
  by_cases hruns : operation = .dispatchReadyRuns
  · subst hruns
    rcases dispatchReadyRuns_ok h with rfl | ⟨taskId, task, version, contract, hneeds, hrest⟩
    · exact Preord.refl _
    · rcases hrest with hbudget | hnodes
      · exact Respects.rel hbudget
      · exact hbound hneeds (Respects.rel hnodes)
  · by_cases hplan : operation = .dispatchPlannerRun
    · subst hplan
      rcases dispatchPlannerRun_ok h with rfl | ⟨taskId, task, version, contract, hneeds, hrest⟩
      · exact Preord.refl _
      · obtain ⟨sessionId, u, hsession, hrun⟩ := hrest
        refine hbound hneeds (Preord.trans ?_ (Respects.rel hrun))
        rcases hsession with rfl | hbump
        · exact Preord.refl _
        · have hkept : ContractsKept s u := Respects.rel hbump
          exact RunsOfVersion.of_new hkept.versions (Respects.rel hbump)
    · have hnone : NewRuns (fun _ ↦ False) s s' :=
        (NewRuns.handler_respects hruns hplan).rel h
      exact hnone.mono fun _ _ hfalse ↦ hfalse.elim

/-- A command makes a version of the contract of a task ACTIVE, as far as the commands ask. -/
inductive ActivatesContract (s : DB) (t : String) (v : Nat) : Label → Prop
  /-- The version that a pending decision is about is approved. -/
  | approved {env : Env} {request : Request} {r : Resolution} {decisionId : String}
      {decision : DecisionRow} {task : TaskRow}
      (asked : resolution request.payload request.operation = some r)
      (resolves : Resolves env request.auth r s decisionId decision task)
      (kind : decision.decisionKind = .contractApproval) (approve : r.verdict = "APPROVE")
      (owner : decision.taskId = t) (target : decision.targetVersion = v) :
      ActivatesContract s t v (.command env request)
  /-- An approved delta is merged into the ACTIVE version. -/
  | merged {env : Env} {request : Request} {decisionId : String} {decision : DecisionRow}
      {task : TaskRow} {envelope : DeltaEnvelope} {base : ContractRow}
      (asked : request.operation = .applyContractDelta)
      (applicable : Applicable env request.auth request.payload s decisionId decision task envelope)
      (fresh : Fresh s decision task envelope base)
      (hash : .contract (mergeContractContent base.content envelope.delta) = decision.targetHash)
      (owner : decision.taskId = t) (target : decision.targetVersion = v) :
      ActivatesContract s t v (.command env request)

/-- An activation brings no runs, and sets no marker but that of its task. -/
structure Activation (s s' : DB) (t : String) (v : Nat) : Prop where
  markers : ∀ t', s'.activeContractMarkers.find? t' =
    if t' = t then some ⟨v⟩ else s.activeContractMarkers.find? t'
  runs : NewRuns (fun _ ↦ False) s s'

theorem Activates.activation {contract : ContractRow} (h : Activates s s' t v contract)
    (hruns : NewRuns (fun _ ↦ False) s s') : Activation s s' t v where
  markers t' := by
    obtain ⟨contracts, -, hkept⟩ := h
    rw [hkept.markers, DB.install_markers]
  runs := hruns

/-- What a command does to the versions that authorise runs. -/
theorem command_versions {request : Request} (hinv : ContractInv w.db)
    (hstep : system.step w (.command env request) = some w') :
    (w'.db.activeContractMarkers = w.db.activeContractMarkers ∧ NewRunsBound w.db w.db w'.db) ∨
      ∃ t v, ActivatesContract w.db t v (.command env request) ∧ Activation w.db w'.db t v := by
  rcases step_command hstep with hrecords | ⟨u, u', result, hran, hrecords⟩
  · exact .inl ⟨((hrecords .activeContractMarkers).2 (by decide)).symm,
      .of_read ((hrecords .agentRuns).2 (by decide))⟩
  obtain ⟨n, rfl⟩ := hran.start
  have hafter {P : String → RunAssignment → Prop} : Arrivals Refs.agentRuns P u' w'.db :=
    .of_read ((hrecords .agentRuns).2 (by decide))
  have hbefore {P : String → RunAssignment → Prop} :
      Arrivals Refs.agentRuns P w.db { w.db with drawn := n } := .of_read rfl
  have hrun := hran.run
  have hnoRuns (hruns : request.operation ≠ .dispatchReadyRuns)
      (hplan : request.operation ≠ .dispatchPlannerRun) : NewRuns (fun _ ↦ False) w.db w'.db :=
    Preord.trans hbefore (Preord.trans ((NewRuns.handler_respects hruns hplan).rel hrun) hafter)
  cases (ContractChange.of_handler hrun).around hrecords with
  | quiet hnone =>
    have hdrawn : ContractInv { w.db with drawn := n } := hinv.of_kept ⟨rfl, rfl, .of_read rfl⟩
    have hnew : NewRunsBound w.db { w.db with drawn := n } u' := handler_newRuns hdrawn hrun
    exact .inl ⟨hnone.markers, Preord.trans hbefore (Preord.trans hnew hafter)⟩
  | approved asked resolves kind approve _ _ activates =>
    refine .inr ⟨_, _, .approved asked resolves kind approve rfl rfl, activates.activation ?_⟩
    rcases resolution_operation asked with h | h | h | h <;>
      exact hnoRuns (by rw [h]; decide) (by rw [h]; decide)
  | merged asked applicable fresh hash activates =>
    refine .inr ⟨_, _, .merged asked applicable fresh hash rfl rfl, activates.activation ?_⟩
    exact hnoRuns (by rw [asked]; decide) (by rw [asked]; decide)

/-! ## Runs that do not cross versions -/

/-- Every run that has not ended is bound to the ACTIVE version of the contract of its task. -/
def RunsBound (s : DB) : Prop :=
  ∀ runId run, s.agentRuns.find? runId = some run → run.status.isActive = true →
    s.activeContractMarkers.find? run.taskId = some ⟨run.contractVersion⟩

/-- No version of the contract of a task becomes ACTIVE while a run of the task that is bound to
another one has not ended. -/
def RunsDrained (w : World) (l : Label) : Prop :=
  ∀ t v, ActivatesContract w.db t v l → ∀ runId run, w.db.agentRuns.find? runId = some run →
    run.taskId = t → run.status.isActive = true → run.contractVersion = v

/-- A run that has not ended after a step is new, or it had not ended before. -/
theorem step_activeRun {P : String → RunAssignment → Prop} {runId : String} {run : AgentRunRow}
    (hstep : system.step w l = some w') (hnew : Arrivals Refs.agentRuns P w.db w'.db)
    (hrun : w'.db.agentRuns.find? runId = some run) (hactive : run.status.isActive = true) :
    (∃ run₀, w.db.agentRuns.find? runId = some run₀ ∧ SameFixed run₀ run ∧
      run₀.status.isActive = true) ∨ P runId (Columns.fixed run) := by
  rcases hnew runId run hrun with ⟨run₀, hrun₀, hfixed⟩ | hP
  · refine .inl ⟨run₀, hrun₀, hfixed, ?_⟩
    have hmoves : Moves Refs.agentRuns RunMoves w.db w'.db :=
      step_tx (fun _ _ run hrun ↦ ⟨run, hrun, .refl run⟩) hstep
    obtain ⟨run', hrun', hmove⟩ := hmoves runId run₀ hrun₀
    obtain rfl := Option.some.inj (hrun.symm.trans hrun')
    by_contra hended
    have hterminal : run₀.status.isTerminal = true := by
      simpa [AgentRunStatus.isActive] using hended
    rw [AgentRunStatus.isActive, hmove.terminal hterminal, hterminal] at hactive
    cases hactive
  · exact .inr hP

/-- The runs of a task stay bound if another version becomes ACTIVE only when they have ended. -/
theorem RunsBound.of_step (hinv : ContractInv w.db) (h : RunsBound w.db)
    (hok : RunsDrained w l) (hstep : system.step w l = some w') : RunsBound w'.db := by
  intro runId run hrun hactive
  have hquiet (hmarkers : w'.db.activeContractMarkers = w.db.activeContractMarkers)
      (hnew : NewRunsBound w.db w.db w'.db) :
      w'.db.activeContractMarkers.find? run.taskId = some ⟨run.contractVersion⟩ := by
    rw [hmarkers]
    rcases step_activeRun hstep hnew hrun hactive with ⟨run₀, hrun₀, hfixed, hactive₀⟩ | hbound
    · have howner : run.taskId = run₀.taskId := congrArg RunAssignment.taskId hfixed
      have hversion : run.contractVersion = run₀.contractVersion :=
        congrArg RunAssignment.contractVersion hfixed
      rw [howner, hversion]
      exact h runId run₀ hrun₀ hactive₀
    · exact hbound
  cases l
  case command env request =>
    rcases command_versions hinv hstep with ⟨hmarkers, hnew⟩ | ⟨t, v, hactivates, hactivation⟩
    · exact hquiet hmarkers hnew
    · rcases step_activeRun hstep hactivation.runs hrun hactive with
        ⟨run₀, hrun₀, hfixed, hactive₀⟩ | hfalse
      · have howner : run.taskId = run₀.taskId := congrArg RunAssignment.taskId hfixed
        have hversion : run.contractVersion = run₀.contractVersion :=
          congrArg RunAssignment.contractVersion hfixed
        rw [howner, hversion, hactivation.markers]
        split
        · next htask => rw [hok t v hactivates runId run₀ hrun₀ htask hactive₀]
        · exact h runId run₀ hrun₀ hactive₀
      · exact hfalse.elim
  all_goals
    have hkept : ContractsKept w.db w'.db := step_background Preord.refl rfl hstep
    exact hquiet hkept.markers (step_background Preord.refl rfl hstep)

/-- A run of version 1 was started, a gate was opened, and version 2 was submitted. -/
def sampleResubmitted : List Label :=
  let human := AuthContext.ofHuman "owner"
  sampleStarted ++
    [.ask human .openBlockingGate { taskId := some "task_i" },
      .ask human .submitContract { taskId := some "task_i" }]

/-- In every run of the system in which no contract becomes ACTIVE while a run that is bound to
another version has not ended, no run crosses versions. -/
theorem runs_bound_to_version {w : World} (h : system.ReachableBy RunsDrained w) {runId : String}
    {run : AgentRunRow} (hrun : w.db.agentRuns.find? runId = some run)
    (hactive : run.status.isActive = true) :
    w.db.activeContractMarkers.find? run.taskId = some ⟨run.contractVersion⟩ := by
  have hinvariant : system.Invariant RunsDrained fun w ↦ ContractInv w.db ∧ RunsBound w.db :=
    (contractInv_invariant RunsDrained).strengthen (fun _ _ h _ ↦ nomatch h)
      fun _ _ _ hinv _ hbound hok hstep ↦ hbound.of_step hinv hok hstep
  exact (hinvariant.of_reachable h).2 runId run hrun hactive

/-- The status of the run of the sample with its version, and the ACTIVE version. -/
def sampleBinding (w : World) : Option (AgentRunStatus × String × Nat) × Option Nat :=
  ((w.db.agentRuns.find? "run_iiiiiiiiii").map fun run ↦
      (run.status, run.taskId, run.contractVersion),
    (w.db.activeContractMarkers.find? "task_i").map ActiveContractMarker.contractVersion)

/-- The second version is approved while the run of the first one goes on. -/
theorem sampleResubmitted_crosses :
    ∃ w runId run, system.Reachable w ∧ w.db.agentRuns.find? runId = some run ∧
      run.status = .running ∧
      w.db.activeContractMarkers.find? run.taskId ≠ some ⟨run.contractVersion⟩ := by
  have hview : (system.exec system.init (sampleResubmitted ++
      [.ask (.ofHuman "owner") .approveContract
        { decisionId := some "dec_iiiiiiiiiiiiiiiiii" }])).map sampleBinding =
      some (some (.running, "task_i", 1), some 2) := by
    decide +kernel
  obtain ⟨w, hexec, hbinding⟩ := Option.map_eq_some_iff.mp hview
  simp only [sampleBinding, Prod.mk.injEq] at hbinding
  obtain ⟨hrun, hmarker⟩ := hbinding
  obtain ⟨run, hfind, hsame⟩ := Option.map_eq_some_iff.mp hrun
  simp only [Prod.mk.injEq] at hsame
  obtain ⟨hstatus, howner, hversion⟩ := hsame
  refine ⟨w, _, run, .of_exec hexec, hfind, hstatus, fun hsame ↦ ?_⟩
  rw [howner, hversion] at hsame
  rw [hsame] at hmarker
  cases hmarker

/-- Where there is no run, a contract may become ACTIVE. -/
theorem RunsDrained.of_noRuns (h : ∀ runId, w.db.agentRuns.find? runId = none) :
    RunsDrained w l := by
  intro t v _ runId run hrun
  rw [h] at hrun
  cases hrun

/-- A command that takes a decision or applies a delta. -/
def Label.mayActivate : Label → Bool
  | .command _ request =>
    (resolution request.payload request.operation).isSome
      || request.operation == .applyContractDelta
  | _ => false

theorem RunsDrained.of_label (h : l.mayActivate = false) : RunsDrained w l := by
  rintro t v hactivates
  cases hactivates with
  | approved asked =>
    rw [Label.mayActivate, asked] at h
    cases h
  | merged asked =>
    rw [Label.mayActivate, asked] at h
    simp at h

/-- The run of the sample is created for the version that was approved first. -/
theorem runs_bound_to_version_sampleDispatched :
    ∃ w run, system.ReachableBy RunsDrained w ∧
      w.db.agentRuns.find? "run_iiiiiiiiii" = some run ∧ run.status = .created ∧
      w.db.activeContractMarkers.find? run.taskId = some ⟨run.contractVersion⟩ := by
  have hview : (system.exec system.init (sampleDispatched.take 2)).bind (fun w ↦
      (system.exec w ((sampleDispatched.drop 2).take 1)).bind fun w₁ ↦
        (system.exec w₁ (sampleDispatched.drop 3)).map fun w₂ ↦
          (w.db.agentRuns.rows.length, (sampleBinding w₂).1)) =
      some (0, some (.created, "task_i", 1)) := by
    decide +kernel
  obtain ⟨w, hsubmit, hrest⟩ := Option.bind_eq_some_iff.mp hview
  obtain ⟨w₁, happrove, hdispatch⟩ := Option.bind_eq_some_iff.mp hrest
  obtain ⟨w₂, hrun, hbinding⟩ := Option.map_eq_some_iff.mp hdispatch
  simp only [sampleBinding, Prod.mk.injEq] at hbinding
  obtain ⟨hempty, hfound⟩ := hbinding
  obtain ⟨run, hfind, hsame⟩ := Option.map_eq_some_iff.mp hfound
  simp only [Prod.mk.injEq] at hsame
  have hquiet : ∀ l ∈ sampleDispatched.take 2 ++ sampleDispatched.drop 3,
      l.mayActivate = false := by
    decide
  have hsubmitted : system.Run RunsDrained system.init w :=
    .of_exec_ok (fun l hl _ ↦ .of_label (hquiet l (List.mem_append_left _ hl))) hsubmit
  have happroved : system.Run RunsDrained w w₁ := by
    obtain ⟨w₁', hstep, hdone⟩ := Option.bind_eq_some_iff.mp happrove
    obtain rfl := Option.some.inj hdone
    refine Machine.Run.refl.step (.of_noRuns fun runId ↦ ?_) hstep
    rw [Table.find?, List.eq_nil_of_length_eq_zero hempty]
    rfl
  have hdispatched : system.Run RunsDrained w₁ w₂ :=
    .of_exec_ok (fun l hl _ ↦ .of_label (hquiet l (List.mem_append_right _ hl))) hrun
  have hreach := (hsubmitted.trans happroved).trans hdispatched
  refine ⟨w₂, run, hreach, hfind, hsame.1, runs_bound_to_version hreach hfind ?_⟩
  rw [hsame.1]
  rfl

end HibikiCore
