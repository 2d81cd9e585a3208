import HibikiCore.Application.Dispatching
import HibikiCore.Application.Planning
import HibikiCore.Safety.Starts
import HibikiCore.Safety.AtMostOnce

/-!
# What an open gate freezes

While a gate of a task is unresolved no run is created for the task, and neither a start nor an
external effect of it passes its last check. Plans are not asked for gates when they are activated,
so the third part of the freeze needs the condition that no activation is admitted.
-/

namespace HibikiCore

set_option synthInstance.maxSize 100000000
set_option synthInstance.maxHeartbeats 400000

variable {env : Env} {auth : AuthContext} {p : Payload} {task : TaskRow} {s s' : DB} {w w' : World}
  {l : Label} {taskId t : String}

/-! ## Runs -/

/-- What is new among the runs belongs to tasks of a kind. -/
abbrev NewRuns (P : String → Prop) : DB → DB → Prop :=
  Arrivals Refs.agentRuns fun _ f ↦ P f.taskId

namespace NewRuns

instance background {P : String → Prop} : Background (NewRuns P) := inferInstance

/-- Only two commands create runs. -/
theorem handler_respects {P : String → Prop} {operation : Operation}
    (hruns : operation ≠ .dispatchReadyRuns) (hplan : operation ≠ .dispatchPlannerRun) :
    Respects (NewRuns P) (handler env auth p operation) := by
  cases operation
  case dispatchReadyRuns => exact (hruns rfl).elim
  case dispatchPlannerRun => exact (hplan rfl).elim
  all_goals (dsimp only [handler]; infer_instance)

/-! ### Runs of one task -/

instance createExecuteRun_respects {r : RunIdentity} {attempt : Nat} :
    Respects (NewRuns (· = taskId)) (createExecuteRun env auth taskId task r attempt) := by
  have hadd : Respects (NewRuns (· = taskId))
      (add Refs.agentRuns r.runId (createdRun env taskId task r attempt)) := Arrivals.insert rfl
  rw [createExecuteRun]
  infer_instance

instance dispatchUnit_respects {version : Nat} {node : RawNode} {wu : WorkUnitExecutionRow}
    {workspace : Option (String × WorkspaceRow)} {created : List String} :
    Respects (NewRuns (· = taskId))
      (dispatchUnit env auth taskId version node wu workspace created) := by
  rw [dispatchUnit]
  infer_instance

instance dispatchNode_respects {version globalActive taskActive : Nat} {edges : List RawEdge}
    {created : List String} {node : RawNode} :
    Respects (NewRuns (· = taskId))
      (dispatchNode env auth taskId version edges globalActive taskActive created node) := by
  rw [dispatchNode]
  exact .seq inferInstance fun _ ↦ by split <;> infer_instance

instance dispatchPlanNodes_respects :
    Respects (NewRuns (· = taskId)) (dispatchPlanNodes env auth p taskId) := by
  rw [dispatchPlanNodes]
  exact .seq inferInstance fun _ ↦ by split <;> infer_instance

instance createPlanRun_respects {sessionId : String} {session : PlannerSessionRow} :
    Respects (NewRuns (· = taskId))
      (createPlanRun env auth p taskId task sessionId session) := by
  have hadd (runId manifestId : String) : Respects (NewRuns (· = taskId)) (add Refs.agentRuns runId
      (planRun env taskId task sessionId runId manifestId p.resumedFromRunId)) :=
    Arrivals.insert rfl
  rw [createPlanRun]
  infer_instance

instance dispatchSessionRun_respects {sessionId : String} :
    Respects (NewRuns (· = taskId)) (dispatchSessionRun env auth p taskId sessionId) := by
  rw [dispatchSessionRun]
  refine .seq inferInstance fun task ↦ .seq inferInstance fun db ↦ ?_
  refine .seq inferInstance fun session ↦ ?_
  refine .seq inferInstance fun _ ↦ .seq inferInstance fun _ ↦ ?_
  split <;> infer_instance

/-! ### Commands -/

/-- A command creates runs only for a task that may be dispatched. -/
theorem dispatchable {operation : Operation} {result : CommandResult}
    (h : handler env auth p operation s = .ok (result, s')) :
    NewRuns (fun t ↦ ∃ task version contract, Dispatchable auth p s t task version contract)
      s s' := by
  have howned {taskId : String} {task : TaskRow} {version : Nat} {contract : ContractRow}
      (hneeds : Dispatchable auth p s taskId task version contract)
      (hnew : NewRuns (· = taskId) s s') :
      NewRuns (fun t ↦ ∃ task version contract, Dispatchable auth p s t task version contract)
        s s' := by
    refine Arrivals.mono (fun _ f howner ↦ ⟨task, version, contract, ?_⟩) hnew
    rwa [howner]
  by_cases hruns : operation = .dispatchReadyRuns
  · subst hruns
    rcases dispatchReadyRuns_ok h with rfl | ⟨taskId, task, version, contract, hneeds, hrest⟩
    · exact Preord.refl _
    · refine howned hneeds ?_
      rcases hrest with hbudget | hnodes
      · exact Respects.rel hbudget
      · exact Respects.rel hnodes
  · by_cases hplan : operation = .dispatchPlannerRun
    · subst hplan
      rcases dispatchPlannerRun_ok h with rfl | ⟨taskId, task, version, contract, hneeds, hrest⟩
      · exact Preord.refl _
      · obtain ⟨sessionId, u, hsession, hrun⟩ := hrest
        refine howned hneeds ?_
        have hfirst : NewRuns (· = taskId) s u := by
          rcases hsession with rfl | hbump
          · exact Preord.refl _
          · exact Respects.rel hbump
        exact Preord.trans hfirst (Respects.rel hrun)
    · exact (handler_respects hruns hplan).rel h

/-- A command creates no run for a task that a gate freezes. -/
theorem frozen {operation : Operation} {result : CommandResult}
    (hgate : hasBlockingGate s t = true)
    (h : handler env auth p operation s = .ok (result, s')) : NewRuns (· ≠ t) s s' := by
  refine (dispatchable h).mono fun _ f hf ↦ ?_
  obtain ⟨task, version, contract, hneeds⟩ := hf
  intro howner
  rw [← howner, hneeds.gate] at hgate
  cases hgate

end NewRuns

/-! ## Plans -/

/-- All tables but those of the plans. -/
abbrev besidePlans : List Relation :=
  [.tasks, .contracts, .activeContractMarkers, .explanations, .decisions, .gates, .workUnitSpecs,
    .workUnitExecutions, .plannerSessions, .agentRuns, .activeExecuteRunMarkers,
    .activePlanRunMarkers, .workspaces, .contextManifests, .sideEffects, .events, .inbox, .outbox,
    .idempotencyKeys, .resultSnapshots, .artifacts, .acceptanceEvidence, .agentProfiles,
    .runInputs, .toolInvocations, .contextAppends, .taskMessages]

/-- The plans of a task, and which of them is ACTIVE, stay the same. -/
structure PlansKept (t : String) (s s' : DB) : Prop where
  plans : ∀ version, s'.plans.find? (t, version) = s.plans.find? (t, version)
  marker : s'.activePlanMarkers.find? t = s.activePlanMarkers.find? t

namespace PlansKept

instance : Preord (PlansKept t) where
  refl _ := ⟨fun _ ↦ rfl, rfl⟩
  trans h h' := ⟨fun v ↦ (h'.plans v).trans (h.plans v), h'.marker.trans h.marker⟩

theorem of_writes (h : Writes besidePlans s s') : PlansKept t s s' where
  plans version := congrArg (·.find? (t, version)) ((h .plans).2 (by decide)).symm
  marker := congrArg (·.find? t) ((h .activePlanMarkers).2 (by decide)).symm

instance : Frame (PlansKept t) where
  still h := of_writes (h.mono fun _ hn ↦ (List.not_mem_nil hn).elim)

instance {n : Relation} [h : Touches n besidePlans] : Indifferent (PlansKept t) n where
  writes hw := of_writes (hw.mono fun _ hm ↦ List.mem_singleton.mp hm ▸ h.mem)

instance background : Background (PlansKept t) := inferInstance

/-- A plan is installed for one task. -/
theorem installPlan_respects {version : Nat} {nodes : List RawNode} {edges : List RawEdge}
    (hne : taskId ≠ t) :
    Respects (PlansKept t) (installPlan env taskId task version nodes edges) where
  rel {s result s'} h := by
    rw [installPlan, Tx.get_bind_ok] at h
    obtain ⟨_, t₁, hretire, h₁⟩ := Tx.bind_ok.mp h
    obtain ⟨_, t₂, hplan, h₂⟩ := Tx.bind_ok.mp h₁
    obtain ⟨_, t₃, hmarker, h₃⟩ := Tx.bind_ok.mp h₂
    have hrest : PlansKept t t₃ s' := by
      obtain ⟨_, t₄, htask, hpure⟩ := Tx.bind_ok.mp h₃
      obtain ⟨-, rfl⟩ := Tx.pure_ok.mp hpure
      exact Respects.rel htask
    have hretired : PlansKept t s t₁ := by
      rcases Tx.withSome_ok.mp hretire with ⟨marker, -, hboth⟩ | ⟨-, rfl⟩
      · obtain ⟨_, u, hupdate, hdelete⟩ := Tx.bind_ok.mp hboth
        obtain rfl := Ref.update_ok.mp hupdate
        obtain rfl := Ref.delete_ok.mp hdelete
        refine ⟨fun version ↦ Table.find?_modify_of_ne ?_ _ _, ?_⟩
        · exact fun h ↦ hne (congrArg Prod.fst h).symm
        · exact (Table.find?_erase _ _ _).trans (if_neg hne.symm)
      · exact Preord.refl _
    have hinstalled : PlansKept t t₁ t₃ := by
      obtain ⟨hnone, rfl⟩ := Ref.insert_ok.mp hplan
      obtain ⟨hnone', rfl⟩ := Ref.insert_ok.mp hmarker
      refine ⟨fun version ↦ (Table.find?_insert hnone _ _).trans (if_neg ?_),
        (Table.find?_insert hnone' _ _).trans (if_neg hne.symm)⟩
      exact fun h ↦ hne (congrArg Prod.fst h).symm
    exact Preord.trans hretired (Preord.trans hinstalled hrest)

theorem activatePlan_respects {r : PlanRequest} (hne : r.taskId ≠ t) :
    Respects (PlansKept t) (activatePlan env auth r) := by
  have hinstall (task : TaskRow) (version : Nat) : Respects (PlansKept t)
      (installPlan env r.taskId task version r.nodes r.edges) := installPlan_respects hne
  rw [activatePlan]
  infer_instance

end PlansKept

/-- A command activates a plan of a task, as far as the commands ask. -/
def ActivatesPlan (s : DB) (t : String) : Label → Prop
  | .command _ r => ∃ plan task version contract, Asks r.auth r.payload s r.operation plan ∧
      plan.taskId = t ∧ PlanAdmitted r.auth s plan task version contract
  | _ => False

namespace PlansKept

/-- An activation that is not one of a plan of the task leaves its plans. -/
theorem of_activatePlan {r : PlanRequest} {n : Nat} {operation : Operation}
    {result : CommandResult} (hasks : Asks auth p s operation r)
    (hnot : ¬∃ plan task version contract, Asks auth p s operation plan ∧ plan.taskId = t ∧
      PlanAdmitted auth s plan task version contract)
    (h : activatePlan env auth r { s with drawn := n } = .ok (result, s')) :
    PlansKept t s s' := by
  have hne : r.taskId ≠ t := by
    intro htask
    obtain ⟨task, version, contract, hadmitted⟩ := activatePlan_ok h
    exact hnot ⟨r, task, version, contract, hasks, htask, hadmitted.of_drawn⟩
  have hdrawn : PlansKept t s { s with drawn := n } := Frame.still (writes_drawn _ _)
  exact Preord.trans hdrawn ((activatePlan_respects hne).rel h)

theorem of_handler {operation : Operation} {result : CommandResult}
    (hnot : ¬∃ plan task version contract, Asks auth p s operation plan ∧ plan.taskId = t ∧
      PlanAdmitted auth s plan task version contract)
    (h : handler env auth p operation s = .ok (result, s')) : PlansKept t s s' := by
  cases hactivates : operation.activates
  case true =>
    rcases handler_activates hactivates h with ⟨r, n, hasks, hplan⟩ | hevents | ⟨_, hpropose⟩
    · exact of_activatePlan hasks hnot hplan
    · exact Indifferent.writes hevents
    · exact Respects.rel hpropose
  case false =>
    cases operation
    all_goals first
      | exact absurd hactivates (by decide)
      | dsimp only [handler] at h
        exact Respects.rel h

end PlansKept

/-! ## Checks -/

/-- A claimed row is about to do something for a task: to start a run of it or to send an effect of
it. -/
def OutboxItem.ActsFor (db : DB) (t : String) (item : OutboxItem) : Prop :=
  match item.command with
  | .agentStart payload =>
    item.taskId = t ∨ ∃ run, db.agentRuns.find? payload.runId = some run ∧ run.taskId = t
  | .sideEffectDispatch payload =>
    item.taskId = t ∨
      ∃ effect, db.sideEffects.find? payload.effectId = some effect ∧ effect.taskId = t
  | .agentStop _ _ => False

/-- A start belongs to the task of its run. -/
theorem startSendAllowed_frozen {row : OutboxRow} {item : OutboxItem} {payload : StartPayload}
    (hinv : StartInv s) (hrow : WasClaimed s item.outboxId item.taskId item.command row)
    (hcommand : item.command = .agentStart payload) (hacts : item.ActsFor s t)
    (hcheck : startSendAllowed env item.outboxId payload.runId s = .ok (true, s')) :
    hasBlockingGate s t = false := by
  obtain ⟨-, row', run, task, hrow', -, hallowed⟩ := startSendAllowed_true hcheck
  obtain rfl := Option.some.inj (hrow.found.symm.trans hrow')
  have htask : row.taskId = t := by
    rw [OutboxItem.ActsFor, hcommand] at hacts
    rcases hacts with hitem | ⟨run', hrun', howner⟩
    · exact hrow.sameTask.trans hitem
    · obtain ⟨run'', hrun'', howner'⟩ := hinv.owned hrow.found (hrow.sameCommand.trans hcommand)
      obtain rfl := Option.some.inj (hrun'.symm.trans hrun'')
      exact howner'.symm.trans howner
  exact htask ▸ hallowed.gate

/-- A dispatch belongs to the task of its effect. -/
theorem precheck_frozen {row : OutboxRow} {item : OutboxItem} {payload : DispatchPayload}
    {Sent : String → String → Prop} (hinv : DispatchInv Sent s)
    (hrow : WasClaimed s item.outboxId item.taskId item.command row)
    (hcommand : item.command = .sideEffectDispatch payload) (hacts : item.ActsFor s t)
    (hcheck : precheck env item payload.effectId s = .ok (true, s')) :
    hasBlockingGate s t = false := by
  obtain ⟨-, taskId, row', effect, task, hpassed⟩ := precheck_true hcheck
  obtain ⟨effect', heffect', howner, -⟩ :=
    hinv.fits hrow.found (hrow.sameCommand.trans hcommand)
  obtain rfl := Option.some.inj (hpassed.found.symm.trans heffect')
  have hitem : effect.taskId = item.taskId := howner.trans hrow.sameTask
  have hchecked : taskId = effect.taskId := by
    rcases hpassed.owner with htask | ⟨-, htask⟩
    · exact htask.trans hitem.symm
    · exact htask
  have htask : effect.taskId = t := by
    rw [OutboxItem.ActsFor, hcommand] at hacts
    rcases hacts with hacts | ⟨effect', heffect', hacts⟩
    · exact hitem.trans hacts
    · obtain rfl := Option.some.inj (hpassed.found.symm.trans heffect')
      exact hacts
  exact htask ▸ hchecked ▸ hpassed.sendable.gate

/-- No claimed row passes its last check for a task that a gate freezes. -/
theorem lastCheck_frozen {id : Nat} {item : OutboxItem} {db : DB} (hw : system.Reachable w)
    (hgate : hasBlockingGate w.db t = true) (hthread : w.threads.find? id = some ⟨item, .claimed⟩)
    (hacts : item.ActsFor w.db t) : World.lastCheck env item w.db ≠ .ok (true, db) := by
  intro hcheck
  obtain ⟨hthreads, hsends⟩ := (sendInv_invariant fun _ _ ↦ True).of_reachable hw
  have hstarts : StartInv w.db := (startInv_invariant fun _ _ ↦ True).of_reachable hw
  obtain ⟨row, hrow⟩ := hthreads.row hthread
  have hfree : hasBlockingGate w.db t = false := by
    cases hcommand : item.command with
    | agentStart payload =>
      rw [World.lastCheck, hcommand] at hcheck
      exact startSendAllowed_frozen hstarts hrow hcommand hacts hcheck
    | sideEffectDispatch payload =>
      rw [World.lastCheck, hcommand] at hcheck
      exact precheck_frozen hsends.dispatch hrow hcommand hacts hcheck
    | agentStop runId reason =>
      rw [OutboxItem.ActsFor, hcommand] at hacts
      exact hacts.elim
  rw [hgate] at hfree
  cases hfree

/-! ## The freeze -/

/-- A gate is open while a minimal plan is activated. -/
def sampleGated : List Label :=
  let human := AuthContext.ofHuman "owner"
  [ .ask human .createTask { title := some "task" },
    .ask human .submitContract { taskId := some "task_i" },
    .ask human .approveContract { decisionId := some "dec_iiii" },
    .ask human .openBlockingGate { taskId := some "task_i" } ]

def sampleActivation : Label :=
  .ask (.ofHuman "owner") .activateMinimalPlan
    { taskId := some "task_i", workUnitId := some "unit" }

/-- Every step that activates no plan of a task leaves the task frozen while a gate of it is
unresolved. -/
theorem open_gate_freezes {w w' : World} {l : Label} {t : String} (hw : system.Reachable w)
    (hgate : hasBlockingGate w.db t = true) (hstep : system.step w l = some w')
    (hok : ¬ActivatesPlan w.db t l) :
    (∀ runId run, w'.db.agentRuns.find? runId = some run → run.taskId = t →
      ∃ run₀, w.db.agentRuns.find? runId = some run₀) ∧
    (∀ env id item db, w.threads.find? id = some ⟨item, .claimed⟩ → item.ActsFor w.db t →
      World.lastCheck env item w.db ≠ .ok (true, db)) ∧
    (∀ version plan, w'.db.plans.find? (t, version) = some plan → plan.status = .active →
      ∃ plan₀, w.db.plans.find? (t, version) = some plan₀ ∧ plan₀.status = .active) ∧
    w'.db.activePlanMarkers.find? t = w.db.activePlanMarkers.find? t := by
  have hboth : NewRuns (· ≠ t) w.db w'.db ∧ PlansKept t w.db w'.db := by
    have hrecorded {u u' : DB} (h : Writes requestRecords u u') :
        NewRuns (· ≠ t) u u' ∧ PlansKept t u u' :=
      ⟨.of_read ((h .agentRuns).2 (by decide)), .of_writes (h.mono (by decide))⟩
    cases l
    case command env r =>
      rcases step_command hstep with hrecords | ⟨u, u', result, hran, hrecords⟩
      · exact hrecorded hrecords
      · obtain ⟨n, rfl⟩ := hran.start
        obtain ⟨hruns, hplans⟩ := hrecorded hrecords
        have hdrawn : Writes [] w.db { w.db with drawn := n } := writes_drawn _ _
        refine ⟨Preord.trans (Frame.still hdrawn) (Preord.trans (NewRuns.frozen hgate hran.run)
          hruns), Preord.trans (Frame.still hdrawn) (Preord.trans (.of_handler ?_ hran.run) hplans)⟩
        rintro ⟨plan, task, version, contract, hasks, htask, hadmitted⟩
        exact hok ⟨plan, task, version, contract, hasks.of_drawn, htask, hadmitted.of_drawn⟩
    all_goals
      exact ⟨step_background Preord.refl rfl hstep, step_background Preord.refl rfl hstep⟩
  obtain ⟨hruns, hplans⟩ := hboth
  refine ⟨fun runId run hrun howner ↦ ?_, fun env id item db hthread hacts ↦ ?_,
    fun version plan hplan hactive ↦ ?_, hplans.marker⟩
  · rcases hruns runId run hrun with ⟨run₀, hrun₀, -⟩ | hne
    · exact ⟨run₀, hrun₀⟩
    · exact absurd howner hne
  · exact lastCheck_frozen hw hgate hthread hacts
  · exact ⟨plan, (hplans.plans version).symm.trans hplan, hactive⟩

/-- Whether a gate of the sample is open, and the version of its ACTIVE plan. -/
def sampleFreeze (w : World) : Bool × Option ActivePlanMarker :=
  (hasBlockingGate w.db "task_i", w.db.activePlanMarkers.find? "task_i")

theorem sampleActivation_view :
    (system.exec system.init sampleGated).bind (fun w ↦
      (system.step w sampleActivation).map fun w' ↦ (sampleFreeze w, sampleFreeze w')) =
      some ((true, none), (true, some ⟨1⟩)) := by
  decide +kernel

/-- The gate of the sample is open before and after the step in which a plan becomes ACTIVE. -/
theorem sampleActivation_thaws :
    ∃ w w', system.Reachable w ∧ system.step w sampleActivation = some w' ∧
      hasBlockingGate w.db "task_i" = true ∧ hasBlockingGate w'.db "task_i" = true ∧
      w.db.activePlanMarkers.find? "task_i" = none ∧
      w'.db.activePlanMarkers.find? "task_i" = some ⟨1⟩ := by
  obtain ⟨w, hexec, hrest⟩ := Option.bind_eq_some_iff.mp sampleActivation_view
  obtain ⟨w', hstep, hview⟩ := Option.map_eq_some_iff.mp hrest
  simp only [sampleFreeze, Prod.mk.injEq] at hview
  obtain ⟨⟨hgate, hnone⟩, hgate', hsome⟩ := hview
  exact ⟨w, w', .of_exec hexec, hstep, hgate, hgate', hnone, hsome⟩

/-- The sample is frozen while its runs are asked for. -/
theorem open_gate_freezes_sampleGated :
    ∃ w w', system.exec system.init sampleGated = some w ∧
      system.step w (.ask (.ofHuman "owner") .dispatchReadyRuns { taskId := some "task_i" }) =
        some w' ∧
      ∀ runId run, w'.db.agentRuns.find? runId = some run → run.taskId = "task_i" →
        ∃ run₀, w.db.agentRuns.find? runId = some run₀ := by
  obtain ⟨w, hexec, hrest⟩ := Option.bind_eq_some_iff.mp sampleActivation_view
  obtain ⟨w₁, -, hview⟩ := Option.map_eq_some_iff.mp hrest
  simp only [sampleFreeze, Prod.mk.injEq] at hview
  refine ⟨w, _, hexec, rfl, (open_gate_freezes (.of_exec hexec) hview.1.1
    (l := .ask (.ofHuman "owner") .dispatchReadyRuns { taskId := some "task_i" }) rfl ?_).1⟩
  rintro ⟨plan, task, version, contract, hasks, -⟩
  cases hasks

end HibikiCore
