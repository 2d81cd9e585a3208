import HibikiCore.Safety.Cancellation
import HibikiCore.Safety.Endings
import HibikiCore.Safety.Schedules
import HibikiCore.Safety.Tasks
import HibikiCore.Safety.Verdicts

/-!
# What a completed task has behind it

A task is completed by the acceptance of a result, and the acceptance checks a good deal at once. It
does not ask that the units of the plan are done, only that none of them has work left to do: units
that were given up are passed over. That they are done follows from what waits. A result is prepared
when all units of the ACTIVE plan are done, and after that a unit is only given up by an activation,
which supersedes the acceptance, or by a cancellation, which no acceptance survives.

Of the effects the acceptance asks only whether one is in doubt: one that a thread has claimed and
is about to send is passed over.
-/

namespace HibikiCore

set_option synthInstance.maxSize 100000000
set_option synthInstance.maxHeartbeats 400000

variable {env : Env} {auth : AuthContext} {p : Payload} {task : TaskRow} {run : AgentRunRow}
  {flushed s s' : DB} {w w' : World} {l : Label} {taskId runId wuId outboxId t : String}
  {result : CommandResult} {T : String → Prop}

/-! ## Units that are given up -/

/-- A unit that has ended without a result. -/
def WorkUnitStatus.isAbandoned : WorkUnitStatus → Bool
  | .failed | .cancelled => true
  | .pending | .running | .blocked | .done => false

theorem WorkUnitStatus.done_of_ended {status : WorkUnitStatus} (hended : status.isTerminal = true)
    (hneeded : status.isAbandoned = false) : status = .done := by
  cases status <;> first
    | rfl
    | exact absurd hended (by decide)
    | exact absurd hneeded (by decide)

/-- Only units of some tasks come to be abandoned. -/
abbrev UnitsAbandoned (T : String → Prop) : DB → DB → Prop :=
  Enters Refs.workUnitExecutions (fun u ↦ u.status.isAbandoned = true ∧ ¬T u.taskId) fun _ ↦ False

/-- A status that an update gives to work units, and that abandons none. -/
class NeededStatus (c : WorkUnitExecutionRow → WorkUnitStatus) : Prop where
  abandoned : ∀ u, (c u).isAbandoned = true → u.status.isAbandoned = true

instance : NeededStatus fun u ↦ u.status := ⟨fun _ ↦ id⟩

instance : NeededStatus fun _ ↦ .pending := ⟨fun _ h ↦ by cases h⟩

instance : NeededStatus fun _ ↦ .running := ⟨fun _ h ↦ by cases h⟩

instance : NeededStatus fun _ ↦ .blocked := ⟨fun _ h ↦ by cases h⟩

instance : NeededStatus fun _ ↦ .done := ⟨fun _ h ↦ by cases h⟩

instance {q : WorkUnitExecutionRow → Prop} [∀ u, Decidable (q u)]
    {c d : WorkUnitExecutionRow → WorkUnitStatus} [hc : NeededStatus c] [hd : NeededStatus d] :
    NeededStatus fun u ↦ if q u then c u else d u where
  abandoned u h := by
    split at h
    · exact hc.abandoned u h
    · exact hd.abandoned u h

/-- An update of a work unit that does not abandon it. -/
class NeededUnit (f : WorkUnitExecutionRow → WorkUnitExecutionRow) : Prop where
  abandoned : ∀ u, (f u).status.isAbandoned = true → u.status.isAbandoned = true

instance {a : WorkUnitExecutionRow → String} {b e : WorkUnitExecutionRow → Nat}
    {c : WorkUnitExecutionRow → WorkUnitStatus} {d g j : WorkUnitExecutionRow → Option String}
    {f : WorkUnitExecutionRow → Option Time} {h : WorkUnitExecutionRow → Option BlockedReason}
    {i : WorkUnitExecutionRow → Option Verdict} [hc : NeededStatus c] :
    NeededUnit fun u ↦ ⟨a u, b u, c u, d u, e u, f u, g u, h u, i u, j u⟩ :=
  ⟨hc.abandoned⟩

namespace UnitsAbandoned

theorem owner {f : WorkUnitExecutionRow → WorkUnitExecutionRow} (hf : ∀ u, SameFixed u (f u))
    (u : WorkUnitExecutionRow) : (f u).taskId = u.taskId := hf u

instance update {k : String} {f : WorkUnitExecutionRow → WorkUnitExecutionRow}
    {hf : ∀ u, SameFixed u (f u)} [hn : NeededUnit f] :
    Respects (UnitsAbandoned T) (Refs.workUnitExecutions.update k f hf : Core Unit) :=
  Enters.update fun u hu ↦ .inl ⟨hn.abandoned u hu.1, owner hf u ▸ hu.2⟩

instance updateWhere {q : String → WorkUnitExecutionRow → Bool}
    {f : WorkUnitExecutionRow → WorkUnitExecutionRow} {hf : ∀ u, SameFixed u (f u)}
    [hn : NeededUnit f] :
    Respects (UnitsAbandoned T) (Refs.workUnitExecutions.updateWhere q f hf : Core Unit) :=
  Enters.updateWhere fun _ u _ hu ↦ .inl ⟨hn.abandoned u hu.1, owner hf u ▸ hu.2⟩

instance clearRunOccupancy_respects {release : Bool} :
    Respects (UnitsAbandoned T) (clearRunOccupancy runId release) := by
  rw [clearRunOccupancy]
  infer_instance

instance rebindUnit_respects {node : RawNode} {wu : WorkUnitExecutionRow} :
    Respects (UnitsAbandoned T) (rebindUnit node wu) := by
  rw [rebindUnit]
  infer_instance

instance installUnit_respects {node : RawNode} :
    Respects (UnitsAbandoned T) (installUnit taskId node) := by
  have hadd : Respects (UnitsAbandoned T)
      (add Refs.workUnitExecutions node.workUnitId (freshUnit taskId node.version)) :=
    Enters.insert fun h ↦ by obtain ⟨hlost, -⟩ := h; cases hlost
  rw [installUnit]
  exact .seq inferInstance fun _ ↦ by split <;> infer_instance

instance recordSupersededResult_respects {result : RunResult} {ref : String} :
    Respects (UnitsAbandoned T) (recordSupersededResult env auth runId wuId run result ref) := by
  rw [recordSupersededResult]
  infer_instance

instance recomputeRunnableState_respects :
    Respects (UnitsAbandoned T) (recomputeRunnableState env taskId) := by
  rw [recomputeRunnableState]
  dsimp only [transitionWorkUnit_blockCleared]
  infer_instance

instance recoverWorkUnitAfterLostRun_respects :
    Respects (UnitsAbandoned T) (recoverWorkUnitAfterLostRun env runId) := by
  rw [recoverWorkUnitAfterLostRun]
  dsimp only [transitionWorkUnit_runBlocked, transitionWorkUnit_runRetryableFailed]
  infer_instance

instance revokeUnsentStart_respects :
    Respects (UnitsAbandoned T) (revokeUnsentStart env outboxId runId task) := by
  rw [revokeUnsentStart]
  infer_instance

instance runtimeQuiescent_respects :
    Respects (UnitsAbandoned T) (runtimeQuiescent env auth p) := by
  rw [runtimeQuiescent]
  infer_instance

instance resumeTask_respects : Respects (UnitsAbandoned T) (resumeTask env auth p) := by
  rw [resumeTask]
  infer_instance

instance blockGatedRun_respects {reason : WaitingReason} :
    Respects (UnitsAbandoned T) (blockGatedRun env flushed taskId runId reason) := by
  rw [blockGatedRun]
  infer_instance

instance settleStoppedRun_respects {reason : String} :
    Respects (UnitsAbandoned T) (settleStoppedRun env runId run reason) := by
  rw [settleStoppedRun]
  infer_instance

instance createExecuteRun_respects {r : RunIdentity} {attempt : Nat} :
    Respects (UnitsAbandoned T) (createExecuteRun env auth taskId task r attempt) := by
  rw [createExecuteRun]
  dsimp only [transitionWorkUnit_runStarted]
  infer_instance

instance blockContextOverflow_respects {manifest : ContextManifest} :
    Respects (UnitsAbandoned T) (blockContextOverflow env auth taskId wuId manifest) := by
  rw [blockContextOverflow]
  infer_instance

instance dispatchUnit_respects {version : Nat} {node : RawNode} {wu : WorkUnitExecutionRow}
    {workspace : Option (String × WorkspaceRow)} {created : List String} :
    Respects (UnitsAbandoned T)
      (dispatchUnit env auth taskId version node wu workspace created) := by
  rw [dispatchUnit]
  infer_instance

instance dispatchNode_respects {version globalActive taskActive : Nat} {edges : List RawEdge}
    {created : List String} {node : RawNode} :
    Respects (UnitsAbandoned T)
      (dispatchNode env auth taskId version edges globalActive taskActive created node) := by
  rw [dispatchNode]
  exact .seq inferInstance fun _ ↦ by split <;> infer_instance

instance applyResultToUnit_respects {result : RunResult} {ref : String} {outcome : Outcome} :
    Respects (UnitsAbandoned T) (applyResultToUnit env taskId runId wuId result ref outcome) := by
  rw [applyResultToUnit]
  dsimp only [transitionWorkUnit_runBlocked, transitionWorkUnit_runCompleted]
  infer_instance

instance background : Background (UnitsAbandoned T) := inferInstance

/-- Every command but those that cancel a task or install a plan. -/
theorem handler_respects {operation : Operation} (hcancel : operation ≠ .cancelTask)
    (hplan : operation.activates = false) :
    Respects (UnitsAbandoned T) (handler env auth p operation) := by
  cases operation
  case cancelTask => exact (hcancel rfl).elim
  all_goals first
    | exact absurd hplan (by decide)
    | (dsimp only [handler]; infer_instance)

/-- Tasks may give up their own units. -/
theorem of_update {f : WorkUnitExecutionRow → WorkUnitExecutionRow} {hf : ∀ u, SameFixed u (f u)}
    (howner : ∀ u, s.workUnitExecutions.find? wuId = some u → T u.taskId)
    (h : (Refs.workUnitExecutions.update wuId f hf : Core Unit) s = .ok ((), s')) :
    UnitsAbandoned T s s' := by
  refine Enters.of_update (fun u hu hlost ↦ ?_) h
  rw [owner hf] at hlost
  exact absurd (howner u hu) hlost.2

theorem removeUnit_abandons (howner : ∀ u, s.workUnitExecutions.find? wuId = some u → T u.taskId)
    (h : removeUnit env flushed taskId wuId s = .ok ((), s')) : UnitsAbandoned T s s' := by
  rw [removeUnit, Tx.get_bind_ok] at h
  rcases Tx.withSome_ok.mp h with ⟨wu, hwu, h₁⟩ | ⟨-, rfl⟩
  · rcases Tx.when_ok.mp h₁ with ⟨-, h₂⟩ | ⟨-, rfl⟩
    · rcases Tx.ite_ok.mp h₂ with ⟨-, hcancel⟩ | ⟨-, h₃⟩
      · exact of_update howner hcancel
      · obtain ⟨_, t, hstop, h₄⟩ := Tx.bind_ok.mp h₃
        obtain ⟨_, u, hcancel, hdrop⟩ := Tx.bind_ok.mp h₄
        have hpersist : Persists s t := Respects.rel hstop
        obtain ⟨wu', hwu', hsame⟩ := hpersist.unit hwu
        have howner' : ∀ a, t.workUnitExecutions.find? wuId = some a → T a.taskId := by
          intro a ha
          obtain rfl := Option.some.inj (hwu'.symm.trans ha)
          exact hsame ▸ howner wu hwu
        exact Preord.trans (Respects.rel hstop)
          (Preord.trans (of_update howner' hcancel) (Respects.rel hdrop))
    · exact Preord.refl _
  · exact Preord.refl _

/-- Units of a task stay units of the task. -/
theorem owner_kept {u u' : WorkUnitExecutionRow} (hpersist : Persists s s')
    (hu : s.workUnitExecutions.find? wuId = some u) (howner : u.taskId = taskId)
    (hu' : s'.workUnitExecutions.find? wuId = some u') : u'.taskId = taskId := by
  obtain ⟨u'', hu'', hsame⟩ := hpersist.unit hu
  obtain rfl := Option.some.inj (hu'.symm.trans hu'')
  exact hsame.trans howner

/-- A loop over units that were units of a task, with rounds that give up at most their own unit,
gives up units of the task only. -/
theorem of_each {units : DB} {q : String → WorkUnitExecutionRow → Bool} {round : String → Core Unit}
    [∀ k, Respects Persists (round k)] (hq : ∀ k u, q k u = true → u.taskId = taskId)
    (hround : ∀ k v v', (∀ u, v.workUnitExecutions.find? k = some u → u.taskId = taskId) →
      round k v = .ok ((), v') → UnitsAbandoned (· = taskId) v v')
    (hpersist : Persists units s)
    (h : Tx.each ((units.workUnitExecutions.select q).map (·.1)) round s = .ok ((), s')) :
    UnitsAbandoned (· = taskId) s s' := by
  have hloop : UnitsAbandoned (· = taskId) s s' ∧ Persists units s' := by
    refine Tx.each_induct (P := fun v ↦ UnitsAbandoned (· = taskId) s v ∧ Persists units v)
      (fun k hmem v v' hv hok ↦ ?_) ⟨Preord.refl _, hpersist⟩ h
    obtain ⟨r, hr, rfl⟩ := List.mem_map.mp hmem
    obtain ⟨hfind, hp⟩ := Table.mem_select.mp hr
    have howner := hq _ _ hp
    have hown := hround _ v v' (fun _ hu ↦ owner_kept hv.2 hfind howner hu) hok
    exact ⟨Preord.trans hv.1 hown, Preord.trans hv.2 (Respects.rel hok)⟩
  exact hloop.1

/-- What a plan leaves out are units of its task. -/
instance alignUnits_respects {objective : Option String} {title : String}
    {contract : ContractContent} {nodes : List RawNode} :
    Respects (UnitsAbandoned (· = taskId))
      (alignUnits env flushed taskId objective title contract nodes) where
  rel {s _ s'} h := by
    rw [alignUnits] at h
    obtain ⟨_, t, hinstall, hrest⟩ := Tx.bind_ok.mp h
    rw [Tx.get_bind_ok] at hrest
    have hremoved : UnitsAbandoned (· = taskId) t s' := by
      refine of_each (fun _ u hp ↦ ?_) (fun _ _ _ howner hok ↦ ?_) (Preord.refl _) hrest
      · simp only [Bool.and_eq_true, beq_iff_eq] at hp
        exact hp.1
      · exact removeUnit_abandons howner hok
    exact Preord.trans (Respects.rel hinstall) hremoved

end UnitsAbandoned

theorem updatedTask {f : TaskRow → TaskRow} {hf : ∀ a, SameFixed a (f a)}
    (htask : s.tasks.find? taskId = some task)
    (h : (Refs.tasks.update taskId f hf : Core Unit) s = .ok ((), s')) :
    s'.tasks.find? taskId = some (f task) := by
  obtain rfl := Ref.update_ok.mp h
  exact (Table.find?_modify_self _ _ _).trans (congrArg _ htask)

/-- What a change of the state of a task finds and leaves. -/
theorem setTaskState_moves {event : TaskEvent} {reason : Option WaitingReason}
    (h : setTaskState env taskId event reason s = .ok ((), s')) :
    ∃ task next, s.tasks.find? taskId = some task ∧
      taskTransitions task.state event = some next ∧
      ∃ task', s'.tasks.find? taskId = some task' ∧ task'.state = next ∧
        task'.finalResultRefs = task.finalResultRefs := by
  obtain ⟨task, t₁, hget, h₁⟩ := Tx.bind_ok.mp h
  obtain ⟨htask, rfl⟩ := getTask_ok.mp hget
  obtain ⟨next, t₂, hrequire, hupdate⟩ := Tx.bind_ok.mp h₁
  obtain ⟨hnext, rfl⟩ := Tx.require_ok.mp hrequire
  exact ⟨task, next, htask, hnext, _, updatedTask htask hupdate, rfl, rfl⟩

/-- A task is being cancelled, or was. -/
def TaskState.isCancelled : TaskState → Bool
  | .cancelling | .aborted => true
  | _ => false

/-- The stored task is being cancelled, or was. -/
def CancelledTask (s : DB) (t : String) : Prop :=
  ∃ task, s.tasks.find? t = some task ∧ task.state.isCancelled = true

theorem cancelTask_abandons (h : cancelTask env auth p s = .ok (result, s')) :
    ∃ taskId, UnitsAbandoned (· = taskId) s s' ∧ CancelledTask s' taskId := by
  rw [cancelTask, Tx.get_bind_ok] at h
  obtain ⟨taskId, t₁, hkey, h₁⟩ := Tx.bind_ok.mp h
  obtain ⟨-, rfl⟩ := key_ok.mp hkey
  obtain ⟨task, t₂, hget, h₂⟩ := Tx.bind_ok.mp h₁
  obtain ⟨-, rfl⟩ := getTask_ok.mp hget
  obtain ⟨_, t₃, hmark, h₃⟩ := Tx.bind_ok.mp h₂
  obtain ⟨_, t₄, hstate, h₄⟩ := Tx.bind_ok.mp h₃
  obtain ⟨_, t₅, hrevoke, h₅⟩ := Tx.bind_ok.mp h₄
  obtain ⟨_, t₆, heffects, h₆⟩ := Tx.bind_ok.mp h₅
  obtain ⟨_, t₇, hunits, hrest⟩ := Tx.bind_ok.mp h₆
  have hmarked : Writes [.tasks] t₂ t₃ := Respects.rel hmark
  have hmoved : Writes [.tasks] t₃ t₄ := Respects.rel hstate
  have hrevoked : Writes revocationTables t₄ t₅ := Respects.rel hrevoke
  have hwalked : Writes [.sideEffects] t₅ t₆ := Respects.rel heffects
  have hended : Writes [.workUnitExecutions, .outbox, .events] t₆ s' := Respects.rel h₆
  have hbefore : UnitsAbandoned (· = taskId) t₂ t₆ :=
    Preord.trans (Indifferent.writes hmarked) (Preord.trans (Indifferent.writes hmoved)
      (Preord.trans (Respects.rel hrevoke) (Indifferent.writes hwalked)))
  have hpersist : Persists t₂ t₆ :=
    Preord.trans (Respects.rel hmark) (Preord.trans (Respects.rel hstate)
      (Preord.trans (Respects.rel hrevoke) (Respects.rel heffects)))
  have hloop : UnitsAbandoned (· = taskId) t₆ t₇ := by
    refine .of_each (fun _ u hp ↦ ?_) (fun _ _ _ howner hok ↦ ?_) hpersist hunits
    · simp only [Bool.and_eq_true, beq_iff_eq] at hp
      exact hp.1
    · exact .of_update howner hok
  refine ⟨taskId, Preord.trans hbefore (Preord.trans hloop (Respects.rel hrest)), ?_⟩
  obtain ⟨task₃, next, -, hnext, task₄, htask₄, rfl, -⟩ := setTaskState_moves hstate
  have htasks : t₄.tasks = s'.tasks :=
    ((hrevoked .tasks).2 (by decide)).trans
      (((hwalked .tasks).2 (by decide)).trans ((hended .tasks).2 (by decide)))
  refine ⟨task₄, htasks ▸ htask₄, ?_⟩
  revert hnext
  generalize task₄.state = next
  cases task₃.state <;> intro hnext <;> cases hnext <;> rfl

/-! ## Steps -/

theorem InstallsPlan.abandons {operation : Operation} {r : PlanRequest} {version : Nat}
    {contract : ContractRow}
    (h : InstallsPlan env auth p operation s s' r task version contract) :
    UnitsAbandoned (· = r.taskId) s s' := by
  obtain ⟨n, v, u₁, u₂, u₃, u₄, u, hstages, hrecords⟩ := h.stages
  have hdrawn : UnitsAbandoned (· = r.taskId) s { s with drawn := n } :=
    Frame.still (writes_drawn _ _)
  have hbefore : UnitsAbandoned (· = r.taskId) { s with drawn := n } u₂ :=
    Preord.trans (Respects.rel hstages.install) (Respects.rel hstages.supersede)
  have hafter : UnitsAbandoned (· = r.taskId) u₃ u :=
    Preord.trans (Respects.rel hstages.advance) (Indifferent.writes hstages.events)
  have hlast : UnitsAbandoned (· = r.taskId) u s' := .of_read ((hrecords .workUnitExecutions).2
    (by decide))
  exact Preord.trans hdrawn (Preord.trans hbefore
    (Preord.trans (Respects.rel hstages.align) (Preord.trans hafter hlast)))

/-- A command gives up units of a task whose plan it replaces, or that it cancels. -/
theorem handler_abandons {operation : Operation}
    (h : handler env auth p operation s = .ok (result, s')) :
    (∃ r task version contract, InstallsPlan env auth p operation s s' r task version contract) ∨
      ∃ T : String → Prop, UnitsAbandoned T s s' ∧ ∀ t, T t → CancelledTask s' t := by
  by_cases hcancel : operation = .cancelTask
  · subst hcancel
    obtain ⟨taskId, habandons, hcancelled⟩ := cancelTask_abandons h
    exact .inr ⟨_, habandons, fun _ ht ↦ ht ▸ hcancelled⟩
  · have hnone (hkept : UnitsAbandoned (fun _ ↦ False) s s') :
        ∃ T : String → Prop, UnitsAbandoned T s s' ∧ ∀ t, T t → CancelledTask s' t :=
      ⟨_, hkept, fun _ hfalse ↦ hfalse.elim⟩
    cases hactivates : operation.activates
    case false =>
      exact .inr (hnone ((UnitsAbandoned.handler_respects hcancel hactivates).rel h))
    case true =>
      rcases handler_activates hactivates h with ⟨r, n, hasks, hplan⟩ | hevents | ⟨_, hpropose⟩
      · exact .inl (InstallsPlan.of_request hasks hplan)
      · exact .inr (hnone (Indifferent.writes hevents))
      · exact .inr (hnone (Respects.rel hpropose))

/-- The units that a step gives up are of a task that no acceptance waits for, or that is being
cancelled. -/
theorem step_abandons (hstep : system.step w l = some w') :
    ∃ T : String → Prop, UnitsAbandoned T w.db w'.db ∧
      ∀ t, T t → NoneAsked t w'.db ∨ CancelledTask w'.db t := by
  cases l
  case command env request =>
    rcases step_command hstep with hrecords | ⟨u, u', result, hran, hrecords⟩
    · exact ⟨fun _ ↦ False, .of_read ((hrecords .workUnitExecutions).2 (by decide)),
        fun _ h ↦ h.elim⟩
    obtain ⟨n, rfl⟩ := hran.start
    rcases handler_abandons hran.run with ⟨r, task, version, contract, hinstall⟩ |
      ⟨T, habandons, hcancelled⟩
    · have hwhole := (hinstall.trans hrecords).of_drawn
      exact ⟨_, hwhole.abandons, fun _ ht ↦ .inl (ht ▸ hwhole.noneAsked)⟩
    · have hdrawn : UnitsAbandoned T w.db { w.db with drawn := n } :=
        Frame.still (writes_drawn _ _)
      have hafter : UnitsAbandoned T u' w'.db :=
        .of_read ((hrecords .workUnitExecutions).2 (by decide))
      refine ⟨T, Preord.trans hdrawn (Preord.trans habandons hafter), fun t ht ↦ .inr ?_⟩
      obtain ⟨task, htask, hstate⟩ := hcancelled t ht
      exact ⟨task, (hrecords .tasks).2 (by decide) ▸ htask, hstate⟩
  all_goals exact ⟨fun _ ↦ False, step_background Preord.refl rfl hstep, fun _ h ↦ h.elim⟩

/-! ## Acceptances that wait -/

/-- A task has an ACTIVE plan, of which no unit was given up. -/
def PlanKept (s : DB) (t : String) : Prop :=
  ∃ v plan, s.activePlanMarkers.find? t = some ⟨v⟩ ∧ s.plans.find? (t, v) = some plan ∧
    ∀ node ∈ plan.nodes, ∀ u, s.workUnitExecutions.find? node.workUnitId = some u →
      u.status.isAbandoned = false

/-- While an acceptance waits, its task is being cancelled or keeps the units of its plan. -/
def AskedKept (s : DB) : Prop :=
  ∀ k d, s.decisions.find? k = some d → d.isAsked → CancelledTask s d.taskId ∨ PlanKept s d.taskId

theorem CancelledTask.moves (h : CancelledTask s t) (hmoves : TasksMove s s') :
    CancelledTask s' t := by
  obtain ⟨task, htask, hstate⟩ := h
  obtain ⟨task', htask', hpath⟩ := hmoves t task htask
  have hpath : TaskPath task.state task'.state := hpath
  refine ⟨task', htask', ?_⟩
  by_cases hcancelling : task.state = .cancelling
  · rw [hcancelling] at hpath
    rcases hpath.cancelling with hnext | hnext <;> rw [hnext] <;> rfl
  · -- a task that was cancelled has ended
    have hended : task.state.isTerminal = true := by
      cases hs : task.state <;> simp_all [TaskState.isCancelled, TaskState.isTerminal]
    rw [hpath.terminal hended]
    exact hstate

/-- The plan that an acceptance waits for keeps its units. -/
theorem PlanKept.of_step (halign : AlignInv w.db) (h : PlanKept w.db t)
    (hstep : system.step w l = some w') (hasked : ¬NoneAsked t w'.db) :
    CancelledTask w'.db t ∨ PlanKept w'.db t := by
  obtain ⟨v, plan, hmarker, hplan, hkept⟩ := h
  obtain ⟨T, habandons, hexcuse⟩ := step_abandons hstep
  by_cases ht : T t
  · exact .inl ((hexcuse t ht).resolve_left hasked)
  right
  have hmarker' : w'.db.activePlanMarkers.find? t = some ⟨v⟩ := by
    rcases step_planMarker hstep t with hsame | hnone
    · exact hsame.trans hmarker
    · exact absurd hnone hasked
  have hpersist : Persists w.db w'.db := step_rel hstep
  obtain ⟨plan', hplan', hsame⟩ := (hpersist .plans).1 _ _ hplan
  have hnodes : plan'.nodes = plan.nodes := congrArg (fun fixed ↦ fixed.2.2.2.1) hsame
  refine ⟨v, plan', hmarker', hplan', fun node hnode u hu ↦ ?_⟩
  rw [hnodes] at hnode
  obtain ⟨u₀, hu₀, howner, -⟩ := (halign.aligned t v plan hmarker hplan node hnode).unit
  obtain ⟨u', hu', howner'⟩ := hpersist.unit hu₀
  obtain rfl := Option.some.inj (hu.symm.trans hu')
  by_contra hlost
  rw [Bool.not_eq_false] at hlost
  rcases habandons _ u hu ⟨hlost, by rwa [howner', howner]⟩ with ⟨a, ha, hlost₀, -⟩ | hfalse
  · rw [hkept node hnode a ha] at hlost₀
    cases hlost₀
  · exact hfalse

/-- What a preparation has read are units that are done. -/
theorem Prepared.done {version : Nat} {contract : ContractRow} {marker : ActivePlanMarker}
    {plan : PlanRow} {deliverables : List DeliverableResult} {evidence : List EvidenceItem}
    (h : Prepared env p s taskId task version contract marker plan deliverables evidence)
    {node : RawNode} (hnode : node ∈ plan.nodes) : DoneUnit s node.workUnitId := by
  obtain ⟨n, hdelivered⟩ := h.delivered
  rcases nodeDeliverables_cases { s with drawn := n } plan.nodes with ⟨_, -, hdone⟩ | ⟨_, he, -⟩
  · obtain ⟨wu, -, hwu, hstatus, -⟩ := hdone node hnode
    exact ⟨wu, hwu, hstatus⟩
  · rw [hdelivered] at he
    cases he

theorem Prepared.planKept {version : Nat} {contract : ContractRow} {marker : ActivePlanMarker}
    {plan : PlanRow} {deliverables : List DeliverableResult} {evidence : List EvidenceItem}
    (h : Prepared env p s taskId task version contract marker plan deliverables evidence) :
    PlanKept s taskId := by
  refine ⟨marker.planVersion, plan, h.planMarker, h.planned, fun node hnode u hu ↦ ?_⟩
  obtain ⟨u', hu', hdone⟩ := h.done hnode
  obtain rfl := Option.some.inj (hu.symm.trans hu')
  rw [hdone]
  rfl

/-- In every reachable state, the plan of an acceptance that waits keeps its units, unless the task
is being cancelled. -/
theorem askedKept_invariant (ok : World → Label → Prop) :
    system.Invariant ok fun w ↦ (RunsOwned w.db ∧ AlignInv w.db) ∧ AskedKept w.db where
  init := ⟨(alignInv_invariant ok).init, fun _ _ h ↦ by cases h⟩
  step w l w' h hok hstep := by
    refine ⟨(alignInv_invariant ok).step w l w' h.1 hok hstep, fun k d hd hasked ↦ ?_⟩
    have halign : AlignInv w.db := h.1.2
    have hnot : ¬NoneAsked d.taskId w'.db := fun hnone ↦ hnone k d hd hasked rfl
    have hbefore {d₀ : DecisionRow} (hd₀ : w.db.decisions.find? k = some d₀)
        (hasked₀ : d₀.isAsked) (hfixed : d₀.sameTerms d) :
        CancelledTask w'.db d.taskId ∨ PlanKept w'.db d.taskId := by
      have howner : d.taskId = d₀.taskId := congrArg DecisionTerms.taskId hfixed
      rcases h.2 k d₀ hd₀ hasked₀ with hcancelled | hkept
      · rw [← howner] at hcancelled
        exact .inl (hcancelled.moves (step_rel hstep))
      · rw [← howner] at hkept
        exact hkept.of_step halign hstep hnot
    rcases step_acceptances hstep with hkept | ⟨env, request, taskId, task, version, contract,
      marker, plan, deliverables, evidence, snapshotId, -, -, hprepared, hasks⟩
    · obtain ⟨d₀, hd₀, hasked₀, hfixed⟩ := hkept.asked k d hd hasked
      exact hbefore hd₀ hasked₀ hfixed
    · rcases hasks.asked k d hd hasked with ⟨d₀, hd₀, hasked₀, hfixed, -⟩ | ⟨howner, -⟩
      · exact hbefore hd₀ hasked₀ hfixed
      · have howner : d.taskId = taskId := howner
        rw [howner] at hnot ⊢
        exact hprepared.planKept.of_step halign hstep hnot

/-! ## Completions -/

/-- A task is completed. -/
def TaskState.isCompleted (state : TaskState) : Bool := state == .completed

theorem calm_completed {event : TaskEvent} (h : event ≠ .finalAccepted) :
    Calm TaskState.isCompleted event where
  calm {state next} hnext hQ := by
    cases event <;> first
      | exact absurd rfl h
      | (cases state <;> cases hnext <;> cases hQ)

section Calm

instance : Calm TaskState.isCompleted .contractSubmitted := calm_completed (by decide)

instance : Calm TaskState.isCompleted .contractApproved := calm_completed (by decide)

instance : Calm TaskState.isCompleted .contractApprovedSimple := calm_completed (by decide)

instance : Calm TaskState.isCompleted .decisionResolved := calm_completed (by decide)

instance : Calm TaskState.isCompleted .planActivated := calm_completed (by decide)

instance : Calm TaskState.isCompleted .blockingGateOpened := calm_completed (by decide)

instance : Calm TaskState.isCompleted .requiredOutputsReady := calm_completed (by decide)

instance : Calm TaskState.isCompleted .verificationFailed := calm_completed (by decide)

instance : Calm TaskState.isCompleted .acceptanceReady := calm_completed (by decide)

instance : Calm TaskState.isCompleted .pauseRequested := calm_completed (by decide)

instance : Calm TaskState.isCompleted .runtimeQuiescent := calm_completed (by decide)

instance : Calm TaskState.isCompleted .resumeRequested := calm_completed (by decide)

instance : Calm TaskState.isCompleted .resumeRequestedRunnable := calm_completed (by decide)

instance : Calm TaskState.isCompleted .cancelRequested := calm_completed (by decide)

instance : Calm TaskState.isCompleted .cancellationSettled := calm_completed (by decide)

end Calm

/-- The tasks that came to be completed are among some. -/
abbrev Completed (T : String → Prop) : DB → DB → Prop := StateEnters TaskState.isCompleted T

namespace Completed

instance background : Background (Completed T) := inferInstance

instance applyContractApproval_respects {decisionId actorId : String} {decision : DecisionRow} :
    Respects (Completed T) (applyContractApproval env taskId decisionId decision actorId) := by
  have hset (simple : Bool) : Respects (Completed T) (setTaskState env taskId
      (if simple then .contractApprovedSimple else .contractApproved) none) := by
    split <;> infer_instance
  rw [applyContractApproval]
  infer_instance

theorem handler_respects {operation : Operation} (hresolve : resolution p operation = none) :
    Respects (Completed T) (handler env auth p operation) := by
  cases operation
  case approveContract | resolveDecision | acceptResult | approveSideEffect => cases hresolve
  case createTask => exact StateEnters.createTask_enters rfl
  all_goals (dsimp only [handler]; infer_instance)

end Completed

/-- A result is accepted: a decision about it is taken with an approval. -/
structure AcceptsResult (env : Env) (auth : AuthContext) (r : Resolution) (s s' : DB)
    (decisionId : String) (decision : DecisionRow) (task : TaskRow) : Prop where
  resolves : Resolves env auth r s decisionId decision task
  kind : decision.decisionKind = .finalAcceptance
  approve : r.verdict = "APPROVE"
  applied : applyFinalAcceptance env decision.taskId decisionId decision
    (s.take env auth r.verdict decisionId) = .ok ((), s')

theorem AcceptsResult.completes {r : Resolution} {decisionId : String} {decision : DecisionRow}
    (h : AcceptsResult env auth r s s' decisionId decision task) :
    Completed (· = decision.taskId) s s' := by
  have htakes : Completed (· = decision.taskId) s (s.take env auth r.verdict decisionId) :=
    Indifferent.writes DB.take_writes
  have happlies : Respects (Completed (· = decision.taskId))
      (applyFinalAcceptance env decision.taskId decisionId decision) := by
    rw [applyFinalAcceptance]
    infer_instance
  exact Preord.trans htakes (happlies.rel h.applied)

/-- The resolution of a decision completes no task, or it accepts a result. -/
theorem resolveDecision_completes {r : Resolution}
    (h : resolveDecision env auth r s = .ok (result, s')) :
    Completed (fun _ ↦ False) s s' ∨ ∃ decisionId decision task u,
      AcceptsResult env auth r s u decisionId decision task ∧ Writes [.events] u s' := by
  rcases resolveDecision_ok h with rfl | ⟨decisionId, decision, task, hresolves, hsettle⟩
  · exact .inl (Preord.refl _)
  obtain ⟨u, hverdict, hevents⟩ := settleDecision_ok hsettle
  have htakes : Completed (fun _ ↦ False) s (s.take env auth r.verdict decisionId) :=
    Indifferent.writes DB.take_writes
  have hafter : Completed (fun _ ↦ False) u s' := Indifferent.writes hevents
  rcases hverdict with ⟨happrove, happly⟩ | ⟨-, hreject⟩
  · cases hkind : decision.decisionKind
    case finalAcceptance =>
      rw [applyApprovedDecision, hkind] at happly
      exact .inr ⟨decisionId, decision, task, u, ⟨hresolves, hkind, happrove, happly⟩, hevents⟩
    all_goals
      rw [applyApprovedDecision, hkind] at happly
      dsimp only at happly
      exact .inl (Preord.trans htakes (Preord.trans (Respects.rel happly) hafter))
  · rw [rejectDecision] at hreject
    exact .inl (Preord.trans htakes (Preord.trans (Respects.rel hreject) hafter))

/-- The step that completes a task accepts a result of it. -/
theorem step_completes (hstep : system.step w l = some w') {task' : TaskRow}
    (htask' : w'.db.tasks.find? t = some task') (hcompleted : task'.state.isCompleted = true)
    (hopen : ∀ task, w.db.tasks.find? t = some task → task.state.isCompleted = false) :
    ∃ env request r n decisionId decision task u, l = .command env request ∧
      request.auth.actorType = .human ∧
      resolution request.payload request.operation = some r ∧ decision.taskId = t ∧
      AcceptsResult env request.auth r { w.db with drawn := n } u decisionId decision task ∧
      Writes (.events :: requestRecords) u w'.db := by
  have hnot {s : DB} (hsame : s.tasks = w.db.tasks) (hkept : Completed (fun _ ↦ False) s w'.db) :
      False := by
    rcases hkept t task' htask' hcompleted with ⟨task, htask, hearlier⟩ | hfalse
    · rw [hopen task (hsame ▸ htask)] at hearlier
      cases hearlier
    · exact hfalse
  cases l
  case command env request =>
    rcases step_command hstep with hrecords | ⟨u, u', result, hran, hrecords⟩
    · exact (hnot rfl (.of_read ((hrecords .tasks).2 (by decide)))).elim
    obtain ⟨n, rfl⟩ := hran.start
    have hafter : Completed (fun _ ↦ False) u' w'.db := .of_read ((hrecords .tasks).2 (by decide))
    have hrun := hran.run
    cases hr : resolution request.payload request.operation with
    | none =>
      have hkept : Completed (fun _ ↦ False) _ u' := (Completed.handler_respects hr).rel hrun
      exact (hnot rfl (Preord.trans hkept hafter)).elim
    | some r =>
      rw [handler_resolution hr] at hrun
      rcases resolveDecision_completes hrun with hkept |
        ⟨decisionId, decision, task, u, haccepts, hevents⟩
      · exact (hnot rfl (Preord.trans hkept hafter)).elim
      · have hwrites : Writes (.events :: requestRecords) u w'.db :=
          Preord.trans (hevents.mono (by decide)) (hrecords.mono (by decide))
        refine ⟨env, request, r, n, decisionId, decision, task, u, rfl,
          resolution_human hr hran.guard, hr, ?_, haccepts, hwrites⟩
        have htasks : u.tasks = w'.db.tasks := (hwrites .tasks).2 (by decide)
        have hcame : u.tasks.find? t = some task' := htasks ▸ htask'
        -- no other task was completed
        rcases haccepts.completes t task' hcame hcompleted with
          ⟨task₀, htask₀, hearlier⟩ | howner
        · rw [hopen task₀ htask₀] at hearlier
          cases hearlier
        · exact howner.symm
  all_goals
    exact (hnot rfl (step_background (R := Completed fun _ ↦ False) Preord.refl rfl hstep)).elim

/-! ## What a result is accepted on -/

/-- What a result is accepted on: a decision that waits and has not expired, a snapshot of the
ACTIVE contract and the ACTIVE plan, evidence that every required criterion has passed, a plan of
which all units are done, and nothing of the task that is still under way or in doubt. -/
structure AcceptedOn (env : Env) (s : DB) (decisionId : String) (decision : DecisionRow)
    (snapshotId : String) (snapshot : ResultSnapshotRow) (contract : ContractRow)
    (plan : PlanRow) : Prop where
  found : s.decisions.find? decisionId = some decision
  waits : decision.isAsked
  unexpired : env.now ≤ decision.expiresAt
  refers : decision.resultSnapshotRef = some snapshotId
  frozen : s.resultSnapshots.find? snapshotId = some snapshot
  hash : snapshot.contentHash = decision.targetHash
  contractMarker : s.activeContractMarkers.find? decision.taskId = some ⟨snapshot.contractVersion⟩
  authorised : s.contracts.find? (decision.taskId, snapshot.contractVersion) = some contract
  planned : ∃ v, snapshot.planVersion = some v ∧
    s.activePlanMarkers.find? decision.taskId = some ⟨v⟩ ∧
    s.plans.find? (decision.taskId, v) = some plan
  passed : ∀ c ∈ requiredCriteria contract.content, ∃ item,
    evidenceFor snapshot.content.evidence c.criterionId = some item ∧
      item.fixedHash ≠ none ∧ item.verdict = some .pass
  done : ∀ node ∈ plan.nodes, DoneUnit s node.workUnitId
  ended : ∀ wuId u, s.workUnitExecutions.find? wuId = some u → u.taskId = decision.taskId →
    u.status.isTerminal = true
  gates : otherBlockingGates s decision.taskId (some decisionId) = []
  writers : taskHasLiveWriter env s decision.taskId = false
  rests : Resting s decision.taskId
  known : ∀ e effect, s.sideEffects.find? e = some effect → effect.taskId = decision.taskId →
    effect.state ≠ .unknown

/-- What the check of an acceptance reads of a task, a decision and its snapshot. -/
structure AcceptanceChecked (env : Env) (s : DB) (taskId decisionId : String)
    (decision : DecisionRow) (task : TaskRow) (snapshotId : String) (snapshot : ResultSnapshotRow)
    (version : Nat) (contract : ContractRow) : Prop where
  found : s.tasks.find? taskId = some task
  refers : decision.resultSnapshotRef = some snapshotId
  frozen : s.resultSnapshots.find? snapshotId = some snapshot
  hash : snapshot.contentHash = decision.targetHash
  contractVersion : some snapshot.contractVersion = task.contractVersion
  planVersion : snapshot.planVersion = task.planVersion
  blockers : acceptanceBlockers s taskId = []
  gates : otherBlockingGates s taskId (some decisionId) = []
  writers : taskHasLiveWriter env s taskId = false
  contractMarker : s.activeContractMarkers.find? taskId = some ⟨version⟩
  authorised : s.contracts.find? (taskId, version) = some contract
  passed : ∀ c ∈ requiredCriteria contract.content, ∃ item,
    evidenceFor snapshot.content.evidence c.criterionId = some item ∧
      item.fixedHash ≠ none ∧ item.verdict = some .pass
  runs : (s.agentRuns.select fun _ r ↦ r.taskId == taskId && r.status.isActive) = []
  effects : (s.sideEffects.select fun _ e ↦ e.taskId == taskId && e.state == .unknown) = []

/-- The check reads nothing of the decisions. -/
theorem AcceptanceChecked.of_take {decisionId snapshotId choice : String} {decision : DecisionRow}
    {snapshot : ResultSnapshotRow} {version n : Nat} {contract : ContractRow}
    (h : AcceptanceChecked env ({ s with drawn := n }.take env auth choice decisionId) taskId
      decisionId decision task snapshotId snapshot version contract) :
    AcceptanceChecked env s taskId decisionId decision task snapshotId snapshot version contract :=
  ⟨h.found, h.refers, h.frozen, h.hash, h.contractVersion, h.planVersion, h.blockers, h.gates,
    h.writers, h.contractMarker, h.authorised, h.passed, h.runs, h.effects⟩

theorem checkFinalAcceptance_ok {decisionId : String} {decision : DecisionRow}
    (h : checkFinalAcceptance env taskId decisionId decision s = .ok ((), s')) :
    s' = s ∧ ∃ task snapshotId snapshot version contract,
      AcceptanceChecked env s taskId decisionId decision task snapshotId snapshot version
        contract := by
  obtain ⟨task, t₁, hget, h₁⟩ := Tx.bind_ok.mp h
  obtain ⟨hfound, rfl⟩ := getTask_ok.mp hget
  rw [Tx.get_bind_ok] at h₁
  obtain ⟨snapshot, t₂, hsnapshot, h₂⟩ := Tx.bind_ok.mp h₁
  obtain ⟨hsnapshot, rfl⟩ := Tx.require_ok.mp hsnapshot
  obtain ⟨snapshotId, hrefers, hsnapshot⟩ := Option.bind_eq_some_iff.mp hsnapshot
  obtain ⟨_, t₃, hcheck₃, h₃⟩ := Tx.bind_ok.mp h₂
  obtain ⟨hhash, rfl⟩ := Tx.check_ok.mp hcheck₃
  obtain ⟨_, t₄, hcheck₄, h₄⟩ := Tx.bind_ok.mp h₃
  obtain ⟨hcontract, rfl⟩ := Tx.check_ok.mp hcheck₄
  obtain ⟨_, t₅, hcheck₅, h₅⟩ := Tx.bind_ok.mp h₄
  obtain ⟨hplan, rfl⟩ := Tx.check_ok.mp hcheck₅
  obtain ⟨_, t₆, hcheck₆, h₆⟩ := Tx.bind_ok.mp h₅
  obtain ⟨hunits, rfl⟩ := Tx.check_ok.mp hcheck₆
  obtain ⟨_, t₇, hcheck₇, h₇⟩ := Tx.bind_ok.mp h₆
  obtain ⟨hgates, rfl⟩ := Tx.check_ok.mp hcheck₇
  obtain ⟨_, t₈, hlive, h₈⟩ := Tx.bind_ok.mp h₇
  rw [assertNoLiveWriters, Tx.get_bind_ok] at hlive
  obtain ⟨hwriters, rfl⟩ := Tx.check_ok.mp hlive
  obtain ⟨active, t₉, hactive, h₉⟩ := Tx.bind_ok.mp h₈
  obtain ⟨rfl, hstored⟩ := activeContract_ok.mp hactive
  obtain ⟨⟨version, contract⟩, t₁₀, hrequire, h₁₀⟩ := Tx.bind_ok.mp h₉
  obtain ⟨hsome, rfl⟩ := Tx.require_ok.mp hrequire
  obtain ⟨_, t₁₁, hevidence, h₁₁⟩ := Tx.bind_ok.mp h₁₀
  obtain rfl : t₁₀ = t₁₁ := Respects.rel (R := Eq) hevidence
  obtain ⟨_, t₁₂, hcheck₁₂, h₁₂⟩ := Tx.bind_ok.mp h₁₁
  obtain ⟨hruns, rfl⟩ := Tx.check_ok.mp hcheck₁₂
  obtain ⟨heffects, rfl⟩ := Tx.check_ok.mp h₁₂
  rcases hstored with ⟨-, hnone⟩ | ⟨version', contract', hmarker, hrow, hboth⟩
  · rw [hnone] at hsome
    cases hsome
  · rw [hboth] at hsome
    obtain ⟨rfl, rfl⟩ := Prod.mk.inj (Option.some.inj hsome)
    exact ⟨rfl, task, snapshotId, snapshot, version', contract', hfound, hrefers, hsnapshot, hhash,
      hcontract, hplan, hunits, hgates, hwriters, hmarker, hrow,
      assertAcceptanceEvidence_iff.mp hevidence, hruns, heffects⟩

/-- Units of the ACTIVE plan that the check of an acceptance has passed have ended. -/
theorem ended_of_blockers (h : acceptanceBlockers s t = []) {v : Nat} {plan : PlanRow}
    (hmarker : s.activePlanMarkers.find? t = some ⟨v⟩) (hplan : s.plans.find? (t, v) = some plan)
    {node : RawNode} (hnode : node ∈ plan.nodes) {u : WorkUnitExecutionRow}
    (hu : s.workUnitExecutions.find? node.workUnitId = some u) (howner : u.taskId = t) :
    u.status.isTerminal = true := by
  have hids : currentPlanIds s t = plan.nodes.map RawNode.workUnitId := by
    simp only [currentPlanIds, hmarker, hplan]
  by_contra hlive
  rw [Bool.not_eq_true] at hlive
  have hmem : (node.workUnitId, u) ∈ acceptanceBlockers s t := by
    rw [acceptanceBlockers, Table.mem_select]
    have hnamed : node.workUnitId ∈ currentPlanIds s t := hids ▸ List.mem_map_of_mem hnode
    exact ⟨hu, by simp [howner, hlive, hnamed]⟩
  rw [h] at hmem
  cases hmem

/-- What the check of an acceptance has read makes, with what is true of every reachable state, a
result that can be accepted. -/
theorem AcceptanceChecked.accepted {decisionId snapshotId : String} {decision : DecisionRow}
    {snapshot : ResultSnapshotRow} {version : Nat} {contract : ContractRow}
    (h : AcceptanceChecked env s decision.taskId decisionId decision task snapshotId snapshot
      version contract) (hfound : s.decisions.find? decisionId = some decision)
    (hwaits : decision.isAsked) (hunexpired : env.now ≤ decision.expiresAt)
    (hcontracts : ContractInv s) (hplans : PlanInv s) (halign : AlignInv s)
    (hkept : PlanKept s decision.taskId) :
    ∃ plan, AcceptedOn env s decisionId decision snapshotId snapshot contract plan := by
  obtain ⟨v, plan, hmarker, hplan, hunits⟩ := hkept
  have hversion : snapshot.contractVersion = version := by
    have hcurrent := h.contractVersion.trans (hcontracts.version h.found)
    rw [h.contractMarker] at hcurrent
    exact Option.some.inj hcurrent
  have hplanVersion : snapshot.planVersion = some v := by
    have hcurrent := h.planVersion.trans (hplans.version h.found)
    rw [hmarker] at hcurrent
    exact hcurrent
  subst hversion
  have hdone : ∀ node ∈ plan.nodes, DoneUnit s node.workUnitId := by
    intro node hnode
    obtain ⟨u, hu, howner, -⟩ := (halign.aligned _ v plan hmarker hplan node hnode).unit
    have hended := ended_of_blockers h.blockers hmarker hplan hnode hu howner
    have hneeded := hunits node hnode u hu
    exact ⟨u, hu, WorkUnitStatus.done_of_ended hended hneeded⟩
  refine ⟨plan, hfound, hwaits, hunexpired, h.refers, h.frozen, h.hash, h.contractMarker,
    h.authorised, ⟨v, hplanVersion, hmarker, hplan⟩, h.passed, hdone, fun wuId u hu howner ↦ ?_,
    h.gates, h.writers, resting_of_select h.runs, fun e effect heffect howner hunknown ↦ ?_⟩
  · by_cases hlisted : ∃ node ∈ plan.nodes, node.workUnitId = wuId
    · obtain ⟨node, hnode, rfl⟩ := hlisted
      exact ended_of_blockers h.blockers hmarker hplan hnode hu howner
    · push Not at hlisted
      exact halign.ended wuId u hu ⟨v, plan, howner ▸ hmarker, howner ▸ hplan, hlisted⟩
  · have hmem : (e, effect) ∈ s.sideEffects.select fun _ a ↦
        a.taskId == decision.taskId && a.state == .unknown := by
      rw [Table.mem_select]
      exact ⟨heffect, by simp [howner, hunknown]⟩
    rw [h.effects] at hmem
    cases hmem

/-- Once the gates of a decision are resolved, and there was no other one, no gate is left. -/
theorem hasBlockingGate_of_resolved {decisionId : String}
    (h : resolveGates env decisionId s = .ok ((), s'))
    (hother : otherBlockingGates s taskId (some decisionId) = []) :
    hasBlockingGate s' taskId = false := by
  rw [resolveGates, setGates] at h
  obtain rfl := Ref.updateWhere_ok.mp h
  rw [← Bool.not_eq_true, hasBlockingGate_iff]
  rintro ⟨k, gate', hgate', howner, hunresolved⟩
  change (s.gates.modifyWhere _ _).find? k = _ at hgate'
  rw [Table.find?_modifyWhere] at hgate'
  obtain ⟨gate, hgate, rfl⟩ := Option.map_eq_some_iff.mp hgate'
  by_cases hdecision : gate.decisionId = decisionId
  · rw [if_pos (by simpa using hdecision)] at hunresolved
    cases hunresolved
  · rw [if_neg (by simpa using hdecision)] at howner hunresolved
    have hmem : (k, gate) ∈ otherBlockingGates s taskId (some decisionId) := by
      rw [otherBlockingGates, List.mem_filter, blockingGates, Table.mem_select]
      exact ⟨⟨hgate, by simp [howner, hunresolved]⟩, by simpa using hdecision⟩
    rw [hother] at hmem
    cases hmem

/-- What the acceptance of a result finds and leaves: the task waits for a human, and then it has no
gate. -/
theorem applyFinalAcceptance_ok {decisionId : String} {decision : DecisionRow}
    (h : applyFinalAcceptance env taskId decisionId decision s = .ok ((), s')) :
    ∃ task snapshotId snapshot version contract,
      AcceptanceChecked env s taskId decisionId decision task snapshotId snapshot version contract ∧
      task.state = .waitingHuman ∧ hasBlockingGate s' taskId = false := by
  obtain ⟨_, t₁, hcheck, h₁⟩ := Tx.bind_ok.mp h
  obtain ⟨rfl, task, snapshotId, snapshot, version, contract, hchecked⟩ :=
    checkFinalAcceptance_ok hcheck
  obtain ⟨_, t₂, hgates, h₂⟩ := Tx.bind_ok.mp h₁
  obtain ⟨_, t₃, hrefer, hstate⟩ := Tx.bind_ok.mp h₂
  have hresolved : Writes [.gates] t₁ t₂ := Respects.rel hgates
  have hmoved : Writes [.tasks] t₂ s' := Respects.rel h₂
  have htask : t₂.tasks.find? taskId = some task :=
    (hresolved .tasks).2 (by decide) ▸ hchecked.found
  have htask₃ := updatedTask htask hrefer
  obtain ⟨task₃, next, hfound, hnext, -⟩ := setTaskState_moves hstate
  obtain rfl := Option.some.inj (htask₃.symm.trans hfound)
  have hwaiting : task.state = .waitingHuman := by
    dsimp only at hnext
    cases hs : task.state <;> rw [hs] at hnext <;> first
      | rfl
      | cases hnext
  have hgates' : hasBlockingGate s' taskId = false := by
    have hfree := hasBlockingGate_of_resolved hgates hchecked.gates
    rwa [hasBlockingGate, blockingGates, (hmoved .gates).2 (by decide)] at hfree
  exact ⟨task, snapshotId, snapshot, version, contract, hchecked, hwaiting, hgates'⟩

/-! ## What a completed task has behind it -/

/-- A task is completed. -/
def CompletedTask (s : DB) (t : String) : Prop :=
  ∃ task, s.tasks.find? t = some task ∧ task.state = .completed

/-- What a task that somebody has completed has behind it: a decision that a human of its principal
has approved about a snapshot of the current contract and the current plan, evidence that every
required criterion has passed, a plan of which all units are done, no run under way and no gate, and
no effect of which nobody knows what became of it. -/
structure CompletedOn (s : DB) (t : String) (auth : AuthContext) (task : TaskRow)
    (decisionId : String) (decision : DecisionRow) (snapshotId : String)
    (snapshot : ResultSnapshotRow) (contract : ContractRow) (v : Nat) (plan : PlanRow) :
    Prop where
  found : s.tasks.find? t = some task
  human : auth.actorType = .human
  principal : auth.principalId = task.principalId
  decided : s.decisions.find? decisionId = some decision
  owner : decision.taskId = t
  kind : decision.decisionKind = .finalAcceptance
  approved : decision.status = .approved
  actor : decision.decidedByActor = some auth.actorId
  decider : decision.decidedByPrincipal = some auth.principalId
  refers : decision.resultSnapshotRef = some snapshotId
  frozen : s.resultSnapshots.find? snapshotId = some snapshot
  contractVersion : task.contractVersion = some snapshot.contractVersion
  contractMarker : s.activeContractMarkers.find? t = some ⟨snapshot.contractVersion⟩
  authorised : s.contracts.find? (t, snapshot.contractVersion) = some contract
  snapshotPlan : snapshot.planVersion = some v
  planVersion : task.planVersion = some v
  planMarker : s.activePlanMarkers.find? t = some ⟨v⟩
  planned : s.plans.find? (t, v) = some plan
  passed : ∀ c ∈ requiredCriteria contract.content, ∃ item,
    evidenceFor snapshot.content.evidence c.criterionId = some item ∧
      item.fixedHash ≠ none ∧ item.verdict = some .pass
  done : ∀ node ∈ plan.nodes, DoneUnit s node.workUnitId
  rests : Resting s t
  gates : hasBlockingGate s t = false
  known : ∀ e effect, s.sideEffects.find? e = some effect → effect.taskId = t →
    effect.state ≠ .unknown

/-- No effect of a task is under way. -/
def NoneSent (s : DB) (t : String) : Prop :=
  ∀ e effect, s.sideEffects.find? e = some effect → effect.taskId = t → effect.state ≠ .dispatching

/-- A task was completed by a command of a human, with everything behind it and no effect under way
or in doubt. -/
def CompletedSoundly (l : Label) (s : DB) (t : String) : Prop :=
  ∃ env request task decisionId decision snapshotId snapshot contract v plan,
    l = .command env request ∧
    CompletedOn s t request.auth task decisionId decision snapshotId snapshot contract v plan ∧
    NoneSent s t

/-- The tables that the acceptance of a result writes. -/
abbrev acceptanceTables : List Relation :=
  [.tasks, .decisions, .gates, .events] ++ requestRecords

/-- The step that completes a task leaves everything behind it but that no effect is under way,
which it does not change. -/
theorem step_completedOn (hw : system.Reachable w) (hstep : system.step w l = some w')
    (hopen : ¬CompletedTask w.db t) (hdone : CompletedTask w'.db t) :
    (∃ env request task decisionId decision snapshotId snapshot contract v plan,
      l = .command env request ∧ CompletedOn w'.db t request.auth task decisionId decision
        snapshotId snapshot contract v plan) ∧
    w.db.sideEffects = w'.db.sideEffects := by
  obtain ⟨task, htask, hcompleted⟩ := hdone
  have hstill : ∀ task, w.db.tasks.find? t = some task → task.state.isCompleted = false := by
    intro task₀ htask₀
    by_contra hdone
    exact hopen ⟨task₀, htask₀, by simpa [TaskState.isCompleted] using hdone⟩
  obtain ⟨env, request, r, n, decisionId, decision, task₁, u, rfl, hhuman, -, rfl, haccepts,
    hafter⟩ := step_completes hstep htask (by rw [hcompleted]; rfl) hstill
  obtain ⟨task₀, snapshotId, snapshot, version, contract, hread, hwaiting, hgates⟩ :=
    applyFinalAcceptance_ok haccepts.applied
  have hchecked := hread.of_take
  have hresolves := haccepts.resolves.of_drawn
  have hwaits : decision.isAsked := ⟨haccepts.kind, hresolves.pending⟩
  obtain ⟨⟨-, halign⟩, hasked⟩ := (askedKept_invariant _).of_reachable hw
  -- a task that waits for a human is not being cancelled
  have hkept : PlanKept w.db decision.taskId := by
    rcases hasked decisionId decision hresolves.found hwaits with
      ⟨task₂, htask₂, hcancelled⟩ | hkept
    · obtain rfl := Option.some.inj (hchecked.found.symm.trans htask₂)
      rw [hwaiting] at hcancelled
      cases hcancelled
    · exact hkept
  have hcontracts := (contractInv_invariant _).of_reachable hw
  have hplans := (planInv_invariant _).of_reachable hw
  obtain ⟨plan, haccepted⟩ := hchecked.accepted hresolves.found hwaits hresolves.unexpired
    hcontracts hplans halign hkept
  have happlied : Writes [.tasks, .gates] _ u := Respects.rel haccepts.applied
  have hwrites : Writes acceptanceTables w.db w'.db :=
    Preord.trans (writes_drawn _ n) (Preord.trans (DB.take_writes.mono (by decide))
      (Preord.trans (happlied.mono (by decide)) (hafter.mono (by decide))))
  have hsame {m : Relation} (hm : m ∉ acceptanceTables) : DB.Same w.db w'.db m := (hwrites m).2 hm
  have heffects : w.db.sideEffects = w'.db.sideEffects := hsame (m := .sideEffects) (by decide)
  refine ⟨?_, heffects⟩
  obtain ⟨v, hversion, hmarker, hplan⟩ := haccepted.planned
  have hreach : system.Reachable w' := hw.step trivial hstep
  have hcontracts' := (contractInv_invariant _).of_reachable hreach
  have hplans' := (planInv_invariant _).of_reachable hreach
  have hpersist : Persists w.db w'.db := step_rel hstep
  obtain ⟨task₂, htask₂, hfixed⟩ := (hpersist .tasks).1 _ _ hresolves.known
  obtain rfl := Option.some.inj (htask.symm.trans htask₂)
  have hprincipal : task.principalId = task₁.principalId := congrArg Prod.fst hfixed
  have hcontractMarker : w'.db.activeContractMarkers.find? decision.taskId =
      some ⟨snapshot.contractVersion⟩ :=
    hsame (m := .activeContractMarkers) (by decide) ▸ haccepted.contractMarker
  have hplanMarker : w'.db.activePlanMarkers.find? decision.taskId = some ⟨v⟩ :=
    hsame (m := .activePlanMarkers) (by decide) ▸ hmarker
  have htaken : (w.db.take env request.auth r.verdict decisionId).decisions.find? decisionId =
      some (takenDecision env request.auth r.verdict decision) :=
    (Table.find?_modify_self _ _ _).trans (congrArg _ hresolves.found)
  have hdecided : w'.db.decisions.find? decisionId =
      some (takenDecision env request.auth r.verdict decision) :=
    (hafter .decisions).2 (by decide) ▸ (happlied .decisions).2 (by decide) ▸ htaken
  have hfree : hasBlockingGate w'.db decision.taskId = false := by
    rwa [hasBlockingGate, blockingGates, (hafter .gates).2 (by decide)] at hgates
  exact ⟨env, request, task, decisionId, takenDecision env request.auth r.verdict decision,
    snapshotId, snapshot, contract, v, plan, rfl,
    { found := htask
      human := hhuman
      principal := (hprincipal.trans hresolves.owner).symm
      decided := hdecided
      owner := rfl
      kind := haccepts.kind
      approved := if_pos haccepts.approve
      actor := rfl
      decider := rfl
      refers := haccepted.refers
      frozen := hsame (m := .resultSnapshots) (by decide) ▸ haccepted.frozen
      contractVersion := by
        rw [hcontracts'.version htask, hcontractMarker]
        rfl
      contractMarker := hcontractMarker
      authorised := hsame (m := .contracts) (by decide) ▸ haccepted.authorised
      snapshotPlan := hversion
      planVersion := by
        rw [hplans'.version htask, hplanMarker]
        rfl
      planMarker := hplanMarker
      planned := hsame (m := .plans) (by decide) ▸ hplan
      passed := haccepted.passed
      done := fun node hnode ↦ by
        obtain ⟨unit, hunit, hdone⟩ := haccepted.done node hnode
        exact ⟨unit, hsame (m := .workUnitExecutions) (by decide) ▸ hunit, hdone⟩
      rests := haccepted.rests.of_runs (hsame (m := .agentRuns) (by decide))
      gates := hfree
      known := heffects ▸ haccepted.known }⟩

/-- A step that completes a task of a reachable state does so soundly if and only if no effect of
the task is under way before: the acceptance of a result checks, with what is true of every
reachable state, everything but that. -/
theorem completed_soundly_iff (hw : system.Reachable w) (hstep : system.step w l = some w')
    (hopen : ¬CompletedTask w.db t) (hdone : CompletedTask w'.db t) :
    CompletedSoundly l w'.db t ↔ NoneSent w.db t := by
  obtain ⟨⟨env, request, task, decisionId, decision, snapshotId, snapshot, contract, v, plan, rfl,
    hcompleted⟩, heffects⟩ := step_completedOn hw hstep hopen hdone
  have hsent : NoneSent w.db t ↔ NoneSent w'.db t := by rw [NoneSent, NoneSent, heffects]
  rw [hsent]
  constructor
  · rintro ⟨_, _, _, _, _, _, _, _, _, _, -, -, hnone⟩
    exact hnone
  · intro hnone
    exact ⟨env, request, task, decisionId, decision, snapshotId, snapshot, contract, v, plan, rfl,
      hcompleted, hnone⟩

/-- The owner accepts the result of the samples. -/
def sampleAccept : Label :=
  .ask (.ofHuman "owner") .acceptResult { decisionId := some "dec_iiiiiiiiiiiiiiiiiii" }

theorem completed_soundly_iff_samplePrepared :
    ∃ w w', system.exec system.init samplePrepared = some w ∧
      system.step w sampleAccept = some w' ∧ ¬CompletedTask w.db "task_i" ∧
      CompletedTask w'.db "task_i" ∧
      (CompletedSoundly sampleAccept w'.db "task_i" ↔ NoneSent w.db "task_i") := by
  have hview : ((system.exec system.init samplePrepared).bind fun w ↦
      (system.step w sampleAccept).map fun w' ↦
        ((w.db.tasks.find? "task_i").map (·.state), (w'.db.tasks.find? "task_i").map (·.state))) =
      some (some .waitingHuman, some .completed) := by
    decide +kernel
  obtain ⟨w, hw, hw'⟩ := Option.bind_eq_some_iff.mp hview
  obtain ⟨w', hstep, hstates⟩ := Option.map_eq_some_iff.mp hw'
  simp only [Prod.mk.injEq, Option.map_eq_some_iff] at hstates
  obtain ⟨⟨task, htask, hwaiting⟩, task', htask', hcompleted⟩ := hstates
  have hopen : ¬CompletedTask w.db "task_i" := by
    rintro ⟨task₀, htask₀, hdone⟩
    obtain rfl := Option.some.inj (htask.symm.trans htask₀)
    rw [hwaiting] at hdone
    cases hdone
  have hdone : CompletedTask w'.db "task_i" := ⟨task', htask', hcompleted⟩
  exact ⟨w, w', hw, hstep, hopen, hdone, completed_soundly_iff (.of_exec hw) hstep hopen hdone⟩

/-- A thread has claimed an effect of the task, and before it sends it a result is prepared. -/
def sampleOverlooked : List Label :=
  let human := AuthContext.ofHuman "owner"
  samplePrepared.take 12 ++
    [ .ask human .proposeSideEffect
        { taskId := some "task_i", logicalActionKey := some "notify", targetRef := some "owner" },
      .ask human .approveSideEffect { decisionId := some "dec_iiiiiiiiiiiiiiiiiii" },
      .ask human .dispatchSideEffect { effectId := some "eff_iiiiiiiiiiiiiiiiii" },
      .claim .silent 0 ] ++ samplePrepared.drop 12

/-- The acceptance completes a task of which an effect is being sent. -/
theorem sampleOverlooked_completed :
    ∃ w w' l, system.Reachable w ∧ system.step w l = some w' ∧ ¬CompletedTask w.db "task_i" ∧
      CompletedTask w'.db "task_i" ∧ ¬CompletedSoundly l w'.db "task_i" := by
  have hview : ((system.exec system.init sampleOverlooked).bind fun w ↦
      (system.step w (.ask (.ofHuman "owner") .acceptResult
          { decisionId := some "dec_iiiiiiiiiiiiiiiiiiiiiiiiii" })).map fun w' ↦
        ((w.db.tasks.find? "task_i").map (·.state), (w'.db.tasks.find? "task_i").map (·.state),
          (w'.db.sideEffects.find? "eff_iiiiiiiiiiiiiiiiii").map fun e ↦ (e.taskId, e.state))) =
      some (some .waitingHuman, some .completed, some ("task_i", .dispatching)) := by
    decide +kernel
  obtain ⟨w, hw, hw'⟩ := Option.bind_eq_some_iff.mp hview
  obtain ⟨w', hstep, hstates⟩ := Option.map_eq_some_iff.mp hw'
  simp only [Prod.mk.injEq, Option.map_eq_some_iff] at hstates
  obtain ⟨⟨task, htask, hwaiting⟩, ⟨task', htask', hcompleted⟩, effect, heffect, howner, hsent⟩ :=
    hstates
  refine ⟨w, w', _, .of_exec hw, hstep, ?_, ⟨task', htask', hcompleted⟩, ?_⟩
  · rintro ⟨task₀, htask₀, hdone⟩
    obtain rfl := Option.some.inj (htask.symm.trans htask₀)
    rw [hwaiting] at hdone
    cases hdone
  · rintro ⟨_, _, _, _, _, _, _, _, _, _, -, -, hnone⟩
    exact hnone _ effect heffect howner hsent

end HibikiCore
