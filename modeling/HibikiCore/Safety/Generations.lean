import HibikiCore.Safety.Limits
import HibikiCore.Safety.Plans
import HibikiCore.Safety.States

/-!
# Planner generations

A planner session names the run that may write for it. The run was created in the generation the
session is in, it is the only PLAN run of the session that has not ended, and a new generation
ends it before it begins. So what an earlier generation sends late is refused.

No row of a run says in which generation it was created; the input that was frozen for the run
does.
-/

namespace HibikiCore

set_option synthInstance.maxSize 100000000
set_option synthInstance.maxHeartbeats 400000

/-- The tables beside those of the runs and of the markers of PLAN runs. -/
abbrev besidePlanRuns : List Relation :=
  [.tasks, .contracts, .activeContractMarkers, .explanations, .decisions, .gates, .plans,
    .activePlanMarkers, .workUnitSpecs, .workUnitExecutions, .plannerSessions,
    .activeExecuteRunMarkers, .workspaces, .contextManifests, .sideEffects, .events, .inbox,
    .outbox, .idempotencyKeys, .resultSnapshots, .artifacts, .acceptanceEvidence,
    .agentProfiles, .runInputs, .toolInvocations, .contextAppends, .taskMessages]

variable {env : Env} {auth : AuthContext} {p : Payload} {task : TaskRow} {run : AgentRunRow}
  {flushed s s' : DB} {taskId runId wuId sessionId outboxId : String} {operation : Operation}
  {result : CommandResult}

/-! ## The marker of a live run -/

/-- A PLAN run of a session that has not ended. -/
def LivePlanRun (s : DB) (sessionId runId : String) : Prop :=
  ∃ run, s.agentRuns.find? runId = some run ∧ run.assignmentKind = .plan ∧
    run.plannerSessionId = some sessionId ∧ run.status.isActive = true

theorem LivePlanRun.of_runs (hruns : s.agentRuns = s'.agentRuns)
    (h : LivePlanRun s' sessionId runId) : LivePlanRun s sessionId runId := by
  obtain ⟨run, hrun, hrest⟩ := h
  exact ⟨run, hruns ▸ hrun, hrest⟩

/-- No PLAN run comes to life, and one that stays alive keeps its marker. -/
structure MarkersHeld (s s' : DB) : Prop where
  old : ∀ sessionId runId, LivePlanRun s' sessionId runId → LivePlanRun s sessionId runId
  held : ∀ sessionId runId, LivePlanRun s' sessionId runId →
    s.activePlanRunMarkers.find? sessionId = some ⟨runId⟩ →
    s'.activePlanRunMarkers.find? sessionId = some ⟨runId⟩

namespace MarkersHeld

instance : Preord MarkersHeld where
  refl _ := ⟨fun _ _ h ↦ h, fun _ _ _ h ↦ h⟩
  trans h h' := ⟨fun _ _ hlive ↦ h.old _ _ (h'.old _ _ hlive), fun _ _ hlive hmarker ↦
    h'.held _ _ hlive (h.held _ _ (h'.old _ _ hlive) hmarker)⟩

theorem of_writes (h : Writes besidePlanRuns s s') : MarkersHeld s s' where
  old _ _ := LivePlanRun.of_runs ((h .agentRuns).2 (by decide))
  held sessionId _ _ hmarker :=
    (congrArg (·.find? sessionId) ((h .activePlanRunMarkers).2 (by decide)).symm).trans hmarker

instance : Frame MarkersHeld where
  still h := of_writes (h.mono fun _ hn ↦ (List.not_mem_nil hn).elim)

instance {n : Relation} [h : Touches n besidePlanRuns] : Indifferent MarkersHeld n where
  writes hw := of_writes (hw.mono fun _ hm ↦ List.mem_singleton.mp hm ▸ h.mem)

/-- Runs of which none comes to life, with the markers as they were. -/
theorem of_runs (hmarkers : s'.activePlanRunMarkers = s.activePlanRunMarkers)
    (h : ∀ k run', s'.agentRuns.find? k = some run' → run'.assignmentKind = .plan →
      run'.status.isActive = true →
      ∃ run, s.agentRuns.find? k = some run ∧ SameFixed run run' ∧ run.status.isActive = true) :
    MarkersHeld s s' where
  old sessionId runId := by
    rintro ⟨run', hrun', hkind, hsession, hactive⟩
    obtain ⟨run, hrun, hfixed, hactive₀⟩ := h runId run' hrun' hkind hactive
    exact ⟨run, hrun, (congrArg RunAssignment.assignmentKind hfixed).symm.trans hkind,
      (congrArg RunAssignment.plannerSessionId hfixed).symm.trans hsession, hactive₀⟩
  held sessionId _ _ hmarker := (congrArg (·.find? sessionId) hmarkers).trans hmarker

/-- An update that makes no run active. -/
theorem update_detail {f : AgentRunRow → AgentRunRow} {hf : ∀ r, SameFixed r (f r)}
    (hactive : ∀ r, (f r).status.isActive = true → r.status.isActive = true) :
    Respects MarkersHeld (Refs.agentRuns.update runId f hf : Core Unit) where
  rel {s _ s'} h := by
    obtain rfl := Ref.update_ok.mp h
    refine of_runs rfl fun k run' hrun' _ hlive ↦ ?_
    rw [Refs.agentRuns.read_write, Table.find?_modify] at hrun'
    split at hrun'
    · obtain ⟨run, hrun, rfl⟩ := Option.map_eq_some_iff.mp hrun'
      exact ⟨run, hrun, hf run, hactive run hlive⟩
    · exact ⟨run', hrun', SameFixed.refl run', hlive⟩

instance : RunDetails MarkersHeld where
  update _ _ _ hd := update_detail hd.active
  updateWhere q f hf hd := by
    constructor
    intro s _ s' h
    obtain rfl := Ref.updateWhere_ok.mp h
    refine of_runs rfl fun k run' hrun' _ hlive ↦ ?_
    rw [Refs.agentRuns.read_write, Table.find?_modifyWhere] at hrun'
    obtain ⟨run, hrun, rfl⟩ := Option.map_eq_some_iff.mp hrun'
    refine ⟨run, hrun, ?_, ?_⟩ <;> split at hlive <;> rename_i hq
    · rw [if_pos hq]
      exact hf run
    · rw [if_neg hq]
    · exact hd.active run hlive
    · exact hlive

/-! ### Runs that end -/

/-- The marker of a session whose run has ended may go. -/
theorem of_drop (hdead : ∀ runId, s.activePlanRunMarkers.find? sessionId = some ⟨runId⟩ →
    ¬LivePlanRun s sessionId runId) : MarkersHeld s (s.dropPlanMarker sessionId) where
  old _ _ h := h
  held sessionId' runId hlive hmarker := by
    refine (Table.find?_erase _ _ _).trans ?_
    rw [if_neg]
    · exact hmarker
    · rintro rfl
      exact hdead runId hmarker hlive

theorem clearRunOccupancy_held {release : Bool} (hdead : ∀ sessionId, ¬LivePlanRun s sessionId runId)
    (h : clearRunOccupancy runId release s = .ok ((), s')) : MarkersHeld s s' := by
  obtain ⟨run, t, hget, h₁⟩ := Tx.bind_ok.mp h
  obtain ⟨-, rfl⟩ := getRun_ok.mp hget
  rw [Tx.get_bind_ok] at h₁
  obtain ⟨_, u, hplan, h₂⟩ := Tx.bind_ok.mp h₁
  have hrest : MarkersHeld u s' := Respects.rel h₂
  refine Preord.trans ?_ hrest
  rcases Tx.when_ok.mp hplan with ⟨-, h₃⟩ | ⟨-, rfl⟩
  · rcases Tx.withSome_ok.mp h₃ with ⟨sessionId, -, h₄⟩ | ⟨-, rfl⟩
    · obtain ⟨_, v, hdrop, hsession⟩ := Tx.bind_ok.mp h₄
      have hreset : MarkersHeld v u := Respects.rel hsession
      refine Preord.trans ?_ hreset
      rcases Tx.when_ok.mp hdrop with ⟨hmarker, hdelete⟩ | ⟨-, rfl⟩
      · obtain rfl := Ref.delete_ok.mp hdelete
        refine of_drop fun runId' hmarker' ↦ ?_
        obtain rfl := congrArg ActivePlanRunMarker.runId
          (Option.some.inj (hmarker.symm.trans hmarker'))
        exact hdead sessionId
      · exact Preord.refl _
    · exact Preord.refl _
  · exact Preord.refl _

/-- An update that ends a run. -/
theorem ended {f : AgentRunRow → AgentRunRow} {hf : ∀ r, SameFixed r (f r)}
    (hends : ∀ r, (f r).status.isTerminal = true)
    (h : (Refs.agentRuns.update runId f hf : Core Unit) s = .ok ((), s')) :
    MarkersHeld s s' ∧ ∀ sessionId, ¬LivePlanRun s' sessionId runId := by
  have hdead (r : AgentRunRow) : (f r).status.isActive = false :=
    AgentRunStatus.isActive_of_terminal (hends r)
  refine ⟨(update_detail fun r hr ↦ ?_).rel h, ?_⟩
  · rw [hdead] at hr
    cases hr
  · rintro sessionId ⟨run, hrun, -, -, hactive⟩
    obtain rfl := Ref.update_ok.mp h
    rw [Refs.agentRuns.read_write, Table.find?_modify_self] at hrun
    obtain ⟨run₀, -, rfl⟩ := Option.map_eq_some_iff.mp hrun
    rw [hdead] at hactive
    cases hactive

instance : EndsRuns MarkersHeld where
  last runId f hf hd := by
    constructor
    intro s _ s' h
    obtain ⟨_, t, hend, hclear⟩ := Tx.bind_ok.mp h
    obtain ⟨hheld, hdead⟩ := ended hd.ends hend
    exact Preord.trans hheld (clearRunOccupancy_held hdead hclear)
  next runId f hf m hd _ := by
    constructor
    intro s _ s' h
    obtain ⟨_, t, hend, h₁⟩ := Tx.bind_ok.mp h
    obtain ⟨_, u, hclear, hrest⟩ := Tx.bind_ok.mp h₁
    obtain ⟨hheld, hdead⟩ := ended hd.ends hend
    exact Preord.trans hheld
      (Preord.trans (clearRunOccupancy_held hdead hclear) (Respects.rel hrest))

instance revokePlanRun_respects :
    Respects MarkersHeld (revokePlanRun env flushed taskId sessionId) where
  rel {s _ s'} h := by
    rw [revokePlanRun, Tx.get_bind_ok] at h
    obtain ⟨_, t, hrevoke, hrest⟩ := Tx.bind_ok.mp h
    refine Preord.trans ?_ (Respects.rel hrest)
    rcases Tx.withSome_ok.mp hrevoke with ⟨marker, hmarker, h₁⟩ | ⟨-, rfl⟩
    · rcases Tx.ite_ok.mp h₁ with ⟨-, h₂⟩ | ⟨hended, hdelete⟩
      · exact Respects.rel h₂
      · obtain rfl := Ref.delete_ok.mp hdelete
        refine of_drop fun runId hmarker' ↦ ?_
        obtain rfl := Option.some.inj (hmarker.symm.trans hmarker')
        rintro ⟨run, hrun, -, -, hactive⟩
        exact hended ((Option.any_eq_true _ _).mpr ⟨run, hrun, hactive⟩)
    · exact Preord.refl _

/-! ### Results and starts -/

theorem succeed_terminal {status next : AgentRunStatus}
    (h : runTransitions status .succeed = some next) : next.isTerminal = true := by
  cases hs : status <;> rw [hs] at h <;> cases h
  rfl

instance recordSupersededResult_respects {result : RunResult} {ref : String} :
    Respects MarkersHeld (recordSupersededResult env auth runId wuId run result ref) where
  rel {s _ s'} h := by
    obtain ⟨next, t, hrequire, h₁⟩ := Tx.bind_ok.mp h
    obtain ⟨hnext, rfl⟩ := Tx.require_ok.mp hrequire
    obtain ⟨_, u, hend, hrest⟩ := Tx.bind_ok.mp h₁
    exact Preord.trans (ended (fun _ ↦ succeed_terminal hnext) hend).1 (Respects.rel hrest)

instance acceptRunResult_respects {result : RunResult} {ref : String} :
    Respects MarkersHeld (acceptRunResult env auth runId run result ref) where
  rel {s _ s'} h := by
    obtain ⟨next, t, hrequire, h₁⟩ := Tx.bind_ok.mp h
    obtain ⟨hnext, rfl⟩ := Tx.require_ok.mp hrequire
    obtain ⟨_, u, hend, h₂⟩ := Tx.bind_ok.mp h₁
    obtain ⟨_, v, hunit, h₃⟩ := Tx.bind_ok.mp h₂
    obtain ⟨_, w, hclear, hrest⟩ := Tx.bind_ok.mp h₃
    obtain ⟨hheld, hdead⟩ := ended (fun _ ↦ succeed_terminal hnext) hend
    have happlied : MarkersHeld u v := Respects.rel hunit
    refine Preord.trans hheld (Preord.trans happlied (Preord.trans ?_ (Respects.rel hrest)))
    rcases Tx.when_ok.mp hclear with ⟨-, hclear⟩ | ⟨-, rfl⟩
    · exact clearRunOccupancy_held (fun sessionId hlive ↦ hdead _ (happlied.old _ _ hlive)) hclear
    · exact Preord.refl _

instance ackOutboxAndMarkRunning_respects :
    Respects MarkersHeld (ackOutboxAndMarkRunning env outboxId runId) where
  rel {s _ s'} h := by
    have hmarkers : Writes [.outbox, .workspaces, .agentRuns] s s' := Respects.rel h
    refine of_runs ((hmarkers .activePlanRunMarkers).2 (by decide)).symm
      fun k run' hrun' _ hactive ↦ ?_
    rcases ackOutboxAndMarkRunning_runs h with hsame | hstarted
    · exact ⟨run', (congrArg (·.find? k) hsame).symm.trans hrun', SameFixed.refl run', hactive⟩
    · rw [hstarted, Table.find?_modifyWhere] at hrun'
      obtain ⟨run, hrun, rfl⟩ := Option.map_eq_some_iff.mp hrun'
      refine ⟨run, hrun, ?_, ?_⟩ <;> split at hactive <;> rename_i hq
      · rw [if_pos hq]
        exact SameFixed.of_eq rfl
      · rw [if_neg hq]
      · -- only a created run is started
        have hcreated : run.status = .created := by simpa using (Bool.and_eq_true_iff.mp hq).2
        rw [hcreated]
        rfl
      · exact hactive

instance createExecuteRun_respects {r : RunIdentity} {attempt : Nat} :
    Respects MarkersHeld (createExecuteRun env auth taskId task r attempt) := by
  have hadd : Respects MarkersHeld
      (add Refs.agentRuns r.runId (createdRun env taskId task r attempt)) := by
    constructor
    intro s _ s' h
    obtain ⟨hnone, rfl⟩ := Ref.insert_ok.mp h
    refine of_runs rfl fun k run' hrun' hkind hactive ↦ ?_
    rw [Refs.agentRuns.read_write, Table.find?_insert hnone] at hrun'
    split at hrun'
    · obtain rfl := Option.some.inj hrun'
      cases hkind
    · exact ⟨run', hrun', SameFixed.refl run', hactive⟩
  rw [createExecuteRun]
  infer_instance

/-- Only the dispatch of a planner brings a PLAN run to life. -/
theorem handler_respects (hplanner : operation ≠ .dispatchPlannerRun) :
    Respects MarkersHeld (handler env auth p operation) := by
  cases operation
  case dispatchPlannerRun => exact (hplanner rfl).elim
  all_goals (dsimp only [handler]; infer_instance)

instance background : Background MarkersHeld := inferInstance

end MarkersHeld

/-! ## What becomes of the sessions -/

/-- The tables beside `plannerSessions`. -/
abbrev besideSessions : List Relation :=
  [.tasks, .contracts, .activeContractMarkers, .explanations, .decisions, .gates, .plans,
    .activePlanMarkers, .workUnitSpecs, .workUnitExecutions, .agentRuns, .activeExecuteRunMarkers,
    .activePlanRunMarkers, .workspaces, .contextManifests, .sideEffects, .events, .inbox,
    .outbox, .idempotencyKeys, .resultSnapshots, .artifacts, .acceptanceEvidence,
    .agentProfiles, .runInputs, .toolInvocations, .contextAppends, .taskMessages]

instance : Faithful Refs.plannerSessions := ⟨id⟩

instance {n : Relation} [h : Touches n besideSessions] : Beside Refs.plannerSessions n where
  ne := by
    rintro rfl
    exact absurd h.mem (by decide)

/-- The generation does not go back, and the run that may write is the same in the same generation,
unless no run may write any more. -/
def SessionLe (a b : PlannerSessionRow) : Prop :=
  a.generation ≤ b.generation ∧
    (b.activeRunId = none ∨ b.activeRunId = a.activeRunId ∧ b.generation = a.generation)

instance : Preord SessionLe where
  refl _ := ⟨le_rfl, .inr ⟨rfl, rfl⟩⟩
  trans h h' := by
    refine ⟨h.1.trans h'.1, ?_⟩
    rcases h'.2 with hnone | ⟨hrun', hgeneration'⟩
    · exact .inl hnone
    · rw [hrun', hgeneration']
      exact h.2

/-- No session lets another run write for it. -/
abbrev SessionsMove : DB → DB → Prop := Moves Refs.plannerSessions SessionLe

namespace SessionsMove

instance clearRunOccupancy_respects {release : Bool} :
    Respects SessionsMove (clearRunOccupancy runId release) := by
  have hreset (q : String → PlannerSessionRow → Bool) : Respects SessionsMove
      (Refs.plannerSessions.updateWhere q fun ps ↦ { ps with activeRunId := none } : Core Unit) :=
    Moves.updateWhere fun _ _ _ ↦ ⟨le_rfl, .inl rfl⟩
  rw [clearRunOccupancy]
  infer_instance

instance revokePlanRun_respects :
    Respects SessionsMove (revokePlanRun env flushed taskId sessionId) := by
  have hbump : Respects SessionsMove (Refs.plannerSessions.update sessionId fun ps ↦
      { ps with activeRunId := none, generation := ps.generation + 1 } : Core Unit) :=
    Moves.update fun _ ↦ ⟨Nat.le_succ _, .inl rfl⟩
  rw [revokePlanRun]
  infer_instance

instance countCheckpoint_respects : Respects SessionsMove
    (Refs.plannerSessions.update sessionId fun ps ↦
      { ps with checkpointVersion := ps.checkpointVersion + 1 } : Core Unit) :=
  Moves.update fun _ ↦ ⟨le_rfl, .inr ⟨rfl, rfl⟩⟩

instance bumpPlannerGeneration_respects :
    Respects SessionsMove (bumpPlannerGeneration env auth taskId) := by
  rw [bumpPlannerGeneration]
  infer_instance

instance advancePlannerCheckpoint_respects :
    Respects SessionsMove (advancePlannerCheckpoint env auth p) := by
  have hadvance (k : String) (ref : Option String) (consumed : Nat) : Respects SessionsMove
      (Refs.plannerSessions.update k fun ps ↦
        { ps with
          checkpointRef := ref
          checkpointVersion := ps.checkpointVersion + 1
          lastConsumedMessageSeq := consumed } : Core Unit) :=
    Moves.update fun _ ↦ ⟨le_rfl, .inr ⟨rfl, rfl⟩⟩
  rw [advancePlannerCheckpoint]
  infer_instance

instance closePlannerSession_respects :
    Respects SessionsMove (closePlannerSession env auth p) := by
  have hclose (k : String) (status : PlannerSessionStatus) : Respects SessionsMove
      (Refs.plannerSessions.update k fun ps ↦
        { ps with status, activeRunId := none } : Core Unit) :=
    Moves.update fun _ ↦ ⟨le_rfl, .inl rfl⟩
  rw [closePlannerSession]
  infer_instance

/-- Only the dispatch of a planner lets a new run write. -/
theorem handler_respects (hplanner : operation ≠ .dispatchPlannerRun) :
    Respects SessionsMove (handler env auth p operation) := by
  cases operation
  case dispatchPlannerRun => exact (hplanner rfl).elim
  all_goals (dsimp only [handler]; infer_instance)

instance background : Background SessionsMove := inferInstance

end SessionsMove

/-- No session is new. -/
abbrev NoSession : DB → DB → Prop := Arrivals Refs.plannerSessions fun _ _ ↦ False

namespace NoSession

/-- Two commands begin a new generation, which may be the first one of a new session. -/
theorem handler_respects (hreplace : operation ≠ .replacePlannerGeneration)
    (hplanner : operation ≠ .dispatchPlannerRun) :
    Respects NoSession (handler env auth p operation) := by
  cases operation
  case replacePlannerGeneration => exact (hreplace rfl).elim
  case dispatchPlannerRun => exact (hplanner rfl).elim
  all_goals (dsimp only [handler]; infer_instance)

instance background : Background NoSession := inferInstance

end NoSession

/-- Tasks keep their planner session, and a new task has none. -/
abbrev TaskSessionsKept : DB → DB → Prop :=
  KeepsColumn Refs.tasks TaskRow.activePlannerSessionId none

/-- An update that gives no value for the planner session. -/
instance {a c : TaskRow → String} {b : TaskRow → Json} {d : TaskRow → TaskState}
    {e : TaskRow → Option WaitingReason} {f m : TaskRow → Nat} {g h : TaskRow → Option Nat}
    {j o : TaskRow → Option String} {k l : TaskRow → Bool} {n n' : TaskRow → Int}
    {q r : TaskRow → Time} :
    Leaves TaskRow.activePlannerSessionId fun t ↦
      ⟨a t, b t, c t, d t, e t, f t, g t, h t, t.activePlannerSessionId, j t, k t, l t, m t, n t,
        n' t, o t, q t, r t⟩ :=
  ⟨fun _ ↦ rfl⟩

namespace TaskSessionsKept

instance setTaskState_respects {event : TaskEvent} {reason : Option WaitingReason} :
    Respects TaskSessionsKept (setTaskState env taskId event reason) := by
  rw [setTaskState]
  infer_instance

instance createTask_respects : Respects TaskSessionsKept (createTask env auth p) := by
  have hadd (row : TaskRow) (hnone : row.activePlannerSessionId = none) (k : String) :
      Respects TaskSessionsKept (add Refs.tasks k row) := KeepsColumn.insert hnone
  rw [createTask]
  refine .seq inferInstance fun _ ↦ .seq inferInstance fun _ ↦ .seq inferInstance fun _ ↦ ?_
  exact .seq (hadd _ rfl _) fun _ ↦ inferInstance

instance : TaskDetails TaskSessionsKept where
  update k f hf hd := by
    have : Leaves TaskRow.activePlannerSessionId f := ⟨hd.plannerSession⟩
    infer_instance

instance : ContractVersions TaskSessionsKept where
  update _ _ := inferInstance

instance : PlanVersions TaskSessionsKept where
  update _ _ := inferInstance

theorem handler_respects (hreplace : operation ≠ .replacePlannerGeneration)
    (hplanner : operation ≠ .dispatchPlannerRun) :
    Respects TaskSessionsKept (handler env auth p operation) := by
  cases operation
  case replacePlannerGeneration => exact (hreplace rfl).elim
  case dispatchPlannerRun => exact (hplanner rfl).elim
  all_goals (dsimp only [handler]; infer_instance)

instance background : Background TaskSessionsKept := inferInstance

end TaskSessionsKept

/-! ## The invariant -/

/-- A run was created for a session in a generation. -/
def CreatedIn (s : DB) (runId sessionId : String) (generation : Nat) : Prop :=
  ∃ input binding, s.runInputs.find? runId = some input ∧ input.spec.planner = some binding ∧
    binding.plannerSessionId = sessionId ∧ binding.generation = generation

theorem CreatedIn.of_persists {generation : Nat} (hpersist : Persists s s')
    (h : CreatedIn s runId sessionId generation) : CreatedIn s' runId sessionId generation := by
  obtain ⟨input, binding, hinput, hrest⟩ := h
  obtain ⟨input', hinput', hfixed⟩ := (hpersist .runInputs).1 runId input hinput
  obtain rfl : input' = input := hfixed
  exact ⟨input', binding, hinput', hrest⟩

/-- A run was created in one generation only. -/
theorem CreatedIn.unique {sessionId' : String} {generation generation' : Nat}
    (h : CreatedIn s runId sessionId generation) (h' : CreatedIn s runId sessionId' generation') :
    sessionId' = sessionId ∧ generation' = generation := by
  obtain ⟨input, binding, hinput, hbinding, rfl, rfl⟩ := h
  obtain ⟨input', binding', hinput', hbinding', rfl, rfl⟩ := h'
  obtain rfl := Option.some.inj (hinput.symm.trans hinput')
  obtain rfl := Option.some.inj (hbinding.symm.trans hbinding')
  exact ⟨rfl, rfl⟩

/-- The run that may write for a session is one of its current generation, the live PLAN run of a
session is the one that its marker names, and tasks and sessions name each other. -/
structure PlannerInv (s : DB) : Prop where
  current : ∀ sessionId session runId, s.plannerSessions.find? sessionId = some session →
    session.activeRunId = some runId → CreatedIn s runId sessionId session.generation
  marked : ∀ sessionId runId, LivePlanRun s sessionId runId →
    s.activePlanRunMarkers.find? sessionId = some ⟨runId⟩
  mine : ∀ t task sessionId, s.tasks.find? t = some task →
    task.activePlannerSessionId = some sessionId → sessionId ≠ "" ∧
      ∃ session, s.plannerSessions.find? sessionId = some session ∧ session.taskId = t
  owner : ∀ sessionId session, s.plannerSessions.find? sessionId = some session →
    ∃ task, s.tasks.find? session.taskId = some task ∧
      task.activePlannerSessionId = some sessionId

/-- What a transaction does that creates neither a session nor a PLAN run. -/
structure PlannerKept (s s' : DB) : Prop where
  markers : MarkersHeld s s'
  sessions : SessionsMove s s'
  noSession : NoSession s s'
  tasks : TaskSessionsKept s s'
  persist : Persists s s'

namespace PlannerKept

theorem of_ok {α : Type} {m : Core α} {a : α} [Respects MarkersHeld m] [Respects SessionsMove m]
    [Respects NoSession m] [Respects TaskSessionsKept m] [Respects Persists m]
    (h : m s = .ok (a, s')) : PlannerKept s s' :=
  ⟨Respects.rel h, Respects.rel h, Respects.rel h, Respects.rel h, Respects.rel h⟩

/-- A session afterwards was there before, for the same task. -/
theorem session (h : PlannerKept s s') {session' : PlannerSessionRow}
    (hsession' : s'.plannerSessions.find? sessionId = some session') :
    ∃ session, s.plannerSessions.find? sessionId = some session ∧
      session'.taskId = session.taskId ∧ SessionLe session session' := by
  rcases h.noSession sessionId session' hsession' with ⟨session, hsession, hfixed⟩ | hnew
  · obtain ⟨session'', hsession'', hle⟩ := h.sessions sessionId session hsession
    obtain rfl := Option.some.inj (hsession'.symm.trans hsession'')
    exact ⟨session, hsession, hfixed, hle⟩
  · exact hnew.elim

end PlannerKept

theorem PlannerInv.of_kept (hinv : PlannerInv s) (h : PlannerKept s s') : PlannerInv s' where
  current sessionId session' runId hsession' hactive := by
    obtain ⟨session, hsession, -, -, hrun⟩ := h.session hsession'
    rcases hrun with hnone | ⟨hsame, hgeneration⟩
    · rw [hnone] at hactive
      cases hactive
    · rw [hgeneration]
      exact (hinv.current sessionId session runId hsession (hsame.symm.trans hactive)).of_persists
        h.persist
  marked sessionId runId hlive :=
    h.markers.held sessionId runId hlive (hinv.marked sessionId runId (h.markers.old _ _ hlive))
  mine t task' sessionId htask' hactive := by
    rcases h.tasks.origin htask' with ⟨task, htask, hsame⟩ | ⟨-, hnone⟩
    · obtain ⟨hne, session, hsession, howner⟩ :=
        hinv.mine t task sessionId htask (hsame.symm.trans hactive)
      obtain ⟨session', hsession', hfixed⟩ :=
        (h.persist .plannerSessions).1 sessionId session hsession
      exact ⟨hne, session', hsession', Eq.trans hfixed howner⟩
    · rw [hnone] at hactive
      cases hactive
  owner sessionId session' hsession' := by
    obtain ⟨session, hsession, howner, -⟩ := h.session hsession'
    obtain ⟨task, htask, hactive⟩ := hinv.owner sessionId session hsession
    obtain ⟨task', htask', hsame⟩ := h.tasks.kept session.taskId task htask
    exact ⟨task', howner ▸ htask', hsame.trans hactive⟩

/-- The database with a new planner session of a task. -/
def DB.addSession (s : DB) (taskId sessionId : String) (session : PlannerSessionRow) : DB :=
  { s with
    plannerSessions := s.plannerSessions.insert sessionId session
    tasks := s.tasks.modify taskId fun t ↦ { t with activePlannerSessionId := some sessionId } }

/-- A task that has no session gets one that no run may write for yet. -/
theorem PlannerInv.addSession {session : PlannerSessionRow} (hinv : PlannerInv s)
    (htask : s.tasks.find? taskId = some task) (hnone : task.activePlannerSessionId = none)
    (hne : sessionId ≠ "") (hfresh : s.plannerSessions.find? sessionId = none)
    (howner : session.taskId = taskId) (hidle : session.activeRunId = none) :
    PlannerInv (s.addSession taskId sessionId session) := by
  have hsessions (k : String) : (s.addSession taskId sessionId session).plannerSessions.find? k =
      if k = sessionId then some session else s.plannerSessions.find? k :=
    Table.find?_insert hfresh _ _
  have htasks (k : String) : (s.addSession taskId sessionId session).tasks.find? k =
      if k = taskId then (s.tasks.find? k).map fun t ↦
        { t with activePlannerSessionId := some sessionId } else s.tasks.find? k :=
    Table.find?_modify _ _ _ _
  refine ⟨fun k session' runId hfind hactive ↦ ?_, hinv.marked,
    fun t task' k hfind hactive ↦ ?_, fun k session' hfind ↦ ?_⟩
  · rw [hsessions] at hfind
    split at hfind
    · obtain rfl := Option.some.inj hfind
      rw [hidle] at hactive
      cases hactive
    · exact hinv.current k session' runId hfind hactive
  · rw [htasks] at hfind
    split at hfind
    · next ht =>
      obtain ⟨task₀, -, rfl⟩ := Option.map_eq_some_iff.mp hfind
      obtain rfl := Option.some.inj hactive
      exact ⟨hne, session, (hsessions _).trans (if_pos rfl), howner.trans ht.symm⟩
    · obtain ⟨hk, session', hsession', hown⟩ := hinv.mine t task' k hfind hactive
      refine ⟨hk, session', (hsessions k).trans (Eq.trans (if_neg ?_) hsession'), hown⟩
      rintro rfl
      exact absurd (hfresh.symm.trans hsession') nofun
  · rw [hsessions] at hfind
    split at hfind
    · next hk =>
      obtain rfl := Option.some.inj hfind
      refine ⟨{ task with activePlannerSessionId := some sessionId }, ?_, congrArg some hk.symm⟩
      rw [howner, htasks, if_pos rfl, htask]
      rfl
    · obtain ⟨task', htask', hactive⟩ := hinv.owner k session' hfind
      refine ⟨task', (htasks _).trans (Eq.trans (if_neg fun ht ↦ ?_) htask'), hactive⟩
      rw [ht, htask] at htask'
      obtain rfl := Option.some.inj htask'
      rw [hnone] at hactive
      cases hactive

/-! ## The two commands -/

theorem PlannerKept.of_writes (h : Writes [.activePlanRunMarkers] s s')
    (hmarkers : MarkersHeld s s') : PlannerKept s s' :=
  ⟨hmarkers, .of_read ((h .plannerSessions).2 (by decide)),
    .of_read ((h .plannerSessions).2 (by decide)), .of_read ((h .tasks).2 (by decide)),
    persists_of_writes h⟩

/-- A new generation, which is the first one of a new session if the task has none. -/
theorem bumpPlannerGeneration_inv (hinv : PlannerInv s)
    (h : bumpPlannerGeneration env auth taskId s = .ok (sessionId, s')) : PlannerInv s' := by
  rw [bumpPlannerGeneration, Tx.get_bind_ok] at h
  obtain ⟨task, t₁, hget, h₁⟩ := Tx.bind_ok.mp h
  obtain ⟨htask, rfl⟩ := getTask_ok.mp hget
  obtain ⟨drawn, t₂, hdraw, h₂⟩ := Tx.bind_ok.mp h₁
  have hinv₂ : PlannerInv t₂ := hinv.of_kept (.of_ok hdraw)
  obtain ⟨hname, rfl⟩ := newId_ok.mp hdraw
  rcases Tx.ite_ok.mp h₂ with ⟨hnew, h₃⟩ | ⟨-, h₃⟩
  · obtain ⟨_, t₄, hadd, h₄⟩ := Tx.bind_ok.mp h₃
    obtain ⟨_, t₅, hlink, hrest⟩ := Tx.bind_ok.mp h₄
    refine PlannerInv.of_kept ?_ (.of_ok hrest)
    obtain ⟨hfresh, rfl⟩ := Ref.insert_ok.mp hadd
    obtain rfl := Ref.update_ok.mp hlink
    have hnone : task.activePlannerSessionId = none := by
      cases hactive : task.activePlannerSessionId with
      | none => rfl
      | some k =>
        -- the session of a task exists
        obtain ⟨hne, session, hstored, -⟩ := hinv.mine taskId task k htask hactive
        rw [hactive, truthy_eq_some.mpr ⟨rfl, hne⟩, Option.getD_some, hstored] at hnew
        cases hnew
    have hne : (truthy task.activePlannerSessionId).getD drawn ≠ "" := by
      rw [hnone, hname]
      intro hempty
      simpa [truthy] using congrArg String.length hempty
    exact hinv₂.addSession htask hnone hne hfresh rfl rfl
  · exact hinv₂.of_kept (.of_ok h₃)

theorem createPlanRun_inv {session : PlannerSessionRow} (hinv : PlannerInv s)
    (hsession : s.plannerSessions.find? sessionId = some session)
    (h : createPlanRun env auth p taskId task sessionId session s = .ok (result, s')) :
    PlannerInv s' := by
  obtain ⟨newRun, manifestId, input, hrun⟩ := createPlanRun_ok h
  have hpersist : Persists s s' := persists_of_writes hrun.rest
  have htasks : s.tasks = s'.tasks := (hrun.rest .tasks).2 (by decide)
  have hsessions (k : String) : s'.plannerSessions.find? k = if k = sessionId then
      (s.plannerSessions.find? k).map fun ps ↦ { ps with activeRunId := some newRun }
      else s.plannerSessions.find? k := by
    rw [hrun.sessions]
    exact Table.find?_modify _ _ _ _
  -- a session afterwards is one before, but for the run that may write
  have horigin {k : String} {session' : PlannerSessionRow}
      (hfind : s'.plannerSessions.find? k = some session') :
      ∃ session₀, s.plannerSessions.find? k = some session₀ ∧
        session'.taskId = session₀.taskId := by
    rw [hsessions] at hfind
    split at hfind
    · obtain ⟨session₀, hstored, rfl⟩ := Option.map_eq_some_iff.mp hfind
      exact ⟨session₀, hstored, rfl⟩
    · exact ⟨session', hfind, rfl⟩
  refine ⟨fun k session' runId hfind hactive ↦ ?_, fun k runId hlive ↦ ?_,
    fun t task' k hfind hactive ↦ ?_, fun k session' hfind ↦ ?_⟩
  · rw [hsessions] at hfind
    split at hfind
    · next hk =>
      rw [hk, hsession] at hfind
      obtain rfl := Option.some.inj hfind
      obtain rfl := Option.some.inj hactive
      refine ⟨input, plannerBinding sessionId session, ?_, hrun.binding, hk.symm, rfl⟩
      rw [hrun.inputs, Table.find?_insert hrun.newInput, if_pos rfl]
    · exact (hinv.current k session' runId hfind hactive).of_persists hpersist
  · obtain ⟨run, hfind, hkind, hof, hactive⟩ := hlive
    rw [hrun.markers, Table.find?_insert hrun.unmarked]
    rw [hrun.runs, Table.find?_insert hrun.fresh] at hfind
    split at hfind
    · next hk =>
      obtain rfl := Option.some.inj hfind
      obtain rfl : sessionId = k := Option.some.inj hof
      rw [if_pos rfl, hk]
    · have hmarker := hinv.marked k runId ⟨run, hfind, hkind, hof, hactive⟩
      rw [if_neg, hmarker]
      rintro rfl
      rw [hrun.unmarked] at hmarker
      cases hmarker
  · obtain ⟨hne, session₀, hstored, hown⟩ := hinv.mine t task' k (htasks ▸ hfind) hactive
    obtain ⟨session', hstored', hfixed⟩ := (hpersist .plannerSessions).1 k session₀ hstored
    exact ⟨hne, session', hstored', Eq.trans hfixed hown⟩
  · obtain ⟨session₀, hstored, hown⟩ := horigin hfind
    obtain ⟨task', htask', hactive⟩ := hinv.owner k session₀ hstored
    exact ⟨task', hown ▸ htasks ▸ htask', hactive⟩

/-- A session that has no live run may lose its marker. -/
theorem markedPlanRun_none (h : markedPlanRun s sessionId = none) :
    MarkersHeld s (s.dropPlanMarker sessionId) := by
  refine .of_drop fun runId hmarker ↦ ?_
  rintro ⟨run, hrun, -, -, hactive⟩
  simp [markedPlanRun, hmarker, hrun, hactive] at h

theorem dispatchSessionRun_inv (hinv : PlannerInv s)
    (h : dispatchSessionRun env auth p taskId sessionId s = .ok (result, s')) : PlannerInv s' := by
  have hdropped (hnone : markedPlanRun s sessionId = none) :
      PlannerInv (s.dropPlanMarker sessionId) := by
    refine hinv.of_kept (.of_writes ?_ (markedPlanRun_none hnone))
    exact Respects.rel (m := (Refs.activePlanRunMarkers.delete sessionId : Core Unit)) (a := ())
      (Ref.delete_ok.mpr rfl)
  rcases dispatchSessionRun_ok h with rfl | ⟨hnone, rfl⟩ | ⟨task, session, hready, hcreate⟩
  · exact hinv
  · exact hdropped hnone
  · exact createPlanRun_inv (hdropped hready.free) hready.stored hcreate

theorem handler_planner (hinv : PlannerInv s)
    (h : handler env auth p operation s = .ok (result, s')) : PlannerInv s' := by
  by_cases hreplace : operation = .replacePlannerGeneration
  · subst hreplace
    obtain ⟨taskId, t₁, hkey, h₁⟩ := Tx.bind_ok.mp h
    obtain ⟨-, rfl⟩ := key_ok.mp hkey
    obtain ⟨task, t₂, hget, h₂⟩ := Tx.bind_ok.mp h₁
    obtain ⟨-, rfl⟩ := getTask_ok.mp hget
    obtain ⟨_, t₃, hcheck, h₃⟩ := Tx.bind_ok.mp h₂
    obtain ⟨-, rfl⟩ := Tx.check_ok.mp hcheck
    obtain ⟨sessionId, t₄, hbump, h₄⟩ := Tx.bind_ok.mp h₃
    exact (bumpPlannerGeneration_inv hinv hbump).of_kept (.of_ok h₄)
  · by_cases hplanner : operation = .dispatchPlannerRun
    · subst hplanner
      rcases dispatchPlannerRun_ok h with rfl | ⟨taskId, -, -, -, -, sessionId, t, hsession, hrun⟩
      · exact hinv
      · refine dispatchSessionRun_inv ?_ hrun
        rcases hsession with rfl | hbump
        · exact hinv
        · exact bumpPlannerGeneration_inv hinv hbump
    · exact hinv.of_kept ⟨(MarkersHeld.handler_respects hplanner).rel h,
        (SessionsMove.handler_respects hplanner).rel h,
        (NoSession.handler_respects hreplace hplanner).rel h,
        (TaskSessionsKept.handler_respects hreplace hplanner).rel h, Respects.rel h⟩

theorem plannerInv_invariant (ok : World → Label → Prop) :
    system.Invariant ok fun w ↦ PlannerInv w.db where
  init := ⟨(fun _ _ _ h ↦ nomatch h), (fun _ _ ⟨_, h, _⟩ ↦ nomatch h), (fun _ _ _ h ↦ nomatch h),
    (fun _ _ h ↦ nomatch h)⟩
  step w l w' hinv _ hstep := by
    have hrecorded {u u' : DB} (hw : Writes requestRecords u u') (hu : PlannerInv u) :
        PlannerInv u' :=
      hu.of_kept ⟨.of_writes (hw.mono (by decide)), .of_read ((hw .plannerSessions).2 (by decide)),
        .of_read ((hw .plannerSessions).2 (by decide)), .of_read ((hw .tasks).2 (by decide)),
        persists_of_writes hw⟩
    cases l
    case command env r =>
      rcases step_command hstep with hrecords | ⟨t, t', result, hran, hrecords⟩
      · exact hrecorded hrecords hinv
      · obtain ⟨n, rfl⟩ := hran.start
        have hdrawn : PlannerInv { w.db with drawn := n } :=
          ⟨hinv.current, hinv.marked, hinv.mine, hinv.owner⟩
        exact hrecorded hrecords (handler_planner hdrawn hran.run)
    all_goals
      exact hinv.of_kept ⟨step_background Preord.refl rfl hstep,
        step_background Preord.refl rfl hstep, step_background Preord.refl rfl hstep,
        step_background Preord.refl rfl hstep, step_rel hstep⟩

/-! ## Who may write -/

/-- A caller is bound to the run that may write for a session, and this run has not ended. -/
structure PlanRunBound (auth : AuthContext) (s : DB) (sessionId runId : String)
    (session : PlannerSessionRow) : Prop where
  writer : session.activeRunId = some runId
  bound : auth.boundRunId = some runId
  live : LivePlanRun s sessionId runId

theorem assertPlanRunBinding_ok {session : PlannerSessionRow}
    (h : assertPlanRunBinding auth taskId sessionId session p s = .ok ((), s')) :
    ∃ runId, PlanRunBound auth s sessionId runId session := by
  obtain ⟨_, t₁, hactor, h₁⟩ := Tx.bind_ok.mp h
  obtain ⟨-, rfl⟩ := Tx.check_ok.mp hactor
  obtain ⟨runId, t₂, hrequire, h₂⟩ := Tx.bind_ok.mp h₁
  obtain ⟨hwriter, rfl⟩ := Tx.require_ok.mp hrequire
  obtain ⟨_, t₃, hcheck, h₃⟩ := Tx.bind_ok.mp h₂
  obtain ⟨hbound, rfl⟩ := Tx.check_ok.mp hcheck
  rw [Tx.get_bind_ok] at h₃
  obtain ⟨run, t₄, hrequire', h₄⟩ := Tx.bind_ok.mp h₃
  obtain ⟨hrun, rfl⟩ := Tx.require_ok.mp hrequire'
  obtain ⟨_, t₅, hcheck', h₅⟩ := Tx.bind_ok.mp h₄
  obtain ⟨⟨hkind, hsession⟩, rfl⟩ := Tx.check_ok.mp hcheck'
  obtain ⟨_, t₆, hcheck'', -⟩ := Tx.bind_ok.mp h₅
  obtain ⟨hlive, rfl⟩ := Tx.check_ok.mp hcheck''
  refine ⟨runId, (truthy_eq_some.mp hwriter).1, hbound, run, hrun, hkind, hsession, ?_⟩
  rw [AgentRunStatus.isActive, hlive]
  rfl

/-- The credential of a caller for the planner session of a task: it is bound to the run that the
session names as active, the only PLAN run of the session that has not ended, created in the
generation the session is in, and it is of the principal of the task. -/
structure PlannerCredential (s : DB) (auth : AuthContext) (t sessionId runId : String)
    (task : TaskRow) (session : PlannerSessionRow) : Prop extends
    PlanRunBound auth s sessionId runId session where
  found : s.tasks.find? t = some task
  principal : auth.principalId = task.principalId
  current : task.activePlannerSessionId = some sessionId
  stored : s.plannerSessions.find? sessionId = some session
  only : ∀ runId', LivePlanRun s sessionId runId' → runId' = runId
  generation : CreatedIn s runId sessionId session.generation

/-- A refused write leaves an event at most. -/
def Refused (result : CommandResult) (s s' : DB) : Prop :=
  result.ok = false ∧ Writes [.events] s s'

/-- The invariant completes what the check of the binding finds. -/
theorem PlannerInv.credential {session : PlannerSessionRow} (hinv : PlannerInv s)
    (hfound : s.tasks.find? taskId = some task) (howner : auth.principalId = task.principalId)
    (hcurrent : task.activePlannerSessionId = some sessionId)
    (hstored : s.plannerSessions.find? sessionId = some session)
    (hbound : PlanRunBound auth s sessionId runId session) :
    PlannerCredential s auth taskId sessionId runId task session where
  toPlanRunBound := hbound
  found := hfound
  principal := howner
  current := hcurrent
  stored := hstored
  only runId' hlive := by
    have hmarker := hinv.marked sessionId runId' hlive
    rw [hinv.marked sessionId runId hbound.live] at hmarker
    exact (congrArg ActivePlanRunMarker.runId (Option.some.inj hmarker)).symm
  generation := hinv.current sessionId session runId hstored hbound.writer

theorem submitPlanProposal_credential (hinv : PlannerInv s) (hinternal : auth.actorType = .internal)
    (h : submitPlanProposal env auth p s = .ok (result, s')) :
    Refused result s s' ∨ ∃ t sessionId runId task session, p.taskId = some t ∧
      PlannerCredential s auth t sessionId runId task session := by
  obtain ⟨taskId, t₁, hkey, h₁⟩ := Tx.bind_ok.mp h
  obtain ⟨hnamed, rfl⟩ := key_ok.mp hkey
  obtain ⟨task, t₂, hget, h₂⟩ := Tx.bind_ok.mp h₁
  obtain ⟨hfound, rfl⟩ := getTask_ok.mp hget
  obtain ⟨sessionId, t₃, hrequire, h₃⟩ := Tx.bind_ok.mp h₂
  obtain ⟨hcurrent, rfl⟩ := Tx.require_ok.mp hrequire
  rw [Tx.get_bind_ok] at h₃
  obtain ⟨session, t₄, hrequire', h₄⟩ := Tx.bind_ok.mp h₃
  obtain ⟨hstored, rfl⟩ := Tx.require_ok.mp hrequire'
  obtain ⟨_, t₅, hcheck, h₅⟩ := Tx.bind_ok.mp h₄
  obtain ⟨howner, rfl⟩ := Tx.check_ok.mp hcheck
  rcases Tx.ite_ok.mp h₅ with ⟨-, h₆⟩ | ⟨-, h₆⟩
  · refine .inl ⟨?_, Respects.rel h₆⟩
    obtain ⟨_, t₆, -, hpure⟩ := Tx.bind_ok.mp h₆
    obtain ⟨rfl, -⟩ := Tx.pure_ok.mp hpure
    rfl
  · obtain ⟨_, t₆, hbinding, -⟩ := Tx.bind_ok.mp h₆
    rcases Tx.when_ok.mp hbinding with ⟨-, hbinding⟩ | ⟨hhuman, -⟩
    · obtain ⟨runId, hbound⟩ := assertPlanRunBinding_ok hbinding
      exact .inr ⟨taskId, sessionId, runId, task, session, hnamed,
        hinv.credential hfound howner hcurrent hstored hbound⟩
    · rw [hinternal] at hhuman
      exact absurd hhuman (by decide)

theorem advancePlannerCheckpoint_credential (hinv : PlannerInv s)
    (hinternal : auth.actorType = .internal)
    (h : advancePlannerCheckpoint env auth p s = .ok (result, s')) :
    Refused result s s' ∨ ∃ t sessionId runId task session, p.taskId = some t ∧
      PlannerCredential s auth t sessionId runId task session := by
  obtain ⟨taskId, t₁, hkey, h₁⟩ := Tx.bind_ok.mp h
  obtain ⟨hnamed, rfl⟩ := key_ok.mp hkey
  obtain ⟨task, t₂, hget, h₂⟩ := Tx.bind_ok.mp h₁
  obtain ⟨hfound, rfl⟩ := getTask_ok.mp hget
  obtain ⟨sessionId, t₃, hrequire, h₃⟩ := Tx.bind_ok.mp h₂
  obtain ⟨-, rfl⟩ := Tx.require_ok.mp hrequire
  rw [Tx.get_bind_ok] at h₃
  obtain ⟨session, t₄, hrequire', h₄⟩ := Tx.bind_ok.mp h₃
  obtain ⟨hfilter, rfl⟩ := Tx.require_ok.mp hrequire'
  obtain ⟨hstored, hown⟩ := Option.filter_eq_some_iff.mp hfilter
  obtain ⟨_, t₅, hcheck, h₅⟩ := Tx.bind_ok.mp h₄
  obtain ⟨howner, rfl⟩ := Tx.check_ok.mp hcheck
  -- a session of the task is the one that the task names
  have hcurrent : task.activePlannerSessionId = some sessionId := by
    obtain ⟨task', htask', hactive⟩ := hinv.owner sessionId session hstored
    rw [beq_iff_eq.mp hown, hfound] at htask'
    rw [Option.some.inj htask']
    exact hactive
  rcases Tx.ite_ok.mp h₅ with ⟨-, h₆⟩ | ⟨-, h₆⟩
  · refine .inl ⟨?_, Respects.rel h₆⟩
    obtain ⟨_, t₆, -, hpure⟩ := Tx.bind_ok.mp h₆
    obtain ⟨rfl, -⟩ := Tx.pure_ok.mp hpure
    rfl
  · obtain ⟨_, t₆, hbinding, -⟩ := Tx.bind_ok.mp h₆
    rcases Tx.when_ok.mp hbinding with ⟨-, hbinding⟩ | ⟨hhuman, -⟩
    · obtain ⟨runId, hbound⟩ := assertPlanRunBinding_ok hbinding
      exact .inr ⟨taskId, sessionId, runId, task, session, hnamed,
        hinv.credential hfound howner hcurrent hstored hbound⟩
    · rw [hinternal] at hhuman
      exact absurd hhuman (by decide)

/-- A proposal or a checkpoint of an internal caller. -/
structure PlannerWrite (r : Request) : Prop where
  operation : r.operation = .submitPlanProposal ∨ r.operation = .advancePlannerCheckpoint
  internal : r.auth.actorType = .internal

theorem PlannerWrite.credential {r : Request} (hwrite : PlannerWrite r) (hinv : PlannerInv s)
    (h : handler env r.auth r.payload r.operation s = .ok (result, s')) :
    Refused result s s' ∨ ∃ t sessionId runId task session, r.payload.taskId = some t ∧
      PlannerCredential s r.auth t sessionId runId task session := by
  rcases hwrite.operation with hop | hop <;> rw [hop] at h
  · exact submitPlanProposal_credential hinv hwrite.internal h
  · exact advancePlannerCheckpoint_credential hinv hwrite.internal h

/-! ## Generations only advance -/

/-- The generations of the sessions do not go back. -/
abbrev GenerationsAdvance : DB → DB → Prop :=
  Moves Refs.plannerSessions fun a b ↦ a.generation ≤ b.generation

instance : Preord fun a b : PlannerSessionRow ↦ a.generation ≤ b.generation where
  refl _ := le_rfl
  trans h h' := h.trans h'

namespace GenerationsAdvance

theorem of_move (h : SessionsMove s s') : GenerationsAdvance s s' := by
  intro k session hsession
  obtain ⟨session', hsession', hle⟩ := h k session hsession
  exact ⟨session', hsession', hle.1⟩

instance createPlanRun_respects {session : PlannerSessionRow} :
    Respects GenerationsAdvance (createPlanRun env auth p taskId task sessionId session) := by
  have hname (runId : String) : Respects GenerationsAdvance (Refs.plannerSessions.update sessionId
      fun ps ↦ { ps with activeRunId := some runId } : Core Unit) := Moves.update fun _ ↦ le_rfl
  rw [createPlanRun]
  infer_instance

instance bumpPlannerGeneration_respects :
    Respects GenerationsAdvance (bumpPlannerGeneration env auth taskId) :=
  .mono (R := SessionsMove) inferInstance of_move

instance handler_respects : Respects GenerationsAdvance (handler env auth p operation) := by
  by_cases hplanner : operation = .dispatchPlannerRun
  · subst hplanner
    dsimp only [handler]
    infer_instance
  · exact .mono (SessionsMove.handler_respects hplanner) of_move

instance background : Background GenerationsAdvance := background_of_ack of_move fun _ _ _ ↦
  .mono (R := SessionsMove) inferInstance of_move

instance transactions : Transactions GenerationsAdvance where
  command _ _ := execute_respects inferInstance

end GenerationsAdvance

/-- A replacement advances the generation of the session. -/
theorem revokePlanRun_advances {session : PlannerSessionRow}
    (hstored : s.plannerSessions.find? sessionId = some session)
    (h : revokePlanRun env flushed taskId sessionId s = .ok ((), s')) :
    ∃ session', s'.plannerSessions.find? sessionId = some session' ∧
      session.generation < session'.generation := by
  rw [revokePlanRun, Tx.get_bind_ok] at h
  obtain ⟨_, t, hrevoke, hnext⟩ := Tx.bind_ok.mp h
  have hmoved : SessionsMove s t := Respects.rel hrevoke
  obtain ⟨session₁, hstored₁, hle, -⟩ := hmoved sessionId session hstored
  obtain rfl := Ref.update_ok.mp hnext
  exact ⟨_, (Table.find?_modify_self _ _ _).trans (congrArg _ hstored₁), Nat.lt_succ_of_le hle⟩

theorem replacePlannerGeneration_advances {session : PlannerSessionRow} (hinv : PlannerInv s)
    (hnamed : p.taskId = some taskId) (hfound : s.tasks.find? taskId = some task)
    (hcurrent : task.activePlannerSessionId = some sessionId)
    (hstored : s.plannerSessions.find? sessionId = some session)
    (h : replacePlannerGeneration env auth p s = .ok (result, s')) :
    ∃ session', s'.plannerSessions.find? sessionId = some session' ∧
      session.generation < session'.generation := by
  obtain ⟨taskId', t₁, hkey, h₁⟩ := Tx.bind_ok.mp h
  obtain ⟨hnamed', rfl⟩ := key_ok.mp hkey
  obtain rfl := Option.some.inj (hnamed.symm.trans hnamed')
  obtain ⟨_, t₂, hget, h₂⟩ := Tx.bind_ok.mp h₁
  obtain ⟨-, rfl⟩ := getTask_ok.mp hget
  obtain ⟨_, t₃, hcheck, h₃⟩ := Tx.bind_ok.mp h₂
  obtain ⟨-, rfl⟩ := Tx.check_ok.mp hcheck
  obtain ⟨sessionId', t₄, hbump, h₄⟩ := Tx.bind_ok.mp h₃
  obtain ⟨hne, -⟩ := hinv.mine taskId task sessionId hfound hcurrent
  rw [bumpPlannerGeneration, Tx.get_bind_ok] at hbump
  obtain ⟨task', t₅, hget', h₅⟩ := Tx.bind_ok.mp hbump
  obtain ⟨hfound', rfl⟩ := getTask_ok.mp hget'
  obtain rfl := Option.some.inj (hfound.symm.trans hfound')
  obtain ⟨drawn, t₆, hdraw, h₆⟩ := Tx.bind_ok.mp h₅
  obtain ⟨-, rfl⟩ := newId_ok.mp hdraw
  have hsession : (truthy task.activePlannerSessionId).getD drawn = sessionId := by
    rw [hcurrent, truthy_eq_some.mpr ⟨rfl, hne⟩, Option.getD_some]
  rw [hsession] at h₆
  rcases Tx.ite_ok.mp h₆ with ⟨hnew, -⟩ | ⟨-, h₇⟩
  · rw [hstored] at hnew
    cases hnew
  · obtain ⟨_, t₇, hrevoke, hrest⟩ := Tx.bind_ok.mp h₇
    obtain ⟨session₁, hstored₁, hlt⟩ := revokePlanRun_advances (by exact hstored) hrevoke
    have hmoved : SessionsMove t₇ s' := Preord.trans (Respects.rel hrest) (Respects.rel h₄)
    obtain ⟨session₂, hstored₂, hle, -⟩ := hmoved sessionId session₁ hstored₁
    exact ⟨session₂, hstored₂, hlt.trans_le hle⟩

/-! ## The fence -/

/-- Nothing that a planner writes has changed. -/
structure PlannerSame (s s' : DB) : Prop extends PlanningSame s s' where
  sessions : s'.plannerSessions = s.plannerSessions
  decisions : s'.decisions = s.decisions
  gates : s'.gates = s.gates
  tasks : s'.tasks = s.tasks

theorem PlannerSame.of_writes (h : Writes [.events, .inbox, .idempotencyKeys] s s') :
    PlannerSame s s' where
  toPlanningSame := .of_writes (h.mono (by decide))
  sessions := ((h .plannerSessions).2 (by decide)).symm
  decisions := ((h .decisions).2 (by decide)).symm
  gates := ((h .gates).2 (by decide)).symm
  tasks := ((h .tasks).2 (by decide)).symm

/-- A new generation of the planner session of a task was committed. -/
structure Replaces (env : Env) (r : Request) (w w' : World) (t sessionId : String) : Prop where
  step : system.step w (.command env r) = some w'
  operation : r.operation = .replacePlannerGeneration
  accepted : ∃ result, execute env r w.db = .ok (result, w'.db) ∧ result.replayed = false
  named : r.payload.taskId = some t
  current : ∃ task, w.db.tasks.find? t = some task ∧
    task.activePlannerSessionId = some sessionId

/-- The handler of a command that is no replay ran. -/
theorem execute_ran {r : Request} (h : execute env r s = .ok (result, s'))
    (hfresh : result.replayed = false) :
    ∃ t t', Ran env r s t t' result ∧ Writes requestRecords t' s' := by
  rcases execute_cases h with ⟨hreplay, -⟩ | hran
  · rw [hfresh] at hreplay
    cases hreplay
  · exact hran

theorem Replaces.advances {r : Request} {w w' : World} {t : String} {session : PlannerSessionRow}
    (hinv : PlannerInv w.db) (h : Replaces env r w w' t sessionId)
    (hstored : w.db.plannerSessions.find? sessionId = some session) :
    ∃ session', w'.db.plannerSessions.find? sessionId = some session' ∧
      session.generation < session'.generation := by
  obtain ⟨result, hexecute, hfresh⟩ := h.accepted
  obtain ⟨u, u', hran, hrecords⟩ := execute_ran hexecute hfresh
  obtain ⟨n, rfl⟩ := hran.start
  have hrun := hran.run
  rw [h.operation] at hrun
  obtain ⟨task, hfound, hcurrent⟩ := h.current
  have hdrawn : PlannerInv { w.db with drawn := n } :=
    ⟨hinv.current, hinv.marked, hinv.mine, hinv.owner⟩
  obtain ⟨session', hstored', hlt⟩ :=
    replacePlannerGeneration_advances hdrawn h.named hfound hcurrent hstored hrun
  have hsame := (hrecords .plannerSessions).2 (by decide)
  exact ⟨session', (congrArg (·.find? sessionId) hsame).symm.trans hstored', hlt⟩

/-- A write with the credential of a run of an earlier generation is refused. -/
theorem late_write_refused {r : Request} {w w' : World} {generation : Nat}
    {session : PlannerSessionRow} (hinv : PlannerInv w.db)
    (hstored : w.db.plannerSessions.find? sessionId = some session)
    (hcreated : CreatedIn w.db runId sessionId generation)
    (hearlier : generation < session.generation) (hwrite : PlannerWrite r)
    (hbound : r.auth.boundRunId = some runId)
    (hstep : system.step w (.command env r) = some w') : PlannerSame w.db w'.db := by
  rcases step_command hstep with hrecords | ⟨u, u', result, hran, hrecords⟩
  · exact .of_writes (hrecords.mono (by decide))
  · obtain ⟨n, rfl⟩ := hran.start
    have hdrawn : PlannerInv { w.db with drawn := n } :=
      ⟨hinv.current, hinv.marked, hinv.mine, hinv.owner⟩
    have hstart : Writes [.events, .inbox, .idempotencyKeys] w.db { w.db with drawn := n } :=
      writes_drawn _ _
    rcases hwrite.credential hdrawn hran.run with ⟨-, hevents⟩ | ⟨t, sessionId', runId', hcred⟩
    · exact .of_writes (Preord.trans hstart
        (Preord.trans (hevents.mono (by decide)) (hrecords.mono (by decide))))
    · obtain ⟨task, session', -, hcred⟩ := hcred
      obtain rfl := Option.some.inj (hbound.symm.trans hcred.bound)
      obtain ⟨rfl, rfl⟩ := CreatedIn.unique hcreated hcred.generation
      have hstored' : w.db.plannerSessions.find? sessionId' = some session' := hcred.stored
      obtain rfl := Option.some.inj (hstored.symm.trans hstored')
      exact absurd hearlier (Nat.lt_irrefl _)

/-- The credential of the PLAN run of the sample. -/
def samplePlanner : AuthContext where
  principalId := "owner"
  actorId := "planner:run_iiiiiiiii"
  actorType := .internal
  boundTaskId := some "task_i"
  boundRunId := some "run_iiiiiiiii"
  boundFencingEpoch := some 1
  boundGrantEpoch := some 0

/-- A checkpoint of the first generation, as one message. -/
def sampleCheckpoint : Request where
  operation := .advancePlannerCheckpoint
  auth := samplePlanner
  payload :=
    { taskId := some "task_i", generation := some 1, checkpointRef := some (some "checkpoint") }
  messageId := some "message"

/-- A task with a PLAN run of the first generation. -/
def samplePlanned : List Label :=
  let human := AuthContext.ofHuman "owner"
  [ .ask human .createTask { title := some "task" },
    .ask human .submitContract { taskId := some "task_i" },
    .ask human .approveContract { decisionId := some "dec_iiii" },
    .ask human .dispatchPlannerRun { taskId := some "task_i" } ]

/-- The run was started. -/
def samplePlanning : List Label :=
  samplePlanned ++
    [.claim .silent 0, .check .silent 0, .call 0 (.start true (.ok false)), .settle .silent 0,
      .finish 0]

/-- The run wrote its checkpoint, and then its generation was replaced. -/
def sampleReplaced : List Label :=
  samplePlanning ++
    [.command .silent sampleCheckpoint,
      .ask (.ofHuman "owner") .replacePlannerGeneration { taskId := some "task_i" }]

/-- The credential that an accepted write is made with, and the writes that come late: in every
reachable state a proposal or a checkpoint of an internal caller that is accepted, and is not the
replay of one accepted before, is made with the credential of the active PLAN run of the session of
the task, which is of the current generation. A replacement begins a later generation, and from then
on the runs of the earlier ones change nothing any more. -/
theorem planner_generations_fenced {w : World} (hw : system.Reachable w) :
    (∀ env r result db, PlannerWrite r → execute env r w.db = .ok (result, db) →
      result.ok = true → result.replayed = false →
      ∃ t sessionId runId task session, r.payload.taskId = some t ∧
        PlannerCredential w.db r.auth t sessionId runId task session) ∧
    ∀ env r w₁ t sessionId session, Replaces env r w w₁ t sessionId →
      w.db.plannerSessions.find? sessionId = some session →
      ∃ session₁, w₁.db.plannerSessions.find? sessionId = some session₁ ∧
        session.generation < session₁.generation ∧
        ∀ runId generation ok w₂ env' r' w₃, CreatedIn w₁.db runId sessionId generation →
          generation < session₁.generation → system.Run ok w₁ w₂ → PlannerWrite r' →
          r'.auth.boundRunId = some runId → system.step w₂ (.command env' r') = some w₃ →
          PlannerSame w₂.db w₃.db := by
  have hinv : PlannerInv w.db := (plannerInv_invariant fun _ _ ↦ True).of_reachable hw
  constructor
  · intro env r result db hwrite hexecute hok hfresh
    obtain ⟨u, u', hran, -⟩ := execute_ran hexecute hfresh
    obtain ⟨n, rfl⟩ := hran.start
    have hdrawn : PlannerInv { w.db with drawn := n } :=
      ⟨hinv.current, hinv.marked, hinv.mine, hinv.owner⟩
    rcases hwrite.credential hdrawn hran.run with ⟨hfailed, -⟩ | hcredential
    · rw [hok] at hfailed
      cases hfailed
    · obtain ⟨t, sessionId, runId, task, session, hnamed, hcred⟩ := hcredential
      exact ⟨t, sessionId, runId, task, session, hnamed,
        { writer := hcred.writer, bound := hcred.bound, live := hcred.live, found := hcred.found
          principal := hcred.principal, current := hcred.current, stored := hcred.stored
          only := hcred.only, generation := hcred.generation }⟩
  · intro env r w₁ t sessionId session hreplaces hstored
    obtain ⟨session₁, hstored₁, hlt⟩ := hreplaces.advances hinv hstored
    refine ⟨session₁, hstored₁, hlt, ?_⟩
    intro runId generation ok w₂ env' r' w₃ hcreated hearlier hrun hwrite hbound hstep
    have hinv₁ : PlannerInv w₁.db :=
      (plannerInv_invariant fun _ _ ↦ True).step _ _ _ hinv trivial hreplaces.step
    have hinv₂ : PlannerInv w₂.db :=
      hrun.induct hinv₁ fun _ _ _ h _ hstep ↦
        (plannerInv_invariant fun _ _ ↦ True).step _ _ _ h trivial hstep
    have hadvanced : GenerationsAdvance w₁.db w₂.db := run_rel hrun
    obtain ⟨session₂, hstored₂, hle⟩ := hadvanced sessionId session₁ hstored₁
    exact late_write_refused hinv₂ hstored₂ (hcreated.of_persists (run_rel hrun))
      (hearlier.trans_le hle) hwrite hbound hstep

/-- How the checkpoint of the sample is answered, and the session and the run that may write. -/
def sampleAnswer (w : World) : Option (Bool × Bool) × Option String × Option (Option String) :=
  (match execute .silent sampleCheckpoint w.db with
    | .ok (result, _) => some (result.ok, result.replayed)
    | .error _ => none,
  (w.db.tasks.find? "task_i").bind TaskRow.activePlannerSessionId,
  (w.db.plannerSessions.find? "ps_iiiiiiii").map PlannerSessionRow.activeRunId)

theorem sampleAnswer_executed {w : World} {ok replayed : Bool}
    (h : (sampleAnswer w).1 = some (ok, replayed)) :
    ∃ result db, execute .silent sampleCheckpoint w.db = .ok (result, db) ∧ result.ok = ok ∧
      result.replayed = replayed := by
  dsimp only [sampleAnswer] at h
  split at h
  · next result db hexecute =>
    obtain ⟨rfl, rfl⟩ := Prod.mk.inj (Option.some.inj h)
    exact ⟨result, db, hexecute, rfl, rfl⟩
  · cases h

/-- The first time, the checkpoint of the sample is accepted. -/
theorem planner_generations_fenced_samplePlanning :
    ∃ w, system.exec system.init samplePlanning = some w ∧
      ∃ t sessionId runId task session, sampleCheckpoint.payload.taskId = some t ∧
        PlannerCredential w.db sampleCheckpoint.auth t sessionId runId task session := by
  have hview : (system.exec system.init samplePlanning).map (fun w ↦ (sampleAnswer w).1) =
      some (some (true, false)) := by
    decide +kernel
  obtain ⟨w, hexec, hanswer⟩ := Option.map_eq_some_iff.mp hview
  obtain ⟨result, db, hexecute, hok, hfresh⟩ := sampleAnswer_executed hanswer
  exact ⟨w, hexec, (planner_generations_fenced (.of_exec hexec)).1 _ _ _ _
    ⟨.inr rfl, rfl⟩ hexecute hok hfresh⟩

/-- A message that is repeated is answered from the inbox, also when the run that sent it has been
replaced. -/
theorem sampleReplaced_answered :
    ∃ w result db, system.Reachable w ∧ PlannerWrite sampleCheckpoint ∧
      execute .silent sampleCheckpoint w.db = .ok (result, db) ∧ result.ok = true ∧
      ¬∃ t sessionId runId task session, sampleCheckpoint.payload.taskId = some t ∧
        PlannerCredential w.db sampleCheckpoint.auth t sessionId runId task session := by
  have hview : (system.exec system.init sampleReplaced).map sampleAnswer =
      some (some (true, true), some "ps_iiiiiiii", some none) := by
    decide +kernel
  obtain ⟨w, hexec, hw⟩ := Option.map_eq_some_iff.mp hview
  obtain ⟨result, db, hexecute, hok, -⟩ := sampleAnswer_executed (congrArg Prod.fst hw)
  refine ⟨w, result, db, .of_exec hexec, ⟨.inr rfl, rfl⟩, hexecute, hok, ?_⟩
  rintro ⟨t, sessionId, runId, task, session, hnamed, hcred⟩
  obtain rfl := Option.some.inj hnamed
  simp only [sampleAnswer, Prod.mk.injEq, hcred.found, Option.bind_some, hcred.current,
    Option.some.injEq] at hw
  obtain ⟨-, rfl, hsession⟩ := hw
  rw [hcred.stored, Option.map_some, hcred.writer] at hsession
  cases hsession

end HibikiCore
