import HibikiCore.Safety.Runs

/-!
# The status of work units

Most transactions leave the status of a unit, or take a unit that has not ended to a status other
than running and done. Only the dispatch of runs makes a unit running, and only a result that is
accepted makes it done.

A submission does not ask for the status of the unit. So a step moves a unit only as it should where
the results that would be accepted come from the runs that their units are running for.
-/

namespace HibikiCore

set_option synthInstance.maxSize 100000000
set_option synthInstance.maxHeartbeats 400000

/-- The tables beside `workUnitExecutions`. -/
abbrev besideUnits : List Relation :=
  [.tasks, .contracts, .activeContractMarkers, .explanations, .decisions, .gates, .plans,
    .activePlanMarkers, .workUnitSpecs, .plannerSessions, .agentRuns, .activeExecuteRunMarkers,
    .activePlanRunMarkers, .workspaces, .contextManifests, .sideEffects, .events, .inbox,
    .outbox, .idempotencyKeys, .resultSnapshots, .artifacts, .acceptanceEvidence,
    .agentProfiles, .runInputs, .toolInvocations, .contextAppends, .taskMessages]

instance : Faithful Refs.workUnitExecutions := ⟨id⟩

instance {n : Relation} [h : Touches n besideUnits] : Beside Refs.workUnitExecutions n where
  ne := by
    rintro rfl
    exact absurd h.mem (by decide)

/-! ## Ways a unit moves -/

/-- A relation on units that looks at nothing but the status. -/
class StatusOrder (le : WorkUnitExecutionRow → WorkUnitExecutionRow → Prop) : Prop
    extends Preord le where
  of_status : ∀ {a b}, b.status = a.status → le a b

/-- A unit keeps its status. -/
def UnitKeeps (a b : WorkUnitExecutionRow) : Prop := b.status = a.status

/-- A unit that is not running keeps its status. -/
def UnitLoosens (a b : WorkUnitExecutionRow) : Prop :=
  b.status = a.status ∨ a.status = .running

/-- A unit keeps its status, or it had not ended and is neither running nor done. -/
def UnitSettles (a b : WorkUnitExecutionRow) : Prop :=
  b.status = a.status ∨
    a.status.isTerminal = false ∧ b.status ≠ .done ∧ b.status ≠ .running

/-- A unit keeps its status, or it was pending and is running or blocked. -/
def UnitStarts (a b : WorkUnitExecutionRow) : Prop :=
  b.status = a.status ∨ a.status = .pending ∧ (b.status = .running ∨ b.status = .blocked)

instance : StatusOrder UnitKeeps where
  refl _ := rfl
  trans h h' := Eq.trans h' h
  of_status h := h

instance : StatusOrder UnitLoosens where
  refl _ := .inl rfl
  trans {a b c} h h' := by
    rcases h with hsame | hrunning
    · rw [UnitLoosens, ← hsame]
      exact h'
    · exact .inr hrunning
  of_status h := .inl h

instance : StatusOrder UnitSettles where
  refl _ := .inl rfl
  trans {a b c} h h' := by
    rcases h' with hsame | ⟨hlive, hc⟩
    · rw [UnitSettles, hsame]
      exact h
    · rcases h with hsame | ⟨ha, -⟩
      · exact .inr ⟨hsame ▸ hlive, hc⟩
      · exact .inr ⟨ha, hc⟩
  of_status h := .inl h

instance : StatusOrder UnitStarts where
  refl _ := .inl rfl
  trans {a b c} h h' := by
    rcases h with hsame | ⟨hpending, hb⟩
    · rw [UnitStarts, ← hsame]
      exact h'
    · rcases h' with hsame | ⟨hb', -⟩
      · rw [UnitStarts, hsame]
        exact .inr ⟨hpending, hb⟩
      · rcases hb with hb | hb <;> rw [hb'] at hb <;> cases hb
  of_status h := .inl h

/-- A relation on units that looks at status and active run only, and that lets pending units
start. -/
class StartOrder (le : WorkUnitExecutionRow → WorkUnitExecutionRow → Prop) : Prop
    extends Preord le where
  of_same : ∀ {a b}, b.status = a.status → b.activeRunId = a.activeRunId → le a b
  of_pending : ∀ {a b}, a.status = .pending → b.status = .running ∨ b.status = .blocked → le a b

instance : StartOrder UnitStarts where
  of_same h _ := .inl h
  of_pending h h' := .inr ⟨h, h'⟩

/-- A unit that is running goes on for the same run. -/
def UnitRuns (a b : WorkUnitExecutionRow) : Prop :=
  a.status = .running → b.status = .running ∧ b.activeRunId = a.activeRunId

instance : StartOrder UnitRuns where
  refl _ h := ⟨h, rfl⟩
  trans h h' ha := ⟨(h' (h ha).1).1, (h' (h ha).1).2.trans (h ha).2⟩
  of_same hstatus hactive h := ⟨hstatus.trans h, hactive⟩
  of_pending h _ hrunning := by
    rw [h] at hrunning
    cases hrunning

/-- Units move along a relation on rows. -/
abbrev Units (le : WorkUnitExecutionRow → WorkUnitExecutionRow → Prop) : DB → DB → Prop :=
  Moves Refs.workUnitExecutions le

variable {le : WorkUnitExecutionRow → WorkUnitExecutionRow → Prop} {env : Env}
  {auth : AuthContext} {p : Payload} {task : TaskRow} {run : AgentRunRow} {row : OutboxRow}
  {flushed s s' : DB} {taskId runId wuId outboxId sessionId : String}

section StatusOrder

variable [StatusOrder le]

/-- An update that leaves the status. -/
theorem Units.update_same {f : WorkUnitExecutionRow → WorkUnitExecutionRow}
    {hf : ∀ a, SameFixed a (f a)} (h : ∀ a, (f a).status = a.status) :
    Respects (Units le) (Refs.workUnitExecutions.update wuId f hf : Core Unit) :=
  Moves.update fun a ↦ StatusOrder.of_status (h a)

theorem Units.updateWhere_same {q : String → WorkUnitExecutionRow → Bool}
    {f : WorkUnitExecutionRow → WorkUnitExecutionRow} {hf : ∀ a, SameFixed a (f a)}
    (h : ∀ a, (f a).status = a.status) :
    Respects (Units le) (Refs.workUnitExecutions.updateWhere q f hf : Core Unit) :=
  Moves.updateWhere fun _ a _ ↦ StatusOrder.of_status (h a)

instance clearRunOccupancy_units {release : Bool} :
    Respects (Units le) (clearRunOccupancy runId release) := by
  have hfree (wuId : String) : Respects (Units le) (Refs.workUnitExecutions.updateWhere
      (fun k u ↦ k == wuId && u.activeRunId == some runId)
      fun u ↦ { u with activeRunId := none } : Core Unit) := Units.updateWhere_same fun _ ↦ rfl
  rw [clearRunOccupancy]
  infer_instance

instance rebindUnit_units {node : RawNode} {wu : WorkUnitExecutionRow} :
    Respects (Units le) (rebindUnit node wu) := by
  have hbind : Respects (Units le) (Refs.workUnitExecutions.update node.workUnitId
      fun u ↦ { u with specVersion := node.version } : Core Unit) :=
    Units.update_same fun _ ↦ rfl
  rw [rebindUnit]
  infer_instance

instance installUnit_units {node : RawNode} : Respects (Units le) (installUnit taskId node) := by
  rw [installUnit]
  exact .seq inferInstance fun _ ↦ by split <;> infer_instance

instance recordSupersededResult_units {result : RunResult} {ref : String} :
    Respects (Units le) (recordSupersededResult env auth runId wuId run result ref) := by
  have hfree : Respects (Units le) (Refs.workUnitExecutions.updateWhere
      (fun k u ↦ k == wuId && u.activeRunId == some runId)
      fun u ↦ { u with activeRunId := none } : Core Unit) := Units.updateWhere_same fun _ ↦ rfl
  rw [recordSupersededResult]
  infer_instance

end StatusOrder

/-! ## Units that are not needed any more -/

namespace UnitsSettle

/-- An update under a condition that the unit has not ended. -/
theorem updateWhere {q : String → WorkUnitExecutionRow → Bool}
    {f : WorkUnitExecutionRow → WorkUnitExecutionRow} {hf : ∀ a, SameFixed a (f a)}
    (hlive : ∀ k a, q k a = true → a.status.isTerminal = false)
    (h : ∀ a, (f a).status ≠ .done ∧ (f a).status ≠ .running) :
    Respects (Units UnitSettles) (Refs.workUnitExecutions.updateWhere q f hf : Core Unit) :=
  Moves.updateWhere fun k a hq ↦ .inr ⟨hlive k a hq, h a⟩

/-- An update of a unit that has not ended. -/
theorem update_live {u : WorkUnitExecutionRow}
    {f : WorkUnitExecutionRow → WorkUnitExecutionRow} {hf : ∀ a, SameFixed a (f a)}
    (hu : s.workUnitExecutions.find? wuId = some u) (hlive : u.status.isTerminal = false)
    (hnext : ∀ a, (f a).status ≠ .done ∧ (f a).status ≠ .running)
    (h : (Refs.workUnitExecutions.update wuId f hf : Core Unit) s = .ok ((), s')) :
    Units UnitSettles s s' := by
  refine Moves.of_update (fun a ha ↦ ?_) h
  obtain rfl := Option.some.inj (hu.symm.trans ha)
  exact .inr ⟨hlive, hnext u⟩

instance recomputeRunnableState_respects :
    Respects (Units UnitSettles) (recomputeRunnableState env taskId) := by
  have hfree : Respects (Units UnitSettles) (Refs.workUnitExecutions.updateWhere
      (fun _ u ↦ u.isGateBlocked taskId) fun u ↦
        { u with status := .pending, blockedReason := none, activeRunId := none } : Core Unit) := by
    refine updateWhere (fun _ u hu ↦ ?_) fun _ ↦ by simp
    have hblocked : u.status = .blocked := by
      simp only [WorkUnitExecutionRow.isGateBlocked, Bool.and_eq_true, beq_iff_eq] at hu
      exact hu.1.2
    rw [hblocked]
    rfl
  rw [recomputeRunnableState]
  dsimp only [transitionWorkUnit_blockCleared]
  infer_instance

instance recoverWorkUnitAfterLostRun_respects :
    Respects (Units UnitSettles) (recoverWorkUnitAfterLostRun env runId) where
  rel {s _ s'} h := by
    obtain ⟨run, t, hget, h₁⟩ := Tx.bind_ok.mp h
    obtain ⟨-, rfl⟩ := getRun_ok.mp hget
    rw [Tx.get_bind_ok] at h₁
    rcases Tx.withSome_ok.mp h₁ with ⟨wuId, -, h₂⟩ | ⟨-, rfl⟩
    · rcases Tx.withSome_ok.mp h₂ with ⟨wu, hwu, h₃⟩ | ⟨-, rfl⟩
      · rcases Tx.when_ok.mp h₃ with ⟨hrunning, h₄⟩ | ⟨-, rfl⟩
        · have hlive : wu.status.isTerminal = false := by rw [hrunning]; rfl
          rcases Tx.ite_ok.mp h₄ with ⟨-, h₅⟩ | ⟨-, h₅⟩
          · obtain ⟨_, u, hblock, hpark⟩ := Tx.bind_ok.mp h₅
            exact Preord.trans (update_live hwu hlive (fun _ ↦ by simp) hblock)
              (Respects.rel hpark)
          · rcases Tx.ite_ok.mp h₅ with ⟨-, h₆⟩ | ⟨-, hretry⟩
            · obtain ⟨_, u, hblock, hpark⟩ := Tx.bind_ok.mp h₆
              exact Preord.trans (update_live hwu hlive (fun _ ↦ by simp) hblock)
                (Respects.rel hpark)
            · exact update_live hwu hlive (fun _ ↦ by simp) hretry
        · exact Preord.refl _
      · exact Preord.refl _
    · exact Preord.refl _

instance removeUnit_respects :
    Respects (Units UnitSettles) (removeUnit env flushed taskId wuId) where
  rel {s _ s'} h := by
    rw [removeUnit, Tx.get_bind_ok] at h
    rcases Tx.withSome_ok.mp h with ⟨wu, hwu, h₁⟩ | ⟨-, rfl⟩
    · rcases Tx.when_ok.mp h₁ with ⟨hlive, h₂⟩ | ⟨-, rfl⟩
      · rcases Tx.ite_ok.mp h₂ with ⟨-, hcancel⟩ | ⟨-, h₃⟩
        · exact update_live hwu hlive (fun _ ↦ by simp) hcancel
        · obtain ⟨_, t, hstop, h₄⟩ := Tx.bind_ok.mp h₃
          obtain ⟨_, u, hcancel, hdrop⟩ := Tx.bind_ok.mp h₄
          -- stopping the run leaves the status of its unit
          have hkeeps : Units UnitKeeps s t := Respects.rel hstop
          obtain ⟨wu', hwu', hsame⟩ := hkeeps wuId wu hwu
          have hlive' : wu'.status.isTerminal = false := hsame.symm ▸ hlive
          exact Preord.trans (Respects.rel hstop)
            (Preord.trans (update_live hwu' hlive' (fun _ ↦ by simp) hcancel)
              (Respects.rel hdrop))
      · exact Preord.refl _
    · exact Preord.refl _

/-! ## Pause, gates and stops -/

theorem running_live {status : WorkUnitStatus} (h : (status == .running) = true) :
    status.isTerminal = false := by
  rw [beq_iff_eq] at h
  rw [h]
  rfl

instance revokeUnsentStart_respects :
    Respects (Units UnitSettles) (revokeUnsentStart env outboxId runId task) := by
  have hfree (wuId : String) : Respects (Units UnitSettles) (Refs.workUnitExecutions.updateWhere
      (fun k u ↦ k == wuId && u.status == .running) fun u ↦
        { u with status := .pending, blockedReason := none, activeRunId := none } : Core Unit) :=
    updateWhere (fun _ _ hu ↦ running_live (Bool.and_eq_true_iff.mp hu).2) fun _ ↦ by simp
  rw [revokeUnsentStart]
  infer_instance

instance runtimeQuiescent_respects :
    Respects (Units UnitSettles) (runtimeQuiescent env auth p) := by
  have hblock (taskId : String) : Respects (Units UnitSettles)
      (Refs.workUnitExecutions.updateWhere (fun _ u ↦ u.taskId == taskId && u.status == .running)
        fun u ↦ { u with status := .blocked, blockedReason := some .paused, activeRunId := none }
          : Core Unit) :=
    updateWhere (fun _ _ hu ↦ running_live (Bool.and_eq_true_iff.mp hu).2) fun _ ↦ by simp
  rw [runtimeQuiescent]
  infer_instance

instance resumeTask_respects : Respects (Units UnitSettles) (resumeTask env auth p) := by
  have hfree (taskId : String) : Respects (Units UnitSettles)
      (Refs.workUnitExecutions.updateWhere
        (fun _ u ↦ u.taskId == taskId && u.status == .blocked && u.isPaused)
        fun u ↦ { u with status := .pending, blockedReason := none } : Core Unit) := by
    refine updateWhere (fun _ u hu ↦ ?_) fun _ ↦ by simp
    simp only [Bool.and_eq_true, beq_iff_eq] at hu
    rw [hu.1.2]
    rfl
  rw [resumeTask]
  infer_instance

instance blockGatedRun_respects {reason : WaitingReason} :
    Respects (Units UnitSettles) (blockGatedRun env flushed taskId runId reason) := by
  have hblock (wuId : String) : Respects (Units UnitSettles) (Refs.workUnitExecutions.updateWhere
      (fun k u ↦ k == wuId && u.status == .running) fun u ↦
        { u with status := .blocked, blockedReason := some (.gate reason),
                 activeRunId := none } : Core Unit) :=
    updateWhere (fun _ _ hu ↦ running_live (Bool.and_eq_true_iff.mp hu).2) fun _ ↦ by simp
  rw [blockGatedRun]
  infer_instance

instance settleStoppedRun_respects {reason : String} :
    Respects (Units UnitSettles) (settleStoppedRun env runId run reason) := by
  have hfree (wuId : String) : Respects (Units UnitSettles) (Refs.workUnitExecutions.updateWhere
      (fun k u ↦ k == wuId && u.status == .running) fun u ↦
        { u with
          status :=
            if u.blockedReason.all (·.text = "") then .pending
            else if run.status = .running then .blocked
            else u.status
          activeRunId := none } : Core Unit) := by
    refine Moves.updateWhere fun _ u hu ↦ ?_
    have hlive := running_live (Bool.and_eq_true_iff.mp hu).2
    rw [UnitSettles]
    dsimp only
    split_ifs
    · exact .inr ⟨hlive, by simp⟩
    · exact .inr ⟨hlive, by simp⟩
    · exact .inl rfl
  rw [settleStoppedRun]
  infer_instance

/-! ## Cancel -/

/-- A unit has not ended. -/
def LiveUnit (s : DB) (wuId : String) : Prop :=
  ∃ u, s.workUnitExecutions.find? wuId = some u ∧ u.status.isTerminal = false

theorem cancelUnits_settles {units : List String} (hnodup : units.Nodup)
    (hlive : ∀ wuId ∈ units, LiveUnit s wuId)
    (h : (Tx.each units (fun wuId ↦
      Refs.workUnitExecutions.update wuId fun u ↦ { u with status := .cancelled }) : Core Unit) s
        = .ok ((), s')) : Units UnitSettles s s' := by
  refine Tx.each_keys (P := Units UnitSettles s) (H := LiveUnit) hnodup ?_ (Preord.refl s) hlive h
  rintro wuId - t t' ht ⟨u, hu, hstatus⟩ hround
  refine ⟨Preord.trans ht (update_live hu hstatus (fun _ ↦ by simp) hround), ?_⟩
  rintro wuId' hne ⟨u', hu', hstatus'⟩
  obtain rfl := Ref.update_ok.mp hround
  exact ⟨u', (Table.find?_modify_of_ne hne _ _).trans hu', hstatus'⟩

instance revokeUnsentStart_loosens :
    Respects (Units UnitLoosens) (revokeUnsentStart env outboxId runId task) := by
  have hfree (wuId : String) : Respects (Units UnitLoosens) (Refs.workUnitExecutions.updateWhere
      (fun k u ↦ k == wuId && u.status == .running) fun u ↦
        { u with status := .pending, blockedReason := none, activeRunId := none } : Core Unit) :=
    Moves.updateWhere fun _ u hu ↦ .inr (by simpa using (Bool.and_eq_true_iff.mp hu).2)
  rw [revokeUnsentStart]
  infer_instance

instance cancelTask_respects : Respects (Units UnitSettles) (cancelTask env auth p) where
  rel {s _ s'} h := by
    rw [cancelTask, Tx.get_bind_ok] at h
    obtain ⟨taskId, t₁, hkey, h₁⟩ := Tx.bind_ok.mp h
    obtain ⟨-, rfl⟩ := key_ok.mp hkey
    obtain ⟨task, t₂, hget, h₂⟩ := Tx.bind_ok.mp h₁
    obtain ⟨-, rfl⟩ := getTask_ok.mp hget
    obtain ⟨_, t₃, hmark, h₃⟩ := Tx.bind_ok.mp h₂
    obtain ⟨_, t₄, hstate, h₄⟩ := Tx.bind_ok.mp h₃
    obtain ⟨_, t₅, hrevoke, h₅⟩ := Tx.bind_ok.mp h₄
    obtain ⟨_, t₆, heffects, h₆⟩ := Tx.bind_ok.mp h₅
    obtain ⟨_, t₇, hunits, hrest⟩ := Tx.bind_ok.mp h₆
    have hmarked : Writes [.tasks] t₂ t₃ := Respects.rel hmark
    have hmoved : Writes [.tasks] t₃ t₄ := Respects.rel hstate
    have hwalked : Writes [.sideEffects] t₅ t₆ := Respects.rel heffects
    have h₂₃ : t₂.workUnitExecutions = t₃.workUnitExecutions :=
      (hmarked .workUnitExecutions).2 (by decide)
    have h₃₄ : t₃.workUnitExecutions = t₄.workUnitExecutions :=
      (hmoved .workUnitExecutions).2 (by decide)
    have h₅₆ : t₅.workUnitExecutions = t₆.workUnitExecutions :=
      (hwalked .workUnitExecutions).2 (by decide)
    have hloosened : Units UnitLoosens t₄ t₅ := Respects.rel hrevoke
    have hsettled : Units UnitSettles t₄ t₅ := Respects.rel hrevoke
    -- the loop finds the units as they were flushed: a revocation moves running units only
    have hlive : ∀ wuId ∈ cancellableUnits t₂ taskId, LiveUnit t₆ wuId := by
      intro wuId hmem
      obtain ⟨r, hr, rfl⟩ := List.mem_map.mp hmem
      obtain ⟨hfind, hp⟩ := Table.mem_select.mp hr
      have hfind' : t₄.workUnitExecutions.find? r.1 = some r.2 := h₃₄ ▸ h₂₃ ▸ hfind
      obtain ⟨u, hu, hmove⟩ := hloosened r.1 r.2 hfind'
      refine ⟨u, (congrArg (·.find? r.1) h₅₆).symm.trans hu, ?_⟩
      simp only [Bool.and_eq_true, Bool.or_eq_true, beq_iff_eq] at hp
      rcases hmove with hsame | hrunning
      · rw [hsame]
        rcases hp.2 with hs | hs <;> rw [hs] <;> rfl
      · rcases hp.2 with hs | hs <;> rw [hrunning] at hs <;> cases hs
    have hcancelled : Units UnitSettles t₆ t₇ :=
      cancelUnits_settles (Table.nodup_select _ _) hlive hunits
    have hbefore : Units UnitSettles t₂ t₄ := Moves.of_read (h₂₃.trans h₃₄)
    exact Preord.trans hbefore (Preord.trans hsettled (Preord.trans (Moves.of_read h₅₆)
      (Preord.trans hcancelled (Respects.rel hrest))))

/-- Every command but the dispatch of runs and the submission of a result. -/
theorem handler_settles {operation : Operation} (hdispatch : operation ≠ .dispatchReadyRuns)
    (hsubmit : operation ≠ .submitResult) :
    Respects (Units UnitSettles) (handler env auth p operation) := by
  cases operation <;> first
    | exact absurd rfl hdispatch
    | exact absurd rfl hsubmit
    | (dsimp only [handler]; infer_instance)

instance background : Background (Units UnitSettles) := inferInstance

end UnitsSettle

/-! ## Dispatch -/

namespace UnitsStart

section StartOrder

variable [StartOrder le]

/-- An update of a pending unit. -/
theorem update_pending {u : WorkUnitExecutionRow}
    {f : WorkUnitExecutionRow → WorkUnitExecutionRow} {hf : ∀ a, SameFixed a (f a)}
    (hu : s.workUnitExecutions.find? wuId = some u) (hpending : u.status = .pending)
    (hnext : ∀ a, (f a).status = .running ∨ (f a).status = .blocked)
    (h : (Refs.workUnitExecutions.update wuId f hf : Core Unit) s = .ok ((), s')) :
    Units le s s' := by
  refine Moves.of_update (fun a ha ↦ ?_) h
  obtain rfl := Option.some.inj (hu.symm.trans ha)
  exact StartOrder.of_pending hpending (hnext u)

/-- A unit waits to be run. -/
def PendingUnit (s : DB) (wuId : String) : Prop :=
  ∃ u, s.workUnitExecutions.find? wuId = some u ∧ u.status = .pending

theorem PendingUnit.of_same (h : PendingUnit s wuId)
    (hunits : s.workUnitExecutions = s'.workUnitExecutions) : PendingUnit s' wuId := by
  obtain ⟨u, hu, hpending⟩ := h
  exact ⟨u, hunits ▸ hu, hpending⟩

theorem createExecuteRun_starts {r : RunIdentity} {attempt : Nat}
    (hpending : PendingUnit s r.workUnitId)
    (h : createExecuteRun env auth taskId task r attempt s = .ok ((), s')) :
    Units le s s' := by
  rw [createExecuteRun, Tx.get_bind_ok] at h
  obtain ⟨_, t₁, hmanifest, h₁⟩ := Tx.bind_ok.mp h
  obtain ⟨_, t₂, hrun, h₂⟩ := Tx.bind_ok.mp h₁
  obtain ⟨_, t₃, hinput, h₃⟩ := Tx.bind_ok.mp h₂
  obtain ⟨_, t₄, hmarker, h₄⟩ := Tx.bind_ok.mp h₃
  obtain ⟨_, t₅, hstart, hrest⟩ := Tx.bind_ok.mp h₄
  have hwrites₁ : Writes besideUnits s t₁ := Respects.rel hmanifest
  have hwrites₂ : Writes besideUnits t₁ t₂ := Respects.rel hrun
  have hwrites₃ : Writes besideUnits t₂ t₃ := Respects.rel hinput
  have hwrites₄ : Writes besideUnits t₃ t₄ := Respects.rel hmarker
  have hwrites : Writes besideUnits s t₄ :=
    Preord.trans hwrites₁ (Preord.trans hwrites₂ (Preord.trans hwrites₃ hwrites₄))
  have hunits : s.workUnitExecutions = t₄.workUnitExecutions :=
    (hwrites .workUnitExecutions).2 (by decide)
  obtain ⟨u, hu, hstatus⟩ := hpending.of_same hunits
  exact Preord.trans (Moves.of_read hunits)
    (Preord.trans (update_pending hu hstatus (fun _ ↦ .inl rfl) hstart) (Respects.rel hrest))

theorem dispatchUnit_starts {version : Nat} {node : RawNode} {wu : WorkUnitExecutionRow}
    {ws : Option (String × WorkspaceRow)} {created created' : List String}
    (hpending : PendingUnit s node.workUnitId)
    (h : dispatchUnit env auth taskId version node wu ws created s = .ok (created', s')) :
    Units le s s' := by
  obtain ⟨task, t₁, hget, h₁⟩ := Tx.bind_ok.mp h
  obtain ⟨-, rfl⟩ := getTask_ok.mp hget
  obtain ⟨runId, t₂, hdraw, h₂⟩ := Tx.bind_ok.mp h₁
  have hdrawn : Writes [] t₁ t₂ := Respects.rel hdraw
  have hunits : t₁.workUnitExecutions = t₂.workUnitExecutions :=
    (hdrawn .workUnitExecutions).2 (by decide)
  refine Preord.trans (Moves.of_read hunits) ?_
  have hpending₂ := hpending.of_same hunits
  rcases Tx.ite_ok.mp h₂ with ⟨-, h₃⟩ | ⟨-, h₃⟩
  · obtain ⟨_, t₃, hblock, hpure⟩ := Tx.bind_ok.mp h₃
    obtain ⟨u, hu, hstatus⟩ := hpending₂
    exact Preord.trans (update_pending hu hstatus (fun _ ↦ .inr rfl) hblock)
      (Respects.rel hpure)
  · obtain ⟨manifestId, t₃, hdraw', h₄⟩ := Tx.bind_ok.mp h₃
    have hdrawn' : Writes [] t₂ t₃ := Respects.rel hdraw'
    have hunits' : t₂.workUnitExecutions = t₃.workUnitExecutions :=
      (hdrawn' .workUnitExecutions).2 (by decide)
    refine Preord.trans (Moves.of_read hunits') ?_
    obtain ⟨u, hu, hstatus⟩ := hpending₂.of_same hunits'
    rw [Tx.get_bind_ok] at h₄
    rcases Tx.ite_ok.mp h₄ with ⟨-, h₅⟩ | ⟨-, h₅⟩
    · obtain ⟨_, t₄, hblock, hpure⟩ := Tx.bind_ok.mp h₅
      obtain ⟨_, t₅, hupdate, hevent⟩ := Tx.bind_ok.mp hblock
      exact Preord.trans (update_pending hu hstatus (fun _ ↦ .inr rfl) hupdate)
        (Preord.trans (Respects.rel hevent) (Respects.rel hpure))
    · obtain ⟨_, t₄, hcreate, hpure⟩ := Tx.bind_ok.mp h₅
      exact Preord.trans (createExecuteRun_starts ⟨u, hu, hstatus⟩ hcreate)
        (Respects.rel hpure)

instance dispatchNode_respects {version globalActive taskActive : Nat} {edges : List RawEdge}
    {created : List String} {node : RawNode} :
    Respects (Units le)
      (dispatchNode env auth taskId version edges globalActive taskActive created node) where
  rel {s created' s'} h := by
    rw [dispatchNode, Tx.get_bind_ok] at h
    cases hwu : s.workUnitExecutions.find? node.workUnitId with
    | none =>
      simp only [hwu] at h
      exact Respects.rel h
    | some wu =>
      simp only [hwu] at h
      rcases Tx.ite_ok.mp h with ⟨-, hpure⟩ | ⟨hguard, h₁⟩
      · exact Respects.rel hpure
      · obtain ⟨_, t₁, hbind, h₂⟩ := Tx.bind_ok.mp h₁
        have hsame : Respects (Units UnitKeeps) (Refs.workUnitExecutions.update node.workUnitId
            fun u ↦ { u with specVersion := node.version } : Core Unit) :=
          Units.update_same fun _ ↦ rfl
        have hkeeps : Units UnitKeeps s t₁ := Respects.rel hbind
        obtain ⟨wu', hwu', hstatus⟩ := hkeeps node.workUnitId wu hwu
        have hwu_pending : wu.status = .pending := by
          by_contra hne
          exact hguard (.inr (.inr (.inl hne)))
        have hpending : PendingUnit t₁ node.workUnitId := ⟨wu', hwu', hstatus.trans hwu_pending⟩
        have hdetail : Respects (Units le) (Refs.workUnitExecutions.update node.workUnitId
            fun u ↦ { u with specVersion := node.version } : Core Unit) :=
          Moves.update fun _ ↦ StartOrder.of_same rfl rfl
        refine Preord.trans (Respects.rel hbind) ?_
        rcases Tx.ite_ok.mp h₂ with ⟨-, hpure⟩ | ⟨-, h₃⟩
        · exact Respects.rel hpure
        · obtain ⟨_, t₂, hdrop, hdispatch⟩ := Tx.bind_ok.mp h₃
          have hdropped : Writes [.activeExecuteRunMarkers] t₁ t₂ := Respects.rel hdrop
          have hunits : t₁.workUnitExecutions = t₂.workUnitExecutions :=
            (hdropped .workUnitExecutions).2 (by decide)
          exact Preord.trans (Moves.of_read hunits)
            (dispatchUnit_starts (hpending.of_same hunits) hdispatch)

instance dispatchReadyRuns_respects :
    Respects (Units le) (dispatchReadyRuns env auth p) := inferInstance

end StartOrder

end UnitsStart

/-! ## Results -/

/-- Units keep their status, except that one of them may become done or blocked. -/
def UnitsBut (e : Option String) (s s' : DB) : Prop :=
  ∀ k u, s.workUnitExecutions.find? k = some u →
    ∃ u', s'.workUnitExecutions.find? k = some u' ∧
      (u'.status = u.status ∨ e = some k ∧ (u'.status = .done ∨ u'.status = .blocked))

namespace UnitsBut

variable {e : Option String}

instance : Preord (UnitsBut e) where
  refl s k u hu := ⟨u, hu, .inl rfl⟩
  trans h h' k u hu := by
    obtain ⟨u₁, hu₁, h₁⟩ := h k u hu
    obtain ⟨u₂, hu₂, h₂⟩ := h' k u₁ hu₁
    refine ⟨u₂, hu₂, ?_⟩
    rcases h₂ with hsame | hresult
    · rw [hsame]
      exact h₁
    · exact .inr hresult

theorem of_keeps (h : Units UnitKeeps s s') : UnitsBut e s s' := by
  intro k u hu
  obtain ⟨u', hu', hsame⟩ := h k u hu
  exact ⟨u', hu', .inl hsame⟩

/-- The update that takes the result of a run. -/
theorem of_update {f : WorkUnitExecutionRow → WorkUnitExecutionRow}
    {hf : ∀ a, SameFixed a (f a)} (hnext : ∀ a, (f a).status = .done ∨ (f a).status = .blocked)
    (h : (Refs.workUnitExecutions.update wuId f hf : Core Unit) s = .ok ((), s')) :
    UnitsBut (some wuId) s s' := by
  obtain rfl := Ref.update_ok.mp h
  intro k u hu
  by_cases hk : k = wuId
  · subst hk
    refine ⟨f u, ?_, .inr ⟨rfl, hnext u⟩⟩
    exact (Table.find?_modify_self _ _ _).trans (congrArg _ hu)
  · exact ⟨u, (Table.find?_modify_of_ne hk _ _).trans hu, .inl rfl⟩

theorem applyResultToUnit {result : RunResult} {ref : String} {outcome : Outcome}
    (h : applyResultToUnit env taskId runId wuId result ref outcome s = .ok ((), s')) :
    UnitsBut (some wuId) s s' := by
  obtain ⟨_, t₁, hregister, h₁⟩ := Tx.bind_ok.mp h
  rw [Tx.get_bind_ok] at h₁
  have hregistered : Units UnitKeeps s t₁ := Respects.rel hregister
  refine Preord.trans (of_keeps hregistered) ?_
  rcases Tx.ite_ok.mp h₁ with ⟨-, hblocked⟩ | ⟨-, hcompleted⟩
  · obtain ⟨_, t₂, hblock, hrest⟩ := Tx.bind_ok.mp hblocked
    have hkept : Units UnitKeeps t₂ s' := Respects.rel hrest
    exact Preord.trans (of_update (fun _ ↦ .inr rfl) hblock) (of_keeps hkept)
  · obtain ⟨_, t₂, hdone, hrest⟩ := Tx.bind_ok.mp hcompleted
    have hkept : Units UnitKeeps t₂ s' := Respects.rel hrest
    exact Preord.trans (of_update (fun _ ↦ .inl rfl) hdone) (of_keeps hkept)

theorem acceptRunResult {result : RunResult} {ref : String} {reply : CommandResult}
    (h : acceptRunResult env auth runId run result ref s = .ok (reply, s')) :
    UnitsBut run.workUnitId s s' := by
  obtain ⟨next, t₁, hrequire, h₁⟩ := Tx.bind_ok.mp h
  obtain ⟨-, rfl⟩ := Tx.require_ok.mp hrequire
  obtain ⟨_, t₂, hend, h₂⟩ := Tx.bind_ok.mp h₁
  obtain ⟨_, t₃, hunit, hrest⟩ := Tx.bind_ok.mp h₂
  have hended : Units UnitKeeps t₁ t₂ := Respects.rel hend
  have hkept : Units UnitKeeps t₃ s' := Respects.rel hrest
  refine Preord.trans (of_keeps hended) (Preord.trans ?_ (of_keeps hkept))
  rcases Tx.withSome_ok.mp hunit with ⟨wuId, hwu, happly⟩ | ⟨-, rfl⟩
  · rw [hwu]
    exact applyResultToUnit happly
  · exact Preord.refl _

end UnitsBut

/-! ## Steps -/

/-- What a step does to a unit. -/
inductive UnitStep (a b : WorkUnitExecutionRow) : Label → Prop
  | kept {l : Label} (hsame : b.status = a.status) : UnitStep a b l
  /-- A unit that had not ended is pending, blocked, failed or cancelled. -/
  | settled {l : Label} (hlive : a.status.isTerminal = false) (hdone : b.status ≠ .done)
      (hrunning : b.status ≠ .running) : UnitStep a b l
  /-- A pending unit is dispatched. -/
  | started {env : Env} {r : Request} (hoperation : r.operation = .dispatchReadyRuns)
      (hpending : a.status = .pending) (hrunning : b.status = .running) :
      UnitStep a b (.command env r)
  /-- A running unit is completed by the result of its active run. -/
  | completed {env : Env} {r : Request} {runId : String} (hoperation : r.operation = .submitResult)
      (hnamed : r.payload.runId = some runId) (hrunning : a.status = .running)
      (hactive : a.activeRunId = some runId) (hdone : b.status = .done) :
      UnitStep a b (.command env r)

theorem UnitSettles.step {a b : WorkUnitExecutionRow} {l : Label} (h : UnitSettles a b) :
    UnitStep a b l := by
  rcases h with hsame | ⟨hlive, hdone, hrunning⟩
  · exact .kept hsame
  · exact .settled hlive hdone hrunning

/-- A unit that has ended keeps its status. -/
theorem UnitStep.ended {a b : WorkUnitExecutionRow} {l : Label} (h : UnitStep a b l)
    (ha : a.status.isTerminal = true) : b.status = a.status := by
  cases h with
  | kept hsame => exact hsame
  | settled hlive =>
    rw [hlive] at ha
    cases ha
  | started _ hpending =>
    rw [hpending] at ha
    cases ha
  | completed _ _ hrunning =>
    rw [hrunning] at ha
    cases ha

/-- A result that would be accepted comes from the run that its unit is running for. -/
def AcceptsHolders (s : DB) : Prop :=
  ∀ auth p runId run wuId u, Accepts s auth p runId run → run.workUnitId = some wuId →
    s.workUnitExecutions.find? wuId = some u → u.status = .running ∧ u.activeRunId = some runId

variable {w w' : World} {l : Label}

/-- The submission of a result moves a unit only if it accepts a result for it. -/
theorem submission_units {env : Env} {r : Request} {reply : CommandResult}
    (hok : AcceptsHolders s) (hoperation : r.operation = .submitResult)
    (h : Submission env r.auth r.payload s reply s') {k : String} {u : WorkUnitExecutionRow}
    (hu : s.workUnitExecutions.find? k = some u) :
    ∃ u', s'.workUnitExecutions.find? k = some u' ∧ UnitStep u u' (.command env r) := by
  have hkeeps (hmoves : Units UnitKeeps s s') :
      ∃ u', s'.workUnitExecutions.find? k = some u' ∧ UnitStep u u' (.command env r) := by
    obtain ⟨u', hu', hsame⟩ := hmoves k u hu
    exact ⟨u', hu', .kept hsame⟩
  have hdraw (n : Nat) : Units UnitKeeps s { s with drawn := n } := Moves.of_read rfl
  cases h with
  | stopped _ _ _ ran => exact hkeeps (Respects.rel ran)
  | overtaken _ _ _ _ ran => exact hkeeps (Respects.rel ran)
  | marked => exact hkeeps (Moves.of_read rfl)
  | superseded _ _ _ ran => exact hkeeps (Preord.trans (hdraw _) (Respects.rel ran))
  | accepted accepts ran =>
    obtain ⟨u', hu', hsame | ⟨hwu, hresult⟩⟩ := UnitsBut.acceptRunResult ran k u hu
    · exact ⟨u', hu', .kept hsame⟩
    · obtain ⟨hrunning, hactive⟩ := hok _ _ _ _ k u accepts hwu hu
      refine ⟨u', hu', ?_⟩
      rcases hresult with hdone | hblocked
      · exact .completed hoperation accepts.named hrunning hactive hdone
      · exact .settled (by rw [hrunning]; rfl) (by simp [hblocked]) (by simp [hblocked])

theorem command_units {env : Env} {r : Request} (hok : AcceptsHolders w.db)
    (hstep : system.step w (.command env r) = some w') {k : String} {u : WorkUnitExecutionRow}
    (hu : w.db.workUnitExecutions.find? k = some u) :
    ∃ u', w'.db.workUnitExecutions.find? k = some u' ∧ UnitStep u u' (.command env r) := by
  rcases step_command hstep with hrecords | ⟨t, t', result, hran, hrecords⟩
  · have hunits : w.db.workUnitExecutions = w'.db.workUnitExecutions :=
      (hrecords .workUnitExecutions).2 (by decide)
    exact ⟨u, hunits ▸ hu, .kept rfl⟩
  have hunits : t'.workUnitExecutions = w'.db.workUnitExecutions :=
    (hrecords .workUnitExecutions).2 (by decide)
  rw [← hunits]
  obtain ⟨n, rfl⟩ := hran.start
  have hrun := hran.run
  by_cases hdispatch : r.operation = .dispatchReadyRuns
  · rw [hdispatch] at hrun
    have hstarts : Units UnitStarts _ t' := UnitsStart.dispatchReadyRuns_respects.rel hrun
    obtain ⟨u', hu', hsame | ⟨hpending, hnext⟩⟩ := hstarts k u hu
    · exact ⟨u', hu', .kept hsame⟩
    · refine ⟨u', hu', ?_⟩
      rcases hnext with hrunning | hblocked
      · exact .started hdispatch hpending hrunning
      · exact .settled (by rw [hpending]; rfl) (by simp [hblocked]) (by simp [hblocked])
  · by_cases hsubmit : r.operation = .submitResult
    · rw [hsubmit] at hrun
      refine submission_units ?_ hsubmit (submitResult_ok hrun) hu
      intro auth p runId run wuId u haccepts hwu hu
      exact hok auth p runId run wuId u haccepts.of_drawn hwu hu
    · have hsettles := (UnitsSettle.handler_settles hdispatch hsubmit).rel hrun
      obtain ⟨u', hu', hmove⟩ := hsettles k u hu
      exact ⟨u', hu', hmove.step⟩

theorem step_units (hok : AcceptsHolders w.db) (hstep : system.step w l = some w') {k : String}
    {u : WorkUnitExecutionRow} (hu : w.db.workUnitExecutions.find? k = some u) :
    ∃ u', w'.db.workUnitExecutions.find? k = some u' ∧ UnitStep u u' l := by
  by_cases hl : l.isCommand = false
  · have hsettles : Units UnitSettles w.db w'.db := step_background Preord.refl hl hstep
    obtain ⟨u', hu', hmove⟩ := hsettles k u hu
    exact ⟨u', hu', hmove.step⟩
  · cases l with
    | command env r => exact command_units hok hstep hu
    | _ => exact absurd rfl hl

end HibikiCore
