import HibikiCore.Safety.Gates
import HibikiCore.Safety.Units

/-!
# How many runs there are

Two commands create runs. Both count the active runs before, and the one that creates several counts
the ones it has created itself on top. A run that has ended does not become active again, so the
limits hold between any two transactions. Nothing but the creation of its runs changes the number of
attempts of a unit.
-/

namespace HibikiCore

set_option synthInstance.maxSize 100000000
set_option synthInstance.maxHeartbeats 400000

variable {env : Env} {auth : AuthContext} {p : Payload} {task : TaskRow} {run : AgentRunRow}
  {s s' : DB} {taskId runId wuId : String} {operation : Operation} {result : CommandResult}

/-! ## Attempts -/

/-- The EXECUTE runs that were created for a work unit: no row of a run is ever deleted. -/
def executeRuns (db : DB) (wuId : String) : Nat :=
  (db.agentRuns.select fun _ r ↦
    r.assignmentKind == .execute && r.workUnitId == some wuId).length

/-- Units keep the number of their attempts, and a new one has had none. -/
abbrev AttemptsKept : DB → DB → Prop :=
  KeepsColumn Refs.workUnitExecutions WorkUnitExecutionRow.attemptCount 0

namespace AttemptsKept

instance : UnitDetails AttemptsKept where
  update k f hf hd := by
    have : Leaves WorkUnitExecutionRow.attemptCount f := ⟨hd.attemptCount⟩
    infer_instance
  updateWhere q f hf hd := by
    have : Leaves WorkUnitExecutionRow.attemptCount f := ⟨hd.attemptCount⟩
    infer_instance

instance : UnitCompletions AttemptsKept where
  update _ _ _ _ := by
    refine ⟨fun h ↦ ?_⟩
    refine KeepsColumn.of_update ?_ h
    exact fun _ _ ↦ rfl

instance installUnit_respects {node : RawNode} :
    Respects AttemptsKept (installUnit taskId node) := by
  have hadd : Respects AttemptsKept
      (add Refs.workUnitExecutions node.workUnitId (freshUnit taskId node.version)) :=
    KeepsColumn.insert rfl
  rw [installUnit]
  exact .seq inferInstance fun _ ↦ by split <;> infer_instance

/-- Only the dispatch of ready runs counts attempts. -/
theorem handler_respects (hruns : operation ≠ .dispatchReadyRuns) :
    Respects AttemptsKept (handler env auth p operation) := by
  cases operation
  case dispatchReadyRuns => exact (hruns rfl).elim
  all_goals (dsimp only [handler]; infer_instance)

instance background : Background AttemptsKept := inferInstance

end AttemptsKept

/-! ## What a transaction without new runs does -/

/-- The limits hold, and the attempts of a unit are its EXECUTE runs. -/
structure LimitsInv (db : DB) : Prop where
  total : countActiveRuns db ≤ Defaults.globalRunConcurrency
  perTask : ∀ t, countTaskActiveRuns db t ≤ Defaults.perTaskRunConcurrency
  attempts : ∀ wuId u, db.workUnitExecutions.find? wuId = some u →
    u.attemptCount = executeRuns db wuId ∧ u.attemptCount ≤ Defaults.maxWorkUnitAttempts
  known : ∀ runId run, db.agentRuns.find? runId = some run → run.assignmentKind = .execute →
    ∀ wuId, run.workUnitId = some wuId → ∃ u, db.workUnitExecutions.find? wuId = some u

/-- The runs there are move along the table and keep what they were created with, and no run is
new. -/
structure RunsStay (s s' : DB) : Prop where
  moves : Moves Refs.agentRuns RunMoves s s'
  persist : Persists s s'
  old : NewRuns (fun _ ↦ False) s s'

namespace RunsStay

/-- What a run was created with. -/
theorem fixed (h : RunsStay s s') {run' : AgentRunRow}
    (hrun' : s'.agentRuns.find? runId = some run') :
    ∃ run, s.agentRuns.find? runId = some run ∧ SameFixed run run' ∧ RunMoves run run' := by
  rcases h.old runId run' hrun' with ⟨run, hrun, hfixed⟩ | hnew
  · obtain ⟨run'', hrun'', hmoved⟩ := h.moves runId run hrun
    obtain rfl := Option.some.inj (hrun'.symm.trans hrun'')
    exact ⟨run, hrun, hfixed, hmoved⟩
  · exact hnew.elim

/-- No more runs of a kind are active than were before. -/
theorem active_le (h : RunsStay s s') (P : RunAssignment → Bool) :
    (s'.agentRuns.select fun _ r ↦ r.status.isActive && P (Columns.fixed r)).length ≤
      (s.agentRuns.select fun _ r ↦ r.status.isActive && P (Columns.fixed r)).length := by
  refine Table.length_select_le fun k run' hrun' hactive ↦ ?_
  obtain ⟨run, hrun, hfixed, hmoved⟩ := h.fixed hrun'
  obtain ⟨hstatus, hP⟩ := Bool.and_eq_true_iff.mp hactive
  refine ⟨run, hrun, Bool.and_eq_true_iff.mpr ⟨?_, hfixed ▸ hP⟩⟩
  -- a run that had ended would have kept its status
  by_contra hended
  have hterminal : run.status.isTerminal = true := by
    cases hrs : run.status <;> simp_all [AgentRunStatus.isActive, AgentRunStatus.isTerminal]
  rw [hmoved.terminal hterminal] at hstatus
  exact hended hstatus

theorem countActiveRuns_le (h : RunsStay s s') : countActiveRuns s' ≤ countActiveRuns s := by
  simpa [countActiveRuns] using h.active_le fun _ ↦ true

theorem countTaskActiveRuns_le (h : RunsStay s s') (t : String) :
    countTaskActiveRuns s' t ≤ countTaskActiveRuns s t :=
  h.active_le fun f ↦ f.taskId == t

/-- The EXECUTE runs of a unit are the same. -/
theorem executeRuns_eq (h : RunsStay s s') (wuId : String) :
    executeRuns s' wuId = executeRuns s wuId := by
  have hsame {a b : AgentRunRow} (hfixed : SameFixed a b) :
      (b.assignmentKind == .execute && b.workUnitId == some wuId) =
        (a.assignmentKind == .execute && a.workUnitId == some wuId) := by
    rw [show b.assignmentKind = a.assignmentKind from congrArg RunAssignment.assignmentKind hfixed,
      show b.workUnitId = a.workUnitId from congrArg RunAssignment.workUnitId hfixed]
  refine le_antisymm (Table.length_select_le ?_) (Table.length_select_le ?_)
  · intro k run' hrun' hkind
    obtain ⟨run, hrun, hfixed, -⟩ := h.fixed hrun'
    exact ⟨run, hrun, hsame hfixed ▸ hkind⟩
  · intro k run hrun hkind
    obtain ⟨run', hrun', hfixed⟩ := (h.persist .agentRuns).1 k run hrun
    exact ⟨run', hrun', (hsame hfixed).symm ▸ hkind⟩

end RunsStay

/-- Without new runs and attempts the limits stay. -/
theorem LimitsInv.of_stay (hinv : LimitsInv s) (h : RunsStay s s') (hattempts : AttemptsKept s s') :
    LimitsInv s' where
  total := h.countActiveRuns_le.trans hinv.total
  perTask t := (h.countTaskActiveRuns_le t).trans (hinv.perTask t)
  attempts wuId u hu := by
    rw [h.executeRuns_eq]
    rcases hattempts.origin hu with ⟨u₀, hu₀, hsame⟩ | ⟨hnone, hzero⟩
    · rw [hsame]
      exact hinv.attempts wuId u₀ hu₀
    · -- no run was created for a unit before the unit
      have hruns : executeRuns s wuId = 0 := by
        rw [executeRuns, List.length_eq_zero_iff, Table.select_eq_nil_iff]
        intro k run hrun
        by_contra hkind
        simp only [Bool.not_eq_false, Bool.and_eq_true, beq_iff_eq] at hkind
        obtain ⟨u₀, hu₀⟩ := hinv.known k run hrun hkind.1 wuId hkind.2
        rw [hnone] at hu₀
        cases hu₀
      rw [hruns]
      exact ⟨hzero, hzero.trans_le (Nat.zero_le _)⟩
  known runId run hrun hkind wuId hwuId := by
    obtain ⟨run₀, hrun₀, hfixed, -⟩ := h.fixed hrun
    have hkind₀ : run₀.assignmentKind = .execute :=
      (congrArg RunAssignment.assignmentKind hfixed).symm.trans hkind
    have hwuId₀ : run₀.workUnitId = some wuId :=
      (congrArg RunAssignment.workUnitId hfixed).symm.trans hwuId
    obtain ⟨u, hu⟩ := hinv.known runId run₀ hrun₀ hkind₀ wuId hwuId₀
    obtain ⟨u', hu', -⟩ := (h.persist .workUnitExecutions).1 wuId u hu
    exact ⟨u', hu'⟩

/-! ## A new run -/

/-- A run was added to the runs there are. -/
structure RunAdded (s s' : DB) (runId : String) (run : AgentRunRow) : Prop where
  fresh : s.agentRuns.find? runId = none
  runs : s'.agentRuns = s.agentRuns.insert runId run

namespace RunAdded

theorem select_length (h : RunAdded s s' runId run) (q : String → AgentRunRow → Bool) :
    (s'.agentRuns.select q).length =
      (s.agentRuns.select q).length + if q runId run then 1 else 0 := by
  rw [h.runs]
  exact Table.length_select_insert h.fresh run

theorem countActiveRuns_le (h : RunAdded s s' runId run) :
    countActiveRuns s' ≤ countActiveRuns s + 1 := by
  rw [countActiveRuns, h.select_length, ← countActiveRuns]
  split <;> omega

theorem countTaskActiveRuns_le (h : RunAdded s s' runId run) (t : String) :
    countTaskActiveRuns s' t ≤ countTaskActiveRuns s t + if run.taskId = t then 1 else 0 := by
  rw [countTaskActiveRuns, h.select_length, ← countTaskActiveRuns]
  simp only [Bool.and_eq_true, beq_iff_eq]
  split <;> split <;> first | omega | simp_all

/-- Of the old runs and the new one the same can be said. -/
theorem find? (h : RunAdded s s' runId run) {k : String} {run' : AgentRunRow}
    (hrun' : s'.agentRuns.find? k = some run') :
    k = runId ∧ run' = run ∨ s.agentRuns.find? k = some run' := by
  rw [h.runs, Table.find?_insert h.fresh] at hrun'
  split at hrun'
  · next hk => exact .inl ⟨hk, (Option.some.inj hrun').symm⟩
  · exact .inr hrun'

end RunAdded

/-- With room under both limits a run may be added, if it is an attempt of its unit. -/
theorem LimitsInv.of_added (hinv : LimitsInv s) (h : RunAdded s s' runId run)
    (htotal : countActiveRuns s < Defaults.globalRunConcurrency)
    (htask : countTaskActiveRuns s run.taskId < Defaults.perTaskRunConcurrency)
    (hattempts : ∀ wuId u', s'.workUnitExecutions.find? wuId = some u' →
      ∃ u, s.workUnitExecutions.find? wuId = some u ∧
        u'.attemptCount = (u.attemptCount +
          if run.assignmentKind == .execute && run.workUnitId == some wuId then 1 else 0) ∧
        u'.attemptCount ≤ Defaults.maxWorkUnitAttempts)
    (hunits : ∀ wuId u, s.workUnitExecutions.find? wuId = some u →
      ∃ u', s'.workUnitExecutions.find? wuId = some u')
    (hknown : run.assignmentKind = .execute → ∀ wuId, run.workUnitId = some wuId →
      ∃ u, s.workUnitExecutions.find? wuId = some u) : LimitsInv s' where
  total := h.countActiveRuns_le.trans htotal
  perTask t := by
    refine (h.countTaskActiveRuns_le t).trans ?_
    split
    · next heq => exact heq ▸ htask
    · exact hinv.perTask t
  attempts wuId u' hu' := by
    obtain ⟨u, hu, hcount, hmax⟩ := hattempts wuId u' hu'
    refine ⟨?_, hmax⟩
    rw [hcount, executeRuns, h.select_length, (hinv.attempts wuId u hu).1, executeRuns]
  known k run' hrun' hkind wuId hwuId := by
    have hold : ∃ u, s.workUnitExecutions.find? wuId = some u := by
      rcases h.find? hrun' with ⟨-, rfl⟩ | hold
      · exact hknown hkind wuId hwuId
      · exact hinv.known k run' hold hkind wuId hwuId
    obtain ⟨u, hu⟩ := hold
    exact hunits wuId u hu

/-! ## The dispatch loop -/

/-- Nothing happened to the runs and the attempts. -/
structure NoRun (s s' : DB) : Prop where
  runs : s'.agentRuns = s.agentRuns
  attempts : AttemptsKept s s'

instance : Preord NoRun where
  refl _ := ⟨rfl, Preord.refl _⟩
  trans h h' := ⟨h'.runs.trans h.runs, Preord.trans h.attempts h'.attempts⟩

theorem NoRun.of_writes {α : Type} {m : Core α} {a : α} [Respects AttemptsKept m]
    (h : m s = .ok (a, s')) (hw : Writes besideRuns s s') : NoRun s s' :=
  ⟨((hw .agentRuns).2 (by decide)).symm, Respects.rel h⟩

theorem LimitsInv.of_noRun (hinv : LimitsInv s) (h : NoRun s s') (hpersist : Persists s s') :
    LimitsInv s' :=
  hinv.of_stay ⟨fun k run hrun ↦ ⟨run, (congrArg (·.find? k) h.runs).trans hrun, .refl run⟩,
    hpersist, .of_read h.runs.symm⟩ h.attempts

/-- A unit is blocked, or a run of it is created. -/
theorem dispatchUnit_ok {version : Nat} {node : RawNode} {wu : WorkUnitExecutionRow}
    {workspace : Option (String × WorkspaceRow)} {created created' : List String}
    (h : dispatchUnit env auth taskId version node wu workspace created s = .ok (created', s')) :
    created' = created ∧ NoRun s s' ∨
      ∃ task r n, wu.attemptCount + 1 ≤ Defaults.maxWorkUnitAttempts ∧
        r.workUnitId = node.workUnitId ∧ created' = created ++ [r.runId] ∧
        createExecuteRun env auth taskId task r (wu.attemptCount + 1) { s with drawn := n } =
          .ok ((), s') := by
  obtain ⟨task, t₁, hget, h₁⟩ := Tx.bind_ok.mp h
  obtain ⟨-, rfl⟩ := getTask_ok.mp hget
  obtain ⟨runId, t₂, hdraw, h₂⟩ := Tx.bind_ok.mp h₁
  obtain ⟨-, rfl⟩ := newId_ok.mp hdraw
  have hdrawn (n : Nat) : NoRun t₁ { t₁ with drawn := n } := ⟨rfl, .of_read rfl⟩
  rcases Tx.ite_ok.mp h₂ with ⟨-, h₃⟩ | ⟨hleft, h₃⟩
  · obtain ⟨_, t₃, hblock, hpure⟩ := Tx.bind_ok.mp h₃
    obtain ⟨rfl, rfl⟩ := Tx.pure_ok.mp hpure
    exact .inl ⟨rfl, Preord.trans (hdrawn _) (.of_writes hblock (Respects.rel hblock))⟩
  · obtain ⟨manifestId, t₃, hdraw', h₄⟩ := Tx.bind_ok.mp h₃
    obtain ⟨-, rfl⟩ := newId_ok.mp hdraw'
    rw [Tx.get_bind_ok] at h₄
    rcases Tx.ite_ok.mp h₄ with ⟨-, h₅⟩ | ⟨-, h₅⟩
    · obtain ⟨_, t₄, hblock, hpure⟩ := Tx.bind_ok.mp h₅
      obtain ⟨rfl, rfl⟩ := Tx.pure_ok.mp hpure
      exact .inl ⟨rfl, Preord.trans (hdrawn _) (.of_writes hblock (Respects.rel hblock))⟩
    · obtain ⟨_, t₄, hcreate, hpure⟩ := Tx.bind_ok.mp h₅
      obtain ⟨rfl, rfl⟩ := Tx.pure_ok.mp hpure
      exact .inr ⟨task, _, _, not_lt.mp hleft, rfl, rfl, hcreate⟩

/-- Binding a unit to the version of its node leaves the other units. -/
theorem bindUnit_find {node : RawNode} {wu : WorkUnitExecutionRow}
    (hwu : s.workUnitExecutions.find? node.workUnitId = some wu)
    (h : (Tx.when (wu.specVersion ≠ node.version) (Refs.workUnitExecutions.update node.workUnitId
      fun u ↦ { u with specVersion := node.version }) : Core Unit) s = .ok ((), s')) :
    (∃ u, s'.workUnitExecutions.find? node.workUnitId = some u) ∧
      ∀ k, k ≠ node.workUnitId →
        s'.workUnitExecutions.find? k = s.workUnitExecutions.find? k := by
  rcases Tx.when_ok.mp h with ⟨-, hbind⟩ | ⟨-, rfl⟩
  · obtain rfl := Ref.update_ok.mp hbind
    exact ⟨⟨_, (Table.find?_modify_self _ _ _).trans (congrArg _ hwu)⟩,
      fun k hk ↦ Table.find?_modify_of_ne hk _ _⟩
  · exact ⟨⟨wu, hwu⟩, fun _ _ ↦ rfl⟩

/-- A node of the plan for which the loop creates a run. -/
structure NodeRun (taskId : String) (globalActive taskActive : Nat) (created : List String)
    (node : RawNode) (s s' : DB) (runId : String) (run : AgentRunRow)
    (wu : WorkUnitExecutionRow) : Prop extends RunAdded s s' runId run where
  globalRoom : globalActive + created.length < Defaults.globalRunConcurrency
  taskRoom : taskActive + created.length < Defaults.perTaskRunConcurrency
  found : s.workUnitExecutions.find? node.workUnitId = some wu
  left : wu.attemptCount + 1 ≤ Defaults.maxWorkUnitAttempts
  ofTask : run.taskId = taskId
  ofUnit : run.workUnitId = some node.workUnitId
  kind : run.assignmentKind = .execute
  unit : ∃ u, s'.workUnitExecutions.find? node.workUnitId = some u ∧
    u.attemptCount = wu.attemptCount + 1
  others : ∀ k, k ≠ node.workUnitId →
    s'.workUnitExecutions.find? k = s.workUnitExecutions.find? k

theorem dispatchNode_ok {version globalActive taskActive : Nat} {edges : List RawEdge}
    {created created' : List String} {node : RawNode}
    (h : dispatchNode env auth taskId version edges globalActive taskActive created node s =
      .ok (created', s')) :
    created' = created ∧ NoRun s s' ∨ ∃ runId run wu, created' = created ++ [runId] ∧
      NodeRun taskId globalActive taskActive created node s s' runId run wu := by
  rw [dispatchNode, Tx.get_bind_ok] at h
  cases hwu : s.workUnitExecutions.find? node.workUnitId with
  | none =>
    simp only [hwu] at h
    obtain ⟨rfl, rfl⟩ := Tx.pure_ok.mp h
    exact .inl ⟨rfl, Preord.refl _⟩
  | some wu =>
    simp only [hwu] at h
    rcases Tx.ite_ok.mp h with ⟨-, hpure⟩ | ⟨hguard, h₁⟩
    · obtain ⟨rfl, rfl⟩ := Tx.pure_ok.mp hpure
      exact .inl ⟨rfl, Preord.refl _⟩
    · obtain ⟨_, t₁, hbind, h₂⟩ := Tx.bind_ok.mp h₁
      have hbound : NoRun s t₁ := .of_writes hbind (Respects.rel hbind)
      obtain ⟨⟨u₁, hu₁⟩, hothers⟩ := bindUnit_find hwu hbind
      rcases Tx.ite_ok.mp h₂ with ⟨-, hpure⟩ | ⟨-, h₃⟩
      · obtain ⟨rfl, rfl⟩ := Tx.pure_ok.mp hpure
        exact .inl ⟨rfl, hbound⟩
      · obtain ⟨_, t₂, hdrop, hdispatch⟩ := Tx.bind_ok.mp h₃
        have hdropped : NoRun s t₂ :=
          Preord.trans hbound (.of_writes hdrop (Respects.rel hdrop))
        have hwrites : Writes [.activeExecuteRunMarkers] t₁ t₂ := Respects.rel hdrop
        have hunits₁ : t₁.workUnitExecutions = t₂.workUnitExecutions :=
          (hwrites .workUnitExecutions).2 (by decide)
        rcases dispatchUnit_ok hdispatch with ⟨rfl, hnone⟩ | ⟨task, r, n, hleft, hunit, rfl, hrun⟩
        · exact .inl ⟨rfl, Preord.trans hdropped hnone⟩
        · obtain ⟨hfresh, hruns, hunits⟩ := createExecuteRun_ok hrun
          rw [hunit, ← hunits₁] at hunits
          refine .inr ⟨r.runId, createdRun env taskId task r (wu.attemptCount + 1), wu, rfl, ?_⟩
          exact
            { fresh := hdropped.runs ▸ hfresh
              runs := hdropped.runs ▸ hruns
              globalRoom := by omega
              taskRoom := by omega
              found := hwu
              left := hleft
              ofTask := rfl
              ofUnit := congrArg some hunit
              kind := rfl
              unit := ⟨_, (congrArg (·.find? node.workUnitId) hunits).trans
                ((Table.find?_modify_self _ _ _).trans (congrArg _ hu₁)), rfl⟩
              others := fun k hk ↦ (congrArg (·.find? k) hunits).trans
                ((Table.find?_modify_of_ne hk _ _).trans (hothers k hk)) }

/-- The limits hold while the loop creates runs, since it counts them. -/
theorem LimitsInv.of_nodeRun {globalActive taskActive : Nat} {created : List String}
    {node : RawNode} {wu : WorkUnitExecutionRow} (hinv : LimitsInv s)
    (htotal : countActiveRuns s ≤ globalActive + created.length)
    (htask : countTaskActiveRuns s taskId ≤ taskActive + created.length)
    (h : NodeRun taskId globalActive taskActive created node s s' runId run wu) :
    LimitsInv s' := by
  refine hinv.of_added h.toRunAdded (htotal.trans_lt h.globalRoom)
    (h.ofTask ▸ htask.trans_lt h.taskRoom) (fun k u' hu' ↦ ?_) (fun k u hu ↦ ?_) ?_
  · by_cases hk : k = node.workUnitId
    · subst hk
      obtain ⟨u, hu, hcount⟩ := h.unit
      obtain rfl := Option.some.inj (hu.symm.trans hu')
      refine ⟨wu, h.found, ?_, hcount.trans_le h.left⟩
      simp [hcount, h.kind, h.ofUnit]
    · have hu := (h.others k hk).symm.trans hu'
      have hne : ¬node.workUnitId = k := fun heq ↦ hk heq.symm
      exact ⟨u', hu, by simp [h.ofUnit, hne], (hinv.attempts k u' hu).2⟩
  · by_cases hk : k = node.workUnitId
    · subst hk
      obtain ⟨u', hu', -⟩ := h.unit
      exact ⟨u', hu'⟩
    · exact ⟨u, (h.others k hk).trans hu⟩
  · intro _ k hk
    obtain rfl := Option.some.inj (h.ofUnit.symm.trans hk)
    exact ⟨wu, h.found⟩

theorem dispatchPlanNodes_limits (hinv : LimitsInv s)
    (h : dispatchPlanNodes env auth p taskId s = .ok (result, s')) : LimitsInv s' := by
  rw [dispatchPlanNodes, Tx.get_bind_ok] at h
  cases hmarker : s.activePlanMarkers.find? taskId with
  | none =>
    rw [hmarker] at h
    obtain ⟨-, rfl⟩ := Tx.pure_ok.mp h
    exact hinv
  | some marker =>
    rw [hmarker] at h
    obtain ⟨plan, t, hplan, h₁⟩ := Tx.bind_ok.mp h
    obtain ⟨-, rfl⟩ := Tx.require_ok.mp hplan
    obtain ⟨created, t₁, hloop, hpure⟩ := Tx.bind_ok.mp h₁
    obtain ⟨-, rfl⟩ := Tx.pure_ok.mp hpure
    -- the loop has created as many runs as its list is long
    have hbounds := Tx.fold_invariant (P := fun created u ↦ LimitsInv u ∧
      countActiveRuns u ≤ countActiveRuns t + created.length ∧
      countTaskActiveRuns u taskId ≤ countTaskActiveRuns t taskId + created.length)
      ?_ ⟨hinv, le_rfl, le_rfl⟩ hloop
    · exact hbounds.1
    · rintro node - created created' u u' ⟨hu, htotal, htask⟩ hnode
      rcases dispatchNode_ok hnode with ⟨rfl, hnone⟩ | ⟨runId, run, wu, rfl, hrun⟩
      · have hcounts : countActiveRuns u' = countActiveRuns u ∧
            countTaskActiveRuns u' taskId = countTaskActiveRuns u taskId := by
          simp only [countActiveRuns, countTaskActiveRuns, hnone.runs, and_self]
        rw [hcounts.1, hcounts.2]
        exact ⟨hu.of_noRun hnone (Respects.rel hnode), htotal, htask⟩
      · have hone := hrun.countTaskActiveRuns_le taskId
        rw [if_pos hrun.ofTask] at hone
        rw [List.length_append, List.length_singleton]
        exact ⟨hu.of_nodeRun htotal htask hrun, hrun.countActiveRuns_le.trans (by omega),
          hone.trans (by omega)⟩

/-! ## The two commands -/

theorem dispatchReadyRuns_limits (hinv : LimitsInv s)
    (h : dispatchReadyRuns env auth p s = .ok (result, s')) : LimitsInv s' := by
  rcases dispatchReadyRuns_ok h with rfl | ⟨taskId, -, -, -, -, hbudget | hnodes⟩
  · exact hinv
  · have hwrites : Writes [.decisions, .gates, .tasks] s s' := Respects.rel hbudget
    exact hinv.of_noRun (.of_writes hbudget (hwrites.mono (by decide))) (persists_of_writes hwrites)
  · exact dispatchPlanNodes_limits hinv hnodes

theorem dispatchSessionRun_limits {sessionId : String} (hinv : LimitsInv s)
    (h : dispatchSessionRun env auth p taskId sessionId s = .ok (result, s')) : LimitsInv s' := by
  have hdropped : LimitsInv (s.dropPlanMarker sessionId) :=
    ⟨hinv.total, hinv.perTask, hinv.attempts, hinv.known⟩
  rcases dispatchSessionRun_ok h with rfl | ⟨-, rfl⟩ | ⟨task, session, hready, hcreate⟩
  · exact hinv
  · exact hdropped
  · obtain ⟨runId, manifestId, input, hrun⟩ := createPlanRun_ok hcreate
    have hunits := (hrun.rest .workUnitExecutions).2 (by decide)
    refine hdropped.of_added ⟨hrun.fresh, hrun.runs⟩ hready.globalRoom hready.taskRoom
      (fun k u hu ↦ ?_) (fun k u hu ↦ ⟨u, hunits ▸ hu⟩) nofun
    have hu₀ := (congrArg (·.find? k) hunits).trans hu
    exact ⟨u, hu₀, rfl, (hinv.attempts k u hu₀).2⟩

theorem dispatchPlannerRun_limits (hinv : LimitsInv s)
    (h : dispatchPlannerRun env auth p s = .ok (result, s')) : LimitsInv s' := by
  rcases dispatchPlannerRun_ok h with rfl | ⟨taskId, -, -, -, -, sessionId, t, hsession, hrun⟩
  · exact hinv
  · refine dispatchSessionRun_limits ?_ hrun
    rcases hsession with rfl | hbump
    · exact hinv
    · have hends : RunsEnd s t := Respects.rel hbump
      exact hinv.of_stay ⟨hends.moves, Respects.rel hbump, Respects.rel hbump⟩
        (Respects.rel hbump)

theorem handler_limits (hinv : LimitsInv s)
    (h : handler env auth p operation s = .ok (result, s')) : LimitsInv s' := by
  by_cases hready : operation = .dispatchReadyRuns
  · subst hready
    exact dispatchReadyRuns_limits hinv h
  · by_cases hplanner : operation = .dispatchPlannerRun
    · subst hplanner
      exact dispatchPlannerRun_limits hinv h
    · have hends : RunsEnd s s' := Respects.rel h
      exact hinv.of_stay
        ⟨hends.moves, Respects.rel h, (NewRuns.handler_respects hready hplanner).rel h⟩
        ((AttemptsKept.handler_respects hready).rel h)

/-! ## Runs of the system -/

theorem limitsInv_invariant (ok : World → Label → Prop) :
    system.Invariant ok fun w ↦ LimitsInv w.db where
  init := ⟨Nat.zero_le _, fun _ ↦ Nat.zero_le _, (fun _ _ h ↦ nomatch h), (fun _ _ h ↦ nomatch h)⟩
  step w l w' hinv _ hstep := by
    have hrecorded {u u' : DB} (hw : Writes requestRecords u u') (hu : LimitsInv u) :
        LimitsInv u' :=
      hu.of_noRun ⟨((hw .agentRuns).2 (by decide)).symm,
        .of_read ((hw .workUnitExecutions).2 (by decide))⟩ (persists_of_writes hw)
    cases l
    case command env r =>
      rcases step_command hstep with hrecords | ⟨t, t', result, hran, hrecords⟩
      · exact hrecorded hrecords hinv
      · obtain ⟨n, rfl⟩ := hran.start
        have hdrawn : LimitsInv { w.db with drawn := n } :=
          ⟨hinv.total, hinv.perTask, hinv.attempts, hinv.known⟩
        exact hrecorded hrecords (handler_limits hdrawn hran.run)
    all_goals
      have hmoves : Moves Refs.agentRuns RunMoves w.db w'.db :=
        step_background (fun _ _ run hrun ↦ ⟨run, hrun, .refl run⟩) rfl hstep
      have hnew : NewRuns (fun _ ↦ False) w.db w'.db := step_background Preord.refl rfl hstep
      exact hinv.of_stay ⟨hmoves, step_rel hstep, hnew⟩
        (step_background Preord.refl rfl hstep)

/-- However commands are ordered over however many tasks, the active runs stay within the global
limit and those of each task within the limit of a task, and each work unit has had as many attempts
as EXECUTE runs, which are at most the most that are allowed. The rows that are counted persist. -/
theorem runs_within_limits {w : World} (hw : system.Reachable w) :
    countActiveRuns w.db ≤ Defaults.globalRunConcurrency ∧
    (∀ t, countTaskActiveRuns w.db t ≤ Defaults.perTaskRunConcurrency) ∧
    (∀ wuId u, w.db.workUnitExecutions.find? wuId = some u →
      u.attemptCount = executeRuns w.db wuId ∧
        u.attemptCount ≤ Defaults.maxWorkUnitAttempts) ∧
    ∀ l w', system.step w l = some w' → ∀ runId run, w.db.agentRuns.find? runId = some run →
      ∃ run', w'.db.agentRuns.find? runId = some run' ∧ SameFixed run run' := by
  have hinv : LimitsInv w.db := (limitsInv_invariant fun _ _ ↦ True).of_reachable hw
  refine ⟨hinv.total, hinv.perTask, hinv.attempts, fun l w' hstep runId run hrun ↦ ?_⟩
  have hpersist : Persists w.db w'.db := step_rel hstep
  exact (hpersist .agentRuns).1 runId run hrun

/-- The unit of the sample has had one attempt, and its run is active. -/
theorem runs_within_limits_sampleStarted :
    ∃ w u, system.exec system.init sampleStarted = some w ∧ countActiveRuns w.db = 1 ∧
      w.db.workUnitExecutions.find? "unit" = some u ∧ u.attemptCount = 1 ∧
      executeRuns w.db "unit" = 1 := by
  have hview : (system.exec system.init sampleStarted).map (fun w ↦
      (countActiveRuns w.db, (w.db.workUnitExecutions.find? "unit").map (·.attemptCount))) =
        some (1, some 1) := by
    decide +kernel
  obtain ⟨w, hexec, hw⟩ := Option.map_eq_some_iff.mp hview
  obtain ⟨hactive, hcount⟩ := Prod.mk.inj hw
  obtain ⟨u, hu, hattempts⟩ := Option.map_eq_some_iff.mp hcount
  obtain ⟨-, -, hruns, -⟩ := runs_within_limits (.of_exec hexec)
  exact ⟨w, u, hexec, hactive, hu, hattempts, (hruns "unit" u hu).1.symm.trans hattempts⟩

end HibikiCore
