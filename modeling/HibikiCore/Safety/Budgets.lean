import HibikiCore.Safety.DeadRuns
import HibikiCore.Safety.States

/-!
# The budget of model calls

A task has a limit of model calls, and the ACTIVE contract may state two. One of these is copied to
the task whenever a contract becomes ACTIVE, so the two that count are that of the task and
`max_model_calls`. A call is refused when it exceeds the smaller one, but a limit that is not
positive is not counted: below such a limit calls are never refused.
-/

namespace HibikiCore

set_option synthInstance.maxSize 100000000
set_option synthInstance.maxHeartbeats 400000

variable {env : Env} {auth : AuthContext} {p : Payload} {task : TaskRow} {s s' s'' : DB}
  {taskId decisionId : String} {operation : Operation} {result : CommandResult} {t : String}
  {content : ContractContent}

/-! ## The counters and the limits of tasks -/

/-- An update of a task that gives no value for its counter of model calls. -/
instance {a c : TaskRow → String} {b : TaskRow → Json} {d : TaskRow → TaskState}
    {e : TaskRow → Option WaitingReason} {f m : TaskRow → Nat} {g h : TaskRow → Option Nat}
    {i j o : TaskRow → Option String} {k l : TaskRow → Bool} {n : TaskRow → Int}
    {q r : TaskRow → Time} :
    Leaves TaskRow.modelCallsUsed fun t ↦
      ⟨a t, b t, c t, d t, e t, f t, g t, h t, i t, j t, k t, l t, m t, t.modelCallsUsed, n t,
        o t, q t, r t⟩ :=
  ⟨fun _ ↦ rfl⟩

/-- An update of a task that gives no value for its limit of model calls. -/
instance {a c : TaskRow → String} {b : TaskRow → Json} {d : TaskRow → TaskState}
    {e : TaskRow → Option WaitingReason} {f m : TaskRow → Nat} {g h : TaskRow → Option Nat}
    {i j o : TaskRow → Option String} {k l : TaskRow → Bool} {n : TaskRow → Int}
    {q r : TaskRow → Time} :
    Leaves TaskRow.modelCallLimit fun t ↦
      ⟨a t, b t, c t, d t, e t, f t, g t, h t, i t, j t, k t, l t, m t, n t, t.modelCallLimit,
        o t, q t, r t⟩ :=
  ⟨fun _ ↦ rfl⟩

/-- No counter of model calls falls below zero. -/
abbrev NoDebt : DB → DB → Prop :=
  Enters Refs.tasks (fun t ↦ t.modelCallsUsed < 0) fun _ ↦ False

/-- The tasks keep their limits of model calls. -/
abbrev LimitsKept : DB → DB → Prop :=
  Moves Refs.tasks fun a b ↦ b.modelCallLimit = a.modelCallLimit

instance : Preord fun a b : TaskRow ↦ b.modelCallLimit = a.modelCallLimit where
  refl _ := rfl
  trans h h' := h'.trans h

namespace NoDebt

instance update {f : TaskRow → TaskRow} {hf : ∀ a, SameFixed a (f a)}
    [hl : Leaves TaskRow.modelCallsUsed f] :
    Respects NoDebt (Refs.tasks.update taskId f hf : Core Unit) where
  rel h := by
    refine Enters.of_update (fun a _ hdebt ↦ .inl ?_) h
    rwa [hl.same] at hdebt

instance setTaskState_respects {event : TaskEvent} {reason : Option WaitingReason} :
    Respects NoDebt (setTaskState env taskId event reason) := by
  rw [setTaskState]
  infer_instance

instance : ContractVersions NoDebt where
  update _ _ := inferInstance

instance : PlanVersions NoDebt where
  update _ _ := inferInstance

instance : TaskSessions NoDebt where
  update _ _ := inferInstance

instance createTask_respects : Respects NoDebt (createTask env auth p) := by
  have hadd (row : TaskRow) (hzero : row.modelCallsUsed = 0) (k : String) :
      Respects NoDebt (add Refs.tasks k row) := by
    refine Enters.insert ?_
    rw [hzero]
    exact Int.lt_irrefl 0
  rw [createTask]
  refine .seq inferInstance fun _ ↦ .seq inferInstance fun _ ↦ .seq inferInstance fun _ ↦ ?_
  exact .seq (hadd _ rfl _) fun _ ↦ inferInstance

instance syncModelCallLimit_respects : Respects NoDebt (syncModelCallLimit taskId content) := by
  rw [syncModelCallLimit]
  infer_instance

instance applyFinalAcceptance_respects {decision : DecisionRow} :
    Respects NoDebt (applyFinalAcceptance env taskId decisionId decision) := by
  rw [applyFinalAcceptance]
  infer_instance

instance applyContractDeltaApproval_respects {decision : DecisionRow} :
    Respects NoDebt (applyContractDeltaApproval env taskId decisionId decision) := by
  rw [applyContractDeltaApproval]
  infer_instance

instance prepareAcceptance_respects : Respects NoDebt (prepareAcceptance env auth p) := by
  rw [prepareAcceptance]
  infer_instance

instance runtimeQuiescent_respects : Respects NoDebt (runtimeQuiescent env auth p) := by
  rw [runtimeQuiescent]
  infer_instance

instance pauseTask_respects : Respects NoDebt (pauseTask env auth p) := by
  rw [pauseTask]
  infer_instance

instance cancelTask_respects : Respects NoDebt (cancelTask env auth p) := by
  rw [cancelTask]
  infer_instance

end NoDebt

namespace LimitsKept

instance update {f : TaskRow → TaskRow} {hf : ∀ a, SameFixed a (f a)}
    [hl : Leaves TaskRow.modelCallLimit f] :
    Respects LimitsKept (Refs.tasks.update taskId f hf : Core Unit) :=
  Moves.update hl.same

instance setTaskState_respects {event : TaskEvent} {reason : Option WaitingReason} :
    Respects LimitsKept (setTaskState env taskId event reason) := by
  rw [setTaskState]
  infer_instance

instance : ContractVersions LimitsKept where
  update _ _ := inferInstance

instance : PlanVersions LimitsKept where
  update _ _ := inferInstance

instance : TaskSessions LimitsKept where
  update _ _ := inferInstance

instance applyFinalAcceptance_respects {decision : DecisionRow} :
    Respects LimitsKept (applyFinalAcceptance env taskId decisionId decision) := by
  rw [applyFinalAcceptance]
  infer_instance

instance applyContractDeltaApproval_respects {decision : DecisionRow} :
    Respects LimitsKept (applyContractDeltaApproval env taskId decisionId decision) := by
  rw [applyContractDeltaApproval]
  infer_instance

instance recordModelUsage_respects : Respects LimitsKept (recordModelUsage env auth p) := by
  rw [recordModelUsage]
  infer_instance

instance prepareAcceptance_respects : Respects LimitsKept (prepareAcceptance env auth p) := by
  rw [prepareAcceptance]
  infer_instance

instance runtimeQuiescent_respects : Respects LimitsKept (runtimeQuiescent env auth p) := by
  rw [runtimeQuiescent]
  infer_instance

instance pauseTask_respects : Respects LimitsKept (pauseTask env auth p) := by
  rw [pauseTask]
  infer_instance

instance cancelTask_respects : Respects LimitsKept (cancelTask env auth p) := by
  rw [cancelTask]
  infer_instance

instance background : Background LimitsKept := inferInstance

/-- Besides the approval of a contract one command changes limits. -/
theorem handler_respects (hresolve : resolution p operation = none)
    (hdelta : operation ≠ .applyContractDelta) :
    Respects LimitsKept (handler env auth p operation) := by
  cases operation
  case applyContractDelta => exact (hdelta rfl).elim
  case approveContract | resolveDecision | acceptResult | approveSideEffect => cases hresolve
  all_goals (dsimp only [handler]; infer_instance)

theorem of_writes (hw : Writes besideContracts s s') : LimitsKept s s' :=
  .of_read ((hw .tasks).2 (by decide))

end LimitsKept

/-! ## The limit of a contract that becomes ACTIVE -/

/-- The limit that a contract states is copied to its task; no other limit changes. -/
structure Syncs (s s' : DB) (t : String) (content : ContractContent) : Prop where
  others : ∀ k task, k ≠ t → s.tasks.find? k = some task →
    ∃ task', s'.tasks.find? k = some task' ∧ task'.modelCallLimit = task.modelCallLimit
  own : ∀ task, s.tasks.find? t = some task → ∃ task', s'.tasks.find? t = some task' ∧
    task'.modelCallLimit =
      (content.resourceLimits.bind ResourceLimits.modelCallLimit).getD task.modelCallLimit

namespace Syncs

theorem of_sync (h : syncModelCallLimit t content s = .ok ((), s')) : Syncs s s' t content := by
  rw [syncModelCallLimit, Tx.withSome_ok] at h
  rcases h with ⟨limit, hlimit, hupdate⟩ | ⟨hnone, rfl⟩
  · obtain rfl := Ref.update_ok.mp hupdate
    refine ⟨fun k task hk htask ↦ ⟨task, ?_, rfl⟩, fun task htask ↦ ?_⟩
    · exact (Table.find?_modify_of_ne hk _ _).trans htask
    · refine ⟨{ task with modelCallLimit := limit }, ?_, ?_⟩
      · exact (Table.find?_modify_self _ _ _).trans (congrArg _ htask)
      · rw [hlimit, Option.getD_some]
  · refine ⟨fun _ task _ htask ↦ ⟨task, htask, rfl⟩, fun task htask ↦ ⟨task, htask, ?_⟩⟩
    rw [hnone, Option.getD_none]

theorem before (h : Syncs s' s'' t content) (hkept : LimitsKept s s') : Syncs s s'' t content where
  others k task hk htask := by
    obtain ⟨task', htask', hlimit'⟩ := hkept k task htask
    obtain ⟨task'', htask'', hlimit''⟩ := h.others k task' hk htask'
    exact ⟨task'', htask'', hlimit''.trans hlimit'⟩
  own task htask := by
    obtain ⟨task', htask', hlimit'⟩ := hkept t task htask
    obtain ⟨task'', htask'', hlimit''⟩ := h.own task' htask'
    exact ⟨task'', htask'', hlimit' ▸ hlimit''⟩

theorem after (h : Syncs s s' t content) (hkept : LimitsKept s' s'') : Syncs s s'' t content where
  others k task hk htask := by
    obtain ⟨task', htask', hlimit'⟩ := h.others k task hk htask
    obtain ⟨task'', htask'', hlimit''⟩ := hkept k task' htask'
    exact ⟨task'', htask'', hlimit''.trans hlimit'⟩
  own task htask := by
    obtain ⟨task', htask', hlimit'⟩ := h.own task htask
    obtain ⟨task'', htask'', hlimit''⟩ := hkept t task' htask'
    exact ⟨task'', htask'', hlimit''.trans hlimit'⟩

end Syncs

theorem applyContractApproval_syncs {decision : DecisionRow} {actorId : String}
    {contract : ContractRow}
    (hfound : s.contracts.find? (taskId, decision.targetVersion) = some contract)
    (h : applyContractApproval env taskId decisionId decision actorId s = .ok ((), s')) :
    Syncs s s' taskId contract.content := by
  rw [applyContractApproval, Tx.get_bind_ok] at h
  obtain ⟨contract', t₁, hrequire, h₁⟩ := Tx.bind_ok.mp h
  obtain ⟨hcontract, rfl⟩ := Tx.require_ok.mp hrequire
  obtain rfl := Option.some.inj (hfound.symm.trans hcontract)
  obtain ⟨_, t₂, hretire, h₂⟩ := Tx.bind_ok.mp h₁
  obtain ⟨_, t₃, hupdate, h₃⟩ := Tx.bind_ok.mp h₂
  obtain ⟨_, t₄, hmarker, h₄⟩ := Tx.bind_ok.mp h₃
  obtain ⟨_, t₅, htask, h₅⟩ := Tx.bind_ok.mp h₄
  obtain ⟨_, t₆, hgates, h₆⟩ := Tx.bind_ok.mp h₅
  obtain ⟨_, t₇, hdecision, h₇⟩ := Tx.bind_ok.mp h₆
  obtain ⟨_, t₈, hsync, h₈⟩ := Tx.bind_ok.mp h₇
  have hbefore : LimitsKept t₁ t₇ :=
    Preord.trans (Respects.rel hretire) <| Preord.trans (Respects.rel hupdate) <|
      Preord.trans (Respects.rel hmarker) <| Preord.trans (Respects.rel htask) <|
        Preord.trans (Respects.rel hgates) (Respects.rel hdecision)
  exact ((Syncs.of_sync hsync).before hbefore).after (Respects.rel h₈)

theorem activateContractDelta_syncs {decision : DecisionRow} {envelope : DeltaEnvelope}
    {base : ContractRow}
    (hbase : s.contracts.find? (taskId, envelope.baselineContractVersion) = some base)
    (h : activateContractDelta env auth taskId decisionId task decision envelope s
      = .ok (result, s')) :
    Syncs s s' taskId (mergeContractContent base.content envelope.delta) := by
  rw [activateContractDelta, Tx.get_bind_ok] at h
  obtain ⟨base', t₁, hrequire, h₁⟩ := Tx.bind_ok.mp h
  obtain ⟨hbase', rfl⟩ := Tx.require_ok.mp hrequire
  obtain rfl := Option.some.inj (hbase.symm.trans hbase')
  obtain ⟨_, t₂, hcheck, h₂⟩ := Tx.bind_ok.mp h₁
  obtain ⟨-, rfl⟩ := Tx.check_ok.mp hcheck
  obtain ⟨_, t₃, hretire, h₃⟩ := Tx.bind_ok.mp h₂
  obtain ⟨_, t₄, hadd, h₄⟩ := Tx.bind_ok.mp h₃
  obtain ⟨_, t₅, hmarker, h₅⟩ := Tx.bind_ok.mp h₄
  obtain ⟨_, t₆, htask, h₆⟩ := Tx.bind_ok.mp h₅
  obtain ⟨_, t₇, hsync, h₇⟩ := Tx.bind_ok.mp h₆
  have hbefore : LimitsKept t₂ t₆ :=
    Preord.trans (Respects.rel hretire) <| Preord.trans (Respects.rel hadd) <|
      Preord.trans (Respects.rel hmarker) (Respects.rel htask)
  exact ((Syncs.of_sync hsync).before hbefore).after (Respects.rel h₇)

/-! ## The limit of a task is that of its contract -/

/-- A limit that the ACTIVE contract of a task states is the limit of the task. -/
def LimitInv (s : DB) : Prop :=
  ∀ t v contract limit task, s.activeContractMarkers.find? t = some ⟨v⟩ →
    s.contracts.find? (t, v) = some contract →
    contract.content.resourceLimits.bind ResourceLimits.modelCallLimit = some limit →
    s.tasks.find? t = some task → task.modelCallLimit = limit

/-- What a transaction may do to limits: nothing, or it copies that of a contract that becomes
ACTIVE. -/
inductive LimitChange (s s' : DB) : Prop
  | kept (limits : LimitsKept s s') (markers : s'.activeContractMarkers = s.activeContractMarkers)
  | synced {t : String} {v : Nat} {contract : ContractRow} (activates : Activates s s' t v contract)
      (known : ∃ task, s.tasks.find? t = some task) (syncs : Syncs s s' t contract.content)

namespace LimitChange

theorem of_kept (hlimits : LimitsKept s s') (hcontracts : ContractsKept s s') : LimitChange s s' :=
  .kept hlimits hcontracts.markers

theorem inv (h : LimitChange s s') (hp : Persists s s') (hinv : ContractInv s)
    (hlimits : LimitInv s) : LimitInv s' := by
  intro t v contract limit task' hmarker hcontract hstated htask'
  -- a contract that was ACTIVE before is of a task that was there
  have hold (hmarker : s.activeContractMarkers.find? t = some ⟨v⟩) :
      ∃ contract₀ task, s.contracts.find? (t, v) = some contract₀ ∧
        contract₀.content = contract.content ∧ s.tasks.find? t = some task := by
    obtain ⟨contract₀, hcontract₀, -⟩ := hinv.active hmarker
    obtain ⟨task, htask⟩ := hinv.known hcontract₀
    obtain ⟨contract', hcontract', hfixed⟩ := (hp .contracts).1 _ _ hcontract₀
    obtain rfl := Option.some.inj (hcontract.symm.trans hcontract')
    exact ⟨contract₀, task, hcontract₀, (congrArg (·.2.2.1) hfixed).symm, htask⟩
  cases h with
  | kept hkept hmarkers =>
    rw [hmarkers] at hmarker
    obtain ⟨contract₀, task, hcontract₀, hcontent, htask⟩ := hold hmarker
    obtain ⟨task'', htask'', hsame⟩ := hkept t task htask
    obtain rfl := Option.some.inj (htask'.symm.trans htask'')
    exact hsame.trans (hlimits t v contract₀ limit task hmarker hcontract₀ (hcontent ▸ hstated) htask)
  | @synced t₀ v₀ contract₁ activates known syncs =>
    obtain ⟨contracts, hinstalls, hkept⟩ := activates
    rw [hkept.markers, DB.install_markers] at hmarker
    by_cases ht : t = t₀
    · subst ht
      rw [if_pos rfl] at hmarker
      obtain rfl : v₀ = v := congrArg ActiveContractMarker.contractVersion (Option.some.inj hmarker)
      rw [hkept.contracts] at hcontract
      have hnew : contracts.find? (t, v₀) = some contract₁ := (hinstalls _).trans (if_pos rfl)
      obtain rfl := Option.some.inj (hnew.symm.trans hcontract)
      obtain ⟨task, htask⟩ := known
      obtain ⟨task'', htask'', hlimit⟩ := syncs.own task htask
      obtain rfl := Option.some.inj (htask'.symm.trans htask'')
      rw [hlimit, hstated, Option.getD_some]
    · rw [if_neg ht] at hmarker
      obtain ⟨contract₀, task, hcontract₀, hcontent, htask⟩ := hold hmarker
      obtain ⟨task'', htask'', hsame⟩ := syncs.others t task ht htask
      obtain rfl := Option.some.inj (htask'.symm.trans htask'')
      exact hsame.trans
        (hlimits t v contract₀ limit task hmarker hcontract₀ (hcontent ▸ hstated) htask)

theorem around (h : LimitChange s' s'') {s₀ s₁ : DB} (hbefore : Writes besideContracts s₀ s')
    (hafter : Writes besideContracts s'' s₁) : LimitChange s₀ s₁ := by
  have hkept₀ : LimitsKept s₀ s' := .of_writes hbefore
  have hkept₁ : LimitsKept s'' s₁ := .of_writes hafter
  have hcontracts₁ : ContractsKept s'' s₁ := .of_writes hafter
  cases h with
  | kept hlimits hmarkers =>
    have hcontracts₀ : ContractsKept s₀ s' := .of_writes hbefore
    exact .kept (Preord.trans hkept₀ (Preord.trans hlimits hkept₁))
      (hcontracts₁.markers.trans (hmarkers.trans hcontracts₀.markers))
  | synced activates known syncs =>
    have htasks : s₀.tasks = s'.tasks := (hbefore .tasks).2 (by decide)
    exact .synced (.of_writes hbefore (activates.trans hcontracts₁)) (htasks ▸ known)
      ((syncs.before hkept₀).after hkept₁)

theorem of_resolveDecision {r : Resolution}
    (h : resolveDecision env auth r s = .ok (result, s')) : LimitChange s s' := by
  rcases resolveDecision_ok h with rfl | ⟨decisionId, decision, task, hresolves, hsettle⟩
  · exact .of_kept (Preord.refl _) (Preord.refl _)
  obtain ⟨u, hverdict, hevents⟩ := settleDecision_ok hsettle
  have htake : Writes besideContracts s (s.take env auth r.verdict decisionId) :=
    DB.take_writes.mono (by decide)
  have hafter : Writes besideContracts u s' := hevents.mono (by decide)
  refine around ?_ htake hafter
  rcases hverdict with ⟨-, happly⟩ | ⟨-, hreject⟩
  · cases hkind : decision.decisionKind
    case contractApproval =>
      rw [applyApprovedDecision, hkind] at happly
      obtain ⟨contract, contracts, hcontract, hinstalls, hkept⟩ := applyContractApproval_ok happly
      have hsyncs := applyContractApproval_syncs hcontract happly
      exact .synced ⟨contracts, hinstalls, hkept⟩ ⟨task, hresolves.known⟩ hsyncs
    all_goals
      rw [applyApprovedDecision, hkind] at happly
      exact .of_kept (Respects.rel happly) (Respects.rel happly)
  · have hlimits : Respects LimitsKept (rejectDecision env decision.taskId decisionId) := by
      rw [rejectDecision]
      infer_instance
    have hcontracts : Respects ContractsKept (rejectDecision env decision.taskId decisionId) := by
      rw [rejectDecision]
      infer_instance
    exact .of_kept (hlimits.rel hreject) (hcontracts.rel hreject)

theorem of_handler (h : handler env auth p operation s = .ok (result, s')) : LimitChange s s' := by
  cases hr : resolution p operation with
  | some r =>
    rw [handler_resolution hr] at h
    exact of_resolveDecision h
  | none =>
    by_cases hdelta : operation = .applyContractDelta
    · subst hdelta
      obtain ⟨decisionId, decision, task, envelope, _, happlicable, -, hcases⟩ :=
        applyContractDelta_ok h
      rcases hcases with ⟨base, hfresh, hactivate⟩ | ⟨-, code, hstale⟩
      · obtain ⟨-, contracts, hinstalls, hkept⟩ := activateContractDelta_ok hfresh.found hactivate
        exact .synced ⟨contracts, hinstalls, hkept⟩ ⟨task, happlicable.known⟩
          (activateContractDelta_syncs hfresh.found hactivate)
      · exact .of_kept (Respects.rel hstale) (Respects.rel hstale)
    · refine .kept ((LimitsKept.handler_respects hr hdelta).rel h) ?_
      by_cases hsubmit : operation = .submitContract
      · subst hsubmit
        exact (NoneActivated.of_submitContract h).markers
      · exact ((ContractsKept.handler_respects hr hsubmit hdelta).rel h).markers

end LimitChange

section Steps

variable {w w' : World} {l : Label}

theorem step_limits (hstep : system.step w l = some w') : LimitChange w.db w'.db := by
  cases l
  case command env r =>
    rcases step_command hstep with hrecords | ⟨t, t', result, hran, hrecords⟩
    · have hbeside : Writes besideContracts w.db w'.db := hrecords.mono (by decide)
      exact .of_kept (.of_writes hbeside) (.of_writes hbeside)
    · obtain ⟨n, rfl⟩ := hran.start
      exact (LimitChange.of_handler hran.run).around (writes_drawn _ _) (hrecords.mono (by decide))
  all_goals
    exact .of_kept (step_background Preord.refl rfl hstep) (step_background Preord.refl rfl hstep)

theorem limitInv_invariant (ok : World → Label → Prop) :
    system.Invariant ok fun w ↦ ContractInv w.db ∧ LimitInv w.db :=
  (contractInv_invariant ok).strengthen (fun _ _ _ _ _ h ↦ nomatch h)
    fun _ _ _ hinv _ hlimits _ hstep ↦
      (step_limits hstep).inv (step_rel hstep) hinv hlimits

end Steps

/-! ## The accounting of a call -/

/-- What is reported of model calls: one call if nothing is said. -/
def Payload.reportedCalls (p : Payload) : Int := (p.calls.filter (· ≠ 0)).getD 1

/-- The database after calls of a task were counted. -/
def DB.spend (s : DB) (t : String) (used : Int) : DB :=
  { s with tasks := s.tasks.modify t fun task ↦ { task with modelCallsUsed := used } }

/-- What a run reports is refused and changes nothing, or it is counted. -/
theorem recordModelUsage_ok (h : recordModelUsage env auth p s = .ok (result, s')) :
    ∃ runId run task, p.runId = some runId ∧ s.agentRuns.find? runId = some run ∧
      s.tasks.find? run.taskId = some task ∧ 1 ≤ p.reportedCalls ∧ result.replayed = false ∧
      (result.ok = false ∧ s' = s ∨ result.ok = true ∧
        ¬(0 < modelCallLimit s run.taskId task ∧
          modelCallLimit s run.taskId task < task.modelCallsUsed + p.reportedCalls) ∧
        s' = s.spend run.taskId (task.modelCallsUsed + p.reportedCalls)) := by
  rw [recordModelUsage] at h
  obtain ⟨runId, t₁, hkey, h₁⟩ := Tx.bind_ok.mp h
  obtain ⟨hnamed, rfl⟩ := key_ok.mp hkey
  obtain ⟨run, t₂, hget, h₂⟩ := Tx.bind_ok.mp h₁
  obtain ⟨hrun, rfl⟩ := getRun_ok.mp hget
  obtain ⟨_, t₃, hbinding, h₃⟩ := Tx.bind_ok.mp h₂
  obtain ⟨rfl, -⟩ := assertRunWriteBinding_bound hbinding
  obtain ⟨task, t₄, htask, h₄⟩ := Tx.bind_ok.mp h₃
  obtain ⟨hfound, rfl⟩ := getTask_ok.mp htask
  rw [Tx.get_bind_ok] at h₄
  obtain ⟨_, t₅, hcheck, h₅⟩ := Tx.bind_ok.mp h₄
  obtain ⟨hcalls, rfl⟩ := Tx.check_ok.mp hcheck
  rcases Tx.ite_ok.mp h₅ with ⟨-, hpure⟩ | ⟨hleft, h₆⟩
  · obtain ⟨rfl, rfl⟩ := Tx.pure_ok.mp hpure
    exact ⟨runId, run, task, hnamed, hrun, hfound, hcalls, rfl, .inl ⟨rfl, rfl⟩⟩
  · obtain ⟨_, t₆, hupdate, hpure⟩ := Tx.bind_ok.mp h₆
    obtain ⟨rfl, rfl⟩ := Tx.pure_ok.mp hpure
    obtain rfl := Ref.update_ok.mp hupdate
    exact ⟨runId, run, task, hnamed, hrun, hfound, hcalls, rfl, .inr ⟨rfl, hleft, rfl⟩⟩

instance : Transactions NoDebt where
  toBackground := inferInstance
  command env r := by
    have husage (p : Payload) : Respects NoDebt (recordModelUsage env r.auth p) := by
      constructor
      intro s result s' h
      obtain ⟨_, run, task, -, -, htask, hcalls, -, hcases⟩ := recordModelUsage_ok h
      rcases hcases with ⟨-, rfl⟩ | ⟨-, -, rfl⟩
      · exact Preord.refl _
      · have hspend : (Refs.tasks.update run.taskId (fun t ↦
            { t with modelCallsUsed := task.modelCallsUsed + p.reportedCalls }) : Core Unit) s =
              .ok ((), s.spend run.taskId (task.modelCallsUsed + p.reportedCalls)) := rfl
        refine Enters.of_update (fun a ha hdebt ↦ .inl ?_) hspend
        obtain rfl := Option.some.inj (htask.symm.trans ha)
        dsimp only at hdebt ⊢
        omega
    refine execute_respects ?_
    cases r.operation <;> (dsimp only [handler]; infer_instance)

/-! ## The budget -/

/-- A limit of model calls that a task or its ACTIVE contract states. -/
inductive DB.StatesLimit (s : DB) (t : String) (l : Int) : Prop
  | task {task : TaskRow} (found : s.tasks.find? t = some task) (stated : task.modelCallLimit = l)
  | contract {v : Nat} {contract : ContractRow} {limits : ResourceLimits}
      (marker : s.activeContractMarkers.find? t = some ⟨v⟩)
      (found : s.contracts.find? (t, v) = some contract)
      (limited : contract.content.resourceLimits = some limits)
      (stated : limits.maxModelCalls = some l ∨ limits.modelCallLimit = some l)

/-- A task has not made more model calls than any limit allows. -/
def DB.WithinBudget (s : DB) (t : String) : Prop :=
  ∀ task, s.tasks.find? t = some task → ∀ l, s.StatesLimit t l → task.modelCallsUsed ≤ l

theorem DB.statesLimit_congr {l : Int} (htasks : s'.tasks = s.tasks)
    (hcontracts : s'.contracts = s.contracts)
    (hmarkers : s'.activeContractMarkers = s.activeContractMarkers) :
    s'.StatesLimit t l ↔ s.StatesLimit t l := by
  constructor
  · rintro (⟨hfound, hstated⟩ | ⟨hmarker, hfound, hlimited, hstated⟩)
    · exact .task (htasks ▸ hfound) hstated
    · exact .contract (hmarkers ▸ hmarker) (hcontracts ▸ hfound) hlimited hstated
  · rintro (⟨hfound, hstated⟩ | ⟨hmarker, hfound, hlimited, hstated⟩)
    · exact .task (htasks ▸ hfound) hstated
    · exact .contract (hmarkers ▸ hmarker) (hcontracts ▸ hfound) hlimited hstated

theorem DB.spend_statesLimit {used l : Int} (t' : String) :
    (s.spend t' used).StatesLimit t l ↔ s.StatesLimit t l := by
  constructor
  · rintro (⟨hfound, hstated⟩ | ⟨hmarker, hfound, hlimited, hstated⟩)
    · change (s.tasks.modify t' _).find? t = _ at hfound
      rw [Table.find?_modify] at hfound
      split at hfound
      · obtain ⟨task, htask, rfl⟩ := Option.map_eq_some_iff.mp hfound
        exact .task htask hstated
      · exact .task hfound hstated
    · exact .contract hmarker hfound hlimited hstated
  · rintro (⟨hfound, hstated⟩ | ⟨hmarker, hfound, hlimited, hstated⟩)
    · by_cases ht : t = t'
      · subst ht
        refine .task ((Table.find?_modify_self _ _ _).trans (congrArg _ hfound)) hstated
      · exact .task ((Table.find?_modify_of_ne ht _ _).trans hfound) hstated
    · exact .contract hmarker hfound hlimited hstated

/-- Of positive limits the smaller one counts. -/
theorem modelCallLimit_eq (hown : 0 < task.modelCallLimit)
    (hmax : ∀ l, (contractAndLimits s t task).2.maxModelCalls = some l → 0 < l) :
    modelCallLimit s t task = min task.modelCallLimit
      ((contractAndLimits s t task).2.maxModelCalls.getD task.modelCallLimit) := by
  have hcontract : intOr (contractAndLimits s t task).2.maxModelCalls task.modelCallLimit =
      (contractAndLimits s t task).2.maxModelCalls.getD task.modelCallLimit := by
    cases hstated : (contractAndLimits s t task).2.maxModelCalls with
    | none => rfl
    | some l => exact if_pos (hmax l hstated)
  have hpositive : 0 < (contractAndLimits s t task).2.maxModelCalls.getD task.modelCallLimit := by
    cases hstated : (contractAndLimits s t task).2.maxModelCalls with
    | none => exact hown
    | some l => exact hmax l hstated
  rw [modelCallLimit, hcontract, if_neg hpositive.ne', if_neg hown.ne']

/-- What the limits of a contract are read from is the ACTIVE contract. -/
theorem contractAndLimits_stated (hinv : ContractInv s) (htask : s.tasks.find? t = some task)
    {l : Int} (hmax : (contractAndLimits s t task).2.maxModelCalls = some l) :
    s.StatesLimit t l := by
  rw [contractAndLimits, taskContract, hinv.version htask] at hmax
  cases hmarker : s.activeContractMarkers.find? t with
  | none =>
    rw [hmarker] at hmax
    cases hmax
  | some marker =>
    obtain ⟨contract, hcontract, -⟩ := hinv.active hmarker
    simp only [hmarker, Option.map_some, Option.bind_some, hcontract] at hmax
    cases hlimited : contract.content.resourceLimits with
    | none =>
      rw [hlimited] at hmax
      cases hmax
    | some limits =>
      rw [hlimited] at hmax
      exact .contract hmarker hcontract hlimited (.inl hmax)

/-- The limit that counts is positive and the smallest one, if all limits are positive. -/
theorem modelCallLimit_le (hinv : ContractInv s) (hlimits : LimitInv s)
    (htask : s.tasks.find? t = some task) (hpositive : ∀ l, s.StatesLimit t l → 0 < l) :
    0 < modelCallLimit s t task ∧ ∀ l, s.StatesLimit t l → modelCallLimit s t task ≤ l := by
  have hown : 0 < task.modelCallLimit := hpositive _ (.task htask rfl)
  have hmax (l : Int) (hl : (contractAndLimits s t task).2.maxModelCalls = some l) : 0 < l :=
    hpositive l (contractAndLimits_stated hinv htask hl)
  rw [modelCallLimit_eq hown hmax]
  constructor
  · cases hl : (contractAndLimits s t task).2.maxModelCalls with
    | none => exact lt_min hown hown
    | some l => exact lt_min hown (hmax l hl)
  · intro l hl
    cases hl with
    | task found stated =>
      obtain rfl := Option.some.inj (htask.symm.trans found)
      exact stated ▸ min_le_left _ _
    | contract marker found limited stated =>
      rcases stated with hstated | hstated
      · have hread : (contractAndLimits s t task).2.maxModelCalls = some l := by
          rw [contractAndLimits, taskContract, hinv.version htask, marker]
          simp only [Option.map_some, Option.bind_some, found, limited]
          exact hstated
        rw [hread]
        exact min_le_right _ _
      · have hsame : task.modelCallLimit = l :=
          hlimits _ _ _ _ _ marker found (by rw [limited]; exact hstated) htask
        exact hsame ▸ min_le_left _ _

/-- A report of model calls that is refused leaves all tasks as they are. One that is counted leaves
its task within its budget if and only if every limit that the task or its ACTIVE contract states is
positive. -/
theorem model_calls_within_budget_iff {w : World} {r : Request} (hw : system.Reachable w)
    (hoperation : r.operation = .recordModelUsage)
    (h : execute env r w.db = .ok (result, s')) :
    (result.ok = false ∨ result.replayed = true → s'.tasks = w.db.tasks) ∧
      (result.ok = true → result.replayed = false →
        ∃ runId run, r.payload.runId = some runId ∧ w.db.agentRuns.find? runId = some run ∧
          (s'.WithinBudget run.taskId ↔ ∀ l, w.db.StatesLimit run.taskId l → 0 < l)) := by
  obtain ⟨hinv, hlimits⟩ := (limitInv_invariant _).of_reachable hw
  have hdebt : NoDebt system.init.db w.db := run_rel hw
  have hkept {s s' : DB} (hrecords : Writes requestRecords s s') : s'.tasks = s.tasks :=
    ((hrecords .tasks).2 (by decide)).symm
  rcases execute_cases h with ⟨hreplayed, hrecords⟩ | ⟨t, t', hran, hrecords⟩
  · refine ⟨fun _ ↦ hkept hrecords, fun _ hfresh ↦ ?_⟩
    rw [hreplayed] at hfresh
    cases hfresh
  obtain ⟨n, rfl⟩ := hran.start
  have hrun := hran.run
  rw [hoperation] at hrun
  change recordModelUsage env r.auth r.payload _ = _ at hrun
  obtain ⟨runId, run, task, hnamed, hfound, htask, hcalls, hfresh, hcases⟩ :=
    recordModelUsage_ok hrun
  rcases hcases with ⟨hrefused, rfl⟩ | ⟨hok, hleft, rfl⟩
  · refine ⟨fun _ ↦ hkept hrecords, fun hok ↦ ?_⟩
    rw [hrefused] at hok
    cases hok
  have hused : 0 ≤ task.modelCallsUsed := by
    by_contra hneg
    rcases hdebt run.taskId task htask (by omega) with ⟨_, hnone, -⟩ | hfalse
    · cases hnone
    · exact hfalse
  refine ⟨fun hnot ↦ ?_, fun _ _ ↦ ⟨runId, run, hnamed, hfound, ?_⟩⟩
  · simp [hok, hfresh] at hnot
  -- the limits are those from before
  have hstates (l : Int) : s'.StatesLimit run.taskId l ↔ w.db.StatesLimit run.taskId l := by
    have hafter := DB.statesLimit_congr (t := run.taskId) (l := l) (hkept hrecords)
      ((hrecords .contracts).2 (by decide)).symm
      ((hrecords .activeContractMarkers).2 (by decide)).symm
    have hdrawn : DB.StatesLimit { w.db with drawn := n } run.taskId l ↔
        w.db.StatesLimit run.taskId l := DB.statesLimit_congr rfl rfl rfl
    exact hafter.trans ((DB.spend_statesLimit run.taskId).trans hdrawn)
  have hspent : s'.tasks.find? run.taskId =
      some { task with modelCallsUsed := task.modelCallsUsed + r.payload.reportedCalls } := by
    rw [hkept hrecords]
    exact (Table.find?_modify_self _ _ _).trans (congrArg _ htask)
  constructor
  · intro hwithin l hl
    have hle := hwithin _ hspent l ((hstates l).mpr hl)
    dsimp only at hle
    omega
  · intro hpositive task' htask' l hl
    obtain rfl := Option.some.inj (hspent.symm.trans htask')
    obtain ⟨hpos, hle⟩ := modelCallLimit_le hinv hlimits htask hpositive
    have hleft' : ¬(0 < modelCallLimit w.db run.taskId task ∧
      modelCallLimit w.db run.taskId task < task.modelCallsUsed + r.payload.reportedCalls) := hleft
    have hbound := hle l ((hstates l).mp hl)
    dsimp only
    omega

/-- The contract of a task states a limit, and a run of the task is dispatched. -/
def sampleLimited (limit : Int) : List Label :=
  let human := AuthContext.ofHuman "owner"
  [ .ask human .createTask { title := some "task" },
    .ask human .submitContract
      { taskId := some "task_i", resourceLimits := some { maxModelCalls := some limit } },
    .ask human .approveContract { decisionId := some "dec_iiii" },
    .ask human .activateMinimalPlan { taskId := some "task_i", workUnitId := some "unit" },
    .ask human .dispatchReadyRuns { taskId := some "task_i" } ]

/-- The report of a model call of the run. -/
def sampleReport : Request where
  operation := .recordModelUsage
  auth := sampleRuntime
  payload := { runId := some "run_iiiiiiiiii" }

/-- The model calls and the limit of the task of a sample, and the limit of its contract. -/
def sampleBudget (s : DB) : Option (Int × Int) × Option (Option Int) :=
  ((s.tasks.find? "task_i").map fun task ↦ (task.modelCallsUsed, task.modelCallLimit),
    (s.activeContractMarkers.find? "task_i").bind fun marker ↦
      (s.contracts.find? ("task_i", marker.contractVersion)).bind fun contract ↦
        contract.content.resourceLimits.map ResourceLimits.maxModelCalls)

/-- What becomes of the report: the answer, the task of the run, and the budget afterwards. -/
def sampleReported (w : World) :
    Option ((Bool × Bool) × Option String × Option (Int × Int) × Option (Option Int)) :=
  match execute .silent sampleReport w.db with
  | .ok (result, s') =>
    some ((result.ok, result.replayed), (w.db.agentRuns.find? "run_iiiiiiiiii").map (·.taskId),
      sampleBudget s')
  | .error _ => none

theorem sampleReported_some {w : World} {answer : Bool × Bool} {owner : Option String}
    {budget : Option (Int × Int) × Option (Option Int)}
    (h : sampleReported w = some (answer, owner, budget)) :
    ∃ result s', execute .silent sampleReport w.db = .ok (result, s') ∧
      (result.ok, result.replayed) = answer ∧
      (w.db.agentRuns.find? "run_iiiiiiiiii").map (·.taskId) = owner ∧ sampleBudget s' = budget := by
  rw [sampleReported] at h
  cases hexecute : execute .silent sampleReport w.db with
  | error e =>
    rw [hexecute] at h
    cases h
  | ok out =>
    rw [hexecute] at h
    simp only [Option.some.injEq, Prod.mk.injEq] at h
    obtain ⟨hanswer, howner, hbudget⟩ := h
    exact ⟨out.1, out.2, rfl, hanswer, howner, hbudget⟩

/-- What a sample has as its budget. -/
theorem sampleBudget_some {used own : Int} {stated : Option Int}
    (h : sampleBudget s = (some (used, own), some stated)) :
    ∃ task, s.tasks.find? "task_i" = some task ∧ task.modelCallsUsed = used ∧
      ∀ l, stated = some l → s.StatesLimit "task_i" l := by
  simp only [sampleBudget, Prod.mk.injEq, Option.map_eq_some_iff, Option.bind_eq_some_iff] at h
  obtain ⟨⟨task, htask, hused, -⟩, marker, hmarker, contract, hcontract, limits, hlimits, hmax⟩ := h
  refine ⟨task, htask, hused, fun l hl ↦ ?_⟩
  exact .contract hmarker hcontract hlimits (.inl (hmax.trans hl))

theorem sampleLimited_zero :
    (system.exec system.init (sampleLimited 0)).bind sampleReported =
      some ((true, false), some "task_i", some (1, 200), some (some 0)) := by
  decide +kernel

theorem sampleLimited_three :
    (system.exec system.init (sampleLimited 3)).bind sampleReported =
      some ((true, false), some "task_i", some (1, 200), some (some 3)) := by
  decide +kernel

/-- The ACTIVE contract of the sample allows no model call, and one is counted. -/
theorem sampleLimited_exceeds :
    ∃ w result s' task, system.Reachable w ∧ sampleReport.operation = .recordModelUsage ∧
      execute .silent sampleReport w.db = .ok (result, s') ∧ result.ok = true ∧
      s'.tasks.find? "task_i" = some task ∧ s'.StatesLimit "task_i" 0 ∧
      ¬task.modelCallsUsed ≤ 0 := by
  obtain ⟨w, hexec, hview⟩ := Option.bind_eq_some_iff.mp sampleLimited_zero
  obtain ⟨result, s', hexecute, hanswer, -, hbudget⟩ := sampleReported_some hview
  obtain ⟨task, htask, hused, hstated⟩ := sampleBudget_some hbudget
  refine ⟨w, result, s', task, .of_exec hexec, rfl, hexecute, congrArg Prod.fst hanswer, htask,
    hstated 0 rfl, ?_⟩
  rw [hused]
  decide

/-- With a contract that allows three calls the first one is within the budget. -/
theorem model_calls_within_budget_iff_sampleLimited :
    ∃ w result s', system.exec system.init (sampleLimited 3) = some w ∧
      execute .silent sampleReport w.db = .ok (result, s') ∧ result.ok = true ∧
      (s'.WithinBudget "task_i" ↔ ∀ l, w.db.StatesLimit "task_i" l → 0 < l) := by
  obtain ⟨w, hexec, hview⟩ := Option.bind_eq_some_iff.mp sampleLimited_three
  obtain ⟨result, s', hexecute, hanswer, howner, hbudget⟩ := sampleReported_some hview
  obtain ⟨hok, hfresh⟩ := Prod.mk.inj hanswer
  obtain ⟨-, hiff⟩ := model_calls_within_budget_iff (.of_exec hexec) rfl hexecute
  obtain ⟨runId, run, hnamed, hrun, hwithin⟩ := hiff hok hfresh
  obtain rfl := Option.some.inj hnamed
  rw [hrun] at howner
  have htask : run.taskId = "task_i" := Option.some.inj howner
  rw [htask] at hwithin
  exact ⟨w, result, s', hexec, hexecute, hok, hwithin⟩

end HibikiCore
