import HibikiCore.Application.Totality
import HibikiCore.Safety.States
import HibikiCore.Safety.Integrity

/-!
# Runnable tasks and their contracts

A task becomes runnable when its contract is approved, when a decision leaves it without gates, and
when it is resumed. Only the first of these asks for a contract.
-/

namespace HibikiCore

set_option synthInstance.maxSize 100000000
set_option synthInstance.maxHeartbeats 400000

variable {env : Env} {auth : AuthContext} {p : Payload} {task : TaskRow} {s s' : DB} {w w' : World}
  {l : Label} {taskId decisionId t : String} {event : TaskEvent} {result : CommandResult}

/-! ## What makes a task runnable -/

/-- The events that lead to a runnable state from another one. -/
def rousingEvents : List TaskEvent :=
  [.contractApproved, .contractApprovedSimple, .decisionResolved, .resumeRequestedRunnable]

theorem calm_runnable (h : event ∉ rousingEvents) : Calm TaskState.isDispatchable event where
  calm {state next} hnext hQ := by
    cases event <;> first
      | exact absurd (by decide) h
      | (cases state <;> cases hnext <;> first | rfl | cases hQ)

section Calm

instance : Calm TaskState.isDispatchable .contractSubmitted := calm_runnable (by decide)

instance : Calm TaskState.isDispatchable .planActivated := calm_runnable (by decide)

instance : Calm TaskState.isDispatchable .blockingGateOpened := calm_runnable (by decide)

instance : Calm TaskState.isDispatchable .requiredOutputsReady := calm_runnable (by decide)

instance : Calm TaskState.isDispatchable .verificationFailed := calm_runnable (by decide)

instance : Calm TaskState.isDispatchable .acceptanceReady := calm_runnable (by decide)

instance : Calm TaskState.isDispatchable .finalAccepted := calm_runnable (by decide)

instance : Calm TaskState.isDispatchable .pauseRequested := calm_runnable (by decide)

instance : Calm TaskState.isDispatchable .runtimeQuiescent := calm_runnable (by decide)

instance : Calm TaskState.isDispatchable .resumeRequested := calm_runnable (by decide)

instance : Calm TaskState.isDispatchable .cancelRequested := calm_runnable (by decide)

instance : Calm TaskState.isDispatchable .cancellationSettled := calm_runnable (by decide)

end Calm

/-- The tasks that became runnable are among some. -/
abbrev Roused (T : String → Prop) : DB → DB → Prop := StateEnters TaskState.isDispatchable T

namespace Roused

variable {T : String → Prop}

instance background : Background (Roused T) := inferInstance

/-- Besides the commands that resolve decisions two commands make tasks runnable. -/
theorem handler_respects {operation : Operation} (hresolve : resolution p operation = none)
    (hdelta : operation ≠ .applyContractDelta) (hresume : operation ≠ .resumeTask) :
    Respects (Roused T) (handler env auth p operation) := by
  cases operation
  case applyContractDelta => exact (hdelta rfl).elim
  case resumeTask => exact (hresume rfl).elim
  case approveContract | resolveDecision | acceptResult | approveSideEffect => cases hresolve
  case createTask => exact StateEnters.createTask_enters rfl
  all_goals (dsimp only [handler]; infer_instance)

end Roused

/-! ## Gates that a decision leaves -/

/-- A decision that is taken leaves the gates of the others. -/
theorem otherBlockingGates_of_resolved (h : resolveGates env decisionId s = .ok ((), s'))
    (hfree : hasBlockingGate s' taskId = false) :
    otherBlockingGates s taskId (some decisionId) = [] := by
  rw [resolveGates, setGates] at h
  obtain rfl := Ref.updateWhere_ok.mp h
  rw [otherBlockingGates, List.filter_eq_nil_iff]
  rintro ⟨k, gate⟩ hmem hother
  obtain ⟨hgate, hblocks⟩ := Table.mem_select.mp hmem
  obtain ⟨howner, hunresolved⟩ := Bool.and_eq_true_iff.mp hblocks
  have hne : gate.decisionId ≠ decisionId := by simpa using hother
  rw [← Bool.not_eq_true, hasBlockingGate_iff] at hfree
  refine hfree ⟨k, gate, ?_, by simpa using howner, hunresolved⟩
  change (s.gates.modifyWhere _ _).find? k = _
  rw [Table.find?_modifyWhere, hgate, Option.map_some, if_neg (by simpa using hne)]

/-- What holds of a task whose last gates are those of a decision. -/
structure LastGates (s : DB) (decisionId : String) (decision : DecisionRow) (task : TaskRow) :
    Prop where
  waiting : task.state = .waitingHuman
  going : task.cancelIntent = false
  gates : otherBlockingGates s decision.taskId (some decisionId) = []

/-- A unit that is set free with its task. -/
def freedUnit (u : WorkUnitExecutionRow) : WorkUnitExecutionRow :=
  { u with status := .pending, blockedReason := none, activeRunId := none }

/-- A task that waits without gates is set free, and its blocked units with it. -/
theorem recomputeRunnableState_cases (h : recomputeRunnableState env taskId s = .ok ((), s')) :
    s' = s ∨ (∃ task, s.tasks.find? taskId = some task ∧ task.state = .waitingHuman ∧
        task.cancelIntent = false) ∧ hasBlockingGate s taskId = false ∧
      s'.workUnitExecutions =
        s.workUnitExecutions.modifyWhere (fun _ u ↦ u.isGateBlocked taskId) freedUnit := by
  obtain ⟨task, t₁, hget, h₁⟩ := Tx.bind_ok.mp h
  obtain ⟨hfound, rfl⟩ := getTask_ok.mp hget
  rw [Tx.get_bind_ok] at h₁
  rcases Tx.when_ok.mp h₁ with ⟨⟨hwaiting, hfree, hgoing⟩, h₂⟩ | ⟨-, rfl⟩
  · obtain ⟨_, t₂, hunits, hset⟩ := Tx.bind_ok.mp h₂
    obtain rfl := Ref.updateWhere_ok.mp hunits
    have hafter : Writes [.tasks] _ s' := Respects.rel hset
    exact .inr ⟨⟨task, hfound, hwaiting, hgoing⟩, hfree,
      ((hafter .workUnitExecutions).2 (by decide)).symm⟩
  · exact .inl rfl

/-- Once the gates of a decision are resolved, its task is set free if they were the last ones, and
its blocked units with it. -/
theorem recompute_cases {u u₁ u₂ : DB} (hsame : u.gates = s.gates)
    (hgates : resolveGates env decisionId u = .ok ((), u₁))
    (hstate : recomputeRunnableState env taskId u₁ = .ok ((), u₂)) :
    u₂ = u₁ ∨ (∃ task, u₁.tasks.find? taskId = some task ∧ task.state = .waitingHuman ∧
        task.cancelIntent = false) ∧ otherBlockingGates s taskId (some decisionId) = [] ∧
      u₂.workUnitExecutions =
        u₁.workUnitExecutions.modifyWhere (fun _ u ↦ u.isGateBlocked taskId) freedUnit := by
  refine (recomputeRunnableState_cases hstate).imp_right fun ⟨htask, hfree, hunits⟩ ↦ ?_
  have hother := otherBlockingGates_of_resolved hgates hfree
  rw [otherBlockingGates, blockingGates, hsame] at hother
  exact ⟨htask, hother, hunits⟩

/-- The kinds of decisions whose approval resolves the gate and does nothing else about it. -/
def DecisionKind.freesTask : DecisionKind → Bool
  | .sideEffectApproval | .clarification | .resourceLimit => true
  | .contractApproval | .contractDelta | .finalAcceptance => false

/-- A decision that is taken and leaves its task without gates, whatever its contract. -/
structure FreesTask (env : Env) (auth : AuthContext) (r : Resolution) (s : DB)
    (decisionId : String) (decision : DecisionRow) (task : TaskRow) : Prop where
  resolves : Resolves env auth r s decisionId decision task
  last : LastGates s decisionId decision task
  frees : r.verdict = "APPROVE" → decision.decisionKind.freesTask = true

/-- A decision was taken that frees its task: only its gates are resolved, and what follows from
it. -/
structure Freeing (env : Env) (decisionId taskId : String) (s v u₁ u : DB) : Prop where
  before : Writes [.decisions, .sideEffects] s v
  gates : resolveGates env decisionId v = .ok ((), u₁)
  state : recomputeRunnableState env taskId u₁ = .ok ((), u)

/-- What a resolution does: nothing, or it applies an approval that sets no task free, or it
resolves the gates of its decision. -/
theorem resolveDecision_cases {r : Resolution}
    (h : resolveDecision env auth r s = .ok (result, s')) :
    s' = s ∨ ∃ decisionId decision task u, Resolves env auth r s decisionId decision task ∧
      Writes [.events] u s' ∧
      (decision.decisionKind.freesTask = false ∧ applyApprovedDecision env decision.taskId decisionId
          decision auth.actorId (s.take env auth r.verdict decisionId) = .ok ((), u) ∨
        (r.verdict = "APPROVE" → decision.decisionKind.freesTask = true) ∧
          ∃ v u₁, Freeing env decisionId decision.taskId s v u₁ u) := by
  rcases resolveDecision_ok h with rfl | ⟨decisionId, decision, task, hresolves, hsettle⟩
  · exact .inl rfl
  obtain ⟨u, hverdict, hevents⟩ := settleDecision_ok hsettle
  refine .inr ⟨decisionId, decision, task, u, hresolves, hevents, ?_⟩
  have htakes : Writes [.decisions] s (s.take env auth r.verdict decisionId) := DB.take_writes
  rcases hverdict with ⟨happrove, happly⟩ | ⟨hreject, hrun⟩
  · cases hkind : decision.decisionKind
    case contractApproval | finalAcceptance | contractDelta => exact .inl ⟨rfl, happly⟩
    case clarification | resourceLimit =>
      rw [applyApprovedDecision, hkind] at happly
      obtain ⟨_, u₁, hgates, hstate⟩ := Tx.bind_ok.mp happly
      exact .inr ⟨fun _ ↦ rfl, _, u₁, htakes.mono (by decide), hgates, hstate⟩
    case sideEffectApproval =>
      rw [applyApprovedDecision, hkind] at happly
      dsimp only at happly
      rw [applySideEffectApproval, Tx.get_bind_ok] at happly
      obtain ⟨effect, t₁, heffect, h₁⟩ := Tx.bind_ok.mp happly
      obtain ⟨-, rfl⟩ := Tx.require_ok.mp heffect
      obtain ⟨_, t₂, hdigest, h₂⟩ := Tx.bind_ok.mp h₁
      obtain ⟨-, rfl⟩ := Tx.check_ok.mp hdigest
      obtain ⟨next, t₃, hnext, h₃⟩ := Tx.bind_ok.mp h₂
      obtain ⟨-, rfl⟩ := Tx.require_ok.mp hnext
      obtain ⟨_, t₄, hupdate, h₄⟩ := Tx.bind_ok.mp h₃
      obtain ⟨_, u₁, hgates, hstate⟩ := Tx.bind_ok.mp h₄
      have hauthorized : Writes [.decisions, .sideEffects] _ t₄ := Respects.rel hupdate
      exact .inr ⟨fun _ ↦ rfl, t₄, u₁, Preord.trans (htakes.mono (by decide)) hauthorized, hgates,
        hstate⟩
  · obtain ⟨_, u₁, hgates, hstate⟩ := Tx.bind_ok.mp hrun
    exact .inr ⟨fun h ↦ absurd h hreject, _, u₁, htakes.mono (by decide), hgates, hstate⟩

/-- A decision that frees its task leaves everything else, or its gates were the last ones. -/
theorem Freeing.cases {decision : DecisionRow} {v u₁ u : DB}
    (h : Freeing env decisionId decision.taskId s v u₁ u)
    (htask : s.tasks.find? decision.taskId = some task) :
    u = u₁ ∨ LastGates s decisionId decision task ∧ u.workUnitExecutions =
      s.workUnitExecutions.modifyWhere (fun _ u ↦ u.isGateBlocked decision.taskId) freedUnit := by
  have hresolved : Writes [.gates] v u₁ := Respects.rel h.gates
  have htasks : s.tasks = u₁.tasks :=
    ((h.before .tasks).2 (by decide)).trans ((hresolved .tasks).2 (by decide))
  have hunits : s.workUnitExecutions = u₁.workUnitExecutions :=
    ((h.before .workUnitExecutions).2 (by decide)).trans
      ((hresolved .workUnitExecutions).2 (by decide))
  have hsame : v.gates = s.gates := ((h.before .gates).2 (by decide)).symm
  rcases recompute_cases hsame h.gates h.state with
    rfl | ⟨⟨task', hfound, hwaiting, hgoing⟩, hlast, hfreed⟩
  · exact .inl rfl
  · rw [← htasks] at hfound
    obtain rfl := Option.some.inj (htask.symm.trans hfound)
    exact .inr ⟨⟨hwaiting, hgoing, hlast⟩, by rw [hfreed, hunits]⟩

/-- What a resolution makes runnable: nothing, or one task that has an ACTIVE contract now, or one
that it sets free. -/
theorem resolveDecision_roused {r : Resolution} {T : String → Prop}
    (h : resolveDecision env auth r s = .ok (result, s')) :
    Roused T s s' ∨ ∃ t, Roused (· = t) s s' ∧
      ((∃ marker, s'.activeContractMarkers.find? t = some marker) ∨
        ∃ decisionId decision task, decision.taskId = t ∧
          FreesTask env auth r s decisionId decision task) := by
  rcases resolveDecision_cases h with rfl |
    ⟨decisionId, decision, task, u, hresolves, hevents, ⟨hkind, happly⟩ | ⟨hkind, v, u₁, hfrees⟩⟩
  · exact .inl (Preord.refl _)
  · have htakes : Writes [.decisions] s (s.take env auth r.verdict decisionId) := DB.take_writes
    cases hk : decision.decisionKind <;> rw [hk] at hkind
    case contractApproval =>
      rw [applyApprovedDecision, hk] at happly
      have happroval : Respects (Roused (· = decision.taskId))
          (applyContractApproval env decision.taskId decisionId decision auth.actorId) := by
        rw [applyContractApproval]
        infer_instance
      obtain ⟨contract, contracts, -, -, hkept⟩ := applyContractApproval_ok happly
      have hafter : ContractsKept u s' := Indifferent.writes hevents
      refine .inr ⟨decision.taskId, Preord.trans (Indifferent.writes htakes)
        (Preord.trans (happroval.rel happly) (Indifferent.writes hevents)),
        .inl ⟨⟨decision.targetVersion⟩, ?_⟩⟩
      rw [hafter.markers, hkept.markers, DB.install_markers, if_pos rfl]
    case finalAcceptance | contractDelta =>
      rw [applyApprovedDecision, hk] at happly
      exact .inl (Preord.trans (Indifferent.writes htakes)
        (Preord.trans (Respects.rel happly) (Indifferent.writes hevents)))
    all_goals cases hkind
  · have hbegin (T : String → Prop) : Roused T s v := .of_read ((hfrees.before .tasks).2 (by decide))
    have hresolve (T : String → Prop) : Roused T v u₁ := Respects.rel hfrees.gates
    rcases hfrees.cases hresolves.known with rfl | ⟨hlast, -⟩
    · exact .inl (Preord.trans (hbegin T) (Preord.trans (hresolve T) (Indifferent.writes hevents)))
    · refine .inr ⟨decision.taskId, ?_,
        .inr ⟨decisionId, decision, task, rfl, hresolves, hlast, hkind⟩⟩
      have hrecompute : Respects (Roused (· = decision.taskId))
          (recomputeRunnableState env decision.taskId) := by
        rw [recomputeRunnableState]
        infer_instance
      exact Preord.trans (hbegin _) (Preord.trans (hresolve _)
        (Preord.trans (hrecompute.rel hfrees.state) (Indifferent.writes hevents)))

/-! ## Commands -/

/-- A delta is applied to a task with an ACTIVE contract. -/
theorem applyContractDelta_roused (h : applyContractDelta env auth p s = .ok (result, s')) :
    ∃ t marker, s.activeContractMarkers.find? t = some marker ∧ Roused (· = t) s s' := by
  obtain ⟨decisionId, decision, task, envelope, marker, -, hmarker, hcases⟩ :=
    applyContractDelta_ok h
  have hrecompute : Respects (Roused (· = decision.taskId))
      (recomputeRunnableState env decision.taskId) := by
    rw [recomputeRunnableState]
    infer_instance
  refine ⟨decision.taskId, marker, hmarker, ?_⟩
  rcases hcases with ⟨base, -, hactivate⟩ | ⟨-, code, hstale⟩
  · have hrespects : Respects (Roused (· = decision.taskId))
        (activateContractDelta env auth decision.taskId decisionId task decision envelope) := by
      rw [activateContractDelta]
      infer_instance
    exact hrespects.rel hactivate
  · have hrespects : Respects (Roused (· = decision.taskId))
        (invalidateStaleContractDelta env decision.taskId decisionId decision auth.actorId code) := by
      rw [invalidateStaleContractDelta]
      infer_instance
    exact hrespects.rel hstale

/-- A task that is resumed without a gate is runnable. -/
theorem resumeTask_roused {T : String → Prop} (h : resumeTask env auth p s = .ok (result, s')) :
    Roused T s s' ∨ ∃ t task, p.taskId = some t ∧ s.tasks.find? t = some task ∧
      task.state = .paused ∧ hasBlockingGate s t = false ∧ Roused (· = t) s s' := by
  obtain ⟨t, t₁, hkey, h₁⟩ := Tx.bind_ok.mp h
  obtain ⟨hnamed, rfl⟩ := key_ok.mp hkey
  obtain ⟨task, t₂, hget, h₂⟩ := Tx.bind_ok.mp h₁
  obtain ⟨htask, rfl⟩ := getTask_ok.mp hget
  obtain ⟨_, t₃, hcheck, h₃⟩ := Tx.bind_ok.mp h₂
  obtain ⟨hpaused, rfl⟩ := Tx.check_ok.mp hcheck
  rw [Tx.get_bind_ok] at h₃
  rcases Tx.ite_ok.mp h₃ with ⟨-, hgated⟩ | ⟨hfree, hrunnable⟩
  · exact .inl (Respects.rel hgated)
  · refine .inr ⟨t, task, hnamed, htask, hpaused, by simpa using hfree, ?_⟩
    exact Respects.rel hrunnable

/-- A step that would make a task runnable whether it has an ACTIVE contract or not. -/
inductive SetsFree (s : DB) (t : String) : Label → Prop
  /-- The last gate of a waiting task is resolved by a decision that brings no contract. -/
  | resolved {env : Env} {request : Request} {r : Resolution} {decisionId : String}
      {decision : DecisionRow} {task : TaskRow}
      (asked : resolution request.payload request.operation = some r)
      (frees : FreesTask env request.auth r s decisionId decision task)
      (owner : decision.taskId = t) : SetsFree s t (.command env request)
  /-- A paused task without gates is resumed. -/
  | resumed {env : Env} {request : Request} {task : TaskRow}
      (asked : request.operation = .resumeTask) (named : request.payload.taskId = some t)
      (found : s.tasks.find? t = some task) (paused : task.state = .paused)
      (ungated : hasBlockingGate s t = false) : SetsFree s t (.command env request)

/-- What the handler of a command makes runnable. -/
theorem handler_roused {request : Request}
    (h : handler env request.auth request.payload request.operation s = .ok (result, s')) :
    ∃ T : String → Prop, Roused T s s' ∧ ∀ t, T t →
      (∃ marker, s.activeContractMarkers.find? t = some marker) ∨
      (∃ marker, s'.activeContractMarkers.find? t = some marker) ∨
      SetsFree s t (.command env request) := by
  cases hr : resolution request.payload request.operation with
  | some r =>
    rw [handler_resolution hr] at h
    rcases resolveDecision_roused (T := fun _ ↦ False) h with hroused |
      ⟨t, hroused, hmarker | ⟨k, decision, task, howner, hfrees⟩⟩
    · exact ⟨_, hroused, fun _ hfalse ↦ hfalse.elim⟩
    · exact ⟨_, hroused, fun t' ht ↦ .inr (.inl (ht ▸ hmarker))⟩
    · exact ⟨_, hroused, fun t' ht ↦ .inr (.inr (.resolved hr hfrees (howner.trans ht.symm)))⟩
  | none =>
    by_cases hdelta : request.operation = .applyContractDelta
    · rw [hdelta] at h
      obtain ⟨t, marker, hmarker, hroused⟩ := applyContractDelta_roused h
      exact ⟨_, hroused, fun t' ht ↦ .inl ⟨marker, ht ▸ hmarker⟩⟩
    by_cases hresume : request.operation = .resumeTask
    · rw [hresume] at h
      rcases resumeTask_roused (T := fun _ ↦ False) h with hroused |
        ⟨t, task, hnamed, htask, hpaused, hfree, hroused⟩
      · exact ⟨_, hroused, fun _ hfalse ↦ hfalse.elim⟩
      · refine ⟨_, hroused, fun t' ht ↦ .inr (.inr ?_)⟩
        obtain rfl : t' = t := ht
        exact .resumed hresume hnamed htask hpaused hfree
    · have hroused : Roused (fun _ ↦ False) s s' :=
        (Roused.handler_respects hr hdelta hresume).rel h
      exact ⟨_, hroused, fun _ hfalse ↦ hfalse.elim⟩

/-! ## Steps -/

/-- The identifiers that were drawn do not matter. -/
theorem SetsFree.of_drawn {n : Nat} (h : SetsFree { s with drawn := n } t l) : SetsFree s t l := by
  cases h with
  | resolved asked frees owner =>
    obtain ⟨hresolves, ⟨hwaiting, hgoing, hgates⟩, hkind⟩ := frees
    exact .resolved asked ⟨hresolves.of_drawn, ⟨hwaiting, hgoing, hgates⟩, hkind⟩ owner
  | resumed asked named found paused ungated => exact .resumed asked named found paused ungated

/-- A marker is never taken away. -/
theorem marked_of_step {marker : ActiveContractMarker} (hstep : system.step w l = some w')
    (hmarker : w.db.activeContractMarkers.find? t = some marker) :
    ∃ marker', w'.db.activeContractMarkers.find? t = some marker' := by
  have hactivates {s' : DB} {t' : String} {v : Nat} {contract : ContractRow}
      (h : Activates w.db s' t' v contract) :
      ∃ marker', s'.activeContractMarkers.find? t = some marker' := by
    obtain ⟨contracts, -, hkept⟩ := h
    rw [hkept.markers, DB.install_markers]
    split
    · exact ⟨_, rfl⟩
    · exact ⟨marker, hmarker⟩
  rcases step_contracts hstep with hnone | ⟨_, _, -, -, hchange⟩
  · exact ⟨marker, hnone.markers ▸ hmarker⟩
  · cases hchange with
    | quiet hnone => exact ⟨marker, hnone.markers ▸ hmarker⟩
    | approved _ _ _ _ _ _ activates => exact hactivates activates
    | merged _ _ _ _ activates => exact hactivates activates

/-- A task that a step makes runnable has an ACTIVE contract, or the step set it free. -/
theorem step_roused (hstep : system.step w l = some w') {task' : TaskRow}
    (htask' : w'.db.tasks.find? t = some task') (hrunnable : task'.state.isDispatchable = true) :
    (∃ task, w.db.tasks.find? t = some task ∧ task.state.isDispatchable = true) ∨
      (∃ marker, w'.db.activeContractMarkers.find? t = some marker) ∨ SetsFree w.db t l := by
  have hquiet (h : Roused (fun _ ↦ False) w.db w'.db) :
      ∃ task, w.db.tasks.find? t = some task ∧ task.state.isDispatchable = true :=
    (h t task' htask' hrunnable).resolve_right id
  cases l
  case command env request =>
    rcases step_command hstep with hrecords | ⟨u, u', result, hran, hrecords⟩
    · exact .inl (hquiet (.of_read ((hrecords .tasks).2 (by decide))))
    obtain ⟨n, rfl⟩ := hran.start
    have htasks : u'.tasks = w'.db.tasks := (hrecords .tasks).2 (by decide)
    have hmarkers : u'.activeContractMarkers = w'.db.activeContractMarkers :=
      (hrecords .activeContractMarkers).2 (by decide)
    obtain ⟨T, hroused, hT⟩ := handler_roused hran.run
    have hfound : u'.tasks.find? t = some task' := htasks ▸ htask'
    rcases hroused t task' hfound hrunnable with hold | hnew
    · exact .inl hold
    · rcases hT t hnew with ⟨marker, hmarker⟩ | ⟨marker, hmarker⟩ | hfree
      · exact .inr (.inl (marked_of_step hstep hmarker))
      · exact .inr (.inl ⟨marker, hmarkers ▸ hmarker⟩)
      · exact .inr (.inr hfree.of_drawn)
  all_goals exact .inl (hquiet (step_background Preord.refl rfl hstep))

/-! ## The invariant -/

/-- A task is set free only if it has an ACTIVE contract. -/
def ContractFirst (w : World) (l : Label) : Prop :=
  ∀ t, SetsFree w.db t l → ∃ marker, w.db.activeContractMarkers.find? t = some marker

theorem runnable_invariant : system.Invariant ContractFirst fun w ↦
    ∀ t task, w.db.tasks.find? t = some task → task.state.isDispatchable = true →
      ∃ marker, w.db.activeContractMarkers.find? t = some marker where
  init _ _ h := nomatch h
  step w l w' h hok hstep t task' htask' hrunnable := by
    rcases step_roused hstep htask' hrunnable with ⟨task, htask, hold⟩ | hmarker | hfree
    · obtain ⟨marker, hmarker⟩ := h t task htask hold
      exact marked_of_step hstep hmarker
    · exact hmarker
    · obtain ⟨marker, hmarker⟩ := hok t hfree
      exact marked_of_step hstep hmarker

/-- The states in which a task that has not ended is neither interrupted nor about to be. -/
def TaskState.isUninterrupted (state : TaskState) : Bool :=
  !state.isTerminal && state != .pausing && state != .paused && state != .cancelling

/-- In every run of the system that sets no task free without an ACTIVE contract, a runnable task has
an ACTIVE contract, and a task without one accepts every well-formed contract of its principal. -/
theorem runnable_has_contract {w : World} (h : system.ReachableBy ContractFirst w) {t : String}
    {task : TaskRow} (htask : w.db.tasks.find? t = some task) :
    (task.state.isDispatchable = true → ∃ v contract,
      w.db.activeContractMarkers.find? t = some ⟨v⟩ ∧
      w.db.contracts.find? (t, v) = some contract ∧ contract.status = .active) ∧
    (task.state.isUninterrupted = true → w.db.activeContractMarkers.find? t = none →
      ∀ env auth p, p.taskId = some t → task.principalId = auth.principalId →
        (offeredContract p task).WellFormed → FreshIds env w.db →
        guardOperation auth .submitContract = none ∧
          (submitContract env auth p).Yields w.db (·.ok = true)) := by
  have hrunnable := runnable_invariant.of_reachable h t task htask
  constructor
  · intro hstate
    obtain ⟨⟨v⟩, hmarker⟩ := hrunnable hstate
    have hinv : ContractInv w.db := (contractInv_invariant ContractFirst).of_reachable h
    obtain ⟨contract, hcontract, hactive⟩ := hinv.active hmarker
    exact ⟨v, contract, hmarker, hcontract, hactive⟩
  · intro hstate hnone env auth p hnamed howner hwell hfresh
    refine ⟨rfl, submitContract_yields hnamed htask howner ?_ hwell hfresh⟩
    have hnot : task.state.isDispatchable ≠ true := by
      intro hdispatchable
      obtain ⟨marker, hmarker⟩ := hrunnable hdispatchable
      rw [hnone] at hmarker
      cases hmarker
    cases hs : task.state <;> rw [hs] at hstate hnot
    case new => exact .inl rfl
    case waitingHuman => exact .inr rfl
    case planning | executing | verifying => exact absurd rfl hnot
    all_goals cases hstate

/-! ## Samples -/

/-- The only contract of a task was submitted. -/
def sampleSubmitted : List Label :=
  let human := AuthContext.ofHuman "owner"
  [ .ask human .createTask { title := some "task" },
    .ask human .submitContract { taskId := some "task_i" } ]

/-- What a sample has of its task: the state, the ACTIVE contract, and the decisions that wait. -/
def sampleTask (w : World) :
    Option (TaskState × String) × Option ActiveContractMarker × Nat :=
  ((w.db.tasks.find? "task_i").map fun task ↦ (task.state, task.principalId),
    w.db.activeContractMarkers.find? "task_i",
    (w.db.decisions.select fun _ d ↦ d.status == .pending).length)

/-- The only contract of a task is rejected. The task is runnable without a contract, and it accepts
none. -/
theorem sampleSubmitted_rejected :
    ∃ w task, system.Reachable w ∧ w.db.tasks.find? "task_i" = some task ∧
      task.state = .executing ∧ task.principalId = "owner" ∧
      w.db.activeContractMarkers.find? "task_i" = none ∧
      (w.db.decisions.select fun _ d ↦ d.status == .pending) = [] ∧
      ∀ result s', submitContract .silent (.ofHuman "owner") { taskId := some "task_i" } w.db ≠
        .ok (result, s') := by
  have hview : (system.exec system.init (sampleSubmitted ++
      [.ask (.ofHuman "owner") .resolveDecision
        { decisionId := some "dec_iiii", choice := some "REJECT" }])).map (fun w ↦
        (sampleTask w, (submitContract .silent (.ofHuman "owner") { taskId := some "task_i" }
          w.db).toOption.isSome)) =
      some ((some (.executing, "owner"), none, 0), false) := by
    decide +kernel
  obtain ⟨w, hexec, htask⟩ := Option.map_eq_some_iff.mp hview
  simp only [sampleTask, Prod.mk.injEq, Option.map_eq_some_iff] at htask
  obtain ⟨⟨⟨task, hfound, hstate, howner⟩, hmarker, hpending⟩, hrefused⟩ := htask
  refine ⟨w, task, .of_exec hexec, hfound, hstate, howner, hmarker,
    List.eq_nil_of_length_eq_zero hpending, fun result s' hrun ↦ ?_⟩
  rw [hrun] at hrefused
  cases hrefused

/-- A step that takes no decision and resumes nothing sets nothing free. -/
def Label.maySetFree : Label → Bool
  | .command _ request =>
    (resolution request.payload request.operation).isSome || request.operation == .resumeTask
  | _ => false

theorem ContractFirst.of_label (h : l.maySetFree = false) : ContractFirst w l := by
  rintro t hfree
  cases hfree with
  | resolved asked =>
    rw [Label.maySetFree, asked] at h
    cases h
  | resumed asked =>
    rw [Label.maySetFree, asked] at h
    simp at h

/-- The approval of a contract sets nothing free. -/
theorem ContractFirst.of_approval {env : Env} {k : String} {d : DecisionRow}
    (hd : w.db.decisions.find? k = some d) (hkind : d.decisionKind = .contractApproval) :
    ContractFirst w (.command env
      { operation := .approveContract, auth, payload := { decisionId := some k } }) := by
  rintro t hfree
  cases hfree with
  | resumed asked => cases asked
  | resolved asked frees =>
    obtain rfl := Option.some.inj asked
    obtain rfl := Option.some.inj frees.resolves.named
    obtain rfl := Option.some.inj (hd.symm.trans frees.resolves.found)
    have happrove : upperText (orElse (some "APPROVE") "APPROVE") = "APPROVE" := by
      decide +kernel
    have hfrees := frees.frees happrove
    rw [hkind] at hfrees
    cases hfrees

/-- A new task accepts a contract, and when that is approved the task is runnable under it. -/
theorem runnable_has_contract_sampleSubmitted :
    (∃ w, system.exec system.init (sampleSubmitted.take 1) = some w ∧
      (submitContract .silent (.ofHuman "owner") { taskId := some "task_i" }).Yields w.db
        (·.ok = true)) ∧
    ∃ w task v contract, system.ReachableBy ContractFirst w ∧
      w.db.tasks.find? "task_i" = some task ∧ task.state = .executing ∧
      w.db.activeContractMarkers.find? "task_i" = some ⟨v⟩ ∧
      w.db.contracts.find? ("task_i", v) = some contract ∧ contract.status = .active := by
  have hview : (system.exec system.init (sampleSubmitted.take 1)).bind (fun w ↦
      (system.exec w (sampleSubmitted.drop 1)).bind fun w₁ ↦
        (system.exec w₁ [.ask (.ofHuman "owner") .approveContract
          { decisionId := some "dec_iiii" }]).map fun w₂ ↦
            ((w.db.explanations.rows.length, w.db.decisions.rows.length, w.db.gates.rows.length),
              sampleTask w, (w₁.db.decisions.find? "dec_iiii").map (·.decisionKind),
              sampleTask w₂)) =
      some ((0, 0, 0), (some (.new, "owner"), none, 0), some .contractApproval,
        (some (.executing, "owner"), some ⟨1⟩, 0)) := by
    decide +kernel
  obtain ⟨w, hcreate, hrest⟩ := Option.bind_eq_some_iff.mp hview
  obtain ⟨w₁, hsubmit, hrest₁⟩ := Option.bind_eq_some_iff.mp hrest
  obtain ⟨w₂, happrove, hfacts⟩ := Option.map_eq_some_iff.mp hrest₁
  simp only [sampleTask, Prod.mk.injEq, Option.map_eq_some_iff] at hfacts
  obtain ⟨⟨hexplanations, hdecisions, hgates⟩, ⟨⟨task, htask, hnew, howner⟩, hnone, -⟩,
    ⟨d, hd, hkind⟩, ⟨task₂, htask₂, hexecuting, -⟩, -⟩ := hfacts
  have hquiet : ∀ l ∈ sampleSubmitted.take 1 ++ sampleSubmitted.drop 1,
      l.maySetFree = false := by
    decide
  have hcreated : system.Run ContractFirst system.init w :=
    .of_exec_ok (fun l hl _ ↦ .of_label (hquiet l (List.mem_append_left _ hl))) hcreate
  have hsubmitted : system.Run ContractFirst w w₁ :=
    .of_exec_ok (fun l hl _ ↦ .of_label (hquiet l (List.mem_append_right _ hl))) hsubmit
  have happroved : system.Run ContractFirst w₁ w₂ := by
    obtain ⟨w₂', hstep, hdone⟩ := Option.bind_eq_some_iff.mp happrove
    obtain rfl := Option.some.inj hdone
    exact Machine.Run.refl.step (.of_approval hd hkind) hstep
  have hempty {ρ : Type} {table : Table String ρ} (h : table.rows.length = 0) (k : String) :
      table.find? k = none := by
    rw [Table.find?, List.eq_nil_of_length_eq_zero h]
    rfl
  constructor
  · have haccepts := (runnable_has_contract hcreated htask).2 (by rw [hnew]; rfl) hnone .silent
      (.ofHuman "owner") { taskId := some "task_i" } rfl howner (requestedContract_wellFormed _ _)
      ⟨fun _ _ ↦ hempty hexplanations _, fun _ _ ↦ hempty hdecisions _,
        fun _ _ ↦ hempty hgates _⟩
    exact ⟨w, hcreate, haccepts.2⟩
  · have hreach := (hcreated.trans hsubmitted).trans happroved
    obtain ⟨v, contract, hmarker, hcontract, hactive⟩ :=
      (runnable_has_contract hreach htask₂).1 (by rw [hexecuting]; rfl)
    exact ⟨w₂, task₂, v, contract, hreach, htask₂, hexecuting, hmarker, hcontract, hactive⟩

end HibikiCore
