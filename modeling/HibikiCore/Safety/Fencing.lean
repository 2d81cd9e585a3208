import HibikiCore.Safety.Versions
import HibikiCore.Safety.Plans
import HibikiCore.Safety.Workspaces
import HibikiCore.Safety.Evidence

/-!
# The guards of a dispatch

A dispatch creates runs one after the other, and each creation changes what the next one looks at.
`Iteration` is one turn of this loop, and `Guarded` is what has to hold when a turn creates a run.

A workspace counts its writers: each run it is given to gets a fencing epoch above all the earlier
ones. It may be marked writer-alive after it was given back, and this mark alone does not keep it
from the next run.
-/

namespace HibikiCore

set_option synthInstance.maxSize 100000000
set_option synthInstance.maxHeartbeats 400000

variable {env : Env} {auth : AuthContext} {p : Payload} {task : TaskRow} {s s' t t' : DB}
  {w w' : World} {l : Label} {taskId runId wsId : String} {node : RawNode} {run : AgentRunRow}
  {result : CommandResult} {created created' : List String} {edges : List RawEdge}
  {profileVersion globalActive taskActive : Nat}

/-! ## Fencing epochs -/

/-- The epoch of a workspace has reached those of its runs. -/
def FencingInv (s : DB) : Prop :=
  ∀ runId run wsId, s.agentRuns.find? runId = some run → run.workspaceId = some wsId →
    ∃ ws, s.workspaces.find? wsId = some ws ∧ run.fencingEpoch ≤ ws.fencingEpoch

/-- The epochs of workspaces do not fall. -/
abbrev EpochsRise : DB → DB → Prop :=
  Moves Refs.workspaces fun a b ↦ a.fencingEpoch ≤ b.fencingEpoch

instance : Preord fun a b : WorkspaceRow ↦ a.fencingEpoch ≤ b.fencingEpoch where
  refl _ := le_rfl
  trans := le_trans

/-- Runs that stem from others do not get ahead of their workspaces. -/
theorem FencingInv.of_rise {P : String → RunAssignment → Prop} (h : FencingInv s)
    (hnew : Arrivals Refs.agentRuns P s s') (hrise : EpochsRise s s')
    (hP : ∀ runId run wsId, s'.agentRuns.find? runId = some run → P runId (Columns.fixed run) →
      run.workspaceId = some wsId →
        ∃ ws, s'.workspaces.find? wsId = some ws ∧ run.fencingEpoch ≤ ws.fencingEpoch) :
    FencingInv s' := by
  intro runId run wsId hrun hws
  rcases hnew runId run hrun with ⟨run₀, hrun₀, hfixed⟩ | hnew
  · have hws₀ : run.workspaceId = run₀.workspaceId := congrArg RunAssignment.workspaceId hfixed
    have hepoch : run.fencingEpoch = run₀.fencingEpoch := congrArg RunAssignment.fencingEpoch hfixed
    obtain ⟨ws₀, hfind₀, hle₀⟩ := h runId run₀ wsId hrun₀ (hws₀ ▸ hws)
    obtain ⟨ws, hfind, hle⟩ := hrise wsId ws₀ hfind₀
    exact ⟨ws, hfind, hepoch ▸ hle₀.trans hle⟩
  · exact hP runId run wsId hrun hnew hws

/-- The workspaces are kept, and so are the epochs of the runs. -/
theorem FencingInv.of_kept {P : String → RunAssignment → Prop} (h : FencingInv s)
    (hnew : Arrivals Refs.agentRuns P s s') (hrise : EpochsRise s s')
    (hP : ∀ runId a, P runId a → a.workspaceId = none) : FencingInv s' := by
  refine h.of_rise hnew hrise fun runId run wsId _ hPrun hws ↦ ?_
  have hnone : run.workspaceId = none := hP runId _ hPrun
  rw [hws] at hnone
  cases hnone

namespace EpochsRise

instance {state : WorkspaceRow → WorkspaceState} {owner : WorkspaceRow → Option String}
    {alive : WorkspaceRow → Bool} : Leaves WorkspaceRow.fencingEpoch fun ws ↦
      ⟨ws.taskId, ws.workUnitId, state ws, owner ws, ws.fencingEpoch, alive ws⟩ :=
  ⟨fun _ ↦ rfl⟩

instance update {f : WorkspaceRow → WorkspaceRow} {hf : ∀ a, SameFixed a (f a)}
    [hl : Leaves WorkspaceRow.fencingEpoch f] :
    Respects EpochsRise (Refs.workspaces.update wsId f hf : Core Unit) :=
  Moves.update fun a ↦ (hl.same a).ge

instance updateWhere {q : String → WorkspaceRow → Bool} {f : WorkspaceRow → WorkspaceRow}
    {hf : ∀ a, SameFixed a (f a)} [hl : Leaves WorkspaceRow.fencingEpoch f] :
    Respects EpochsRise (Refs.workspaces.updateWhere q f hf : Core Unit) :=
  Moves.updateWhere fun _ a _ ↦ (hl.same a).ge

instance clearRunOccupancy_respects {release : Bool} :
    Respects EpochsRise (clearRunOccupancy runId release) := by
  rw [clearRunOccupancy]
  infer_instance

instance releaseWorkspaceAfterConfirmedExit_respects :
    Respects EpochsRise (releaseWorkspaceAfterConfirmedExit runId) := by
  rw [releaseWorkspaceAfterConfirmedExit]
  infer_instance

instance keepStartOccupancy_respects : Respects EpochsRise (keepStartOccupancy runId) := by
  rw [keepStartOccupancy]
  infer_instance

instance setWriterAlive_respects : Respects EpochsRise (setWriterAlive env auth p) := by
  rw [setWriterAlive]
  infer_instance

instance registerSandboxIdentity_respects :
    Respects EpochsRise (registerSandboxIdentity env auth p) := by
  rw [registerSandboxIdentity]
  infer_instance

instance settleStoppedWorkspace_respects {stopped : Bool} :
    Respects EpochsRise (settleStoppedWorkspace runId run stopped) := by
  rw [settleStoppedWorkspace]
  infer_instance

instance quarantineUnconfirmed_respects {notes : List String} :
    Respects EpochsRise (quarantineUnconfirmed run notes) := by
  rw [quarantineUnconfirmed]
  exact .seq inferInstance fun _ ↦ by split <;> infer_instance

instance quarantineExpiredLease_respects {notes : List String} :
    Respects EpochsRise (quarantineExpiredLease env run notes) := by
  rw [quarantineExpiredLease]
  exact .seq inferInstance fun _ ↦ by split <;> infer_instance

instance background : Background EpochsRise := inferInstance

theorem handler_respects {operation : Operation} (h : operation ≠ .dispatchReadyRuns) :
    Respects EpochsRise (handler env auth p operation) := by
  cases operation
  case dispatchReadyRuns => exact (h rfl).elim
  all_goals
    dsimp only [handler]
    infer_instance

end EpochsRise

/-- What is new among the runs has no workspace. -/
abbrev NewRunsApart : DB → DB → Prop :=
  Arrivals Refs.agentRuns fun _ a ↦ a.workspaceId = none

namespace NewRunsApart

instance createPlanRun_respects {sessionId : String} {session : PlannerSessionRow} :
    Respects NewRunsApart (createPlanRun env auth p taskId task sessionId session) := by
  have hadd (runId manifestId : String) : Respects NewRunsApart (add Refs.agentRuns runId
      (planRun env taskId task sessionId runId manifestId p.resumedFromRunId)) :=
    Arrivals.insert rfl
  rw [createPlanRun]
  infer_instance

instance background : Background NewRunsApart := inferInstance

theorem handler_respects {operation : Operation} (h : operation ≠ .dispatchReadyRuns) :
    Respects NewRunsApart (handler env auth p operation) := by
  cases operation
  case dispatchReadyRuns => exact (h rfl).elim
  all_goals
    dsimp only [handler]
    infer_instance

end NewRunsApart

/-! ## A turn of the loop -/

theorem nodeWorkspace_find {workspace : String × WorkspaceRow}
    (h : nodeWorkspace s node = some workspace) :
    s.workspaces.find? workspace.1 = some workspace.2 := by
  rw [nodeWorkspace] at h
  cases hnamed : s.workspaces.find? node.workspace with
  | some ws =>
    rw [hnamed] at h
    obtain rfl := Option.some.inj h
    exact hnamed
  | none =>
    rw [hnamed] at h
    exact (Table.mem_select.mp (List.mem_of_head? h)).1

section Round

variable {wu : WorkUnitExecutionRow} {manifestId : String}

theorem NodeDispatched.agentRuns (h : NodeDispatched env auth taskId profileVersion edges
    globalActive taskActive created created' node s t s' task wu runId manifestId) :
    s.agentRuns.find? runId = none ∧ s'.agentRuns = s.agentRuns.insert runId
      (createdRun env taskId task (nodeRun env t taskId task node (nodeWorkspace s node)
        profileVersion runId manifestId) (wu.attemptCount + 1)) := by
  have hsame : s.agentRuns = t.agentRuns := (h.before .agentRuns).2 (by decide)
  obtain ⟨hfresh, hruns, -⟩ := createExecuteRun_ok h.run
  rw [hsame]
  exact ⟨hfresh, hruns⟩

/-- The workspace of the new run reaches its epoch, and no workspace loses any. -/
theorem NodeDispatched.workspaces (h : NodeDispatched env auth taskId profileVersion edges
    globalActive taskActive created created' node s t s' task wu runId manifestId) :
    EpochsRise s s' ∧ ∀ wsId ws, nodeWorkspace s node = some (wsId, ws) →
      ∃ ws', s'.workspaces.find? wsId = some ws' ∧ ws'.fencingEpoch = ws.fencingEpoch + 1 := by
  have hsame : s.workspaces = t.workspaces := (h.before .workspaces).2 (by decide)
  have hlock := createExecuteRun_workspaces h.run
  cases hws : nodeWorkspace s node with
  | none =>
    simp only [nodeRun, hws, Option.map_none] at hlock
    exact ⟨.of_read (hsame.trans hlock.symm), fun _ _ hnone ↦ nomatch hnone⟩
  | some workspace =>
    obtain ⟨wsId, ws⟩ := workspace
    have hfind : s.workspaces.find? wsId = some ws := nodeWorkspace_find hws
    simp only [nodeRun, hws, Option.map_some, Option.getD_some, ← hsame] at hlock
    refine ⟨fun k a ha ↦ ?_, fun wsId' ws' hsome ↦ ?_⟩
    · change ∃ b, s'.workspaces.find? k = some b ∧ a.fencingEpoch ≤ b.fencingEpoch
      rw [hlock, Table.find?_modify]
      by_cases hk : k = wsId
      · subst hk
        obtain rfl := Option.some.inj (hfind.symm.trans ha)
        exact ⟨_, by rw [if_pos rfl, hfind]; rfl, Nat.le_succ _⟩
      · exact ⟨a, by rw [if_neg hk]; exact ha, le_rfl⟩
    · obtain ⟨rfl, rfl⟩ := Prod.mk.inj (Option.some.inj hsome)
      exact ⟨_, by rw [hlock, Table.find?_modify_self, hfind]; rfl, rfl⟩

theorem NodeDispatched.fenced (h : NodeDispatched env auth taskId profileVersion edges
    globalActive taskActive created created' node s t s' task wu runId manifestId)
    (hf : FencingInv s) : FencingInv s' := by
  obtain ⟨hrise, hlock⟩ := h.workspaces
  obtain ⟨hfresh, hruns⟩ := h.agentRuns
  have hnew : Arrivals Refs.agentRuns (fun k _ ↦ k = runId) s s' := by
    intro k run hrun
    have hfind : s'.agentRuns.find? k = some run := hrun
    rw [hruns, Table.find?_insert hfresh] at hfind
    split at hfind
    · next hk => exact .inr hk
    · exact .inl ⟨run, hfind, .refl run⟩
  refine hf.of_rise hnew hrise ?_
  rintro k run wsId hrun rfl hws
  rw [hruns, Table.find?_insert hfresh, if_pos rfl] at hrun
  obtain rfl := Option.some.inj hrun
  cases hnode : nodeWorkspace s node with
  | none =>
    simp only [createdRun, nodeRun, hnode] at hws
    cases hws
  | some workspace =>
    simp only [createdRun, nodeRun, hnode] at hws
    obtain rfl := Option.some.inj hws
    obtain ⟨ws', hfind, hepoch⟩ := hlock _ _ hnode
    exact ⟨ws', hfind, hepoch.ge⟩

end Round

theorem dispatchNode_fenced (hf : FencingInv s)
    (h : dispatchNode env auth taskId profileVersion edges globalActive taskActive created node s =
      .ok (created', s')) : FencingInv s' := by
  rcases dispatchNode_cases h with ⟨-, hnone⟩ | ⟨t, task, wu, runId, manifestId, hrun⟩
  · exact hf.of_kept (P := fun _ _ ↦ False) (.of_read ((hnone .agentRuns).2 (by decide)))
      (.of_read ((hnone .workspaces).2 (by decide))) fun _ _ hfalse ↦ hfalse.elim
  · exact hrun.fenced hf

/-! ## The loop -/

/-- A dispatch goes over the nodes of the ACTIVE plan. -/
theorem dispatchPlanNodes_ok (h : dispatchPlanNodes env auth p taskId s = .ok (result, s')) :
    s' = s ∨ ∃ version plan created, s.activePlanMarkers.find? taskId = some ⟨version⟩ ∧
      s.plans.find? (taskId, version) = some plan ∧
      Tx.fold (dispatchNode env auth taskId (versionOrFirst p.profileVersion) plan.edges
        (countActiveRuns s) (countTaskActiveRuns s taskId)) [] plan.nodes s =
          .ok (created, s') := by
  rw [dispatchPlanNodes, Tx.get_bind_ok] at h
  cases hmarker : s.activePlanMarkers.find? taskId with
  | none =>
    rw [hmarker] at h
    exact .inl (Tx.pure_ok.mp h).2
  | some marker =>
    rw [hmarker] at h
    obtain ⟨plan, t, hplan, h₁⟩ := Tx.bind_ok.mp h
    obtain ⟨hfind, rfl⟩ := Tx.require_ok.mp hplan
    obtain ⟨created, t₁, hloop, hpure⟩ := Tx.bind_ok.mp h₁
    obtain ⟨-, rfl⟩ := Tx.pure_ok.mp hpure
    exact .inr ⟨marker.planVersion, plan, created, rfl, hfind, hloop⟩

theorem dispatchReadyRuns_fenced (hf : FencingInv s)
    (h : dispatchReadyRuns env auth p s = .ok (result, s')) : FencingInv s' := by
  rcases dispatchReadyRuns_ok h with rfl | ⟨taskId, -, -, -, -, hbudget | hnodes⟩
  · exact hf
  · exact hf.of_kept (P := fun _ _ ↦ False) (Respects.rel hbudget) (Respects.rel hbudget)
      fun _ _ hfalse ↦ hfalse.elim
  · rcases dispatchPlanNodes_ok hnodes with rfl | ⟨version, plan, created, -, -, hloop⟩
    · exact hf
    · exact Tx.fold_induct (fun _ _ _ _ _ _ hu hnode ↦ dispatchNode_fenced hu hnode) hf hloop

theorem fencingInv_invariant (ok : World → Label → Prop) :
    system.Invariant ok fun w ↦ FencingInv w.db where
  init := (fun _ _ _ h ↦ nomatch h)
  step w l w' hinv hok hstep := by
    clear hok
    have happart {u u' : DB} (hu : FencingInv u) (hnew : NewRunsApart u u')
        (hrise : EpochsRise u u') : FencingInv u' := hu.of_kept hnew hrise fun _ _ hnone ↦ hnone
    have hrecorded {u u' : DB} (hw : Writes requestRecords u u') (hu : FencingInv u) :
        FencingInv u' :=
      happart hu (.of_read ((hw .agentRuns).2 (by decide)))
        (.of_read ((hw .workspaces).2 (by decide)))
    cases l
    case command env r =>
      rcases step_command hstep with hrecords | ⟨t, t', result, hran, hrecords⟩
      · exact hrecorded hrecords hinv
      · obtain ⟨n, rfl⟩ := hran.start
        refine hrecorded hrecords ?_
        have hstart : FencingInv { w.db with drawn := n } := hinv
        by_cases hdispatch : r.operation = .dispatchReadyRuns
        · have hrun := hran.run
          rw [hdispatch] at hrun
          exact dispatchReadyRuns_fenced hstart hrun
        · exact happart hstart ((NewRunsApart.handler_respects hdispatch).rel hran.run)
            ((EpochsRise.handler_respects hdispatch).rel hran.run)
    all_goals
      exact happart hinv (step_background Preord.refl rfl hstep)
        (step_background Preord.refl rfl hstep)

/-! ## What is guarded -/

/-- A workspace that a run may be given. -/
structure WorkspaceFree (s : DB) (ws : WorkspaceRow) : Prop where
  state : ws.state ≠ .quarantined
  owner : ∀ runId run, truthy ws.ownerRunId = some runId → s.agentRuns.find? runId = some run →
    run.status.isActive = false
  writer : ws.writerAlive = false

/-- An edge into a unit that does not keep it from its run. -/
def EdgeMet (s : DB) (e : RawEdge) : Prop :=
  ∃ source, s.workUnitExecutions.find? e.fromWorkUnitId = some source ∧ source.status = .done ∧
    (e.predicate = some .verdictPass → source.selectedVerdict = some .pass ∧
      ∀ hash, truthy e.artifactHash = some hash → source.verifiedArtifactHash = some hash)

/-- What a dispatch has to find for a run of a task, just before it creates the run. -/
structure Guarded (env : Env) (taskId : String) (s : DB) (run : AgentRunRow) : Prop where
  task : ∃ task, s.tasks.find? taskId = some task ∧ task.state.isDispatchable = true ∧
    task.pauseIntent = false ∧ task.cancelIntent = false
  gates : ∀ k gate, s.gates.find? k = some gate → gate.taskId = taskId → gate.isUnresolved = false
  contract : ∃ version contract, s.activeContractMarkers.find? taskId = some ⟨version⟩ ∧
    s.contracts.find? (taskId, version) = some contract ∧ contract.status = .active
  unit : ∃ version plan node wu, s.activePlanMarkers.find? taskId = some ⟨version⟩ ∧
    s.plans.find? (taskId, version) = some plan ∧ plan.status = .active ∧ node ∈ plan.nodes ∧
    run.workUnitId = some node.workUnitId ∧ run.workUnitSpecVersion = some node.version ∧
    run.workspaceId = (nodeWorkspace s node).map Prod.fst ∧
    s.workUnitExecutions.find? node.workUnitId = some wu ∧ wu.status = .pending ∧
    (∀ time, wu.nextRetryAt = some time → time ≤ env.now) ∧
    ∀ e ∈ plan.edges, e.toWorkUnitId = node.workUnitId → EdgeMet s e
  workspace : ∀ wsId, run.workspaceId = some wsId →
    ∃ ws, s.workspaces.find? wsId = some ws ∧ WorkspaceFree s ws
  fencing : ∀ wsId, run.workspaceId = some wsId → ∀ k earlier,
    s.agentRuns.find? k = some earlier → earlier.workspaceId = some wsId →
      earlier.fencingEpoch < run.fencingEpoch

/-- The workspace of a node is marked writer-alive, and it has no owner. -/
def LeftAlive (s : DB) (node : RawNode) : Prop :=
  ∃ wsId ws, nodeWorkspace s node = some (wsId, ws) ∧ ws.writerAlive = true ∧
    truthy ws.ownerRunId = none

theorem EdgeMet.of_satisfied {e : RawEdge} (h : edgeSatisfied s e = true) : EdgeMet s e := by
  rw [edgeSatisfied] at h
  cases hsource : s.workUnitExecutions.find? e.fromWorkUnitId with
  | none =>
    rw [hsource] at h
    cases h
  | some source =>
    rw [hsource] at h
    dsimp only at h
    refine ⟨source, hsource, ?_⟩
    cases hpredicate : e.predicate.getD .done with
    | done =>
      rw [hpredicate] at h
      refine ⟨eq_of_beq h, fun hpass ↦ ?_⟩
      rw [hpass] at hpredicate
      cases hpredicate
    | verdictPass =>
      rw [hpredicate] at h
      simp only [Bool.and_eq_true, beq_iff_eq, Bool.or_eq_true, Option.isNone_iff_eq_none] at h
      obtain ⟨⟨hdone, hpass⟩, hhash⟩ := h
      refine ⟨hdone, fun _ ↦ ⟨hpass, fun hash hpinned ↦ ?_⟩⟩
      rcases hhash with hfree | hsame
      · rw [hfree] at hpinned
        cases hpinned
      · exact hsame.trans (truthy_eq_some.mp hpinned).1

/-- The loop finds a workspace free, but for the mark of a writer that has no run. -/
theorem WorkspaceFree.iff_of_not_busy {ws : WorkspaceRow} (h : workspaceBusy s ws = false) :
    WorkspaceFree s ws ↔ ¬(ws.writerAlive = true ∧ truthy ws.ownerRunId = none) := by
  simp only [workspaceBusy, Bool.or_eq_false_iff, beq_eq_false_iff_ne, Bool.and_eq_false_iff,
    Option.isSome_eq_false_iff, Option.isNone_iff_eq_none] at h
  obtain ⟨⟨hstate, hmark⟩, howner⟩ := h
  constructor
  · rintro hfree ⟨halive, -⟩
    rw [hfree.writer] at halive
    cases halive
  · intro hleft
    refine ⟨hstate, fun runId run hruns hfind ↦ ?_, ?_⟩
    · rw [hruns, Option.bind_some, hfind] at howner
      exact howner
    · rcases hmark with hmark | hnone
      · exact hmark
      · by_contra halive
        exact hleft ⟨by simpa using halive, hnone⟩

/-- The tables that the loop writes. -/
abbrev loopTables : List Relation :=
  [.workUnitExecutions, .activeExecuteRunMarkers, .contextManifests, .agentRuns, .runInputs,
    .workspaces, .outbox, .events]

/-- What the loop does not write is in each of its turns as it was. -/
theorem loop_writes {nodes : List RawNode}
    (h : Tx.fold (dispatchNode env auth taskId profileVersion edges globalActive taskActive)
      created nodes s = .ok (created', s')) : Writes loopTables s s' :=
  Respects.rel h

/-- What the run of a turn finds is guarded, but for the mark of a writer that has no run. -/
theorem NodeDispatched.guarded_iff {wu : WorkUnitExecutionRow} {manifestId : String} {u : DB}
    {version : Nat} {plan : PlanRow} {contractVersion : Nat} {contract : ContractRow}
    (h : NodeDispatched env auth taskId profileVersion plan.edges globalActive taskActive created
      created' node s t s' task wu runId manifestId)
    (hf : FencingInv s) (hcontracts : ContractInv u) (hplans : PlanInv u)
    (hneeds : Dispatchable auth p u taskId task contractVersion contract)
    (hmarker : u.activePlanMarkers.find? taskId = some ⟨version⟩)
    (hplan : u.plans.find? (taskId, version) = some plan) (hnode : node ∈ plan.nodes)
    (hsame : Writes loopTables u s) (hrun : s'.agentRuns.find? runId = some run) :
    Guarded env taskId s run ↔ ¬LeftAlive s node := by
  have htasks : u.tasks = s.tasks := (hsame .tasks).2 (by decide)
  have hgates : u.gates = s.gates := (hsame .gates).2 (by decide)
  have hcontractRows : u.contracts = s.contracts := (hsame .contracts).2 (by decide)
  have hcontractMarkers : u.activeContractMarkers = s.activeContractMarkers :=
    (hsame .activeContractMarkers).2 (by decide)
  have hplanRows : u.plans = s.plans := (hsame .plans).2 (by decide)
  have hplanMarkers : u.activePlanMarkers = s.activePlanMarkers :=
    (hsame .activePlanMarkers).2 (by decide)
  obtain ⟨hfresh, hruns⟩ := h.agentRuns
  rw [hruns, Table.find?_insert hfresh, if_pos rfl] at hrun
  obtain rfl := Option.some.inj hrun
  obtain ⟨contract', hcontract', hcontractActive⟩ := hcontracts.active hneeds.marker
  obtain ⟨plan', hplan', hplanActive⟩ := hplans.active hmarker
  obtain rfl := Option.some.inj (hplan.symm.trans hplan')
  constructor
  · rintro hguarded ⟨wsId, ws, hws, halive, -⟩
    have hrunWs : (createdRun env taskId task (nodeRun env t taskId task node
        (nodeWorkspace s node) profileVersion runId manifestId) (wu.attemptCount + 1)).workspaceId =
          some wsId := congrArg (Option.map Prod.fst) hws
    obtain ⟨ws', hfind, hfree⟩ := hguarded.workspace wsId hrunWs
    obtain rfl := Option.some.inj ((nodeWorkspace_find hws).symm.trans hfind)
    rw [hfree.writer] at halive
    cases halive
  · intro hleft
    refine ⟨⟨task, h.foundTask, hneeds.state, hneeds.pause, hneeds.cancel⟩,
      fun k gate hgate howner ↦ ?_,
      ⟨contractVersion, contract', hcontractMarkers ▸ hneeds.marker, hcontractRows ▸ hcontract',
        hcontractActive⟩,
      ⟨version, plan, node, wu, hplanMarkers ▸ hmarker, hplanRows ▸ hplan, hplanActive, hnode, rfl,
        rfl, rfl, h.found, h.pending, fun time htime ↦ ?_, fun e he hinto ↦ ?_⟩,
      fun wsId hws ↦ ?_, fun wsId hws k earlier hearlier hofWs ↦ ?_⟩
    · by_contra hopen
      have hblocking : hasBlockingGate u taskId = true :=
        hasBlockingGate_iff.mpr ⟨k, gate, hgates ▸ hgate, howner, by simpa using hopen⟩
      rw [hneeds.gate] at hblocking
      cases hblocking
    · have hdue := h.due
      rw [htime] at hdue
      exact not_lt.mp (of_decide_eq_false hdue)
    · refine .of_satisfied (List.all_eq_true.mp h.satisfied e (List.mem_filter.mpr ⟨he, ?_⟩))
      exact beq_iff_eq.mpr hinto
    · obtain ⟨⟨wsId', ws⟩, hnodeWs, rfl⟩ := Option.map_eq_some_iff.mp hws
      refine ⟨ws, nodeWorkspace_find hnodeWs, ?_⟩
      have hfree := h.free
      rw [hnodeWs] at hfree
      exact (WorkspaceFree.iff_of_not_busy hfree).mpr fun hmark ↦
        hleft ⟨wsId', ws, hnodeWs, hmark.1, hmark.2⟩
    · obtain ⟨⟨wsId', ws⟩, hnodeWs, rfl⟩ := Option.map_eq_some_iff.mp hws
      obtain ⟨ws', hfind, hle⟩ := hf k earlier wsId' hearlier hofWs
      obtain rfl := Option.some.inj ((nodeWorkspace_find hnodeWs).symm.trans hfind)
      change earlier.fencingEpoch < ((nodeWorkspace s node).map _).getD 1
      rw [hnodeWs]
      exact Nat.lt_succ_of_le hle

/-! ## Commands -/

/-- A turn of the loop of a dispatch: the call that began in `s` has come to a node of the ACTIVE
plan in the state `t`, and goes on in `t'`. -/
structure LoopTurn (env : Env) (auth : AuthContext) (p : Payload) (taskId : String) (s : DB)
    (node : RawNode) (t t' : DB) : Prop where
  named : p.taskId = some taskId
  round : ∃ version plan created created', s.activePlanMarkers.find? taskId = some ⟨version⟩ ∧
    s.plans.find? (taskId, version) = some plan ∧
    Tx.Round (dispatchNode env auth taskId (versionOrFirst p.profileVersion) plan.edges
      (countActiveRuns s) (countTaskActiveRuns s taskId)) plan.nodes [] s node created created' t t'

/-- A run that a dispatch creates is created in a turn of its loop, and guarded if and only if its
workspace was not left alive. -/
theorem dispatchReadyRuns_guarded (hf : FencingInv s) (hcontracts : ContractInv s)
    (hplans : PlanInv s) (h : dispatchReadyRuns env auth p s = .ok (result, s'))
    (hnew : s.agentRuns.find? runId = none) (hrun : s'.agentRuns.find? runId = some run) :
    ∃ taskId node t t', LoopTurn env auth p taskId s node t t' ∧ t.agentRuns.find? runId = none ∧
      t'.agentRuns.find? runId = some run ∧
      (Guarded env taskId t run ↔ ¬LeftAlive t node) := by
  have hnone (hsame : s.agentRuns = s'.agentRuns) : False := by
    rw [← hsame, hnew] at hrun
    cases hrun
  rcases dispatchReadyRuns_ok h with rfl | ⟨taskId, task, contractVersion, contract, hneeds, hrest⟩
  · exact (hnone rfl).elim
  rcases hrest with hbudget | hnodes
  · have hwrites : Writes [.decisions, .gates, .tasks] s s' := Respects.rel hbudget
    exact (hnone ((hwrites .agentRuns).2 (by decide))).elim
  rcases dispatchPlanNodes_ok hnodes with rfl | ⟨version, plan, created, hmarker, hplan, hloop⟩
  · exact (hnone rfl).elim
  obtain ⟨node, c, c', t, t', hround, ⟨post, hpost, -⟩, ht, ht'⟩ :=
    Tx.fold_round (Q := fun u ↦ u.agentRuns.find? runId = some run) hloop
      (by rw [hnew]; exact nofun) hrun
  obtain ⟨pre, hpre⟩ : ∃ pre, Tx.fold (dispatchNode env auth taskId
      (versionOrFirst p.profileVersion) plan.edges (countActiveRuns s)
      (countTaskActiveRuns s taskId)) [] pre s = .ok (c, t) := by
    obtain ⟨pre, _, -, hpre⟩ := hround.before
    exact ⟨pre, hpre⟩
  have hft : FencingInv t :=
    Tx.fold_induct (fun _ _ _ _ _ _ hu hnode ↦ dispatchNode_fenced hu hnode) hf hpre
  have hsame : Writes loopTables s t := loop_writes hpre
  rcases dispatchNode_cases hround.round with ⟨-, hquiet⟩ | ⟨u, task', wu, runId', mId, hturn⟩
  · have hruns : t.agentRuns = t'.agentRuns := (hquiet .agentRuns).2 (by decide)
    exact absurd (hruns ▸ ht') ht
  have htask : s.tasks.find? taskId = some task' :=
    (congrArg (·.find? taskId) ((hsame .tasks).2 (by decide))).trans hturn.foundTask
  obtain rfl := Option.some.inj (hneeds.found.symm.trans htask)
  obtain ⟨hfresh, hruns⟩ := hturn.agentRuns
  obtain rfl : runId = runId' := by
    by_contra hne
    have hfind := ht'
    rw [hruns, Table.find?_insert hfresh, if_neg hne] at hfind
    exact ht hfind
  exact ⟨taskId, node, t, t', ⟨hneeds.named, version, plan, c, c', hmarker, hplan, hround⟩, hfresh,
    ht', hturn.guarded_iff hft hcontracts hplans hneeds hmarker hplan hround.mem hsame ht'⟩

/-- The request of the samples to dispatch. -/
def sampleDispatch : Request where
  operation := .dispatchReadyRuns
  auth := .ofHuman "owner"
  payload := { taskId := some "task_i" }

/-- In every state, whatever history led there: each run that a call of the dispatch creates, the
later ones of the call included, is guarded in the state in which its turn begins if and only if
its workspace is not marked writer-alive without an owner there. -/
theorem dispatch_guarded_iff {request : Request} (hw : system.Reachable w)
    (hstep : system.step w (.command env request) = some w')
    (hdispatch : request.operation = .dispatchReadyRuns)
    (hnew : w.db.agentRuns.find? runId = none) (hrun : w'.db.agentRuns.find? runId = some run) :
    ∃ n taskId node t t', LoopTurn env request.auth request.payload taskId
        { w.db with drawn := n } node t t' ∧
      t.agentRuns.find? runId = none ∧ t'.agentRuns.find? runId = some run ∧
      (Guarded env taskId t run ↔ ¬LeftAlive t node) := by
  have hf : FencingInv w.db := (fencingInv_invariant fun _ _ ↦ True).of_reachable hw
  have hcontracts : ContractInv w.db := (contractInv_invariant fun _ _ ↦ True).of_reachable hw
  have hplans : PlanInv w.db := (planInv_invariant fun _ _ ↦ True).of_reachable hw
  rcases step_command hstep with hrecords | ⟨u, u', result, hran, hrecords⟩
  · have hsame : w.db.agentRuns = w'.db.agentRuns := (hrecords .agentRuns).2 (by decide)
    rw [← hsame, hnew] at hrun
    cases hrun
  obtain ⟨n, rfl⟩ := hran.start
  have hhandler := hran.run
  rw [hdispatch] at hhandler
  have hsame : u'.agentRuns = w'.db.agentRuns := (hrecords .agentRuns).2 (by decide)
  rw [← hsame] at hrun
  have hcontracts' : ContractInv { w.db with drawn := n } :=
    hcontracts.of_kept ⟨rfl, rfl, .of_read rfl⟩
  have hplans' : PlanInv { w.db with drawn := n } :=
    ⟨hplans.marked, hplans.active, hplans.version, hplans.bounded⟩
  exact ⟨n, dispatchReadyRuns_guarded hf hcontracts' hplans' hhandler hnew hrun⟩

/-- The run of the sample is created in a turn of the loop. -/
theorem dispatch_guarded_iff_sampleDispatched :
    ∃ w w' run, system.Reachable w ∧ system.step w (.command .silent sampleDispatch) = some w' ∧
      w'.db.agentRuns.find? "run_iiiiiiiiii" = some run ∧
      ∃ n taskId node t t', LoopTurn .silent sampleDispatch.auth sampleDispatch.payload taskId
          { w.db with drawn := n } node t t' ∧
        t.agentRuns.find? "run_iiiiiiiiii" = none ∧
        t'.agentRuns.find? "run_iiiiiiiiii" = some run ∧
        (Guarded .silent taskId t run ↔ ¬LeftAlive t node) := by
  have hview : (system.exec system.init (sampleDispatched.take 4)).bind (fun w ↦
      (system.step w (.command .silent sampleDispatch)).map fun w' ↦
        ((w.db.agentRuns.find? "run_iiiiiiiiii").isNone,
          (w'.db.agentRuns.find? "run_iiiiiiiiii").isSome)) = some (true, true) := by
    decide +kernel
  obtain ⟨w, hexec, hstep⟩ := Option.bind_eq_some_iff.mp hview
  obtain ⟨w', hstep', hruns⟩ := Option.map_eq_some_iff.mp hstep
  obtain ⟨hnew, hfound⟩ := Prod.mk.inj hruns
  obtain ⟨run, hrun⟩ := Option.isSome_iff_exists.mp hfound
  exact ⟨w, w', run, .of_exec hexec, hstep', hrun, dispatch_guarded_iff (.of_exec hexec) hstep' rfl
    (Option.isNone_iff_eq_none.mp hnew) hrun⟩

/-- Two units of a plan share a workspace. The run of the first one has ended and given it back, but
then it reports a container whose exit is not confirmed. -/
def sampleLeftAlive : List Label :=
  let human := AuthContext.ofHuman "owner"
  sampleDispatched.take 3 ++
  [ .ask human .activatePlan
      { taskId := some "task_i"
        nodes := some [{ workUnitId := "unit", workspaceId := some "ws" },
          { workUnitId := "next", workspaceId := some "ws" }] },
    .ask human .dispatchReadyRuns { taskId := some "task_i" } ] ++
  sampleStart ++
  [ .ask (sampleAgent "run_iiiiiiiii") .submitResult
      { taskId := some "task_i", runId := some "run_iiiiiiiii", fencingEpoch := some 1 },
    .ask (sampleAgent "run_iiiiiiiii") .registerSandboxIdentity
      { taskId := some "task_i", runId := some "run_iiiiiiiii", fencingEpoch := some 1
        exitConfirmed := some true },
    .ask (sampleAgent "run_iiiiiiiii") .registerSandboxIdentity
      { taskId := some "task_i", runId := some "run_iiiiiiiii", fencingEpoch := some 1
        exitConfirmed := some false } ]

/-- The two turns of the loop in a state with a plan of two nodes. -/
def sampleTurns (s : DB) : Option (DB × DB) := do
  let marker ← s.activePlanMarkers.find? "task_i"
  let plan ← s.plans.find? ("task_i", marker.planVersion)
  let f := dispatchNode .silent sampleDispatch.auth "task_i" 1 plan.edges (countActiveRuns s)
    (countTaskActiveRuns s "task_i")
  match plan.nodes with
  | [a, b] =>
    let (created, t) ← (Tx.fold f [] [a] s).toOption
    let (_, t') ← (f created b t).toOption
    return (t, t')
  | _ => none

theorem ok_of_toOption {ε α : Type} {x : Except ε α} {a : α} (h : x.toOption = some a) :
    x = .ok a := by
  cases x with
  | error => cases h
  | ok b => exact congrArg _ (Option.some.inj h)

theorem sampleTurns_turn (h : sampleTurns s = some (t, t')) :
    ∃ node, LoopTurn .silent sampleDispatch.auth sampleDispatch.payload "task_i" s node t t' := by
  obtain ⟨marker, hmarker, h₁⟩ := Option.bind_eq_some_iff.mp h
  obtain ⟨plan, hplan, h₂⟩ := Option.bind_eq_some_iff.mp h₁
  dsimp only at h₂
  split at h₂
  · next a b hnodes =>
    obtain ⟨⟨created, t₁⟩, hfirst, h₃⟩ := Option.bind_eq_some_iff.mp h₂
    obtain ⟨⟨created', t₁'⟩, hsecond, hpure⟩ := Option.bind_eq_some_iff.mp h₃
    obtain ⟨rfl, rfl⟩ := Prod.mk.inj (Option.some.inj hpure)
    refine ⟨b, rfl, marker.planVersion, plan, created, created', hmarker, hplan, ?_, ?_⟩
    · exact ⟨[a], [], hnodes, ok_of_toOption hfirst⟩
    · exact ok_of_toOption hsecond
  · cases h₂

/-- The second unit gets the workspace although it is marked writer-alive. -/
theorem sampleLeftAlive_dispatched :
    ∃ w w' node t t' run, system.Reachable w ∧
      system.step w (.command .silent sampleDispatch) = some w' ∧
      LoopTurn .silent sampleDispatch.auth sampleDispatch.payload "task_i"
        { w.db with drawn := w.db.drawn + 1 } node t t' ∧
      t.agentRuns.find? "run_iiiiiiiiiiiiiiiii" = none ∧
      t'.agentRuns.find? "run_iiiiiiiiiiiiiiiii" = some run ∧
      w'.db.agentRuns.find? "run_iiiiiiiiiiiiiiiii" = some run ∧
      ¬Guarded .silent "task_i" t run := by
  have hview : (system.exec system.init sampleLeftAlive).bind (fun w ↦
      (system.step w (.command .silent sampleDispatch)).bind fun w' ↦
        (sampleTurns { w.db with drawn := w.db.drawn + 1 }).map fun turns ↦
          ((turns.1.agentRuns.find? "run_iiiiiiiiiiiiiiiii").isNone,
            decide (w'.db.agentRuns.find? "run_iiiiiiiiiiiiiiiii" =
              turns.2.agentRuns.find? "run_iiiiiiiiiiiiiiiii"),
            (turns.2.agentRuns.find? "run_iiiiiiiiiiiiiiiii").map (·.workspaceId),
            (turns.1.workspaces.find? "ws").map (·.writerAlive))) =
      some (true, true, some (some "ws"), some true) := by
    decide +kernel
  obtain ⟨w, hexec, hrest⟩ := Option.bind_eq_some_iff.mp hview
  obtain ⟨w', hstep, hturns⟩ := Option.bind_eq_some_iff.mp hrest
  obtain ⟨⟨t, t'⟩, hsample, hrows⟩ := Option.map_eq_some_iff.mp hturns
  simp only [Prod.mk.injEq, Option.isNone_iff_eq_none, decide_eq_true_eq] at hrows
  obtain ⟨hnew, hsame, hws, halive⟩ := hrows
  obtain ⟨run, hrun, hwsId⟩ := Option.map_eq_some_iff.mp hws
  obtain ⟨ws, hfind, hmark⟩ := Option.map_eq_some_iff.mp halive
  obtain ⟨node, hturn⟩ := sampleTurns_turn hsample
  refine ⟨w, w', node, t, t', run, .of_exec hexec, hstep, hturn, hnew, hrun, hsame.trans hrun, ?_⟩
  intro hguarded
  obtain ⟨ws', hfind', hfree⟩ := hguarded.workspace "ws" hwsId
  obtain rfl := Option.some.inj (hfind.symm.trans hfind')
  rw [hfree.writer] at hmark
  cases hmark

end HibikiCore
