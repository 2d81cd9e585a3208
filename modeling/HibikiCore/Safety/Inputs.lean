import HibikiCore.Application.Dispatching
import HibikiCore.System.Transactions

/-!
# What a run is given

A run gets a row when it is created, and this row is never changed: its workspace and the path of
it, and the tools it may use. The workspace is one of the database, and the tools are those that the
ceiling of the run's contract grants. Contracts, runs and workspaces persist, so this stays so.
-/

namespace HibikiCore

set_option synthInstance.maxSize 100000000
set_option synthInstance.maxHeartbeats 400000

variable {env : Env} {auth : AuthContext} {p : Payload} {task : TaskRow} {s s' t : DB}
  {taskId runId : String} {result : CommandResult} {run : AgentRunRow} {input : RunInputRow}
  {configured : Env → Prop} {w w' : World} {l : Label}

/-! ## Granted tools -/

/-- The tools that the ceiling of a contract names. -/
def ContractContent.ceilingTools (c : ContractContent) : List String :=
  match c.permissionCeiling with
  | some (.object tools) => tools
  | some (.bare tools) => tools
  | none => []

/-- A tool of the catalogue that the contract of a run grants it; reading is always granted. -/
def Grantable (s : DB) (run : AgentRunRow) (tool : String) : Prop :=
  tool ∈ toolCatalog ∧ (tool = "fs.read" ∨
    ∃ contract, s.contracts.find? (run.taskId, run.contractVersion) = some contract ∧
      tool ∈ contract.content.ceilingTools)

theorem mem_foldl_distinct {tools acc : List String} {tool : String}
    (h : tool ∈ tools.foldl (fun acc t ↦ if acc.contains t then acc else acc ++ [t]) acc) :
    tool ∈ acc ∨ tool ∈ tools := by
  induction tools generalizing acc with
  | nil => exact .inl h
  | cons a tools ih =>
    rcases ih h with hacc | hrest
    · dsimp only at hacc
      split at hacc
      · exact .inl hacc
      · rcases List.mem_append.mp hacc with hacc | hlast
        · exact .inl hacc
        · exact .inr (List.mem_cons.mpr (.inl (List.mem_singleton.mp hlast)))
    · exact .inr (List.mem_cons_of_mem a hrest)

/-- What is granted is in the catalogue, and it is asked for or it is reading. -/
theorem normalizeCeilingTools_granted {requested : List String} {tool : String}
    (h : tool ∈ (normalizeCeilingTools requested).1) :
    tool ∈ toolCatalog ∧ (tool = "fs.read" ∨ tool ∈ requested) := by
  have hasked (h : tool ∈ (requested.filter toolCatalog.contains).foldl
      (fun acc t ↦ if acc.contains t then acc else acc ++ [t]) []) :
      tool ∈ toolCatalog ∧ (tool = "fs.read" ∨ tool ∈ requested) := by
    have hmem := (mem_foldl_distinct h).resolve_left List.not_mem_nil
    obtain ⟨hrequested, hcatalog⟩ := List.mem_filter.mp hmem
    exact ⟨List.contains_iff_mem.mp hcatalog, .inr hrequested⟩
  rw [normalizeCeilingTools] at h
  dsimp only at h
  split at h
  · exact hasked h
  · rcases List.mem_cons.mp h with rfl | h
    · exact ⟨by decide, .inl rfl⟩
    · exact hasked h

theorem Grantable.of_persists {tool : String} {run' : AgentRunRow} (h : Grantable s run tool)
    (hp : Persists s s') (hsame : SameFixed run run') : Grantable s' run' tool := by
  obtain ⟨hcatalog, hgranted⟩ := h
  have htask : run'.taskId = run.taskId := congrArg RunAssignment.taskId hsame
  have hversion : run'.contractVersion = run.contractVersion :=
    congrArg RunAssignment.contractVersion hsame
  refine ⟨hcatalog, hgranted.imp id ?_⟩
  rintro ⟨contract, hcontract, htool⟩
  obtain ⟨contract', hcontract', hcontent⟩ := (hp .contracts).1 _ contract hcontract
  have hsameContent : contract'.content = contract.content :=
    congrArg (fun c ↦ c.2.2.1) hcontent
  rw [htask, hversion]
  exact ⟨contract', hcontract', hsameContent ▸ htool⟩

/-! ## Inputs of runs -/

/-- What a run was given: tools within its contract, and a workspace of the database under a path
that a configured environment gives it. -/
structure Given (configured : Env → Prop) (s : DB) (runId : String) (input : RunInputRow)
    (run : AgentRunRow) : Prop where
  found : s.agentRuns.find? runId = some run
  tools : ∀ tool ∈ input.spec.grantedTools, Grantable s run tool
  workspace : ∀ wsId, input.workspaceId = some wsId → ∃ ws, s.workspaces.find? wsId = some ws
  path : ∃ env, configured env ∧ input.workspacePath = workspacePath env input.workspaceId

theorem Given.of_persists (h : Given configured s runId input run) (hp : Persists s s') :
    ∃ run', Given configured s' runId input run' := by
  obtain ⟨run', hrun', hsame⟩ := (hp .agentRuns).1 runId run h.found
  refine ⟨run', hrun', fun tool htool ↦ (h.tools tool htool).of_persists hp hsame,
    fun wsId hwsId ↦ ?_, h.path⟩
  obtain ⟨ws, hws⟩ := h.workspace wsId hwsId
  obtain ⟨ws', hws', -⟩ := (hp .workspaces).1 wsId ws hws
  exact ⟨ws', hws'⟩

/-- The tables beside the inputs of runs. -/
abbrev besideInputs : List Relation :=
  [.tasks, .contracts, .activeContractMarkers, .explanations, .decisions, .gates, .plans,
    .activePlanMarkers, .workUnitSpecs, .workUnitExecutions, .plannerSessions, .agentRuns,
    .activeExecuteRunMarkers, .activePlanRunMarkers, .workspaces, .contextManifests, .sideEffects,
    .events, .inbox, .outbox, .idempotencyKeys, .resultSnapshots, .artifacts, .acceptanceEvidence,
    .agentProfiles, .toolInvocations, .contextAppends, .taskMessages]

/-- The rows that are new say what a run was given. -/
structure NewInputs (configured : Env → Prop) (s s' : DB) : Prop where
  persists : Persists s s'
  given : ∀ runId input, s'.runInputs.find? runId = some input →
    s.runInputs.find? runId = some input ∨ ∃ run, Given configured s' runId input run

namespace NewInputs

theorem of_same (hp : Persists s s') (h : s.runInputs = s'.runInputs) :
    NewInputs configured s s' :=
  ⟨hp, fun _ _ hinput ↦ .inl (h ▸ hinput)⟩

instance : Preord (NewInputs configured) where
  refl _ := of_same (Preord.refl _) rfl
  trans h h' := by
    refine ⟨Preord.trans h.persists h'.persists, fun runId input hinput ↦ ?_⟩
    rcases h'.given runId input hinput with hmid | hnew
    · rcases h.given runId input hmid with hold | ⟨run, hgiven⟩
      · exact .inl hold
      · exact .inr (hgiven.of_persists h'.persists)
    · exact .inr hnew

theorem of_writes (h : Writes besideInputs s s') : NewInputs configured s s' :=
  of_same (persists_of_writes h) ((h .runInputs).2 (by decide))

instance : Frame (NewInputs configured) where
  still h := of_writes (h.mono fun _ hn ↦ (List.not_mem_nil hn).elim)

instance {n : Relation} [h : Touches n besideInputs] : Indifferent (NewInputs configured) n where
  writes hw := of_writes (hw.mono fun _ hm ↦ List.mem_singleton.mp hm ▸ h.mem)

/-- One row is new, and says what its run was given. -/
theorem of_insert {row : RunInputRow} (hp : Persists s s')
    (hnew : s.runInputs.find? runId = none) (hrows : s'.runInputs = s.runInputs.insert runId row)
    (hgiven : Given configured s' runId row run) : NewInputs configured s s' := by
  refine ⟨hp, fun k input hinput ↦ ?_⟩
  rw [hrows, Table.find?_insert hnew] at hinput
  split at hinput
  · next hk =>
    obtain rfl := Option.some.inj hinput
    exact .inr ⟨run, hk ▸ hgiven⟩
  · exact .inl hinput

end NewInputs

/-! ## Dispatch -/

/-- The tools of a new run are those that the contract of its task grants. -/
theorem buildRunExecutionSpec_grantable {r : RunIdentity} {attempt : Nat} {tool : String}
    (h : tool ∈ (buildRunExecutionSpec env s taskId task r).grantedTools) :
    Grantable s (createdRun env taskId task r attempt) tool := by
  have hgranted : tool ∈ (normalizeCeilingTools (contractAndLimits s taskId task).1).1 := h
  obtain ⟨hcatalog, hrequested⟩ := normalizeCeilingTools_granted hgranted
  refine ⟨hcatalog, hrequested.imp id fun hceiling ↦ ?_⟩
  rw [contractAndLimits, taskContract] at hceiling
  cases hversion : task.contractVersion with
  | none =>
    rw [hversion] at hceiling
    cases hceiling
  | some version =>
    have hkey : (createdRun env taskId task r attempt).contractVersion = version := by
      rw [createdRun, hversion]
      rfl
    rw [hversion, Option.bind_some] at hceiling
    cases hcontract : s.contracts.find? (taskId, version) with
    | none =>
      rw [hcontract] at hceiling
      cases hceiling
    | some contract =>
      rw [hcontract] at hceiling
      rw [hkey]
      exact ⟨contract, hcontract, hceiling⟩

theorem createExecuteRun_inputs {r : RunIdentity} {attempt : Nat} (henv : configured env)
    (hws : ∀ wsId, r.workspaceId = some wsId → ∃ ws, s.workspaces.find? wsId = some ws)
    (h : createExecuteRun env auth taskId task r attempt s = .ok ((), s')) :
    NewInputs configured s s' := by
  have hpersist : Persists s s' := Respects.rel h
  rw [createExecuteRun, Tx.get_bind_ok] at h
  obtain ⟨_, t₁, hmanifest, h₁⟩ := Tx.bind_ok.mp h
  obtain ⟨_, t₂, hrun, h₂⟩ := Tx.bind_ok.mp h₁
  obtain ⟨_, t₃, hinput, h₃⟩ := Tx.bind_ok.mp h₂
  have hrest : Writes besideInputs t₃ s' := Respects.rel h₃
  have hmanifests : NewInputs configured s t₁ := Respects.rel hmanifest
  have hruns : NewInputs configured t₁ t₂ := Respects.rel hrun
  have hinputs : Persists t₂ t₃ := Respects.rel hinput
  refine Preord.trans hmanifests (Preord.trans hruns (Preord.trans ?_ (.of_writes hrest)))
  obtain ⟨-, rfl⟩ := Ref.insert_ok.mp hmanifest
  obtain ⟨hfresh, rfl⟩ := Ref.insert_ok.mp hrun
  obtain ⟨hnew, rfl⟩ := Ref.insert_ok.mp hinput
  refine @NewInputs.of_insert _ _ _ (createdRun env taskId task r attempt) _ _ hinputs hnew rfl ?_
  exact
    { found := (Table.find?_insert hfresh _ _).trans (if_pos rfl)
      tools := fun _ htool ↦ buildRunExecutionSpec_grantable htool
      workspace := hws
      path := ⟨env, henv, rfl⟩ }

theorem createPlanRun_inputs {sessionId : String} {session : PlannerSessionRow}
    (henv : configured env)
    (h : createPlanRun env auth p taskId task sessionId session s = .ok (result, s')) :
    NewInputs configured s s' := by
  obtain ⟨runId, t₁, hdraw, h₁⟩ := Tx.bind_ok.mp h
  obtain ⟨manifestId, t₂, hdraw', h₂⟩ := Tx.bind_ok.mp h₁
  obtain ⟨_, t₃, hrun, h₃⟩ := Tx.bind_ok.mp h₂
  obtain ⟨contract, t₄, hactive, h₄⟩ := Tx.bind_ok.mp h₃
  rw [Tx.get_bind_ok] at h₄
  obtain ⟨_, t₅, hmanifest, h₅⟩ := Tx.bind_ok.mp h₄
  obtain ⟨_, t₆, hinput, h₆⟩ := Tx.bind_ok.mp h₅
  have hrest : Writes besideInputs t₆ s' := Respects.rel h₆
  have hdrawn : NewInputs configured s t₂ :=
    Preord.trans (Respects.rel hdraw : NewInputs configured s t₁) (Respects.rel hdraw')
  have hruns : NewInputs configured t₂ t₄ :=
    Preord.trans (Respects.rel hrun : NewInputs configured t₂ t₃) (Respects.rel hactive)
  have hmanifests : NewInputs configured t₄ t₅ := Respects.rel hmanifest
  have hinputs : Persists t₅ t₆ := Respects.rel hinput
  refine Preord.trans hdrawn (Preord.trans hruns (Preord.trans hmanifests
    (Preord.trans ?_ (.of_writes hrest))))
  obtain ⟨hfresh, rfl⟩ := Ref.insert_ok.mp hrun
  obtain ⟨rfl, -⟩ := activeContract_ok.mp hactive
  obtain ⟨-, rfl⟩ := Ref.insert_ok.mp hmanifest
  obtain ⟨hnew, rfl⟩ := Ref.insert_ok.mp hinput
  refine @NewInputs.of_insert _ _ _
    (planRun env taskId task sessionId runId manifestId p.resumedFromRunId) _ _ hinputs hnew rfl ?_
  exact
    { found := (Table.find?_insert hfresh _ _).trans (if_pos rfl)
      tools := fun _ htool ↦ nomatch htool
      workspace := fun _ hwsId ↦ nomatch hwsId
      path := ⟨env, henv, by
        rw [workspacePath]
        cases truthy env.workspaceRoot <;> rfl⟩ }

/-- The workspace of a node is one of the database. -/
theorem nodeWorkspace_found {node : RawNode} {ws : String × WorkspaceRow}
    (h : nodeWorkspace s node = some ws) : s.workspaces.find? ws.1 = some ws.2 := by
  rw [nodeWorkspace] at h
  split at h
  · next row hrow =>
    obtain rfl := Option.some.inj h
    exact hrow
  · exact (Table.mem_select.mp (List.mem_of_head? h)).1

theorem dispatchUnit_inputs {profileVersion : Nat} {node : RawNode} {wu : WorkUnitExecutionRow}
    {workspace : Option (String × WorkspaceRow)} {created created' : List String}
    (henv : configured env)
    (hws : ∀ ws, workspace = some ws → ∃ row, s.workspaces.find? ws.1 = some row)
    (h : dispatchUnit env auth taskId profileVersion node wu workspace created s =
      .ok (created', s')) : NewInputs configured s s' := by
  rw [dispatchUnit] at h
  obtain ⟨task, t₁, hget, h₁⟩ := Tx.bind_ok.mp h
  obtain ⟨-, rfl⟩ := getTask_ok.mp hget
  obtain ⟨runId, t₂, hdraw, h₂⟩ := Tx.bind_ok.mp h₁
  obtain ⟨-, rfl⟩ := newId_ok.mp hdraw
  have hdrawn (n : Nat) (u : DB) : NewInputs configured u { u with drawn := n } :=
    .of_writes (writes_drawn u n)
  refine Preord.trans (hdrawn (t₁.drawn + 1) t₁) ?_
  rcases Tx.ite_ok.mp h₂ with ⟨-, hblocked⟩ | ⟨-, h₃⟩
  · exact .of_writes (Respects.rel hblocked)
  · obtain ⟨manifestId, t₄, hdraw', h₄⟩ := Tx.bind_ok.mp h₃
    obtain ⟨-, rfl⟩ := newId_ok.mp hdraw'
    refine Preord.trans (hdrawn (t₁.drawn + 2) _) ?_
    rw [Tx.get_bind_ok] at h₄
    rcases Tx.ite_ok.mp h₄ with ⟨-, hoverflow⟩ | ⟨-, h₅⟩
    · exact .of_writes (Respects.rel hoverflow)
    · obtain ⟨_, t₅, hcreate, hpure⟩ := Tx.bind_ok.mp h₅
      obtain ⟨-, rfl⟩ := Tx.pure_ok.mp hpure
      refine createExecuteRun_inputs henv (fun wsId hwsId ↦ ?_) hcreate
      obtain ⟨ws, hsome, rfl⟩ := Option.map_eq_some_iff.mp hwsId
      exact hws ws hsome

theorem dispatchNode_inputs {profileVersion : Nat} {edges : List RawEdge}
    {globalActive taskActive : Nat} {created created' : List String} {node : RawNode}
    (henv : configured env)
    (h : dispatchNode env auth taskId profileVersion edges globalActive taskActive created node s =
      .ok (created', s')) : NewInputs configured s s' := by
  rw [dispatchNode, Tx.get_bind_ok] at h
  cases hunit : s.workUnitExecutions.find? node.workUnitId with
  | none =>
    rw [hunit] at h
    obtain ⟨-, rfl⟩ := Tx.pure_ok.mp h
    exact Preord.refl _
  | some wu =>
    rw [hunit] at h
    rcases Tx.ite_ok.mp h with ⟨-, hpure⟩ | ⟨-, h₁⟩
    · obtain ⟨-, rfl⟩ := Tx.pure_ok.mp hpure
      exact Preord.refl _
    · obtain ⟨_, t, hbind, h₂⟩ := Tx.bind_ok.mp h₁
      have hbound : Writes [.workUnitExecutions] s t := Respects.rel hbind
      refine Preord.trans (.of_writes (hbound.mono (by decide))) ?_
      rcases Tx.ite_ok.mp h₂ with ⟨-, hpure⟩ | ⟨-, h₃⟩
      · obtain ⟨-, rfl⟩ := Tx.pure_ok.mp hpure
        exact Preord.refl _
      · obtain ⟨_, u, hmarker, hdispatch⟩ := Tx.bind_ok.mp h₃
        have hdropped : Writes [.activeExecuteRunMarkers] t u := Respects.rel hmarker
        refine Preord.trans (.of_writes (hdropped.mono (by decide))) ?_
        refine dispatchUnit_inputs henv (fun ws hws ↦ ⟨ws.2, ?_⟩) hdispatch
        rw [show u.workspaces = s.workspaces from
          (((hbound .workspaces).2 (by decide)).trans
            ((hdropped .workspaces).2 (by decide))).symm]
        exact nodeWorkspace_found hws

/-! ## Every run -/

/-- Every row says what its run was given. -/
def InputsGiven (configured : Env → Prop) (s : DB) : Prop :=
  ∀ runId input, s.runInputs.find? runId = some input → ∃ run, Given configured s runId input run

theorem InputsGiven.of_new (h : InputsGiven configured s) (hnew : NewInputs configured s s') :
    InputsGiven configured s' := by
  intro runId input hinput
  rcases hnew.given runId input hinput with hold | hgiven
  · obtain ⟨run, hrun⟩ := h runId input hold
    exact hrun.of_persists hnew.persists
  · exact hgiven

theorem handler_inputs {operation : Operation} (henv : configured env)
    (h : handler env auth p operation s = .ok (result, s')) : NewInputs configured s s' := by
  cases operation
  case dispatchReadyRuns =>
    change dispatchReadyRuns env auth p s = _ at h
    rcases dispatchReadyRuns_ok h with rfl | ⟨taskId, task, version, contract, -, hgate | hnodes⟩
    · exact Preord.refl _
    · exact .of_writes (Respects.rel hgate)
    · rw [dispatchPlanNodes, Tx.get_bind_ok] at hnodes
      cases hmarker : s.activePlanMarkers.find? taskId with
      | none =>
        rw [hmarker] at hnodes
        obtain ⟨-, rfl⟩ := Tx.pure_ok.mp hnodes
        exact Preord.refl _
      | some marker =>
        rw [hmarker] at hnodes
        obtain ⟨plan, t₁, hplan, h₁⟩ := Tx.bind_ok.mp hnodes
        obtain ⟨-, rfl⟩ := Tx.require_ok.mp hplan
        obtain ⟨created, t₂, hfold, hpure⟩ := Tx.bind_ok.mp h₁
        obtain ⟨-, rfl⟩ := Tx.pure_ok.mp hpure
        exact Tx.fold_induct (P := NewInputs configured t₁)
          (fun node _ b b' u u' hu hstep ↦ Preord.trans hu (dispatchNode_inputs henv hstep))
          (Preord.refl _) hfold
  case dispatchPlannerRun =>
    change dispatchPlannerRun env auth p s = _ at h
    rcases dispatchPlannerRun_ok h with
      rfl | ⟨taskId, task, version, contract, -, sessionId, t, hbump, hsession⟩
    · exact Preord.refl _
    · have hbumped : NewInputs configured s t := by
        rcases hbump with rfl | hbump
        · exact Preord.refl _
        · exact .of_writes (Respects.rel hbump)
      have hdelete : (Refs.activePlanRunMarkers.delete sessionId : Core Unit) t =
          .ok ((), t.dropPlanMarker sessionId) := rfl
      have hdrop : NewInputs configured t (t.dropPlanMarker sessionId) := Respects.rel hdelete
      refine Preord.trans hbumped ?_
      rcases dispatchSessionRun_ok hsession with rfl | ⟨-, rfl⟩ | ⟨task, session, -, hcreate⟩
      · exact Preord.refl _
      · exact hdrop
      · exact Preord.trans hdrop (createPlanRun_inputs henv hcreate)
  all_goals
    dsimp only [handler] at h
    exact .of_writes (Respects.rel h)

/-- The environments of the commands are configured. -/
def InEnv (configured : Env → Prop) : Label → Prop
  | .command env _ => configured env
  | _ => True

theorem inEnv_anywhere (l : Label) : InEnv (fun _ ↦ True) l := by
  cases l <;> trivial

theorem step_inputs (hok : InEnv configured l) (hstep : system.step w l = some w') :
    NewInputs configured w.db w'.db := by
  cases l
  case command env request =>
    rcases step_command hstep with hrecords | ⟨u, u', result, hran, hrecords⟩
    · exact .of_writes (hrecords.mono (by decide))
    obtain ⟨n, rfl⟩ := hran.start
    exact Preord.trans (s := w.db) (.of_writes (writes_drawn _ n))
      (Preord.trans (handler_inputs hok hran.run) (.of_writes (hrecords.mono (by decide))))
  all_goals
    have hbeside : Writes besideInputs w.db w'.db := step_background Preord.refl rfl hstep
    exact .of_writes hbeside

theorem inputsGiven_invariant {ok : World → Label → Prop}
    (hok : ∀ w l, ok w l → InEnv configured l) :
    system.Invariant ok fun w ↦ InputsGiven configured w.db where
  init := fun _ _ h ↦ nomatch h
  step w l _ h hl hstep := h.of_new (step_inputs (hok w l hl) hstep)

end HibikiCore
