import HibikiCore.Store.Paths
import HibikiCore.Safety.Inputs
import HibikiCore.Safety.Definitions

/-!
# Workspaces and their directories

The id of a workspace comes from a plan and is a path below the root of the workspaces: in the
specification of a run, and where the service reads a file. The plans are not asked whether their
workspaces have plain names. Where they do, each workspace is a child of the root and no other one
is the same directory; an id such as `..` or `other/` leads elsewhere, or where another id leads.
-/

namespace HibikiCore

set_option synthInstance.maxSize 100000000
set_option synthInstance.maxHeartbeats 400000

variable {env : Env} {auth : AuthContext} {p : Payload} {r : PlanRequest} {s s' : DB}
  {taskId root wsId : String} {result : CommandResult} {w w' : World} {l : Label}

/-! ## Directories -/

/-- `Path(root) / name`. -/
def joinPath (root name : String) : String :=
  if isAbsolute name then name else if root = "" then name else root ++ "/" ++ name

theorem PlainName.not_absolute {name : String} (h : PlainName name) : isAbsolute name = false := by
  rw [isAbsolute, beq_eq_false_iff_ne]
  intro hhead
  exact h.noSlash (List.mem_of_head? hhead)

theorem PlainName.joinPath {name : String} (h : PlainName name) (hroot : root ≠ "")
    (cwd : List String) :
    HibikiCore.resolve cwd (HibikiCore.joinPath root name) =
      HibikiCore.resolve cwd root ++ [name] := by
  rw [HibikiCore.joinPath, h.not_absolute, if_neg Bool.false_ne_true, if_neg hroot]
  exact h.resolve hroot cwd

/-- The path in the specification of a run leads to the child of the root that its workspace is
named for. -/
theorem PlainName.workspacePath {name : String} (h : PlainName name) (hroot : root ≠ "")
    (henv : env.workspaceRoot = some root) (cwd : List String) :
    ∃ path, HibikiCore.workspacePath env (some name) = some path ∧
      HibikiCore.resolve cwd path = HibikiCore.resolve cwd root ++ [name] := by
  refine ⟨_, ?_, h.resolve_rstrip hroot cwd⟩
  rw [HibikiCore.workspacePath, henv, truthy_eq_some.mpr ⟨rfl, hroot⟩,
    truthy_eq_some.mpr ⟨rfl, h.nonempty⟩]
  rfl

/-! ## New workspaces -/

/-- The tables beside the workspaces. -/
abbrev besideWorkspaces : List Relation :=
  [.tasks, .contracts, .activeContractMarkers, .explanations, .decisions, .gates, .plans,
    .activePlanMarkers, .workUnitSpecs, .workUnitExecutions, .plannerSessions, .agentRuns,
    .activeExecuteRunMarkers, .activePlanRunMarkers, .contextManifests, .sideEffects, .events,
    .inbox, .outbox, .idempotencyKeys, .resultSnapshots, .artifacts, .acceptanceEvidence,
    .agentProfiles, .runInputs, .toolInvocations, .contextAppends, .taskMessages]

instance : Faithful Refs.workspaces := ⟨id⟩

instance {n : Relation} [h : Touches n besideWorkspaces] : Beside Refs.workspaces n where
  ne := by
    rintro rfl
    exact absurd h.mem (by decide)

/-- The workspaces that are new have plain names. -/
abbrev PlainWorkspaces : DB → DB → Prop := Arrivals Refs.workspaces fun k _ ↦ PlainName k

theorem plainName_of_noSlash {id : String} (h : NoSlash id) : PlainName ("ws_" ++ id) := by
  have hchars : ("ws_" ++ id).toList = 'w' :: 's' :: '_' :: id.toList := by simp
  have hne (name : String) (hname : name.toList.head? ≠ some 'w') : "ws_" ++ id ≠ name := by
    rintro rfl
    rw [hchars] at hname
    exact hname rfl
  refine ⟨hne _ (by decide), hne _ (by decide), hne _ (by decide), ?_⟩
  exact NoSlash.append (by decide) h

/-- The workspace of a node that names none. -/
theorem plainName_unnamed {node : RawNode} (hnone : node.workspaceId = none)
    (h : NoSlash node.workUnitId) : PlainName node.workspace := by
  rw [RawNode.workspace, hnone]
  exact plainName_of_noSlash h

/-- The workspace that is created for a node without a name has a plain one. -/
theorem plainName_asRead {node : RawNode} (h : PlainName node.workspace) :
    PlainName node.asRead.workspace := by
  by_cases hunnamed : node.workUnitId = ""
  · have hempty : NoSlash "" := by decide
    rw [RawNode.asRead, if_pos hunnamed]
    exact plainName_unnamed rfl hempty
  · rwa [RawNode.asRead, if_neg hunnamed]

theorem installNode_workspaces {objective : Option String} {title : String}
    {contract : ContractContent} {node : RawNode} (h : PlainName node.workspace) :
    Respects PlainWorkspaces (installNode env taskId objective title contract node) := by
  have hadd (row : WorkspaceRow) :
      Respects PlainWorkspaces (add Refs.workspaces node.asRead.workspace row) :=
    Arrivals.insert (plainName_asRead h)
  have hworkspace : Respects PlainWorkspaces (installWorkspace taskId node) := by
    rw [installWorkspace]
    refine .seq inferInstance fun db ↦ ?_
    split
    · exact hadd _
    · infer_instance
  rw [installNode]
  exact .seq inferInstance fun _ ↦ .seq inferInstance fun _ ↦ hworkspace

theorem activatePlan_workspaces (hplain : ∀ node ∈ r.nodes, PlainName node.workspace)
    (h : activatePlan env auth r s = .ok (result, s')) : PlainWorkspaces s s' := by
  obtain ⟨task, version, contract, v, u₁, u₂, u₃, u₄, hstages⟩ := activatePlan_stages h
  have hinstall : PlainWorkspaces s u₁ := Respects.rel hstages.install
  have hsupersede : PlainWorkspaces u₁ u₂ := Respects.rel hstages.supersede
  have hadvance : PlainWorkspaces u₃ u₄ := Respects.rel hstages.advance
  have hevents : PlainWorkspaces u₄ s' := Indifferent.writes hstages.events
  have halign : PlainWorkspaces u₂ u₃ := by
    have hrun := hstages.align
    rw [alignUnits] at hrun
    obtain ⟨_, t, hnodes, hrest⟩ := Tx.bind_ok.mp hrun
    have hinstalled : PlainWorkspaces u₂ t :=
      Tx.each_induct (P := PlainWorkspaces u₂)
        (fun node hnode u u' hu hstep ↦
          Preord.trans hu ((installNode_workspaces (hplain node hnode)).rel hstep))
        (Preord.refl u₂) hnodes
    exact Preord.trans hinstalled (Respects.rel hrest)
  exact Preord.trans hinstall (Preord.trans hsupersede (Preord.trans halign
    (Preord.trans hadvance hevents)))

/-! ## What the commands name -/

/-- The workspaces that a command names have plain names, and so do those that are named for the
units it names. -/
structure Payload.NamesPlainly (p : Payload) : Prop where
  nodes : ∀ nodes, p.nodes = some nodes → ∀ node ∈ nodes, PlainName node.workspace
  keepNodes : ∀ node ∈ p.keepNodes, p.failedVerifyWorkUnitId ≠ some node.workUnitId →
    PlainName node.workspace
  units : ∀ id ∈ [p.workUnitId, p.repairWorkUnitId, p.newVerifyWorkUnitId],
    ∀ name, id = some name → NoSlash name

/-- The service has a root for its workspaces and draws identifiers without slashes, and the plans
that are activated name plain workspaces. -/
def NamesPlainly (root : String) (_ : World) : Label → Prop
  | .command env r =>
    env.workspaceRoot = some root ∧ (∀ n, NoSlash (env.uuid n)) ∧
      (r.operation.activates = true → r.payload.NamesPlainly)
  | _ => True

/-- A unit that is named, or else is drawn. -/
theorem noSlash_given {id : Option String} {n : Nat} (huuid : ∀ n, NoSlash (env.uuid n))
    (h : ∀ name, id = some name → NoSlash name) :
    NoSlash ((truthy id).getD ("wu" ++ "_" ++ env.uuid n)) := by
  cases hid : truthy id with
  | none => exact NoSlash.append (by decide) (huuid n)
  | some name => exact h name (truthy_eq_some.mp hid).1

theorem activateMinimalPlan_workspaces (huuid : ∀ n, NoSlash (env.uuid n))
    (hnames : p.NamesPlainly) (h : activateMinimalPlan env auth p s = .ok (result, s')) :
    PlainWorkspaces s s' := by
  obtain ⟨taskId, t₁, hkey, h₁⟩ := Tx.bind_ok.mp h
  obtain ⟨-, rfl⟩ := key_ok.mp hkey
  obtain ⟨task, t₂, hget, h₂⟩ := Tx.bind_ok.mp h₁
  obtain ⟨-, rfl⟩ := getTask_ok.mp hget
  obtain ⟨_, t₃, hcheck, h₃⟩ := Tx.bind_ok.mp h₂
  obtain ⟨-, rfl⟩ := Tx.check_ok.mp hcheck
  obtain ⟨active, t₄, hactive, h₄⟩ := Tx.bind_ok.mp h₃
  obtain rfl : t₃ = t₄ := Respects.rel (R := Eq) hactive
  obtain ⟨contract, t₅, hrequire, h₅⟩ := Tx.bind_ok.mp h₄
  obtain ⟨-, rfl⟩ := Tx.require_ok.mp hrequire
  obtain ⟨drawn, t₆, hid, hplan⟩ := Tx.bind_ok.mp h₅
  obtain ⟨rfl, rfl⟩ := newId_ok.mp hid
  have hdrawn : PlainWorkspaces t₅ { t₅ with drawn := t₅.drawn + 1 } :=
    Frame.still (writes_drawn _ _)
  refine Preord.trans hdrawn (activatePlan_workspaces (fun node hnode ↦ ?_) hplan)
  obtain rfl := List.mem_singleton.mp hnode
  exact plainName_unnamed rfl
    (noSlash_given huuid (hnames.units p.workUnitId (by simp)))

/-- The nodes of a repair are those that are kept, the repair and the new verification. -/
theorem repairProposal_plain {failedId repairId verifyId : String} {task : TaskRow}
    (hkept : ∀ node ∈ p.keepNodes, node.workUnitId ≠ failedId → PlainName node.workspace)
    (hrepair : NoSlash repairId) (hverify : NoSlash verifyId) :
    ∀ node ∈ (repairProposal task p failedId repairId verifyId).nodes.getD [],
      PlainName node.workspace := by
  intro node hnode
  rw [repairProposal] at hnode
  rcases List.mem_append.mp hnode with hold | hnew
  · obtain ⟨hmem, hother⟩ := List.mem_filter.mp hold
    exact hkept node hmem (of_decide_eq_true hother)
  · rcases List.mem_cons.mp hnew with rfl | hlast
    · exact plainName_unnamed rfl hrepair
    · split at hlast
      · obtain rfl := List.mem_singleton.mp hlast
        exact plainName_unnamed rfl hverify
      · cases hlast

theorem submitPlanProposal_workspaces
    (hnodes : ∀ nodes, p.nodes = some nodes → ∀ node ∈ nodes, PlainName node.workspace)
    (h : submitPlanProposal env auth p s = .ok (result, s')) : PlainWorkspaces s s' := by
  rcases submitPlanProposal_ok h with ⟨_, _, _, _, -, -, -, -, -, hrefused⟩ | ⟨r, hasks, hplan⟩
  · rcases hrefused with ⟨-, hevents⟩ | ⟨-, -, hpropose⟩
    · exact Indifferent.writes hevents
    · exact Respects.rel hpropose
  · cases hasks with
    | proposal named found current bound generation internal given =>
      exact activatePlan_workspaces (hnodes _ given) hplan

theorem requestRepairPlan_workspaces (huuid : ∀ n, NoSlash (env.uuid n))
    (hnames : p.NamesPlainly) (h : requestRepairPlan env auth p s = .ok (result, s')) :
    PlainWorkspaces s s' := by
  obtain ⟨taskId, t₁, hkey, h₁⟩ := Tx.bind_ok.mp h
  obtain ⟨-, rfl⟩ := key_ok.mp hkey
  obtain ⟨task, t₂, hget, h₂⟩ := Tx.bind_ok.mp h₁
  obtain ⟨-, rfl⟩ := getTask_ok.mp hget
  obtain ⟨_, t₃, hcheck, h₃⟩ := Tx.bind_ok.mp h₂
  obtain ⟨-, rfl⟩ := Tx.check_ok.mp hcheck
  obtain ⟨failedId, t₄, hkey', h₄⟩ := Tx.bind_ok.mp h₃
  obtain ⟨hfailed, rfl⟩ := key_ok.mp hkey'
  rw [Tx.get_bind_ok] at h₄
  obtain ⟨wu, t₅, hrequire, h₅⟩ := Tx.bind_ok.mp h₄
  obtain ⟨-, rfl⟩ := Tx.require_ok.mp hrequire
  obtain ⟨_, t₆, hcheck', h₆⟩ := Tx.bind_ok.mp h₅
  obtain ⟨-, rfl⟩ := Tx.check_ok.mp hcheck'
  obtain ⟨repairId, t₇, hid, h₇⟩ := Tx.bind_ok.mp h₆
  obtain ⟨rfl, rfl⟩ := newId_ok.mp hid
  obtain ⟨verifyId, t₈, hid', h₈⟩ := Tx.bind_ok.mp h₇
  obtain ⟨rfl, rfl⟩ := newId_ok.mp hid'
  have hkept (node : RawNode) (hnode : node ∈ p.keepNodes) (hother : node.workUnitId ≠ failedId) :
      PlainName node.workspace := by
    refine hnames.keepNodes node hnode fun hsame ↦ hother ?_
    exact Option.some.inj (hsame.symm.trans hfailed)
  have hrepair : NoSlash ((truthy p.repairWorkUnitId).getD ("wu" ++ "_" ++ env.uuid t₆.drawn)) :=
    noSlash_given huuid (hnames.units p.repairWorkUnitId (by simp))
  have hverify : NoSlash
      ((truthy p.newVerifyWorkUnitId).getD ("wu" ++ "_" ++ env.uuid (t₆.drawn + 1))) :=
    noSlash_given huuid (hnames.units p.newVerifyWorkUnitId (by simp))
  have hplain := @repairProposal_plain p failedId _ _ task hkept hrepair hverify
  have hdrawn : PlainWorkspaces t₆ { t₆ with drawn := t₆.drawn + 1 + 1 } :=
    Frame.still (writes_drawn _ _)
  refine Preord.trans hdrawn ?_
  rcases Tx.ite_ok.mp h₈ with ⟨-, hproposal⟩ | ⟨-, hplan⟩
  · refine submitPlanProposal_workspaces (fun nodes hnodes ↦ ?_) hproposal
    obtain rfl := Option.some.inj hnodes
    exact hplain
  · exact activatePlan_workspaces hplain hplan

theorem handler_workspaces {operation : Operation} (huuid : ∀ n, NoSlash (env.uuid n))
    (hnames : operation.activates = true → p.NamesPlainly)
    (h : handler env auth p operation s = .ok (result, s')) : PlainWorkspaces s s' := by
  cases operation
  case activatePlan =>
    obtain ⟨r, hasks, hplan⟩ := activatePlanCommand_ok h
    cases hasks with
    | plan named given => exact activatePlan_workspaces ((hnames rfl).nodes _ given) hplan
  case activateMinimalPlan => exact activateMinimalPlan_workspaces huuid (hnames rfl) h
  case submitPlanProposal => exact submitPlanProposal_workspaces (hnames rfl).nodes h
  case requestRepairPlan => exact requestRepairPlan_workspaces huuid (hnames rfl) h
  all_goals
    dsimp only [handler] at h
    exact Respects.rel h

/-! ## Every run -/

/-- Every workspace has a plain name. -/
def WorkspacesPlain (s : DB) : Prop := ∀ wsId ws, s.workspaces.find? wsId = some ws → PlainName wsId

theorem step_workspaces (hok : NamesPlainly root w l) (hstep : system.step w l = some w') :
    PlainWorkspaces w.db w'.db := by
  cases l
  case command env request =>
    obtain ⟨-, huuid, hnames⟩ := hok
    rcases step_command hstep with hrecords | ⟨u, u', result, hran, hrecords⟩
    · exact .of_read ((hrecords .workspaces).2 (by decide))
    obtain ⟨n, rfl⟩ := hran.start
    have hdrawn : PlainWorkspaces w.db { w.db with drawn := n } := Frame.still (writes_drawn _ _)
    have hafter : PlainWorkspaces u' w'.db := .of_read ((hrecords .workspaces).2 (by decide))
    exact Preord.trans hdrawn (Preord.trans (handler_workspaces huuid hnames hran.run) hafter)
  all_goals
    exact step_background Preord.refl rfl hstep

theorem workspacesPlain_invariant :
    system.Invariant (NamesPlainly root) fun w ↦ WorkspacesPlain w.db where
  init := fun _ _ h ↦ nomatch h
  step w l w' h hok hstep wsId ws hws := by
    rcases step_workspaces hok hstep wsId ws hws with ⟨ws₀, hold, -⟩ | hnew
    · exact h wsId ws₀ hold
    · exact hnew

theorem NamesPlainly.configured (h : NamesPlainly root w l) :
    InEnv (fun env ↦ env.workspaceRoot = some root) l := by
  cases l with
  | command env r => exact h.1
  | _ => trivial

/-- The directory below the root that the name of a workspace leads to. -/
def workspaceDirectory (root : String) (cwd : List String) (wsId : String) : List String :=
  resolve cwd (joinPath root wsId)

/-- A child of the root. -/
def ChildOf (cwd : List String) (root : String) (dir : List String) : Prop :=
  ∃ name, dir = resolve cwd root ++ [name]

/-- The path of a run with a workspace leads to the directory of the workspace. Such a directory is
a child of the root, and no other workspace has it. -/
structure Contained (root : String) (cwd : List String) (s : DB) : Prop where
  runs : ∀ runId input wsId, s.runInputs.find? runId = some input → input.workspaceId = some wsId →
    (∃ ws, s.workspaces.find? wsId = some ws) ∧
      ∃ path, input.workspacePath = some path ∧ resolve cwd path = workspaceDirectory root cwd wsId
  children : ∀ wsId ws, s.workspaces.find? wsId = some ws →
    ChildOf cwd root (workspaceDirectory root cwd wsId)
  distinct : ∀ wsId ws wsId' ws', s.workspaces.find? wsId = some ws →
    s.workspaces.find? wsId' = some ws' →
    workspaceDirectory root cwd wsId = workspaceDirectory root cwd wsId' → wsId = wsId'

/-- As long as the plans that are activated name plain workspaces, the directories of workspaces are
contained in the root, and they are distinct. -/
theorem workspaces_contained (hroot : root ≠ "") (cwd : List String)
    (hw : system.ReachableBy (NamesPlainly root) w) : Contained root cwd w.db := by
  have hplain : WorkspacesPlain w.db := workspacesPlain_invariant.of_reachable hw
  have hinputs : InputsGiven (fun env ↦ env.workspaceRoot = some root) w.db :=
    (inputsGiven_invariant fun _ _ hok ↦ hok.configured).of_reachable hw
  have hdirectory (wsId : String) (ws : WorkspaceRow) (hws : w.db.workspaces.find? wsId = some ws) :
      workspaceDirectory root cwd wsId = resolve cwd root ++ [wsId] :=
    (hplain wsId ws hws).joinPath hroot cwd
  refine ⟨fun runId input wsId hinput hwsId ↦ ?_, fun wsId ws hws ↦ ?_, ?_⟩
  · obtain ⟨run, hgiven⟩ := hinputs runId input hinput
    obtain ⟨ws, hws⟩ := hgiven.workspace wsId hwsId
    obtain ⟨env, henv, hpath⟩ := hgiven.path
    obtain ⟨path, hsome, hresolve⟩ := (hplain wsId ws hws).workspacePath hroot henv cwd
    rw [hwsId, hsome] at hpath
    exact ⟨⟨ws, hws⟩, path, hpath, hresolve.trans (hdirectory wsId ws hws).symm⟩
  · exact ⟨wsId, hdirectory wsId ws hws⟩
  · intro wsId ws wsId' ws' hws hws' hsame
    rw [hdirectory wsId ws hws, hdirectory wsId' ws' hws'] at hsame
    exact List.singleton_inj.mp (List.append_cancel_left hsame)

/-! ## Samples -/

/-- A command of the owner where the workspaces have a root. -/
def Label.askIn (root : String) (operation : Operation) (payload : Payload) : Label :=
  .command { Env.silent with workspaceRoot := some root }
    { operation, auth := .ofHuman "owner", payload }

/-- A plan names the workspaces of two nodes, and the runs of them are dispatched. -/
def sampleWorkspaces (first second : String) : List Label :=
  [ .askIn "/workspaces" .createTask { title := some "task" },
    .askIn "/workspaces" .submitContract { taskId := some "task_i" },
    .askIn "/workspaces" .approveContract { decisionId := some "dec_iiii" },
    .askIn "/workspaces" .activatePlan
      { taskId := some "task_i"
        nodes := some [{ workUnitId := "a", workspaceId := some first },
          { workUnitId := "b", workspaceId := some second }] },
    .askIn "/workspaces" .dispatchReadyRuns { taskId := some "task_i" } ]

theorem sampleWorkspaces_plain {first second : String} (hfirst : PlainName first)
    (hsecond : PlainName second) :
    ∀ l ∈ sampleWorkspaces first second, ∀ w, NamesPlainly "/workspaces" w l := by
  have huuid (n : Nat) : NoSlash ({ Env.silent with workspaceRoot := some "/workspaces" }.uuid n) := by
    simp [NoSlash, Env.silent, List.mem_replicate]
  intro l hl w
  simp only [sampleWorkspaces, List.mem_cons, List.not_mem_nil, or_false] at hl
  rcases hl with rfl | rfl | rfl | rfl | rfl
  case inr.inr.inr.inl =>
    refine ⟨rfl, huuid, fun _ ↦ ⟨fun nodes hnodes node hnode ↦ ?_, ?_, ?_⟩⟩
    · obtain rfl := Option.some.inj hnodes
      rcases List.mem_cons.mp hnode with rfl | hnode
      · rwa [RawNode.workspace, orElse_of_truthy (truthy_eq_some.mpr ⟨rfl, hfirst.nonempty⟩)]
      · obtain rfl := List.mem_singleton.mp hnode
        rwa [RawNode.workspace, orElse_of_truthy (truthy_eq_some.mpr ⟨rfl, hsecond.nonempty⟩)]
    · intro _ hnone
      cases hnone
    · rintro id hid name rfl
      simp at hid
  all_goals exact ⟨rfl, huuid, fun hactivates ↦ by cases hactivates⟩

/-- The workspaces of the two runs of the sample. -/
def sampleIds (w : World) : List (Option (Option String)) :=
  ["run_iiiiiiiii", "run_iiiiiiiiiiii"].map fun runId ↦
    (w.db.runInputs.find? runId).map (·.workspaceId)

theorem sampleIds_some {first second : String}
    (h : sampleIds w = [some (some first), some (some second)]) :
    (∃ input, w.db.runInputs.find? "run_iiiiiiiii" = some input ∧
      input.workspaceId = some first) ∧
    ∃ input, w.db.runInputs.find? "run_iiiiiiiiiiii" = some input ∧
      input.workspaceId = some second := by
  simpa [sampleIds] using h

/-- The second run of the sample has the directory that its workspace is named for. -/
theorem workspaces_contained_sampleWorkspaces :
    ∃ w input path, system.Reachable w ∧ Contained "/workspaces" ["root"] w.db ∧
      w.db.runInputs.find? "run_iiiiiiiiiiii" = some input ∧ input.workspacePath = some path ∧
      resolve ["root"] path = ["workspaces", "two"] := by
  have hview : (system.exec system.init (sampleWorkspaces "one" "two")).map sampleIds =
      some [some (some "one"), some (some "two")] := by
    decide +kernel
  obtain ⟨w, hexec, hids⟩ := Option.map_eq_some_iff.mp hview
  obtain ⟨-, input, hinput, hwsId⟩ := sampleIds_some hids
  have hplain : ∀ l ∈ sampleWorkspaces "one" "two", ∀ w, NamesPlainly "/workspaces" w l :=
    sampleWorkspaces_plain ⟨by decide, by decide, by decide, by decide⟩
      ⟨by decide, by decide, by decide, by decide⟩
  have hcontained : Contained "/workspaces" ["root"] w.db :=
    workspaces_contained (by decide) ["root"] (.of_exec_ok hplain hexec)
  obtain ⟨-, path, hpath, hdirectory⟩ := hcontained.runs _ input "two" hinput hwsId
  have htwo : workspaceDirectory "/workspaces" ["root"] "two" = ["workspaces", "two"] := by
    decide +kernel
  exact ⟨w, input, path, .of_exec hexec, hcontained, hinput, hpath, hdirectory.trans htwo⟩

/-- A run has a workspace called `..`, which is no child of the root. Two runs have the workspaces
`one` and `one/`, which are the same directory. -/
theorem sampleWorkspaces_not_contained :
    (∃ w input, system.Reachable w ∧ w.db.runInputs.find? "run_iiiiiiiii" = some input ∧
      input.workspaceId = some ".." ∧
      ¬ ChildOf ["root"] "/workspaces" (workspaceDirectory "/workspaces" ["root"] "..")) ∧
    ∃ w input input', system.Reachable w ∧ w.db.runInputs.find? "run_iiiiiiiii" = some input ∧
      w.db.runInputs.find? "run_iiiiiiiiiiii" = some input' ∧ input.workspaceId = some "one" ∧
      input'.workspaceId = some "one/" ∧
      workspaceDirectory "/workspaces" ["root"] "one" =
        workspaceDirectory "/workspaces" ["root"] "one/" := by
  have hup : (system.exec system.init (sampleWorkspaces ".." "two")).map sampleIds =
      some [some (some ".."), some (some "two")] := by
    decide +kernel
  have hsame : (system.exec system.init (sampleWorkspaces "one" "one/")).map sampleIds =
      some [some (some "one"), some (some "one/")] := by
    decide +kernel
  constructor
  · obtain ⟨w, hexec, hids⟩ := Option.map_eq_some_iff.mp hup
    obtain ⟨⟨input, hinput, hwsId⟩, -⟩ := sampleIds_some hids
    refine ⟨w, input, .of_exec hexec, hinput, hwsId, ?_⟩
    rintro ⟨name, hname⟩
    have hroot : workspaceDirectory "/workspaces" ["root"] ".." = [] := by decide +kernel
    rw [hroot] at hname
    exact List.append_ne_nil_of_right_ne_nil _ (List.cons_ne_nil name []) hname.symm
  · obtain ⟨w, hexec, hids⟩ := Option.map_eq_some_iff.mp hsame
    obtain ⟨⟨input, hinput, hwsId⟩, input', hinput', hwsId'⟩ := sampleIds_some hids
    exact ⟨w, input, input', .of_exec hexec, hinput, hinput', hwsId, hwsId', by decide +kernel⟩

end HibikiCore
