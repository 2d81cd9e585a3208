import HibikiCore.Safety.Alignment
import HibikiCore.Safety.Evidence
import HibikiCore.Safety.Replays

/-!
# Repairs

A repair replaces a verification that failed by a repair and a new verification. The nodes of the
failed unit are left out of the revision; its edges are not. The revision is a well-formed graph if
the plan was one and has no edge at the failed unit, whatever the graph looks like elsewhere: what
is added leads out of the repair, into which nothing leads. A plan that is well-formed can be
activated, because the units and the workspaces of the plan before it are aligned with its nodes.

What a VERDICT_PASS edge is pinned to is not looked up. Therefore the hash that the request names,
and those that the plan has named before, have to be registered already.
-/

namespace HibikiCore

set_option synthInstance.maxSize 100000000
set_option synthInstance.maxHeartbeats 400000

variable {env : Env} {auth : AuthContext} {p : Payload} {r : PlanRequest} {task : TaskRow}
  {s s' : DB} {w w' : World} {l : Label} {taskId runId wuId title : String}
  {objective : Option String} {contract : ContractContent} {nodes : List RawNode} {node : RawNode}
  {result : CommandResult} {operation : Operation} {P : RawNode → Prop}

/-! ## Activations that do not fail -/

theorem checkNodeOwner_ok (h : NodeOwned s taskId node) :
    checkNodeOwner taskId node s = .ok ((), s) := by
  rw [checkNodeOwner, Tx.get_bind_ok]
  exact Tx.bind_ok.mpr ⟨(), s, Tx.check_ok.mpr ⟨h.1, rfl⟩, Tx.check_ok.mpr ⟨h.2, rfl⟩⟩

theorem checkPlanCaps_yields (hsize : nodes.length ≤ Defaults.maxWorkUnitsPerTask)
    (hrevisions : (s.plans.select fun k _ ↦ k.1 == taskId).length < Defaults.maxPlanRevisions)
    (howned : ∀ node ∈ nodes, NodeOwned s taskId node) :
    (checkPlanCaps taskId nodes).Yields s fun _ ↦ True := by
  rw [checkPlanCaps]
  refine .bind (Tx.get_ok.mpr ⟨rfl, rfl⟩) (.bind (a := ()) (Tx.check_ok.mpr ⟨hsize, rfl⟩) ?_)
  refine .bind (a := ()) (Tx.check_ok.mpr ⟨hrevisions, rfl⟩) ?_
  refine .each_of (I := (· = s)) (fun node hnode t ht ↦ ?_) (fun node hnode t t' ht hstep ↦ ?_) rfl
  · subst ht
    exact .of_ok (checkNodeOwner_ok (howned node hnode))
  · subst ht
    rw [checkNodeOwner_ok (howned node hnode)] at hstep
    exact (Prod.mk.inj (Except.ok.inj hstep)).2.symm

theorem installPlan_yields {version : Nat} {edges : List RawEdge}
    (hfree : (s.retirePlan taskId).plans.find? (taskId, task.planVersion.getD 0 + 1) = none) :
    (installPlan env taskId task version nodes edges).Yields s fun _ ↦ True := by
  have hretire : (Tx.withSome (s.activePlanMarkers.find? taskId) (fun marker ↦ do
      Refs.plans.update (taskId, marker.planVersion) fun p ↦ { p with status := .superseded }
      Refs.activePlanMarkers.delete taskId) : Core Unit) s = .ok ((), s.retirePlan taskId) := by
    rw [DB.retirePlan]
    cases s.activePlanMarkers.find? taskId with
    | none => rfl
    | some marker => rfl
  have hunmarked : (s.retirePlan taskId).activePlanMarkers.find? taskId = none := by
    rw [DB.retirePlan_markers, if_pos rfl]
  rw [installPlan]
  refine .bind (Tx.get_ok.mpr ⟨rfl, rfl⟩) (.bind hretire ?_)
  refine .bind (a := ()) (Ref.insert_ok.mpr ⟨hfree, rfl⟩) ?_
  refine .bind (a := ()) (Ref.insert_ok.mpr ⟨hunmarked, rfl⟩) ?_
  exact .seq update_yields fun _ _ _ _ ↦ .pure trivial

/-- Nothing of another task, or of another version, is in the way of a node. -/
structure NodeInstallable (s : DB) (taskId : String) (node : RawNode) : Prop where
  spec : ∀ spec, s.workUnitSpecs.find? node.specKey = some spec → spec.taskId = taskId
  unit : ∀ u, s.workUnitExecutions.find? node.workUnitId = some u → u.specVersion = node.version
  workspace : ∀ ws, s.workspaces.find? node.asRead.workspace = some ws → ws.taskId = taskId

theorem installSpec_yields {spec : WorkUnitSpec}
    (h : ∀ spec, s.workUnitSpecs.find? node.specKey = some spec → spec.taskId = taskId) :
    (installSpec env taskId node spec).Yields s fun _ ↦ True := by
  rw [installSpec]
  refine .bind (Tx.get_ok.mpr ⟨rfl, rfl⟩) (.seq (.when fun hnone ↦ add_yields hnone) ?_)
  intro _ t _ _
  refine .of_ok (a := ()) (Tx.check_ok.mpr ⟨?_, rfl⟩)
  rw [Option.all_eq_true]
  intro row hrow
  exact decide_eq_true (h row hrow)

theorem rebindUnit_yields {wu : WorkUnitExecutionRow} (h : wu.specVersion = node.version) :
    (rebindUnit node wu).Yields s fun _ ↦ True := by
  rw [rebindUnit]
  split
  · exact .of_ok (a := ()) (Tx.check_ok.mpr ⟨h, rfl⟩)
  · exact .when fun hne ↦ absurd h hne

theorem installUnit_yields
    (h : ∀ u, s.workUnitExecutions.find? node.workUnitId = some u → u.specVersion = node.version) :
    (installUnit taskId node).Yields s fun _ ↦ True := by
  rw [installUnit]
  refine .bind (Tx.get_ok.mpr ⟨rfl, rfl⟩) ?_
  cases hwu : s.workUnitExecutions.find? node.workUnitId with
  | none => exact add_yields hwu
  | some wu => exact rebindUnit_yields (h wu hwu)

theorem installWorkspace_yields
    (h : ∀ ws, s.workspaces.find? node.asRead.workspace = some ws → ws.taskId = taskId) :
    (installWorkspace taskId node).Yields s fun _ ↦ True := by
  rw [installWorkspace]
  refine .bind (Tx.get_ok.mpr ⟨rfl, rfl⟩) ?_
  cases hws : s.workspaces.find? node.asRead.workspace with
  | none => exact add_yields hws
  | some ws => exact .of_ok (a := ()) (Tx.check_ok.mpr ⟨h ws hws, rfl⟩)

theorem installNode_yields (h : NodeInstallable s taskId node) :
    (installNode env taskId objective title contract node).Yields s fun _ ↦ True := by
  rw [installNode]
  refine .seq (installSpec_yields h.spec) fun _ t₁ hspec _ ↦ ?_
  have hspecs : Writes [.workUnitSpecs] s t₁ := Respects.rel hspec
  have hunits₁ : s.workUnitExecutions = t₁.workUnitExecutions :=
    (hspecs .workUnitExecutions).2 (by decide)
  refine .seq (installUnit_yields (hunits₁ ▸ h.unit)) fun _ t₂ hunit _ ↦ ?_
  have hunits : Writes [.workUnitExecutions] t₁ t₂ := Respects.rel hunit
  have hworkspaces : s.workspaces = t₂.workspaces :=
    ((hspecs .workspaces).2 (by decide)).trans ((hunits .workspaces).2 (by decide))
  exact installWorkspace_yields (hworkspaces ▸ h.workspace)

/-- A workspace that is new is one of the task. -/
theorem installNode_came {k : String} {ws : WorkspaceRow}
    (h : installNode env taskId objective title contract node s = .ok ((), s'))
    (hws : s'.workspaces.find? k = some ws) :
    s.workspaces.find? k = some ws ∨ ws.taskId = taskId := by
  obtain ⟨_, t₁, hspec, h₁⟩ := Tx.bind_ok.mp h
  obtain ⟨_, t₂, hunit, hworkspace⟩ := Tx.bind_ok.mp h₁
  have hspecs : Writes [.workUnitSpecs] s t₁ := Respects.rel hspec
  have hunits : Writes [.workUnitExecutions] t₁ t₂ := Respects.rel hunit
  have hsame : s.workspaces = t₂.workspaces :=
    ((hspecs .workspaces).2 (by decide)).trans ((hunits .workspaces).2 (by decide))
  rw [hsame]
  rw [installWorkspace, Tx.get_bind_ok] at hworkspace
  cases hfind : t₂.workspaces.find? node.asRead.workspace with
  | some _ =>
    simp only [hfind] at hworkspace
    obtain ⟨-, rfl⟩ := Tx.check_ok.mp hworkspace
    exact .inl hws
  | none =>
    simp only [hfind] at hworkspace
    obtain ⟨hnone, rfl⟩ := Ref.insert_ok.mp hworkspace
    have hfound := (Table.find?_insert hnone _ k).symm.trans hws
    split at hfound
    · obtain rfl := Option.some.inj hfound
      exact .inr rfl
    · exact .inl hfound

/-- Installing a node leaves the others installable, if they are named apart. -/
theorem NodeInstallable.installNode {b : RawNode} (h : NodeInstallable s taskId node)
    (hb : b.workUnitId = node.workUnitId → b = node)
    (hstep : HibikiCore.installNode env taskId objective title contract b s = .ok ((), s')) :
    NodeInstallable s' taskId node where
  spec spec hspec := by
    have harrive : SpecsOf env taskId objective title contract [b] s s' :=
      (installNode_specs (List.mem_singleton_self b)).rel hstep
    rcases harrive _ spec hspec with ⟨spec₀, hspec₀, hsame⟩ | ⟨_, -, -, hnew⟩
    · obtain rfl : spec = spec₀ := hsame
      exact h.spec spec hspec₀
    · have hrow : spec = specRow env taskId _ := hnew
      rw [hrow]
      rfl
  unit u hu := by
    have hbound := (BoundTo.installNode_respects (P := (· = b)) rfl).rel hstep
    rcases hbound.origin hu with ⟨a, ha, hkept | hnamed⟩ | ⟨-, hnamed⟩
    · exact hkept.trans (h.unit a ha)
    · obtain ⟨_, rfl, hunit, hversion⟩ := hnamed
      rw [← hversion, hb hunit]
    · obtain ⟨_, rfl, hunit, hversion⟩ := hnamed
      rw [← hversion, hb hunit]
  workspace ws hws := by
    rcases installNode_came hstep hws with hold | howner
    · exact h.workspace ws hold
    · exact howner

theorem removeUnit_yields {flushed : DB}
    (hended : ∀ u, s.workUnitExecutions.find? wuId = some u → u.status.isTerminal = true) :
    (removeUnit env flushed taskId wuId).Yields s fun _ ↦ True := by
  rw [removeUnit]
  refine .bind (Tx.get_ok.mpr ⟨rfl, rfl⟩) (.withSome fun u hu ↦ .when fun hlive ↦ ?_)
  rw [hended u hu] at hlive
  cases hlive

/-- Units and workspaces can be aligned with nodes that can be installed, if what they leave out has
ended. -/
theorem alignUnits_yields {flushed : DB} (hnodup : (nodes.map RawNode.workUnitId).Nodup)
    (hinstallable : ∀ node ∈ nodes, NodeInstallable s taskId node)
    (hended : ∀ wuId u, s.workUnitExecutions.find? wuId = some u → u.taskId = taskId →
      (∀ node ∈ nodes, node.workUnitId ≠ wuId) → u.status.isTerminal = true) :
    (alignUnits env flushed taskId objective title contract nodes).Yields s fun _ ↦ True := by
  rw [alignUnits]
  have hinstalls : (Tx.each nodes (installNode env taskId objective title contract)).Yields s
      fun _ ↦ True := by
    refine .each_of (I := fun u ↦ ∀ node ∈ nodes, NodeInstallable u taskId node)
      (fun node hnode u hu ↦ installNode_yields (hu node hnode)) ?_ hinstallable
    intro b hb u u' hu hstep node hnode
    exact (hu node hnode).installNode (List.inj_on_of_nodup_map hnodup hb hnode) hstep
  refine .seq hinstalls fun _ t hinstall _ ↦ .bind (Tx.get_ok.mpr ⟨rfl, rfl⟩) ?_
  have hbound : BoundTo (· ∈ nodes) s t :=
    Tx.each_induct (P := BoundTo (· ∈ nodes) s)
      (fun _ hmem u u' hu hstep ↦ Preord.trans hu ((BoundTo.installNode_respects hmem).rel hstep))
      (Preord.refl s) hinstall
  have hkeeps : Units UnitKeeps s t := Respects.rel hinstall
  refine .each_of (I := fun u ↦ ∀ wuId ∈ orphanUnits t taskId nodes, ∀ a,
    u.workUnitExecutions.find? wuId = some a → a.status.isTerminal = true)
    (fun wuId hwuId u hu ↦ removeUnit_yields (hu wuId hwuId)) ?_ ?_
  · intro b hb u u' hu hstep wuId hwuId a ha
    have hnone : BoundTo (fun _ ↦ False) u u' := Respects.rel hstep
    obtain ⟨a₀, ha₀, -⟩ := hnone.back ha nofun
    have hended : EndedUnit u wuId := ⟨a₀, ha₀, hu wuId hwuId a₀ ha₀⟩
    obtain ⟨a', ha', hend⟩ := hended.of_settles (Respects.rel hstep : Units UnitSettles u u')
    obtain rfl := Option.some.inj (ha.symm.trans ha')
    exact hend
  · intro wuId hwuId a ha
    obtain ⟨⟨k, a'⟩, hmem, rfl⟩ := List.mem_map.mp hwuId
    obtain ⟨ha', horphan⟩ := Table.mem_select.mp hmem
    obtain rfl := Option.some.inj (ha.symm.trans ha')
    simp only [Bool.and_eq_true, beq_iff_eq, Bool.not_eq_true', List.contains_eq_mem,
      decide_eq_false_iff_not, List.mem_map, not_exists, not_and] at horphan
    obtain ⟨howner, hoff⟩ := horphan
    obtain ⟨a₀, ha₀, -⟩ := hbound.back ha hoff
    obtain ⟨a₁, ha₁, hstatus⟩ := hkeeps k a₀ ha₀
    obtain rfl := Option.some.inj (ha.symm.trans ha₁)
    obtain ⟨a₂, ha₂, hsame⟩ := (Respects.rel hinstall : Persists s t).unit ha₀
    obtain rfl := Option.some.inj (ha.symm.trans ha₂)
    have hstatus' : a.status = a₀.status := hstatus
    rw [hstatus']
    exact hended k a₀ ha₀ (hsame.symm.trans howner) hoff

/-- An activation that is admitted does not fail, if its nodes can be installed. -/
theorem activatePlan_yields {version : Nat} {contract : ContractRow}
    (hadmitted : PlanAdmitted auth s r task version contract)
    (hfree : (s.retirePlan r.taskId).plans.find? (r.taskId, task.planVersion.getD 0 + 1) = none)
    (hinstallable : ∀ node ∈ r.nodes, NodeInstallable s r.taskId node)
    (hended : ∀ wuId u, s.workUnitExecutions.find? wuId = some u → u.taskId = r.taskId →
      (∀ node ∈ r.nodes, node.workUnitId ≠ wuId) → u.status.isTerminal = true) :
    (activatePlan env auth r).Yields s (·.ok = true) := by
  have hactive : activeContract r.taskId s = .ok (some (version, contract), s) :=
    activeContract_ok.mpr ⟨rfl, .inr ⟨version, contract, hadmitted.marker, hadmitted.contract, rfl⟩⟩
  rw [activatePlan]
  refine .bind (Tx.get_ok.mpr ⟨rfl, rfl⟩) (.bind (getTask_ok.mpr ⟨hadmitted.found, rfl⟩) ?_)
  refine .bind (a := ()) (Tx.check_ok.mpr ⟨hadmitted.owner, rfl⟩) (.bind hactive ?_)
  refine .bind (Tx.require_ok.mpr ⟨rfl, rfl⟩) ?_
  refine .bind (a := ()) (Tx.check_ok.mpr ⟨hadmitted.contractVersion, rfl⟩) ?_
  refine .bind (a := ()) (Tx.check_ok.mpr ⟨?_, rfl⟩) ?_
  · rw [Option.all_eq_true]
    intro e he
    cases hv : task.planVersion with
    | none => rfl
    | some v => exact decide_eq_true (hadmitted.planVersion e v he hv)
  have hroom : (r.nodes.map RawNode.toPlanNode).length < env.frames := by
    rw [List.length_map]
    exact Nat.lt_of_le_of_lt hadmitted.size env.roomy
  refine .bind (a := ()) (Tx.lift_ok.mpr ⟨hadmitted.graph.accepted hroom, rfl⟩) ?_
  refine .seq (checkPlanCaps_yields hadmitted.size hadmitted.revisions hadmitted.owned)
    fun _ t₁ hcaps _ ↦ ?_
  obtain ⟨rfl, -⟩ := checkPlanCaps_ok hcaps
  refine .seq (installPlan_yields hfree) fun v t₂ hinstall _ ↦ ?_
  refine .seq supersedePendingAcceptance_yields fun _ t₃ hsupersede _ ↦ ?_
  have hplans : Writes [.plans, .activePlanMarkers, .tasks] t₁ t₂ := Respects.rel hinstall
  have hdecisions : Writes [.decisions, .gates] t₂ t₃ := Respects.rel hsupersede
  have hsame : Writes [.plans, .activePlanMarkers, .tasks, .decisions, .gates] t₁ t₃ :=
    Preord.trans (hplans.mono (by decide)) (hdecisions.mono (by decide))
  have hspecs : t₁.workUnitSpecs = t₃.workUnitSpecs := (hsame .workUnitSpecs).2 (by decide)
  have hunits : t₁.workUnitExecutions = t₃.workUnitExecutions :=
    (hsame .workUnitExecutions).2 (by decide)
  have hworkspaces : t₁.workspaces = t₃.workspaces := (hsame .workspaces).2 (by decide)
  have hready : ∀ node ∈ r.nodes, NodeInstallable t₃ r.taskId node := fun node hnode ↦
    ⟨hspecs ▸ (hinstallable node hnode).spec, hunits ▸ (hinstallable node hnode).unit,
      hworkspaces ▸ (hinstallable node hnode).workspace⟩
  have hnodup : (r.nodes.map RawNode.workUnitId).Nodup := by
    have hgraph := hadmitted.graph.distinct
    rwa [List.map_map] at hgraph
  refine .seq (alignUnits_yields hnodup hready (hunits ▸ hended)) fun _ t₄ halign _ ↦ ?_
  have haligned : Writes [.workUnitSpecs, .workUnitExecutions, .workspaces, .outbox, .agentRuns,
      .activeExecuteRunMarkers, .activePlanRunMarkers, .plannerSessions] t₃ t₄ :=
    Respects.rel halign
  obtain ⟨-, -, rfl⟩ := installPlan_ok hinstall
  have htasks : (t₁.tasks.modify r.taskId fun task ↦ { task with planVersion := some v }) =
      t₄.tasks := ((hdecisions .tasks).2 (by decide)).trans ((haligned .tasks).2 (by decide))
  have hfound : t₄.tasks.find? r.taskId = some { task with planVersion := some v } := by
    rw [← htasks, Table.find?_modify_self, hadmitted.found]
    rfl
  have hadvances : (Tx.when (task.state = .planning ∨ task.state = .verifying)
      (setTaskState env r.taskId .planActivated none)).Yields t₄ fun _ ↦ True := by
    refine .when fun hstate ↦ ?_
    have hnext : taskTransitions task.state .planActivated = some .executing := by
      rcases hstate with hstate | hstate <;> (rw [hstate]; rfl)
    exact setTaskState_yields hfound hnext
  refine .seq hadvances fun _ t₅ hadvance _ ↦ .seq appendEvent_yields fun _ t₆ hevent _ ↦ ?_
  have hafter : Writes [.tasks, .events] t₄ t₆ :=
    Preord.trans (Respects.rel hadvance) (Respects.rel hevent)
  obtain ⟨task', htask', -⟩ := (hafter .tasks).1 r.taskId _ hfound
  exact .bind (getTask_ok.mpr ⟨htask', rfl⟩) (.pure rfl)

/-! ## Proposals -/

/-- A human may propose a plan for the planner session of a task by the generation of the
session. -/
def MayPropose (s : DB) (task : TaskRow) (generation : Option Nat) : Prop :=
  ∃ sessionId session, task.activePlannerSessionId = some sessionId ∧
    s.plannerSessions.find? sessionId = some session ∧ generation.getD 0 = session.generation

/-- The request of a proposal. -/
def Payload.planRequest (p : Payload) (taskId : String) (nodes : List RawNode) : PlanRequest where
  taskId := taskId
  nodes := nodes
  edges := p.edges
  expectedContractVersion := p.expectedContractVersion
  expectedPlanVersion := p.expectedPlanVersion
  objective := p.objective

/-- A proposal that is accepted comes from who may propose, and is activated. -/
theorem submitPlanProposal_accepted (hnamed : p.taskId = some taskId)
    (hfound : s.tasks.find? taskId = some task) (hhuman : auth.actorType = .human)
    (hkeeps : p.changesAuthorization = false) (hgiven : p.nodes = some nodes)
    (h : submitPlanProposal env auth p s = .ok (result, s')) (hok : result.ok = true) :
    MayPropose s task p.generation ∧
      activatePlan env auth (p.planRequest taskId nodes) s = .ok (result, s') := by
  obtain ⟨_, t₁, hkey, h₁⟩ := Tx.bind_ok.mp h
  obtain ⟨hnamed', rfl⟩ := key_ok.mp hkey
  obtain rfl := Option.some.inj (hnamed.symm.trans hnamed')
  obtain ⟨_, t₂, hget, h₂⟩ := Tx.bind_ok.mp h₁
  obtain ⟨hfound', rfl⟩ := getTask_ok.mp hget
  obtain rfl := Option.some.inj (hfound.symm.trans hfound')
  obtain ⟨sessionId, t₃, hrequire, h₃⟩ := Tx.bind_ok.mp h₂
  obtain ⟨hcurrent, rfl⟩ := Tx.require_ok.mp hrequire
  rw [Tx.get_bind_ok] at h₃
  obtain ⟨session, t₄, hrequire', h₄⟩ := Tx.bind_ok.mp h₃
  obtain ⟨hsession, rfl⟩ := Tx.require_ok.mp hrequire'
  obtain ⟨_, t₅, hcheck, h₅⟩ := Tx.bind_ok.mp h₄
  obtain ⟨-, rfl⟩ := Tx.check_ok.mp hcheck
  rcases Tx.ite_ok.mp h₅ with ⟨-, hstale⟩ | ⟨hgeneration, h₆⟩
  · obtain ⟨_, t₆, -, hpure⟩ := Tx.bind_ok.mp hstale
    obtain ⟨rfl, -⟩ := Tx.pure_ok.mp hpure
    cases hok
  obtain ⟨_, t₆, hbinding, h₇⟩ := Tx.bind_ok.mp h₆
  obtain ⟨hother, -⟩ | ⟨-, rfl⟩ := Tx.when_ok.mp hbinding
  · exact absurd hhuman hother
  rw [if_neg (by rw [hkeeps]; exact Bool.false_ne_true)] at h₇
  obtain ⟨_, t₇, hnodes, h₈⟩ := Tx.bind_ok.mp h₇
  obtain ⟨hgiven', rfl⟩ := key_ok.mp hnodes
  obtain rfl := Option.some.inj (hgiven.symm.trans hgiven')
  exact ⟨⟨sessionId, session, hcurrent, hsession, of_not_not hgeneration⟩, h₈⟩

/-- A proposal of who may propose is activated. -/
theorem submitPlanProposal_eq (hnamed : p.taskId = some taskId)
    (hfound : s.tasks.find? taskId = some task) (howner : auth.principalId = task.principalId)
    (hhuman : auth.actorType = .human) (hkeeps : p.changesAuthorization = false)
    (hgiven : p.nodes = some nodes) (hmay : MayPropose s task p.generation) :
    submitPlanProposal env auth p s = activatePlan env auth (p.planRequest taskId nodes) s := by
  obtain ⟨sessionId, session, hcurrent, hsession, hgeneration⟩ := hmay
  have hbound : (Tx.when (auth.actorType ≠ .human)
      (assertPlanRunBinding auth taskId sessionId session p) : Core Unit) s = .ok ((), s) :=
    Tx.when_ok.mpr (.inr ⟨not_not.mpr hhuman, rfl⟩)
  have howns : assertTaskPrincipal auth task s = .ok ((), s) := Tx.check_ok.mpr ⟨howner, rfl⟩
  rw [submitPlanProposal, Tx.bind_of_ok (key_ok.mpr ⟨hnamed, rfl⟩),
    Tx.bind_of_ok (getTask_ok.mpr ⟨hfound, rfl⟩), Tx.bind_of_ok (Tx.require_ok.mpr ⟨hcurrent, rfl⟩),
    Tx.bind_of_ok (Tx.get_ok.mpr ⟨rfl, rfl⟩), Tx.bind_of_ok (Tx.require_ok.mpr ⟨hsession, rfl⟩),
    Tx.bind_of_ok howns]
  rw [if_neg (not_not.mpr hgeneration), Tx.bind_of_ok hbound,
    if_neg (by rw [hkeeps]; exact Bool.false_ne_true), Tx.bind_of_ok (key_ok.mpr ⟨hgiven, rfl⟩)]
  rfl

/-! ## The graph of a repair -/

/-- An edge has an end at a unit. -/
def RawEdge.Meets (e : RawEdge) (wuId : String) : Prop :=
  e.fromWorkUnitId = wuId ∨ e.toWorkUnitId = wuId

/-- A repair is verified anew. -/
abbrev Payload.Verifies (p : Payload) : Prop := p.includeVerify.getD true = true

/-- The units that a repair adds are not in the plan, where the failed one is. -/
structure RepairIds (p : Payload) (plan : PlanRow) (failedId repairId verifyId : String) :
    Prop where
  failed : ∃ node ∈ plan.nodes, node.workUnitId = failedId
  repair : ∀ node ∈ plan.nodes, node.workUnitId ≠ repairId
  verify : p.Verifies → ∀ node ∈ plan.nodes, node.workUnitId ≠ verifyId
  apart : p.Verifies → repairId ≠ verifyId

/-- The repair. -/
def repairNode (p : Payload) (failedId repairId : String) : RawNode where
  workUnitId := repairId
  specVersion := some 1
  workType := some "REPAIR"
  objective := some (orElse p.objective ("repair after " ++ failedId
    ++ match truthy (p.failedEvidence.map stripText) with
      | some evidence => ": " ++ evidence
      | none => ""))

/-- The new verification. -/
def verifyNode (verifyId : String) : RawNode where
  workUnitId := verifyId
  specVersion := some 1
  workType := some "VERIFY"

/-- The new verification waits for a verdict about what the repair made. -/
def verifyEdge (p : Payload) (repairId verifyId : String) : RawEdge where
  fromWorkUnitId := repairId
  toWorkUnitId := verifyId
  predicate := some .verdictPass
  artifactHash := some (orElse p.artifactHash "repair-target-hash")

/-- The workspaces of the units that a repair adds. -/
theorem repairNode_workspace (p : Payload) (failedId repairId : String) :
    (repairNode p failedId repairId).asRead.workspace = "ws_" ++ repairId :=
  RawNode.asRead_workspace rfl

theorem verifyNode_workspace (verifyId : String) :
    (verifyNode verifyId).asRead.workspace = "ws_" ++ verifyId :=
  RawNode.asRead_workspace rfl

/-- The plan that a repair asks for. -/
def repairRequest (task : TaskRow) (p : Payload) (taskId failedId repairId verifyId : String) :
    PlanRequest :=
  (repairProposal task p failedId repairId verifyId).planRequest taskId
    ((repairProposal task p failedId repairId verifyId).nodes.getD [])

variable {failedId repairId verifyId : String} {plan : PlanRow} {e : RawEdge}

theorem repairRequest_nodes : (repairRequest task p taskId failedId repairId verifyId).nodes =
    p.keepNodes.filter (·.workUnitId ≠ failedId) ++ repairNode p failedId repairId ::
      (if p.Verifies then [verifyNode verifyId] else []) :=
  rfl

theorem repairRequest_edges : (repairRequest task p taskId failedId repairId verifyId).edges =
    p.keepEdges ++ if p.Verifies then [verifyEdge p repairId verifyId] else [] :=
  rfl

theorem mem_repair_nodes : node ∈ (repairRequest task p taskId failedId repairId verifyId).nodes ↔
    (node ∈ p.keepNodes ∧ node.workUnitId ≠ failedId) ∨ node = repairNode p failedId repairId ∨
      p.Verifies ∧ node = verifyNode verifyId := by
  rw [repairRequest_nodes, List.mem_append, List.mem_filter, List.mem_cons, decide_eq_true_iff,
    List.mem_ite_nil_right, List.mem_singleton]

theorem mem_repair_edges : e ∈ (repairRequest task p taskId failedId repairId verifyId).edges ↔
    e ∈ p.keepEdges ∨ p.Verifies ∧ e = verifyEdge p repairId verifyId := by
  rw [repairRequest_edges, List.mem_append, List.mem_ite_nil_right, List.mem_singleton]

theorem verifyEdge_pinned (p : Payload) (repairId verifyId : String) :
    ∃ hash, (verifyEdge p repairId verifyId).artifactHash = some hash ∧ hash ≠ "" := by
  refine ⟨_, rfl, ?_⟩
  rw [orElse]
  cases hhash : p.artifactHash.filter (· ≠ "") with
  | none => decide
  | some hash => simpa using (Option.filter_eq_some_iff.mp hhash).2

/-- The nodes of a repair are named apart. -/
theorem repair_distinct (hnodup : (plan.nodes.map RawNode.workUnitId).Nodup)
    (hids : RepairIds p plan failedId repairId verifyId) (hnodes : p.keepNodes = plan.nodes) :
    ((repairRequest task p taskId failedId repairId verifyId).nodes.map
      RawNode.workUnitId).Nodup := by
  rw [repairRequest_nodes, hnodes, List.map_append, List.nodup_append]
  refine ⟨hnodup.sublist (List.Sublist.map _ List.filter_sublist), ?_, ?_⟩
  · split
    · next h => simpa [repairNode, verifyNode] using hids.apart h
    · exact List.nodup_singleton _
  · intro a ha b hb
    obtain ⟨n, hn, rfl⟩ := List.mem_map.mp ha
    have hplan := (List.mem_filter.mp hn).1
    rintro rfl
    obtain ⟨b, hb, hsame⟩ := List.mem_map.mp hb
    rcases List.mem_cons.mp hb with rfl | hb
    · exact hids.repair n hplan hsame.symm
    · split at hb
      · next h =>
        obtain rfl := List.mem_singleton.mp hb
        exact hids.verify h n hplan hsame.symm
      · cases hb

/-- The graph of a repair is that of a plan, if the plan has no edge at the failed unit. -/
theorem repair_graph (hgraph : WellFormedGraph (plan.nodes.map RawNode.toPlanNode)
      (plan.edges.map RawEdge.toPlanEdge))
    (hids : RepairIds p plan failedId repairId verifyId) (hnodes : p.keepNodes = plan.nodes)
    (hedges : p.keepEdges = plan.edges) (hclear : ∀ e ∈ plan.edges, ¬e.Meets failedId) :
    WellFormedGraph
      ((repairRequest task p taskId failedId repairId verifyId).nodes.map RawNode.toPlanNode)
      ((repairRequest task p taskId failedId repairId verifyId).edges.map RawEdge.toPlanEdge) := by
  have hrepair : repairNode p failedId repairId ∈
      (repairRequest task p taskId failedId repairId verifyId).nodes :=
    mem_repair_nodes.mpr (.inr (.inl rfl))
  have hkept {wuId : String} (hne : wuId ≠ failedId)
      (h : ∃ n ∈ plan.nodes.map RawNode.toPlanNode, n.workUnitId = wuId) :
      ∃ n ∈ (repairRequest task p taskId failedId repairId verifyId).nodes.map RawNode.toPlanNode,
        n.workUnitId = wuId := by
    obtain ⟨_, hmem, rfl⟩ := h
    obtain ⟨n, hn, rfl⟩ := List.mem_map.mp hmem
    exact ⟨_, List.mem_map_of_mem (mem_repair_nodes.mpr (.inl ⟨hnodes ▸ hn, hne⟩)), rfl⟩
  have htarget {e : RawEdge} (he : e ∈ plan.edges) : e.toWorkUnitId ≠ repairId := by
    intro hto
    obtain ⟨_, hmem, hname⟩ := (hgraph.edge _ (List.mem_map_of_mem he)).target
    obtain ⟨n, hn, rfl⟩ := List.mem_map.mp hmem
    exact hids.repair n hn (hname.trans hto)
  refine ⟨List.ne_nil_of_mem (List.mem_map_of_mem hrepair), ?_, fun _ hmem ↦ ?_, ?_⟩
  · have hdistinct := hgraph.distinct
    rw [List.map_map] at hdistinct ⊢
    exact repair_distinct hdistinct hids hnodes
  · obtain ⟨e, he, rfl⟩ := List.mem_map.mp hmem
    rcases mem_repair_edges.mp he with hkeep | ⟨hverifies, rfl⟩
    · rw [hedges] at hkeep
      obtain ⟨hsource, htarget, hpinned⟩ := hgraph.edge _ (List.mem_map_of_mem hkeep)
      have hends := not_or.mp (hclear e hkeep)
      exact ⟨hkept hends.1 hsource, hkept hends.2 htarget, hpinned⟩
    · have hverify : verifyNode verifyId ∈
          (repairRequest task p taskId failedId repairId verifyId).nodes :=
        mem_repair_nodes.mpr (.inr (.inr ⟨hverifies, rfl⟩))
      exact ⟨⟨_, List.mem_map_of_mem hrepair, rfl⟩, ⟨_, List.mem_map_of_mem hverify, rfl⟩,
        fun _ ↦ verifyEdge_pinned p repairId verifyId⟩
  · -- what is added leads out of the repair, into which nothing leads
    refine transGen_of_source (a := repairId) ?_ ?_ hgraph.acyclic
    · rintro u ⟨_, hmem, -, hto⟩
      obtain ⟨e, he, rfl⟩ := List.mem_map.mp hmem
      rcases mem_repair_edges.mp he with hkeep | ⟨hverifies, rfl⟩
      · exact htarget (hedges ▸ hkeep) hto
      · exact hids.apart hverifies hto.symm
    · rintro u v hu ⟨_, hmem, hfrom, hto⟩
      obtain ⟨e, he, rfl⟩ := List.mem_map.mp hmem
      rcases mem_repair_edges.mp he with hkeep | ⟨-, rfl⟩
      · exact ⟨_, List.mem_map_of_mem (hedges ▸ hkeep), hfrom, hto⟩
      · exact absurd hfrom.symm hu

/-- A repair that keeps an edge at the failed unit, which it leaves out, is no graph. -/
theorem repair_clear (hgraph : WellFormedGraph
      ((repairRequest task p taskId failedId repairId verifyId).nodes.map RawNode.toPlanNode)
      ((repairRequest task p taskId failedId repairId verifyId).edges.map RawEdge.toPlanEdge))
    (hids : RepairIds p plan failedId repairId verifyId) :
    ∀ e ∈ (repairRequest task p taskId failedId repairId verifyId).edges, ¬e.Meets failedId := by
  have hgone {wuId : String} (h : ∃ n ∈
      (repairRequest task p taskId failedId repairId verifyId).nodes.map RawNode.toPlanNode,
      n.workUnitId = wuId) : wuId ≠ failedId := by
    obtain ⟨_, hmem, rfl⟩ := h
    obtain ⟨n, hn, rfl⟩ := List.mem_map.mp hmem
    obtain ⟨failed, hfailed, hname⟩ := hids.failed
    rcases mem_repair_nodes.mp hn with ⟨-, hne⟩ | rfl | ⟨hverifies, rfl⟩
    · exact hne
    · exact fun hsame ↦ hids.repair failed hfailed (hname.trans hsame.symm)
    · exact fun hsame ↦ hids.verify hverifies failed hfailed (hname.trans hsame.symm)
  intro e he hmeets
  obtain ⟨hsource, htarget, -⟩ := hgraph.edge _ (List.mem_map_of_mem he)
  rcases hmeets with hfrom | hto
  · exact hgone hsource hfrom
  · exact hgone htarget hto

/-! ## Requests for a repair -/

/-- A human asks for a repair of a task of its principal: the payload names a verification of the
ACTIVE plan that is DONE with a FAIL, keeps the nodes and the edges of that plan, gives unused names
to its own units, and leaves the plan within its limits. -/
structure RepairAsked (env : Env) (auth : AuthContext) (p : Payload) (s : DB)
    (taskId failedId repairId verifyId : String) (task : TaskRow) (v : Nat) (plan : PlanRow) :
    Prop where
  named : p.taskId = some taskId
  found : s.tasks.find? taskId = some task
  human : auth.actorType = .human
  owner : auth.principalId = task.principalId
  marker : s.activePlanMarkers.find? taskId = some ⟨v⟩
  stored : s.plans.find? (taskId, v) = some plan
  failed : p.failedVerifyWorkUnitId = some failedId
  verification : ∃ node ∈ plan.nodes, node.workUnitId = failedId ∧
    node.toPlanNode.workType = "VERIFY"
  unit : ∃ u, s.workUnitExecutions.find? failedId = some u ∧ u.status = .done ∧
    u.selectedVerdict = some .fail
  keepNodes : p.keepNodes = plan.nodes
  keepEdges : p.keepEdges = plan.edges
  repairName : repairId = (truthy p.repairWorkUnitId).getD ("wu_" ++ env.uuid s.drawn)
  verifyName : verifyId = (truthy p.newVerifyWorkUnitId).getD ("wu_" ++ env.uuid (s.drawn + 1))
  repairFresh : s.workUnitExecutions.find? repairId = none
  verifyFresh : p.Verifies → s.workUnitExecutions.find? verifyId = none ∧ repairId ≠ verifyId
  size : (repairRequest task p taskId failedId repairId verifyId).nodes.length ≤
    Defaults.maxWorkUnitsPerTask
  revisions : (s.plans.select fun k _ ↦ k.1 == taskId).length < Defaults.maxPlanRevisions

/-- A hash that is registered for a task, and no placeholder. -/
def Registered (s : DB) (taskId hash : String) : Prop :=
  hash ≠ "repair-target-hash" ∧ ∃ row, s.artifacts.find? (taskId, hash) = some row

/-- An edge that waits for a verdict names a registered hash. -/
def RawEdge.Pinned (e : RawEdge) (s : DB) (taskId : String) : Prop :=
  e.predicate = some .verdictPass → ∃ hash, e.artifactHash = some hash ∧ Registered s taskId hash

/-- A workspace that is free, or of a task. -/
def WorkspaceOf (s : DB) (taskId wsId : String) : Prop :=
  ∀ ws, s.workspaces.find? wsId = some ws → ws.taskId = taskId

/-- A plan revises another around a unit that failed. -/
structure Revision (s : DB) (taskId failedId : String) (plan plan' : PlanRow) : Prop where
  others : ∀ node ∈ plan.nodes, node.workUnitId ≠ failedId → node ∈ plan'.nodes
  gone : ∀ e ∈ plan'.edges, ¬e.Meets failedId
  edges : ∀ e ∈ plan.edges, ¬e.Meets failedId → e ∈ plan'.edges
  pinned : ∀ e ∈ plan'.edges, e.Pinned s taskId

/-- The next plan of the task is ACTIVE and revises the one before it. -/
def Revised (s : DB) (taskId failedId : String) (v : Nat) (plan : PlanRow) : Prop :=
  s.activePlanMarkers.find? taskId = some ⟨v + 1⟩ ∧ ∃ plan',
    s.plans.find? (taskId, v + 1) = some plan' ∧ Revision s taskId failedId plan plan'

/-- The plan has no edge at the failed unit and pins what it keeps, the request pins what it adds
and names the generation of the planner session if it names one, and the workspaces of the new units
are not those of another task. -/
structure Repairable (p : Payload) (s : DB) (taskId failedId repairId verifyId : String)
    (task : TaskRow) (plan : PlanRow) : Prop where
  clear : ∀ e ∈ plan.edges, ¬e.Meets failedId
  kept : ∀ e ∈ plan.edges, e.Pinned s taskId
  target : p.Verifies → ∃ hash, truthy p.artifactHash = some hash ∧ Registered s taskId hash
  planner : (truthy task.activePlannerSessionId).isSome ∧ p.generation.isSome →
    MayPropose s task p.generation
  repairWorkspace : WorkspaceOf s taskId ("ws_" ++ repairId)
  verifyWorkspace : p.Verifies → WorkspaceOf s taskId ("ws_" ++ verifyId)

variable {v : Nat}

theorem verifyEdge_pinned_iff : (verifyEdge p repairId verifyId).Pinned s taskId ↔
    ∃ hash, truthy p.artifactHash = some hash ∧ Registered s taskId hash := by
  have hpins : (verifyEdge p repairId verifyId).Pinned s taskId ↔
      Registered s taskId (orElse p.artifactHash "repair-target-hash") := by
    refine ⟨fun h ↦ ?_, fun h _ ↦ ⟨_, rfl, h⟩⟩
    obtain ⟨hash, hhash, hregistered⟩ := h rfl
    obtain rfl := Option.some.inj hhash
    exact hregistered
  rw [hpins, orElse, truthy]
  cases p.artifactHash.filter (· ≠ "") with
  | none =>
    refine iff_of_false (fun h ↦ h.1 rfl) ?_
    rintro ⟨_, ⟨⟩, -⟩
  | some hash =>
    refine ⟨fun h ↦ ⟨hash, rfl, h⟩, ?_⟩
    rintro ⟨_, ⟨⟩, h⟩
    exact h

namespace RepairAsked

theorem ids (h : RepairAsked env auth p s taskId failedId repairId verifyId task v plan)
    (hinv : AlignInv s) : RepairIds p plan failedId repairId verifyId where
  failed := h.verification.imp fun _ hnode ↦ ⟨hnode.1, hnode.2.1⟩
  repair node hnode hsame := by
    obtain ⟨u, hu, -⟩ := (hinv.aligned taskId v plan h.marker h.stored node hnode).unit
    rw [hsame, h.repairFresh] at hu
    cases hu
  verify hverifies node hnode hsame := by
    obtain ⟨u, hu, -⟩ := (hinv.aligned taskId v plan h.marker h.stored node hnode).unit
    rw [hsame, (h.verifyFresh hverifies).1] at hu
    cases hu
  apart hverifies := (h.verifyFresh hverifies).2

/-- A request for a repair is a proposal for the planner session of the task, if it names a
generation, and an activation otherwise. -/
theorem requestRepairPlan_eq
    (h : RepairAsked env auth p s taskId failedId repairId verifyId task v plan)
    (hinv : AlignInv s) : requestRepairPlan env auth p s =
      (if (truthy task.activePlannerSessionId).isSome ∧ p.generation.isSome then
        submitPlanProposal env auth
          { repairProposal task p failedId repairId verifyId with taskId := some taskId }
      else activatePlan env auth (repairRequest task p taskId failedId repairId verifyId))
        { s with drawn := s.drawn + 2 } := by
  obtain ⟨node, hnode, hname, -⟩ := h.verification
  obtain ⟨u, hu, hdone, hverdict⟩ := h.unit
  obtain ⟨u', hu', howner, -⟩ := (hinv.aligned taskId v plan h.marker h.stored node hnode).unit
  rw [hname, hu] at hu'
  obtain rfl := Option.some.inj hu'
  have howns : assertTaskPrincipal auth task s = .ok ((), s) := Tx.check_ok.mpr ⟨h.owner, rfl⟩
  have hfails : (s.workUnitExecutions.find? failedId).filter (·.taskId == taskId) = some u :=
    Option.filter_eq_some_iff.mpr ⟨hu, beq_iff_eq.mpr howner⟩
  have hrepair : newId env "wu" s =
      .ok ("wu_" ++ env.uuid s.drawn, { s with drawn := s.drawn + 1 }) := rfl
  have hverify : newId env "wu" { s with drawn := s.drawn + 1 } =
      .ok ("wu_" ++ env.uuid (s.drawn + 1), { s with drawn := s.drawn + 2 }) := rfl
  rw [requestRepairPlan, Tx.bind_of_ok (key_ok.mpr ⟨h.named, rfl⟩),
    Tx.bind_of_ok (getTask_ok.mpr ⟨h.found, rfl⟩), Tx.bind_of_ok howns,
    Tx.bind_of_ok (key_ok.mpr ⟨h.failed, rfl⟩), Tx.bind_of_ok (Tx.get_ok.mpr ⟨rfl, rfl⟩),
    Tx.bind_of_ok (Tx.require_ok.mpr ⟨hfails, rfl⟩),
    Tx.bind_of_ok (a := ()) (Tx.check_ok.mpr ⟨hverdict, rfl⟩), Tx.bind_of_ok hrepair,
    Tx.bind_of_ok hverify, ← h.repairName, ← h.verifyName]
  rfl

/-- A request that is accepted comes from who may ask, and is activated. -/
theorem activated (h : RepairAsked env auth p s taskId failedId repairId verifyId task v plan)
    (hinv : AlignInv s) (hrun : requestRepairPlan env auth p s = .ok (result, s'))
    (hok : result.ok = true) :
    ((truthy task.activePlannerSessionId).isSome ∧ p.generation.isSome →
        MayPropose s task p.generation) ∧
      activatePlan env auth (repairRequest task p taskId failedId repairId verifyId)
        { s with drawn := s.drawn + 2 } = .ok (result, s') := by
  rw [h.requestRepairPlan_eq hinv] at hrun
  by_cases hplanner : (truthy task.activePlannerSessionId).isSome ∧ p.generation.isSome
  · rw [if_pos hplanner] at hrun
    have hfound : ({ s with drawn := s.drawn + 2 } : DB).tasks.find? taskId = some task := h.found
    obtain ⟨hmay, hactivate⟩ := submitPlanProposal_accepted rfl hfound h.human rfl rfl hrun hok
    exact ⟨fun _ ↦ hmay, hactivate⟩
  · rw [if_neg hplanner] at hrun
    exact ⟨fun hasked ↦ absurd hasked hplanner, hrun⟩

/-- The request of who may ask is activated. -/
theorem requestRepairPlan_activates
    (h : RepairAsked env auth p s taskId failedId repairId verifyId task v plan)
    (hinv : AlignInv s) (hmay : (truthy task.activePlannerSessionId).isSome ∧ p.generation.isSome →
      MayPropose s task p.generation) :
    requestRepairPlan env auth p s =
      activatePlan env auth (repairRequest task p taskId failedId repairId verifyId)
        { s with drawn := s.drawn + 2 } := by
  rw [h.requestRepairPlan_eq hinv]
  split
  · next hplanner =>
    have hfound : ({ s with drawn := s.drawn + 2 } : DB).tasks.find? taskId = some task := h.found
    exact submitPlanProposal_eq rfl hfound h.owner h.human rfl rfl (hmay hplanner)
  · rfl

/-- The units that the nodes of a repair name are of the task, and bound to the version of the
node. -/
theorem units (h : RepairAsked env auth p s taskId failedId repairId verifyId task v plan)
    (hinv : AlignInv s)
    (hnode : node ∈ (repairRequest task p taskId failedId repairId verifyId).nodes)
    {u : WorkUnitExecutionRow} (hu : s.workUnitExecutions.find? node.workUnitId = some u) :
    u.taskId = taskId ∧ u.specVersion = node.version := by
  rcases mem_repair_nodes.mp hnode with ⟨hkept, -⟩ | rfl | ⟨hverifies, rfl⟩
  · rw [h.keepNodes] at hkept
    obtain ⟨u', hu', hunit⟩ := (hinv.aligned taskId v plan h.marker h.stored node hkept).unit
    obtain rfl := Option.some.inj (hu.symm.trans hu')
    exact hunit
  · exact absurd (h.repairFresh.symm.trans hu) nofun
  · exact absurd ((h.verifyFresh hverifies).1.symm.trans hu) nofun

/-- The definitions that the nodes of a repair name are of the task. -/
theorem specs (h : RepairAsked env auth p s taskId failedId repairId verifyId task v plan)
    (hinv : AlignInv s)
    (hnode : node ∈ (repairRequest task p taskId failedId repairId verifyId).nodes) {version : Nat}
    {spec : WorkUnitSpecRow}
    (hspec : s.workUnitSpecs.find? (node.workUnitId, version) = some spec) :
    spec.taskId = taskId := by
  obtain ⟨u, hu, howner⟩ := hinv.specs _ spec hspec
  exact howner.symm.trans (h.units hinv hnode hu).1

theorem installable (h : RepairAsked env auth p s taskId failedId repairId verifyId task v plan)
    (hinv : AlignInv s)
    (hrepairable : Repairable p s taskId failedId repairId verifyId task plan)
    (hnode : node ∈ (repairRequest task p taskId failedId repairId verifyId).nodes) :
    NodeInstallable s taskId node where
  spec _ hspec := h.specs hinv hnode hspec
  unit _ hu := (h.units hinv hnode hu).2
  workspace ws hws := by
    rcases mem_repair_nodes.mp hnode with ⟨hkept, -⟩ | rfl | ⟨hverifies, rfl⟩
    · rw [h.keepNodes] at hkept
      obtain ⟨ws', hws', howner⟩ :=
        (hinv.aligned taskId v plan h.marker h.stored node hkept).workspace
      obtain rfl := Option.some.inj (hws.symm.trans hws')
      exact howner
    · rw [repairNode_workspace] at hws
      exact hrepairable.repairWorkspace ws hws
    · rw [verifyNode_workspace] at hws
      exact hrepairable.verifyWorkspace hverifies ws hws

/-- What is left out of a repair has ended: it is the failed unit, or was left out before. -/
theorem ended (h : RepairAsked env auth p s taskId failedId repairId verifyId task v plan)
    (hinv : AlignInv s) {u : WorkUnitExecutionRow}
    (hu : s.workUnitExecutions.find? wuId = some u) (howner : u.taskId = taskId)
    (hoff : ∀ node ∈ (repairRequest task p taskId failedId repairId verifyId).nodes,
      node.workUnitId ≠ wuId) : u.status.isTerminal = true := by
  by_cases hfailed : wuId = failedId
  · obtain ⟨u', hu', hdone, -⟩ := h.unit
    rw [hfailed] at hu
    obtain rfl := Option.some.inj (hu.symm.trans hu')
    rw [hdone]
    rfl
  · refine hinv.ended wuId u hu ⟨v, plan, howner ▸ h.marker, howner ▸ h.stored, ?_⟩
    intro node hnode hname
    refine hoff node (mem_repair_nodes.mpr (.inl ⟨h.keepNodes ▸ hnode, ?_⟩)) hname
    rwa [hname]

/-- A repair that is possible is admitted. -/
theorem admitted (h : RepairAsked env auth p s taskId failedId repairId verifyId task v plan)
    (hinv : AlignInv s) (hcontracts : ContractInv s)
    (hclear : ∀ e ∈ plan.edges, ¬e.Meets failedId) :
    ∃ version contract, PlanAdmitted auth s
      (repairRequest task p taskId failedId repairId verifyId) task version contract := by
  obtain ⟨version, hmarker⟩ := hinv.contract taskId v h.marker
  obtain ⟨contract, hcontract, -⟩ := hcontracts.active hmarker
  have hversion : task.contractVersion = some version := by
    rw [hcontracts.version h.found, hmarker]
    rfl
  have hgraph : WellFormedGraph
      ((repairRequest task p taskId failedId repairId verifyId).nodes.map RawNode.toPlanNode)
      ((repairRequest task p taskId failedId repairId verifyId).edges.map RawEdge.toPlanEdge) :=
    repair_graph (hinv.graph _ plan h.stored) (h.ids hinv) h.keepNodes h.keepEdges hclear
  refine ⟨version, contract, h.found, h.owner, hmarker, hcontract, ?_, ?_,
    hgraph, h.size, h.revisions, fun node hnode ↦ ⟨?_, ?_⟩⟩
  · change task.contractVersion.all (· = version) = true
    rw [hversion]
    exact decide_eq_true rfl
  · intro e current he hcurrent
    change task.planVersion.map Int.ofNat = some e at he
    rw [hcurrent] at he
    exact (Option.some.inj he).symm
  · rw [List.eq_nil_iff_forall_not_mem]
    rintro ⟨⟨wuId, version⟩, spec⟩ hmem
    obtain ⟨hspec, hother⟩ := Table.mem_select.mp hmem
    simp only [Bool.and_eq_true, beq_iff_eq, bne_iff_ne] at hother
    obtain ⟨rfl, hother⟩ := hother
    exact hother (h.specs hinv hnode hspec)
  · rw [Option.all_eq_true]
    intro u hu
    exact decide_eq_true (h.units hinv hnode hu).1

end RepairAsked

/-- The next version of the plan of a task is free. -/
theorem PlanInv.free (hinv : PlanInv s) (hfound : s.tasks.find? taskId = some task) :
    (s.retirePlan taskId).plans.find? (taskId, task.planVersion.getD 0 + 1) = none := by
  rw [Option.eq_none_iff_forall_ne_some]
  intro plan' hplan'
  obtain ⟨plan, hplan, -⟩ := DB.retirePlan_plans hplan'
  exact absurd (hinv.older hfound hplan) (Nat.lt_irrefl _)

/-- A repair that is possible is accepted. -/
theorem RepairAsked.yields
    (h : RepairAsked env auth p s taskId failedId repairId verifyId task v plan)
    (hinv : AlignInv s) (hcontracts : ContractInv s) (hplans : PlanInv s)
    (hrepairable : Repairable p s taskId failedId repairId verifyId task plan) :
    (requestRepairPlan env auth p).Yields s (·.ok = true) := by
  obtain ⟨version, contract, hadmitted⟩ := h.admitted hinv hcontracts hrepairable.clear
  have hdrawn : PlanAdmitted auth { s with drawn := s.drawn + 2 }
      (repairRequest task p taskId failedId repairId verifyId) task version contract :=
    ⟨hadmitted.found, hadmitted.owner, hadmitted.marker, hadmitted.contract,
      hadmitted.contractVersion, hadmitted.planVersion, hadmitted.graph, hadmitted.size,
      hadmitted.revisions, hadmitted.owned⟩
  have hplans' : PlanInv { s with drawn := s.drawn + 2 } :=
    ⟨hplans.marked, hplans.active, hplans.version, hplans.bounded⟩
  have hinstallable {node : RawNode}
      (hnode : node ∈ (repairRequest task p taskId failedId repairId verifyId).nodes) :
      NodeInstallable { s with drawn := s.drawn + 2 } taskId node :=
    have hnode := h.installable hinv hrepairable hnode
    ⟨hnode.spec, hnode.unit, hnode.workspace⟩
  have hactivates : (activatePlan env auth
      (repairRequest task p taskId failedId repairId verifyId)).Yields
        { s with drawn := s.drawn + 2 } (·.ok = true) :=
    activatePlan_yields hdrawn (hplans'.free hdrawn.found) (fun _ hnode ↦ hinstallable hnode)
      fun _ _ hu howner hoff ↦ h.ended hinv hu howner hoff
  obtain ⟨result, s', hrun, hok⟩ := hactivates
  exact ⟨result, s', (h.requestRepairPlan_activates hinv hrepairable.planner).trans hrun, hok⟩

theorem activatePlan_artifacts (h : activatePlan env auth r s = .ok (result, s')) :
    s'.artifacts = s.artifacts := by
  have hwrites : Writes [.plans, .activePlanMarkers, .tasks, .decisions, .gates, .workUnitSpecs,
      .workUnitExecutions, .workspaces, .outbox, .agentRuns, .activeExecuteRunMarkers,
      .activePlanRunMarkers, .plannerSessions, .events] s s' := Respects.rel h
  exact ((hwrites .artifacts).2 (by decide)).symm

theorem RawEdge.Pinned.of_artifacts (h : e.Pinned s taskId) (hsame : s'.artifacts = s.artifacts) :
    e.Pinned s' taskId := by
  intro hpass
  obtain ⟨hash, hhash, hreal, hregistered⟩ := h hpass
  exact ⟨hash, hhash, hreal, hsame ▸ hregistered⟩

/-- What an accepted request for a repair did. -/
theorem RepairAsked.installs
    (h : RepairAsked env auth p s taskId failedId repairId verifyId task v plan)
    (hinv : AlignInv s) (hrun : requestRepairPlan env auth p s = .ok (result, s'))
    (hok : result.ok = true) :
    s'.artifacts = s.artifacts ∧ ∃ version contract,
      InstallsPlan env auth p .requestRepairPlan s s'
        (repairRequest task p taskId failedId repairId verifyId) task version contract := by
  obtain ⟨-, hactivate⟩ := h.activated hinv hrun hok
  obtain ⟨u, hu, -, hverdict⟩ := h.unit
  have hasks : Asks auth p { s with drawn := s.drawn + 2 } .requestRepairPlan
      (repairRequest task p taskId failedId repairId verifyId) :=
    .repair h.named h.found h.failed hu hverdict
  obtain ⟨task', version, contract, hinstall⟩ := InstallsPlan.of_activatePlan hasks hactivate
  obtain rfl := Option.some.inj (h.found.symm.trans hinstall.admitted.found)
  have hartifacts : s'.artifacts = ({ s with drawn := s.drawn + 2 } : DB).artifacts :=
    activatePlan_artifacts hactivate
  exact ⟨hartifacts, version, contract, hinstall.of_drawn⟩

/-- A request that keeps an edge at the failed unit is not accepted. -/
theorem RepairAsked.clear_of_accepted
    (h : RepairAsked env auth p s taskId failedId repairId verifyId task v plan)
    (hinv : AlignInv s) (hrun : requestRepairPlan env auth p s = .ok (result, s'))
    (hok : result.ok = true) (he : e ∈ plan.edges) : ¬e.Meets failedId := by
  obtain ⟨-, version, contract, hinstall⟩ := h.installs hinv hrun hok
  exact repair_clear hinstall.admitted.graph (h.ids hinv) e
    (mem_repair_edges.mpr (.inl (h.keepEdges ▸ he)))

theorem Revision.of_artifacts {plan' : PlanRow} (h : Revision s taskId failedId plan plan')
    (hsame : s'.artifacts = s.artifacts) : Revision s' taskId failedId plan plan' :=
  ⟨h.others, h.gone, h.edges, fun e he ↦ (h.pinned e he).of_artifacts hsame⟩

/-- The plan that a possible repair asks for revises the one before it. -/
theorem RepairAsked.revises {version : Nat}
    (h : RepairAsked env auth p s taskId failedId repairId verifyId task v plan)
    (hinv : AlignInv s)
    (hrepairable : Repairable p s taskId failedId repairId verifyId task plan)
    (hgraph : WellFormedGraph
      ((repairRequest task p taskId failedId repairId verifyId).nodes.map RawNode.toPlanNode)
      ((repairRequest task p taskId failedId repairId verifyId).edges.map RawEdge.toPlanEdge)) :
    Revision s taskId failedId plan (newPlan env task version
      (repairRequest task p taskId failedId repairId verifyId).nodes
      (repairRequest task p taskId failedId repairId verifyId).edges) where
  others node hnode hne := by
    have hnew : node ∈ (repairRequest task p taskId failedId repairId verifyId).nodes :=
      mem_repair_nodes.mpr (.inl ⟨h.keepNodes ▸ hnode, hne⟩)
    exact hnew
  gone := repair_clear hgraph (h.ids hinv)
  edges e he _ := by
    have hnew : e ∈ (repairRequest task p taskId failedId repairId verifyId).edges :=
      mem_repair_edges.mpr (.inl (h.keepEdges ▸ he))
    exact hnew
  pinned e he := by
    have hnew : e ∈ (repairRequest task p taskId failedId repairId verifyId).edges := he
    rcases mem_repair_edges.mp hnew with hkeep | ⟨hverifies, rfl⟩
    · exact hrepairable.kept e (h.keepEdges ▸ hkeep)
    · exact verifyEdge_pinned_iff.mpr (hrepairable.target hverifies)

/-- A repair is accepted, and its plan revises the one before it, if and only if it is possible. -/
theorem RepairAsked.repairs_iff
    (h : RepairAsked env auth p s taskId failedId repairId verifyId task v plan)
    (hinv : AlignInv s) (hcontracts : ContractInv s) (hplans : PlanInv s) :
    (∃ result s', requestRepairPlan env auth p s = .ok (result, s') ∧ result.ok = true ∧
        Revised s' taskId failedId v plan) ↔
      Repairable p s taskId failedId repairId verifyId task plan := by
  have hversion : task.planVersion.getD 0 + 1 = v + 1 := by
    rw [hplans.version h.found, h.marker]
    rfl
  constructor
  · rintro ⟨result, s', hrun, hok, hmarker, plan', hplan', hrevision⟩
    obtain ⟨hartifacts, version, contract, hinstall⟩ := h.installs hinv hrun hok
    have hnew := hinstall.installed
    rw [hversion] at hnew
    obtain rfl := Option.some.inj (hplan'.symm.trans hnew)
    have hpinned {e : RawEdge}
        (he : e ∈ (repairRequest task p taskId failedId repairId verifyId).edges) :
        e.Pinned s taskId :=
      (hrevision.pinned e he).of_artifacts hartifacts.symm
    have hworkspace {node : RawNode}
        (hnode : node ∈ (repairRequest task p taskId failedId repairId verifyId).nodes) :
        WorkspaceOf s taskId node.asRead.workspace := by
      intro ws hws
      obtain ⟨ws', hws', howner⟩ := (hinstall.aligned.1 node hnode).workspace
      have hpersist : Persists s s' := Respects.rel hrun
      obtain ⟨ws'', hws'', hsame⟩ := (hpersist .workspaces).1 _ ws hws
      obtain rfl := Option.some.inj (hws'.symm.trans hws'')
      exact (congrArg Prod.fst hsame).symm.trans howner
    refine ⟨fun e he ↦ h.clear_of_accepted hinv hrun hok he, fun e he ↦ ?_, fun hverifies ↦ ?_,
      (h.activated hinv hrun hok).1, ?_, fun hverifies ↦ ?_⟩
    · exact hpinned (mem_repair_edges.mpr (.inl (h.keepEdges ▸ he)))
    · exact verifyEdge_pinned_iff.mp (hpinned (mem_repair_edges.mpr (.inr ⟨hverifies, rfl⟩)))
    · exact repairNode_workspace p failedId repairId ▸
        hworkspace (mem_repair_nodes.mpr (.inr (.inl rfl)))
    · exact verifyNode_workspace verifyId ▸
        hworkspace (mem_repair_nodes.mpr (.inr (.inr ⟨hverifies, rfl⟩)))
  · intro hrepairable
    obtain ⟨result, s', hrun, hok⟩ := h.yields hinv hcontracts hplans hrepairable
    obtain ⟨hartifacts, version, contract, hinstall⟩ := h.installs hinv hrun hok
    have hnew := hinstall.installed
    rw [hversion] at hnew
    refine ⟨result, s', hrun, hok, ?_, _, hnew, ?_⟩
    · rw [hinstall.rest.markers, DB.setPlan_markers, hversion]
      exact if_pos rfl
    · exact (h.revises hinv hrepairable hinstall.admitted.graph).of_artifacts hartifacts

/-! ## The command -/

/-- The command of a repair: it is new, and its handler is asked for the repair. -/
structure RepairRequested (env : Env) (q : Request) (s : DB)
    (taskId failedId repairId verifyId : String) (task : TaskRow) (v : Nat) (plan : PlanRow) :
    Prop where
  operation : q.operation = .requestRepairPlan
  unanswered : Unanswered env q taskId s
  asked : RepairAsked env q.auth q.payload (q.start s) taskId failedId repairId verifyId task v plan

/-- The command is accepted, and the next plan of the task revises the one before it. -/
def Repairs (env : Env) (q : Request) (s : DB) (taskId failedId : String) (v : Nat)
    (plan : PlanRow) : Prop :=
  ∃ result s', execute env q s = .ok (result, s') ∧ result.ok = true ∧
    Revised s' taskId failedId v plan

/-- The tasks that are new have a name. -/
abbrev TasksNamed : DB → DB → Prop := Arrivals Refs.tasks fun k _ ↦ k ≠ ""

instance createTask_named : Respects TasksNamed (createTask env auth p) where
  rel {s _ s'} h := by
    obtain ⟨drawn, t, hid, hrest⟩ := Tx.bind_ok.mp h
    obtain ⟨rfl, rfl⟩ := newId_ok.mp hid
    have hdrawn : TasksNamed s { s with drawn := s.drawn + 1 } := Frame.still (writes_drawn _ _)
    rw [Tx.get_bind_ok] at hrest
    obtain ⟨_, t₁, hcheck, h₁⟩ := Tx.bind_ok.mp hrest
    obtain ⟨-, rfl⟩ := Tx.check_ok.mp hcheck
    obtain ⟨_, t₂, hadd, h₂⟩ := Tx.bind_ok.mp h₁
    have hrecords : TasksNamed t₂ s' := Respects.rel h₂
    refine Preord.trans hdrawn (Preord.trans ((Arrivals.insert ?_).rel hadd) hrecords)
    cases hgiven : truthy p.taskId with
    | none => simp
    | some taskId => exact (truthy_eq_some.mp hgiven).2

theorem step_tasksNamed (hstep : system.step w l = some w') : TasksNamed w.db w'.db := by
  cases l
  case command env q =>
    rcases step_command hstep with hrecords | ⟨u, u', result, hran, hrecords⟩
    · exact .of_read ((hrecords .tasks).2 (by decide))
    obtain ⟨n, rfl⟩ := hran.start
    have hdrawn : TasksNamed w.db { w.db with drawn := n } := Frame.still (writes_drawn _ _)
    have hhandler : Respects TasksNamed (handler env q.auth q.payload q.operation) := by
      cases q.operation <;> (dsimp only [handler]; infer_instance)
    exact Preord.trans hdrawn (Preord.trans (hhandler.rel hran.run)
      (.of_read ((hrecords .tasks).2 (by decide))))
  all_goals
    exact step_background Preord.refl rfl hstep

theorem tasksNamed_invariant (ok : World → Label → Prop) :
    system.Invariant ok fun w ↦ ∀ taskId task, w.db.tasks.find? taskId = some task → taskId ≠ "" where
  init := fun _ _ h ↦ nomatch h
  step _ _ _ h _ hstep taskId task htask := by
    rcases step_tasksNamed hstep taskId task htask with ⟨_, hold, -⟩ | hnew
    · exact h taskId _ hold
    · exact hnew

/-- The rows agree on a task that is named if they are all of this task. -/
theorem fold_agreeOnTask_iff {owners : List String} {agreed : String} (hnamed : taskId ≠ "") :
    Tx.fold agreeOnTask taskId owners s = .ok (agreed, s') ↔
      (∀ owner ∈ owners, owner = taskId) ∧ agreed = taskId ∧ s' = s := by
  induction owners with
  | nil =>
    change (pure taskId : Core String) s = _ ↔ _
    rw [Tx.pure_ok]
    simp
  | cons owner owners ih =>
    rw [List.forall_mem_cons]
    constructor
    · intro h
      obtain ⟨a, t, hagree, hrest⟩ := Tx.bind_ok.mp h
      obtain ⟨_, t', hcheck, hpure⟩ := Tx.bind_ok.mp hagree
      obtain ⟨hsame, rfl⟩ := Tx.check_ok.mp hcheck
      obtain ⟨rfl, rfl⟩ := Tx.pure_ok.mp hpure
      have howner : taskId = a := hsame.resolve_left hnamed
      rw [← howner] at hrest
      obtain ⟨hall, hagreed⟩ := ih.mp hrest
      exact ⟨⟨howner.symm, hall⟩, hagreed⟩
    · rintro ⟨⟨howner, hall⟩, hagreed⟩
      rw [howner]
      refine Tx.bind_ok.mpr ⟨_, s, ?_, ih.mpr ⟨hall, hagreed⟩⟩
      exact Tx.bind_ok.mpr ⟨(), s, Tx.check_ok.mpr ⟨.inr rfl, rfl⟩, rfl⟩

theorem commandTaskId_iff {target : Target} {agreed : String} (hcreate : operation ≠ .createTask)
    (htask : target.taskId = some taskId) (hnamed : taskId ≠ "") :
    commandTaskId operation target s = .ok (agreed, s') ↔
      (∀ owner ∈ target.owners s, owner = taskId) ∧ agreed = taskId ∧ s' = s := by
  rw [commandTaskId, if_neg hcreate, Tx.get_bind_ok, htask]
  exact fold_agreeOnTask_iff hnamed

/-- The records of requests do not matter for a revision. -/
theorem revised_of_records (hrecords : Writes requestRecords s s') :
    Revised s taskId failedId v plan ↔ Revised s' taskId failedId v plan := by
  have hartifacts : s'.artifacts = s.artifacts := ((hrecords .artifacts).2 (by decide)).symm
  rw [Revised, Revised, (hrecords .activePlanMarkers).2 (by decide),
    (hrecords .plans).2 (by decide)]
  refine and_congr_right fun _ ↦ exists_congr fun plan' ↦ and_congr_right fun _ ↦ ?_
  exact ⟨fun h ↦ h.of_artifacts hartifacts, fun h ↦ h.of_artifacts hartifacts.symm⟩

/-- A command for a repair is accepted, and its plan revises the one before it, if and only if it
mentions no row of another task, that plan has no edge at the failed unit, every edge that waits for
a verdict names a registered hash, the workspaces are not in use, and the generation of the planner
is the one that is named. -/
theorem requestRepairPlan_repairs_iff {q : Request} (hw : system.Reachable w)
    (h : RepairRequested env q w.db taskId failedId repairId verifyId task v plan) :
    Repairs env q w.db taskId failedId v plan ↔
      (∀ owner ∈ q.payload.target.owners w.db, owner = taskId) ∧
        Repairable q.payload w.db taskId failedId repairId verifyId task plan := by
  obtain ⟨n, hn⟩ := q.start_eq w.db
  have hinv : AlignInv (q.start w.db) := by
    rw [hn]
    have hinv := ((alignInv_invariant fun _ _ ↦ True).of_reachable hw).2
    refine ⟨hinv.graph, hinv.specs, fun t v plan hmarker hplan node hnode ↦ ?_, hinv.ended,
      hinv.contract⟩
    have haligned := hinv.aligned t v plan hmarker hplan node hnode
    exact ⟨haligned.unit, haligned.workspace⟩
  have hplans : PlanInv (q.start w.db) := by
    rw [hn]
    have hplans : PlanInv w.db := (planInv_invariant fun _ _ ↦ True).of_reachable hw
    exact ⟨hplans.marked, hplans.active, hplans.version, hplans.bounded⟩
  have hcontracts : ContractInv (q.start w.db) := by
    rw [hn]
    have hcontracts : ContractInv w.db := (contractInv_invariant fun _ _ ↦ True).of_reachable hw
    exact ⟨hcontracts.marked, hcontracts.active, hcontracts.version, hcontracts.known,
      hcontracts.hashed⟩
  have hfound : w.db.tasks.find? taskId = some task := by
    have hfound := h.asked.found
    rwa [hn] at hfound
  have hnamed : taskId ≠ "" := (tasksNamed_invariant fun _ _ ↦ True).of_reachable hw _ _ hfound
  have hrepairable : Repairable q.payload (q.start w.db) taskId failedId repairId verifyId task
      plan ↔ Repairable q.payload w.db taskId failedId repairId verifyId task plan := by
    rw [hn]
    exact ⟨fun h ↦ ⟨h.clear, h.kept, h.target, h.planner, h.repairWorkspace, h.verifyWorkspace⟩,
      fun h ↦ ⟨h.clear, h.kept, h.target, h.planner, h.repairWorkspace, h.verifyWorkspace⟩⟩
  have hguard : guardOperation q.auth q.operation = none := by
    rw [h.operation]
    simp [guardOperation, requireHuman, humanOnlyOps, humanTaskOrchestrationOps, h.asked.human]
  have hrun : q.operation ∉ runOperations := by
    rw [h.operation]
    decide
  have hcreate : q.operation ≠ .createTask := by
    rw [h.operation]
    decide
  have htask {agreed : String} : commandTaskId q.operation q.payload.target w.db =
      .ok (agreed, w.db) ↔
        (∀ owner ∈ q.payload.target.owners w.db, owner = taskId) ∧ agreed = taskId := by
    rw [commandTaskId_iff hcreate h.asked.named hnamed]
    simp
  have hhandler : handler env q.auth q.payload q.operation =
      requestRepairPlan env q.auth q.payload := by
    rw [h.operation]
    rfl
  rw [← hrepairable, ← h.asked.repairs_iff hinv hcontracts hplans]
  constructor
  · rintro ⟨result, s', hexecute, hok, hrevised⟩
    obtain ⟨agreed, hagreed⟩ := execute_task hexecute
    obtain ⟨howners, rfl⟩ := htask.mp hagreed
    rw [h.unanswered.execute_eq hguard hrun hcreate hagreed] at hexecute
    obtain ⟨t, hanswer, hrecords⟩ := answer_handled hexecute
    rw [hhandler] at hanswer
    exact ⟨howners, result, t, hanswer, hok, (revised_of_records hrecords).mpr hrevised⟩
  · rintro ⟨howners, result, t, hanswer, hok, hrevised⟩
    rw [← hhandler] at hanswer
    obtain ⟨s', hexecute, hrecords⟩ := h.unanswered.answer_ok hcreate hnamed hanswer
    rw [← h.unanswered.execute_eq hguard hrun hcreate (htask.mpr ⟨howners, rfl⟩)] at hexecute
    exact ⟨result, s', hexecute, hok, (revised_of_records hrecords).mp hrevised⟩

/-! ## Samples -/

/-- The nodes of the plan of the sample. -/
def sampleNodes : List RawNode :=
  [{ workUnitId := "check", workType := some "VERIFY" }, { workUnitId := "next" },
    { workUnitId := "last" }]

/-- An edge of the plan of the sample, to its last node. -/
def sampleToLast (start : String) : RawEdge :=
  { fromWorkUnitId := start, toWorkUnitId := "last", predicate := some .verdictPass
    artifactHash := some "hash" }

/-- The verification of a plan fails. -/
def sampleFailed (start : String) : List Label :=
  let human := AuthContext.ofHuman "owner"
  sampleDispatched.take 3 ++
  [ .ask human .activatePlan
      { taskId := some "task_i", nodes := some sampleNodes, edges := [sampleToLast start] },
    .ask human .dispatchReadyRuns { taskId := some "task_i" } ] ++
  sampleStart ++
  [ .ask (sampleAgent "run_iiiiiiiii") .submitResult
      { taskId := some "task_i", runId := some "run_iiiiiiiii", fencingEpoch := some 1
        result := some { verdict := some .fail, artifactRefs := [some "hash"] } } ]

/-- A repair of the plan. -/
def sampleRepair (start : String) : Payload where
  taskId := some "task_i"
  failedVerifyWorkUnitId := some "check"
  keepNodes := sampleNodes
  keepEdges := [sampleToLast start]
  repairWorkUnitId := some "repair"
  newVerifyWorkUnitId := some "again"
  artifactHash := some "hash"

/-- The owner asks for it. -/
def sampleRequest (start : String) : Request where
  operation := .requestRepairPlan
  auth := .ofHuman "owner"
  payload := sampleRepair start

/-- What a repair of the sample depends on. -/
def sampleFailure (start : String) (w : World) :=
  ((w.db.tasks.find? "task_i").map fun task ↦ (task.principalId, task.activePlannerSessionId),
    w.db.activePlanMarkers.find? "task_i",
    (w.db.plans.find? ("task_i", 1)).map fun plan ↦ (plan.nodes, plan.edges),
    (w.db.workUnitExecutions.find? "check").map fun u ↦ (u.status, u.selectedVerdict),
    ["repair", "again"].map fun wuId ↦
      (w.db.workUnitExecutions.find? wuId, w.db.workspaces.find? ("ws_" ++ wuId)),
    (w.db.plans.select fun k _ ↦ k.1 == "task_i").length,
    (w.db.artifacts.find? ("task_i", "hash")).isSome,
    decide (Unanswered .silent (sampleRequest start) "task_i" w.db))

/-- The verification of the sample has failed, its artifact is registered, and the units of the
repair are new. -/
structure SampleFailed (w : World) (start : String) (task : TaskRow) (plan : PlanRow) : Prop where
  requested : RepairRequested .silent (sampleRequest start) w.db "task_i" "check" "repair" "again"
    task 1 plan
  session : task.activePlannerSessionId = none
  edges : plan.edges = [sampleToLast start]
  registered : Registered w.db "task_i" "hash"
  repairWorkspace : w.db.workspaces.find? "ws_repair" = none
  verifyWorkspace : w.db.workspaces.find? "ws_again" = none

theorem SampleFailed.of_view {start : String}
    (hview : sampleFailure start w =
      (some ("owner", none), some ⟨1⟩, some (sampleNodes, [sampleToLast start]),
        some (.done, some .fail), [(none, none), (none, none)], 1, true, true)) :
    ∃ task plan, SampleFailed w start task plan := by
  simp only [sampleFailure, List.map_cons, List.map_nil, List.cons.injEq, and_true,
    Prod.mk.injEq] at hview
  obtain ⟨htask, hmarker, hplan, hunit, ⟨⟨hrepair, hws⟩, hagain, hws'⟩, hone, hartifact, hnew⟩ :=
    hview
  obtain ⟨task, hfound, htask⟩ := Option.map_eq_some_iff.mp htask
  obtain ⟨plan, hstored, hplan⟩ := Option.map_eq_some_iff.mp hplan
  obtain ⟨u, hu, hunit⟩ := Option.map_eq_some_iff.mp hunit
  simp only [Prod.mk.injEq] at htask hplan hunit
  obtain ⟨hnodes, hedges⟩ := hplan
  have hasked : RepairAsked .silent (.ofHuman "owner") (sampleRepair start)
      { w.db with drawn := w.db.drawn + 1 } "task_i" "check" "repair" "again" task 1 plan :=
    { named := rfl
      found := hfound
      human := rfl
      owner := htask.1.symm
      marker := hmarker
      stored := hstored
      failed := rfl
      verification := hnodes ▸ ⟨_, List.mem_cons_self, rfl, by decide⟩
      unit := ⟨u, hu, hunit⟩
      keepNodes := hnodes.symm
      keepEdges := hedges.symm
      repairName := rfl
      verifyName := rfl
      repairFresh := hrepair
      verifyFresh := fun _ ↦ ⟨hagain, by decide⟩
      size := of_decide_eq_true rfl
      revisions := by rw [hone]; decide }
  exact ⟨task, plan, ⟨rfl, of_decide_eq_true hnew, hasked⟩, htask.2, hedges,
    ⟨by decide, Option.isSome_iff_exists.mp hartifact⟩, hws, hws'⟩

theorem sampleFailed_view :
    (system.exec system.init (sampleFailed "next")).map (sampleFailure "next") =
      some (some ("owner", none), some ⟨1⟩, some (sampleNodes, [sampleToLast "next"]),
        some (.done, some .fail), [(none, none), (none, none)], 1, true, true) := by
  decide +kernel

/-- The edge of the plan is between two other units. -/
theorem requestRepairPlan_repairs_iff_sampleRepair :
    ∃ w plan, system.Reachable w ∧
      Repairs .silent (sampleRequest "next") w.db "task_i" "check" 1 plan := by
  obtain ⟨w, hexec, hview⟩ := Option.map_eq_some_iff.mp sampleFailed_view
  obtain ⟨task, plan, h⟩ := SampleFailed.of_view hview
  refine ⟨w, plan, .of_exec hexec,
    (requestRepairPlan_repairs_iff (.of_exec hexec) h.requested).mpr ⟨fun _ hnone ↦ (nomatch hnone),
      fun e he ↦ ?_, fun e he _ ↦ ?_, fun _ ↦ ⟨"hash", by decide, h.registered⟩, ?_, ?_,
      fun _ ↦ ?_⟩⟩
  · rw [h.edges, List.mem_singleton] at he
    rw [he]
    rintro (hmeets | hmeets)
    · exact absurd hmeets (by decide)
    · exact absurd hmeets (by decide)
  · rw [h.edges, List.mem_singleton] at he
    exact ⟨"hash", he ▸ rfl, h.registered⟩
  · rintro ⟨hplanner, -⟩
    rw [h.session] at hplanner
    cases hplanner
  · intro ws hfound
    exact absurd (h.repairWorkspace.symm.trans hfound) nofun
  · intro ws hfound
    exact absurd (h.verifyWorkspace.symm.trans hfound) nofun

/-- How the repair of the sample is refused. -/
def sampleRepairRefusal (w : World) : Option Error :=
  match execute .silent (sampleRequest "check") w.db with
  | .ok _ => none
  | .error e => some e

theorem sampleRepair_view :
    (system.exec system.init (sampleFailed "check")).map (fun w ↦
      (sampleFailure "check" w, sampleRepairRefusal w)) =
      some ((some ("owner", none), some ⟨1⟩, some (sampleNodes, [sampleToLast "check"]),
        some (.done, some .fail), [(none, none), (none, none)], 1, true, true),
        some (.precondition "plan_dangling_edge" "dangling plan edge")) := by
  decide +kernel

/-- An edge leads out of the failed unit. The request names registered hashes only, and is refused
because it keeps this edge. -/
theorem sampleRepair_refused :
    ∃ w task plan, system.Reachable w ∧
      RepairRequested .silent (sampleRequest "check") w.db "task_i" "check" "repair" "again" task 1
        plan ∧
      Registered w.db "task_i" "hash" ∧
      execute .silent (sampleRequest "check") w.db =
        .error (.precondition "plan_dangling_edge" "dangling plan edge") ∧
      ¬Repairs .silent (sampleRequest "check") w.db "task_i" "check" 1 plan := by
  obtain ⟨w, hexec, hviews⟩ := Option.map_eq_some_iff.mp sampleRepair_view
  obtain ⟨hview, hrefusal⟩ := Prod.mk.inj hviews
  obtain ⟨task, plan, h⟩ := SampleFailed.of_view hview
  rw [sampleRepairRefusal] at hrefusal
  split at hrefusal
  · cases hrefusal
  · next herror =>
    obtain rfl := Option.some.inj hrefusal
    refine ⟨w, task, plan, .of_exec hexec, h.requested, h.registered, herror, ?_⟩
    rintro ⟨result, s', hrun, -⟩
    rw [herror] at hrun
    cases hrun

end HibikiCore
