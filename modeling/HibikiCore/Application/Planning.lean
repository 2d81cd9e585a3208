import HibikiCore.Application.Frames
import HibikiCore.Domain.Acyclic

/-!
# What an activation of a plan needs

Four commands activate a plan. `Asks` says with which request each of them does, and `PlanAdmitted`
what the request is checked for before anything is written. The gates of the task are not among it.
-/

namespace HibikiCore

/-- The units of a node are of no other task. -/
def NodeOwned (s : DB) (taskId : String) (node : RawNode) : Prop :=
  (s.workUnitSpecs.select fun k spec ↦ k.1 == node.workUnitId && spec.taskId != taskId) = [] ∧
    (s.workUnitExecutions.find? node.workUnitId).all (·.taskId = taskId) = true

/-- Everything an activation is refused without before it writes. -/
structure PlanAdmitted (auth : AuthContext) (s : DB) (r : PlanRequest) (task : TaskRow)
    (version : Nat) (contract : ContractRow) : Prop where
  found : s.tasks.find? r.taskId = some task
  owner : auth.principalId = task.principalId
  marker : s.activeContractMarkers.find? r.taskId = some ⟨version⟩
  contract : s.contracts.find? (r.taskId, version) = some contract
  contractVersion : r.expectedContractVersion.all (· = version) = true
  planVersion : ∀ e v, r.expectedPlanVersion = some e → task.planVersion = some v → e = (v : Int)
  graph : WellFormedGraph (r.nodes.map RawNode.toPlanNode) (r.edges.map RawEdge.toPlanEdge)
  size : r.nodes.length ≤ Defaults.maxWorkUnitsPerTask
  revisions : (s.plans.select fun k _ ↦ k.1 == r.taskId).length < Defaults.maxPlanRevisions
  owned : ∀ node ∈ r.nodes, NodeOwned s r.taskId node

/-- The requests with which the commands activate plans. -/
inductive Asks (auth : AuthContext) (p : Payload) (s : DB) : Operation → PlanRequest → Prop
  | plan {taskId : String} {nodes : List RawNode} (named : p.taskId = some taskId)
      (given : p.nodes = some nodes) :
      Asks auth p s .activatePlan
        { taskId
          nodes
          edges := p.edges
          expectedContractVersion := p.expectedContractVersion
          expectedPlanVersion := p.expectedPlanVersion
          objective := p.objective }
  | minimal {taskId drawn : String} {version : Nat} (named : p.taskId = some taskId) :
      Asks auth p s .activateMinimalPlan
        { taskId
          nodes := [{ workUnitId := (truthy p.workUnitId).getD drawn
                      specVersion := some 1
                      workType := some "EXECUTE" }]
          edges := []
          expectedContractVersion := some version
          expectedPlanVersion := none }
  | proposal {taskId sessionId : String} {task : TaskRow} {session : PlannerSessionRow}
      {nodes : List RawNode} (named : p.taskId = some taskId)
      (found : s.tasks.find? taskId = some task)
      (current : task.activePlannerSessionId = some sessionId)
      (bound : s.plannerSessions.find? sessionId = some session)
      (generation : p.generation.getD 0 = session.generation)
      (internal : p.changesAuthorization = false) (given : p.nodes = some nodes) :
      Asks auth p s .submitPlanProposal
        { taskId
          nodes
          edges := p.edges
          expectedContractVersion := p.expectedContractVersion
          expectedPlanVersion := p.expectedPlanVersion
          objective := p.objective }
  | repair {taskId failedId repairId verifyId : String} {task : TaskRow}
      {wu : WorkUnitExecutionRow} (named : p.taskId = some taskId)
      (found : s.tasks.find? taskId = some task)
      (failed : p.failedVerifyWorkUnitId = some failedId)
      (unit : s.workUnitExecutions.find? failedId = some wu)
      (verdict : wu.selectedVerdict = some .fail) :
      Asks auth p s .requestRepairPlan
        { taskId
          nodes := (repairProposal task p failedId repairId verifyId).nodes.getD []
          edges := (repairProposal task p failedId repairId verifyId).edges
          expectedContractVersion :=
            (repairProposal task p failedId repairId verifyId).expectedContractVersion
          expectedPlanVersion :=
            (repairProposal task p failedId repairId verifyId).expectedPlanVersion
          objective := (repairProposal task p failedId repairId verifyId).objective }

variable {env : Env} {auth : AuthContext} {p : Payload} {r : PlanRequest} {task : TaskRow}
  {s s' : DB} {taskId : String} {result : CommandResult}

/-! ## Identifiers that were drawn do not matter -/

theorem PlanAdmitted.of_drawn {n version : Nat} {contract : ContractRow}
    (h : PlanAdmitted auth { s with drawn := n } r task version contract) :
    PlanAdmitted auth s r task version contract :=
  ⟨h.found, h.owner, h.marker, h.contract, h.contractVersion, h.planVersion, h.graph, h.size,
    h.revisions, h.owned⟩

theorem Asks.of_drawn {n : Nat} {operation : Operation}
    (h : Asks auth p { s with drawn := n } operation r) : Asks auth p s operation r := by
  cases h with
  | plan named given => exact .plan named given
  | minimal named => exact .minimal named
  | proposal named found current bound generation internal given =>
    exact .proposal named found current bound generation internal given
  | repair named found failed unit verdict => exact .repair named found failed unit verdict

theorem Asks.drawn {n : Nat} {operation : Operation} (h : Asks auth p s operation r) :
    Asks auth p { s with drawn := n } operation r := by
  have hagain : Asks auth p { ({ s with drawn := n } : DB) with drawn := s.drawn } operation r := h
  exact hagain.of_drawn

/-! ## The commands -/

theorem checkPlanCaps_ok {nodes : List RawNode} (h : checkPlanCaps taskId nodes s = .ok ((), s')) :
    s' = s ∧ nodes.length ≤ Defaults.maxWorkUnitsPerTask ∧
      (s.plans.select fun k _ ↦ k.1 == taskId).length < Defaults.maxPlanRevisions ∧
      ∀ node ∈ nodes, NodeOwned s taskId node := by
  have hreads : Respects Eq (checkPlanCaps taskId nodes) := by
    have hnode (node : RawNode) : Respects Eq (checkNodeOwner taskId node) := by
      rw [checkNodeOwner]
      infer_instance
    rw [checkPlanCaps]
    infer_instance
  obtain rfl : s = s' := hreads.rel h
  rw [checkPlanCaps, Tx.get_bind_ok] at h
  obtain ⟨_, t₁, hcheck₁, h₁⟩ := Tx.bind_ok.mp h
  obtain ⟨hsize, rfl⟩ := Tx.check_ok.mp hcheck₁
  obtain ⟨_, t₂, hcheck₂, h₂⟩ := Tx.bind_ok.mp h₁
  obtain ⟨hrevisions, rfl⟩ := Tx.check_ok.mp hcheck₂
  have hround (node : RawNode) (u u' : DB) (hu : u = t₂)
      (hcheck : checkNodeOwner taskId node u = .ok ((), u')) :
      u' = t₂ ∧ NodeOwned t₂ taskId node := by
    subst hu
    rw [checkNodeOwner, Tx.get_bind_ok] at hcheck
    obtain ⟨_, v, hspecs, hunits⟩ := Tx.bind_ok.mp hcheck
    obtain ⟨hspec, rfl⟩ := Tx.check_ok.mp hspecs
    obtain ⟨hunit, rfl⟩ := Tx.check_ok.mp hunits
    exact ⟨rfl, hspec, hunit⟩
  refine ⟨rfl, hsize, hrevisions, fun node hnode ↦ ?_⟩
  exact Tx.each_mem (I := fun u ↦ u = t₂) (P := fun _ ↦ NodeOwned t₂ taskId node)
    (f := checkNodeOwner taskId) hnode (fun b _ u u' hu hb ↦ (hround b u u' hu hb).1)
    (fun u u' hu hb ↦ (hround node u u' hu hb).2) (fun _ _ _ _ _ hP _ ↦ hP) rfl h₂

/-- The stages of an activation that was not refused: the plan is installed, acceptances that are
pending become obsolete, units and workspaces are aligned, and the task may go on. -/
structure PlanStages (env : Env) (auth : AuthContext) (r : PlanRequest) (s s' : DB)
    (task : TaskRow) (version : Nat) (contract : ContractRow) (v : Nat) (u₁ u₂ u₃ u₄ : DB) :
    Prop where
  admitted : PlanAdmitted auth s r task version contract
  install : installPlan env r.taskId task version r.nodes r.edges s = .ok (v, u₁)
  supersede : supersedePendingAcceptance env r.taskId u₁ = .ok ((), u₂)
  align : alignUnits env s r.taskId r.objective task.title contract.content r.nodes u₂ =
    .ok ((), u₃)
  advance : Tx.when (task.state = .planning ∨ task.state = .verifying)
    (setTaskState env r.taskId .planActivated none) u₃ = .ok ((), u₄)
  events : Writes [.events] u₄ s'

theorem activatePlan_stages (h : activatePlan env auth r s = .ok (result, s')) :
    ∃ task version contract v u₁ u₂ u₃ u₄,
      PlanStages env auth r s s' task version contract v u₁ u₂ u₃ u₄ := by
  rw [activatePlan, Tx.get_bind_ok] at h
  obtain ⟨task, t₁, hget, h₁⟩ := Tx.bind_ok.mp h
  obtain ⟨hfound, rfl⟩ := getTask_ok.mp hget
  obtain ⟨_, t₂, hcheck, h₂⟩ := Tx.bind_ok.mp h₁
  obtain ⟨howner, rfl⟩ := Tx.check_ok.mp hcheck
  obtain ⟨active, t₃, hactive, h₃⟩ := Tx.bind_ok.mp h₂
  obtain ⟨rfl, hcontract⟩ := activeContract_ok.mp hactive
  obtain ⟨⟨version, contract⟩, t₄, hrequire, h₄⟩ := Tx.bind_ok.mp h₃
  obtain ⟨hsome, rfl⟩ := Tx.require_ok.mp hrequire
  have hrow : t₄.activeContractMarkers.find? r.taskId = some ⟨version⟩ ∧
      t₄.contracts.find? (r.taskId, version) = some contract := by
    rcases hcontract with ⟨-, hnone⟩ | ⟨version', contract', hmarker, hrow, hboth⟩
    · rw [hnone] at hsome
      cases hsome
    · rw [hboth] at hsome
      obtain ⟨rfl, rfl⟩ := Prod.mk.inj (Option.some.inj hsome)
      exact ⟨hmarker, hrow⟩
  obtain ⟨_, t₅, hcheck₅, h₅⟩ := Tx.bind_ok.mp h₄
  obtain ⟨hversion, rfl⟩ := Tx.check_ok.mp hcheck₅
  obtain ⟨_, t₆, hcheck₆, h₆⟩ := Tx.bind_ok.mp h₅
  obtain ⟨hplan, rfl⟩ := Tx.check_ok.mp hcheck₆
  obtain ⟨_, t₇, hlift, h₇⟩ := Tx.bind_ok.mp h₆
  obtain ⟨hgraph, rfl⟩ := Tx.lift_ok.mp hlift
  obtain ⟨_, t₈, hcaps, h₈⟩ := Tx.bind_ok.mp h₇
  obtain ⟨rfl, hsize, hrevisions, howned⟩ := checkPlanCaps_ok hcaps
  obtain ⟨v, u₁, hinstall, h₉⟩ := Tx.bind_ok.mp h₈
  obtain ⟨_, u₂, hsupersede, h₁₀⟩ := Tx.bind_ok.mp h₉
  obtain ⟨_, u₃, halign, h₁₁⟩ := Tx.bind_ok.mp h₁₀
  obtain ⟨_, u₄, hadvance, hrest⟩ := Tx.bind_ok.mp h₁₁
  have hadmitted : PlanAdmitted auth t₈ r task version contract :=
    ⟨hfound, howner, hrow.1, hrow.2, hversion, fun e v he hv ↦ by simpa [he, hv] using hplan,
      .of_validateDag hgraph, hsize, hrevisions, howned⟩
  exact ⟨task, version, contract, v, u₁, u₂, u₃, u₄, hadmitted, hinstall, hsupersede, halign,
    hadvance, Respects.rel hrest⟩

/-- An activation that was not refused was admitted. -/
theorem activatePlan_ok (h : activatePlan env auth r s = .ok (result, s')) :
    ∃ task version contract, PlanAdmitted auth s r task version contract := by
  obtain ⟨task, version, contract, _, _, _, _, _, hstages⟩ := activatePlan_stages h
  exact ⟨task, version, contract, hstages.admitted⟩

theorem activatePlanCommand_ok (h : activatePlanCommand env auth p s = .ok (result, s')) :
    ∃ r, Asks auth p s .activatePlan r ∧ activatePlan env auth r s = .ok (result, s') := by
  obtain ⟨taskId, t₁, hkey, h₁⟩ := Tx.bind_ok.mp h
  obtain ⟨hnamed, rfl⟩ := key_ok.mp hkey
  obtain ⟨nodes, t₂, hnodes, h₂⟩ := Tx.bind_ok.mp h₁
  obtain ⟨hgiven, rfl⟩ := key_ok.mp hnodes
  exact ⟨_, .plan hnamed hgiven, h₂⟩

theorem activateMinimalPlan_ok (h : activateMinimalPlan env auth p s = .ok (result, s')) :
    ∃ r n, Asks auth p s .activateMinimalPlan r ∧
      activatePlan env auth r { s with drawn := n } = .ok (result, s') := by
  obtain ⟨taskId, t₁, hkey, h₁⟩ := Tx.bind_ok.mp h
  obtain ⟨hnamed, rfl⟩ := key_ok.mp hkey
  obtain ⟨task, t₂, hget, h₂⟩ := Tx.bind_ok.mp h₁
  obtain ⟨-, rfl⟩ := getTask_ok.mp hget
  obtain ⟨_, t₃, hcheck, h₃⟩ := Tx.bind_ok.mp h₂
  obtain ⟨-, rfl⟩ := Tx.check_ok.mp hcheck
  obtain ⟨active, t₄, hactive, h₄⟩ := Tx.bind_ok.mp h₃
  obtain rfl : t₃ = t₄ := Respects.rel (R := Eq) hactive
  obtain ⟨contract, t₅, hrequire, h₅⟩ := Tx.bind_ok.mp h₄
  obtain ⟨-, rfl⟩ := Tx.require_ok.mp hrequire
  obtain ⟨drawn, t₆, hid, h₆⟩ := Tx.bind_ok.mp h₅
  obtain ⟨-, rfl⟩ := newId_ok.mp hid
  exact ⟨_, _, .minimal hnamed, h₆⟩

/-- A proposal of the current generation that changes no authorization is activated. -/
theorem submitPlanProposal_ok (h : submitPlanProposal env auth p s = .ok (result, s')) :
    (∃ taskId task sessionId session, p.taskId = some taskId ∧
      s.tasks.find? taskId = some task ∧ auth.principalId = task.principalId ∧
      task.activePlannerSessionId = some sessionId ∧
      s.plannerSessions.find? sessionId = some session ∧
      ((p.generation.getD 0 ≠ session.generation ∧ Writes [.events] s s') ∨
        p.generation.getD 0 = session.generation ∧ p.changesAuthorization = true ∧
          proposeContractDelta env taskId p s = .ok (result, s'))) ∨
    ∃ r, Asks auth p s .submitPlanProposal r ∧
      activatePlan env auth r s = .ok (result, s') := by
  obtain ⟨taskId, t₁, hkey, h₁⟩ := Tx.bind_ok.mp h
  obtain ⟨hnamed, rfl⟩ := key_ok.mp hkey
  obtain ⟨task, t₂, hget, h₂⟩ := Tx.bind_ok.mp h₁
  obtain ⟨hfound, rfl⟩ := getTask_ok.mp hget
  obtain ⟨sessionId, t₃, hrequire, h₃⟩ := Tx.bind_ok.mp h₂
  obtain ⟨hcurrent, rfl⟩ := Tx.require_ok.mp hrequire
  rw [Tx.get_bind_ok] at h₃
  obtain ⟨session, t₄, hrequire', h₄⟩ := Tx.bind_ok.mp h₃
  obtain ⟨hsession, rfl⟩ := Tx.require_ok.mp hrequire'
  obtain ⟨_, t₅, hcheck, h₅⟩ := Tx.bind_ok.mp h₄
  obtain ⟨howner, rfl⟩ := Tx.check_ok.mp hcheck
  rcases Tx.ite_ok.mp h₅ with ⟨hstale, h₆⟩ | ⟨hcurrent', h₆⟩
  · exact .inl ⟨taskId, task, sessionId, session, hnamed, hfound, howner, hcurrent, hsession,
      .inl ⟨hstale, Respects.rel h₆⟩⟩
  · have hgeneration := of_not_not hcurrent'
    obtain ⟨_, t₆, hbinding, h₇⟩ := Tx.bind_ok.mp h₆
    obtain rfl : t₅ = t₆ := Respects.rel (R := Eq) hbinding
    rcases Tx.ite_ok.mp h₇ with ⟨hchanges, hpropose⟩ | ⟨hkeeps, h₈⟩
    · exact .inl ⟨taskId, task, sessionId, session, hnamed, hfound, howner, hcurrent, hsession,
        .inr ⟨hgeneration, hchanges, hpropose⟩⟩
    · obtain ⟨nodes, t₇, hnodes, h₉⟩ := Tx.bind_ok.mp h₈
      obtain ⟨hgiven, rfl⟩ := key_ok.mp hnodes
      exact .inr ⟨_, .proposal hnamed hfound hcurrent hsession hgeneration
        (Bool.not_eq_true _ ▸ hkeeps) hgiven, h₉⟩

/-- A repair is activated as a proposal or directly. -/
theorem requestRepairPlan_ok (h : requestRepairPlan env auth p s = .ok (result, s')) :
    Writes [.events] s s' ∨ ∃ r n, Asks auth p s .requestRepairPlan r ∧
      activatePlan env auth r { s with drawn := n } = .ok (result, s') := by
  obtain ⟨taskId, t₁, hkey, h₁⟩ := Tx.bind_ok.mp h
  obtain ⟨hnamed, rfl⟩ := key_ok.mp hkey
  obtain ⟨task, t₂, hget, h₂⟩ := Tx.bind_ok.mp h₁
  obtain ⟨hfound, rfl⟩ := getTask_ok.mp hget
  obtain ⟨_, t₃, hcheck, h₃⟩ := Tx.bind_ok.mp h₂
  obtain ⟨-, rfl⟩ := Tx.check_ok.mp hcheck
  obtain ⟨failedId, t₄, hkey', h₄⟩ := Tx.bind_ok.mp h₃
  obtain ⟨hfailed, rfl⟩ := key_ok.mp hkey'
  rw [Tx.get_bind_ok] at h₄
  obtain ⟨wu, t₅, hrequire, h₅⟩ := Tx.bind_ok.mp h₄
  obtain ⟨hunit, rfl⟩ := Tx.require_ok.mp hrequire
  have hunit' := (Option.filter_eq_some_iff.mp hunit).1
  obtain ⟨_, t₆, hcheck', h₆⟩ := Tx.bind_ok.mp h₅
  obtain ⟨hverdict, rfl⟩ := Tx.check_ok.mp hcheck'
  obtain ⟨repairId, t₇, hid, h₇⟩ := Tx.bind_ok.mp h₆
  obtain ⟨-, rfl⟩ := newId_ok.mp hid
  obtain ⟨verifyId, t₈, hid', h₈⟩ := Tx.bind_ok.mp h₇
  obtain ⟨-, rfl⟩ := newId_ok.mp hid'
  have hasks := @Asks.repair auth p t₆ taskId failedId ((truthy p.repairWorkUnitId).getD repairId)
    ((truthy p.newVerifyWorkUnitId).getD verifyId) task wu hnamed hfound hfailed hunit' hverdict
  rcases Tx.ite_ok.mp h₈ with ⟨-, hproposal⟩ | ⟨-, hplan⟩
  · rcases submitPlanProposal_ok hproposal with ⟨_, _, _, _, -, -, -, -, -, hrefused⟩ | hactivated
    · rcases hrefused with ⟨-, hevents⟩ | ⟨-, hchanges, -⟩
      · exact .inl (Preord.trans (writes_drawn _ _) hevents)
      · cases hchanges
    · obtain ⟨r, hr, hplan⟩ := hactivated
      cases hr with
      | proposal named found current bound generation internal given =>
        obtain rfl := Option.some.inj named
        obtain rfl := Option.some.inj given
        exact .inr ⟨_, _, hasks, hplan⟩
  · exact .inr ⟨_, _, hasks, hplan⟩

/-- The commands that activate plans. -/
def Operation.activates : Operation → Bool
  | .activatePlan | .activateMinimalPlan | .submitPlanProposal | .requestRepairPlan => true
  | _ => false

theorem Asks.activates {operation : Operation} (h : Asks auth p s operation r) :
    operation.activates = true := by
  cases h <;> rfl

/-- Each of them activates the plan that it asks for, or records that it was refused, or proposes a
delta of the contract instead. -/
theorem handler_activates {operation : Operation} (hactivates : operation.activates = true)
    (h : handler env auth p operation s = .ok (result, s')) :
    (∃ r n, Asks auth p s operation r ∧
      activatePlan env auth r { s with drawn := n } = .ok (result, s')) ∨
    Writes [.events] s s' ∨ ∃ taskId, proposeContractDelta env taskId p s = .ok (result, s') := by
  cases operation
  case activatePlan =>
    obtain ⟨r, hasks, hplan⟩ := activatePlanCommand_ok h
    exact .inl ⟨r, s.drawn, hasks, hplan⟩
  case activateMinimalPlan => exact .inl (activateMinimalPlan_ok h)
  case submitPlanProposal =>
    rcases submitPlanProposal_ok h with ⟨taskId, _, _, _, -, -, -, -, -, hrefused⟩ | hactivated
    · rcases hrefused with ⟨-, hevents⟩ | ⟨-, -, hpropose⟩
      · exact .inr (.inl hevents)
      · exact .inr (.inr ⟨taskId, hpropose⟩)
    · obtain ⟨r, hasks, hplan⟩ := hactivated
      exact .inl ⟨r, s.drawn, hasks, hplan⟩
  case requestRepairPlan =>
    rcases requestRepairPlan_ok h with hevents | hactivated
    · exact .inr (.inl hevents)
    · exact .inl hactivated
  all_goals cases hactivates

end HibikiCore
