import Mathlib.Order.WellFoundedSet
import HibikiCore.Domain.Acyclic
import HibikiCore.Safety.Alignment

/-!
# Plans can be carried out

A plan is stored only after its graph was validated, so the graph of every stored plan is
well-formed. The units and workspaces of an ACTIVE plan are there, and an acyclic graph has a first
node among any of its nodes. So the dependencies of an ACTIVE plan never block each other: as long
as a unit of the plan is not done, one of them waits for done units only.
-/

namespace HibikiCore

/-! ## First elements -/

section First

variable {α : Type*} {r : α → α → Prop} {l : List α}

/-- Among the elements of a list, a relation without cycles has one that none of them precedes. -/
theorem exists_first (hacyclic : ∀ a, ¬Relation.TransGen r a a) (hne : l ≠ []) :
    ∃ a ∈ l, ∀ b ∈ l, ¬r b a := by
  have horder : IsStrictOrder α (Relation.TransGen r) :=
    { irrefl := hacyclic, trans := fun _ _ _ ↦ Relation.TransGen.trans }
  have hwf : {a | a ∈ l}.WellFoundedOn (Relation.TransGen r) :=
    (List.finite_toSet l).wellFoundedOn
  obtain ⟨a, ha⟩ := List.exists_mem_of_ne_nil l hne
  obtain ⟨⟨first, hfirst⟩, -, hmin⟩ := hwf.has_min Set.univ ⟨⟨a, ha⟩, trivial⟩
  refine ⟨first, hfirst, fun b hb hr ↦ ?_⟩
  exact hmin ⟨b, hb⟩ trivial (Relation.TransGen.single hr)

end First

variable {s : DB} {taskId : String}

/-- A unit is done. -/
def DoneUnit (s : DB) (wuId : String) : Prop :=
  ∃ u, s.workUnitExecutions.find? wuId = some u ∧ u.status = .done

/-- What an ACTIVE plan is made of: a well-formed graph, a unit and a workspace of the task for each
node, a contract that is ACTIVE, and no live unit of the task beside it. -/
structure PlanSound (s : DB) (taskId : String) (plan : PlanRow) : Prop where
  active : plan.status = .active
  graph : WellFormedGraph (plan.nodes.map RawNode.toPlanNode) (plan.edges.map RawEdge.toPlanEdge)
  aligned : ∀ node ∈ plan.nodes, NodeAligned s taskId node
  ended : ∀ wuId u, s.workUnitExecutions.find? wuId = some u → u.taskId = taskId →
    (∀ node ∈ plan.nodes, node.workUnitId ≠ wuId) → u.status.isTerminal = true
  contract : ∃ version, s.activeContractMarkers.find? taskId = some ⟨version⟩

namespace PlanSound

variable {plan : PlanRow}

/-- The graph of a plan leads from the source of an edge to its target. -/
theorem edgeTo {e : RawEdge} (he : e ∈ plan.edges) :
    EdgeTo (plan.edges.map RawEdge.toPlanEdge) e.fromWorkUnitId e.toWorkUnitId :=
  ⟨e.toPlanEdge, List.mem_map_of_mem he, rfl, rfl⟩

/-- The source of an edge is the unit of a node. -/
theorem source (h : PlanSound s taskId plan) {e : RawEdge} (he : e ∈ plan.edges) :
    ∃ node ∈ plan.nodes, node.workUnitId = e.fromWorkUnitId := by
  obtain ⟨n, hn, hsource⟩ := (h.graph.edge e.toPlanEdge (List.mem_map_of_mem he)).source
  obtain ⟨node, hnode, rfl⟩ := List.mem_map.mp hn
  exact ⟨node, hnode, hsource⟩

/-- Of the nodes whose units are not done, there is one that waits for done units only. -/
theorem frontier (h : PlanSound s taskId plan) {node : RawNode} (hnode : node ∈ plan.nodes)
    (hopen : ¬DoneUnit s node.workUnitId) :
    ∃ first ∈ plan.nodes, ¬DoneUnit s first.workUnitId ∧
      ∀ e ∈ plan.edges, e.toWorkUnitId = first.workUnitId → DoneUnit s e.fromWorkUnitId := by
  classical
  let opens := plan.nodes.filter fun n ↦ ¬DoneUnit s n.workUnitId
  have hopens : opens.map RawNode.workUnitId ≠ [] := by
    refine List.ne_nil_of_mem (List.mem_map_of_mem (a := node) ?_)
    exact List.mem_filter.mpr ⟨hnode, decide_eq_true hopen⟩
  obtain ⟨wuId, hmem, hfirst⟩ := exists_first h.graph.acyclic hopens
  obtain ⟨first, hmem', rfl⟩ := List.mem_map.mp hmem
  obtain ⟨hin, hnot⟩ := List.mem_filter.mp hmem'
  refine ⟨first, hin, of_decide_eq_true hnot, fun e he htarget ↦ ?_⟩
  by_contra hsource
  obtain ⟨n, hn, hname⟩ := h.source he
  refine hfirst e.fromWorkUnitId (List.mem_map.mpr ⟨n, List.mem_filter.mpr ⟨hn, ?_⟩, hname⟩) ?_
  · exact decide_eq_true (hname ▸ hsource)
  · rw [← htarget]
    exact edgeTo he

end PlanSound

/-- In every reachable state, the ACTIVE plan of a task is sound: its graph is acyclic, its units
and workspaces are there and bound as its nodes say, no unit beside it lives, and its task has an
ACTIVE contract. And it can be carried out: while a unit of it is not done, there is one that is
not done and waits for done units only. -/
theorem active_plan_carried_out {w : World} (h : system.Reachable w) {version : Nat}
    (hmarker : w.db.activePlanMarkers.find? taskId = some ⟨version⟩) :
    ∃ plan, w.db.plans.find? (taskId, version) = some plan ∧ PlanSound w.db taskId plan ∧
      ((∀ node ∈ plan.nodes, DoneUnit w.db node.workUnitId) ∨
        ∃ first ∈ plan.nodes, ¬DoneUnit w.db first.workUnitId ∧
          ∀ e ∈ plan.edges, e.toWorkUnitId = first.workUnitId →
            DoneUnit w.db e.fromWorkUnitId) := by
  have hplans : PlanInv w.db := (planInv_invariant fun _ _ ↦ True).of_reachable h
  obtain ⟨-, halign⟩ := (alignInv_invariant fun _ _ ↦ True).of_reachable h
  obtain ⟨plan, hplan, hactive⟩ := hplans.active hmarker
  have hsound : PlanSound w.db taskId plan :=
    { active := hactive
      graph := halign.graph _ plan hplan
      aligned := halign.aligned taskId version plan hmarker hplan
      ended := by
        rintro wuId u hu rfl hoff
        exact halign.ended wuId u hu ⟨version, plan, hmarker, hplan, hoff⟩
      contract := halign.contract taskId version hmarker }
  refine ⟨plan, hplan, hsound, ?_⟩
  by_cases hdone : ∀ node ∈ plan.nodes, DoneUnit w.db node.workUnitId
  · exact .inl hdone
  · push Not at hdone
    obtain ⟨node, hnode, hopen⟩ := hdone
    exact .inr (hsound.frontier hnode hopen)

/-- A plan of the sample: three units, the second waits for the first, and the last for the second.
The second names its workspace. -/
def sampleLine : List Label :=
  let human := AuthContext.ofHuman "owner"
  sampleDispatched.take 3 ++
  [ .ask human .activatePlan
      { taskId := some "task_i"
        nodes := some
          [{ workUnitId := "a" }, { workUnitId := "b", workspaceId := some "ws" },
            { workUnitId := "c" }]
        edges := [{ fromWorkUnitId := "a", toWorkUnitId := "b" },
          { fromWorkUnitId := "b", toWorkUnitId := "c" }] },
    .ask human .dispatchReadyRuns { taskId := some "task_i" } ]

/-- The ACTIVE plan of the sample, and the units of its nodes. -/
def sampleLineView (w : World) :=
  (w.db.activePlanMarkers.find? "task_i",
    (w.db.plans.find? ("task_i", 1)).map fun plan ↦
      plan.nodes.map fun node ↦ (node.workUnitId,
        (w.db.workUnitExecutions.find? node.workUnitId).map (·.status)))

/-- While the first unit runs, the plan is sound, and a unit of it waits for done units only. -/
theorem active_plan_carried_out_sampleLine :
    ∃ w plan, system.exec system.init sampleLine = some w ∧
      w.db.plans.find? ("task_i", 1) = some plan ∧
      plan.nodes.map RawNode.workUnitId = ["a", "b", "c"] ∧ PlanSound w.db "task_i" plan ∧
      ∃ first ∈ plan.nodes, ¬DoneUnit w.db first.workUnitId ∧
        ∀ e ∈ plan.edges, e.toWorkUnitId = first.workUnitId → DoneUnit w.db e.fromWorkUnitId := by
  have hview : (system.exec system.init sampleLine).map sampleLineView =
      some (some ⟨1⟩, some [("a", some .running), ("b", some .pending), ("c", some .pending)]) := by
    decide +kernel
  obtain ⟨w, hw, hview⟩ := Option.map_eq_some_iff.mp hview
  simp only [sampleLineView, Prod.mk.injEq, Option.map_eq_some_iff] at hview
  obtain ⟨hmarker, plan', hplan', hunits⟩ := hview
  obtain ⟨plan, hplan, hsound, hcarried⟩ := active_plan_carried_out (.of_exec hw) hmarker
  obtain rfl := Option.some.inj (hplan'.symm.trans hplan)
  have hnames : plan'.nodes.map RawNode.workUnitId = ["a", "b", "c"] := by
    have hfst := congrArg (List.map Prod.fst) hunits
    rwa [List.map_map] at hfst
  refine ⟨w, plan', hw, hplan, hnames, hsound, hcarried.resolve_left fun hdone ↦ ?_⟩
  have hmem : ("a", some WorkUnitStatus.running) ∈ plan'.nodes.map fun node ↦ (node.workUnitId,
      (w.db.workUnitExecutions.find? node.workUnitId).map (·.status)) := by
    rw [hunits]
    exact List.mem_cons_self
  obtain ⟨node, hnode, hrunning⟩ := List.mem_map.mp hmem
  obtain ⟨u, hu, hstatus⟩ := hdone node hnode
  rw [hu] at hrunning
  have hstatus' : some u.status = some WorkUnitStatus.running := congrArg Prod.snd hrunning
  rw [hstatus] at hstatus'
  cases hstatus'

end HibikiCore
