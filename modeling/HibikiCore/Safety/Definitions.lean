import HibikiCore.Safety.Plans

/-!
# The definitions of work units

The first plan that names a unit in some version stores its definition, and every run of the unit
is given what is stored. A later plan may name the same version: nothing compares what its nodes
say with what is stored, so it is activated all the same, and what it changes is dropped. A node
whose name is empty is dropped the first time already: what activation reads of the nodes it looks
up by name, and it does not keep those without one.
-/

namespace HibikiCore

set_option synthInstance.maxSize 100000000
set_option synthInstance.maxHeartbeats 400000

variable {env : Env} {auth : AuthContext} {p : Payload} {r : PlanRequest} {task : TaskRow}
  {s s' : DB} {w w' : World} {l : Label} {taskId title : String} {objective : Option String}
  {contract : ContractContent} {nodes : List RawNode} {node : RawNode} {result : CommandResult}

/-- All tables but the definitions. -/
abbrev besideSpecs : List Relation :=
  [.tasks, .contracts, .activeContractMarkers, .explanations, .decisions, .gates, .plans,
    .activePlanMarkers, .workUnitExecutions, .plannerSessions, .agentRuns,
    .activeExecuteRunMarkers, .activePlanRunMarkers, .workspaces, .contextManifests, .sideEffects,
    .events, .inbox, .outbox, .idempotencyKeys, .resultSnapshots, .artifacts, .acceptanceEvidence,
    .agentProfiles, .runInputs, .toolInvocations, .contextAppends, .taskMessages]

instance : Faithful Refs.workUnitSpecs := ⟨id⟩

instance {n : Relation} [h : Touches n besideSpecs] : Beside Refs.workUnitSpecs n where
  ne := by
    rintro rfl
    exact absurd h.mem (by decide)

/-! ## What a node gives -/

/-- The version of a unit that a node names. -/
def RawNode.specKey (n : RawNode) : String × Nat := (n.workUnitId, n.version)

/-- The row that is stored for a node. -/
def specRow (env : Env) (taskId : String) (spec : WorkUnitSpec) : WorkUnitSpecRow where
  taskId := taskId
  objective := spec.objective
  workType := spec.workType
  contentHash := .spec spec
  content := spec
  createdAt := env.now

theorem orElse_of_truthy {o : Option String} {x fallback : String} (h : truthy o = some x) :
    orElse o fallback = x := by
  rw [orElse, show o.filter (· ≠ "") = some x from h, Option.getD_some]

/-- The definitions are the same. -/
def SpecsSame (s s' : DB) : Prop := s'.workUnitSpecs = s.workUnitSpecs

namespace SpecsSame

instance : Preord SpecsSame where
  refl _ := rfl
  trans h h' := Eq.trans h' h

theorem of_writes (h : Writes besideSpecs s s') : SpecsSame s s' :=
  ((h .workUnitSpecs).2 (by decide)).symm

instance : Frame SpecsSame where
  still h := of_writes (h.mono fun _ hn ↦ (List.not_mem_nil hn).elim)

instance {n : Relation} [h : Touches n besideSpecs] : Indifferent SpecsSame n where
  writes hw := of_writes (hw.mono fun _ hm ↦ List.mem_singleton.mp hm ▸ h.mem)

instance background : Background SpecsSame := inferInstance

end SpecsSame

/-- A definition that is stored stays. -/
theorem Persists.spec {k : String × Nat} {row : WorkUnitSpecRow} (h : Persists s s')
    (hrow : s.workUnitSpecs.find? k = some row) : s'.workUnitSpecs.find? k = some row := by
  obtain ⟨row', hrow', hsame⟩ := (h .workUnitSpecs).1 k row hrow
  obtain rfl : row' = row := hsame
  exact hrow'

/-! ## Storing the definitions of a plan -/

/-- The definitions that are new are those of some nodes. -/
abbrev SpecsOf (env : Env) (taskId : String) (objective : Option String) (title : String)
    (contract : ContractContent) (nodes : List RawNode) : DB → DB → Prop :=
  Arrivals Refs.workUnitSpecs fun k row ↦ ∃ node ∈ nodes, k = node.specKey ∧
    row = specRow env taskId (nodeSpec node objective title contract)

theorem installNode_specs (hnode : node ∈ nodes) :
    Respects (SpecsOf env taskId objective title contract nodes)
      (installNode env taskId objective title contract node) := by
  have hadd : Respects (SpecsOf env taskId objective title contract nodes)
      (add Refs.workUnitSpecs node.specKey
        (specRow env taskId (nodeSpec node objective title contract))) :=
    Arrivals.insert ⟨node, hnode, rfl, rfl⟩
  have hspec : Respects (SpecsOf env taskId objective title contract nodes)
      (installSpec env taskId node (nodeSpec node objective title contract)) := by
    rw [installSpec]
    refine .seq inferInstance fun db ↦ .seq ?_ fun _ ↦ inferInstance
    rw [Tx.when]
    split
    · exact hadd
    · exact inferInstance
  rw [installNode]
  exact .seq hspec fun _ ↦ inferInstance

/-- After a node was installed there is a definition of it. -/
theorem installNode_stored
    (h : installNode env taskId objective title contract node s = .ok ((), s')) :
    ∃ row, s'.workUnitSpecs.find? node.specKey = some row := by
  rw [installNode] at h
  obtain ⟨_, t, hspec, hrest⟩ := Tx.bind_ok.mp h
  have hkept : SpecsSame t s' := Respects.rel hrest
  rw [installSpec, Tx.get_bind_ok] at hspec
  obtain ⟨_, t', hadd, hcheck⟩ := Tx.bind_ok.mp hspec
  obtain ⟨-, rfl⟩ := Tx.check_ok.mp hcheck
  rw [show s'.workUnitSpecs = t.workUnitSpecs from hkept]
  rcases Tx.when_ok.mp hadd with ⟨hnone, hinsert⟩ | ⟨hsome, rfl⟩
  · obtain ⟨-, rfl⟩ := Ref.insert_ok.mp hinsert
    exact ⟨_, (Table.find?_insert hnone _ _).trans (if_pos rfl)⟩
  · exact Option.ne_none_iff_exists'.mp hsome

/-- After the nodes were installed each has the definition that was stored before, or else its own
one. -/
theorem alignUnits_specs {flushed : DB} (hnodup : (nodes.map RawNode.workUnitId).Nodup)
    (h : alignUnits env flushed taskId objective title contract nodes s = .ok ((), s'))
    (hnode : node ∈ nodes) :
    ∃ row, s'.workUnitSpecs.find? node.specKey = some row ∧
      (s.workUnitSpecs.find? node.specKey = some row ∨
        s.workUnitSpecs.find? node.specKey = none ∧
          row = specRow env taskId (nodeSpec node objective title contract)) := by
  rw [alignUnits] at h
  obtain ⟨_, t, hinstall, hrest⟩ := Tx.bind_ok.mp h
  have hkept : SpecsSame t s' := Respects.rel hrest
  rw [show s'.workUnitSpecs = t.workUnitSpecs from hkept]
  obtain ⟨row, hrow⟩ : ∃ row, t.workUnitSpecs.find? node.specKey = some row := by
    refine Tx.each_mem (I := fun _ ↦ True) hnode (fun _ _ _ _ _ _ ↦ trivial)
      (fun u u' _ hstep ↦ installNode_stored hstep) (fun b _ u u' _ hP hstep ↦ ?_) trivial hinstall
    obtain ⟨row, hrow⟩ := hP
    exact ⟨row, (Respects.rel hstep : Persists u u').spec hrow⟩
  have harrive : SpecsOf env taskId objective title contract nodes s t :=
    Tx.each_induct (P := SpecsOf env taskId objective title contract nodes s)
      (fun b hb u u' hu hstep ↦ Preord.trans hu ((installNode_specs hb).rel hstep))
      (Preord.refl s) hinstall
  refine ⟨row, hrow, ?_⟩
  rcases harrive _ row hrow with ⟨row₀, hrow₀, hsame⟩ | ⟨node', hnode', hkey, hnew⟩
  · obtain rfl : row = row₀ := hsame
    exact .inl hrow₀
  · obtain rfl : node = node' := List.inj_on_of_nodup_map hnodup hnode hnode' (Prod.mk.inj hkey).1
    cases hbefore : s.workUnitSpecs.find? node.specKey with
    | none => exact .inr ⟨rfl, hnew⟩
    | some row₀ =>
      have hstays : Persists s t := Tx.each_induct (P := Persists s)
        (fun b _ u u' hu hstep ↦ Preord.trans hu (Respects.rel hstep)) (Preord.refl s) hinstall
      exact .inl ((hstays.spec hbefore).symm.trans hrow)

/-! ## What an activation does -/

theorem InstallsPlan.defines {operation : Operation} {version : Nat} {contract : ContractRow}
    (h : InstallsPlan env auth p operation s s' r task version contract) (hnode : node ∈ r.nodes) :
    ∃ row, s'.workUnitSpecs.find? node.specKey = some row ∧
      (s.workUnitSpecs.find? node.specKey = some row ∨
        s.workUnitSpecs.find? node.specKey = none ∧
          row = specRow env r.taskId (nodeSpec node r.objective task.title contract.content)) := by
  obtain ⟨n, v, u₁, u₂, u₃, u₄, u, hstages, hrecords⟩ := h.stages
  have hbefore : SpecsSame { s with drawn := n } u₂ :=
    Preord.trans (Respects.rel hstages.install) (Respects.rel hstages.supersede)
  have hafter : SpecsSame u₃ s' :=
    Preord.trans (Respects.rel hstages.advance)
      (Preord.trans (.of_writes (hstages.events.mono (by decide)))
        (.of_writes (hrecords.mono (by decide))))
  have hnodup : (r.nodes.map RawNode.workUnitId).Nodup := by
    have hgraph := h.admitted.graph.distinct
    rwa [List.map_map] at hgraph
  obtain ⟨row, hrow, hfrom⟩ := alignUnits_specs hnodup hstages.align hnode
  rw [show u₂.workUnitSpecs = s.workUnitSpecs from hbefore] at hfrom
  exact ⟨row, (congrArg (·.find? node.specKey) hafter).trans hrow, hfrom⟩

/-- A command stores no definition, or it activates the plan that it asks for. -/
theorem handler_specs {operation : Operation}
    (h : handler env auth p operation s = .ok (result, s')) :
    SpecsSame s s' ∨ ∃ r task version contract,
      InstallsPlan env auth p operation s s' r task version contract := by
  cases hactivates : operation.activates
  case true =>
    rcases handler_activates hactivates h with ⟨r, n, hasks, hplan⟩ | hevents | ⟨_, hpropose⟩
    · exact .inr (InstallsPlan.of_request hasks hplan)
    · exact .inl (Indifferent.writes hevents)
    · exact .inl (Respects.rel hpropose)
  case false =>
    cases operation
    all_goals first
      | exact absurd hactivates (by decide)
      | dsimp only [handler] at h
        exact .inl (Respects.rel h)

/-- Definitions are stored by commands only. -/
theorem step_specs (hstep : system.step w l = some w') :
    SpecsSame w.db w'.db ∨ ∃ env request r task version contract,
      l = .command env request ∧ InstallsPlan env request.auth request.payload request.operation
        w.db w'.db r task version contract :=
  step_installs (fun hw ↦ .of_writes (hw.mono (by decide))) handler_specs hstep

/-! ## Definitions and plans -/

/-- A plan of a task became ACTIVE. -/
def Activated (s s' : DB) (t : String) (v : Nat) : Prop :=
  s.activePlanMarkers.find? t ≠ some ⟨v⟩ ∧ s'.activePlanMarkers.find? t = some ⟨v⟩

namespace InstallsPlan

variable {operation : Operation} {version : Nat} {contract : ContractRow}

/-- The plan that is installed became ACTIVE. -/
theorem activated (hinv : PlanInv s)
    (h : InstallsPlan env auth p operation s s' r task version contract) :
    Activated s s' r.taskId (task.planVersion.getD 0 + 1) := by
  refine ⟨fun hmarker ↦ ?_, ?_⟩
  · obtain ⟨plan, hplan, -⟩ := hinv.active hmarker
    exact Nat.lt_irrefl _ (hinv.older h.admitted.found hplan)
  · rw [h.rest.markers, DB.setPlan_markers, if_pos rfl]

/-- The plan that is installed is the one that was asked for. -/
theorem installed (h : InstallsPlan env auth p operation s s' r task version contract) :
    s'.plans.find? (r.taskId, task.planVersion.getD 0 + 1) =
      some (newPlan env task version r.nodes r.edges) := by
  rw [h.rest.plans]
  exact (Table.find?_insert h.free _ _).trans (if_pos rfl)

end InstallsPlan

end HibikiCore
