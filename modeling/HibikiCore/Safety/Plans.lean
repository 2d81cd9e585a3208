import HibikiCore.Safety.Gates
import HibikiCore.Safety.Contracts

/-!
# The ACTIVE plan

A task has at most one ACTIVE plan, the one its marker and its `plan_version` name, and no plan of
the task has a larger version. Every plan is installed by the same function, which compares the
version that is expected with the one of the task only if the task has a plan already: two
activations against the same base exclude each other from the first plan on.
-/

namespace HibikiCore

set_option synthInstance.maxSize 100000000
set_option synthInstance.maxHeartbeats 400000

variable {env : Env} {auth : AuthContext} {p : Payload} {task : TaskRow} {s s' s'' : DB}
  {w w' : World} {l : Label} {taskId t : String} {result : CommandResult}

/-- An update of a task that gives no value for the version of its plan. -/
instance {a c : TaskRow → String} {b : TaskRow → Json} {d : TaskRow → TaskState}
    {e : TaskRow → Option WaitingReason} {f m : TaskRow → Nat} {h : TaskRow → Option Nat}
    {i j o : TaskRow → Option String} {k l : TaskRow → Bool} {n n' : TaskRow → Int}
    {q r : TaskRow → Time} :
    Leaves TaskRow.planVersion fun t ↦
      ⟨a t, b t, c t, d t, e t, f t, h t, t.planVersion, i t, j t, k t, l t, m t, n t, n' t,
        o t, q t, r t⟩ :=
  ⟨fun _ ↦ rfl⟩

/-! ## Transactions that install no plan -/

/-- All tables but the tasks and those of the plans. -/
abbrev besidePlanning : List Relation :=
  [.contracts, .activeContractMarkers, .explanations, .decisions, .gates, .workUnitSpecs,
    .workUnitExecutions, .plannerSessions, .agentRuns, .activeExecuteRunMarkers,
    .activePlanRunMarkers, .workspaces, .contextManifests, .sideEffects, .events, .inbox, .outbox,
    .idempotencyKeys, .resultSnapshots, .artifacts, .acceptanceEvidence, .agentProfiles,
    .runInputs, .toolInvocations, .contextAppends, .taskMessages]

/-- The tasks persist with the version of their plan; a new task has none. -/
abbrev PlanVersionsKept : DB → DB → Prop := KeepsColumn Refs.tasks TaskRow.planVersion none

/-- The tables of the plans stay the same, and so do the versions of the tasks. -/
structure NoPlanInstalled (s s' : DB) : Prop where
  plans : s'.plans = s.plans
  markers : s'.activePlanMarkers = s.activePlanMarkers
  versions : PlanVersionsKept s s'

namespace NoPlanInstalled

instance : Preord NoPlanInstalled where
  refl _ := ⟨rfl, rfl, Preord.refl _⟩
  trans h h' := ⟨h'.plans.trans h.plans, h'.markers.trans h.markers,
    Preord.trans h.versions h'.versions⟩

theorem of_writes (h : Writes besidePlanning s s') : NoPlanInstalled s s' where
  plans := ((h .plans).2 (by decide)).symm
  markers := ((h .activePlanMarkers).2 (by decide)).symm
  versions := .of_read ((h .tasks).2 (by decide))

instance : Frame NoPlanInstalled where
  still h := of_writes (h.mono fun _ hn ↦ (List.not_mem_nil hn).elim)

instance {n : Relation} [h : Touches n besidePlanning] : Indifferent NoPlanInstalled n where
  writes hw := of_writes (hw.mono fun _ hm ↦ List.mem_singleton.mp hm ▸ h.mem)

instance {f : TaskRow → TaskRow} {hf : ∀ a, SameFixed a (f a)} [Leaves TaskRow.planVersion f] :
    Respects NoPlanInstalled (Refs.tasks.update taskId f hf : Core Unit) where
  rel h := by
    refine ⟨?_, ?_, Respects.rel h⟩ <;> (obtain rfl := Ref.update_ok.mp h; rfl)

instance setTaskState_respects {event : TaskEvent} {reason : Option WaitingReason} :
    Respects NoPlanInstalled (setTaskState env taskId event reason) := by
  rw [setTaskState]
  infer_instance

instance createTask_respects : Respects NoPlanInstalled (createTask env auth p) := by
  have hadd (row : TaskRow) (hnone : row.planVersion = none) (k : String) :
      Respects NoPlanInstalled (add Refs.tasks k row) := by
    refine ⟨fun h ↦ ⟨?_, ?_, (KeepsColumn.insert hnone).rel h⟩⟩ <;>
      (obtain ⟨-, rfl⟩ := Ref.insert_ok.mp h; rfl)
  rw [createTask]
  refine .seq inferInstance fun _ ↦ .seq inferInstance fun _ ↦ .seq inferInstance fun _ ↦ ?_
  exact .seq (hadd _ rfl _) fun _ ↦ inferInstance

instance : TaskDetails NoPlanInstalled where
  update k f hf hd := by
    have : Leaves TaskRow.planVersion f := ⟨hd.planVersion⟩
    infer_instance

instance : ContractVersions NoPlanInstalled where
  update _ _ := inferInstance

instance : TaskSessions NoPlanInstalled where
  update _ _ := inferInstance

instance background : Background NoPlanInstalled := inferInstance

end NoPlanInstalled

/-! ## Installing a plan -/

/-- The database after the ACTIVE plan of a task was retired. -/
def DB.retirePlan (s : DB) (t : String) : DB :=
  match s.activePlanMarkers.find? t with
  | none => s
  | some marker =>
    { s with
      plans := s.plans.modify (t, marker.planVersion) fun p ↦ { p with status := .superseded }
      activePlanMarkers := s.activePlanMarkers.erase t }

/-- The database after a plan of a task was made ACTIVE in place of the one before it. -/
def DB.setPlan (s : DB) (t : String) (v : Nat) (plan : PlanRow) : DB :=
  { s with
    plans := (s.retirePlan t).plans.insert (t, v) plan
    activePlanMarkers := (s.retirePlan t).activePlanMarkers.insert t ⟨v⟩
    tasks := s.tasks.modify t fun task ↦ { task with planVersion := some v } }

theorem DB.retirePlan_markers (s : DB) (t t' : String) :
    (s.retirePlan t).activePlanMarkers.find? t' =
      if t' = t then none else s.activePlanMarkers.find? t' := by
  rw [DB.retirePlan]
  cases hmarker : s.activePlanMarkers.find? t with
  | none =>
    by_cases ht : t' = t
    · rw [if_pos ht, ht]
      exact hmarker
    · rw [if_neg ht]
  | some marker => exact Table.find?_erase _ _ _

/-- Retiring a plan changes nothing but the status of the one the marker names. -/
theorem DB.retirePlan_plans {k : String × Nat} {plan' : PlanRow}
    (h : (s.retirePlan t).plans.find? k = some plan') :
    ∃ plan, s.plans.find? k = some plan ∧ (plan'.status = .active → plan' = plan ∧
      ∀ v, s.activePlanMarkers.find? t = some ⟨v⟩ → k ≠ (t, v)) := by
  rw [DB.retirePlan] at h
  cases hmarker : s.activePlanMarkers.find? t with
  | none =>
    rw [hmarker] at h
    exact ⟨plan', h, fun _ ↦ ⟨rfl, fun _ hv ↦ nomatch hv⟩⟩
  | some marker =>
    rw [hmarker] at h
    change (s.plans.modify _ _).find? k = _ at h
    rw [Table.find?_modify] at h
    split at h
    · obtain ⟨plan, hplan, rfl⟩ := Option.map_eq_some_iff.mp h
      exact ⟨plan, hplan, fun hactive ↦ nomatch hactive⟩
    · next hk =>
      refine ⟨plan', h, fun _ ↦ ⟨rfl, fun v hv ↦ ?_⟩⟩
      obtain rfl := Option.some.inj hv
      exact hk

theorem DB.retirePlan_kept (s : DB) (t : String) {k : String × Nat} (hk : k.1 ≠ t) :
    (s.retirePlan t).plans.find? k = s.plans.find? k := by
  rw [DB.retirePlan]
  cases s.activePlanMarkers.find? t with
  | none => rfl
  | some marker => exact Table.find?_modify_of_ne (fun h ↦ hk (congrArg Prod.fst h)) _ _

theorem DB.setPlan_markers (s : DB) (t : String) (v : Nat) (plan : PlanRow) (t' : String) :
    (s.setPlan t v plan).activePlanMarkers.find? t' =
      if t' = t then some ⟨v⟩ else s.activePlanMarkers.find? t' := by
  have hfresh : (s.retirePlan t).activePlanMarkers.find? t = none := by
    rw [DB.retirePlan_markers, if_pos rfl]
  refine (Table.find?_insert hfresh _ _).trans ?_
  rw [DB.retirePlan_markers]
  split <;> rfl

/-- The plan that an activation makes ACTIVE. -/
def newPlan (env : Env) (task : TaskRow) (contractVersion : Nat) (nodes : List RawNode)
    (edges : List RawEdge) : PlanRow where
  basePlanVersion := task.planVersion
  contractVersion := contractVersion
  contentHash := .plan nodes edges
  nodes := nodes
  edges := edges
  status := .active
  createdAt := env.now

/-- What installing a plan is. -/
theorem installPlan_ok {contractVersion v : Nat} {nodes : List RawNode} {edges : List RawEdge}
    (h : installPlan env t task contractVersion nodes edges s = .ok (v, s')) :
    v = task.planVersion.getD 0 + 1 ∧ (s.retirePlan t).plans.find? (t, v) = none ∧
      s' = s.setPlan t v (newPlan env task contractVersion nodes edges) := by
  rw [installPlan, Tx.get_bind_ok] at h
  obtain ⟨_, t₁, hretire, h₁⟩ := Tx.bind_ok.mp h
  obtain ⟨_, t₂, hplan, h₂⟩ := Tx.bind_ok.mp h₁
  obtain ⟨_, t₃, hmarker, h₃⟩ := Tx.bind_ok.mp h₂
  obtain ⟨_, t₄, htask, hpure⟩ := Tx.bind_ok.mp h₃
  obtain ⟨rfl, rfl⟩ := Tx.pure_ok.mp hpure
  have hretired : t₁ = s.retirePlan t := by
    rw [DB.retirePlan]
    rcases Tx.withSome_ok.mp hretire with ⟨marker, hfound, hboth⟩ | ⟨hnone, rfl⟩
    · obtain ⟨_, u, hupdate, hdelete⟩ := Tx.bind_ok.mp hboth
      obtain rfl := Ref.update_ok.mp hupdate
      obtain rfl := Ref.delete_ok.mp hdelete
      rw [hfound]
    · rw [hnone]
  subst hretired
  obtain ⟨hfree, rfl⟩ := Ref.insert_ok.mp hplan
  obtain ⟨-, rfl⟩ := Ref.insert_ok.mp hmarker
  obtain rfl := Ref.update_ok.mp htask
  refine ⟨rfl, hfree, ?_⟩
  rw [DB.setPlan, DB.retirePlan]
  cases s.activePlanMarkers.find? t <;> rfl

/-- An activation installs one plan, and whatever it does after that installs none. -/
theorem PlanStages.installs {r : PlanRequest} {version v : Nat} {contract : ContractRow}
    {u₁ u₂ u₃ u₄ : DB}
    (h : PlanStages env auth r s s' task version contract v u₁ u₂ u₃ u₄) :
    v = task.planVersion.getD 0 + 1 ∧ (s.retirePlan r.taskId).plans.find? (r.taskId, v) = none ∧
      NoPlanInstalled (s.setPlan r.taskId v (newPlan env task version r.nodes r.edges)) s' := by
  obtain ⟨hv, hfree, rfl⟩ := installPlan_ok h.install
  have hadvance : NoPlanInstalled u₃ u₄ := Respects.rel h.advance
  have hevents : NoPlanInstalled u₄ s' := Indifferent.writes h.events
  refine ⟨hv, hfree, Preord.trans (Respects.rel h.supersede) ?_⟩
  exact Preord.trans (Respects.rel h.align) (Preord.trans hadvance hevents)

/-! ## The invariant -/

/-- The marker of a task names its ACTIVE plan, its `plan_version` is that of the marker, and no
plan has a larger version. -/
structure PlanInv (s : DB) : Prop where
  marked : ∀ {t v plan}, s.plans.find? (t, v) = some plan → plan.status = .active →
    s.activePlanMarkers.find? t = some ⟨v⟩
  active : ∀ {t v}, s.activePlanMarkers.find? t = some ⟨v⟩ →
    ∃ plan, s.plans.find? (t, v) = some plan ∧ plan.status = .active
  version : ∀ {t task}, s.tasks.find? t = some task → task.planVersion =
    (s.activePlanMarkers.find? t).map ActivePlanMarker.planVersion
  bounded : ∀ {t v plan}, s.plans.find? (t, v) = some plan →
    ∃ task current, s.tasks.find? t = some task ∧ task.planVersion = some current ∧ v ≤ current

namespace PlanInv

/-- A task with a marker is stored, and it is at the version of the marker. -/
theorem current (hinv : PlanInv s) {v : Nat} (h : s.activePlanMarkers.find? t = some ⟨v⟩) :
    ∃ task, s.tasks.find? t = some task ∧ task.planVersion = some v := by
  obtain ⟨plan, hplan, -⟩ := hinv.active h
  obtain ⟨task, current, htask, hcurrent, -⟩ := hinv.bounded hplan
  refine ⟨task, htask, ?_⟩
  rw [hinv.version htask, h]
  rfl

theorem of_kept (hinv : PlanInv s) (h : NoPlanInstalled s s') : PlanInv s' where
  marked hplan hactive := by
    rw [h.plans] at hplan
    rw [h.markers]
    exact hinv.marked hplan hactive
  active hmarker := by
    rw [h.markers] at hmarker
    rw [h.plans]
    exact hinv.active hmarker
  version {t task'} htask' := by
    rw [h.markers]
    rcases h.versions.origin htask' with ⟨task, htask, hsame⟩ | ⟨hnew, hnone⟩
    · exact hsame.trans (hinv.version htask)
    · rw [hnone]
      cases hmarker : s.activePlanMarkers.find? t with
      | none => rfl
      | some marker =>
        obtain ⟨task, htask, -⟩ := hinv.current hmarker
        rw [show s.tasks.find? t = none from hnew] at htask
        cases htask
  bounded {t v plan} hplan := by
    rw [h.plans] at hplan
    obtain ⟨task, current, htask, hcurrent, hle⟩ := hinv.bounded hplan
    obtain ⟨task', htask', hsame⟩ := h.versions.kept t task htask
    exact ⟨task', current, htask', hsame.trans hcurrent, hle⟩

/-- Every plan of a task is older than the one an activation would install. -/
theorem older (hinv : PlanInv s) (htask : s.tasks.find? t = some task) {v : Nat} {plan : PlanRow}
    (hplan : s.plans.find? (t, v) = some plan) : v < task.planVersion.getD 0 + 1 := by
  obtain ⟨task', current, htask', hcurrent, hle⟩ := hinv.bounded hplan
  obtain rfl := Option.some.inj (htask.symm.trans htask')
  rw [hcurrent]
  exact Nat.lt_succ_of_le hle

/-- The rows of the plans after one was installed under a version that was free. -/
theorem setPlan_came {v : Nat} {plan plan' : PlanRow} {k : String × Nat}
    (hfree : (s.retirePlan t).plans.find? (t, v) = none)
    (h : (s.setPlan t v plan).plans.find? k = some plan') :
    k = (t, v) ∧ plan' = plan ∨ k ≠ (t, v) ∧ (s.retirePlan t).plans.find? k = some plan' := by
  change ((s.retirePlan t).plans.insert (t, v) plan).find? k = _ at h
  rw [Table.find?_insert hfree] at h
  split at h
  · next hk => exact .inl ⟨hk, (Option.some.inj h).symm⟩
  · next hk => exact .inr ⟨hk, h⟩

/-- Installing the next plan of a task keeps the invariant. -/
theorem setPlan {plan : PlanRow} (hinv : PlanInv s) (htask : s.tasks.find? t = some task)
    (hactive : plan.status = .active)
    (hfree : (s.retirePlan t).plans.find? (t, task.planVersion.getD 0 + 1) = none) :
    PlanInv (s.setPlan t (task.planVersion.getD 0 + 1) plan) where
  marked {t' v' plan'} hplan' hactive' := by
    rw [DB.setPlan_markers]
    rcases setPlan_came hfree hplan' with ⟨heq, -⟩ | ⟨-, hretired⟩
    · obtain ⟨rfl, rfl⟩ := Prod.mk.inj heq
      exact if_pos rfl
    · obtain ⟨plan₀, hplan₀, hkept⟩ := DB.retirePlan_plans hretired
      obtain ⟨rfl, hother⟩ := hkept hactive'
      have hmarker := hinv.marked hplan₀ hactive'
      have hne : t' ≠ t := by
        rintro rfl
        exact hother v' hmarker rfl
      rw [if_neg hne, hmarker]
  active {t' v'} hmarker := by
    change ∃ plan', ((s.retirePlan t).plans.insert (t, _) plan).find? (t', v') = some plan' ∧ _
    rw [DB.setPlan_markers] at hmarker
    rw [Table.find?_insert hfree]
    split at hmarker
    · next heq =>
      obtain rfl : _ = v' := congrArg ActivePlanMarker.planVersion (Option.some.inj hmarker)
      exact ⟨plan, by rw [heq, if_pos rfl], hactive⟩
    · next hne =>
      obtain ⟨plan', hplan', hactive'⟩ := hinv.active hmarker
      refine ⟨plan', ?_, hactive'⟩
      rw [if_neg fun heq ↦ hne (Prod.mk.inj heq).1]
      exact (DB.retirePlan_kept s t hne).trans hplan'
  version {t' task'} htask' := by
    rw [DB.setPlan_markers]
    change (s.tasks.modify t _).find? t' = _ at htask'
    rw [Table.find?_modify] at htask'
    split at htask'
    · next heq =>
      obtain ⟨_, -, rfl⟩ := Option.map_eq_some_iff.mp htask'
      rw [if_pos heq]
      rfl
    · next hne =>
      rw [if_neg hne]
      exact hinv.version htask'
  bounded {t' v' plan'} hplan' := by
    have hplaced : (s.setPlan t (task.planVersion.getD 0 + 1) plan).tasks.find? t =
        some { task with planVersion := some (task.planVersion.getD 0 + 1) } := by
      change (s.tasks.modify t _).find? t = _
      rw [Table.find?_modify_self, htask]
      rfl
    rcases setPlan_came hfree hplan' with ⟨heq, -⟩ | ⟨-, hretired⟩
    · obtain ⟨rfl, rfl⟩ := Prod.mk.inj heq
      exact ⟨_, _, hplaced, rfl, Nat.le_refl _⟩
    · obtain ⟨plan₀, hplan₀, -⟩ := DB.retirePlan_plans hretired
      by_cases ht : t' = t
      · subst ht
        exact ⟨_, _, hplaced, rfl, Nat.le_of_lt (hinv.older htask hplan₀)⟩
      · obtain ⟨task', current, htask', hcurrent, hle⟩ := hinv.bounded hplan₀
        refine ⟨task', current, ?_, hcurrent, hle⟩
        exact (Table.find?_modify_of_ne ht _ _).trans htask'

end PlanInv

/-! ## What a step may do to the plans -/

/-- A plan was installed as a command asked. -/
structure InstallsPlan (env : Env) (auth : AuthContext) (p : Payload) (operation : Operation)
    (s s' : DB) (r : PlanRequest) (task : TaskRow) (version : Nat) (contract : ContractRow) :
    Prop where
  asks : Asks auth p s operation r
  admitted : PlanAdmitted auth s r task version contract
  free : (s.retirePlan r.taskId).plans.find? (r.taskId, task.planVersion.getD 0 + 1) = none
  rest : NoPlanInstalled (s.setPlan r.taskId (task.planVersion.getD 0 + 1)
    (newPlan env task version r.nodes r.edges)) s'
  stages : ∃ n v u₁ u₂ u₃ u₄ u, PlanStages env auth r { s with drawn := n } u task version contract
    v u₁ u₂ u₃ u₄ ∧ Writes requestRecords u s'

namespace InstallsPlan

variable {operation : Operation} {r : PlanRequest} {version n : Nat} {contract : ContractRow}

theorem of_activatePlan (hasks : Asks auth p s operation r)
    (h : activatePlan env auth r s = .ok (result, s')) :
    ∃ task version contract, InstallsPlan env auth p operation s s' r task version contract := by
  obtain ⟨task, version, contract, v, u₁, u₂, u₃, u₄, hstages⟩ := activatePlan_stages h
  obtain ⟨rfl, hfree, hrest⟩ := hstages.installs
  exact ⟨task, version, contract, hasks, hstages.admitted, hfree, hrest,
    s.drawn, _, u₁, u₂, u₃, u₄, s', hstages, Preord.refl s'⟩

/-- The records of requests do not matter. -/
theorem trans (h : InstallsPlan env auth p operation s s' r task version contract)
    (h' : Writes requestRecords s' s'') :
    InstallsPlan env auth p operation s s'' r task version contract := by
  obtain ⟨n, v, u₁, u₂, u₃, u₄, u, hstages, hrecords⟩ := h.stages
  have hkept : NoPlanInstalled s' s'' := .of_writes (h'.mono (by decide))
  exact ⟨h.asks, h.admitted, h.free, Preord.trans h.rest hkept,
    n, v, u₁, u₂, u₃, u₄, u, hstages, Preord.trans hrecords h'⟩

/-- The identifiers that were drawn before do not matter. -/
theorem of_drawn
    (h : InstallsPlan env auth p operation { s with drawn := n } s' r task version contract) :
    InstallsPlan env auth p operation s s' r task version contract := by
  have hretire : (DB.retirePlan { s with drawn := n } r.taskId).plans =
        (s.retirePlan r.taskId).plans ∧
      (DB.retirePlan { s with drawn := n } r.taskId).activePlanMarkers =
        (s.retirePlan r.taskId).activePlanMarkers := by
    rw [DB.retirePlan, DB.retirePlan]
    cases s.activePlanMarkers.find? r.taskId <;> exact ⟨rfl, rfl⟩
  have hsame (v : Nat) (plan : PlanRow) : NoPlanInstalled (s.setPlan r.taskId v plan)
      (DB.setPlan { s with drawn := n } r.taskId v plan) := by
    refine ⟨?_, ?_, .of_read rfl⟩
    · dsimp only [DB.setPlan]
      rw [hretire.1]
    · dsimp only [DB.setPlan]
      rw [hretire.2]
  exact ⟨h.asks.of_drawn, h.admitted.of_drawn, hretire.1 ▸ h.free, Preord.trans (hsame _ _) h.rest,
    h.stages⟩

/-- What a command asks for and what is activated is installed. -/
theorem of_request (hasks : Asks auth p s operation r)
    (h : activatePlan env auth r { s with drawn := n } = .ok (result, s')) :
    ∃ r task version contract, InstallsPlan env auth p operation s s' r task version contract := by
  have hdrawn : Asks auth p { s with drawn := n } operation r := hasks.drawn
  obtain ⟨task, version, contract, hinstall⟩ := of_activatePlan hdrawn h
  exact ⟨r, task, version, contract, hinstall.of_drawn⟩

theorem inv (h : InstallsPlan env auth p operation s s' r task version contract)
    (hinv : PlanInv s) : PlanInv s' :=
  (hinv.setPlan h.admitted.found rfl h.free).of_kept h.rest

end InstallsPlan

/-- A command installs no plan, or the one that it asks for. -/
theorem handler_plans {operation : Operation}
    (h : handler env auth p operation s = .ok (result, s')) :
    NoPlanInstalled s s' ∨ ∃ r task version contract,
      InstallsPlan env auth p operation s s' r task version contract := by
  cases hactivates : operation.activates
  case true =>
    rcases handler_activates hactivates h with ⟨r, n, hasks, hplan⟩ | hevents | ⟨_, hpropose⟩
    · exact .inr (InstallsPlan.of_request hasks hplan)
    · exact .inl (Indifferent.writes hevents)
    · exact .inl (Respects.rel hpropose)
  case false =>
    cases operation
    all_goals first
      | exact absurd hactivates (by decide)
      | dsimp only [handler] at h
        exact .inl (Respects.rel h)

/-- A step installs a plan, or it does what the handlers and the background do that install none. -/
theorem step_installs {R : DB → DB → Prop} [Frame R] [Background R]
    (hrecords : ∀ {s s'}, Writes requestRecords s s' → R s s')
    (hhandler : ∀ {env auth p operation n s' result},
      handler env auth p operation { w.db with drawn := n } = .ok (result, s') →
        R { w.db with drawn := n } s' ∨ ∃ r task version contract,
          InstallsPlan env auth p operation { w.db with drawn := n } s' r task version contract)
    (hstep : system.step w l = some w') :
    R w.db w'.db ∨ ∃ env request r task version contract,
      l = .command env request ∧ InstallsPlan env request.auth request.payload request.operation
        w.db w'.db r task version contract := by
  cases l
  case command env request =>
    rcases step_command hstep with hwrites | ⟨u, u', result, hran, hwrites⟩
    · exact .inl (hrecords hwrites)
    obtain ⟨n, rfl⟩ := hran.start
    rcases hhandler hran.run with hnone | ⟨r, task, version, contract, hinstall⟩
    · have hdrawn : R w.db { w.db with drawn := n } := Frame.still (writes_drawn _ _)
      exact .inl (Preord.trans hdrawn (Preord.trans hnone (hrecords hwrites)))
    · exact .inr ⟨env, request, r, task, version, contract, rfl, (hinstall.trans hwrites).of_drawn⟩
  all_goals exact .inl (step_background Preord.refl rfl hstep)

/-- Plans are installed by commands only. -/
theorem step_plans (hstep : system.step w l = some w') :
    NoPlanInstalled w.db w'.db ∨ ∃ env request r task version contract,
      l = .command env request ∧ InstallsPlan env request.auth request.payload request.operation
        w.db w'.db r task version contract :=
  step_installs (fun hw ↦ .of_writes (hw.mono (by decide))) handler_plans hstep

theorem planInv_invariant (ok : World → Label → Prop) :
    system.Invariant ok fun w ↦ PlanInv w.db where
  init := ⟨(fun h ↦ nomatch h), (fun h ↦ nomatch h), (fun h ↦ nomatch h), (fun h ↦ nomatch h)⟩
  step _ _ _ h _ hstep := by
    rcases step_plans hstep with hnone | ⟨_, _, _, _, _, _, -, hinstall⟩
    · exact h.of_kept hnone
    · exact hinstall.inv h

/-! ## Compare and swap -/

/-- The version of the plan of a task; a task without a plan is at version 0. -/
def DB.planVersion (s : DB) (t : String) : Nat :=
  ((s.tasks.find? t).bind TaskRow.planVersion).getD 0

/-- A command carries the version that it expects the plan of a task to be at. -/
def Expects (t : String) (e : Int) : Label → Prop
  | .command _ r => (r.operation = .activatePlan ∨ r.operation = .submitPlanProposal) ∧
      r.payload.taskId = some t ∧ r.payload.expectedPlanVersion = some e
  | _ => False

/-- Plans, specs, units and workspaces are as they were. -/
structure PlanningSame (s s' : DB) : Prop where
  plans : s'.plans = s.plans
  markers : s'.activePlanMarkers = s.activePlanMarkers
  specs : s'.workUnitSpecs = s.workUnitSpecs
  units : s'.workUnitExecutions = s.workUnitExecutions
  workspaces : s'.workspaces = s.workspaces

/-- A plan of a task became ACTIVE, as the only one and with the largest version. -/
structure Swaps (s s' : DB) (t : String) : Prop where
  next : s'.planVersion t = s.planVersion t + 1
  larger : ∀ v plan, s.plans.find? (t, v) = some plan → v < s'.planVersion t
  only : ∀ v, (∃ plan, s'.plans.find? (t, v) = some plan ∧ plan.status = .active) ↔
    v = s'.planVersion t

/-- Of a task that has no plan yet version 0 is expected. -/
def BaseStated (s : DB) (t : String) (e : Int) : Prop :=
  ∀ task, s.tasks.find? t = some task → task.planVersion = none → e = 0

theorem PlanningSame.of_writes
    (h : Writes [.tasks, .decisions, .gates, .events, .inbox, .idempotencyKeys] s s') :
    PlanningSame s s' where
  plans := ((h .plans).2 (by decide)).symm
  markers := ((h .activePlanMarkers).2 (by decide)).symm
  specs := ((h .workUnitSpecs).2 (by decide)).symm
  units := ((h .workUnitExecutions).2 (by decide)).symm
  workspaces := ((h .workspaces).2 (by decide)).symm

/-- The version of a task that is stored. -/
theorem DB.planVersion_of (htask : s.tasks.find? t = some task) :
    s.planVersion t = task.planVersion.getD 0 := by
  rw [DB.planVersion, htask]
  rfl

theorem InstallsPlan.swaps {operation : Operation} {r : PlanRequest} {version : Nat}
    {contract : ContractRow} (hinv : PlanInv s)
    (h : InstallsPlan env auth p operation s s' r task version contract) :
    Swaps s s' r.taskId := by
  have hinv' : PlanInv s' := h.inv hinv
  have hbefore : s.planVersion r.taskId = task.planVersion.getD 0 :=
    DB.planVersion_of h.admitted.found
  have hmarker : s'.activePlanMarkers.find? r.taskId = some ⟨task.planVersion.getD 0 + 1⟩ := by
    rw [h.rest.markers, DB.setPlan_markers, if_pos rfl]
  have hafter : s'.planVersion r.taskId = task.planVersion.getD 0 + 1 := by
    obtain ⟨task', htask', hversion⟩ := hinv'.current hmarker
    rw [DB.planVersion_of htask', hversion]
    rfl
  refine ⟨by rw [hafter, hbefore], fun v plan hplan ↦ ?_, fun v ↦ ⟨?_, ?_⟩⟩
  · rw [hafter]
    exact hinv.older h.admitted.found hplan
  · rintro ⟨plan, hplan, hactive⟩
    have hsame := (hinv'.marked hplan hactive).symm.trans hmarker
    rw [hafter]
    exact congrArg ActivePlanMarker.planVersion (Option.some.inj hsame)
  · rintro rfl
    rw [hafter]
    exact hinv'.active hmarker

/-- A command that carries an expected version asks for one plan, or it installs none. -/
theorem expects_handler {operation : Operation} {e : Int}
    (hoperation : operation = .activatePlan ∨ operation = .submitPlanProposal)
    (hnamed : p.taskId = some t) (hexpected : p.expectedPlanVersion = some e)
    (h : handler env auth p operation s = .ok (result, s')) :
    Writes [.tasks, .decisions, .gates, .events] s s' ∨ ∃ r task version contract,
      InstallsPlan env auth p operation s s' r task version contract ∧
        r.taskId = t ∧ r.expectedPlanVersion = some e := by
  have hasked {r : PlanRequest} (hasks : Asks auth p s operation r) :
      r.taskId = t ∧ r.expectedPlanVersion = some e := by
    cases hasks with
    | plan named | proposal named => exact ⟨Option.some.inj (named.symm.trans hnamed), hexpected⟩
    | minimal | repair => rcases hoperation with h | h <;> cases h
  have hinstalls {r : PlanRequest} (hasks : Asks auth p s operation r)
      (hplan : activatePlan env auth r s = .ok (result, s')) : ∃ r task version contract,
      InstallsPlan env auth p operation s s' r task version contract ∧
        r.taskId = t ∧ r.expectedPlanVersion = some e := by
    obtain ⟨task, version, contract, hinstall⟩ := InstallsPlan.of_activatePlan hasks hplan
    exact ⟨r, task, version, contract, hinstall, hasked hasks⟩
  rcases hoperation with rfl | rfl
  · obtain ⟨r, hasks, hplan⟩ := activatePlanCommand_ok h
    exact .inr (hinstalls hasks hplan)
  · rcases submitPlanProposal_ok h with ⟨_, _, _, _, -, -, -, -, -, hrefused⟩ | ⟨r, hasks, hplan⟩
    · rcases hrefused with ⟨-, hw⟩ | ⟨-, -, hpropose⟩
      · exact .inl (hw.mono (by decide))
      · exact .inl (Respects.rel hpropose)
    · exact .inr (hinstalls hasks hplan)

/-- A command that carries an expected version changes nothing, or it swaps the plan; then the
expected version is the current one unless there was no plan to compare it with. -/
theorem expects_swaps {e : Int} (hinv : PlanInv w.db) (hexpects : Expects t e l)
    (hstep : system.step w l = some w') :
    PlanningSame w.db w'.db ∨ Swaps w.db w'.db t ∧
      (((w.db.planVersion t : Nat) : Int) = e ↔ BaseStated w.db t e) := by
  cases l
  case command env request =>
    obtain ⟨hoperation, hnamed, hexpected⟩ := hexpects
    rcases step_command hstep with hrecords | ⟨u, u', result, hran, hrecords⟩
    · exact .inl (.of_writes (hrecords.mono (by decide)))
    obtain ⟨n, rfl⟩ := hran.start
    rcases expects_handler hoperation hnamed hexpected hran.run with
      hrefused | ⟨r, task, version, contract, hinstall, rfl, hexpected'⟩
    · exact .inl (.of_writes (Preord.trans (writes_drawn w.db n)
        (Preord.trans (hrefused.mono (by decide)) (hrecords.mono (by decide)))))
    · have hwhole := (hinstall.trans hrecords).of_drawn
      have htask := hwhole.admitted.found
      refine .inr ⟨hwhole.swaps hinv, ?_⟩
      rw [DB.planVersion_of htask]
      constructor
      · intro hsame task' htask' hnone
        obtain rfl := Option.some.inj (htask.symm.trans htask')
        rw [hnone] at hsame
        exact hsame.symm
      · intro hstated
        cases hversion : task.planVersion with
        | none => exact (hstated task htask hversion).symm
        | some v => exact (hwhole.admitted.planVersion e v hexpected' hversion).symm
  all_goals exact hexpects.elim

/-- A task that has a plan keeps having one, and its version does not decrease. -/
theorem step_planVersion {v : Nat} (hstep : system.step w l = some w')
    (h : ∃ task c, w.db.tasks.find? t = some task ∧ task.planVersion = some c ∧ v ≤ c) :
    ∃ task c, w'.db.tasks.find? t = some task ∧ task.planVersion = some c ∧ v ≤ c := by
  obtain ⟨task, c, htask, hversion, hle⟩ := h
  rcases step_plans hstep with hnone | ⟨_, _, r, task₀, _, _, -, hinstall⟩
  · obtain ⟨task', htask', hsame⟩ := hnone.versions.kept t task htask
    exact ⟨task', c, htask', hsame.trans hversion, hle⟩
  · by_cases ht : t = r.taskId
    · subst ht
      obtain rfl := Option.some.inj (htask.symm.trans hinstall.admitted.found)
      obtain ⟨task', htask', hsame⟩ := hinstall.rest.versions.kept r.taskId
        { task with planVersion := some (task.planVersion.getD 0 + 1) } (by
          change (w.db.tasks.modify r.taskId _).find? r.taskId = _
          rw [Table.find?_modify_self, htask]
          rfl)
      refine ⟨task', c + 1, htask', hsame.trans ?_, Nat.le_succ_of_le hle⟩
      rw [hversion]
      rfl
    · obtain ⟨task', htask', hsame⟩ := hinstall.rest.versions.kept t task
        ((Table.find?_modify_of_ne ht _ _).trans htask)
      exact ⟨task', c, htask', hsame.trans hversion, hle⟩

/-- The commands with which the sample activates its first plan. -/
def samplePlan (e : Int) : Label :=
  .ask (.ofHuman "owner") .activatePlan
    { taskId := some "task_i", nodes := some [{ workUnitId := "unit" }]
      expectedPlanVersion := some e }

/-- A plan is activated against the version that is expected if and only if 0 is expected of a task
without a plan. Under this condition no other plan is activated against the same version, and what
is refused leaves no trace. -/
theorem plan_activation_swaps {w w' : World} {l : Label} {t : String} {e : Int}
    (hw : system.Reachable w) (hexpects : Expects t e l) (hstep : system.step w l = some w') :
    (PlanningSame w.db w'.db ∨ Swaps w.db w'.db t ∧
      (((w.db.planVersion t : Nat) : Int) = e ↔ BaseStated w.db t e)) ∧
    (Swaps w.db w'.db t → BaseStated w.db t e →
      ∀ w₁ l₁ w₂, system.Run (fun _ _ ↦ True) w' w₁ → Expects t e l₁ →
        system.step w₁ l₁ = some w₂ → PlanningSame w₁.db w₂.db) := by
  have hinv : PlanInv w.db := (planInv_invariant fun _ _ ↦ True).of_reachable hw
  have hfirst := expects_swaps hinv hexpects hstep
  refine ⟨hfirst, fun hswaps hstated w₁ l₁ w₂ hrun hexpects₁ hstep₁ ↦ ?_⟩
  have hbase : ((w.db.planVersion t : Nat) : Int) = e := by
    rcases hfirst with hsame | ⟨-, hiff⟩
    · -- the marker names the next plan, so the plans are not the same
      obtain ⟨plan, hplan, -⟩ := (hswaps.only _).mpr rfl
      rw [hsame.plans] at hplan
      exact absurd (hswaps.larger _ plan hplan) (Nat.lt_irrefl _)
    · exact hiff.mpr hstated
  have hinv' : PlanInv w'.db := (planInv_invariant fun _ _ ↦ True).step _ _ _ hinv trivial hstep
  have hstart : ∃ task c, w'.db.tasks.find? t = some task ∧ task.planVersion = some c ∧
      w.db.planVersion t + 1 ≤ c := by
    obtain ⟨plan, hplan, hactive⟩ := (hswaps.only _).mpr rfl
    obtain ⟨task, htask, hversion⟩ := hinv'.current (hinv'.marked hplan hactive)
    exact ⟨task, _, htask, hversion, Nat.le_of_eq hswaps.next.symm⟩
  obtain ⟨task, c, htask, hversion, hle⟩ : ∃ task c, w₁.db.tasks.find? t = some task ∧
      task.planVersion = some c ∧ w.db.planVersion t + 1 ≤ c :=
    hrun.induct (P := fun w ↦ ∃ task c, w.db.tasks.find? t = some task ∧
      task.planVersion = some c ∧ _ ≤ c) hstart fun _ _ _ h _ hstep ↦ step_planVersion hstep h
  have hinv₁ : PlanInv w₁.db :=
    hrun.induct hinv' fun _ _ _ h _ hstep ↦ (planInv_invariant fun _ _ ↦ True).step _ _ _ h trivial
      hstep
  rcases expects_swaps hinv₁ hexpects₁ hstep₁ with hsame | ⟨-, hiff⟩
  · exact hsame
  · have hstated₁ : BaseStated w₁.db t e := fun task' htask' hnone ↦ by
      obtain rfl := Option.some.inj (htask.symm.trans htask')
      rw [hversion] at hnone
      cases hnone
    have hagain := hiff.mpr hstated₁
    rw [DB.planVersion_of htask, hversion, Option.getD_some] at hagain
    omega

/-- The version of the plan of the sample, and its ACTIVE plan. -/
def samplePlans (w : World) : Nat × Option ActivePlanMarker :=
  (w.db.planVersion "task_i", w.db.activePlanMarkers.find? "task_i")

/-- The sample has no plan, version 7 is expected, and a plan is activated. -/
theorem samplePlan_unmatched :
    ∃ w w', system.Reachable w ∧ system.step w (samplePlan 7) = some w' ∧
      Expects "task_i" 7 (samplePlan 7) ∧ w.db.planVersion "task_i" = 0 ∧
      w.db.activePlanMarkers.find? "task_i" = none ∧
      w'.db.activePlanMarkers.find? "task_i" = some ⟨1⟩ := by
  have hview : (system.exec system.init (sampleGated.take 3)).bind (fun w ↦
      (system.step w (samplePlan 7)).map fun w' ↦ (samplePlans w, samplePlans w')) =
      some ((0, none), (1, some ⟨1⟩)) := by
    decide +kernel
  obtain ⟨w, hexec, hrest⟩ := Option.bind_eq_some_iff.mp hview
  obtain ⟨w', hstep, hplans⟩ := Option.map_eq_some_iff.mp hrest
  simp only [samplePlans, Prod.mk.injEq] at hplans
  obtain ⟨⟨hversion, hnone⟩, -, hsome⟩ := hplans
  exact ⟨w, w', .of_exec hexec, hstep, ⟨.inl rfl, rfl, rfl⟩, hversion, hnone, hsome⟩

/-- The sample has no plan and version 0 is expected, so no second plan is activated against it. -/
theorem plan_activation_swaps_samplePlan :
    ∃ w w', system.Reachable w ∧ system.step w (samplePlan 0) = some w' ∧
      BaseStated w.db "task_i" 0 ∧ w'.db.activePlanMarkers.find? "task_i" = some ⟨1⟩ ∧
      ∀ w₂, system.step w' (samplePlan 0) = some w₂ → PlanningSame w'.db w₂.db := by
  have hview : (system.exec system.init (sampleGated.take 3)).bind (fun w ↦
      (system.step w (samplePlan 0)).map fun w' ↦ (samplePlans w, samplePlans w')) =
      some ((0, none), (1, some ⟨1⟩)) := by
    decide +kernel
  obtain ⟨w, hexec, hrest⟩ := Option.bind_eq_some_iff.mp hview
  obtain ⟨w', hstep, hplans⟩ := Option.map_eq_some_iff.mp hrest
  simp only [samplePlans, Prod.mk.injEq] at hplans
  obtain ⟨⟨hversion, hnone⟩, hversion', hsome⟩ := hplans
  have hexpects : Expects "task_i" 0 (samplePlan 0) := ⟨.inl rfl, rfl, rfl⟩
  have hstated : BaseStated w.db "task_i" 0 := fun _ _ _ ↦ rfl
  obtain ⟨hfirst, hsecond⟩ := plan_activation_swaps (.of_exec hexec) hexpects hstep
  refine ⟨w, w', .of_exec hexec, hstep, hstated, hsome, fun w₂ hstep₂ ↦ ?_⟩
  rcases hfirst with hsame | ⟨hswaps, -⟩
  · rw [hsame.markers, hnone] at hsome
    cases hsome
  · exact hsecond hswaps hstated w' _ w₂ .refl hexpects hstep₂

end HibikiCore
