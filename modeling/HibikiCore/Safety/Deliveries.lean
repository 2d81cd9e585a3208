import HibikiCore.Safety.Alignment
import HibikiCore.Safety.References

/-!
# What a plan delivers

The units of a plan that is complete are done, each with the result that it has selected. What the
units declare then changes in three ways only: a result completes a unit, the run whose result a unit
has selected submits again, or another plan takes the place of this one. So if none of these leaves
a hash that is declared and that no unit produces, there is none when an acceptance is prepared.
-/

namespace HibikiCore

set_option synthInstance.maxSize 100000000
set_option synthInstance.maxHeartbeats 400000

variable {env : Env} {auth : AuthContext} {p : Payload} {r : PlanRequest} {task : TaskRow}
  {run : AgentRunRow} {flushed s s' : DB} {w w' : World} {l : Label}
  {taskId runId wuId ref hash title outboxId sessionId : String} {objective : Option String}
  {contract : ContractContent} {nodes : List RawNode} {node : RawNode} {result : RunResult}
  {reply : CommandResult} {operation : Operation}

/-! ## The definitions of units -/

/-- The definition that a unit is bound to is stored. -/
def UnitsSpecified (s : DB) : Prop :=
  ∀ wuId u, s.workUnitExecutions.find? wuId = some u →
    ∃ spec, s.workUnitSpecs.find? (wuId, u.specVersion) = some spec

theorem UnitsSpecified.of_step (h : UnitsSpecified w.db) (halign : AlignInv w.db)
    (hstep : system.step w l = some w') : UnitsSpecified w'.db := by
  have hpersist : Persists w.db w'.db := step_rel hstep
  have hkept {wuId : String} {u : WorkUnitExecutionRow} {version : Nat}
      (hu : w.db.workUnitExecutions.find? wuId = some u) (hversion : version = u.specVersion) :
      ∃ spec, w'.db.workUnitSpecs.find? (wuId, version) = some spec := by
    obtain ⟨spec, hspec⟩ := h wuId u hu
    exact ⟨spec, hversion ▸ hpersist.spec hspec⟩
  intro wuId u' hu'
  rcases step_bound hstep with hbound | ⟨_, _, r, _, _, _, -, hinstall⟩
  · -- whatever a listed node names is what its unit was bound to
    have hlisted {n : RawNode} (hn : Listed w.db n) :
        ∃ spec, w'.db.workUnitSpecs.find? (n.workUnitId, n.version) = some spec := by
      obtain ⟨t, v, plan, hmarker, hplan, hnode⟩ := hn
      obtain ⟨u, hu, -, hversion⟩ := (halign.aligned t v plan hmarker hplan n hnode).unit
      exact hkept hu hversion.symm
    rcases hbound.origin hu' with ⟨u, hu, hsame | ⟨n, hn, rfl, hversion⟩⟩ | ⟨-, n, hn, rfl, hversion⟩
    · exact hkept hu hsame
    · exact hversion ▸ hlisted hn
    · exact hversion ▸ hlisted hn
  · have hnew {n : RawNode} (hn : n ∈ r.nodes) :
        ∃ spec, w'.db.workUnitSpecs.find? (n.workUnitId, n.version) = some spec := by
      obtain ⟨spec, hspec, -⟩ := hinstall.defines hn
      exact ⟨spec, hspec⟩
    rcases hinstall.bound.origin hu' with
      ⟨u, hu, hsame | ⟨n, hn, rfl, hversion⟩⟩ | ⟨-, n, hn, rfl, hversion⟩
    · exact hkept hu hsame
    · exact hversion ▸ hnew hn
    · exact hversion ▸ hnew hn

/-- A node that is installed finds its unit, if that has ended, bound to the version it names. -/
theorem installNode_ended (hu : s.workUnitExecutions.find? node.workUnitId = some u)
    (hended : u.status.isTerminal = true)
    (h : installNode env taskId objective title contract node s = .ok ((), s')) :
    u.specVersion = node.version ∧ s'.workUnitExecutions = s.workUnitExecutions := by
  obtain ⟨_, t₁, hspec, h₁⟩ := Tx.bind_ok.mp h
  obtain ⟨_, t₂, hunit, hworkspace⟩ := Tx.bind_ok.mp h₁
  have hbefore : Writes [.workUnitSpecs] s t₁ := Respects.rel hspec
  have hafter : Writes [.workspaces] t₂ s' := Respects.rel hworkspace
  have hsame : s.workUnitExecutions = t₁.workUnitExecutions :=
    (hbefore .workUnitExecutions).2 (by decide)
  have hkept : t₂.workUnitExecutions = s'.workUnitExecutions :=
    (hafter .workUnitExecutions).2 (by decide)
  rw [hsame] at hu
  rw [installUnit, Tx.get_bind_ok, hu] at hunit
  rcases Tx.ite_ok.mp hunit with ⟨-, hcheck⟩ | ⟨hlive, -⟩
  · obtain ⟨hversion, rfl⟩ := Tx.check_ok.mp hcheck
    exact ⟨hversion, (hsame.trans hkept).symm⟩
  · exact absurd hended hlive

/-- A plan that is installed names the units that have ended with the versions they are bound to. -/
theorem alignUnits_ended (hnode : node ∈ nodes)
    (hu : s.workUnitExecutions.find? node.workUnitId = some u)
    (hended : u.status.isTerminal = true)
    (h : alignUnits env flushed taskId objective title contract nodes s = .ok ((), s')) :
    u.specVersion = node.version := by
  rw [alignUnits] at h
  obtain ⟨_, t, hinstall, -⟩ := Tx.bind_ok.mp h
  refine Tx.each_mem
    (I := fun v : DB ↦ ∃ b, v.workUnitExecutions.find? node.workUnitId = some b ∧
      b.status = u.status ∧ b.specVersion = u.specVersion)
    (P := fun _ ↦ u.specVersion = node.version) hnode (fun n _ v v' hv hround ↦ ?_)
    (fun v v' hv hround ↦ ?_) (fun _ _ _ _ _ hsame _ ↦ hsame) ⟨u, hu, rfl, rfl⟩ hinstall
  · obtain ⟨b, hb, hstatus, hversion⟩ := hv
    by_cases hsame : n.workUnitId = node.workUnitId
    · obtain ⟨-, hunits⟩ := installNode_ended (hsame ▸ hb) (hstatus ▸ hended) hround
      exact ⟨b, hunits ▸ hb, hstatus, hversion⟩
    · have hbound := (BoundTo.installNode_respects (P := (· = n)) rfl).rel hround
      have hstays : Units UnitKeeps v v' := Respects.rel hround
      obtain ⟨b₁, hb₁, hstatus₁⟩ := hstays _ b hb
      obtain ⟨b₂, hb₂, hversion₂ | ⟨_, rfl, hunit, -⟩⟩ := hbound.kept _ b hb
      · obtain rfl := Option.some.inj (hb₁.symm.trans hb₂)
        exact ⟨b₁, hb₁, hstatus₁.trans hstatus, hversion₂.trans hversion⟩
      · exact absurd hunit hsame
  · obtain ⟨b, hb, hstatus, hversion⟩ := hv
    exact hversion.symm.trans (installNode_ended hb (hstatus ▸ hended) hround).1

theorem InstallsPlan.ended_version {version : Nat} {contract : ContractRow}
    (h : InstallsPlan env auth p operation s s' r task version contract) (hnode : node ∈ r.nodes)
    (hu : s.workUnitExecutions.find? node.workUnitId = some u)
    (hended : u.status.isTerminal = true) : u.specVersion = node.version := by
  obtain ⟨n, v, u₁, u₂, u₃, u₄, u₅, hstages, -⟩ := h.stages
  have hinstall : Writes [.plans, .activePlanMarkers, .tasks] { s with drawn := n } u₁ :=
    Respects.rel hstages.install
  have hsupersede : Writes [.decisions, .gates] u₁ u₂ := Respects.rel hstages.supersede
  have hbefore : s.workUnitExecutions = u₂.workUnitExecutions :=
    ((hinstall .workUnitExecutions).2 (by decide)).trans
      ((hsupersede .workUnitExecutions).2 (by decide))
  exact alignUnits_ended hnode (hbefore ▸ hu) hended hstages.align

/-! ## What a node delivers after a step -/

/-- What a node delivers is delivered by it in another state too. -/
def StillDelivers (s s' : DB) (node : RawNode) : Prop :=
  ∀ wu delivery, Delivers s node wu delivery → ∃ wu', Delivers s' node wu' delivery ∧
    (isVerification s' node wu' ↔ isVerification s node wu)

theorem Produced.carried (h : Produced s nodes hash)
    (hcarries : ∀ node ∈ nodes, StillDelivers s s' node) : Produced s' nodes hash := by
  obtain ⟨node, hnode, wu, delivery, hdelivers, hproduces, hmem⟩ := h
  obtain ⟨wu', hdelivers', hsame⟩ := hcarries node hnode wu delivery hdelivers
  exact ⟨node, hnode, wu', delivery, hdelivers', fun h ↦ hproduces (hsame.mp h), hmem⟩

theorem Redeclared.carried (h : Redeclared s nodes hash)
    (hcarries : ∀ node ∈ nodes, StillDelivers s s' node) : Redeclared s' nodes hash := by
  obtain ⟨node, hnode, wu, delivery, hdelivers, hdeclared⟩ := h
  obtain ⟨wu', hdelivers', hsame⟩ := hcarries node hnode wu delivery hdelivers
  exact ⟨node, hnode, wu', delivery, hdelivers', hdeclared.imp id (And.imp_left hsame.mpr)⟩

/-- The unit of a node that is done, with the only run that has given the result it has selected. -/
structure Settled (s : DB) (node : RawNode) (u : WorkUnitExecutionRow) (ref runId : String)
    (run : AgentRunRow) : Prop where
  unit : s.workUnitExecutions.find? node.workUnitId = some u
  done : u.status = .done
  selected : truthy u.selectedResultRef = some ref
  found : s.agentRuns.find? runId = some run
  owner : run.workUnitId = some node.workUnitId
  reference : run.resultRef = some ref
  once : ¬SelectedTwice s node

namespace Settled

theorem delivers (h : Settled s node u ref runId run) :
    Delivers s node u (run.result.getD {}) :=
  ⟨h.unit, h.done, ref, runId, run, h.selected, h.found, h.owner, h.reference, rfl⟩

theorem delivery {wu : WorkUnitExecutionRow} (h : Settled s node u ref runId run)
    (hdelivers : Delivers s node wu result) : wu = u ∧ run.result.getD {} = result := by
  obtain ⟨hwu, hdone, ref', runId', run', href, hrun, howner, hreference, hresult⟩ := hdelivers
  obtain rfl := Option.some.inj (h.unit.symm.trans hwu)
  obtain rfl := Option.some.inj (h.selected.symm.trans href)
  have hsame : runId = runId' := by
    by_contra hne
    exact h.once ⟨u, ref, runId, runId', hwu, hdone, href, hne,
      ⟨run, h.found, h.owner, h.reference⟩, run', hrun, howner, hreference⟩
  subst hsame
  obtain rfl := Option.some.inj (h.found.symm.trans hrun)
  exact ⟨rfl, hresult⟩

/-- Of a unit that is bound as before, what is delivered is the same while the run keeps its
result. -/
theorem carries {u' : WorkUnitExecutionRow} {run' : AgentRunRow}
    (h : Settled s node u ref runId run) (h' : Settled s' node u' ref runId run')
    (hresult : run'.result = run.result)
    (hverifies : isVerification s' node u' ↔ isVerification s node u) :
    StillDelivers s s' node ∧ StillDelivers s' s node := by
  constructor
  · intro wu delivery hdelivers
    obtain ⟨rfl, rfl⟩ := h.delivery hdelivers
    exact ⟨u', hresult ▸ h'.delivers, hverifies⟩
  · intro wu delivery hdelivers
    obtain ⟨rfl, rfl⟩ := h'.delivery hdelivers
    exact ⟨u, hresult ▸ h.delivers, hverifies.symm⟩

end Settled

/-- A unit that is bound to the same definition verifies as before. -/
theorem isVerification_kept {u u' : WorkUnitExecutionRow} (hspecified : UnitsSpecified s)
    (hpersist : Persists s s') (hu : s.workUnitExecutions.find? node.workUnitId = some u)
    (hversion : u'.specVersion = u.specVersion) :
    isVerification s' node u' ↔ isVerification s node u := by
  obtain ⟨spec, hspec⟩ := hspecified _ u hu
  rw [isVerification, isVerification, hversion, hspec, hpersist.spec hspec]

/-! ## Results that are taken -/

/-- A submission gives a unit its result: it is accepted and not blocked, or it is that of a run that
has ended, and whose result the unit has selected. -/
inductive Takes (s : DB) (auth : AuthContext) (p : Payload) (wuId : String) : Prop
  | completes {runId : String} {run : AgentRunRow} (accepts : Accepts s auth p runId run)
      (unit : run.workUnitId = some wuId)
      (completed : (p.result.getD {}).outcome.getD .completed ≠ .blocked)
  | replaces {runId ref : String} {run : AgentRunRow} {u : WorkUnitExecutionRow}
      (named : p.runId = some runId) (found : s.agentRuns.find? runId = some run)
      (stopped : isStoppedRunResult auth runId run = true) (unit : run.workUnitId = some wuId)
      (reference : run.resultRef = some ref) (of : s.workUnitExecutions.find? wuId = some u)
      (done : u.status = .done) (selected : truthy u.selectedResultRef = some ref)

/-- A submission is for one unit. -/
theorem Takes.unique {wuId' : String} (h : Takes s auth p wuId) (h' : Takes s auth p wuId') :
    wuId = wuId' := by
  have hrun {k : String} (h : Takes s auth p k) : ∃ runId run, p.runId = some runId ∧
      s.agentRuns.find? runId = some run ∧ run.workUnitId = some k := by
    cases h with
    | completes accepts unit => exact ⟨_, _, accepts.named, accepts.found, unit⟩
    | replaces named found _ unit => exact ⟨_, _, named, found, unit⟩
  obtain ⟨runId, run, hnamed, hfound, hunit⟩ := hrun h
  obtain ⟨runId', run', hnamed', hfound', hunit'⟩ := hrun h'
  obtain rfl := Option.some.inj (hnamed.symm.trans hnamed')
  obtain rfl := Option.some.inj (hfound.symm.trans hfound')
  exact Option.some.inj (hunit.symm.trans hunit')

/-- A step takes a result for a unit. -/
def StepTakes (w : World) (l : Label) (wuId : String) (result : RunResult) : Prop :=
  ∃ env q, l = .command env q ∧ q.operation = .submitResult ∧
    q.payload.result.getD {} = result ∧ Takes w.db q.auth q.payload wuId

theorem CompletesUnit.takes (h : CompletesUnit w l w' wuId taskId result) :
    StepTakes w l wuId result := by
  obtain ⟨env, q, runId, run, _, hl, hsubmit, hresult, haccepts, hwu, -⟩ := h.accepts
  exact ⟨env, q, hl, hsubmit, hresult, .completes haccepts hwu (hresult ▸ h.completed)⟩

/-- A run that has ended keeps its result, or it is its runtime that submits another one. -/
theorem step_result_or (hstep : system.step w l = some w')
    (hrun : w.db.agentRuns.find? runId = some run) (hended : run.status.isTerminal = true) :
    ∃ run', w'.db.agentRuns.find? runId = some run' ∧ run'.workUnitId = run.workUnitId ∧
      run'.resultRef = run.resultRef ∧
      (run'.result = run.result ∨ ∃ env q, l = .command env q ∧ q.operation = .submitResult ∧
        q.payload.runId = some runId ∧ isStoppedRunResult q.auth runId run = true ∧
        run'.result = some (q.payload.result.getD {})) := by
  obtain ⟨run', hrun', -, hunit, href⟩ := step_endedRun hstep hrun hended
  refine ⟨run', hrun', hunit, href, ?_⟩
  by_cases hrepeats : repeatsResult runId w l
  · obtain ⟨run₁, hrun₁, hsame, -⟩ := step_result hrepeats hstep hrun hended
    obtain rfl := Option.some.inj (hrun'.symm.trans hrun₁)
    exact .inl hsame
  simp only [repeatsResult, not_forall] at hrepeats
  obtain ⟨env, q, run₀, rfl, hsubmit, hnamed, hrun₀, hstopped, -⟩ := hrepeats
  obtain rfl := Option.some.inj (hrun.symm.trans hrun₀)
  rcases step_command hstep with hrecords | ⟨t, t', reply, hran, hrecords⟩
  · have hruns : w.db.agentRuns = w'.db.agentRuns := (hrecords .agentRuns).2 (by decide)
    rw [← hruns] at hrun'
    obtain rfl := Option.some.inj (hrun.symm.trans hrun')
    exact .inl rfl
  have hruns : t'.agentRuns = w'.db.agentRuns := (hrecords .agentRuns).2 (by decide)
  obtain ⟨n, rfl⟩ := hran.start
  have hhandler := hran.run
  rw [hsubmit] at hhandler
  rw [← hruns] at hrun'
  have hlive {status : AgentRunStatus} (h : status = run.status) (h' : status.isTerminal = false) :
      False := by
    rw [h, hended] at h'
    cases h'
  cases submitResult_ok hhandler with
  | stopped named found why ran =>
    obtain rfl := Option.some.inj (hnamed.symm.trans named)
    rw [recordLateResult_runs ran, Table.find?_modify_self] at hrun'
    obtain ⟨_, -, rfl⟩ := Option.map_eq_some_iff.mp hrun'
    exact .inr ⟨env, q, rfl, hsubmit, hnamed, hstopped, rfl⟩
  | overtaken named found why _ ran =>
    obtain rfl := Option.some.inj (hnamed.symm.trans named)
    obtain rfl := Option.some.inj (hrun.symm.trans found)
    cases hstopped.symm.trans why
  | marked named found =>
    obtain rfl := Option.some.inj (hnamed.symm.trans named)
    rw [Table.find?_modify_self] at hrun'
    obtain ⟨run₁, hrun₁, rfl⟩ := Option.map_eq_some_iff.mp hrun'
    obtain rfl := Option.some.inj (hrun.symm.trans hrun₁)
    exact .inl rfl
  | superseded named found live ran =>
    obtain rfl := Option.some.inj (hnamed.symm.trans named)
    obtain rfl := Option.some.inj (hrun.symm.trans found)
    exact (hlive rfl live).elim
  | accepted accepts ran =>
    obtain rfl := Option.some.inj (hnamed.symm.trans accepts.named)
    obtain rfl := Option.some.inj (hrun.symm.trans accepts.found)
    exact (hlive rfl accepts.live).elim

/-! ## One step of a node -/

structure ResultsInv (s : DB) : Prop where
  ended : RefsEnded s
  reported : SelectedReported s
  specified : UnitsSpecified s

theorem resultsInv_invariant (ok : World → Label → Prop) :
    system.Invariant ok fun w ↦ (RunsOwned w.db ∧ AlignInv w.db) ∧ ResultsInv w.db :=
  (alignInv_invariant ok).strengthen
    ⟨fun _ _ _ hrun _ ↦ (by cases hrun), fun _ _ _ hu _ _ ↦ (by cases hu),
      fun _ _ hu ↦ (by cases hu)⟩
    fun _ _ _ halign _ hinv _ hstep ↦ ⟨hinv.ended.of_step hstep,
      hinv.reported.of_step hinv.ended hstep, hinv.specified.of_step halign.2 hstep⟩

/-- A node is done, and it was before, with the same delivery. -/
structure NodeRests (s s' : DB) (node : RawNode) : Prop where
  done : NodeDone s node
  once : ¬SelectedTwice s node
  forth : StillDelivers s s' node
  back : StillDelivers s' s node

/-- A node is done with a result that the step has taken for it. -/
structure NodeReceives (w : World) (l : Label) (w' : World) (node : RawNode) (result : RunResult) :
    Prop where
  takes : StepTakes w l node.workUnitId result
  delivers : ∃ u u', w.db.workUnitExecutions.find? node.workUnitId = some u ∧
    Delivers w'.db node u' result ∧ (isVerification w'.db node u' ↔ isVerification w.db node u)
  only : ∀ wu delivery, Delivers w'.db node wu delivery → delivery = result

/-- A unit stays bound to the same definition. -/
def VersionKept (s' : DB) (node : RawNode) (u : WorkUnitExecutionRow) : Prop :=
  ∀ u', s'.workUnitExecutions.find? node.workUnitId = some u' → u'.specVersion = u.specVersion

theorem CompletesUnit.receives (h : CompletesUnit w l w' node.workUnitId taskId result)
    (hspecified : UnitsSpecified w.db) (hdone : NodeDone w'.db node)
    (honce : ¬SelectedTwice w'.db node)
    (hversion : ∀ u, w.db.workUnitExecutions.find? node.workUnitId = some u →
      VersionKept w'.db node u) : NodeReceives w l w' node result := by
  obtain ⟨_, u, -, hu, -⟩ := h.selects
  obtain ⟨ref, runId, run, u', hu', hstatus, hselected, hreports⟩ := h.reports
  obtain ⟨wu, ref', hwu, -, htruthy⟩ := hdone
  obtain rfl := Option.some.inj (hu'.symm.trans hwu)
  have hpersist : Persists w.db w'.db := step_rel h.step
  obtain rfl : ref = ref' := by
    rw [hselected, truthy, Option.filter_eq_some_iff] at htruthy
    exact Option.some.inj htruthy.1
  have hsettled : Settled w'.db node u' ref runId run :=
    ⟨hu', hstatus, htruthy, hreports.found, hreports.unit, hreports.reference, honce⟩
  have hgiven : run.result.getD {} = result := by rw [hreports.result, Option.getD_some]
  refine ⟨h.takes, ⟨u, u', hu, hgiven ▸ hsettled.delivers,
    isVerification_kept hspecified hpersist hu (hversion u hu u' hu')⟩,
    fun wu delivery hdelivers ↦ ?_⟩
  exact (hsettled.delivery hdelivers).2.symm.trans hgiven

theorem node_step (hinv : ResultsInv w.db) (hstep : system.step w l = some w')
    (hnone : ∀ taskId result, ¬CompletesUnit w l w' node.workUnitId taskId result)
    (hdone : NodeDone w'.db node) (honce : ¬SelectedTwice w'.db node)
    (hversion : ∀ u, w.db.workUnitExecutions.find? node.workUnitId = some u → u.status = .done →
      VersionKept w'.db node u) :
    NodeRests w.db w'.db node ∨ ∃ result, NodeReceives w l w' node result := by
  obtain ⟨u', ref, hu', hdone', hselected'⟩ := hdone
  have hrests := step_rests hstep hnone
  obtain ⟨u, hu, hbefore⟩ := hrests.done u' hu' hdone'
  obtain ⟨u'', hu'', hsame⟩ := hrests.kept u hu
  obtain rfl := Option.some.inj (hu'.symm.trans hu'')
  have hkept : u'.selectedResultRef = u.selectedResultRef := congrArg Prod.fst hsame
  have hselected : truthy u.selectedResultRef = some ref := hkept ▸ hselected'
  obtain ⟨runId, run, hrun, howner, hreference⟩ := hinv.reported _ u ref hu hbefore hselected
  obtain ⟨run', hrun', howner', hreference', hresult⟩ :=
    step_result_or hstep hrun (hinv.ended runId run ref hrun hreference)
  have hpersist : Persists w.db w'.db := step_rel hstep
  have honce₀ : ¬SelectedTwice w.db node := by
    rintro ⟨wu, ref', k, k', hwu, hdone₀, href', hne, hk, hk'⟩
    obtain rfl := Option.some.inj (hu.symm.trans hwu)
    exact honce ⟨u', ref', k, k', hu', hdone', hkept ▸ href', hne, hk.of_step hinv.ended hstep,
      hk'.of_step hinv.ended hstep⟩
  have hverifies : isVerification w'.db node u' ↔ isVerification w.db node u :=
    isVerification_kept hinv.specified hpersist hu (hversion u hu hbefore u' hu')
  have hsettled : Settled w.db node u ref runId run :=
    ⟨hu, hbefore, hselected, hrun, howner, hreference, honce₀⟩
  have hsettled' : Settled w'.db node u' ref runId run' :=
    ⟨hu', hdone', hselected', hrun', howner'.trans howner, hreference'.trans hreference, honce⟩
  rcases hresult with hresult | ⟨env, q, hl, hsubmit, hnamed, hstopped, hgiven⟩
  · obtain ⟨hforth, hback⟩ := hsettled.carries hsettled' hresult hverifies
    exact .inl ⟨⟨u, ref, hu, hbefore, hselected⟩, honce₀, hforth, hback⟩
  · have hresult : run'.result.getD {} = q.payload.result.getD {} := by
      rw [hgiven, Option.getD_some]
    refine .inr ⟨_, ⟨env, q, hl, hsubmit, rfl, .replaces hnamed hrun hstopped howner hreference hu
      hbefore hselected⟩, ⟨u, u', hu, hresult ▸ hsettled'.delivers, hverifies⟩,
      fun wu delivery hdelivers ↦ ?_⟩
    exact (hsettled'.delivery hdelivers).2.symm.trans hresult

/-! ## One step of a plan -/

/-- The units of a plan are done, each with one result. -/
def Complete (s : DB) (nodes : List RawNode) : Prop :=
  ∀ node ∈ nodes, NodeDone s node ∧ ¬SelectedTwice s node

/-- The other nodes of a plan. -/
def otherNodes (nodes : List RawNode) (node : RawNode) : List RawNode :=
  nodes.filter (·.workUnitId ≠ node.workUnitId)

/-- A result would make the unit of a node produce a hash. -/
def ProducedBy (s : DB) (node : RawNode) (result : RunResult) (hash : String) : Prop :=
  (∃ wu, s.workUnitExecutions.find? node.workUnitId = some wu ∧ ¬isVerification s node wu) ∧
    hash ∈ result.artifactRefs.filterMap truthy

/-- A result would make the unit of a node declare a hash. -/
def RedeclaredBy (s : DB) (node : RawNode) (result : RunResult) (hash : String) : Prop :=
  hash ∈ result.verifiedArtifactRefs.filterMap truthy ∨
    (∃ wu, s.workUnitExecutions.find? node.workUnitId = some wu ∧ isVerification s node wu) ∧
      hash ∈ result.artifactRefs.filterMap truthy

/-- A step leaves no plan complete with a hash that is declared and that no unit of it produces: if
it takes a result for a unit of an ACTIVE plan whose other units are done, what they and the result
declare is produced by them or by it, and what the units of a plan declare that it installs, if all
are done, is produced by one of them. -/
structure LeavesNoStray (w : World) (l : Label) : Prop where
  results : ∀ t v plan node result, w.db.activePlanMarkers.find? t = some ⟨v⟩ →
    w.db.plans.find? (t, v) = some plan → node ∈ plan.nodes →
    StepTakes w l node.workUnitId result →
    (∀ n ∈ otherNodes plan.nodes node, NodeDone w.db n) → ∀ hash,
      Redeclared w.db (otherNodes plan.nodes node) hash ∨ RedeclaredBy w.db node result hash →
        Produced w.db (otherNodes plan.nodes node) hash ∨ ProducedBy w.db node result hash
  plans : ∀ env q w' r task version contract, l = .command env q → system.step w l = some w' →
    InstallsPlan env q.auth q.payload q.operation w.db w'.db r task version contract →
    (∀ node ∈ r.nodes, NodeDone w.db node) → ∀ hash, Redeclared w.db r.nodes hash →
      Produced w.db r.nodes hash

/-- What the units of an ACTIVE plan declare is produced by one of them, once the plan is
complete. -/
def PlansBacked (s : DB) : Prop :=
  ∀ t v plan, s.activePlanMarkers.find? t = some ⟨v⟩ → s.plans.find? (t, v) = some plan →
    Complete s plan.nodes → ∀ hash, Redeclared s plan.nodes hash → Produced s plan.nodes hash

theorem Produced.mono {nodes' : List RawNode} (h : Produced s nodes hash)
    (hsub : ∀ node ∈ nodes, node ∈ nodes') : Produced s nodes' hash := by
  obtain ⟨node, hnode, hproduces⟩ := h
  exact ⟨node, hsub node hnode, hproduces⟩

/-- Nodes that rest declare and produce what they did. -/
theorem backed_of_rests (hrests : ∀ node ∈ nodes, NodeRests s s' node)
    (hbacked : Redeclared s nodes hash → Produced s nodes hash)
    (h : Redeclared s' nodes hash) : Produced s' nodes hash :=
  (hbacked (h.carried fun node hnode ↦ (hrests node hnode).back)).carried fun node hnode ↦
    (hrests node hnode).forth

theorem StepTakes.unique {wuId' : String} {result' : RunResult} (h : StepTakes w l wuId result)
    (h' : StepTakes w l wuId' result') : wuId = wuId' := by
  obtain ⟨env, q, rfl, -, -, htakes⟩ := h
  obtain ⟨env', q', hl, -, -, htakes'⟩ := h'
  obtain ⟨rfl, rfl⟩ := Label.command.inj hl
  exact htakes.unique htakes'

/-- A plan whose units are bound as before rests, or one of its units has received a result. -/
theorem nodes_step (hinv : ResultsInv w.db) (hstep : system.step w l = some w')
    (hcomplete : Complete w'.db nodes)
    (hversion : ∀ node ∈ nodes, ∀ u, w.db.workUnitExecutions.find? node.workUnitId = some u →
      VersionKept w'.db node u) :
    ∀ node ∈ nodes, NodeRests w.db w'.db node ∨ ∃ result, NodeReceives w l w' node result := by
  intro node hnode
  obtain ⟨hdone, honce⟩ := hcomplete node hnode
  by_cases hcompletes : ∃ taskId result, CompletesUnit w l w' node.workUnitId taskId result
  · obtain ⟨taskId, result, hcompletes⟩ := hcompletes
    exact .inr ⟨result, hcompletes.receives hinv.specified hdone honce (hversion node hnode)⟩
  · exact node_step hinv hstep (fun taskId result h ↦ hcompletes ⟨taskId, result, h⟩) hdone honce
      fun u hu _ ↦ hversion node hnode u hu

/-- A node that has received a result declares what the result makes it declare. -/
theorem NodeReceives.redeclared (h : NodeReceives w l w' node result)
    (hredeclared : Redeclared w'.db [node] hash) : RedeclaredBy w.db node result hash := by
  obtain ⟨n, hn, wu, delivery, hdelivers, hdeclared⟩ := hredeclared
  obtain rfl := List.mem_singleton.mp hn
  obtain rfl := h.only wu delivery hdelivers
  obtain ⟨u, u', hu, hdelivers', hverifies⟩ := h.delivers
  obtain rfl := Option.some.inj (hdelivers.found.symm.trans hdelivers'.found)
  exact hdeclared.imp id (And.imp_left fun hverification ↦ ⟨u, hu, hverifies.mp hverification⟩)

theorem NodeReceives.produced (h : NodeReceives w l w' node result) (hnode : node ∈ nodes)
    (hproduced : ProducedBy w.db node result hash) : Produced w'.db nodes hash := by
  obtain ⟨⟨wu, hwu, hproduces⟩, hmem⟩ := hproduced
  obtain ⟨u, u', hu, hdelivers, hverifies⟩ := h.delivers
  obtain rfl := Option.some.inj (hwu.symm.trans hu)
  exact ⟨node, hnode, u', result, hdelivers, fun h ↦ hproduces (hverifies.mp h), hmem⟩

/-- A plan that was ACTIVE before the step. -/
theorem PlansBacked.produced {t : String} {v : Nat} {plan : PlanRow} (hbacked : PlansBacked w.db)
    (halign : AlignInv w.db) (halign' : AlignInv w'.db) (hinv : ResultsInv w.db)
    (hok : LeavesNoStray w l) (hstep : system.step w l = some w')
    (hmarker : w.db.activePlanMarkers.find? t = some ⟨v⟩)
    (hplan : w.db.plans.find? (t, v) = some plan)
    (hmarker' : w'.db.activePlanMarkers.find? t = some ⟨v⟩)
    (hplan' : w'.db.plans.find? (t, v) = some plan) (hcomplete : Complete w'.db plan.nodes)
    (hredeclared : Redeclared w'.db plan.nodes hash) : Produced w'.db plan.nodes hash := by
  have hcases := nodes_step hinv hstep hcomplete fun node hnode u hu u' hu' ↦ by
    obtain ⟨a, ha, -, hversion⟩ := (halign.aligned t v plan hmarker hplan node hnode).unit
    obtain ⟨b, hb, -, hversion'⟩ := (halign'.aligned t v plan hmarker' hplan' node hnode).unit
    obtain rfl := Option.some.inj (hu.symm.trans ha)
    obtain rfl := Option.some.inj (hu'.symm.trans hb)
    exact hversion'.trans hversion.symm
  by_cases hreceives : ∃ node ∈ plan.nodes, ∃ result, NodeReceives w l w' node result
  · obtain ⟨node, hnode, result, hreceives⟩ := hreceives
    have hrests : ∀ n ∈ otherNodes plan.nodes node, NodeRests w.db w'.db n := by
      intro n hn
      obtain ⟨hn, hother⟩ := List.mem_filter.mp hn
      refine (hcases n hn).resolve_right ?_
      rintro ⟨result', hreceives'⟩
      exact of_decide_eq_true hother (hreceives'.takes.unique hreceives.takes)
    have hdeclared : Redeclared w.db (otherNodes plan.nodes node) hash ∨
        RedeclaredBy w.db node result hash := by
      obtain ⟨n, hn, hdeclares⟩ := hredeclared
      by_cases hsame : n.workUnitId = node.workUnitId
      · obtain rfl := halign.listed_eq hmarker hplan hnode ⟨t, v, plan, hmarker, hplan, hn⟩ hsame
        exact .inr (hreceives.redeclared ⟨n, List.mem_singleton_self n, hdeclares⟩)
      · have hother : Redeclared w'.db (otherNodes plan.nodes node) hash :=
          ⟨n, List.mem_filter.mpr ⟨hn, decide_eq_true hsame⟩, hdeclares⟩
        exact .inl (hother.carried fun n hn ↦ (hrests n hn).back)
    rcases hok.results t v plan node result hmarker hplan hnode hreceives.takes
      (fun n hn ↦ (hrests n hn).done) hash hdeclared with hproduced | hproduced
    · exact (hproduced.carried fun n hn ↦ (hrests n hn).forth).mono fun n hn ↦
        (List.mem_filter.mp hn).1
    · exact hreceives.produced hnode hproduced
  · have hrests : ∀ node ∈ plan.nodes, NodeRests w.db w'.db node := fun node hnode ↦
      (hcases node hnode).resolve_right fun h ↦ hreceives ⟨node, hnode, h⟩
    exact backed_of_rests hrests (hbacked t v plan hmarker hplan (fun node hnode ↦
      ⟨(hrests node hnode).done, (hrests node hnode).once⟩) hash) hredeclared

/-- A plan that the step installs. -/
theorem produced_of_installed {version : Nat} {contract : ContractRow} {q : Request}
    (hinv : ResultsInv w.db) (halign' : AlignInv w'.db)
    (hok : LeavesNoStray w (.command env q)) (hstep : system.step w (.command env q) = some w')
    (hinstall : InstallsPlan env q.auth q.payload q.operation w.db w'.db r task version contract)
    {t : String} {v : Nat} {plan : PlanRow} (hmarker' : w'.db.activePlanMarkers.find? t = some ⟨v⟩)
    (hplan' : w'.db.plans.find? (t, v) = some plan) (hnodes : plan.nodes = r.nodes)
    (hcomplete : Complete w'.db plan.nodes) (hredeclared : Redeclared w'.db plan.nodes hash) :
    Produced w'.db plan.nodes hash := by
  -- a command that installs a plan takes no result
  have hnone {wuId : String} {result : RunResult} :
      ¬StepTakes w (.command env q) wuId result := by
    rintro ⟨_, _, hl, hsubmit, -⟩
    obtain ⟨rfl, rfl⟩ := Label.command.inj hl
    have hasks := hinstall.asks
    rw [hsubmit] at hasks
    cases hasks
  have hrests : ∀ node ∈ plan.nodes, NodeRests w.db w'.db node := by
    intro node hnode
    obtain ⟨hdone, honce⟩ := hcomplete node hnode
    refine (node_step hinv hstep (fun _ _ h ↦ hnone h.takes) hdone honce
      fun u hu hbefore u' hu' ↦ ?_).resolve_right fun ⟨_, h⟩ ↦ hnone h.takes
    obtain ⟨a, ha, -, hversion⟩ := (halign'.aligned t v plan hmarker' hplan' node hnode).unit
    obtain rfl := Option.some.inj (hu'.symm.trans ha)
    have hended : u.status.isTerminal = true := by
      rw [hbefore]
      rfl
    exact hversion.trans (hinstall.ended_version (hnodes ▸ hnode) hu hended).symm
  refine backed_of_rests hrests (fun h ↦ ?_) hredeclared
  rw [hnodes] at h hrests ⊢
  exact hok.plans env q w' r task version contract rfl hstep hinstall
    (fun node hnode ↦ (hrests node hnode).done) hash h

theorem plansBacked_invariant : system.Invariant LeavesNoStray fun w ↦
    ((RunsOwned w.db ∧ AlignInv w.db) ∧ ResultsInv w.db) ∧ PlansBacked w.db :=
  (resultsInv_invariant LeavesNoStray).strengthen (fun _ _ _ h ↦ by cases h) <| by
    rintro w l w' ⟨⟨-, halign⟩, hinv⟩ ⟨⟨-, halign'⟩, -⟩ hbacked hok hstep
    intro t v plan hmarker' hplan' hcomplete hash hredeclared
    rcases step_plans hstep with hnone | ⟨env, q, r, task, version, contract, rfl, hinstall⟩
    · exact hbacked.produced halign halign' hinv hok hstep (hnone.markers ▸ hmarker')
        (hnone.plans ▸ hplan') hmarker' hplan' hcomplete hredeclared
    · rcases AlignInv.marked_of_installs hinstall hmarker' hplan' with
        ⟨-, hnew⟩ | ⟨-, hmarker, hplan⟩
      · have hnodes : plan.nodes = r.nodes := by rw [hnew]; rfl
        exact produced_of_installed hinv halign' hok hstep hinstall hmarker' hplan' hnodes hcomplete
          hredeclared
      · exact hbacked.produced halign halign' hinv hok hstep hmarker hplan hmarker' hplan'
          hcomplete hredeclared

/-! ## Preparations -/

/-- An acceptance is prepared only of a plan that is complete. -/
theorem Prepared.complete {version : Nat} {contract : ContractRow} {marker : ActivePlanMarker}
    {plan : PlanRow} {deliverables : List DeliverableResult} {evidence : List EvidenceItem}
    (h : Prepared env p s taskId task version contract marker plan deliverables evidence) :
    Complete s plan.nodes := by
  intro node hnode
  constructor
  · obtain ⟨n, hdelivered⟩ := h.delivered
    rcases nodeDeliverables_cases { s with drawn := n } plan.nodes with ⟨_, -, hall⟩ | ⟨e, herror, -⟩
    · exact hall node hnode
    · cases hdelivered.symm.trans herror
  · intro htwice
    obtain ⟨n, hverified⟩ := h.verified
    have hsome : ∃ node ∈ plan.nodes, SelectedTwice { s with drawn := n } node :=
      ⟨node, hnode, htwice⟩
    obtain ⟨e, herror, -⟩ := buildAcceptanceEvidence_twice taskId
      (requiredCriteria contract.content) p.evidence hsome
    cases hverified.symm.trans herror

/-! ## Samples -/

/-- A step that neither activates plans nor submits a result. -/
def Label.givesNothing : Label → Bool
  | .command _ q => !q.operation.activates && q.operation != .submitResult
  | _ => true

theorem LeavesNoStray.of_givesNothing (h : l.givesNothing = true) : LeavesNoStray w l where
  results t v plan node result _ _ _ htakes := by
    obtain ⟨env, q, rfl, hsubmit, -⟩ := htakes
    rw [Label.givesNothing, hsubmit] at h
    cases h
  plans env q w' r task version contract hl _ hinstall := by
    subst hl
    have hasks := hinstall.asks
    rw [Label.givesNothing, hasks.activates] at h
    cases h

/-- Where there is no unit, nothing is delivered. -/
theorem LeavesNoStray.of_noUnits (h : ∀ wuId, w.db.workUnitExecutions.find? wuId = none) :
    LeavesNoStray w l where
  results t v plan node result _ _ _ htakes := by
    obtain ⟨env, q, rfl, -, -, htakes⟩ := htakes
    cases htakes with
    | completes accepts unit =>
      obtain ⟨u, hu⟩ := accepts.unit unit
      cases (h _).symm.trans hu
    | replaces _ _ _ _ _ of => cases (h _).symm.trans of
  plans env q w' r task version contract _ _ _ _ hash hredeclared := by
    obtain ⟨node, -, wu, delivery, hdelivers, -⟩ := hredeclared
    cases (h _).symm.trans hdelivers.found

/-- A submission for a unit gives no other unit a result. -/
theorem LeavesNoStray.of_submission (wuId : String) {q : Request} (hsubmit : q.operation = .submitResult)
    (hnamed : q.payload.runId = some runId)
    (hunit : ∀ run, w.db.agentRuns.find? runId = some run → run.workUnitId = some wuId)
    (h : ∀ k plan node, w.db.plans.find? k = some plan → node ∈ plan.nodes →
      node.workUnitId = wuId → (∀ n ∈ otherNodes plan.nodes node, NodeDone w.db n) → ∀ hash,
        Redeclared w.db (otherNodes plan.nodes node) hash ∨
            RedeclaredBy w.db node (q.payload.result.getD {}) hash →
          Produced w.db (otherNodes plan.nodes node) hash ∨
            ProducedBy w.db node (q.payload.result.getD {}) hash) :
    LeavesNoStray w (.command env q) where
  results t v plan node result _ hplan hnode htakes := by
    obtain ⟨_, _, hl, -, rfl, htakes⟩ := htakes
    obtain ⟨rfl, rfl⟩ := Label.command.inj hl
    obtain ⟨run, hrun, hwu⟩ : ∃ run, w.db.agentRuns.find? runId = some run ∧
        run.workUnitId = some node.workUnitId := by
      cases htakes with
      | completes accepts unit =>
        obtain rfl := Option.some.inj (hnamed.symm.trans accepts.named)
        exact ⟨_, accepts.found, unit⟩
      | replaces named found _ unit =>
        obtain rfl := Option.some.inj (hnamed.symm.trans named)
        exact ⟨_, found, unit⟩
    have hsame := Option.some.inj (hwu.symm.trans (hunit run hrun))
    exact h (t, v) plan node hplan hnode hsame
  plans _ _ w' r task version contract hl _ hinstall := by
    obtain ⟨rfl, rfl⟩ := Label.command.inj hl
    have hasks := hinstall.asks
    rw [hsubmit] at hasks
    cases hasks

/-- A unit of a sample, and the hashes that it declares. -/
def sampleNode (s : DB) (node : RawNode) :
    (String × Option WorkUnitStatus × Bool) × Option (List String) :=
  (sampleUnit s node, (nodeDeliveryHashes s node).toOption)

/-- The plans of a sample. -/
def sampleDeclared (w : World) :
    List (List ((String × Option WorkUnitStatus × Bool) × Option (List String))) :=
  w.db.plans.rows.map fun r ↦ r.2.nodes.map (sampleNode w.db)

theorem mem_sampleDeclared {k : String × Nat} {plan : PlanRow}
    (hplan : w.db.plans.find? k = some plan) :
    plan.nodes.map (sampleNode w.db) ∈ sampleDeclared w :=
  List.mem_map_of_mem (Table.find?_eq_some_iff.mp hplan)

theorem sampleNode_verifies {wu : WorkUnitExecutionRow}
    (hwu : s.workUnitExecutions.find? node.workUnitId = some wu) :
    isVerification s node wu ↔ (sampleNode s node).1.2.2 = true := by
  rw [isVerification, sampleNode, sampleUnit, hwu, Option.any_some]

theorem sampleNode_delivers {hashes : List String} (h : (sampleNode s node).2 = some hashes) :
    hash ∈ hashes ↔ ∃ wu delivery, Delivers s node wu delivery ∧
      hash ∈ (delivery.artifactRefs ++ delivery.verifiedArtifactRefs).filterMap truthy := by
  dsimp only [sampleNode] at h
  cases hnode : nodeDeliveryHashes s node with
  | error e =>
    rw [hnode] at h
    cases h
  | ok hashes' =>
    rw [hnode] at h
    obtain rfl := Option.some.inj h
    exact mem_nodeDeliveryHashes hnode

/-- While the unit that verifies is still running, the unit that produces may be done. -/
theorem LeavesNoStray.of_open {q : Request} (hsubmit : q.operation = .submitResult)
    (hnamed : q.payload.runId = some runId)
    (hunit : (w.db.agentRuns.find? runId).map (·.workUnitId) = some (some "unit"))
    (hopen : sampleDeclared w =
      [[(("unit", some .running, false), some []), (("check", some .running, true), some [])]]) :
    LeavesNoStray w (.command env q) := by
  refine .of_submission "unit" hsubmit hnamed (fun run hrun ↦ ?_)
    fun k plan node hplan _ hid hdone ↦ ?_
  · rw [hrun] at hunit
    exact Option.some.inj hunit
  · have hnodes := List.mem_singleton.mp (hopen ▸ mem_sampleDeclared hplan)
    have hcheck : (("check", some WorkUnitStatus.running, true), some ([] : List String)) ∈
        plan.nodes.map (sampleNode w.db) := by
      rw [hnodes]
      exact List.mem_cons_of_mem _ List.mem_cons_self
    obtain ⟨n, hn, hfields⟩ := List.mem_map.mp hcheck
    have hother : n.workUnitId = "check" := congrArg (·.1.1) hfields
    have hrunning := congrArg (·.1.2.1) hfields
    dsimp only [sampleNode, sampleUnit] at hrunning
    obtain ⟨wu, ref, hwu, hended, -⟩ := hdone n (List.mem_filter.mpr ⟨hn, by simp [hother, hid]⟩)
    rw [hwu, Option.map_some, hended] at hrunning
    cases hrunning

/-- The unit that verifies declares what the other one has produced. -/
theorem LeavesNoStray.of_verdict {q : Request} (hsubmit : q.operation = .submitResult)
    (hnamed : q.payload.runId = some runId)
    (hunit : (w.db.agentRuns.find? runId).map (·.workUnitId) = some (some "check"))
    (hverdict : (q.payload.result.getD {}).verifiedArtifactRefs = [some "hash"] ∧
      (q.payload.result.getD {}).artifactRefs = [])
    (hverifies : w.db.agentRuns.rows.all (fun r ↦
      (r.2.result.getD {}).verifiedArtifactRefs.isEmpty) = true)
    (hdone : sampleDeclared w =
      [[(("unit", some .done, false), some ["hash"]), (("check", some .running, true), some [])]]) :
    LeavesNoStray w (.command env q) := by
  refine .of_submission "check" hsubmit hnamed (fun run hrun ↦ ?_)
    fun k plan node hplan _ hid _ hash hdeclared ↦ ?_
  · rw [hrun] at hunit
    exact Option.some.inj hunit
  have hnodes := List.mem_singleton.mp (hdone ▸ mem_sampleDeclared hplan)
  -- the other node is the one that produces
  have hothers (n : RawNode) (hn : n ∈ otherNodes plan.nodes node) :
      sampleNode w.db n = (("unit", some .done, false), some ["hash"]) := by
    obtain ⟨hn, hother⟩ := List.mem_filter.mp hn
    have hmem := List.mem_map_of_mem (f := sampleNode w.db) hn
    rw [hnodes, List.mem_cons, List.mem_singleton] at hmem
    refine hmem.resolve_right fun hcheck ↦ of_decide_eq_true hother ?_
    exact (congrArg (·.1.1) hcheck).trans hid.symm
  obtain rfl : hash = "hash" := by
    rcases hdeclared with ⟨n, hn, wu, delivery, hdelivers, hdeclares⟩ | hdeclares | ⟨-, hdeclares⟩
    · refine List.mem_singleton.mp ((sampleNode_delivers (congrArg Prod.snd (hothers n hn))).mpr
        ⟨wu, delivery, hdelivers, ?_⟩)
      rw [List.filterMap_append, List.mem_append]
      exact hdeclares.symm.imp And.right id
    · rw [hverdict.1] at hdeclares
      exact List.mem_singleton.mp hdeclares
    · rw [hverdict.2] at hdeclares
      cases hdeclares
  have hunit : (("unit", some WorkUnitStatus.done, false), some ["hash"]) ∈
      plan.nodes.map (sampleNode w.db) := by
    rw [hnodes]
    exact List.mem_cons_self
  obtain ⟨n, hn, hfields⟩ := List.mem_map.mp hunit
  have hname : n.workUnitId = "unit" := congrArg (·.1.1) hfields
  obtain ⟨wu, delivery, hdelivers, hmem⟩ :=
    (sampleNode_delivers (congrArg Prod.snd hfields)).mp (List.mem_singleton_self "hash")
  obtain ⟨_, runId', run, -, hrun, -, -, rfl⟩ := hdelivers.selected
  have hnone := List.all_eq_true.mp hverifies _ (Table.find?_eq_some_iff.mp hrun)
  rw [List.isEmpty_iff] at hnone
  rw [hnone, List.append_nil] at hmem
  refine .inl ⟨n, List.mem_filter.mpr ⟨hn, by simp [hname, hid]⟩, wu, _, hdelivers, ?_, hmem⟩
  rw [sampleNode_verifies hdelivers.found, hfields]
  exact Bool.false_ne_true

/-- In every run whose steps leave no stray hash, every artifact hash in the evidence of a snapshot
that is stored is among the references of what a unit of the ACTIVE plan has produced. -/
theorem acceptance_evidence_current {w w' : World} {l : Label} {k : String}
    {snapshot : ResultSnapshotRow} (h : system.ReachableBy LeavesNoStray w)
    (hstep : system.step w l = some w') (hnew : w.db.resultSnapshots.find? k = none)
    (hstored : w'.db.resultSnapshots.find? k = some snapshot) :
    ∃ marker plan, w.db.activePlanMarkers.find? snapshot.taskId = some marker ∧
      w.db.plans.find? (snapshot.taskId, marker.planVersion) = some plan ∧
      ∀ item ∈ snapshot.content.evidence, ∀ hash, item.artifactHash = some hash →
        Produced w.db plan.nodes hash := by
  obtain ⟨env, request, task, version, contract, marker, plan, deliverables, evidence, -, -,
    hprepared, hsnapshot⟩ := step_snapshot hstep hnew hstored
  obtain ⟨n, hverified⟩ := hprepared.verified
  have hevidence : snapshot.content.evidence = evidence := by rw [hsnapshot]; rfl
  refine ⟨marker, plan, hprepared.planMarker, hprepared.planned, fun item hitem hash hhash ↦ ?_⟩
  obtain ⟨c, -, row, hcounts, rfl⟩ := (mem_buildAcceptanceEvidence hverified).mp (hevidence ▸ hitem)
  obtain rfl := Option.some.inj hhash
  have hbacked := (plansBacked_invariant.of_reachable h).2
  rcases hcounts.eligible.2 with hproduced | hredeclared
  · exact hproduced
  · exact hbacked snapshot.taskId marker.planVersion plan hprepared.planMarker hprepared.planned
      hprepared.complete _ hredeclared

/-- One unit of the plan has produced the hash, the other one has verified it, and the acceptance is
asked for with it. -/
theorem acceptance_evidence_current_sampleDropped :
    ∃ w w' snapshot marker plan, system.ReachableBy LeavesNoStray w ∧
      system.step w samplePreparation = some w' ∧
      w'.db.resultSnapshots.find? "snap_iiiiiiiiiiiiiiiiiiiiiii" = some snapshot ∧
      snapshot.content.evidence.map EvidenceItem.artifactHash = [some "hash"] ∧
      w.db.activePlanMarkers.find? snapshot.taskId = some marker ∧
      w.db.plans.find? (snapshot.taskId, marker.planVersion) = some plan ∧
      Produced w.db plan.nodes "hash" := by
  have hview : (system.exec system.init (sampleDropped.take 3)).bind (fun w₁ ↦
      (system.exec w₁ [sampleDropped.get ⟨3, by decide⟩]).bind fun w₂ ↦
        (system.exec w₂ ((sampleDropped.take 16).drop 4)).bind fun w₃ ↦
          (system.exec w₃ [sampleDropped.get ⟨16, by decide⟩]).bind fun w₄ ↦
            (system.exec w₄ [sampleDropped.get ⟨17, by decide⟩]).bind fun w₅ ↦
              (system.exec w₅ [sampleDropped.get ⟨18, by decide⟩]).bind fun w₆ ↦
                (system.step w₆ samplePreparation).map fun w₇ ↦
                  (w₁.db.workUnitExecutions.rows.length, sampleDeclared w₃,
                    (w₃.db.agentRuns.find? "run_iiiiiiiii").map (·.workUnitId),
                    sampleDeclared w₅,
                    (w₅.db.agentRuns.find? "run_iiiiiiiiiiii").map (·.workUnitId),
                    w₅.db.agentRuns.rows.all (fun r ↦
                      (r.2.result.getD {}).verifiedArtifactRefs.isEmpty),
                    (w₆.db.resultSnapshots.find? "snap_iiiiiiiiiiiiiiiiiiiiiii").isNone,
                    sampleSnapshot "snap_iiiiiiiiiiiiiiiiiiiiiii" w₇)) =
      some (0, [[(("unit", some .running, false), some []),
          (("check", some .running, true), some [])]], some (some "unit"),
        [[(("unit", some .done, false), some ["hash"]),
          (("check", some .running, true), some [])]], some (some "check"), true, true,
        some ("task_i", [some "hash"])) := by
    decide +kernel
  obtain ⟨w₁, happrove, hview₁⟩ := Option.bind_eq_some_iff.mp hview
  obtain ⟨w₂, hactivate, hview₂⟩ := Option.bind_eq_some_iff.mp hview₁
  obtain ⟨w₃, hstart, hview₃⟩ := Option.bind_eq_some_iff.mp hview₂
  obtain ⟨w₄, hproduce, hview₄⟩ := Option.bind_eq_some_iff.mp hview₃
  obtain ⟨w₅, hrelease, hview₅⟩ := Option.bind_eq_some_iff.mp hview₄
  obtain ⟨w₆, hverify, hview₆⟩ := Option.bind_eq_some_iff.mp hview₅
  obtain ⟨w₇, hprepare, hfacts⟩ := Option.map_eq_some_iff.mp hview₆
  simp only [Prod.mk.injEq, Option.isNone_iff_eq_none] at hfacts
  obtain ⟨hempty, hopen, hunit, hdone, hcheck, hverifies, hnew, hsnapshot⟩ := hfacts
  obtain ⟨snapshot, hstored, hcontent⟩ := Option.map_eq_some_iff.mp hsnapshot
  obtain ⟨htask, hevidence⟩ := Prod.mk.inj hcontent
  have hquiet : ∀ l ∈ sampleDropped.take 3 ++ (sampleDropped.take 16).drop 4 ++
      [sampleDropped.get ⟨17, by decide⟩], l.givesNothing = true := by decide
  have hone {v v' : World} {l : Label} (hok : LeavesNoStray v l)
      (hexec : system.exec v [l] = some v') : system.Run LeavesNoStray v v' := by
    obtain ⟨v₁, hstep, hlast⟩ := Option.bind_eq_some_iff.mp hexec
    obtain rfl := Option.some.inj hlast
    exact Machine.Run.refl.step hok hstep
  have happroved : system.Run LeavesNoStray system.init w₁ :=
    .of_exec_ok (fun l hl _ ↦ .of_givesNothing (hquiet l (by simp [hl]))) happrove
  have hactivated : system.Run LeavesNoStray w₁ w₂ := by
    refine hone (.of_noUnits fun wuId ↦ ?_) hactivate
    rw [Table.find?, List.eq_nil_of_length_eq_zero hempty]
    rfl
  have hstarted : system.Run LeavesNoStray w₂ w₃ :=
    .of_exec_ok (fun l hl _ ↦ .of_givesNothing (hquiet l (by simp [hl]))) hstart
  have hproduced : system.Run LeavesNoStray w₃ w₄ := hone (.of_open rfl rfl hunit hopen) hproduce
  have hreleased : system.Run LeavesNoStray w₄ w₅ :=
    hone (.of_givesNothing (hquiet _ (by simp))) hrelease
  have hverified : system.Run LeavesNoStray w₅ w₆ :=
    hone (.of_verdict rfl rfl hcheck ⟨rfl, rfl⟩ hverifies hdone) hverify
  have hreach : system.ReachableBy LeavesNoStray w₆ :=
    ((((happroved.trans hactivated).trans hstarted).trans hproduced).trans hreleased).trans hverified
  obtain ⟨marker, plan, hmarker, hplan, hall⟩ :=
    acceptance_evidence_current hreach hprepare hnew hstored
  have hitem : some "hash" ∈ snapshot.content.evidence.map EvidenceItem.artifactHash := by
    rw [hevidence]
    exact List.mem_cons_self
  obtain ⟨item, hitem, hhash⟩ := List.mem_map.mp hitem
  exact ⟨w₆, w₇, snapshot, marker, plan, hreach, hprepare, hstored, hevidence, hmarker, hplan,
    hall item hitem "hash" hhash⟩

end HibikiCore
