import HibikiCore.Application.Frames

/-!
# What a final acceptance is prepared from

`Prepared` says what a preparation that was not refused has read, and `AcceptanceStages` what it
wrote after that: acceptances that are pending give way to a new one, about a new snapshot.
-/

namespace HibikiCore

set_option synthInstance.maxSize 100000000
set_option synthInstance.maxHeartbeats 400000

variable {env : Env} {auth : AuthContext} {p : Payload} {s s' : DB} {result : CommandResult}

/-- What a snapshot is prepared from: the ACTIVE contract and the ACTIVE plan of a task, what the
units of the plan have delivered, and the evidence for the required criteria. -/
structure Prepared (env : Env) (p : Payload) (s : DB) (taskId : String) (task : TaskRow)
    (version : Nat) (contract : ContractRow) (marker : ActivePlanMarker) (plan : PlanRow)
    (deliverables : List DeliverableResult) (evidence : List EvidenceItem) : Prop where
  named : p.taskId = some taskId
  found : s.tasks.find? taskId = some task
  contractMarker : s.activeContractMarkers.find? taskId = some ⟨version⟩
  authorised : s.contracts.find? (taskId, version) = some contract
  gates : otherBlockingGates s taskId none = []
  writers : taskHasLiveWriter env s taskId = false
  planMarker : s.activePlanMarkers.find? taskId = some marker
  planned : s.plans.find? (taskId, marker.planVersion) = some plan
  delivered : ∃ n, nodeDeliverables plan.nodes { s with drawn := n } =
    .ok (deliverables, { s with drawn := n })
  verified : ∃ n, buildAcceptanceEvidence taskId plan.nodes (requiredCriteria contract.content)
    p.evidence { s with drawn := n } = .ok (evidence, { s with drawn := n })
  passed : ∃ n, assertAcceptanceEvidence (requiredCriteria contract.content) evidence
    { s with drawn := n } = .ok ((), { s with drawn := n })

/-- The identifiers that were drawn before do not matter. -/
theorem Prepared.of_drawn {n version : Nat} {taskId : String} {task : TaskRow}
    {contract : ContractRow} {marker : ActivePlanMarker} {plan : PlanRow}
    {deliverables : List DeliverableResult} {evidence : List EvidenceItem}
    (h : Prepared env p { s with drawn := n } taskId task version contract marker plan deliverables
      evidence) :
    Prepared env p s taskId task version contract marker plan deliverables evidence :=
  ⟨h.named, h.found, h.contractMarker, h.authorised, h.gates, h.writers, h.planMarker, h.planned,
    h.delivered, h.verified, h.passed⟩

/-- The snapshot of what was prepared. -/
def preparedSnapshot (env : Env) (p : Payload) (taskId : String) (task : TaskRow) (version : Nat)
    (deliverables : List DeliverableResult) (evidence : List EvidenceItem) : ResultSnapshotRow :=
  let content : SnapshotContent :=
    { contractVersion := version
      planVersion := task.planVersion
      deliverables
      evidence
      openItems := p.openItems.getD "[]" }
  { taskId
    contractVersion := version
    planVersion := task.planVersion
    contentHash := .snapshot content
    content
    createdAt := env.now }

/-- The decision that a human is asked for. -/
def acceptanceDecision (env : Env) (snapshot : ResultSnapshotRow) (snapshotId : String) :
    DecisionRow :=
  { pendingDecision env snapshot.taskId .finalAcceptance snapshotId 1 snapshot.contentHash
      Defaults.decisionTtl with
    contractVersion := some snapshot.contractVersion
    resultSnapshotRef := some snapshotId }

/-- What is written once a snapshot was prepared. -/
structure AcceptanceStages (env : Env) (snapshot : ResultSnapshotRow) (snapshotId : String)
    (s s' u₁ u₂ u₃ : DB) : Prop where
  supersede : supersedePendingAcceptance env snapshot.taskId s = .ok ((), u₁)
  store : (do
    let _ ← newId env "snap"
    add Refs.resultSnapshots snapshotId snapshot : Core Unit) u₁ = .ok ((), u₂)
  ask : ∃ decisionId, (do
    let _ ← newId env "dec"
    add Refs.decisions decisionId (acceptanceDecision env snapshot snapshotId)
    openGate env snapshot.taskId decisionId .finalAcceptance : Core Unit) u₂ = .ok ((), u₃)
  rest : (∃ reason, setTaskState env snapshot.taskId .acceptanceReady reason u₃ = .ok ((), s')) ∨
    (Refs.tasks.update snapshot.taskId
      (fun t ↦ { t with stateReason := some .finalAcceptance }) : Core Unit) u₃ = .ok ((), s')

instance nodeDeliverables_reads {nodes : List RawNode} : Respects Eq (nodeDeliverables nodes) := by
  have hnode (node : RawNode) : Respects Eq (nodeDeliverable node) := by
    rw [nodeDeliverable]
    infer_instance
  rw [nodeDeliverables]
  infer_instance

instance checkExtraEvidence_reads {taskId : String} {wuIds hashes : List String}
    {defaults : List EvidenceItem} {item : EvidenceItem} :
    Respects Eq (checkExtraEvidence taskId wuIds hashes defaults item) := by
  have hresolve (hash : String) : Respects Eq (resolveRegisteredArtifact taskId hash) := by
    rw [resolveRegisteredArtifact]
    infer_instance
  rw [checkExtraEvidence]
  infer_instance

instance buildAcceptanceEvidence_reads {taskId : String} {nodes : List RawNode}
    {required : List Criterion} {extra : List EvidenceItem} :
    Respects Eq (buildAcceptanceEvidence taskId nodes required extra) := by
  rw [buildAcceptanceEvidence]
  infer_instance

instance assertAcceptanceEvidence_reads {required : List Criterion}
    {evidence : List EvidenceItem} : Respects Eq (assertAcceptanceEvidence required evidence) := by
  rw [assertAcceptanceEvidence]
  infer_instance

/-- An acceptance that was asked for was prepared. -/
theorem prepareAcceptance_ok (h : prepareAcceptance env auth p s = .ok (result, s')) :
    ∃ taskId task version contract marker plan deliverables evidence snapshotId u₁ u₂ u₃,
      Prepared env p s taskId task version contract marker plan deliverables evidence ∧
        AcceptanceStages env (preparedSnapshot env p taskId task version deliverables evidence)
          snapshotId s s' u₁ u₂ u₃ := by
  obtain ⟨taskId, t₁, hkey, h₁⟩ := Tx.bind_ok.mp h
  obtain ⟨hnamed, rfl⟩ := key_ok.mp hkey
  obtain ⟨task, t₂, hget, h₂⟩ := Tx.bind_ok.mp h₁
  obtain ⟨hfound, rfl⟩ := getTask_ok.mp hget
  obtain ⟨active, t₃, hactive, h₃⟩ := Tx.bind_ok.mp h₂
  obtain ⟨rfl, hcontract⟩ := activeContract_ok.mp hactive
  obtain ⟨⟨version, contract⟩, t₄, hrequire, h₄⟩ := Tx.bind_ok.mp h₃
  obtain ⟨hsome, rfl⟩ := Tx.require_ok.mp hrequire
  have hrow : t₄.activeContractMarkers.find? taskId = some ⟨version⟩ ∧
      t₄.contracts.find? (taskId, version) = some contract := by
    rcases hcontract with ⟨-, hnone⟩ | ⟨version', contract', hmarker, hrow, hboth⟩
    · rw [hnone] at hsome
      cases hsome
    · rw [hboth] at hsome
      obtain ⟨rfl, rfl⟩ := Prod.mk.inj (Option.some.inj hsome)
      exact ⟨hmarker, hrow⟩
  rw [Tx.get_bind_ok] at h₄
  obtain ⟨_, t₅, hunknown, h₅⟩ := Tx.bind_ok.mp h₄
  obtain ⟨-, rfl⟩ := Tx.check_ok.mp hunknown
  obtain ⟨_, t₆, hblocking, h₆⟩ := Tx.bind_ok.mp h₅
  obtain ⟨hgates, rfl⟩ := Tx.check_ok.mp hblocking
  obtain ⟨_, t₇, hlive, h₇⟩ := Tx.bind_ok.mp h₆
  rw [assertNoLiveWriters, Tx.get_bind_ok] at hlive
  obtain ⟨hwriters, rfl⟩ := Tx.check_ok.mp hlive
  obtain ⟨marker, t₈, hmarker, h₈⟩ := Tx.bind_ok.mp h₇
  obtain ⟨hplanMarker, rfl⟩ := Tx.require_ok.mp hmarker
  obtain ⟨plan, t₉, hplan, h₉⟩ := Tx.bind_ok.mp h₈
  obtain ⟨hplan, rfl⟩ := Tx.require_ok.mp hplan
  obtain ⟨deliverables, t₁₀, hdeliverables, h₁₀⟩ := Tx.bind_ok.mp h₉
  obtain rfl : t₉ = t₁₀ := Respects.rel (R := Eq) hdeliverables
  obtain ⟨evidence, t₁₁, hevidence, h₁₁⟩ := Tx.bind_ok.mp h₁₀
  obtain rfl : t₉ = t₁₁ := Respects.rel (R := Eq) hevidence
  obtain ⟨_, t₁₂, hpassed, h₁₂⟩ := Tx.bind_ok.mp h₁₁
  obtain rfl : t₉ = t₁₂ := Respects.rel (R := Eq) hpassed
  obtain ⟨_, u₁, hsupersede, h₁₃⟩ := Tx.bind_ok.mp h₁₂
  obtain ⟨snapshotId, v₁, hsnap, h₁₄⟩ := Tx.bind_ok.mp h₁₃
  obtain ⟨_, u₂, hstore, h₁₅⟩ := Tx.bind_ok.mp h₁₄
  obtain ⟨decisionId, v₂, hdec, h₁₆⟩ := Tx.bind_ok.mp h₁₅
  obtain ⟨_, v₃, hask, h₁₇⟩ := Tx.bind_ok.mp h₁₆
  obtain ⟨_, u₃, hopen, h₁₈⟩ := Tx.bind_ok.mp h₁₇
  refine ⟨taskId, task, version, contract, marker, plan, deliverables, evidence, snapshotId, u₁, u₂,
    u₃, ⟨hnamed, hfound, hrow.1, hrow.2, hgates, hwriters, hplanMarker, hplan,
      ⟨_, hdeliverables⟩, ⟨_, hevidence⟩, ⟨_, hpassed⟩⟩, hsupersede, ?_, ?_, ?_⟩
  · exact Tx.bind_ok.mpr ⟨_, v₁, hsnap, hstore⟩
  · refine ⟨decisionId, Tx.bind_ok.mpr ⟨_, v₂, hdec, Tx.bind_ok.mpr ⟨_, v₃, hask, hopen⟩⟩⟩
  · rcases Tx.ite_ok.mp h₁₈ with ⟨-, hready⟩ | ⟨-, hwaiting⟩
    · obtain ⟨_, v₄, hstate, hpure⟩ := Tx.bind_ok.mp hready
      obtain ⟨-, rfl⟩ := Tx.pure_ok.mp hpure
      exact .inl ⟨_, hstate⟩
    · obtain ⟨_, v₄, hcheck, h₁₉⟩ := Tx.bind_ok.mp hwaiting
      obtain ⟨-, rfl⟩ := Tx.check_ok.mp hcheck
      obtain ⟨_, v₅, hupdate, hpure⟩ := Tx.bind_ok.mp h₁₉
      obtain ⟨-, rfl⟩ := Tx.pure_ok.mp hpure
      exact .inr hupdate

end HibikiCore
