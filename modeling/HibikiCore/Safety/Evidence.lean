import HibikiCore.Safety.Acceptances

/-!
# The evidence of an acceptance

The evidence that counts for a criterion is the newest about a hash that the units of the ACTIVE plan
declare. The units declare what they deliver and also what they have verified, and verification units
declare like all others. So a hash may be declared that no unit of the plan produces.
-/

namespace HibikiCore

set_option synthInstance.maxSize 100000000
set_option synthInstance.maxHeartbeats 400000

variable {env : Env} {auth : AuthContext} {p : Payload} {s s' : DB} {w w' : World} {l : Label}
  {taskId : String} {nodes : List RawNode} {result : CommandResult}

/-! ## What the units of a plan declare -/

/-- A node of a plan whose unit is done has selected the result of a run. -/
structure Delivers (s : DB) (node : RawNode) (wu : WorkUnitExecutionRow) (delivery : RunResult) :
    Prop where
  found : s.workUnitExecutions.find? node.workUnitId = some wu
  done : wu.status = .done
  selected : ∃ ref runId run, truthy wu.selectedResultRef = some ref ∧
    s.agentRuns.find? runId = some run ∧ run.workUnitId = some node.workUnitId ∧
    run.resultRef = some ref ∧ run.result.getD {} = delivery

/-- The unit of a node is bound to the specification of a verification. -/
def isVerification (s : DB) (node : RawNode) (wu : WorkUnitExecutionRow) : Prop :=
  (s.workUnitSpecs.find? (node.workUnitId, wu.specVersion)).any
    (fun spec ↦ upperText spec.workType == "VERIFY") = true

/-- A hash is among the artifact references of a unit of the plan that is done and verifies
nothing. -/
def Produced (s : DB) (nodes : List RawNode) (hash : String) : Prop :=
  ∃ node ∈ nodes, ∃ wu delivery, Delivers s node wu delivery ∧ ¬isVerification s node wu ∧
    hash ∈ delivery.artifactRefs.filterMap truthy

/-- A hash is declared by a unit of the plan that is done: as one it has verified, or by a
verification. -/
def Redeclared (s : DB) (nodes : List RawNode) (hash : String) : Prop :=
  ∃ node ∈ nodes, ∃ wu delivery, Delivers s node wu delivery ∧
    (hash ∈ delivery.verifiedArtifactRefs.filterMap truthy ∨
      isVerification s node wu ∧ hash ∈ delivery.artifactRefs.filterMap truthy)

/-- The only run of a unit with a result. -/
theorem selectedRun_ok {wuId ref : String} {selected : Option AgentRunRow}
    (h : selectedRun s wuId ref = .ok selected) {run : AgentRunRow} :
    selected = some run ↔ ∃ runId, s.agentRuns.find? runId = some run ∧
      run.workUnitId = some wuId ∧ run.resultRef = some ref := by
  have hmem (r : String × AgentRunRow) : (r ∈ s.agentRuns.select fun _ r ↦
      r.workUnitId == some wuId && r.resultRef == some ref) ↔
        s.agentRuns.find? r.1 = some r.2 ∧ r.2.workUnitId = some wuId ∧
          r.2.resultRef = some ref := by
    rw [Table.mem_select]
    simp
  rw [selectedRun] at h
  split at h
  · next hnil =>
    obtain rfl := Except.ok.inj h
    refine ⟨nofun, ?_⟩
    rintro ⟨runId, hrun⟩
    have hnot := (hmem (runId, run)).mpr hrun
    rw [hnil] at hnot
    cases hnot
  · next r hone =>
    obtain rfl := Except.ok.inj h
    rw [hone] at hmem
    constructor
    · intro hr
      obtain rfl := Option.some.inj hr
      exact ⟨r.1, (hmem r).mp List.mem_cons_self⟩
    · rintro ⟨runId, hrun⟩
      have hr := List.mem_singleton.mp ((hmem (runId, run)).mpr hrun)
      rw [← hr]
  · cases h

/-- What one node declares. -/
theorem mem_nodeDeliveryHashes {node : RawNode} {hashes : List String}
    (h : nodeDeliveryHashes s node = .ok hashes) {hash : String} :
    hash ∈ hashes ↔ ∃ wu delivery, Delivers s node wu delivery ∧
      hash ∈ (delivery.artifactRefs ++ delivery.verifiedArtifactRefs).filterMap truthy := by
  rw [nodeDeliveryHashes] at h
  cases hwu : s.workUnitExecutions.find? node.workUnitId with
  | none =>
    rw [hwu] at h
    obtain rfl := Except.ok.inj h
    refine ⟨nofun, ?_⟩
    rintro ⟨wu, delivery, hdelivers, -⟩
    exact absurd (hwu.symm.trans hdelivers.found) nofun
  | some wu =>
    simp only [hwu] at h
    have hsame {wu' : WorkUnitExecutionRow} {delivery : RunResult}
        (hdelivers : Delivers s node wu' delivery) : wu' = wu :=
      Option.some.inj (hdelivers.found.symm.trans hwu)
    cases href : truthy wu.selectedResultRef with
    | none =>
      rw [href] at h
      obtain rfl := Except.ok.inj h
      refine ⟨nofun, ?_⟩
      rintro ⟨wu', delivery, hdelivers, -⟩
      obtain ⟨ref, -, -, hselected, -⟩ := hdelivers.selected
      rw [hsame hdelivers, href] at hselected
      cases hselected
    | some ref =>
      simp only [href] at h
      split at h
      · next hnot =>
        obtain rfl := Except.ok.inj h
        refine ⟨nofun, ?_⟩
        rintro ⟨wu', delivery, hdelivers, -⟩
        exact absurd (hsame hdelivers ▸ hdelivers.done) hnot
      · next hdone =>
        have hstatus : wu.status = .done := not_not.mp hdone
        cases hrun : selectedRun s node.workUnitId ref with
        | error e =>
          rw [hrun] at h
          cases h
        | ok selected =>
          rw [hrun] at h
          have hdelivers {delivery : RunResult} : (∃ wu', Delivers s node wu' delivery) ↔
              ∃ run, selected = some run ∧ run.result.getD {} = delivery := by
            constructor
            · rintro ⟨wu', hdelivers⟩
              obtain ⟨ref', runId, run, hselected, hfound, hunit, hresult, hdelivery⟩ :=
                hdelivers.selected
              rw [hsame hdelivers, href] at hselected
              obtain rfl := Option.some.inj hselected
              exact ⟨run, (selectedRun_ok hrun).mpr ⟨runId, hfound, hunit, hresult⟩, hdelivery⟩
            · rintro ⟨run, hselected, hdelivery⟩
              obtain ⟨runId, hfound, hunit, hresult⟩ := (selectedRun_ok hrun).mp hselected
              exact ⟨wu, hwu, hstatus, ref, runId, run, href, hfound, hunit, hresult, hdelivery⟩
          cases selected with
          | none =>
            obtain rfl := Except.ok.inj h
            refine ⟨nofun, ?_⟩
            rintro ⟨wu', delivery, hdelivery, -⟩
            obtain ⟨run, hnone, -⟩ := hdelivers.mp ⟨wu', hdelivery⟩
            cases hnone
          | some run =>
            obtain rfl := Except.ok.inj h
            constructor
            · intro hmem
              obtain ⟨wu', hdelivery⟩ := hdelivers.mpr ⟨run, rfl, rfl⟩
              exact ⟨wu', _, hdelivery, hmem⟩
            · rintro ⟨wu', delivery, hdelivery, hmem⟩
              obtain ⟨run', hsome, rfl⟩ := hdelivers.mp ⟨wu', hdelivery⟩
              obtain rfl := Option.some.inj hsome
              exact hmem

/-- The hashes that are delivered are those that some node declares. -/
theorem mem_currentDeliveryHashes_delivers {hashes : List String}
    (h : currentDeliveryHashes s nodes = .ok hashes) {hash : String} :
    hash ∈ hashes ↔ ∃ node ∈ nodes, ∃ wu delivery, Delivers s node wu delivery ∧
      hash ∈ (delivery.artifactRefs ++ delivery.verifiedArtifactRefs).filterMap truthy := by
  rw [currentDeliveryHashes] at h
  cases hmap : nodes.mapM (nodeDeliveryHashes s) with
  | error e =>
    rw [hmap] at h
    cases h
  | ok lists =>
    rw [hmap] at h
    obtain rfl := Except.ok.inj h
    clear h
    -- the hashes of the first node stand before those of the others
    induction nodes generalizing lists with
    | nil =>
      obtain rfl := Except.ok.inj hmap
      simp
    | cons node nodes ih =>
      rw [List.mapM_cons] at hmap
      cases hnode : nodeDeliveryHashes s node with
      | error e =>
        rw [hnode] at hmap
        cases hmap
      | ok first =>
        rw [hnode] at hmap
        cases hrest : nodes.mapM (nodeDeliveryHashes s) with
        | error e =>
          rw [hrest] at hmap
          cases hmap
        | ok rest =>
          rw [hrest] at hmap
          obtain rfl := Except.ok.inj hmap
          rw [List.flatten_cons, List.mem_append, mem_nodeDeliveryHashes hnode, ih rest hrest]
          simp

theorem delivers_iff {hash : String} :
    (∃ node ∈ nodes, ∃ wu delivery, Delivers s node wu delivery ∧
      hash ∈ (delivery.artifactRefs ++ delivery.verifiedArtifactRefs).filterMap truthy) ↔
      Produced s nodes hash ∨ Redeclared s nodes hash := by
  constructor
  · rintro ⟨node, hnode, wu, delivery, hdelivers, hmem⟩
    rw [List.filterMap_append, List.mem_append] at hmem
    by_cases hverification : isVerification s node wu
    · exact .inr ⟨node, hnode, wu, delivery, hdelivers, hmem.symm.imp id (⟨hverification, ·⟩)⟩
    · rcases hmem with hartifact | hverified
      · exact .inl ⟨node, hnode, wu, delivery, hdelivers, hverification, hartifact⟩
      · exact .inr ⟨node, hnode, wu, delivery, hdelivers, .inl hverified⟩
  · rintro (⟨node, hnode, wu, delivery, hdelivers, -, hartifact⟩ |
      ⟨node, hnode, wu, delivery, hdelivers, hverified | ⟨-, hartifact⟩⟩)
    all_goals
      refine ⟨node, hnode, wu, delivery, hdelivers, ?_⟩
      rw [List.filterMap_append, List.mem_append]
    · exact .inl hartifact
    · exact .inr hverified
    · exact .inl hartifact

/-- The hashes that are delivered are those that the units of the plan produce or declare. -/
theorem mem_currentDeliveryHashes {hashes : List String}
    (h : currentDeliveryHashes s nodes = .ok hashes) {hash : String} :
    hash ∈ hashes ↔ Produced s nodes hash ∨ Redeclared s nodes hash :=
  (mem_currentDeliveryHashes_delivers h).trans delivers_iff

/-! ## The evidence that counts -/

/-- A row of evidence is about the selected result of a unit of the plan, and about a hash that is
declared. -/
def Eligible (s : DB) (nodes : List RawNode) (row : AcceptanceEvidenceRow) : Prop :=
  (∃ wuId wu, row.workUnitId = some wuId ∧ wuId ∈ nodes.map RawNode.workUnitId ∧
    s.workUnitExecutions.find? wuId = some wu ∧ wu.selectedResultRef = row.resultRef) ∧
  (Produced s nodes row.artifactHash ∨ Redeclared s nodes row.artifactHash)

/-- A row is the newest that is eligible for a criterion. -/
def Counts (s : DB) (taskId criterionId : String) (nodes : List RawNode)
    (row : AcceptanceEvidenceRow) : Prop :=
  ∃ newer k older, (s.acceptanceEvidence.select fun _ r ↦
      r.taskId == taskId && r.criterionId == criterionId).mergeSort evidenceOrder =
        newer ++ (k, row) :: older ∧
    Eligible s nodes row ∧ ∀ r ∈ newer, ¬Eligible s nodes r.2

theorem Counts.eligible {criterionId : String} {row : AcceptanceEvidenceRow}
    (h : Counts s taskId criterionId nodes row) : Eligible s nodes row := by
  obtain ⟨_, _, _, -, hrow, -⟩ := h
  exact hrow

/-- The first element that a test finds, where the test decides a property. -/
theorem find?_eq_some_iff_first {β : Type*} {rows : List β} {p : β → Bool} {E : β → Prop}
    (hp : ∀ r, p r = true ↔ E r) {x : β} :
    rows.find? p = some x ↔
      ∃ newer older, rows = newer ++ x :: older ∧ E x ∧ ∀ r ∈ newer, ¬E r := by
  have hnot (r : β) : (!p r) = true ↔ ¬E r := by
    rw [Bool.not_eq_true', ← Bool.not_eq_true, hp]
  rw [List.find?_eq_some_iff_append]
  simp only [hp, hnot]
  constructor
  · rintro ⟨hx, newer, older, hsplit, hnewer⟩
    exact ⟨newer, older, hsplit, hx, hnewer⟩
  · rintro ⟨newer, older, hsplit, hx, hnewer⟩
    exact ⟨hx, newer, older, hsplit, hnewer⟩

theorem latestCriterionEvidence_iff {criterionId : String} {hashes : List String}
    (h : currentDeliveryHashes s nodes = .ok hashes) {row : AcceptanceEvidenceRow} :
    latestCriterionEvidence s taskId criterionId (nodes.map RawNode.workUnitId) hashes = some row ↔
      Counts s taskId criterionId nodes row := by
  rw [latestCriterionEvidence, Option.map_eq_some_iff]
  refine (exists_congr fun r ↦ and_congr_left fun _ ↦
    find?_eq_some_iff_first
      (E := fun r : String × AcceptanceEvidenceRow ↦ Eligible s nodes r.2) fun r ↦ ?_).trans ?_
  · rw [Eligible, ← mem_currentDeliveryHashes h]
    cases r.2.workUnitId with
    | none => simp
    | some wuId =>
      simp only [Bool.and_eq_true, List.contains_iff_mem, Option.any_eq_true, beq_iff_eq]
      constructor
      · rintro ⟨⟨hplanned, hmem⟩, wu, hwu, hselected⟩
        exact ⟨⟨wuId, wu, rfl, hplanned, hwu, hselected⟩, hmem⟩
      · rintro ⟨⟨_, wu, hunit, hplanned, hwu, hselected⟩, hmem⟩
        obtain rfl := Option.some.inj hunit
        exact ⟨⟨hplanned, hmem⟩, wu, hwu, hselected⟩
  · constructor
    · rintro ⟨⟨k, row'⟩, ⟨newer, older, hsplit, hrow, hnewer⟩, rfl⟩
      exact ⟨newer, k, older, hsplit, hrow, hnewer⟩
    · rintro ⟨newer, k, older, hsplit, hrow, hnewer⟩
      exact ⟨(k, row), ⟨newer, older, hsplit, hrow, hnewer⟩, rfl⟩

/-- The evidence of a snapshot are the rows that count for the required criteria. -/
theorem mem_buildAcceptanceEvidence {required : List Criterion} {extra evidence : List EvidenceItem}
    {n : Nat} (h : buildAcceptanceEvidence taskId nodes required extra { s with drawn := n } =
      .ok (evidence, s')) {item : EvidenceItem} :
    item ∈ evidence ↔ ∃ c ∈ required, ∃ row, Counts s taskId c.criterionId nodes row ∧
      evidenceItemFromRow c.criterionId row = item := by
  rw [buildAcceptanceEvidence, Tx.get_bind_ok] at h
  obtain ⟨hashes, t, hlift, h₁⟩ := Tx.bind_ok.mp h
  have hhashes : currentDeliveryHashes s nodes = .ok hashes := (Tx.lift_ok.mp hlift).1
  obtain ⟨_, u, hextra, hpure⟩ := Tx.bind_ok.mp h₁
  obtain ⟨rfl, -⟩ := Tx.pure_ok.mp hpure
  simp only [List.mem_filterMap, Option.map_eq_some_iff]
  change (∃ c ∈ required, ∃ row, latestCriterionEvidence s taskId c.criterionId
    (nodes.map RawNode.workUnitId) hashes = some row ∧ _) ↔ _
  simp only [latestCriterionEvidence_iff hhashes]

/-! ## Snapshots -/

/-- The tables beside the snapshots. -/
abbrev besideSnapshots : List Relation :=
  [.tasks, .contracts, .activeContractMarkers, .explanations, .decisions, .gates, .plans,
    .activePlanMarkers, .workUnitSpecs, .workUnitExecutions, .plannerSessions, .agentRuns,
    .activeExecuteRunMarkers, .activePlanRunMarkers, .workspaces, .contextManifests, .sideEffects,
    .events, .inbox, .outbox, .idempotencyKeys, .artifacts, .acceptanceEvidence, .agentProfiles,
    .runInputs, .toolInvocations, .contextAppends, .taskMessages]

theorem handler_besideSnapshots {operation : Operation} (h : operation ≠ .prepareAcceptance) :
    Respects (Writes besideSnapshots) (handler env auth p operation) := by
  cases operation
  case prepareAcceptance => exact (h rfl).elim
  all_goals (dsimp only [handler]; infer_instance)

instance background_besideSnapshots : Background (Writes besideSnapshots) := inferInstance

/-- A preparation stores one snapshot. -/
theorem AcceptanceStages.snapshots {snapshot : ResultSnapshotRow} {snapshotId : String}
    {u₁ u₂ u₃ : DB} (h : AcceptanceStages env snapshot snapshotId s s' u₁ u₂ u₃) :
    s.resultSnapshots.find? snapshotId = none ∧
      s'.resultSnapshots = s.resultSnapshots.insert snapshotId snapshot := by
  have hsuperseded : Writes [.decisions, .gates] s u₁ := Respects.rel h.supersede
  have hbefore : s.resultSnapshots = u₁.resultSnapshots :=
    (hsuperseded .resultSnapshots).2 (by decide)
  obtain ⟨_, v, hid, hadd⟩ := Tx.bind_ok.mp h.store
  obtain ⟨-, rfl⟩ := newId_ok.mp hid
  obtain ⟨hnew, rfl⟩ := Ref.insert_ok.mp hadd
  obtain ⟨_, hask⟩ := h.ask
  have hasked : Writes [.decisions, .gates] _ u₃ := Respects.rel hask
  have hrest : Writes [.tasks] u₃ s' := by
    rcases h.rest with ⟨_, hstate⟩ | hupdate
    · exact Respects.rel hstate
    · exact Respects.rel hupdate
  have hafter : (u₁.resultSnapshots.insert snapshotId snapshot) = s'.resultSnapshots :=
    ((hasked .resultSnapshots).2 (by decide)).trans ((hrest .resultSnapshots).2 (by decide))
  rw [hbefore]
  exact ⟨hnew, hafter.symm⟩

/-- A snapshot that a step stores was prepared. -/
theorem step_snapshot {k : String} {snapshot : ResultSnapshotRow}
    (hstep : system.step w l = some w') (hnew : w.db.resultSnapshots.find? k = none)
    (hstored : w'.db.resultSnapshots.find? k = some snapshot) :
    ∃ env request task version contract marker plan deliverables evidence,
      l = .command env request ∧ request.operation = .prepareAcceptance ∧
      Prepared env request.payload w.db snapshot.taskId task version contract marker plan
        deliverables evidence ∧
      snapshot = preparedSnapshot env request.payload snapshot.taskId task version deliverables
        evidence := by
  have hnone (hsame : w.db.resultSnapshots = w'.db.resultSnapshots) : False := by
    rw [← hsame, hnew] at hstored
    cases hstored
  cases l
  case command env request =>
    rcases step_command hstep with hrecords | ⟨u, u', result, hran, hrecords⟩
    · exact (hnone ((hrecords .resultSnapshots).2 (by decide))).elim
    obtain ⟨n, rfl⟩ := hran.start
    have hafter : u'.resultSnapshots = w'.db.resultSnapshots :=
      (hrecords .resultSnapshots).2 (by decide)
    by_cases hprepare : request.operation = .prepareAcceptance
    · have hrun := hran.run
      rw [hprepare] at hrun
      change prepareAcceptance env request.auth request.payload _ = _ at hrun
      obtain ⟨taskId, task, version, contract, marker, plan, deliverables, evidence, snapshotId,
        _, _, _, hprepared, hstages⟩ := prepareAcceptance_ok hrun
      obtain ⟨hfree, hinsert⟩ := hstages.snapshots
      rw [← hafter, hinsert, Table.find?_insert hfree] at hstored
      split at hstored
      · obtain rfl := Option.some.inj hstored
        exact ⟨env, request, task, version, contract, marker, plan, deliverables, evidence, rfl,
          hprepare, hprepared.of_drawn, rfl⟩
      · exact absurd (hnew.symm.trans hstored) nofun
    · have hbeside : Writes besideSnapshots { w.db with drawn := n } u' :=
        (handler_besideSnapshots hprepare).rel hran.run
      exact (hnone (((hbeside .resultSnapshots).2 (by decide)).trans hafter)).elim
  all_goals
    have hbeside : Writes besideSnapshots w.db w'.db := step_background Preord.refl rfl hstep
    exact (hnone ((hbeside .resultSnapshots).2 (by decide))).elim

/-! ## Samples -/

/-- The runtime of a run of the samples. -/
def sampleAgent (runId : String) : AuthContext :=
  { sampleRuntime with actorId := "local:" ++ runId, boundRunId := some runId }

/-- A run of the samples is started. -/
def sampleStart : List Label :=
  [.claim .silent 0, .check .silent 0, .call 0 (.start true (.ok false)), .settle .silent 0,
    .finish 0]

/-- A run of the samples gives its workspace back and submits its result. -/
def sampleFinish (runId wsId : String) (delivery : RunResult) : List Label :=
  [ .ask (sampleAgent runId) .setWriterAlive
      { taskId := some "task_i", runId := some runId, fencingEpoch := some 1
        workspaceId := some wsId, alive := some false },
    .ask (sampleAgent runId) .submitResult
      { taskId := some "task_i", runId := some runId, fencingEpoch := some 1
        result := some delivery } ]

/-- One unit of a plan has produced a hash and another one has verified it. Then the plan is revised:
the verification is kept and what it has verified is dropped. -/
def sampleDropped : List Label :=
  let human := AuthContext.ofHuman "owner"
  let check : RawNode := { workUnitId := "check", workType := some "VERIFY" }
  [ .ask human .createTask { title := some "task" },
    .ask human .submitContract { taskId := some "task_i" },
    .ask human .approveContract { decisionId := some "dec_iiii" },
    .ask human .activatePlan
      { taskId := some "task_i", nodes := some [{ workUnitId := "unit" }, check] },
    .ask human .dispatchReadyRuns { taskId := some "task_i" } ] ++
  sampleStart ++ sampleStart ++
  sampleFinish "run_iiiiiiiii" "ws_unit" { artifactRefs := [some "hash"] } ++
  sampleFinish "run_iiiiiiiiiiii" "ws_check"
    { verdict := some .pass
      verifiedArtifactRefs := [some "hash"]
      acceptanceEvidence :=
        [{ criterionId := some "c1", artifactHash := some "hash", verdict := some .pass }] } ++
  [ .ask human .activatePlan
      { taskId := some "task_i", expectedPlanVersion := some 1, nodes := some [check] } ]

/-- An acceptance of the samples is prepared. -/
def samplePreparation : Label :=
  .ask (.ofHuman "owner") .prepareAcceptance { taskId := some "task_i" }

/-- A unit of a sample: its status, and whether it is a verification. -/
def sampleUnit (s : DB) (node : RawNode) : String × Option WorkUnitStatus × Bool :=
  (node.workUnitId, (s.workUnitExecutions.find? node.workUnitId).map (·.status),
    (s.workUnitExecutions.find? node.workUnitId).any fun wu ↦
      (s.workUnitSpecs.find? (node.workUnitId, wu.specVersion)).any
        fun spec ↦ upperText spec.workType == "VERIFY")

/-- The units of the ACTIVE plan of a sample. -/
def sampleUnits (w : World) : Option (List (String × Option WorkUnitStatus × Bool)) :=
  ((w.db.activePlanMarkers.find? "task_i").bind fun marker ↦
    w.db.plans.find? ("task_i", marker.planVersion)).map fun plan ↦
      plan.nodes.map (sampleUnit w.db)

/-- The snapshot a sample has under a key: its task, and the hashes of its evidence. -/
def sampleSnapshot (k : String) (w : World) : Option (String × List (Option String)) :=
  (w.db.resultSnapshots.find? k).map fun r ↦
    (r.taskId, r.content.evidence.map EvidenceItem.artifactHash)

theorem sampleDropped_view :
    (system.exec system.init sampleDropped).bind (fun w ↦
      (system.step w samplePreparation).map fun w' ↦
        (sampleUnits w, (w.db.resultSnapshots.find? "snap_iiiiiiiiiiiiiiiiiiiiiiii").isSome,
          sampleSnapshot "snap_iiiiiiiiiiiiiiiiiiiiiiii" w')) =
      some (some [("check", some .done, true)], false, some ("task_i", [some "hash"])) := by
  decide +kernel

/-- The only unit of the plan of the sample is a verification, and its acceptance is asked for with
the hash that it has verified. -/
theorem sampleDropped_redeclared :
    ∃ w w' k snapshot marker plan, system.Reachable w ∧
      system.step w samplePreparation = some w' ∧ w.db.resultSnapshots.find? k = none ∧
      w'.db.resultSnapshots.find? k = some snapshot ∧
      w.db.activePlanMarkers.find? snapshot.taskId = some marker ∧
      w.db.plans.find? (snapshot.taskId, marker.planVersion) = some plan ∧
      plan.nodes.map RawNode.workUnitId = ["check"] ∧
      (∃ item ∈ snapshot.content.evidence, item.artifactHash = some "hash") ∧
      ¬Produced w.db plan.nodes "hash" := by
  obtain ⟨w, hexec, hrest⟩ := Option.bind_eq_some_iff.mp sampleDropped_view
  obtain ⟨w', hstep, hview⟩ := Option.map_eq_some_iff.mp hrest
  simp only [Prod.mk.injEq] at hview
  obtain ⟨hunits, hnone, hsnapshot⟩ := hview
  obtain ⟨plan, hplan, hnodes⟩ := Option.map_eq_some_iff.mp hunits
  obtain ⟨marker, hmarker, hfound⟩ := Option.bind_eq_some_iff.mp hplan
  obtain ⟨snapshot, hstored, hcontent⟩ := Option.map_eq_some_iff.mp hsnapshot
  obtain ⟨htask, hevidence⟩ := Prod.mk.inj hcontent
  have hitem : some "hash" ∈ snapshot.content.evidence.map EvidenceItem.artifactHash := by
    rw [hevidence]
    exact List.mem_cons_self
  refine ⟨w, w', _, snapshot, marker, plan, .of_exec hexec, hstep, by simpa using hnone, hstored,
    htask ▸ hmarker, htask ▸ hfound, ?_, List.mem_map.mp hitem, ?_⟩
  · have hids := congrArg (List.map Prod.fst) hnodes
    simpa [Function.comp_def, sampleUnit] using hids
  · rintro ⟨node, hnode, wu, delivery, hdelivers, hnot, -⟩
    have hmem := List.mem_map_of_mem (f := sampleUnit w.db) hnode
    rw [hnodes, List.mem_singleton, sampleUnit, hdelivers.found] at hmem
    exact hnot (Prod.mk.inj (Prod.mk.inj hmem).2).2

end HibikiCore
