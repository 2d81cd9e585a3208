import HibikiCore.Application.Totality
import HibikiCore.Safety.Deltas

/-!
# When an approved delta can be applied

The version that a delta becomes is fixed when it is proposed, as the one after its baseline, while
a submission takes the first number that no version has. A submission that is rejected or gives way
keeps its number, and a delta whose number was taken so can never be applied.
-/

namespace HibikiCore

set_option synthInstance.maxSize 100000000
set_option synthInstance.maxHeartbeats 400000

variable {env : Env} {auth : AuthContext} {p : Payload} {task : TaskRow} {s s' : DB}
  {taskId decisionId : String} {result : CommandResult}

/-! ## The terms of deltas -/

/-- What a decision about a delta says of its baseline is so as long as the baseline is stored. -/
structure DeltaTerms (s : DB) (terms : DecisionTerms) (envelope : DeltaEnvelope)
    (base : ContractRow) : Prop where
  payload : terms.payload = some envelope
  found : s.contracts.find? (terms.taskId, envelope.baselineContractVersion) = some base
  unchanged : envelope.baselineContractHash = base.contentHash
  version : terms.targetVersion = envelope.baselineContractVersion + 1
  hash : terms.targetHash = .contract (mergeContractContent base.content envelope.delta)

theorem deltaTerms_invariant (ok : World → Label → Prop) : system.Invariant ok fun w ↦
    ∀ k decision, w.db.decisions.find? k = some decision →
      decision.decisionKind = .contractDelta →
      ∃ envelope base, DeltaTerms w.db (Columns.fixed decision) envelope base where
  init _ _ h := nomatch h
  step w l w' h _ hstep k decision hdecision hkind := by
    have hp : Persists w.db w'.db := step_rel hstep
    have hterms : ∃ envelope base, DeltaTerms w.db (Columns.fixed decision) envelope base := by
      rcases step_decisions hstep k decision hdecision with ⟨decision₀, hdecision₀, hfixed⟩ | hnew
      · rw [SameFixed] at hfixed
        rw [hfixed]
        have hkind₀ : decision.decisionKind = decision₀.decisionKind :=
          congrArg DecisionTerms.decisionKind hfixed
        exact h k decision₀ hdecision₀ (hkind₀ ▸ hkind)
      · obtain ⟨envelope, base, hpayload, -, hbase, hunchanged, hversion, hhash⟩ := hnew hkind
        exact ⟨envelope, base, hpayload, hbase, hunchanged, hversion, hhash⟩
    obtain ⟨envelope, base, hpayload, hbase, hunchanged, hversion, hhash⟩ := hterms
    obtain ⟨base', hbase', hfixed⟩ := (hp .contracts).1 _ base hbase
    have hstored : base'.contentHash = base.contentHash := congrArg (·.2.1) hfixed
    have hcontent : base'.content = base.content := congrArg (·.2.2.1) hfixed
    exact ⟨envelope, base', hpayload, hbase', hunchanged.trans hstored.symm, hversion,
      by rw [hcontent]; exact hhash⟩

/-! ## Applying succeeds -/

theorem known_of_ok {α : Type} {m : Core α} {a : α} [Respects Persists m]
    (h : ∃ task, s.tasks.find? taskId = some task) (hm : m s = .ok (a, s')) :
    ∃ task, s'.tasks.find? taskId = some task := by
  have hp : Persists s s' := Respects.rel hm
  obtain ⟨task, htask⟩ := h
  obtain ⟨task', htask', -⟩ := (hp .tasks).1 _ task htask
  exact ⟨task', htask'⟩

theorem retireActiveContract_run : retireActiveContract taskId s = .ok ((), s.retire taskId) :=
  retireActiveContract_ok.mpr rfl

/-- A delta whose target is free is activated. -/
theorem activateContractDelta_yields {decision : DecisionRow} {envelope : DeltaEnvelope}
    {base : ContractRow} (hknown : ∃ task, s.tasks.find? taskId = some task)
    (hbase : s.contracts.find? (taskId, envelope.baselineContractVersion) = some base)
    (hhash : .contract (mergeContractContent base.content envelope.delta) = decision.targetHash)
    (hfree : s.contracts.find? (taskId, decision.targetVersion) = none) :
    (activateContractDelta env auth taskId decisionId task decision envelope).Yields s
      (·.ok = true) := by
  have hunused : (s.retire taskId).contracts.find? (taskId, decision.targetVersion) = none := by
    rw [Option.eq_none_iff_forall_ne_some]
    intro contract hcontract
    obtain ⟨contract₀, hcontract₀, -⟩ := DB.retire_contracts hcontract
    rw [hfree] at hcontract₀
    cases hcontract₀
  have hunmarked : (s.retire taskId).activeContractMarkers.find? taskId = none := by
    rw [DB.retire_markers, if_pos rfl]
  obtain ⟨task₀, hretired⟩ : ∃ task, (s.retire taskId).tasks.find? taskId = some task :=
    known_of_ok hknown retireActiveContract_run
  rw [activateContractDelta]
  refine .bind (Tx.get_ok.mpr ⟨rfl, rfl⟩) (.bind (Tx.require_ok.mpr ⟨hbase, rfl⟩) ?_)
  refine .bind (a := ()) (Tx.check_ok.mpr ⟨hhash, rfl⟩) (.bind retireActiveContract_run ?_)
  refine .bind (a := ()) (Ref.insert_ok.mpr ⟨hunused, rfl⟩) ?_
  refine .bind (a := ()) (Ref.insert_ok.mpr ⟨hunmarked, rfl⟩) ?_
  -- from here on nothing can fail, because the task is known
  refine .seq update_yields fun _ t₁ htask _ ↦ ?_
  have h₁ := known_of_ok (by exact ⟨task₀, hretired⟩) htask
  refine .seq syncModelCallLimit_yields fun _ t₂ hsync _ ↦ ?_
  have h₂ := known_of_ok h₁ hsync
  refine .seq resolveGates_yields fun _ t₃ hgates _ ↦ ?_
  have h₃ := known_of_ok h₂ hgates
  refine .seq update_yields fun _ t₄ hdecision _ ↦ ?_
  obtain ⟨task₄, h₄⟩ := known_of_ok h₃ hdecision
  refine .seq (recomputeRunnableState_yields h₄) fun _ t₅ hstate _ ↦ ?_
  have h₅ := known_of_ok ⟨task₄, h₄⟩ hstate
  refine .seq appendEvent_yields fun _ t₆ hevent _ ↦ ?_
  obtain ⟨task₆, h₆⟩ := known_of_ok h₅ hevent
  exact .bind (getTask_ok.mpr ⟨h₆, rfl⟩) (.pure rfl)

theorem applyContractDelta_yields {decision : DecisionRow} {envelope : DeltaEnvelope}
    {base : ContractRow} (happlicable : Applicable env auth p s decisionId decision task envelope)
    (hfresh : Fresh s decision task envelope base)
    (hhash : .contract (mergeContractContent base.content envelope.delta) = decision.targetHash) :
    (applyContractDelta env auth p).Yields s (·.ok = true) := by
  obtain ⟨hnamed, hfound, hdelta, happroved, hknown, howner, hgated, hidle, hpayload⟩ := happlicable
  rw [applyContractDelta]
  refine .bind (key_ok.mpr ⟨hnamed, rfl⟩) (.bind (Tx.get_ok.mpr ⟨rfl, rfl⟩) ?_)
  refine .bind (Tx.require_ok.mpr ⟨hfound, rfl⟩) (.bind (a := ()) (Tx.check_ok.mpr ⟨hdelta, rfl⟩) ?_)
  refine .bind (a := ()) (Tx.check_ok.mpr ⟨happroved, rfl⟩) ?_
  refine .bind (getTask_ok.mpr ⟨hknown, rfl⟩) (.bind (a := ()) (Tx.check_ok.mpr ⟨howner, rfl⟩) ?_)
  refine .bind (a := ()) (Tx.check_ok.mpr ⟨hgated, rfl⟩) ?_
  have hwriters : assertNoLiveWriters env decision.taskId s = .ok ((), s) := by
    rw [assertNoLiveWriters, Tx.get_bind_ok]
    exact Tx.check_ok.mpr ⟨hidle, rfl⟩
  refine .bind hwriters (.bind (Tx.require_ok.mpr ⟨hpayload, rfl⟩) ?_)
  refine .bind (activeContract_ok.mpr ⟨rfl, .inr ⟨_, _, hfresh.marker, hfresh.found, rfl⟩⟩) ?_
  refine .bind (Tx.require_ok.mpr ⟨rfl, rfl⟩) ?_
  rw [if_neg (by simp [hfresh.version]), if_neg (by simp [hfresh.unchanged]),
    if_neg (by simp [hfresh.free])]
  exact activateContractDelta_yields ⟨task, hknown⟩ hfresh.found hhash hfresh.free

/-! ## Exactly when -/

/-- A delta was approved and its baseline is still the ACTIVE contract; its principal asks for it
while nothing writes. -/
structure Standing (env : Env) (auth : AuthContext) (s : DB) (decisionId : String)
    (decision : DecisionRow) (envelope : DeltaEnvelope) (base : ContractRow) (task : TaskRow) :
    Prop where
  found : s.decisions.find? decisionId = some decision
  delta : decision.decisionKind = .contractDelta
  approved : decision.status = .approved
  payload : decision.payload = some envelope
  stored : s.contracts.find? (decision.taskId, envelope.baselineContractVersion) = some base
  active : base.status = .active
  known : s.tasks.find? decision.taskId = some task
  owner : task.principalId = auth.principalId
  idle : taskHasLiveWriter env s decision.taskId = false

/-- The application of a delta succeeds and makes the merge of it and its baseline ACTIVE. -/
def Applies (env : Env) (auth : AuthContext) (p : Payload) (s : DB) (decision : DecisionRow)
    (envelope : DeltaEnvelope) (base : ContractRow) : Prop :=
  ∃ result s' contract, applyContractDelta env auth p s = .ok (result, s') ∧ result.ok = true ∧
    s'.activeContractMarkers.find? decision.taskId = some ⟨decision.targetVersion⟩ ∧
    s'.contracts.find? (decision.taskId, decision.targetVersion) = some contract ∧
    contract.status = .active ∧
    contract.content = mergeContractContent base.content envelope.delta

/-- An approved delta on the contract that is still ACTIVE is applied if and only if its gate awaits
the application and no contract of the task has the version that it becomes. -/
theorem delta_applies_iff {w : World} (hw : system.Reachable w) {env : Env} {auth : AuthContext}
    {p : Payload} {decisionId : String} {decision : DecisionRow} {task : TaskRow}
    {envelope : DeltaEnvelope} {base : ContractRow}
    (h : Standing env auth w.db decisionId decision envelope base task)
    (hnamed : p.decisionId = some decisionId) :
    Applies env auth p w.db decision envelope base ↔
      (∃ k gate, w.db.gates.find? k = some gate ∧ gate.decisionId = decisionId ∧
        gate.lifecycle = .approvedPendingApply) ∧
      w.db.contracts.find? (decision.taskId, decision.targetVersion) = none := by
  have hinv : ContractInv w.db := (contractInv_invariant fun _ _ ↦ True).of_reachable hw
  have hterms := (deltaTerms_invariant fun _ _ ↦ True).of_reachable hw
  obtain ⟨envelope', base', hterm⟩ := hterms decisionId decision h.found h.delta
  obtain rfl : envelope = envelope' := Option.some.inj (h.payload.symm.trans hterm.payload)
  obtain rfl : base = base' := Option.some.inj (h.stored.symm.trans hterm.found)
  have hmarker := hinv.marked h.stored h.active
  have hgates : (w.db.gates.select fun _ g ↦ g.decisionId == decisionId
      && g.lifecycle == .approvedPendingApply) ≠ [] ↔ ∃ k gate, w.db.gates.find? k = some gate ∧
        gate.decisionId = decisionId ∧ gate.lifecycle = .approvedPendingApply := by
    rw [← List.length_pos_iff, List.length_pos_iff_exists_mem]
    simp only [Table.mem_select, Prod.exists, Bool.and_eq_true, beq_iff_eq]
  constructor
  · rintro ⟨result, s', contract, hrun, hok, -⟩
    obtain ⟨k, decision', _, envelope', _, happlicable, -, hcases⟩ := applyContractDelta_ok hrun
    obtain rfl := Option.some.inj (hnamed.symm.trans happlicable.named)
    obtain rfl := Option.some.inj (h.found.symm.trans happlicable.found)
    rcases hcases with ⟨_, hfresh, -⟩ | ⟨hfailed, -⟩
    · exact ⟨hgates.mp happlicable.gated, hfresh.free⟩
    · rw [hfailed] at hok
      cases hok
  · rintro ⟨hgate, hfree⟩
    have happlicable : Applicable env auth p w.db decisionId decision task envelope :=
      ⟨hnamed, h.found, h.delta, h.approved, h.known, h.owner, hgates.mpr hgate, h.idle, h.payload⟩
    have hversion : task.contractVersion = some envelope.baselineContractVersion := by
      rw [hinv.version h.known, hmarker]
      rfl
    have hfresh : Fresh w.db decision task envelope base :=
      ⟨by rw [hversion]; rfl, hmarker, h.stored, hterm.unchanged.symm, hfree⟩
    obtain ⟨result, s', hrun, hok⟩ := applyContractDelta_yields happlicable hfresh hterm.hash.symm
    obtain ⟨k, decision', task', envelope', _, happlicable', -, hcases⟩ :=
      applyContractDelta_ok hrun
    obtain rfl := Option.some.inj (hnamed.symm.trans happlicable'.named)
    obtain rfl := Option.some.inj (h.found.symm.trans happlicable'.found)
    obtain rfl := Option.some.inj (h.payload.symm.trans happlicable'.payload)
    rcases hcases with ⟨base', hfresh', hactivate⟩ | ⟨hfailed, -⟩
    · obtain rfl := Option.some.inj (h.stored.symm.trans hfresh'.found)
      obtain ⟨-, contracts, hinstalls, hkept⟩ := activateContractDelta_ok h.stored hactivate
      refine ⟨result, s', mergedContract env decision task' envelope base, hrun, hok, ?_, ?_, rfl,
        rfl⟩
      · rw [hkept.markers, DB.install_markers, if_pos rfl]
      · rw [hkept.contracts]
        exact (hinstalls _).trans (if_pos rfl)
    · rw [hfailed] at hok
      cases hok

/-! ## Samples -/

/-- A delta is proposed while its target is the number of a submission that was rejected. -/
def sampleTaken : List Label :=
  let human := AuthContext.ofHuman "owner"
  [ .ask human .createTask { title := some "task" },
    .ask human .submitContract { taskId := some "task_i" },
    .ask human .approveContract { decisionId := some "dec_iiii" },
    .ask human .openBlockingGate { taskId := some "task_i" },
    .ask human .submitContract { taskId := some "task_i" },
    .ask human .resolveDecision
      { decisionId := some "dec_iiiiiiiiiiii", choice := some "REJECT" },
    .ask human .replacePlannerGeneration { taskId := some "task_i" },
    .ask human .submitPlanProposal
      { taskId := some "task_i", generation := some 1, changesAuthorization := true,
        delta := some { objective := some "more" } },
    .ask human .resolveDecision { decisionId := some "dec_iiiiiiiiiiiiiiiiii" } ]

/-- Whether the delta of a sample stands, whether its task goes on, and whether it is applied. -/
def sampleDecision (decisionId : String) (w : World) : Option (Bool × Option Bool) := do
  let decision ← w.db.decisions.find? decisionId
  let envelope ← decision.payload
  let base ← w.db.contracts.find? (decision.taskId, envelope.baselineContractVersion)
  let task ← w.db.tasks.find? decision.taskId
  return (decision.decisionKind = .contractDelta ∧ decision.status = .approved ∧
      base.status = .active ∧ task.principalId = "owner" ∧
      taskHasLiveWriter .silent w.db decision.taskId = false ∧ task.state.isTerminal = false,
    match applyContractDelta .silent (.ofHuman "owner") { decisionId := some decisionId } w.db with
    | .ok (result, _) => some result.ok
    | .error _ => none)

theorem sampleDecision_eq {w : World} {decisionId : String} {ok : Option Bool}
    (h : sampleDecision decisionId w = some (true, ok)) :
    ∃ decision envelope base task,
      Standing .silent (.ofHuman "owner") w.db decisionId decision envelope base task ∧
      task.state.isTerminal = false ∧
      ∀ result s', applyContractDelta .silent (.ofHuman "owner")
        { decisionId := some decisionId } w.db = .ok (result, s') → ok = some result.ok := by
  simp only [sampleDecision, Option.bind_eq_bind, Option.bind_eq_some_iff, Option.pure_def,
    Option.some.injEq, Prod.mk.injEq, decide_eq_true_eq] at h
  obtain ⟨decision, hdecision, envelope, hpayload, base, hbase, task, htask, hfacts, hok⟩ := h
  obtain ⟨hkind, happroved, hactive, howner, hidle, hgoing⟩ := hfacts
  refine ⟨decision, envelope, base, task, ⟨hdecision, hkind, happroved, hpayload, hbase, hactive,
    htask, howner, hidle⟩, hgoing, fun result s' hrun ↦ ?_⟩
  rw [hrun] at hok
  exact hok.symm

theorem sampleTaken_view :
    (system.exec system.init sampleTaken).bind (sampleDecision "dec_iiiiiiiiiiiiiiiiii") =
      some (true, some false) := by
  decide +kernel

/-- The delta of the sample stands, and is not applied. -/
theorem sampleTaken_refused :
    ∃ w decision envelope base task, system.Reachable w ∧
      Standing .silent (.ofHuman "owner") w.db "dec_iiiiiiiiiiiiiiiiii" decision envelope base
        task ∧
      task.state.isTerminal = false ∧
      ¬Applies .silent (.ofHuman "owner") { decisionId := some "dec_iiiiiiiiiiiiiiiiii" } w.db
        decision envelope base := by
  obtain ⟨w, hexec, hview⟩ := Option.bind_eq_some_iff.mp sampleTaken_view
  obtain ⟨decision, envelope, base, task, hstanding, hgoing, hrefused⟩ := sampleDecision_eq hview
  refine ⟨w, decision, envelope, base, task, .of_exec hexec, hstanding, hgoing, ?_⟩
  rintro ⟨result, s', contract, hrun, hok, -⟩
  have hfailed := hrefused result s' hrun
  rw [hok] at hfailed
  cases hfailed

theorem sampleDelta_view :
    (system.exec system.init sampleDelta).bind (sampleDecision "dec_iiiiiiiiii") =
      some (true, some true) := by
  decide +kernel

/-- The delta that nothing has overtaken has its gate and its number. -/
theorem delta_applies_iff_sampleDelta :
    ∃ w decision envelope base, system.exec system.init sampleDelta = some w ∧
      (Applies .silent (.ofHuman "owner") { decisionId := some "dec_iiiiiiiiii" } w.db decision
          envelope base ↔
        (∃ k gate, w.db.gates.find? k = some gate ∧ gate.decisionId = "dec_iiiiiiiiii" ∧
          gate.lifecycle = .approvedPendingApply) ∧
        w.db.contracts.find? (decision.taskId, decision.targetVersion) = none) := by
  obtain ⟨w, hexec, hview⟩ := Option.bind_eq_some_iff.mp sampleDelta_view
  obtain ⟨decision, envelope, base, task, hstanding, -, -⟩ := sampleDecision_eq hview
  exact ⟨w, decision, envelope, base, hexec, delta_applies_iff (.of_exec hexec) hstanding rfl⟩

end HibikiCore
