import HibikiCore.Safety.Integrity

/-!
# Contract deltas

A delta is proposed against the contract that is ACTIVE, and applied only if that contract still
is: the version that comes of it is the merge of the two.
-/

namespace HibikiCore

set_option synthInstance.maxSize 100000000
set_option synthInstance.maxHeartbeats 400000

variable {env : Env} {auth : AuthContext} {p : Payload} {s s' : DB} {taskId decisionId : String}
  {result : CommandResult}

/-! ## Proposals -/

/-- A decision about a delta is measured against the contract that is ACTIVE. -/
def Proposed (s : DB) (terms : DecisionTerms) : Prop :=
  terms.decisionKind = .contractDelta → ∃ envelope base, terms.payload = some envelope ∧
    s.activeContractMarkers.find? terms.taskId = some ⟨envelope.baselineContractVersion⟩ ∧
    s.contracts.find? (terms.taskId, envelope.baselineContractVersion) = some base ∧
    envelope.baselineContractHash = base.contentHash ∧
    terms.targetVersion = envelope.baselineContractVersion + 1 ∧
    terms.targetHash = .contract (mergeContractContent base.content envelope.delta)

/-- What is new among the decisions is measured against the contracts of a database. -/
abbrev NewDecisions (s₀ : DB) : DB → DB → Prop :=
  Arrivals Refs.decisions fun _ terms ↦ Proposed s₀ terms

namespace NewDecisions

variable {s₀ : DB}

instance : OrdinaryDecisions (NewDecisions s₀) where
  insert _ _ _ hd := Arrivals.insert fun hkind ↦ absurd hkind hd.kind.delta

instance : AcceptanceDecisions (NewDecisions s₀) where
  insert _ _ _ hd := by
    refine Arrivals.insert fun hkind ↦ ?_
    cases hd.kind.symm.trans hkind

instance background : Background (NewDecisions s₀) := inferInstance

/-- Only proposals of planners are about deltas. -/
theorem handler_respects {operation : Operation} (hproposal : operation ≠ .submitPlanProposal)
    (hrepair : operation ≠ .requestRepairPlan) :
    Respects (NewDecisions s₀) (handler env auth p operation) := by
  cases operation
  case submitPlanProposal => exact (hproposal rfl).elim
  case requestRepairPlan => exact (hrepair rfl).elim
  all_goals (dsimp only [handler]; infer_instance)

theorem of_proposeContractDelta (h : proposeContractDelta env taskId p s = .ok (result, s')) :
    NewDecisions s s s' := by
  obtain ⟨contract, t₁, hcontract, h₁⟩ := Tx.bind_ok.mp h
  obtain ⟨rfl, hfind⟩ := activeContract_ok.mp hcontract
  obtain ⟨active, t₂, hrequire, h₂⟩ := Tx.bind_ok.mp h₁
  obtain ⟨hsome, rfl⟩ := Tx.require_ok.mp hrequire
  rcases hfind with ⟨-, hnone⟩ | ⟨version, base, hmarker, hbase, heq⟩
  · rw [hnone] at hsome
    cases hsome
  obtain rfl : (version, base) = active := Option.some.inj (heq.symm.trans hsome)
  obtain ⟨k, t₃, hid, h₃⟩ := Tx.bind_ok.mp h₂
  obtain ⟨-, rfl⟩ := newId_ok.mp hid
  obtain ⟨_, t₄, hadd, h₄⟩ := Tx.bind_ok.mp h₃
  have hdrawn : NewDecisions t₂ t₂ { t₂ with drawn := t₂.drawn + 1 } := .of_read rfl
  have hnew : NewDecisions t₂ { t₂ with drawn := t₂.drawn + 1 } t₄ := by
    refine (Arrivals.insert ?_).rel hadd
    exact fun _ ↦ ⟨_, base, rfl, hmarker, hbase, rfl, rfl, rfl⟩
  exact Preord.trans hdrawn (Preord.trans hnew (Respects.rel h₄))

theorem of_handler {operation : Operation}
    (h : handler env auth p operation s = .ok (result, s')) : NewDecisions s s s' := by
  by_cases hproposal : operation = .submitPlanProposal
  · subst hproposal
    rcases submitPlanProposal_ok h with ⟨_, _, _, _, -, -, -, -, -, hrefused⟩ | ⟨r, -, hplan⟩
    · rcases hrefused with ⟨-, hevents⟩ | ⟨-, -, hpropose⟩
      · exact Indifferent.writes hevents
      · exact of_proposeContractDelta hpropose
    · exact Respects.rel hplan
  by_cases hrepair : operation = .requestRepairPlan
  · subst hrepair
    rcases requestRepairPlan_ok h with hevents | ⟨r, n, -, hplan⟩
    · exact Indifferent.writes hevents
    · have hdrawn : NewDecisions s s { s with drawn := n } := .of_read rfl
      exact Preord.trans hdrawn (Respects.rel hplan)
  · exact (handler_respects hproposal hrepair).rel h

end NewDecisions

section Steps

variable {w w' : World} {l : Label}

/-- What a step adds to the decisions is measured against the contracts before it. -/
theorem step_decisions (hstep : system.step w l = some w') : NewDecisions w.db w.db w'.db := by
  cases l
  case command env request =>
    rcases step_command hstep with hrecords | ⟨t, t', result, hran, hrecords⟩
    · exact .of_read ((hrecords .decisions).2 (by decide))
    · obtain ⟨n, rfl⟩ := hran.start
      have hdrawn : NewDecisions w.db w.db { w.db with drawn := n } := .of_read rfl
      have hrun : NewDecisions w.db { w.db with drawn := n } t' := NewDecisions.of_handler hran.run
      have hafter : NewDecisions w.db t' w'.db := .of_read ((hrecords .decisions).2 (by decide))
      exact Preord.trans hdrawn (Preord.trans hrun hafter)
  all_goals exact step_background Preord.refl rfl hstep

/-- The delta of a decision was proposed in a step before which its baseline was ACTIVE. -/
structure ProposedIn (w : World) (t decisionId : String) (version : Nat) (content : ContractContent)
    (u : World) (l : Label) (v : World) : Prop where
  reached : system.Reachable u
  step : system.step u l = some v
  unknown : u.db.decisions.find? decisionId = none
  known : ∃ decision, v.db.decisions.find? decisionId = some decision
  active : ∃ base, u.db.contracts.find? (t, version) = some base ∧ base.status = .active ∧
    base.content = content
  later : system.Run (fun _ _ ↦ True) v w

/-- Every delta was once proposed against the contract that was ACTIVE. -/
theorem delta_proposed (hw : system.Reachable w) {decision : DecisionRow} {envelope : DeltaEnvelope}
    {base : ContractRow} (hdecision : w.db.decisions.find? decisionId = some decision)
    (hkind : decision.decisionKind = .contractDelta) (hpayload : decision.payload = some envelope)
    (hbase : w.db.contracts.find? (decision.taskId, envelope.baselineContractVersion) = some base) :
    ∃ u l v, ProposedIn w decision.taskId decisionId envelope.baselineContractVersion base.content
      u l v := by
  obtain ⟨u, l, v, hu, hstep, hunknown, ⟨d, hd⟩, hlater⟩ :=
    hw.turn (P := fun w ↦ ∃ d, w.db.decisions.find? decisionId = some d)
      (fun ⟨_, h⟩ ↦ nomatch h) ⟨decision, hdecision⟩
  have hnone : u.db.decisions.find? decisionId = none :=
    Option.eq_none_iff_forall_ne_some.mpr fun d hd ↦ hunknown ⟨d, hd⟩
  have hkept : Persists v.db w.db := run_rel hlater
  obtain ⟨decision', hdecision', hfixed⟩ := (hkept .decisions).1 _ d hd
  obtain rfl := Option.some.inj (hdecision.symm.trans hdecision')
  have hterms : Columns.fixed d = Columns.fixed decision := hfixed.symm
  rcases step_decisions hstep decisionId d hd with ⟨d₀, hd₀, -⟩ | hproposed
  · exact absurd hd₀ (by rw [hnone]; exact nofun)
  rw [hterms] at hproposed
  obtain ⟨envelope', base', hpayload', hmarker, hbase', -⟩ := hproposed hkind
  obtain rfl : envelope = envelope' := Option.some.inj (hpayload.symm.trans hpayload')
  have hinv : ContractInv u.db := (contractInv_invariant fun _ _ ↦ True).of_reachable hu
  obtain ⟨base₁, hbase₁, hactive⟩ := hinv.active hmarker
  -- the content is the same as long as the contract exists
  have hrun : system.Run (fun _ _ ↦ True) u w := (Machine.Run.refl.step trivial hstep).trans hlater
  have hpersists : Persists u.db w.db := run_rel hrun
  obtain ⟨base₂, hbase₂, hsame⟩ := (hpersists .contracts).1 _ base₁ hbase₁
  obtain rfl := Option.some.inj (hbase.symm.trans hbase₂)
  have hcontent : base.content = base₁.content := congrArg (·.2.2.1) hsame
  exact ⟨u, l, v, hu, hstep, hnone, ⟨d, hd⟩, ⟨base₁, hbase₁, hactive, hcontent.symm⟩, hlater⟩

/-- A version of a contract is the merge of an approved delta into the contract that is ACTIVE, and
that was ACTIVE when the delta was proposed. -/
def MergeOf (w : World) (t : String) (v : Nat) (content : ContractContent) : Prop :=
  ∃ decisionId decision envelope base, w.db.decisions.find? decisionId = some decision ∧
    decision.decisionKind = .contractDelta ∧ decision.status = .approved ∧ decision.taskId = t ∧
    decision.targetVersion = v ∧ decision.payload = some envelope ∧
    w.db.contracts.find? (t, envelope.baselineContractVersion) = some base ∧
    base.status = .active ∧ content = mergeContractContent base.content envelope.delta ∧
    ∃ u l v, ProposedIn w t decisionId envelope.baselineContractVersion base.content u l v

/-- A contract that comes into being ACTIVE is the merge of a delta. -/
theorem step_merges (hw : system.Reachable w) (hstep : system.step w l = some w') {t : String}
    {v : Nat} {contract : ContractRow} (hnew : w.db.contracts.find? (t, v) = none)
    (hcontract : w'.db.contracts.find? (t, v) = some contract)
    (hactive : contract.status = .active) : MergeOf w t v contract.content := by
  have hinv : ContractInv w.db := (contractInv_invariant fun _ _ ↦ True).of_reachable hw
  have hquiet (h : NoneActivated w.db w'.db) : False := by
    obtain ⟨contract₀, hcontract₀, -⟩ := h.came _ contract hcontract hactive
    rw [hnew] at hcontract₀
    cases hcontract₀
  rcases step_contracts hstep with hnone | ⟨env, request, rfl, hmem, hchange⟩
  · exact (hquiet hnone).elim
  cases hchange with
  | quiet hnone => exact (hquiet hnone).elim
  | approved _ _ _ _ found _ activates =>
    obtain ⟨contracts, hinstalls, hkept⟩ := activates
    rw [hkept.contracts] at hcontract
    rcases hinstalls.came hcontract hactive with ⟨hkey, -⟩ | ⟨-, hsame, -⟩
    · rw [← hkey, hnew] at found
      cases found
    · rw [hnew] at hsame
      cases hsame
  | @merged k decision _ envelope base _ applicable fresh _ activates =>
    obtain ⟨contracts, hinstalls, hkept⟩ := activates
    rw [hkept.contracts] at hcontract
    rcases hinstalls.came hcontract hactive with ⟨hkey, rfl⟩ | ⟨-, hsame, -⟩
    · obtain ⟨rfl, rfl⟩ := Prod.mk.inj hkey
      obtain ⟨base', hbase', hactive'⟩ := hinv.active fresh.marker
      obtain rfl := Option.some.inj (fresh.found.symm.trans hbase')
      exact ⟨k, decision, envelope, base, applicable.found, applicable.delta, applicable.approved,
        rfl, rfl, applicable.payload, fresh.found, hactive', rfl,
        delta_proposed hw applicable.found applicable.delta applicable.payload fresh.found⟩
    · rw [hnew] at hsame
      cases hsame

/-! ## Integrity -/

/-- In every run: a task has at most one ACTIVE contract, the one its `contract_version` names; what
is or was ACTIVE is authorised by a decision of a human, and its content is what it was; the step
that makes a contract ACTIVE names the decision; and a contract that comes into being ACTIVE is the
merge of an approved delta into the contract it replaces. -/
theorem contract_integrity {w w' : World} (hw : system.Reachable w)
    (hrun : system.Run (fun _ _ ↦ True) w w') :
    (∀ t v contract, w.db.contracts.find? (t, v) = some contract → contract.status = .active →
      (∃ task, w.db.tasks.find? t = some task ∧ task.contractVersion = some v) ∧
      ∀ v' contract', w.db.contracts.find? (t, v') = some contract' →
        contract'.status = .active → v' = v) ∧
    (∀ t v contract, w.db.contracts.find? (t, v) = some contract →
      (∃ contract', w'.db.contracts.find? (t, v) = some contract' ∧
        contract'.content = contract.content ∧
        contract'.contentHash = .contract contract.content) ∧
      (contract.status = .active → ∃ decisionId decision,
        w'.Authorizes t v contract.content decisionId decision)) ∧
    (∀ l u t v contract, system.step w l = some u → u.db.contracts.find? (t, v) = some contract →
      contract.status = .active → w.db.contracts.find? (t, v) ≠ some contract →
      ∃ env request decisionId decision, l = .command env request ∧
        request.payload.decisionId = some decisionId ∧
        u.Authorizes t v contract.content decisionId decision) ∧
    ∀ l u t v contract, system.step w l = some u → w.db.contracts.find? (t, v) = none →
      u.db.contracts.find? (t, v) = some contract → contract.status = .active →
      MergeOf w t v contract.content := by
  have hinvariant := authorized_invariant fun _ _ ↦ True
  obtain ⟨⟨hinv, happrovals⟩, hauthorized⟩ := hinvariant.of_reachable hw
  have hw' : system.Reachable w' := Machine.Run.trans hw hrun
  refine ⟨fun t v contract hcontract hactive ↦ ⟨?_, ?_⟩, fun t v contract hcontract ↦ ⟨?_, ?_⟩,
    ?_, ?_⟩
  · obtain ⟨task, htask⟩ := hinv.known hcontract
    refine ⟨task, htask, ?_⟩
    rw [hinv.version htask, hinv.marked hcontract hactive]
    rfl
  · intro v' contract' hcontract' hactive'
    exact hinv.unique hcontract' hactive' hcontract hactive
  · have hp : Persists w.db w'.db := run_rel hrun
    obtain ⟨contract', hcontract', hfixed⟩ := (hp .contracts).1 _ contract hcontract
    have hhash : contract'.contentHash = contract.contentHash := congrArg (·.2.1) hfixed
    have hcontent : contract'.content = contract.content := congrArg (·.2.2.1) hfixed
    exact ⟨contract', hcontract', hcontent, hhash.trans (hinv.hashed hcontract)⟩
  · intro hactive
    obtain ⟨k, decision, hauthorizes⟩ := hauthorized t v contract hcontract hactive
    exact ⟨k, hauthorizes.of_run hrun⟩
  · intro l u t v contract hstep hcontract hactive hnot
    have hnext := (hinvariant.step w l u ⟨⟨hinv, happrovals⟩, hauthorized⟩ trivial hstep).1.2
    exact step_authorizes hinv hnext hstep hcontract hactive hnot
  · intro l u t v contract hstep hnew hcontract hactive
    exact step_merges hw hstep hnew hcontract hactive

end Steps

/-! ## A sample -/

/-- A planner proposes a delta on an ACTIVE contract, and it is approved. -/
def sampleDelta : List Label :=
  let human := AuthContext.ofHuman "owner"
  [ .ask human .createTask { title := some "task" },
    .ask human .submitContract { taskId := some "task_i" },
    .ask human .approveContract { decisionId := some "dec_iiii" },
    .ask human .replacePlannerGeneration { taskId := some "task_i" },
    .ask human .submitPlanProposal
      { taskId := some "task_i", generation := some 1, changesAuthorization := true,
        delta := some { objective := some "more" } },
    .ask human .resolveDecision { decisionId := some "dec_iiiiiiiiii" } ]

def sampleApplication : Label :=
  .ask (.ofHuman "owner") .applyContractDelta { decisionId := some "dec_iiiiiiiiii" }

/-- The status of the second version of the contract of the sample. -/
def sampleSecond (w : World) : Option ContractStatus :=
  (w.db.contracts.find? ("task_i", 2)).map ContractRow.status

theorem sampleApplication_view :
    (system.exec system.init sampleDelta).bind (fun w ↦
      (system.step w sampleApplication).map fun w' ↦ (sampleSecond w, sampleSecond w')) =
      some (none, some .active) := by
  decide +kernel

/-- The second version of the sample is the merge of its delta. -/
theorem contract_integrity_sampleDelta :
    ∃ w w' contract, system.exec system.init sampleDelta = some w ∧
      system.step w sampleApplication = some w' ∧
      w'.db.contracts.find? ("task_i", 2) = some contract ∧
      MergeOf w "task_i" 2 contract.content := by
  obtain ⟨w, hexec, hrest⟩ := Option.bind_eq_some_iff.mp sampleApplication_view
  obtain ⟨w', hstep, hview⟩ := Option.map_eq_some_iff.mp hrest
  simp only [sampleSecond, Prod.mk.injEq, Option.map_eq_none_iff, Option.map_eq_some_iff] at hview
  obtain ⟨hnew, contract, hcontract, hactive⟩ := hview
  have hw : system.Reachable w := .of_exec hexec
  exact ⟨w, w', contract, hexec, hstep, hcontract,
    (contract_integrity hw .refl).2.2.2 _ _ _ _ _ hstep hnew hcontract hactive⟩

end HibikiCore
