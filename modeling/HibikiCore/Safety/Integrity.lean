import HibikiCore.Safety.Approvals

/-!
# How contracts become ACTIVE

A contract becomes ACTIVE in two ways only: a human approves the version that was submitted, or an
approved delta is merged into the version that is ACTIVE. Both are bound to a decision that a human
of the principal has approved, and to the hash of the content.
-/

namespace HibikiCore

set_option synthInstance.maxSize 100000000
set_option synthInstance.maxHeartbeats 400000

variable {env : Env} {auth : AuthContext} {p : Payload} {task : TaskRow} {s s' s'' : DB}
  {taskId decisionId : String} {result : CommandResult}

/-- All tables but the markers of the ACTIVE contracts. -/
abbrev besideMarkers : List Relation := .tasks :: .contracts :: besideContracts

instance : Faithful Refs.contracts := ⟨id⟩

instance {n : Relation} [h : Touches n (.tasks :: besideContracts)] : Beside Refs.contracts n where
  ne := by
    rintro rfl
    exact absurd h.mem (by decide)

/-! ## What a command may do to the contracts -/

/-- No contract became ACTIVE. -/
structure NoneActivated (s s' : DB) : Prop where
  inv : Maintains ContractInv s s'
  came : Stems Refs.contracts (fun c ↦ c.status = .active) Eq s s'
  markers : s'.activeContractMarkers = s.activeContractMarkers

/-- A version of the contract of a task became the ACTIVE one. -/
def Activates (s s' : DB) (t : String) (v : Nat) (contract : ContractRow) : Prop :=
  ∃ contracts, Installs s t v contract contracts ∧ ContractsKept (s.install t v contracts) s'

namespace Activates

variable {t : String} {v : Nat} {contract : ContractRow}

theorem trans (h : Activates s s' t v contract) (h' : ContractsKept s' s'') :
    Activates s s'' t v contract := by
  obtain ⟨contracts, hinstalls, hkept⟩ := h
  exact ⟨contracts, hinstalls, Preord.trans hkept h'⟩

/-- What the other tables hold does not matter. -/
theorem of_writes (hw : Writes besideContracts s s') (h : Activates s' s'' t v contract) :
    Activates s s'' t v contract := by
  obtain ⟨contracts, hinstalls, hkept⟩ := h
  have htasks : s.tasks = s'.tasks := (hw .tasks).2 (by decide)
  have hcontracts : s.contracts = s'.contracts := (hw .contracts).2 (by decide)
  have hmarkers : s.activeContractMarkers = s'.activeContractMarkers :=
    (hw .activeContractMarkers).2 (by decide)
  have hretire : (s.retire t).contracts = (s'.retire t).contracts ∧
      (s.retire t).activeContractMarkers = (s'.retire t).activeContractMarkers := by
    rw [DB.retire, DB.retire, hmarkers]
    cases s'.activeContractMarkers.find? t with
    | none => exact ⟨hcontracts, hmarkers⟩
    | some marker =>
      dsimp only
      rw [hcontracts]
      exact ⟨rfl, rfl⟩
  have hsame : ContractsKept (s.install t v contracts) (s'.install t v contracts) := by
    refine ⟨rfl, ?_, .of_read ?_⟩
    · dsimp only [DB.install]
      rw [hretire.2]
    · dsimp only [DB.install]
      rw [htasks]
  refine ⟨contracts, fun k ↦ ?_, Preord.trans hsame hkept⟩
  rw [hretire.1]
  exact hinstalls k

end Activates

/-- What a command did to the contracts. -/
inductive ContractChange (env : Env) (auth : AuthContext) (p : Payload) (operation : Operation)
    (s s' : DB) : Prop
  | quiet (none : NoneActivated s s')
  /-- The version that a pending decision is about was approved. -/
  | approved {r : Resolution} {decisionId : String} {decision : DecisionRow} {task : TaskRow}
      {contract : ContractRow} (asked : resolution p operation = some r)
      (resolves : Resolves env auth r s decisionId decision task)
      (kind : decision.decisionKind = .contractApproval) (approve : r.verdict = "APPROVE")
      (found : s.contracts.find? (decision.taskId, decision.targetVersion) = some contract)
      (taken : ApprovalsKept (s.take env auth "APPROVE" decisionId) s')
      (activates : Activates s s' decision.taskId decision.targetVersion
        (approvedContract env auth.actorId contract))
  /-- An approved delta was merged into the ACTIVE contract. -/
  | merged {decisionId : String} {decision : DecisionRow} {task : TaskRow}
      {envelope : DeltaEnvelope} {base : ContractRow} (asked : operation = .applyContractDelta)
      (applicable : Applicable env auth p s decisionId decision task envelope)
      (fresh : Fresh s decision task envelope base)
      (hash : .contract (mergeContractContent base.content envelope.delta) = decision.targetHash)
      (activates : Activates s s' decision.taskId decision.targetVersion
        (mergedContract env decision task envelope base))

namespace NoneActivated

theorem of_kept (h : ContractsKept s s') : NoneActivated s s' where
  inv hinv := hinv.of_kept h
  came := .of_read h.contracts.symm
  markers := h.markers

theorem trans (h : NoneActivated s s') (h' : NoneActivated s' s'') : NoneActivated s s'' where
  inv := Preord.trans h.inv h'.inv
  came := Preord.trans h.came h'.came
  markers := h'.markers.trans h.markers

/-- Nothing that is submitted is ACTIVE, and nothing that is ACTIVE gives way to it. -/
theorem submitContract_came :
    Respects (Stems Refs.contracts (fun c ↦ c.status = .active) Eq)
      (submitContract env auth p) := by
  have hupdate (q : String × Nat → ContractRow → Bool) :
      Respects (Stems Refs.contracts (fun c ↦ c.status = .active) Eq)
        (Refs.contracts.updateWhere q fun c ↦ { c with status := .superseded } : Core Unit) :=
    Stems.updateWhere fun _ h ↦ nomatch h
  have hsupersede (taskId : String) :
      Respects (Stems Refs.contracts (fun c ↦ c.status = .active) Eq)
        (supersedePriorContracts env taskId) := by
    rw [supersedePriorContracts]
    infer_instance
  have hadd (k : String × Nat) (c : ContractRow) (hc : c.status = .pendingApproval) :
      Respects (Stems Refs.contracts (fun c ↦ c.status = .active) Eq)
        (add Refs.contracts k c) := by
    refine Stems.insert ?_
    rw [hc]
    exact nofun
  rw [submitContract]
  refine .seq inferInstance fun _ ↦ .seq inferInstance fun _ ↦ .seq inferInstance fun _ ↦ ?_
  refine .seq inferInstance fun _ ↦ .seq inferInstance fun _ ↦ ?_
  exact .seq (hadd _ _ rfl) fun _ ↦ inferInstance

/-- A submission waits for its approval. -/
theorem of_submitContract (h : submitContract env auth p s = .ok (result, s')) :
    NoneActivated s s' where
  inv hinv := hinv.submitContract h
  came := submitContract_came.rel h
  markers := by
    have hw : Writes besideMarkers s s' := Respects.rel h
    exact ((hw .activeContractMarkers).2 (by decide)).symm

end NoneActivated

namespace ContractChange

theorem of_resolveDecision {operation : Operation} {r : Resolution}
    (hr : resolution p operation = some r)
    (h : resolveDecision env auth r s = .ok (result, s')) :
    ContractChange env auth p operation s s' := by
  rcases resolveDecision_ok h with rfl | ⟨decisionId, decision, task, hresolves, hsettle⟩
  · exact .quiet (.of_kept (Preord.refl _))
  obtain ⟨u, hverdict, hevents⟩ := settleDecision_ok hsettle
  have htakes : Writes besideContracts s (s.take env auth r.verdict decisionId) :=
    DB.take_writes.mono (by decide)
  have htake : ContractsKept s (s.take env auth r.verdict decisionId) := .of_writes htakes
  have hafter : ContractsKept u s' := Indifferent.writes hevents
  rcases hverdict with ⟨happrove, happly⟩ | ⟨-, hreject⟩
  · cases hkind : decision.decisionKind
    case contractApproval =>
      rw [applyApprovedDecision, hkind] at happly
      obtain ⟨contract, contracts, hcontract, hinstalls, hkept⟩ := applyContractApproval_ok happly
      have happrovals : ApprovalsKept u s' := Indifferent.writes hevents
      refine .approved hr hresolves hkind happrove hcontract ?_
        (.of_writes htakes ⟨contracts, hinstalls, Preord.trans hkept hafter⟩)
      rw [happrove] at happly
      exact Preord.trans (Respects.rel happly) happrovals
    all_goals
      rw [applyApprovedDecision, hkind] at happly
      exact .quiet (.of_kept (Preord.trans htake (Preord.trans (Respects.rel happly) hafter)))
  · have hrejects : Respects ContractsKept (rejectDecision env decision.taskId decisionId) := by
      rw [rejectDecision]
      infer_instance
    exact .quiet (.of_kept (Preord.trans htake (Preord.trans (hrejects.rel hreject) hafter)))

theorem of_applyContractDelta (h : applyContractDelta env auth p s = .ok (result, s')) :
    ContractChange env auth p .applyContractDelta s s' := by
  obtain ⟨decisionId, decision, task, envelope, _, happlicable, -, hcases⟩ :=
    applyContractDelta_ok h
  rcases hcases with ⟨base, hfresh, hactivate⟩ | ⟨-, code, hstale⟩
  · obtain ⟨hhash, contracts, hinstalls, hkept⟩ := activateContractDelta_ok hfresh.found hactivate
    exact .merged rfl happlicable hfresh hhash ⟨contracts, hinstalls, hkept⟩
  · exact .quiet (.of_kept (Respects.rel hstale))

theorem of_handler {operation : Operation}
    (h : handler env auth p operation s = .ok (result, s')) :
    ContractChange env auth p operation s s' := by
  cases hr : resolution p operation with
  | some r =>
    rw [handler_resolution hr] at h
    exact of_resolveDecision hr h
  | none =>
    by_cases hsubmit : operation = .submitContract
    · subst hsubmit
      exact .quiet (.of_submitContract h)
    by_cases hdelta : operation = .applyContractDelta
    · subst hdelta
      exact of_applyContractDelta h
    · exact .quiet (.of_kept ((ContractsKept.handler_respects hr hsubmit hdelta).rel h))

/-- Neither the identifiers that were drawn before nor the records that are written after a handler
matter. -/
theorem around {operation : Operation} {n : Nat}
    (h : ContractChange env auth p operation { s with drawn := n } s')
    (hw : Writes requestRecords s' s'') : ContractChange env auth p operation s s'' := by
  have hdrawn : Writes besideContracts s { s with drawn := n } :=
    (writes_drawn s n).mono fun _ hm ↦ (List.not_mem_nil hm).elim
  have hafter : ContractsKept s' s'' := .of_writes (hw.mono (by decide))
  cases h with
  | quiet hnone =>
    exact .quiet (.trans (.of_kept (.of_writes hdrawn)) (hnone.trans (.of_kept hafter)))
  | approved asked resolves kind approve found taken activates =>
    have happrovals : ApprovalsKept s' s'' := .of_read ((hw .decisions).2 (by decide))
    have htake (choice k : String) : ApprovalsKept (s.take env auth choice k)
        (DB.take { s with drawn := n } env auth choice k) := .of_read rfl
    exact .approved asked resolves.of_drawn kind approve found
      (Preord.trans (htake _ _) (Preord.trans taken happrovals))
      (.of_writes hdrawn (activates.trans hafter))
  | merged asked applicable fresh hash activates =>
    obtain ⟨hnamed, hfound, hdelta, happroved, hknown, howner, hgated, hidle, hpayload⟩ := applicable
    obtain ⟨hversion, hmarker, hbase, hunchanged, hfree⟩ := fresh
    exact .merged asked
      ⟨hnamed, hfound, hdelta, happroved, hknown, howner, hgated, hidle, hpayload⟩
      ⟨hversion, hmarker, hbase, hunchanged, hfree⟩ hash (.of_writes hdrawn (activates.trans hafter))

theorem inv {operation : Operation} (h : ContractChange env auth p operation s s')
    (hinv : ContractInv s) : ContractInv s' := by
  cases h with
  | quiet hnone => exact hnone.inv hinv
  | approved asked resolves kind approve found taken activates =>
    obtain ⟨contracts, hinstalls, hkept⟩ := activates
    have hhash := hinv.hashed found
    exact (hinstalls.inv hinv rfl hhash ⟨_, resolves.known⟩).of_kept hkept
  | merged asked applicable fresh hash activates =>
    obtain ⟨contracts, hinstalls, hkept⟩ := activates
    exact (hinstalls.inv hinv rfl rfl ⟨_, applicable.known⟩).of_kept hkept

end ContractChange

/-! ## Steps -/

section Steps

variable {w w' : World} {l : Label}

/-- A contract becomes ACTIVE in a command only. -/
theorem step_contracts (hstep : system.step w l = some w') :
    NoneActivated w.db w'.db ∨ ∃ env request, l = .command env request ∧ request ∈ w'.executed ∧
      ContractChange env request.auth request.payload request.operation w.db w'.db := by
  cases l
  case command env request =>
    rcases step_ran hstep with hrecords | ⟨t, t', result, hran, hrecords, hmem⟩
    · exact .inl (.of_kept (.of_writes (hrecords.mono (by decide))))
    · obtain ⟨n, rfl⟩ := hran.start
      exact .inr ⟨env, request, rfl, hmem, (ContractChange.of_handler hran.run).around hrecords⟩
  all_goals exact .inl (.of_kept (step_background Preord.refl rfl hstep))

theorem contractInv_invariant (ok : World → Label → Prop) :
    system.Invariant ok fun w ↦ ContractInv w.db where
  init := ⟨(fun h ↦ nomatch h), (fun h ↦ nomatch h), (fun h ↦ nomatch h), (fun h ↦ nomatch h),
    (fun h ↦ nomatch h)⟩
  step _ _ _ h _ hstep := by
    rcases step_contracts hstep with hnone | ⟨_, _, -, -, hchange⟩
    · exact hnone.inv h
    · exact hchange.inv h

/-! ## Authorised contracts -/

/-- A decision that a human of the principal of a task has approved is about this version of its
contract and about the hash of this content. -/
structure World.Authorizes (w : World) (t : String) (v : Nat) (content : ContractContent)
    (decisionId : String) (decision : DecisionRow) : Prop where
  found : w.db.decisions.find? decisionId = some decision
  approved : w.Approved decisionId decision
  task : decision.taskId = t
  version : decision.targetVersion = v
  hash : decision.targetHash = .contract content

theorem World.Authorizes.of_step {t : String} {v : Nat} {content : ContractContent}
    {decision : DecisionRow} (h : w.Authorizes t v content decisionId decision)
    (hstep : system.step w l = some w') :
    ∃ decision', w'.Authorizes t v content decisionId decision' := by
  obtain ⟨_, -, -, -, hwho, -⟩ := h.approved
  have happroved := (DecisionRow.approved_of_approval hwho).1
  obtain ⟨decision', hfound, hfixed, hsame⟩ := step_approved hstep h.found happroved
  have htask : decision'.taskId = decision.taskId := congrArg DecisionTerms.taskId hfixed
  have hversion : decision'.targetVersion = decision.targetVersion :=
    congrArg DecisionTerms.targetVersion hfixed
  have hhash : decision'.targetHash = decision.targetHash :=
    congrArg DecisionTerms.targetHash hfixed
  exact ⟨decision', hfound, h.approved.of_step hstep hfixed hsame, htask.trans h.task,
    hversion.trans h.version, hhash.trans h.hash⟩

theorem World.Authorizes.of_run {ok : World → Label → Prop} {t : String} {v : Nat}
    {content : ContractContent} {decision : DecisionRow}
    (h : w.Authorizes t v content decisionId decision) (hrun : system.Run ok w w') :
    ∃ decision', w'.Authorizes t v content decisionId decision' := by
  induction hrun with
  | refl => exact ⟨decision, h⟩
  | step _ _ hstep ih =>
    obtain ⟨decision', h'⟩ := ih
    exact h'.of_step hstep

/-- A contract that a step makes ACTIVE was authorised by the decision that the command names. -/
theorem step_authorizes (hinv : ContractInv w.db) (happrovals : ApprovalInv w')
    (hstep : system.step w l = some w') {t : String} {v : Nat} {contract : ContractRow}
    (hcontract : w'.db.contracts.find? (t, v) = some contract) (hactive : contract.status = .active)
    (hnot : w.db.contracts.find? (t, v) ≠ some contract) :
    ∃ env request decisionId decision, l = .command env request ∧
      request.payload.decisionId = some decisionId ∧
      w'.Authorizes t v contract.content decisionId decision := by
  have hold {s' : DB} (h : NoneActivated w.db s')
      (hcontract : s'.contracts.find? (t, v) = some contract) : False := by
    obtain ⟨contract₀, hcontract₀, -, rfl⟩ := h.came _ contract hcontract hactive
    exact hnot hcontract₀
  -- the decision keeps its terms, and whoever has approved it by now is a human
  have hdecision {decisionId : String} {decision decision' : DecisionRow}
      (hfound : w.db.decisions.find? decisionId = some decision)
      (hfound' : w'.db.decisions.find? decisionId = some decision')
      (happroved : decision'.status = .approved)
      (hkey : (t, v) = (decision.taskId, decision.targetVersion))
      (hhash : decision.targetHash = .contract contract.content) :
      w'.Authorizes t v contract.content decisionId decision' := by
    have hp : Persists w.db w'.db := step_rel hstep
    obtain ⟨decision'', hfound'', hfixed⟩ := (hp .decisions).1 _ _ hfound
    obtain rfl := Option.some.inj (hfound'.symm.trans hfound'')
    obtain ⟨ht, hv⟩ := Prod.mk.inj hkey
    have htask : decision'.taskId = decision.taskId := congrArg DecisionTerms.taskId hfixed
    have hversion : decision'.targetVersion = decision.targetVersion :=
      congrArg DecisionTerms.targetVersion hfixed
    have htarget : decision'.targetHash = decision.targetHash :=
      congrArg DecisionTerms.targetHash hfixed
    exact ⟨hfound', happrovals _ _ hfound' happroved, htask.trans ht.symm, hversion.trans hv.symm,
      htarget.trans hhash⟩
  rcases step_contracts hstep with hnone | ⟨env, request, rfl, hmem, hchange⟩
  · exact (hold hnone hcontract).elim
  cases hchange with
  | quiet hnone => exact (hold hnone hcontract).elim
  | @approved r k decision _ contract₀ asked resolves kind _ found taken activates =>
    obtain ⟨contracts, hinstalls, hkept⟩ := activates
    rw [hkept.contracts] at hcontract
    rcases hinstalls.came hcontract hactive with ⟨hkey, rfl⟩ | ⟨-, hsame, -⟩
    · have htaken : (w.db.take env request.auth "APPROVE" k).decisions.find? k =
          some (takenDecision env request.auth "APPROVE" decision) := by
        change (w.db.decisions.modify k _).find? k = _
        rw [Table.find?_modify_self, resolves.found]
        rfl
      obtain ⟨decision', hfound', happroval⟩ := taken.kept _ _ htaken
      have happroved := (DecisionRow.approved_of_approval happroval).1
      obtain ⟨contract₁, hcontract₁, hhash⟩ := resolves.unchanged kind
      obtain rfl := Option.some.inj (found.symm.trans hcontract₁)
      have hnamed := (resolution_decisionId asked).symm.trans resolves.named
      exact ⟨env, request, k, decision', rfl, hnamed, hdecision resolves.found hfound' happroved
        hkey (hhash.symm.trans (hinv.hashed found))⟩
    · exact absurd hsame hnot
  | @merged k decision _ envelope base _ applicable fresh hash activates =>
    obtain ⟨contracts, hinstalls, hkept⟩ := activates
    rw [hkept.contracts] at hcontract
    rcases hinstalls.came hcontract hactive with ⟨hkey, rfl⟩ | ⟨-, hsame, -⟩
    · obtain ⟨decision', hfound', -, happroval⟩ :=
        step_approved hstep applicable.found applicable.approved
      rw [DecisionRow.approval_of_approved applicable.approved] at happroval
      have happroved := (DecisionRow.approved_of_approval happroval).1
      exact ⟨env, request, k, decision', rfl, applicable.named,
        hdecision applicable.found hfound' happroved hkey hash.symm⟩
    · exact absurd hsame hnot

/-- Every ACTIVE contract is authorised. -/
theorem authorized_invariant (ok : World → Label → Prop) : system.Invariant ok fun w ↦
    (ContractInv w.db ∧ ApprovalInv w) ∧ ∀ t v contract,
      w.db.contracts.find? (t, v) = some contract → contract.status = .active →
        ∃ decisionId decision, w.Authorizes t v contract.content decisionId decision := by
  have hboth : system.Invariant ok fun w ↦ ContractInv w.db ∧ ApprovalInv w :=
    (contractInv_invariant ok).strengthen (approvalInv_invariant ok).init
      fun _ _ _ _ _ h hok hstep ↦ (approvalInv_invariant ok).step _ _ _ h hok hstep
  refine hboth.strengthen (fun _ _ _ h ↦ nomatch h) fun w l w' h h' hall _ hstep t v contract
    hcontract hactive ↦ ?_
  by_cases hold : w.db.contracts.find? (t, v) = some contract
  · obtain ⟨k, decision, hauthorizes⟩ := hall t v contract hold hactive
    exact ⟨k, hauthorizes.of_step hstep⟩
  · obtain ⟨_, _, k, decision, -, -, hauthorizes⟩ :=
      step_authorizes h.1 h'.2 hstep hcontract hactive hold
    exact ⟨k, decision, hauthorizes⟩

end Steps

end HibikiCore
