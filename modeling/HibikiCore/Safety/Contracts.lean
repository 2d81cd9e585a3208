import HibikiCore.Application.Resolution
import HibikiCore.Application.Planning
import HibikiCore.System.Transactions

/-!
# The ACTIVE contract

A task has at most one ACTIVE contract, the one its marker and its `contract_version` name. Two
transactions make a contract ACTIVE, the approval of a submitted contract and the application of an
approved delta; everything else leaves the versions of the tasks as they are.
-/

namespace HibikiCore

set_option synthInstance.maxSize 100000000
set_option synthInstance.maxHeartbeats 400000

/-- All tables but the tasks, the contracts and the markers of the ACTIVE ones. -/
abbrev besideContracts : List Relation :=
  [.explanations, .decisions, .gates, .plans, .activePlanMarkers, .workUnitSpecs,
    .workUnitExecutions, .plannerSessions, .agentRuns, .activeExecuteRunMarkers,
    .activePlanRunMarkers, .workspaces, .contextManifests, .sideEffects, .events, .inbox, .outbox,
    .idempotencyKeys, .resultSnapshots, .artifacts, .acceptanceEvidence, .agentProfiles,
    .runInputs, .toolInvocations, .contextAppends, .taskMessages]

instance : Faithful Refs.tasks := ⟨id⟩

instance {n : Relation} [h : Touches n besideContracts] : Beside Refs.tasks n where
  ne := by
    rintro rfl
    exact absurd h.mem (by decide)

instance : Beside Refs.tasks Relation.contracts := ⟨nofun⟩

instance : Beside Refs.tasks Relation.activeContractMarkers := ⟨nofun⟩

/-- An update of a task that gives no value for the version of its contract. -/
instance {a c : TaskRow → String} {b : TaskRow → Json} {d : TaskRow → TaskState}
    {e : TaskRow → Option WaitingReason} {f m : TaskRow → Nat} {h : TaskRow → Option Nat}
    {i j o : TaskRow → Option String} {k l : TaskRow → Bool} {n n' : TaskRow → Int}
    {q r : TaskRow → Time} :
    Leaves TaskRow.contractVersion fun t ↦
      ⟨a t, b t, c t, d t, e t, f t, t.contractVersion, h t, i t, j t, k t, l t, m t, n t, n' t,
        o t, q t, r t⟩ :=
  ⟨fun _ ↦ rfl⟩

variable {env : Env} {auth : AuthContext} {p : Payload} {task : TaskRow} {s s' : DB}
  {taskId decisionId : String}

/-! ## Versions of tasks -/

/-- The tasks persist with the version of their contract; a new task has none. -/
abbrev VersionsKept : DB → DB → Prop := KeepsColumn Refs.tasks TaskRow.contractVersion none

/-- The tables of the contracts stay the same, and so do the versions of the tasks. -/
structure ContractsKept (s s' : DB) : Prop where
  contracts : s'.contracts = s.contracts
  markers : s'.activeContractMarkers = s.activeContractMarkers
  versions : VersionsKept s s'

namespace ContractsKept

instance : Preord ContractsKept where
  refl _ := ⟨rfl, rfl, Preord.refl _⟩
  trans h h' := ⟨h'.contracts.trans h.contracts, h'.markers.trans h.markers,
    Preord.trans h.versions h'.versions⟩

theorem of_writes (h : Writes besideContracts s s') : ContractsKept s s' where
  contracts := ((h .contracts).2 (by decide)).symm
  markers := ((h .activeContractMarkers).2 (by decide)).symm
  versions := .of_read ((h .tasks).2 (by decide))

instance : Frame ContractsKept where
  still h := of_writes (h.mono fun _ hn ↦ (List.not_mem_nil hn).elim)

instance {n : Relation} [h : Touches n besideContracts] : Indifferent ContractsKept n where
  writes hw := of_writes (hw.mono fun _ hm ↦ List.mem_singleton.mp hm ▸ h.mem)

instance {f : TaskRow → TaskRow} {hf : ∀ a, SameFixed a (f a)}
    [Leaves TaskRow.contractVersion f] :
    Respects ContractsKept (Refs.tasks.update taskId f hf : Core Unit) where
  rel h := by
    refine ⟨?_, ?_, Respects.rel h⟩ <;> (obtain rfl := Ref.update_ok.mp h; rfl)

instance setTaskState_respects {event : TaskEvent} {reason : Option WaitingReason} :
    Respects ContractsKept (setTaskState env taskId event reason) := by
  rw [setTaskState]
  infer_instance

instance createTask_respects : Respects ContractsKept (createTask env auth p) := by
  have hadd (row : TaskRow) (hnone : row.contractVersion = none) (k : String) :
      Respects ContractsKept (add Refs.tasks k row) := by
    refine ⟨fun h ↦ ⟨?_, ?_, (KeepsColumn.insert hnone).rel h⟩⟩ <;>
      (obtain ⟨-, rfl⟩ := Ref.insert_ok.mp h; rfl)
  rw [createTask]
  refine .seq inferInstance fun _ ↦ .seq inferInstance fun _ ↦ .seq inferInstance fun _ ↦ ?_
  exact .seq (hadd _ rfl _) fun _ ↦ inferInstance

instance : TaskDetails ContractsKept where
  update k f hf hd := by
    have : Leaves TaskRow.contractVersion f := ⟨hd.contractVersion⟩
    infer_instance

instance : PlanVersions ContractsKept where
  update _ _ := inferInstance

instance : TaskSessions ContractsKept where
  update _ _ := inferInstance

instance background : Background ContractsKept := inferInstance

/-- Besides the commands that resolve decisions two commands write contracts. -/
theorem handler_respects {operation : Operation} (hresolve : resolution p operation = none)
    (hsubmit : operation ≠ .submitContract) (hdelta : operation ≠ .applyContractDelta) :
    Respects ContractsKept (handler env auth p operation) := by
  cases operation
  case submitContract => exact (hsubmit rfl).elim
  case applyContractDelta => exact (hdelta rfl).elim
  case approveContract | resolveDecision | acceptResult | approveSideEffect => cases hresolve
  all_goals (dsimp only [handler]; infer_instance)

end ContractsKept

/-! ## The invariant -/

/-- The marker of a task names its ACTIVE contract and its `contract_version` is that of the marker;
what is stored of a contract is its content with the hash of it, and it belongs to a task. -/
structure ContractInv (s : DB) : Prop where
  marked : ∀ {t v contract}, s.contracts.find? (t, v) = some contract →
    contract.status = .active → s.activeContractMarkers.find? t = some ⟨v⟩
  active : ∀ {t v}, s.activeContractMarkers.find? t = some ⟨v⟩ →
    ∃ contract, s.contracts.find? (t, v) = some contract ∧ contract.status = .active
  version : ∀ {t task}, s.tasks.find? t = some task → task.contractVersion =
    (s.activeContractMarkers.find? t).map ActiveContractMarker.contractVersion
  known : ∀ {t v contract}, s.contracts.find? (t, v) = some contract →
    ∃ task, s.tasks.find? t = some task
  hashed : ∀ {t v contract}, s.contracts.find? (t, v) = some contract →
    contract.contentHash = .contract contract.content

namespace ContractInv

theorem of_kept (h : ContractInv s) (hkept : ContractsKept s s') : ContractInv s' where
  marked := hkept.contracts ▸ hkept.markers ▸ h.marked
  active := hkept.contracts ▸ hkept.markers ▸ h.active
  version {t task'} htask' := by
    rw [hkept.markers]
    rcases hkept.versions.origin htask' with ⟨task, htask, hsame⟩ | ⟨hnew, hnone⟩
    · exact hsame.trans (h.version htask)
    · rw [hnone]
      cases hmarker : s.activeContractMarkers.find? t with
      | none => rfl
      | some marker =>
        -- a marker belongs to a task that is known
        obtain ⟨contract, hcontract, -⟩ := h.active hmarker
        obtain ⟨task, htask⟩ := h.known hcontract
        exact absurd (hnew.symm.trans htask) (by simp)
  known {t v contract} hcontract := by
    obtain ⟨task, htask⟩ := h.known (hkept.contracts ▸ hcontract)
    obtain ⟨task', htask', -⟩ := hkept.versions.kept t task htask
    exact ⟨task', htask'⟩
  hashed := hkept.contracts ▸ h.hashed

/-- Only one contract of a task is ACTIVE. -/
theorem unique (h : ContractInv s) {t : String} {v v' : Nat} {contract contract' : ContractRow}
    (hv : s.contracts.find? (t, v) = some contract) (hactive : contract.status = .active)
    (hv' : s.contracts.find? (t, v') = some contract') (hactive' : contract'.status = .active) :
    v = v' := by
  have hmarker := (h.marked hv hactive).symm.trans (h.marked hv' hactive')
  exact congrArg ActiveContractMarker.contractVersion (Option.some.inj hmarker)

/-- Contracts that are not ACTIVE may come and change, as long as they are of a known task. -/
theorem of_inactive (h : ContractInv s) (hmarkers : s'.activeContractMarkers =
      s.activeContractMarkers) (htasks : s'.tasks = s.tasks)
    (hkept : ∀ k contract, s.contracts.find? k = some contract → contract.status = .active →
      s'.contracts.find? k = some contract)
    (hcame : ∀ t v contract, s'.contracts.find? (t, v) = some contract →
      (∃ contract₀, s.contracts.find? (t, v) = some contract₀ ∧
        contract.content = contract₀.content ∧ contract.contentHash = contract₀.contentHash ∧
        (contract.status = .active → contract₀.status = .active)) ∨
      (∃ task, s.tasks.find? t = some task) ∧ contract.contentHash = .contract contract.content ∧
        contract.status ≠ .active) : ContractInv s' where
  marked {t v contract} hcontract hactive := by
    rw [hmarkers]
    rcases hcame t v contract hcontract with ⟨contract₀, hcontract₀, -, -, hactive₀⟩ | ⟨-, -, hnot⟩
    · exact h.marked hcontract₀ (hactive₀ hactive)
    · exact absurd hactive hnot
  active {t v} hmarker := by
    obtain ⟨contract, hcontract, hactive⟩ := h.active (hmarkers ▸ hmarker)
    exact ⟨contract, hkept _ contract hcontract hactive, hactive⟩
  version := hmarkers ▸ htasks ▸ h.version
  known {t v contract} hcontract := by
    rw [htasks]
    rcases hcame t v contract hcontract with ⟨contract₀, hcontract₀, -⟩ | ⟨hknown, -⟩
    · exact h.known hcontract₀
    · exact hknown
  hashed {t v contract} hcontract := by
    rcases hcame t v contract hcontract with ⟨contract₀, hcontract₀, hcontent, hhash, -⟩ | hnew
    · rw [hhash, hcontent]
      exact h.hashed hcontract₀
    · exact hnew.2.1

/-! ### Submission -/

theorem supersedePriorContracts (h : ContractInv s)
    (hrun : HibikiCore.supersedePriorContracts env taskId s = .ok ((), s')) : ContractInv s' := by
  obtain ⟨_, t₁, hupdate, h₁⟩ := Tx.bind_ok.mp hrun
  have hrest : ContractsKept t₁ s' := Respects.rel h₁
  refine of_kept ?_ hrest
  obtain rfl := Ref.updateWhere_ok.mp hupdate
  refine h.of_inactive rfl rfl (fun k contract hcontract hactive ↦ ?_)
    fun t v contract hcontract ↦ .inl ?_
  · change (s.contracts.modifyWhere _ _).find? k = _
    simp [hcontract, hactive]
  · change (s.contracts.modifyWhere _ _).find? (t, v) = _ at hcontract
    rw [Table.find?_modifyWhere] at hcontract
    obtain ⟨contract₀, hcontract₀, rfl⟩ := Option.map_eq_some_iff.mp hcontract
    refine ⟨contract₀, hcontract₀, ?_⟩
    split
    · exact ⟨rfl, rfl, fun h ↦ nomatch h⟩
    · exact ⟨rfl, rfl, id⟩

theorem submitContract (h : ContractInv s) {result : CommandResult}
    (hrun : HibikiCore.submitContract env auth p s = .ok (result, s')) : ContractInv s' := by
  obtain ⟨taskId, t₁, hkey, h₁⟩ := Tx.bind_ok.mp hrun
  obtain ⟨-, rfl⟩ := key_ok.mp hkey
  obtain ⟨task, t₂, hget, h₂⟩ := Tx.bind_ok.mp h₁
  obtain ⟨htask, rfl⟩ := getTask_ok.mp hget
  obtain ⟨_, t₃, hcheck, h₃⟩ := Tx.bind_ok.mp h₂
  obtain ⟨-, rfl⟩ := Tx.check_ok.mp hcheck
  dsimp only at h₃
  rw [Tx.get_bind_ok] at h₃
  obtain ⟨_, t₄, hsupersede, h₄⟩ := Tx.bind_ok.mp h₃
  obtain ⟨_, t₅, hadd, h₅⟩ := Tx.bind_ok.mp h₄
  have hrest : ContractsKept t₅ s' := Respects.rel h₅
  refine of_kept ?_ hrest
  have hinv : ContractInv t₄ := h.supersedePriorContracts hsupersede
  have htask₄ : Persists t₃ t₄ := Respects.rel hsupersede
  obtain ⟨hnone, rfl⟩ := Ref.insert_ok.mp hadd
  refine hinv.of_inactive rfl rfl (fun k contract hcontract _ ↦ ?_)
    fun t v contract hcontract ↦ ?_
  · exact Table.find?_insert_of_some hnone hcontract
  · change (t₄.contracts.insert _ _).find? (t, v) = _ at hcontract
    rw [Table.find?_insert hnone] at hcontract
    split at hcontract
    · next hk =>
      obtain rfl := Option.some.inj hcontract
      obtain ⟨rfl, -⟩ := Prod.mk.inj hk
      obtain ⟨task', htask', -⟩ := (htask₄ .tasks).1 _ _ htask
      exact .inr ⟨⟨task', htask'⟩, rfl, fun h ↦ nomatch h⟩
    · exact .inl ⟨contract, hcontract, rfl, rfl, id⟩

end ContractInv

/-! ## Activation -/

/-- The database after the ACTIVE contract of a task was retired. -/
def DB.retire (s : DB) (t : String) : DB :=
  match s.activeContractMarkers.find? t with
  | none => s
  | some marker =>
    { s with
      contracts := s.contracts.modify (t, marker.contractVersion) fun c ↦
        { c with status := .superseded }
      activeContractMarkers := s.activeContractMarkers.erase t }

theorem retireActiveContract_ok {t : String} :
    retireActiveContract t s = .ok ((), s') ↔ s' = s.retire t := by
  rw [retireActiveContract, Tx.get_bind_ok, DB.retire]
  cases s.activeContractMarkers.find? t with
  | none => simp
  | some marker => simp [Tx.bind_ok]

theorem DB.retire_markers (s : DB) (t t' : String) :
    (s.retire t).activeContractMarkers.find? t' =
      if t' = t then none else s.activeContractMarkers.find? t' := by
  rw [DB.retire]
  cases hmarker : s.activeContractMarkers.find? t with
  | none =>
    by_cases ht : t' = t
    · rw [if_pos ht, ht]
      exact hmarker
    · rw [if_neg ht]
  | some marker => exact Table.find?_erase _ _ _

/-- Retiring a contract changes nothing but the status of the one the marker names. -/
theorem DB.retire_contracts {s : DB} {t : String} {k : String × Nat} {contract' : ContractRow}
    (h : (s.retire t).contracts.find? k = some contract') :
    ∃ contract, s.contracts.find? k = some contract ∧ contract'.content = contract.content ∧
      contract'.contentHash = contract.contentHash ∧
      (contract'.status = .active → contract' = contract ∧
        ∀ v, s.activeContractMarkers.find? t = some ⟨v⟩ → k ≠ (t, v)) := by
  rw [DB.retire] at h
  cases hmarker : s.activeContractMarkers.find? t with
  | none =>
    rw [hmarker] at h
    exact ⟨contract', h, rfl, rfl, fun _ ↦ ⟨rfl, fun _ hv ↦ nomatch hv⟩⟩
  | some marker =>
    rw [hmarker] at h
    change (s.contracts.modify _ _).find? k = _ at h
    rw [Table.find?_modify] at h
    split at h
    · obtain ⟨contract, hcontract, rfl⟩ := Option.map_eq_some_iff.mp h
      exact ⟨contract, hcontract, rfl, rfl, fun hactive ↦ nomatch hactive⟩
    · next hk =>
      refine ⟨contract', h, rfl, rfl, fun _ ↦ ⟨rfl, fun v hv ↦ ?_⟩⟩
      obtain rfl := Option.some.inj hv
      exact hk

theorem DB.retire_kept (s : DB) (t : String) {k : String × Nat} (hk : k.1 ≠ t) :
    (s.retire t).contracts.find? k = s.contracts.find? k := by
  rw [DB.retire]
  cases s.activeContractMarkers.find? t with
  | none => rfl
  | some marker => exact Table.find?_modify_of_ne (fun h ↦ hk (congrArg Prod.fst h)) _ _

/-- The database after a version of the contract of a task was made ACTIVE. -/
def DB.install (s : DB) (t : String) (v : Nat) (contracts : Table (String × Nat) ContractRow) :
    DB :=
  { s with
    contracts
    activeContractMarkers := (s.retire t).activeContractMarkers.insert t ⟨v⟩
    tasks := s.tasks.modify t fun task ↦ { task with contractVersion := some v } }

/-- The contracts after one of them became ACTIVE and the one before it was retired. -/
def Installs (s : DB) (t : String) (v : Nat) (contract : ContractRow)
    (contracts : Table (String × Nat) ContractRow) : Prop :=
  ∀ k, contracts.find? k =
    if k = (t, v) then some contract else (s.retire t).contracts.find? k

theorem DB.install_markers (s : DB) (t : String) (v : Nat)
    (contracts : Table (String × Nat) ContractRow) (t' : String) :
    (s.install t v contracts).activeContractMarkers.find? t' =
      if t' = t then some ⟨v⟩ else s.activeContractMarkers.find? t' := by
  have hfresh : (s.retire t).activeContractMarkers.find? t = none := by
    rw [DB.retire_markers, if_pos rfl]
  refine (Table.find?_insert hfresh _ _).trans ?_
  rw [DB.retire_markers]
  split <;> rfl

namespace Installs

variable {t : String} {v : Nat} {contract : ContractRow}
  {contracts : Table (String × Nat) ContractRow}

/-- The only contract that can have become ACTIVE is the one that was installed. -/
theorem came (h : Installs s t v contract contracts) {k : String × Nat} {contract' : ContractRow}
    (hk : contracts.find? k = some contract') (hactive : contract'.status = .active) :
    k = (t, v) ∧ contract' = contract ∨ k ≠ (t, v) ∧ s.contracts.find? k = some contract' ∧
      ∀ v', s.activeContractMarkers.find? t = some ⟨v'⟩ → k ≠ (t, v') := by
  rw [h k] at hk
  split at hk
  · next heq => exact .inl ⟨heq, (Option.some.inj hk).symm⟩
  · next hne =>
    obtain ⟨contract₀, hcontract₀, -, -, hsame⟩ := DB.retire_contracts hk
    obtain ⟨rfl, hother⟩ := hsame hactive
    exact .inr ⟨hne, hcontract₀, hother⟩

/-- Installing a contract of a known task keeps the invariant. -/
theorem inv (h : Installs s t v contract contracts) (hinv : ContractInv s)
    (hactive : contract.status = .active) (hhash : contract.contentHash = .contract contract.content)
    (hknown : ∃ task, s.tasks.find? t = some task) :
    ContractInv (s.install t v contracts) where
  marked {t' v' contract'} hcontract' hactive' := by
    rw [DB.install_markers]
    rcases h.came hcontract' hactive' with ⟨heq, -⟩ | ⟨-, hold, hother⟩
    · obtain ⟨rfl, rfl⟩ := Prod.mk.inj heq
      exact if_pos rfl
    · have hmarker := hinv.marked hold hactive'
      have hne : t' ≠ t := by
        rintro rfl
        exact hother v' hmarker rfl
      rw [if_neg hne, hmarker]
  active {t' v'} hmarker := by
    rw [DB.install_markers] at hmarker
    split at hmarker
    · next heq =>
      obtain rfl : v = v' := congrArg ActiveContractMarker.contractVersion (Option.some.inj hmarker)
      exact ⟨contract, by rw [heq]; exact (h (t, v)).trans (if_pos rfl), hactive⟩
    · next hne =>
      obtain ⟨contract', hcontract', hactive'⟩ := hinv.active hmarker
      refine ⟨contract', ?_, hactive'⟩
      refine (h (t', v')).trans ((if_neg fun heq ↦ hne (Prod.mk.inj heq).1).trans ?_)
      exact (DB.retire_kept s t hne).trans hcontract'
  version {t' task'} htask' := by
    rw [DB.install_markers]
    change (s.tasks.modify t _).find? t' = _ at htask'
    rw [Table.find?_modify] at htask'
    split at htask'
    · next heq =>
      obtain ⟨task, -, rfl⟩ := Option.map_eq_some_iff.mp htask'
      rw [if_pos heq]
      rfl
    · next hne =>
      rw [if_neg hne]
      exact hinv.version htask'
  known {t' v' contract'} hcontract' := by
    have htask (t₀ : String) (h₀ : ∃ task, s.tasks.find? t₀ = some task) :
        ∃ task, (s.tasks.modify t fun task ↦ { task with contractVersion := some v }).find? t₀ =
          some task := by
      obtain ⟨task, htask⟩ := h₀
      rw [Table.find?_modify, htask]
      split <;> exact ⟨_, rfl⟩
    refine htask t' ?_
    change contracts.find? (t', v') = _ at hcontract'
    rw [h] at hcontract'
    split at hcontract'
    · next heq =>
      obtain ⟨rfl, -⟩ := Prod.mk.inj heq
      exact hknown
    · obtain ⟨contract₀, hcontract₀, -⟩ := DB.retire_contracts hcontract'
      exact hinv.known hcontract₀
  hashed {t' v' contract'} hcontract' := by
    change contracts.find? (t', v') = _ at hcontract'
    rw [h] at hcontract'
    split at hcontract'
    · obtain rfl := Option.some.inj hcontract'
      exact hhash
    · obtain ⟨contract₀, hcontract₀, hcontent, hsame, -⟩ := DB.retire_contracts hcontract'
      rw [hsame, hcontent]
      exact hinv.hashed hcontract₀

end Installs

/-! ## What the activating transactions were -/

/-- Only the contracts and the markers are written when a contract is retired. -/
theorem DB.retire_eq (s : DB) (t : String) :
    ∃ contracts markers, s.retire t = { s with contracts, activeContractMarkers := markers } := by
  rw [DB.retire]
  cases s.activeContractMarkers.find? t with
  | none => exact ⟨s.contracts, s.activeContractMarkers, rfl⟩
  | some marker => exact ⟨_, _, rfl⟩

/-- A contract after it was approved. -/
def approvedContract (env : Env) (actorId : String) (contract : ContractRow) : ContractRow :=
  { contract with status := .active, approvedBy := some actorId, approvedAt := some env.now }

/-- The approval of a contract makes the version it is about the ACTIVE one. -/
theorem applyContractApproval_ok {decision : DecisionRow} {actorId : String}
    (h : applyContractApproval env taskId decisionId decision actorId s = .ok ((), s')) :
    ∃ contract contracts, s.contracts.find? (taskId, decision.targetVersion) = some contract ∧
      Installs s taskId decision.targetVersion (approvedContract env actorId contract) contracts ∧
      ContractsKept (s.install taskId decision.targetVersion contracts) s' := by
  rw [applyContractApproval, Tx.get_bind_ok] at h
  obtain ⟨contract, t₁, hrequire, h₁⟩ := Tx.bind_ok.mp h
  obtain ⟨hcontract, rfl⟩ := Tx.require_ok.mp hrequire
  obtain ⟨_, t₂, hretire, h₂⟩ := Tx.bind_ok.mp h₁
  obtain rfl := retireActiveContract_ok.mp hretire
  obtain ⟨_, t₃, hupdate, h₃⟩ := Tx.bind_ok.mp h₂
  obtain rfl := Ref.update_ok.mp hupdate
  obtain ⟨_, t₄, hmarker, h₄⟩ := Tx.bind_ok.mp h₃
  obtain ⟨-, rfl⟩ := Ref.insert_ok.mp hmarker
  obtain ⟨_, t₅, htask, h₅⟩ := Tx.bind_ok.mp h₄
  obtain rfl := Ref.update_ok.mp htask
  have hrest := Respects.rel (R := ContractsKept) h₅
  refine ⟨contract, (t₁.retire taskId).contracts.modify (taskId, decision.targetVersion) fun c ↦
    { c with status := .active, approvedBy := some actorId, approvedAt := some env.now },
    hcontract, fun k ↦ ?_, ?_⟩
  · rw [Table.find?_modify]
    split
    · next hk =>
      rw [hk, DB.retire]
      cases t₁.activeContractMarkers.find? taskId with
      | none =>
        change (t₁.contracts.find? _).map _ = _
        rw [hcontract]
        rfl
      | some marker =>
        change ((t₁.contracts.modify _ _).find? _).map _ = _
        rw [Table.find?_modify, hcontract]
        split <;> rfl
    · rfl
  · obtain ⟨contracts, markers, hshape⟩ := t₁.retire_eq taskId
    rw [DB.install]
    rw [hshape] at hrest ⊢
    exact hrest

/-- What is found of a delta that is applied. -/
structure Applicable (env : Env) (auth : AuthContext) (p : Payload) (s : DB) (decisionId : String)
    (decision : DecisionRow) (task : TaskRow) (envelope : DeltaEnvelope) : Prop where
  named : p.decisionId = some decisionId
  found : s.decisions.find? decisionId = some decision
  delta : decision.decisionKind = .contractDelta
  approved : decision.status = .approved
  known : s.tasks.find? decision.taskId = some task
  owner : task.principalId = auth.principalId
  gated : (s.gates.select fun _ g ↦ g.decisionId == decisionId
    && g.lifecycle == .approvedPendingApply) ≠ []
  idle : taskHasLiveWriter env s decision.taskId = false
  payload : decision.payload = some envelope

/-- The baseline of a delta is the ACTIVE contract, unchanged, and its target is free. -/
structure Fresh (s : DB) (decision : DecisionRow) (task : TaskRow) (envelope : DeltaEnvelope)
    (base : ContractRow) : Prop where
  version : task.contractVersion.getD 0 = envelope.baselineContractVersion
  marker : s.activeContractMarkers.find? decision.taskId = some ⟨envelope.baselineContractVersion⟩
  found : s.contracts.find? (decision.taskId, envelope.baselineContractVersion) = some base
  unchanged : base.contentHash = envelope.baselineContractHash
  free : s.contracts.find? (decision.taskId, decision.targetVersion) = none

/-- A contract that is the merge of a delta into its baseline. -/
def mergedContract (env : Env) (decision : DecisionRow) (task : TaskRow) (envelope : DeltaEnvelope)
    (base : ContractRow) : ContractRow where
  supersedesVersion := task.contractVersion
  contentHash := .contract (mergeContractContent base.content envelope.delta)
  content := mergeContractContent base.content envelope.delta
  status := .active
  approvedBy := decision.decidedByActor
  approvedAt := some env.now
  createdAt := env.now

theorem activateContractDelta_ok {decision : DecisionRow} {envelope : DeltaEnvelope}
    {base : ContractRow} {result : CommandResult}
    (hbase : s.contracts.find? (taskId, envelope.baselineContractVersion) = some base)
    (h : activateContractDelta env auth taskId decisionId task decision envelope s
      = .ok (result, s')) :
    .contract (mergeContractContent base.content envelope.delta) = decision.targetHash ∧
    ∃ contracts,
      Installs s taskId decision.targetVersion (mergedContract env decision task envelope base)
        contracts ∧
      ContractsKept (s.install taskId decision.targetVersion contracts) s' := by
  rw [activateContractDelta, Tx.get_bind_ok] at h
  obtain ⟨base', t₁, hrequire, h₁⟩ := Tx.bind_ok.mp h
  obtain ⟨hbase', rfl⟩ := Tx.require_ok.mp hrequire
  obtain rfl := Option.some.inj (hbase.symm.trans hbase')
  obtain ⟨_, t₂, hcheck, h₂⟩ := Tx.bind_ok.mp h₁
  obtain ⟨hhash, rfl⟩ := Tx.check_ok.mp hcheck
  obtain ⟨_, t₃, hretire, h₃⟩ := Tx.bind_ok.mp h₂
  obtain rfl := retireActiveContract_ok.mp hretire
  obtain ⟨_, t₄, hadd, h₄⟩ := Tx.bind_ok.mp h₃
  obtain ⟨hnone, rfl⟩ := Ref.insert_ok.mp hadd
  obtain ⟨_, t₅, hmarker, h₅⟩ := Tx.bind_ok.mp h₄
  obtain ⟨-, rfl⟩ := Ref.insert_ok.mp hmarker
  obtain ⟨_, t₆, htask, h₆⟩ := Tx.bind_ok.mp h₅
  obtain rfl := Ref.update_ok.mp htask
  have hrest := Respects.rel (R := ContractsKept) h₆
  refine ⟨hhash, (t₂.retire taskId).contracts.insert (taskId, decision.targetVersion)
    (mergedContract env decision task envelope base), Table.find?_insert hnone _, ?_⟩
  obtain ⟨contracts, markers, hshape⟩ := t₂.retire_eq taskId
  rw [DB.install]
  rw [hshape] at hrest ⊢
  exact hrest

/-- A delta is applied to the ACTIVE contract, or it is found to be stale. -/
theorem applyContractDelta_ok {result : CommandResult}
    (h : applyContractDelta env auth p s = .ok (result, s')) :
    ∃ decisionId decision task envelope marker,
      Applicable env auth p s decisionId decision task envelope ∧
      s.activeContractMarkers.find? decision.taskId = some marker ∧
      ((∃ base, Fresh s decision task envelope base ∧
          activateContractDelta env auth decision.taskId decisionId task decision envelope s
            = .ok (result, s')) ∨
        result.ok = false ∧ ∃ code, invalidateStaleContractDelta env decision.taskId decisionId
          decision auth.actorId code s = .ok ((), s')) := by
  obtain ⟨decisionId, t₁, hkey, h₁⟩ := Tx.bind_ok.mp h
  obtain ⟨hnamed, rfl⟩ := key_ok.mp hkey
  rw [Tx.get_bind_ok] at h₁
  obtain ⟨decision, t₂, hrequire, h₂⟩ := Tx.bind_ok.mp h₁
  obtain ⟨hfound, rfl⟩ := Tx.require_ok.mp hrequire
  obtain ⟨_, t₃, hcheck, h₃⟩ := Tx.bind_ok.mp h₂
  obtain ⟨hdelta, rfl⟩ := Tx.check_ok.mp hcheck
  obtain ⟨_, t₄, hcheck₄, h₄⟩ := Tx.bind_ok.mp h₃
  obtain ⟨happroved, rfl⟩ := Tx.check_ok.mp hcheck₄
  obtain ⟨task, t₅, hget, h₅⟩ := Tx.bind_ok.mp h₄
  obtain ⟨htask, rfl⟩ := getTask_ok.mp hget
  obtain ⟨_, t₆, hcheck₆, h₆⟩ := Tx.bind_ok.mp h₅
  obtain ⟨howner, rfl⟩ := Tx.check_ok.mp hcheck₆
  obtain ⟨_, t₇, hcheck₇, h₇⟩ := Tx.bind_ok.mp h₆
  obtain ⟨hgated, rfl⟩ := Tx.check_ok.mp hcheck₇
  obtain ⟨_, t₈, hwriters, h₈⟩ := Tx.bind_ok.mp h₇
  rw [assertNoLiveWriters, Tx.get_bind_ok] at hwriters
  obtain ⟨hidle, rfl⟩ := Tx.check_ok.mp hwriters
  obtain ⟨envelope, t₉, hrequire₉, h₉⟩ := Tx.bind_ok.mp h₈
  obtain ⟨hpayload, rfl⟩ := Tx.require_ok.mp hrequire₉
  have happlicable : Applicable env auth p t₉ decisionId decision task envelope :=
    ⟨hnamed, hfound, hdelta, happroved, htask, howner, hgated, hidle, hpayload⟩
  obtain ⟨contract, t₁₀, hcontract, h₁₀⟩ := Tx.bind_ok.mp h₉
  obtain ⟨rfl, hfind⟩ := activeContract_ok.mp hcontract
  obtain ⟨active, t₁₁, hrequire₁₁, h₁₁⟩ := Tx.bind_ok.mp h₁₀
  obtain ⟨hsome, rfl⟩ := Tx.require_ok.mp hrequire₁₁
  rcases hfind with ⟨-, hnone⟩ | ⟨version, row, hmarker, hrow, heq⟩
  · rw [hnone] at hsome
    cases hsome
  obtain rfl : (version, row) = active := Option.some.inj (heq.symm.trans hsome)
  refine ⟨decisionId, decision, task, envelope, ⟨version⟩, happlicable, hmarker, ?_⟩
  have hrefused (code message : String) (data : Data)
      (hstale : (do
        invalidateStaleContractDelta env decision.taskId decisionId decision auth.actorId code
        return CommandResult.failure code message data : Core CommandResult) t₁₁
          = .ok (result, s')) : result.ok = false ∧ ∃ code, invalidateStaleContractDelta env
            decision.taskId decisionId decision auth.actorId code t₁₁ = .ok ((), s') := by
    obtain ⟨_, u, hstale, hpure⟩ := Tx.bind_ok.mp hstale
    obtain ⟨rfl, rfl⟩ := Tx.pure_ok.mp hpure
    exact ⟨rfl, code, hstale⟩
  rcases Tx.ite_ok.mp h₁₁ with ⟨-, hstale⟩ | ⟨hbaseline, h₁₂⟩
  · exact .inr (hrefused _ _ _ hstale)
  rcases Tx.ite_ok.mp h₁₂ with ⟨-, hstale⟩ | ⟨hhash, h₁₃⟩
  · exact .inr (hrefused _ _ _ hstale)
  rcases Tx.ite_ok.mp h₁₃ with ⟨-, hstale⟩ | ⟨hfree, hactivate⟩
  · exact .inr (hrefused _ _ _ hstale)
  obtain ⟨hversion, hactive⟩ := not_or.mp hbaseline
  obtain rfl : version = envelope.baselineContractVersion := of_not_not hactive
  exact .inl ⟨row, ⟨of_not_not hversion, hmarker, hrow, of_not_not hhash,
    Option.not_isSome_iff_eq_none.mp hfree⟩, hactivate⟩

end HibikiCore
