import HibikiCore.Application.Accepting
import HibikiCore.Safety.Plans
import HibikiCore.Safety.Versions

/-!
# Acceptances that wait

A final acceptance is asked for about a snapshot of the ACTIVE contract and the ACTIVE plan. When
another plan becomes ACTIVE the acceptances of the task that wait are superseded and their gates
resolved. When another contract becomes ACTIVE they are not.
-/

namespace HibikiCore

set_option synthInstance.maxSize 100000000
set_option synthInstance.maxHeartbeats 400000

variable {env : Env} {auth : AuthContext} {p : Payload} {task : TaskRow} {s s' s'' : DB}
  {w w' : World} {l : Label} {taskId decisionId t : String} {result : CommandResult}

/-- A final acceptance that waits for a human. -/
def DecisionRow.isAsked (d : DecisionRow) : Prop :=
  d.decisionKind = .finalAcceptance ∧ d.status = .pending

/-- A final acceptance was taken or superseded, and a gate of it is unresolved. -/
structure StaleGate (s : DB) (k : String) : Prop where
  settled : ∃ d, s.decisions.find? k = some d ∧ d.decisionKind = .finalAcceptance ∧
    d.status ≠ .pending
  gate : ∃ g gate, s.gates.find? g = some gate ∧ gate.decisionId = k ∧ gate.isUnresolved = true

/-- All tables but the decisions and the gates. -/
abbrev besideQuestions : List Relation :=
  [.tasks, .contracts, .activeContractMarkers, .explanations, .plans, .activePlanMarkers,
    .workUnitSpecs, .workUnitExecutions, .plannerSessions, .agentRuns, .activeExecuteRunMarkers,
    .activePlanRunMarkers, .workspaces, .contextManifests, .sideEffects, .events, .inbox, .outbox,
    .idempotencyKeys, .resultSnapshots, .artifacts, .acceptanceEvidence, .agentProfiles,
    .runInputs, .toolInvocations, .contextAppends, .taskMessages]

/-- Two rows of a decision are about the same. -/
def DecisionRow.sameTerms (a b : DecisionRow) : Prop := SameFixed a b

instance : Preord DecisionRow.sameTerms where
  refl := SameFixed.refl
  trans := SameFixed.trans

/-- The acceptances that wait have waited before. -/
abbrev AskedBefore : DB → DB → Prop :=
  Stems Refs.decisions DecisionRow.isAsked DecisionRow.sameTerms

/-- Acceptances that wait have waited before, and no gate of a settled one is left. -/
structure AcceptancesKept (s s' : DB) : Prop where
  asked : AskedBefore s s'
  gates : ∀ k, StaleGate s' k → StaleGate s k

namespace AcceptancesKept

instance : Preord AcceptancesKept where
  refl s := ⟨Preord.refl s, fun _ ↦ id⟩
  trans h h' := ⟨Preord.trans h.asked h'.asked, fun k hk ↦ h.gates k (h'.gates k hk)⟩

theorem of_same (hdecisions : s'.decisions = s.decisions) (hgates : s'.gates = s.gates) :
    AcceptancesKept s s' where
  asked := .of_read hdecisions.symm
  gates _ hk := ⟨hdecisions ▸ hk.settled, hgates ▸ hk.gate⟩

theorem of_writes (h : Writes besideQuestions s s') : AcceptancesKept s s' :=
  of_same ((h .decisions).2 (by decide)).symm ((h .gates).2 (by decide)).symm

instance : Frame AcceptancesKept where
  still h := of_writes (h.mono fun _ hn ↦ (List.not_mem_nil hn).elim)

instance {n : Relation} [h : Touches n besideQuestions] : Indifferent AcceptancesKept n where
  writes hw := of_writes (hw.mono fun _ hm ↦ List.mem_singleton.mp hm ▸ h.mem)

/-! ### Gates -/

/-- Gates of a decision may be marked if they are resolved by it, or if the decision is about
something else. -/
theorem setGates_kept {lifecycle : GateLifecycle} {resolvedAt : Option Time}
    (hok : lifecycle = .resolved ∨ ∀ d, s.decisions.find? decisionId = some d →
      d.decisionKind ≠ .finalAcceptance)
    (h : setGates decisionId lifecycle resolvedAt s = .ok ((), s')) : AcceptancesKept s s' := by
  rw [setGates] at h
  obtain rfl := Ref.updateWhere_ok.mp h
  refine ⟨.of_read rfl, fun k hk ↦ ⟨hk.settled, ?_⟩⟩
  obtain ⟨d, hd, hkind, -⟩ := hk.settled
  obtain ⟨g, gate', hgate', hdecision, hunresolved⟩ := hk.gate
  change (s.gates.modifyWhere _ _).find? g = _ at hgate'
  rw [Table.find?_modifyWhere] at hgate'
  obtain ⟨gate, hgate, rfl⟩ := Option.map_eq_some_iff.mp hgate'
  split at hdecision
  · next hmine =>
    rw [if_pos hmine] at hunresolved
    rcases hok with rfl | hother
    · cases hunresolved
    · have hk : decisionId = k := (beq_iff_eq.mp hmine).symm.trans hdecision
      exact absurd hkind (hother d (hk ▸ hd))
  · next hmine =>
    rw [if_neg hmine] at hunresolved
    exact ⟨g, gate, hgate, hdecision, hunresolved⟩

instance resolveGates_respects : Respects AcceptancesKept (resolveGates env decisionId) where
  rel h := setGates_kept (.inl rfl) h

/-- After its gates were resolved, no gate of a decision is left. -/
theorem resolveGates_settles (h : resolveGates env decisionId s = .ok ((), s')) :
    ¬StaleGate s' decisionId := by
  rw [resolveGates, setGates] at h
  obtain rfl := Ref.updateWhere_ok.mp h
  rintro ⟨-, g, gate', hgate', hdecision, hunresolved⟩
  change (s.gates.modifyWhere _ _).find? g = _ at hgate'
  rw [Table.find?_modifyWhere] at hgate'
  obtain ⟨gate, -, rfl⟩ := Option.map_eq_some_iff.mp hgate'
  split at hdecision
  · next hmine =>
    rw [if_pos hmine] at hunresolved
    cases hunresolved
  · next hmine => exact hmine (beq_iff_eq.mpr hdecision)

/-! ### Decisions -/

/-- An update that ends a decision, or keeps what it is and whether it waits, leaves the other
decisions as they are. -/
theorem update_other {f : DecisionRow → DecisionRow} {hf : ∀ d, SameFixed d (f d)}
    (h : (Refs.decisions.update decisionId f hf : Core Unit) s = .ok ((), s')) {k : String}
    (hk : StaleGate s' k) (hne : k ≠ decisionId) : StaleGate s k := by
  obtain rfl := Ref.update_ok.mp h
  refine ⟨?_, hk.gate⟩
  obtain ⟨d, hd, hsettled⟩ := hk.settled
  change (s.decisions.modify decisionId f).find? k = _ at hd
  rw [Table.find?_modify_of_ne hne] at hd
  exact ⟨d, hd, hsettled⟩

instance update_details {lifecycle : GateLifecycle} : Respects AcceptancesKept
    (Refs.decisions.update decisionId fun d ↦ { d with gateLifecycle := lifecycle } :
      Core Unit) where
  rel {s _ s'} h := by
    have hsame : Respects AskedBefore (Refs.decisions.update decisionId fun d ↦
        { d with gateLifecycle := lifecycle } : Core Unit) :=
      Stems.update fun _ hd ↦ ⟨hd, SameFixed.of_eq rfl⟩
    refine ⟨hsame.rel h, fun k hk ↦ ?_⟩
    by_cases hne : k = decisionId
    · subst hne
      obtain rfl := Ref.update_ok.mp h
      refine ⟨?_, hk.gate⟩
      obtain ⟨d', hd', hkind, hstatus⟩ := hk.settled
      change (s.decisions.modify k _).find? k = _ at hd'
      rw [Table.find?_modify_self] at hd'
      obtain ⟨d, hd, rfl⟩ := Option.map_eq_some_iff.mp hd'
      exact ⟨d, hd, hkind, hstatus⟩
    · exact update_other h hk hne

/-- A decision is superseded together with its gates. -/
instance supersede_respects : Respects AcceptancesKept
    ((Refs.decisions.update decisionId fun d ↦ { d with status := .superseded } : Core Unit) >>=
      fun _ ↦ resolveGates env decisionId) where
  rel {s _ s'} h := by
    obtain ⟨_, u, hupdate, hgates⟩ := Tx.bind_ok.mp h
    have hafter : AcceptancesKept u s' := Respects.rel hgates
    have hended : AskedBefore s u :=
      (Stems.update fun d hd ↦ nomatch hd.2).rel hupdate
    refine ⟨Preord.trans hended hafter.asked, fun k hk ↦ ?_⟩
    by_cases hne : k = decisionId
    · exact absurd (hne ▸ hk) (resolveGates_settles hgates)
    · exact update_other hupdate (hafter.gates k hk) hne

/-- A gate that is opened for a new decision which waits is not stale. -/
theorem ask_gates {d : DecisionRow} {reason : WaitingReason} (hd : d.status = .pending)
    (h : (do
      add Refs.decisions decisionId d
      openGate env taskId decisionId reason : Core Unit) s = .ok ((), s')) (k : String)
    (hk : StaleGate s' k) : StaleGate s k := by
  obtain ⟨_, u, hadd, hopen⟩ := Tx.bind_ok.mp h
  obtain ⟨hnew, rfl⟩ := Ref.insert_ok.mp hadd
  obtain ⟨gateId, v, hid, hgate⟩ := Tx.bind_ok.mp hopen
  obtain ⟨-, rfl⟩ := newId_ok.mp hid
  obtain ⟨hfresh, rfl⟩ := Ref.insert_ok.mp hgate
  obtain ⟨d', hd', hkind, hstatus⟩ := hk.settled
  change (s.decisions.insert decisionId d).find? k = _ at hd'
  rw [Table.find?_insert hnew] at hd'
  split at hd'
  · obtain rfl := Option.some.inj hd'
    exact absurd hd hstatus
  · next hne =>
    refine ⟨⟨d', hd', hkind, hstatus⟩, ?_⟩
    obtain ⟨g, gate, hgate, hdecision, hunresolved⟩ := hk.gate
    change (s.gates.insert gateId _).find? g = _ at hgate
    rw [Table.find?_insert hfresh] at hgate
    split at hgate
    · obtain rfl := Option.some.inj hgate
      exact absurd hdecision.symm hne
    · exact ⟨g, gate, hgate, hdecision, hunresolved⟩

/-- Asking about anything but a final acceptance. -/
theorem ask {α : Type} {d : DecisionRow} {reason : WaitingReason} {m : Core α}
    (hd : d.status = .pending) (hkind : d.decisionKind ≠ .finalAcceptance)
    (hm : Respects AcceptancesKept m) : Respects AcceptancesKept
      (add Refs.decisions decisionId d >>= fun _ ↦
        openGate env taskId decisionId reason >>= fun _ ↦ m) where
  rel {s _ s'} h := by
    obtain ⟨_, u, hadd, h₁⟩ := Tx.bind_ok.mp h
    obtain ⟨_, v, hopen, h₂⟩ := Tx.bind_ok.mp h₁
    refine Preord.trans (s := s) (t := v) ⟨?_, ?_⟩ (hm.rel h₂)
    · have hnew : AskedBefore s u :=
        (Stems.insert fun hasked ↦ hkind hasked.1).rel hadd
      have hgate : AskedBefore u v := Respects.rel hopen
      exact Preord.trans hnew hgate
    · exact ask_gates hd (Tx.bind_ok.mpr ⟨(), u, hadd, hopen⟩)

instance : Questions AcceptancesKept where
  ask _ _ _ _ _ _ hd hm := ask hd.pending hd.kind.acceptance hm

/-! ### Commands -/

instance invalidateStaleContractDelta_respects {decision : DecisionRow} {actor code : String} :
    Respects AcceptancesKept
      (invalidateStaleContractDelta env taskId decisionId decision actor code) := by
  rw [invalidateStaleContractDelta]
  infer_instance

instance activateContractDelta_respects {decision : DecisionRow} {envelope : DeltaEnvelope} :
    Respects AcceptancesKept
      (activateContractDelta env auth taskId decisionId task decision envelope) := by
  rw [activateContractDelta]
  infer_instance

instance supersedePendingAcceptance_respects :
    Respects AcceptancesKept (supersedePendingAcceptance env taskId) := by
  rw [supersedePendingAcceptance]
  infer_instance

instance supersedePriorContracts_respects :
    Respects AcceptancesKept (supersedePriorContracts env taskId) := by
  rw [supersedePriorContracts]
  infer_instance

instance applyContractApproval_respects {decision : DecisionRow} {actorId : String} :
    Respects AcceptancesKept
      (applyContractApproval env taskId decisionId decision actorId) := by
  rw [applyContractApproval]
  infer_instance

instance proposeContractDelta_respects :
    Respects AcceptancesKept (proposeContractDelta env taskId p) := by
  rw [proposeContractDelta]
  refine .seq inferInstance fun _ ↦ .seq inferInstance fun _ ↦ .seq inferInstance fun _ ↦ ?_
  exact ask rfl nofun inferInstance

instance background : Background AcceptancesKept := inferInstance

/-- Besides the commands that resolve decisions, only a preparation asks for an acceptance. -/
theorem handler_respects {operation : Operation} (hresolve : resolution p operation = none)
    (hprepare : operation ≠ .prepareAcceptance) :
    Respects AcceptancesKept (handler env auth p operation) := by
  cases operation
  case prepareAcceptance => exact (hprepare rfl).elim
  case approveContract | resolveDecision | acceptResult | approveSideEffect => cases hresolve
  all_goals (dsimp only [handler]; infer_instance)

/-! ### Decisions that are taken -/

/-- Only a final acceptance has stale gates. -/
theorem not_stale {d : DecisionRow} (hp : Persists s s')
    (hd : s.decisions.find? decisionId = some d) (hkind : d.decisionKind ≠ .finalAcceptance) :
    ¬StaleGate s' decisionId := by
  rintro ⟨⟨d', hd', hkind', -⟩, -⟩
  obtain ⟨d'', hd'', hfixed⟩ := (hp .decisions).1 _ _ hd
  obtain rfl := Option.some.inj (hd'.symm.trans hd'')
  have hsame : d'.decisionKind = d.decisionKind := congrArg DecisionTerms.decisionKind hfixed
  exact hkind (hsame.symm.trans hkind')

/-- A decision is taken, and its gates are resolved before long. -/
theorem of_take {choice : String}
    (hrest : AcceptancesKept (s.take env auth choice decisionId) s')
    (hnot : ¬StaleGate s' decisionId) : AcceptancesKept s s' := by
  have htake : (Refs.decisions.update decisionId (takenDecision env auth choice) : Core Unit) s =
      .ok ((), s.take env auth choice decisionId) := Ref.update_ok.mpr rfl
  have hended : AskedBefore s (s.take env auth choice decisionId) := by
    refine (Stems.update fun d hd ↦ ?_).rel htake
    have hpending : (if choice = "APPROVE" then DecisionStatus.approved else .rejected) =
        .pending := hd.2
    split at hpending <;> cases hpending
  refine ⟨Preord.trans hended hrest.asked, fun k hk ↦ ?_⟩
  exact update_other htake (hrest.gates k hk) fun hne ↦ hnot (hne ▸ hk)

theorem applyContractDeltaApproval_kept {decision : DecisionRow}
    (hkind : ∀ d, s.decisions.find? decisionId = some d → d.decisionKind ≠ .finalAcceptance)
    (h : applyContractDeltaApproval env taskId decisionId decision s = .ok ((), s')) :
    AcceptancesKept s s' := by
  obtain ⟨_, t₁, hcheck, h₁⟩ := Tx.bind_ok.mp h
  obtain ⟨-, rfl⟩ := Tx.check_ok.mp hcheck
  obtain ⟨_, t₂, hgates, hrest⟩ := Tx.bind_ok.mp h₁
  exact Preord.trans (setGates_kept (.inr hkind) hgates) (Respects.rel hrest)

/-- What an approval does, as far as the gates of its decision are concerned. -/
theorem applyApprovedDecision_kept {decision : DecisionRow} {actorId : String}
    (hkind : ∀ d, s.decisions.find? decisionId = some d →
      d.decisionKind = decision.decisionKind)
    (h : applyApprovedDecision env taskId decisionId decision actorId s = .ok ((), s')) :
    AcceptancesKept s s' ∧
      (decision.decisionKind = .finalAcceptance → ¬StaleGate s' decisionId) := by
  cases hof : decision.decisionKind
  case contractDelta =>
    rw [applyApprovedDecision, hof] at h
    refine ⟨applyContractDeltaApproval_kept (fun d hd hfinal ↦ ?_) h, nofun⟩
    rw [hkind d hd, hof] at hfinal
    cases hfinal
  case finalAcceptance =>
    rw [applyApprovedDecision, hof] at h
    obtain ⟨_, t₁, hcheck, h₁⟩ := Tx.bind_ok.mp h
    obtain ⟨_, t₂, hgates, hrest⟩ := Tx.bind_ok.mp h₁
    have hfirst : AcceptancesKept s t₁ := Respects.rel hcheck
    have hsecond : AcceptancesKept t₁ t₂ := Respects.rel hgates
    have hafter : AcceptancesKept t₂ s' := Respects.rel hrest
    exact ⟨Preord.trans hfirst (Preord.trans hsecond hafter), fun _ hk ↦
      resolveGates_settles hgates (hafter.gates _ hk)⟩
  all_goals
    rw [applyApprovedDecision, hof] at h
    exact ⟨Respects.rel h, nofun⟩

theorem of_resolveDecision {r : Resolution}
    (h : resolveDecision env auth r s = .ok (result, s')) : AcceptancesKept s s' := by
  have hp : Persists s s' := Respects.rel h
  rcases resolveDecision_ok h with rfl | ⟨decisionId, decision, task, hresolves, hsettle⟩
  · exact Preord.refl _
  obtain ⟨u, hverdict, hevents⟩ := settleDecision_ok hsettle
  have hafter : AcceptancesKept u s' := Indifferent.writes hevents
  have hnot (hu : decision.decisionKind = .finalAcceptance → ¬StaleGate u decisionId) :
      ¬StaleGate s' decisionId := by
    by_cases hkind : decision.decisionKind = .finalAcceptance
    · exact fun hk ↦ hu hkind (hafter.gates _ hk)
    · exact not_stale hp hresolves.found hkind
  rcases hverdict with ⟨-, happly⟩ | ⟨-, hreject⟩
  · have htaken (d : DecisionRow)
        (hd : (s.take env auth r.verdict decisionId).decisions.find? decisionId = some d) :
        d.decisionKind = decision.decisionKind := by
      change (s.decisions.modify decisionId _).find? decisionId = _ at hd
      rw [Table.find?_modify_self, hresolves.found] at hd
      obtain rfl := Option.some.inj hd
      rfl
    obtain ⟨hkept, hsettled⟩ := applyApprovedDecision_kept htaken happly
    exact of_take (Preord.trans hkept hafter) (hnot hsettled)
  · obtain ⟨_, v, hgates, hstate⟩ := Tx.bind_ok.mp hreject
    have hfirst : AcceptancesKept (s.take env auth r.verdict decisionId) v := Respects.rel hgates
    have hsecond : AcceptancesKept v u := Respects.rel hstate
    exact of_take (Preord.trans hfirst (Preord.trans hsecond hafter))
      (hnot fun _ hk ↦ resolveGates_settles hgates (hsecond.gates _ hk))

theorem of_handler {operation : Operation} (hprepare : operation ≠ .prepareAcceptance)
    (h : handler env auth p operation s = .ok (result, s')) : AcceptancesKept s s' := by
  cases hr : resolution p operation with
  | some r =>
    rw [handler_resolution hr] at h
    exact of_resolveDecision h
  | none => exact (handler_respects hr hprepare).rel h

end AcceptancesKept

/-! ## Plans -/

/-- No acceptance of a task waits. -/
def NoneAsked (t : String) (s : DB) : Prop :=
  ∀ k d, s.decisions.find? k = some d → d.isAsked → d.taskId ≠ t

theorem NoneAsked.of_kept (h : NoneAsked t s) (hkept : AcceptancesKept s s') : NoneAsked t s' := by
  intro k d hd hasked howner
  obtain ⟨d₀, hd₀, hasked₀, hfixed⟩ := hkept.asked k d hd hasked
  have hsame : d.taskId = d₀.taskId := congrArg DecisionTerms.taskId hfixed
  exact h k d₀ hd₀ hasked₀ (hsame ▸ howner)

/-- Afterwards no acceptance of the task waits. -/
theorem supersedePendingAcceptance_none (h : supersedePendingAcceptance env t s = .ok ((), s')) :
    NoneAsked t s' := by
  intro k d hd hasked howner
  have hkept : AcceptancesKept s s' := Respects.rel h
  obtain ⟨d₀, hd₀, hasked₀, hfixed⟩ := hkept.asked k d hd hasked
  have hsame : d.taskId = d₀.taskId := congrArg DecisionTerms.taskId hfixed
  rw [supersedePendingAcceptance, Tx.get_bind_ok] at h
  have hmem : (k, d₀) ∈ s.decisions.select fun _ d ↦
      d.taskId == t && d.decisionKind == .finalAcceptance && d.status == .pending := by
    refine Table.mem_select.mpr ⟨hd₀, ?_⟩
    simp [hasked₀.1, hasked₀.2, ← hsame, howner]
  -- the row is superseded in its own round, and nothing makes it wait again
  refine Tx.each_mem (I := fun _ ↦ True) (P := fun u ↦ ∀ d, u.decisions.find? k = some d →
    ¬d.isAsked) hmem (fun _ _ _ _ _ _ ↦ trivial) (fun u u' _ hround d' hd' hasked' ↦ ?_)
    (fun _ _ u u' _ hnone hround d' hd' hasked' ↦ ?_) trivial h d hd hasked
  · obtain ⟨_, v, hupdate, hgates⟩ := Tx.bind_ok.mp hround
    obtain rfl := Ref.update_ok.mp hupdate
    have hlast : AcceptancesKept _ u' := Respects.rel hgates
    obtain ⟨d₁, hd₁, hasked₁, -⟩ := hlast.asked k d' hd' hasked'
    change (u.decisions.modify k _).find? k = _ at hd₁
    rw [Table.find?_modify_self] at hd₁
    obtain ⟨_, -, rfl⟩ := Option.map_eq_some_iff.mp hd₁
    cases hasked₁.2
  · have hround' : AcceptancesKept u u' := Respects.rel hround
    obtain ⟨d₁, hd₁, hasked₁, -⟩ := hround'.asked k d' hd' hasked'
    exact hnone d₁ hd₁ hasked₁

/-- When a plan of a task becomes ACTIVE, no acceptance of the task waits. -/
theorem PlanStages.noneAsked {r : PlanRequest} {version v : Nat} {contract : ContractRow}
    {u₁ u₂ u₃ u₄ : DB}
    (h : PlanStages env auth r s s' task version contract v u₁ u₂ u₃ u₄) :
    NoneAsked r.taskId s' := by
  have halign : AcceptancesKept u₂ u₃ := Respects.rel h.align
  have hadvance : AcceptancesKept u₃ u₄ := Respects.rel h.advance
  have hevents : AcceptancesKept u₄ s' := Indifferent.writes h.events
  exact (supersedePendingAcceptance_none h.supersede).of_kept
    (Preord.trans halign (Preord.trans hadvance hevents))

theorem InstallsPlan.noneAsked {operation : Operation} {r : PlanRequest} {version : Nat}
    {contract : ContractRow}
    (h : InstallsPlan env auth p operation s s' r task version contract) :
    NoneAsked r.taskId s' := by
  obtain ⟨_, _, _, _, _, _, _, hstages, hrecords⟩ := h.stages
  exact hstages.noneAsked.of_kept (.of_writes (hrecords.mono (by decide)))

/-! ## Preparations -/

/-- The acceptances of a task that wait gave way to one about a snapshot. -/
structure AsksAbout (snapshot : ResultSnapshotRow) (snapshotId : String) (s s' : DB) : Prop where
  stored : s'.resultSnapshots.find? snapshotId = some snapshot
  asked : ∀ k d, s'.decisions.find? k = some d → d.isAsked →
    (∃ d₀, s.decisions.find? k = some d₀ ∧ d₀.isAsked ∧ d₀.sameTerms d ∧
      d.taskId ≠ snapshot.taskId) ∨
    d.taskId = snapshot.taskId ∧ d.resultSnapshotRef = some snapshotId
  gates : ∀ k, StaleGate s' k → StaleGate s k

theorem AcceptanceStages.asksAbout {snapshot : ResultSnapshotRow} {snapshotId : String}
    {u₁ u₂ u₃ : DB} (h : AcceptanceStages env snapshot snapshotId s s' u₁ u₂ u₃) :
    AsksAbout snapshot snapshotId s s' := by
  have hsuperseded : AcceptancesKept s u₁ := Respects.rel h.supersede
  have hnone : NoneAsked snapshot.taskId u₁ := supersedePendingAcceptance_none h.supersede
  obtain ⟨hstored, hsnapshot⟩ : AcceptancesKept u₁ u₂ ∧
      u₂.resultSnapshots.find? snapshotId = some snapshot := by
    refine ⟨Respects.rel h.store, ?_⟩
    obtain ⟨_, v, hid, hadd⟩ := Tx.bind_ok.mp h.store
    obtain ⟨hnew, rfl⟩ := Ref.insert_ok.mp hadd
    exact (Table.find?_insert hnew _ _).trans (if_pos rfl)
  obtain ⟨decisionId, hask⟩ := h.ask
  obtain ⟨_, v, hid, hquestion⟩ := Tx.bind_ok.mp hask
  have hdrawn : AcceptancesKept u₂ v := Respects.rel hid
  have hgates := AcceptancesKept.ask_gates rfl hquestion
  have hrest : AcceptancesKept u₃ s' ∧ u₃.resultSnapshots = s'.resultSnapshots := by
    have hwrites : Writes [.tasks] u₃ s' := by
      rcases h.rest with ⟨_, hstate⟩ | hupdate
      · exact Respects.rel hstate
      · exact Respects.rel hupdate
    exact ⟨.of_writes (hwrites.mono (by decide)), (hwrites .resultSnapshots).2 (by decide)⟩
  have hkept : u₂.resultSnapshots = u₃.resultSnapshots := by
    have hwrites : Writes [.decisions, .gates] u₂ u₃ := Respects.rel hask
    exact (hwrites .resultSnapshots).2 (by decide)
  refine ⟨?_, fun k d hd hasked ↦ ?_, fun k hk ↦ ?_⟩
  · rw [← hrest.2, ← hkept]
    exact hsnapshot
  · obtain ⟨d₁, hd₁, hasked₁, hfixed⟩ := hrest.1.asked k d hd hasked
    obtain ⟨_, v', hadd, hopen⟩ := Tx.bind_ok.mp hquestion
    have hopened : AskedBefore v' u₃ := Respects.rel hopen
    obtain ⟨d₂, hd₂, hasked₂, hfixed'⟩ := hopened k d₁ hd₁ hasked₁
    obtain ⟨hnew, rfl⟩ := Ref.insert_ok.mp hadd
    change (v.decisions.insert decisionId _).find? k = _ at hd₂
    rw [Table.find?_insert hnew] at hd₂
    split at hd₂
    · obtain rfl := Option.some.inj hd₂
      have hsame := hfixed'.trans hfixed
      exact .inr ⟨congrArg DecisionTerms.taskId hsame,
        congrArg DecisionTerms.resultSnapshotRef hsame⟩
    · have hbefore : AcceptancesKept u₁ v := Preord.trans hstored hdrawn
      obtain ⟨d₃, hd₃, hasked₃, hfixed₃⟩ := hbefore.asked k d₂ hd₂ hasked₂
      obtain ⟨d₀, hd₀, hasked₀, hfixed₀⟩ := hsuperseded.asked k d₃ hd₃ hasked₃
      have hsame : SameFixed d₃ d := hfixed₃.trans (hfixed'.trans hfixed)
      have howner : d.taskId = d₃.taskId := congrArg DecisionTerms.taskId hsame
      exact .inl ⟨d₀, hd₀, hasked₀, hfixed₀.trans hsame, howner ▸ hnone k d₃ hd₃ hasked₃⟩
  · have hbefore : AcceptancesKept s v := Preord.trans hsuperseded (Preord.trans hstored hdrawn)
    exact hbefore.gates k (hgates k (hrest.1.gates k hk))

theorem AsksAbout.around {snapshot : ResultSnapshotRow} {snapshotId : String} {n : Nat}
    (h : AsksAbout snapshot snapshotId { s with drawn := n } s')
    (hw : Writes requestRecords s' s'') : AsksAbout snapshot snapshotId s s'' := by
  have hkept : AcceptancesKept s' s'' := .of_writes (hw.mono (by decide))
  have hsnapshots : s'.resultSnapshots = s''.resultSnapshots :=
    (hw .resultSnapshots).2 (by decide)
  refine ⟨hsnapshots ▸ h.stored, fun k d hd hasked ↦ ?_, fun k hk ↦ ?_⟩
  · obtain ⟨d₁, hd₁, hasked₁, hfixed⟩ := hkept.asked k d hd hasked
    have howner : d.taskId = d₁.taskId := congrArg DecisionTerms.taskId hfixed
    have href : d.resultSnapshotRef = d₁.resultSnapshotRef :=
      congrArg DecisionTerms.resultSnapshotRef hfixed
    rw [howner, href]
    rcases h.asked k d₁ hd₁ hasked₁ with ⟨d₀, hd₀, hasked₀, hfixed₀, hother⟩ | hnew
    · exact .inl ⟨d₀, hd₀, hasked₀, hfixed₀.trans hfixed, hother⟩
    · exact .inr hnew
  · have hgate := h.gates k (hkept.gates k hk)
    exact ⟨hgate.settled, hgate.gate⟩

/-- A step keeps the acceptances that wait, or it asks for one. -/
theorem step_acceptances (hstep : system.step w l = some w') :
    AcceptancesKept w.db w'.db ∨ ∃ env request taskId task version contract marker plan
      deliverables evidence snapshotId, l = .command env request ∧
        request.operation = .prepareAcceptance ∧
        Prepared env request.payload w.db taskId task version contract marker plan deliverables
          evidence ∧
        AsksAbout (preparedSnapshot env request.payload taskId task version deliverables evidence)
          snapshotId w.db w'.db := by
  cases l
  case command env request =>
    rcases step_command hstep with hrecords | ⟨u, u', result, hran, hrecords⟩
    · exact .inl (.of_writes (hrecords.mono (by decide)))
    obtain ⟨n, rfl⟩ := hran.start
    by_cases hprepare : request.operation = .prepareAcceptance
    · have hrun := hran.run
      rw [hprepare] at hrun
      change prepareAcceptance env request.auth request.payload _ = _ at hrun
      obtain ⟨taskId, task, version, contract, marker, plan, deliverables, evidence, snapshotId,
        _, _, _, hprepared, hstages⟩ := prepareAcceptance_ok hrun
      exact .inr ⟨env, request, taskId, task, version, contract, marker, plan, deliverables,
        evidence, snapshotId, rfl, hprepare, hprepared.of_drawn, hstages.asksAbout.around hrecords⟩
    · have hdrawn : AcceptancesKept w.db { w.db with drawn := n } := Frame.still (writes_drawn _ _)
      exact .inl (Preord.trans hdrawn (Preord.trans (AcceptancesKept.of_handler hprepare hran.run)
        (.of_writes (hrecords.mono (by decide)))))
  all_goals exact .inl (step_background Preord.refl rfl hstep)

/-! ## The invariant -/

/-- A snapshot that a decision refers to is one of the ACTIVE contract and the ACTIVE plan. -/
def RefersToActive (s : DB) (d : DecisionRow) : Prop :=
  ∃ snapshotId snapshot, d.resultSnapshotRef = some snapshotId ∧
    s.resultSnapshots.find? snapshotId = some snapshot ∧
    s.activeContractMarkers.find? d.taskId = some ⟨snapshot.contractVersion⟩ ∧
    (s.activePlanMarkers.find? d.taskId).map ActivePlanMarker.planVersion = snapshot.planVersion

/-- The acceptances that wait are about what is ACTIVE, and settled ones have no gate left. -/
structure AcceptanceInv (s : DB) : Prop where
  current : ∀ k d, s.decisions.find? k = some d → d.isAsked → RefersToActive s d
  gates : ∀ k, ¬StaleGate s k

/-- No contract of a task becomes ACTIVE while an acceptance of the task waits. -/
def AcceptancesDrained (w : World) (l : Label) : Prop :=
  ∀ t v, ActivatesContract w.db t v l → NoneAsked t w.db

theorem RefersToActive.of_markers {d₀ d : DecisionRow} (h : RefersToActive s d₀)
    (hp : Persists s s') (hfixed : d₀.sameTerms d)
    (hcontract : s'.activeContractMarkers.find? d.taskId =
      s.activeContractMarkers.find? d.taskId)
    (hplan : s'.activePlanMarkers.find? d.taskId = s.activePlanMarkers.find? d.taskId) :
    RefersToActive s' d := by
  obtain ⟨snapshotId, snapshot, href, hsnapshot, hversion, hplanVersion⟩ := h
  have howner : d.taskId = d₀.taskId := congrArg DecisionTerms.taskId hfixed
  have hsame : d.resultSnapshotRef = d₀.resultSnapshotRef :=
    congrArg DecisionTerms.resultSnapshotRef hfixed
  obtain ⟨snapshot', hsnapshot', hkept⟩ := (hp .resultSnapshots).1 _ _ hsnapshot
  obtain rfl : snapshot' = snapshot := hkept
  refine ⟨snapshotId, snapshot', hsame.trans href, hsnapshot', ?_, ?_⟩
  · rw [hcontract, howner]
    exact hversion
  · rw [hplan, howner]
    exact hplanVersion

/-- The ACTIVE contract of a task changes only when one is made ACTIVE for it. -/
theorem step_contractMarker (hinv : ContractInv w.db) (hstep : system.step w l = some w')
    (t : String) :
    w'.db.activeContractMarkers.find? t = w.db.activeContractMarkers.find? t ∨
      ∃ v, ActivatesContract w.db t v l := by
  cases l
  case command env request =>
    rcases command_versions hinv hstep with ⟨hmarkers, -⟩ | ⟨t', v, hactivates, hactivation⟩
    · exact .inl (congrArg (·.find? t) hmarkers)
    · by_cases ht : t = t'
      · exact .inr ⟨v, ht ▸ hactivates⟩
      · exact .inl ((hactivation.markers t).trans (if_neg ht))
  all_goals
    have hkept : ContractsKept w.db w'.db := step_background Preord.refl rfl hstep
    exact .inl (congrArg (·.find? t) hkept.markers)

/-- The ACTIVE plan of a task changes only when one is installed for it, and then no acceptance of
the task waits. -/
theorem step_planMarker (hstep : system.step w l = some w') (t : String) :
    w'.db.activePlanMarkers.find? t = w.db.activePlanMarkers.find? t ∨ NoneAsked t w'.db := by
  rcases step_plans hstep with hnone | ⟨_, _, r, _, _, _, -, hinstall⟩
  · exact .inl (congrArg (·.find? t) hnone.markers)
  · by_cases ht : t = r.taskId
    · exact .inr (ht ▸ hinstall.noneAsked)
    · refine .inl ((congrArg (·.find? t) hinstall.rest.markers).trans ?_)
      rw [DB.setPlan_markers, if_neg ht]

/-- An acceptance that has waited before the step still is about what is ACTIVE. -/
theorem RefersToActive.of_step {d₀ d : DecisionRow} {k : String} (hinv : ContractInv w.db)
    (hok : AcceptancesDrained w l) (hstep : system.step w l = some w')
    (hd₀ : w.db.decisions.find? k = some d₀) (hasked₀ : d₀.isAsked)
    (hd : w'.db.decisions.find? k = some d) (hasked : d.isAsked) (hfixed : d₀.sameTerms d)
    (h : RefersToActive w.db d₀) : RefersToActive w'.db d := by
  have howner : d.taskId = d₀.taskId := congrArg DecisionTerms.taskId hfixed
  refine h.of_markers (step_rel hstep) hfixed ?_ ?_
  · rcases step_contractMarker hinv hstep d.taskId with hsame | ⟨v, hactivates⟩
    · exact hsame
    · exact absurd howner.symm (hok _ v hactivates k d₀ hd₀ hasked₀)
  · rcases step_planMarker hstep d.taskId with hsame | hnone
    · exact hsame
    · exact absurd rfl (hnone k d hd hasked)

theorem acceptanceInv_invariant : system.Invariant AcceptancesDrained fun w ↦
    (ContractInv w.db ∧ PlanInv w.db) ∧ AcceptanceInv w.db := by
  have hboth : system.Invariant AcceptancesDrained fun w ↦ ContractInv w.db ∧ PlanInv w.db :=
    (contractInv_invariant AcceptancesDrained).strengthen (planInv_invariant AcceptancesDrained).init
      fun _ _ _ _ _ h hok hstep ↦ (planInv_invariant AcceptancesDrained).step _ _ _ h hok hstep
  refine hboth.strengthen ⟨(fun _ _ h ↦ nomatch h), fun k hk ↦ ?_⟩
    fun w l w' hinv hinv' hall hok hstep ↦ ?_
  · obtain ⟨_, hd, -⟩ := hk.settled
    cases hd
  rcases step_acceptances hstep with hkept | ⟨env, request, taskId, task, version, contract, marker,
    plan, deliverables, evidence, snapshotId, hl, hprepare, hprepared, hasks⟩
  · refine ⟨fun k d hd hasked ↦ ?_, fun k hk ↦ hall.gates k (hkept.gates k hk)⟩
    obtain ⟨d₀, hd₀, hasked₀, hfixed⟩ := hkept.asked k d hd hasked
    exact (hall.current k d₀ hd₀ hasked₀).of_step hinv.1 hok hstep hd₀ hasked₀ hd hasked hfixed
  · refine ⟨fun k d hd hasked ↦ ?_, fun k hk ↦ hall.gates k (hasks.gates k hk)⟩
    rcases hasks.asked k d hd hasked with ⟨d₀, hd₀, hasked₀, hfixed, -⟩ | ⟨howner, href⟩
    · exact (hall.current k d₀ hd₀ hasked₀).of_step hinv.1 hok hstep hd₀ hasked₀ hd hasked hfixed
    · have howner' : d.taskId = taskId := howner
      have hcontract : w'.db.activeContractMarkers.find? taskId = some ⟨version⟩ := by
        rcases step_contractMarker hinv.1 hstep taskId with hsame | ⟨v, hactivates⟩
        · exact hsame.trans hprepared.contractMarker
        · subst hl
          cases hactivates with
          | approved asked =>
            rcases resolution_operation asked with h | h | h | h <;> cases hprepare.symm.trans h
          | merged asked => cases hprepare.symm.trans asked
      have hplan : (w'.db.activePlanMarkers.find? taskId).map ActivePlanMarker.planVersion =
          task.planVersion := by
        rcases step_planMarker hstep taskId with hsame | hnone
        · rw [hsame, hinv.2.version hprepared.found]
        · exact absurd howner' (hnone k d hd hasked)
      exact ⟨snapshotId, _, href, hasks.stored, howner' ▸ hcontract, howner' ▸ hplan⟩

/-! ## Acceptances and what they are about -/

/-- The runtime of the run of the samples. -/
def sampleRuntime : AuthContext where
  principalId := "owner"
  actorId := "local:run_iiiiiiiiii"
  actorType := .internal
  boundTaskId := some "task_i"
  boundRunId := some "run_iiiiiiiiii"
  boundFencingEpoch := some 1
  boundGrantEpoch := some 0

/-- The only unit of a task is done, and a human is asked to accept what it has delivered. -/
def samplePrepared : List Label :=
  sampleStarted ++
    [ .ask sampleRuntime .setWriterAlive
        { taskId := some "task_i", runId := some "run_iiiiiiiiii", fencingEpoch := some 1
          workspaceId := some "ws_unit", alive := some false },
      .ask sampleRuntime .submitResult
        { taskId := some "task_i", runId := some "run_iiiiiiiiii", fencingEpoch := some 1
          result := some
            { artifactRefs := [some "hash"]
              acceptanceEvidence :=
                [{ criterionId := some "c1", artifactHash := some "hash"
                   verdict := some .pass }] } },
      .ask (.ofHuman "owner") .prepareAcceptance { taskId := some "task_i" } ]

/-- In every run of the system in which no contract of a task becomes ACTIVE while an acceptance of
the task waits, every acceptance that waits is about the current contract and the current plan, and
no gate of an acceptance that does not wait is unresolved. -/
theorem pending_acceptance_current {w : World} (h : system.ReachableBy AcceptancesDrained w) :
    (∀ k d, w.db.decisions.find? k = some d → d.decisionKind = .finalAcceptance →
      d.status = .pending → ∃ snapshotId snapshot task, d.resultSnapshotRef = some snapshotId ∧
        w.db.resultSnapshots.find? snapshotId = some snapshot ∧
        w.db.tasks.find? d.taskId = some task ∧
        task.contractVersion = some snapshot.contractVersion ∧
        task.planVersion = snapshot.planVersion) ∧
    ∀ g gate d, w.db.gates.find? g = some gate → gate.isUnresolved = true →
      w.db.decisions.find? gate.decisionId = some d → d.decisionKind = .finalAcceptance →
        d.status = .pending := by
  obtain ⟨⟨hcontracts, hplans⟩, hinv⟩ := acceptanceInv_invariant.of_reachable h
  refine ⟨fun k d hd hkind hpending ↦ ?_, fun g gate d hgate hunresolved hd hkind ↦ ?_⟩
  · obtain ⟨snapshotId, snapshot, href, hsnapshot, hcontract, hplan⟩ :=
      hinv.current k d hd ⟨hkind, hpending⟩
    obtain ⟨contract, hrow, -⟩ := hcontracts.active hcontract
    obtain ⟨task, htask⟩ := hcontracts.known hrow
    refine ⟨snapshotId, snapshot, task, href, hsnapshot, htask, ?_, ?_⟩
    · rw [hcontracts.version htask, hcontract]
      rfl
    · rw [hplans.version htask, hplan]
  · by_contra hsettled
    exact hinv.gates gate.decisionId ⟨⟨d, hd, hkind, hsettled⟩, g, gate, hgate, rfl, hunresolved⟩

/-- The decision of the sample with the version its snapshot is of, and the current version. -/
def sampleAcceptance (w : World) :
    Option (DecisionKind × DecisionStatus × Option Nat) × Option Nat :=
  ((w.db.decisions.find? "dec_iiiiiiiiiiiiiiiiiii").map fun d ↦ (d.decisionKind, d.status,
      (d.resultSnapshotRef.bind w.db.resultSnapshots.find?).map fun snapshot ↦
        snapshot.contractVersion),
    (w.db.tasks.find? "task_i").bind TaskRow.contractVersion)

/-- A second contract is approved while the acceptance of what was done under the first one
waits. -/
theorem samplePrepared_outdated :
    ∃ w k d, system.Reachable w ∧ w.db.decisions.find? k = some d ∧
      d.decisionKind = .finalAcceptance ∧ d.status = .pending ∧
      ∃ snapshot, d.resultSnapshotRef.bind w.db.resultSnapshots.find? = some snapshot ∧
        snapshot.contractVersion = 1 ∧
        (w.db.tasks.find? "task_i").bind TaskRow.contractVersion = some 2 := by
  have hview : (system.exec system.init (samplePrepared ++
      [ .ask (.ofHuman "owner") .submitContract { taskId := some "task_i" },
        .ask (.ofHuman "owner") .approveContract
          { decisionId := some "dec_iiiiiiiiiiiiiiiiiiiiiii" } ])).map sampleAcceptance =
      some (some (.finalAcceptance, .pending, some 1), some 2) := by
    decide +kernel
  obtain ⟨w, hexec, hacceptance⟩ := Option.map_eq_some_iff.mp hview
  simp only [sampleAcceptance, Prod.mk.injEq] at hacceptance
  obtain ⟨hdecision, hversion⟩ := hacceptance
  obtain ⟨d, hd, hsame⟩ := Option.map_eq_some_iff.mp hdecision
  simp only [Prod.mk.injEq] at hsame
  obtain ⟨hkind, hstatus, hsnapshot⟩ := hsame
  obtain ⟨snapshot, href, hof⟩ := Option.map_eq_some_iff.mp hsnapshot
  exact ⟨w, _, d, .of_exec hexec, hd, hkind, hstatus, snapshot, href, hof, hversion⟩

/-- Without final acceptances a contract may become ACTIVE. -/
theorem AcceptancesDrained.of_none
    (h : w.db.decisions.rows.all (fun r ↦ r.2.decisionKind != .finalAcceptance) = true) :
    AcceptancesDrained w l := by
  rintro t v - k d hd ⟨hkind, -⟩
  have hrow := List.all_eq_true.mp h (k, d) (Table.find?_eq_some_iff.mp hd)
  simp [hkind] at hrow

theorem AcceptancesDrained.of_label (h : l.mayActivate = false) : AcceptancesDrained w l := by
  rintro t v hactivates
  cases hactivates with
  | approved asked | merged asked =>
    rw [Label.mayActivate, asked] at h
    simp at h

/-- The acceptance of the sample is about the first contract, which is the current one. -/
theorem pending_acceptance_current_samplePrepared :
    ∃ w d, system.ReachableBy AcceptancesDrained w ∧
      w.db.decisions.find? "dec_iiiiiiiiiiiiiiiiiii" = some d ∧ d.status = .pending ∧
      ∃ snapshotId snapshot task, d.resultSnapshotRef = some snapshotId ∧
        w.db.resultSnapshots.find? snapshotId = some snapshot ∧
        w.db.tasks.find? d.taskId = some task ∧
        task.contractVersion = some snapshot.contractVersion ∧
        task.planVersion = snapshot.planVersion := by
  have hview : (system.exec system.init (samplePrepared.take 2)).bind (fun w ↦
      (system.exec w ((samplePrepared.drop 2).take 1)).bind fun w₁ ↦
        (system.exec w₁ (samplePrepared.drop 3)).map fun w₂ ↦
          (w.db.decisions.rows.all (fun r ↦ r.2.decisionKind != .finalAcceptance),
            (sampleAcceptance w₂).1)) =
      some (true, some (.finalAcceptance, .pending, some 1)) := by
    decide +kernel
  obtain ⟨w, hsubmit, hrest⟩ := Option.bind_eq_some_iff.mp hview
  obtain ⟨w₁, happrove, hdispatch⟩ := Option.bind_eq_some_iff.mp hrest
  obtain ⟨w₂, hrun, hacceptance⟩ := Option.map_eq_some_iff.mp hdispatch
  simp only [sampleAcceptance, Prod.mk.injEq] at hacceptance
  obtain ⟨hnone, hdecision⟩ := hacceptance
  obtain ⟨d, hd, hsame⟩ := Option.map_eq_some_iff.mp hdecision
  simp only [Prod.mk.injEq] at hsame
  have hquiet : ∀ l ∈ samplePrepared.take 2 ++ samplePrepared.drop 3, l.mayActivate = false := by
    decide
  have hsubmitted : system.Run AcceptancesDrained system.init w :=
    .of_exec_ok (fun l hl _ ↦ .of_label (hquiet l (List.mem_append_left _ hl))) hsubmit
  have happroved : system.Run AcceptancesDrained w w₁ := by
    obtain ⟨w₁', hstep, hdone⟩ := Option.bind_eq_some_iff.mp happrove
    obtain rfl := Option.some.inj hdone
    exact Machine.Run.refl.step (.of_none hnone) hstep
  have hdone : system.Run AcceptancesDrained w₁ w₂ :=
    .of_exec_ok (fun l hl _ ↦ .of_label (hquiet l (List.mem_append_right _ hl))) hrun
  have hreach := (hsubmitted.trans happroved).trans hdone
  exact ⟨w₂, d, hreach, hd, hsame.2.1,
    (pending_acceptance_current hreach).1 _ d hd hsame.1 hsame.2.1⟩

end HibikiCore
