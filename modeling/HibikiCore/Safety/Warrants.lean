import HibikiCore.Safety.Approvals
import HibikiCore.Safety.EffectRows

/-!
# What authorizes an effect

An effect is committed when it is authorized or under way. It becomes so in two ways only: the
contract it is proposed under lists its key, or a decision about it is approved. Both stay: the
columns of contracts do not change, and an approved decision stays approved. So whatever is
committed has a warrant, in every state of the system.
-/

namespace HibikiCore

set_option synthInstance.maxSize 100000000
set_option synthInstance.maxHeartbeats 400000

instance : Faithful Refs.sideEffects := ⟨id⟩

instance {n : Relation} [h : Touches n (.outbox :: besideEffects)] : Beside Refs.sideEffects n where
  ne := by
    rintro rfl
    exact absurd h.mem (by decide)

variable {env : Env} {auth : AuthContext} {p : Payload} {task : TaskRow} {s s' : DB}
  {taskId effectId decisionId outboxId : String} {row : OutboxRow} {effect : SideEffectRow}
  {flushed : DB} {result : CommandResult}

/-! ## Digests -/

/-- The digest of an effect is that of its action. -/
def SideEffectRow.Digested (effect : SideEffectRow) : Prop :=
  effect.actionDigest = .action
    { actionType := effect.actionType, targetRef := effect.targetRef
      parameters := effect.parameters }

/-- What is new among the effects carries the digest of its action. -/
abbrev NewDigests : DB → DB → Prop :=
  Arrivals Refs.sideEffects fun _ f ↦ f.actionDigest = .action
    { actionType := f.actionType, targetRef := f.targetRef, parameters := f.parameters }

namespace NewDigests

instance insertEffect_respects {key : String} {version : Nat} {preauthorized : Bool}
    {action : Action} : Respects NewDigests
      (insertEffect env auth p taskId key version preauthorized action) := by
  have hadd (effectId : String) (state : SideEffectState) : Respects NewDigests
      (add Refs.sideEffects effectId
        (proposedEffect env taskId key version action state p)) :=
    Arrivals.insert rfl
  rw [insertEffect]
  exact .seq inferInstance fun _ ↦ .seq (hadd _ _) fun _ ↦ inferInstance

instance handler_respects {operation : Operation} :
    Respects NewDigests (handler env auth p operation) := by
  cases operation <;> (dsimp only [handler]; infer_instance)

end NewDigests

theorem digested_of_reachable {w : World} (h : system.Reachable w)
    (heffect : w.db.sideEffects.find? effectId = some effect) : effect.Digested := by
  have hnew : NewDigests system.init.db w.db := run_rel h
  rcases hnew effectId effect heffect with ⟨old, hold, -⟩ | hdigest
  · cases hold
  · exact hdigest

/-! ## Decisions about effects -/

/-- What is new among the decisions is not about an effect. -/
abbrev NoEffectDecision : DB → DB → Prop :=
  Arrivals Refs.decisions fun _ f ↦ f.decisionKind ≠ .sideEffectApproval

namespace NoEffectDecision

/-- A decision of another kind may be added. -/
theorem insert {ε : Type} {e : ε} {k : String} {d : DecisionRow} {kind : DecisionKind}
    (hd : d.decisionKind = kind) (hkind : kind ≠ .sideEffectApproval) :
    Respects NoEffectDecision (Refs.decisions.insert e k d) := by
  refine Arrivals.insert fun heffect ↦ hkind ?_
  rw [← hd]
  exact heffect

instance : AcceptanceDecisions NoEffectDecision where
  insert _ _ _ hd := insert hd.kind (by decide)

instance submitContract_respects : Respects NoEffectDecision (submitContract env auth p) := by
  have hadd (k : String) (d : DecisionRow) (hd : d.decisionKind = .contractApproval) :
      Respects NoEffectDecision (add Refs.decisions k d) := insert hd (by decide)
  rw [submitContract]
  refine .seq inferInstance fun _ ↦ .seq inferInstance fun _ ↦ .seq inferInstance fun _ ↦ ?_
  refine .seq inferInstance fun _ ↦ .seq inferInstance fun _ ↦ .seq inferInstance fun _ ↦ ?_
  refine .seq inferInstance fun _ ↦ .seq inferInstance fun _ ↦ .seq inferInstance fun _ ↦ ?_
  refine .seq inferInstance fun _ ↦ .seq inferInstance fun _ ↦ .seq inferInstance fun _ ↦ ?_
  refine .seq inferInstance fun _ ↦ ?_
  exact .seq (hadd _ _ rfl) fun _ ↦ inferInstance

instance openResourceGate_respects : Respects NoEffectDecision (openResourceGate env taskId) := by
  have hadd (k : String) (d : DecisionRow) (hd : d.decisionKind = .resourceLimit) :
      Respects NoEffectDecision (add Refs.decisions k d) := insert hd (by decide)
  rw [openResourceGate]
  refine .seq inferInstance fun _ ↦ .seq inferInstance fun _ ↦ ?_
  exact .seq (hadd _ _ rfl) fun _ ↦ inferInstance

instance openBlockingGate_respects :
    Respects NoEffectDecision (openBlockingGate env auth p) := by
  have hadd (k : String) (d : DecisionRow) (hd : d.decisionKind = .clarification) :
      Respects NoEffectDecision (add Refs.decisions k d) := insert hd (by decide)
  rw [openBlockingGate]
  refine .seq inferInstance fun _ ↦ .seq inferInstance fun _ ↦ .seq inferInstance fun _ ↦ ?_
  refine .seq inferInstance fun _ ↦ ?_
  exact .seq (hadd _ _ rfl) fun _ ↦ inferInstance

instance proposeContractDelta_respects :
    Respects NoEffectDecision (proposeContractDelta env taskId p) := by
  have hadd (k : String) (d : DecisionRow) (hd : d.decisionKind = .contractDelta) :
      Respects NoEffectDecision (add Refs.decisions k d) := insert hd (by decide)
  rw [proposeContractDelta]
  refine .seq inferInstance fun _ ↦ .seq inferInstance fun _ ↦ .seq inferInstance fun _ ↦ ?_
  exact .seq (hadd _ _ rfl) fun _ ↦ inferInstance

instance background : Background NoEffectDecision := inferInstance

/-- Only the proposal of an effect asks for its approval. -/
theorem handler_respects {operation : Operation} (hpropose : operation ≠ .proposeSideEffect) :
    Respects NoEffectDecision (handler env auth p operation) := by
  cases operation
  case proposeSideEffect => exact absurd rfl hpropose
  all_goals (dsimp only [handler]; infer_instance)

end NoEffectDecision

/-! ## Effects that are committed -/

/-- An effect that is authorized or under way. -/
def SideEffectRow.IsCommitted (effect : SideEffectRow) : Prop :=
  effect.state = .authorized ∨ effect.state = .dispatching

/-- No effect comes to be committed. -/
abbrev CommitsNone : DB → DB → Prop :=
  Enters Refs.sideEffects SideEffectRow.IsCommitted fun _ ↦ False

/-- An update whose result is not committed. -/
class Uncommits (f : SideEffectRow → SideEffectRow) : Prop where
  out : ∀ a, ¬(f a).IsCommitted

namespace CommitsNone

instance {f : SideEffectRow → SideEffectRow} {hf : ∀ a, SameFixed a (f a)} [h : Uncommits f] :
    Respects CommitsNone (Refs.sideEffects.update effectId f hf : Core Unit) :=
  Enters.update fun a hcommitted ↦ absurd hcommitted (h.out a)

instance : Uncommits fun e ↦ { e with state := .cancelled } :=
  ⟨fun _ ↦ by rintro (h | h) <;> cases h⟩

instance : Uncommits fun e ↦ { e with state := .unknown } :=
  ⟨fun _ ↦ by rintro (h | h) <;> cases h⟩

instance : Uncommits fun e ↦ { e with state := .failedConfirmed } :=
  ⟨fun _ ↦ by rintro (h | h) <;> cases h⟩

instance {error : Option String} :
    Uncommits fun e ↦ { e with state := .failedConfirmed, lastError := error } :=
  ⟨fun _ ↦ by rintro (h | h) <;> cases h⟩

instance {error : SideEffectRow → Option String} :
    Uncommits fun e ↦ { e with state := .unknown, lastError := error e } :=
  ⟨fun _ ↦ by rintro (h | h) <;> cases h⟩

instance {receipt : Receipt} :
    Uncommits fun e ↦ { e with
      state := .succeeded
      receipt := some receipt
      providerOperationId := receipt.providerOperationId } :=
  ⟨fun _ ↦ by rintro (h | h) <;> cases h⟩

/-- The state of an effect that is committed may be set to anything. -/
theorem setEffectState_of_committed {state : SideEffectState}
    (hread : s.sideEffects.find? effectId = some effect) (hcommitted : effect.IsCommitted)
    (h : setEffectState effectId state s = .ok ((), s')) : CommitsNone s s' := by
  refine Enters.of_update (fun a ha _ ↦ .inl ?_) h
  obtain rfl := Option.some.inj (hread.symm.trans ha)
  exact hcommitted

instance setEffectState_unknown : Respects CommitsNone (setEffectState effectId .unknown) := by
  rw [setEffectState]
  infer_instance

instance setEffectState_failed :
    Respects CommitsNone (setEffectState effectId .failedConfirmed) := by
  rw [setEffectState]
  infer_instance

instance setEffectState_cancelled : Respects CommitsNone (setEffectState effectId .cancelled) := by
  rw [setEffectState]
  infer_instance

instance cancelEffect_respects :
    Respects CommitsNone (cancelEffect flushed taskId effectId) := by
  rw [cancelEffect]
  infer_instance

instance reconcileWithoutQuery_respects :
    Respects CommitsNone (reconcileWithoutQuery env effectId effect) := by
  rw [reconcileWithoutQuery]
  infer_instance

instance effectUnknown_respects : Respects CommitsNone (effectUnknown effectId) := by
  rw [effectUnknown]
  infer_instance

instance reconcileWithQuery_respects {answer : Option Receipt} :
    Respects CommitsNone (reconcileWithQuery effectId answer) := by
  unfold reconcileWithQuery
  split
  · infer_instance
  · split <;> infer_instance

instance recordReceipt_respects {receipt : Receipt} :
    Respects CommitsNone (recordReceipt env effectId taskId receipt) := by
  unfold recordReceipt
  split <;> infer_instance

instance failDispatch_respects {error : String} :
    Respects CommitsNone (failDispatch env outboxId effectId error) := by
  rw [failDispatch]
  infer_instance

instance expireDispatch_respects :
    Respects CommitsNone (expireDispatch env outboxId effectId) := by
  rw [expireDispatch]
  infer_instance

instance revokeClaimedDispatch_respects :
    Respects CommitsNone (revokeClaimedDispatch env outboxId effectId) := by
  have hdoubt : Respects CommitsNone (Refs.sideEffects.updateWhere
      (fun k e ↦ k == effectId && e.state == .dispatching)
      (fun e ↦ { e with state := .unknown }) : Core Unit) :=
    Enters.updateWhere fun _ _ _ hcommitted ↦ by rcases hcommitted with h | h <;> cases h
  rw [revokeClaimedDispatch]
  infer_instance

/-- Only effects under way are set free. -/
instance revokeUnsentDispatch_respects :
    Respects CommitsNone (revokeUnsentDispatch outboxId effectId task) := by
  have hfree : Respects CommitsNone (Refs.sideEffects.updateWhere
      (fun k e ↦ k == effectId && e.state == .dispatching)
      (fun e ↦ { e with state := if task.cancelIntent then .cancelled else .authorized }) :
      Core Unit) := by
    refine Enters.updateWhere fun k a hunsent _ ↦ .inl ?_
    rw [Bool.and_eq_true, beq_iff_eq, beq_iff_eq] at hunsent
    exact .inr hunsent.2
  rw [revokeUnsentDispatch]
  infer_instance

theorem of_releaseUnsentEffect (hread : s.sideEffects.find? effectId = some effect)
    (h : releaseUnsentEffect effectId effect task s = .ok ((), s')) : CommitsNone s s' := by
  rcases Tx.ite_ok.mp h with ⟨hdispatching, hset⟩ | ⟨-, hset⟩
  · exact setEffectState_of_committed hread (.inr hdispatching) hset
  · exact Respects.rel hset

theorem of_killRevokedDispatch (hread : s.sideEffects.find? effectId = some effect)
    (h : killRevokedDispatch outboxId effectId effect task s = .ok ((), s')) :
    CommitsNone s s' := by
  obtain ⟨_, t, hkill, hset⟩ := Tx.bind_ok.mp h
  have hw : Writes [.outbox] s t := Respects.rel hkill
  have hread' : t.sideEffects.find? effectId = some effect :=
    (hw .sideEffects).2 (by decide) ▸ hread
  refine Preord.trans (Respects.rel hkill) ?_
  rcases Tx.when_ok.mp hset with ⟨hdispatching, hset⟩ | ⟨-, -, rfl⟩
  · exact setEffectState_of_committed hread' (.inr hdispatching) hset
  · exact Preord.refl _

theorem of_releaseRefusedDispatch (hread : s.sideEffects.find? effectId = some effect)
    (h : releaseRefusedDispatch outboxId effectId effect task s = .ok ((), s')) :
    CommitsNone s s' := by
  obtain ⟨_, t, hkill, hset⟩ := Tx.bind_ok.mp h
  have hw : Writes [.outbox] s t := Respects.rel hkill
  have hread' : t.sideEffects.find? effectId = some effect :=
    (hw .sideEffects).2 (by decide) ▸ hread
  refine Preord.trans (Respects.rel hkill) ?_
  rcases Tx.when_ok.mp hset with ⟨hdispatching, hset⟩ | ⟨-, -, rfl⟩
  · exact setEffectState_of_committed hread' (.inr hdispatching) hset
  · exact Preord.refl _

/-- A claim that goes wrong sets free what was under way, one that succeeds takes what was
authorized. -/
instance claimDispatch_respects :
    Respects CommitsNone (claimDispatch env outboxId row effectId task) where
  rel {s _ s'} h := by
    rw [claimDispatch, Tx.get_bind_ok] at h
    cases hread : s.sideEffects.find? effectId with
    | none =>
      rw [hread] at h
      exact Respects.rel h
    | some effect =>
      rw [hread] at h
      obtain ⟨refusal, t, heligible, hrest⟩ := Tx.bind_ok.mp h
      obtain rfl : s = t := Respects.rel (R := Eq) heligible
      rcases Tx.ite_ok.mp hrest with ⟨-, hrefused⟩ | ⟨-, hrest⟩
      · obtain ⟨_, t, hkill, hrest⟩ := Tx.bind_ok.mp hrefused
        obtain ⟨_, u, hrelease, hpure⟩ := Tx.bind_ok.mp hrest
        obtain ⟨-, rfl⟩ := Tx.pure_ok.mp hpure
        have hw : Writes [.outbox] s t := Respects.rel hkill
        have hread' : t.sideEffects.find? effectId = some effect :=
          (hw .sideEffects).2 (by decide) ▸ hread
        exact Preord.trans (Respects.rel hkill) (of_releaseUnsentEffect hread' hrelease)
      · rcases Tx.ite_ok.mp hrest with ⟨-, hrevoked⟩ | ⟨-, hclaimed⟩
        · obtain ⟨_, t, hkill, hpure⟩ := Tx.bind_ok.mp hrevoked
          obtain ⟨-, rfl⟩ := Tx.pure_ok.mp hpure
          exact of_killRevokedDispatch hread hkill
        · obtain ⟨_, t, hset, hlease⟩ := Tx.bind_ok.mp hclaimed
          refine Preord.trans ?_ (Respects.rel hlease)
          rcases Tx.when_ok.mp hset with ⟨hauthorized, hset⟩ | ⟨-, -, rfl⟩
          · exact setEffectState_of_committed hread (.inl hauthorized) hset
          · exact Preord.refl _

instance precheck_respects {item : OutboxItem} :
    Respects CommitsNone (precheck env item effectId) where
  rel {s b s'} h := by
    rw [precheck, Tx.get_bind_ok] at h
    cases hrow : s.outbox.find? item.outboxId with
    | none =>
      simp only [hrow] at h
      exact Respects.rel h
    | some row =>
      cases hread : s.sideEffects.find? effectId with
      | none =>
        simp only [hrow, hread] at h
        exact Respects.rel h
      | some effect =>
        simp only [hrow, hread] at h
        cases htask : (s.tasks.find? item.taskId).map (item.taskId, ·)
          <|> (s.tasks.find? effect.taskId).map (effect.taskId, ·) with
        | none =>
          simp only [htask] at h
          exact Respects.rel h
        | some r =>
          simp only [htask] at h
          rcases Tx.ite_ok.mp h with ⟨-, hdead⟩ | ⟨-, hrest⟩
          · exact Respects.rel hdead
          · obtain ⟨refusal, t, heligible, hrest⟩ := Tx.bind_ok.mp hrest
            obtain rfl : s = t := Respects.rel (R := Eq) heligible
            rcases Tx.ite_ok.mp hrest with ⟨-, hrefused⟩ | ⟨-, hpass⟩
            · obtain ⟨_, t, hrelease, hpure⟩ := Tx.bind_ok.mp hrefused
              obtain ⟨-, rfl⟩ := Tx.pure_ok.mp hpure
              exact of_releaseRefusedDispatch hread hrelease
            · exact Respects.rel hpass

/-- Only an authorized effect is dispatched. -/
instance dispatchSideEffect_respects : Respects CommitsNone (dispatchSideEffect env auth p) where
  rel {s _ s'} h := by
    obtain ⟨effectId, effect, task, k, -, hread, hstate, -, -, heffects, -⟩ :=
      dispatchSideEffect_ok h
    intro e b hb hcommitted
    have hb' : (s.sideEffects.modify effectId claimEffect).find? e = some b := heffects ▸ hb
    rw [Table.find?_modify] at hb'
    split at hb'
    · next he => exact .inl ⟨effect, he ▸ hread, .inl hstate⟩
    · exact .inl ⟨b, hb', hcommitted⟩

instance background : Background CommitsNone := inferInstance

/-- Besides proposals and the resolution of decisions nothing commits an effect. -/
theorem handler_respects {operation : Operation} (hpropose : operation ≠ .proposeSideEffect)
    (hresolve : resolution p operation = none) :
    Respects CommitsNone (handler env auth p operation) := by
  cases operation
  case proposeSideEffect => exact absurd rfl hpropose
  case approveContract | resolveDecision | acceptResult | approveSideEffect => cases hresolve
  all_goals (dsimp only [handler]; infer_instance)

/-- Of the approvals only that of an effect commits one. -/
theorem of_applyApprovedDecision {decision : DecisionRow} {actorId : String}
    (h : applyApprovedDecision env taskId decisionId decision actorId s = .ok ((), s')) :
    Enters Refs.sideEffects SideEffectRow.IsCommitted (fun e ↦ e = decision.targetRef ∧
      decision.decisionKind = .sideEffectApproval ∧
      ∃ effect, s.sideEffects.find? e = some effect ∧
        effect.actionDigest = decision.targetHash) s s' := by
  rw [applyApprovedDecision.eq_def] at h
  cases hkind : decision.decisionKind with
  | sideEffectApproval =>
    rw [hkind, applySideEffectApproval, Tx.get_bind_ok] at h
    obtain ⟨effect, t₁, hrequire, h₁⟩ := Tx.bind_ok.mp h
    obtain ⟨hread, rfl⟩ := Tx.require_ok.mp hrequire
    obtain ⟨_, t₂, hcheck, h₂⟩ := Tx.bind_ok.mp h₁
    obtain ⟨hdigest, rfl⟩ := Tx.check_ok.mp hcheck
    obtain ⟨next, t₃, hnext, h₃⟩ := Tx.bind_ok.mp h₂
    obtain ⟨-, rfl⟩ := Tx.require_ok.mp hnext
    obtain ⟨_, t₄, hupdate, hrest⟩ := Tx.bind_ok.mp h₃
    have hgates : CommitsNone t₄ s' := Respects.rel (m := do
      resolveGates env decisionId
      recomputeRunnableState env taskId) hrest
    refine Preord.trans (Enters.of_update (fun a ha _ ↦ ?_) hupdate)
      (hgates.mono fun _ ↦ False.elim)
    exact .inr ⟨rfl, rfl, effect, hread, hdigest⟩
  | contractApproval | finalAcceptance | contractDelta | clarification | resourceLimit =>
    rw [hkind] at h
    have hnone : CommitsNone s s' := Respects.rel h
    exact hnone.mono fun _ ↦ False.elim

/-- Taking a decision commits at most the effect it is about. -/
theorem of_resolveDecision {r : Resolution}
    (h : resolveDecision env auth r s = .ok (result, s')) :
    CommitsNone s s' ∨ ∃ decisionId decision task, Resolves env auth r s decisionId decision task ∧
      Enters Refs.sideEffects SideEffectRow.IsCommitted (fun e ↦ r.verdict = "APPROVE" ∧
        e = decision.targetRef ∧ decision.decisionKind = .sideEffectApproval ∧
        ∃ effect, s.sideEffects.find? e = some effect ∧
          effect.actionDigest = decision.targetHash) s s' := by
  rcases resolveDecision_ok h with rfl | ⟨decisionId, decision, task, hresolves, hsettle⟩
  · exact .inl (Preord.refl _)
  · obtain ⟨u, hverdict, hevents⟩ := settleDecision_ok hsettle
    have hrest : CommitsNone u s' := Indifferent.writes hevents
    have htaken : CommitsNone s (s.take env auth r.verdict decisionId) := .of_read rfl
    rcases hverdict with ⟨hchoice, happly⟩ | ⟨-, hreject⟩
    · refine .inr ⟨decisionId, decision, task, hresolves, ?_⟩
      refine Preord.trans (htaken.mono fun _ ↦ False.elim)
        (Preord.trans ?_ (hrest.mono fun _ ↦ False.elim))
      exact (of_applyApprovedDecision happly).mono fun e he ↦ ⟨hchoice, he⟩
    · have hrejects : Respects CommitsNone (rejectDecision env decision.taskId decisionId) := by
        rw [rejectDecision]
        infer_instance
      exact .inl (Preord.trans htaken (Preord.trans (hrejects.rel hreject) hrest))

end CommitsNone

/-! ## Proposals -/

/-- The decisions about an effect that are new are about one effect of one task. -/
abbrev AsksForEffect (effectId taskId : String) : DB → DB → Prop :=
  Arrivals Refs.decisions fun _ f ↦ f.decisionKind = .sideEffectApproval →
    f.targetRef = effectId ∧ f.taskId = taskId

instance AsksForEffect.effectDecision_respects {version : Nat} {preauthorized : Bool}
    {action : Action} : Respects (AsksForEffect effectId taskId)
      (effectDecision env taskId effectId version preauthorized action) := by
  have hadd (k : String) (d : DecisionRow) (htarget : d.targetRef = effectId)
      (htask : d.taskId = taskId) :
      Respects (AsksForEffect effectId taskId) (add Refs.decisions k d) :=
    Arrivals.insert fun _ ↦ ⟨htarget, htask⟩
  have hrequest (version : Nat) (digest parameters : Digest) :
      Respects (AsksForEffect effectId taskId)
        (requestEffectApproval env taskId effectId version digest parameters) := by
    rw [requestEffectApproval]
    exact .seq inferInstance fun _ ↦ .seq (hadd _ _ rfl rfl) fun _ ↦ inferInstance
  rw [effectDecision]
  split
  · infer_instance
  · exact .seq (hrequest _ _ _) fun _ ↦ inferInstance

/-- A new effect, and the decision it waits for if it is not preauthorized. -/
theorem insertEffect_ok {key : String} {version : Nat} {preauthorized : Bool} {action : Action}
    (h : insertEffect env auth p taskId key version preauthorized action s = .ok (result, s')) :
    ∃ effectId, s.sideEffects.find? effectId = none ∧
      s'.sideEffects = s.sideEffects.insert effectId (proposedEffect env taskId key version action
        (if preauthorized then .authorized else .waitingApproval) p) ∧
      AsksForEffect effectId taskId s s' := by
  obtain ⟨effectId, t₁, hid, h₁⟩ := Tx.bind_ok.mp h
  obtain ⟨_, t₂, hadd, hrest⟩ := Tx.bind_ok.mp h₁
  have hdrawn : Writes [] s t₁ := Respects.rel hid
  have hasks : AsksForEffect effectId taskId t₁ t₂ := Respects.rel hadd
  have heffects₁ : s.sideEffects = t₁.sideEffects := (hdrawn .sideEffects).2 (by decide)
  obtain ⟨hnone, ht₂⟩ := Ref.insert_ok.mp hadd
  -- what comes after the insertion asks for the approval and records an event
  obtain ⟨decision, t₃, hdecision, hlast⟩ := Tx.bind_ok.mp hrest
  obtain ⟨_, t₄, hevent, hpure⟩ := Tx.bind_ok.mp hlast
  obtain ⟨-, rfl⟩ := Tx.pure_ok.mp hpure
  have hwrites : Writes [.decisions, .gates, .tasks, .events] t₂ s' :=
    Preord.trans (Respects.rel hdecision) (Respects.rel hevent)
  have heffects : t₂.sideEffects = s'.sideEffects := (hwrites .sideEffects).2 (by decide)
  refine ⟨effectId, heffects₁ ▸ hnone, ?_, ?_⟩
  · rw [← heffects, ht₂, heffects₁]
  · have hfirst : AsksForEffect effectId taskId s t₁ := Respects.rel hid
    have hdecided : AsksForEffect effectId taskId t₂ t₃ := Respects.rel hdecision
    exact Preord.trans hfirst
      (Preord.trans hasks (Preord.trans hdecided (Respects.rel hevent)))

/-- A proposal finds the effect again, or adds one under the active contract. -/
theorem proposeSideEffect_ok (h : proposeSideEffect env auth p s = .ok (result, s')) :
    s' = s ∨ ∃ taskId key version contract action,
      s.contracts.find? (taskId, version) = some contract ∧
      insertEffect env auth p taskId key version
        ((contract.content.allowedSideEffects.getD []).contains key) action s =
          .ok (result, s') := by
  obtain ⟨taskId, t₁, hkey, h₁⟩ := Tx.bind_ok.mp h
  obtain ⟨-, rfl⟩ := key_ok.mp hkey
  obtain ⟨task, t₂, hget, h₂⟩ := Tx.bind_ok.mp h₁
  obtain ⟨-, rfl⟩ := getTask_ok.mp hget
  obtain ⟨contract, t₃, hcontract, h₃⟩ := Tx.bind_ok.mp h₂
  obtain ⟨rfl, hactive⟩ := activeContract_ok.mp hcontract
  obtain ⟨active, t₄, hrequire, h₄⟩ := Tx.bind_ok.mp h₃
  obtain ⟨rfl, rfl⟩ := Tx.require_ok.mp hrequire
  obtain ⟨version, row, -, hrow, rfl⟩ : ∃ version row,
      t₄.activeContractMarkers.find? taskId = some ⟨version⟩ ∧
        t₄.contracts.find? (taskId, version) = some row ∧ active = (version, row) := by
    rcases hactive with ⟨-, hnone⟩ | ⟨version, row, hmarker, hrow, hsome⟩
    · cases hnone
    · exact ⟨version, row, hmarker, hrow, Option.some.inj hsome⟩
  obtain ⟨key, t₅, hkey₅, h₅⟩ := Tx.bind_ok.mp h₄
  obtain ⟨-, rfl⟩ := key_ok.mp hkey₅
  obtain ⟨targetRef, t₆, hkey₆, h₆⟩ := Tx.bind_ok.mp h₅
  obtain ⟨-, rfl⟩ := key_ok.mp hkey₆
  rw [Tx.get_bind_ok] at h₆
  cases hfound : effectByKey t₆ taskId key with
  | some found =>
    rw [hfound] at h₆
    obtain ⟨_, t₇, hcheck, hpure⟩ := Tx.bind_ok.mp h₆
    obtain ⟨-, rfl⟩ := Tx.check_ok.mp hcheck
    exact .inl (Tx.pure_ok.mp hpure).2
  | none =>
    rw [hfound] at h₆
    exact .inr ⟨taskId, key, version, row, _, hrow, h₆⟩

/-! ## Warrants -/

/-- A decision that approves an effect of its task as it is. -/
structure DecisionRow.Approves (decision : DecisionRow) (effectId : String)
    (effect : SideEffectRow) : Prop where
  approved : decision.status = .approved
  kind : decision.decisionKind = .sideEffectApproval
  target : decision.targetRef = effectId
  task : decision.taskId = effect.taskId
  hash : decision.targetHash = effect.actionDigest

/-- The contract that an effect was proposed under lists its key. -/
def DB.Lists (s : DB) (effect : SideEffectRow) : Prop :=
  ∃ contract, s.contracts.find? (effect.taskId, effect.contractVersion) = some contract ∧
    effect.logicalActionKey ∈ contract.content.allowedSideEffects.getD []

/-- The contract lists the effect, or a decision approves it. -/
def DB.Warranted (s : DB) (effectId : String) (effect : SideEffectRow) : Prop :=
  s.Lists effect ∨ ∃ decisionId decision, s.decisions.find? decisionId = some decision ∧
    decision.Approves effectId effect

/-- Decisions that are approved stay approved. -/
def ApprovedStay (s s' : DB) : Prop :=
  ∀ d decision, s.decisions.find? d = some decision → decision.status = .approved →
    ∃ decision', s'.decisions.find? d = some decision' ∧ decision'.status = .approved

/-- Whatever is committed has a warrant, and a decision about an effect is one of its task. -/
structure WarrantInv (s : DB) : Prop where
  owned : ∀ {d decision}, s.decisions.find? d = some decision →
    decision.decisionKind = .sideEffectApproval →
    ∃ effect, s.sideEffects.find? decision.targetRef = some effect ∧
      effect.taskId = decision.taskId
  warranted : ∀ {e effect}, s.sideEffects.find? e = some effect → effect.IsCommitted →
    s.Warranted e effect

theorem DB.Warranted.of_persists {effect' : SideEffectRow} (h : s.Warranted effectId effect)
    (hp : Persists s s') (hstay : ApprovedStay s s') (hfixed : SameFixed effect effect') :
    s'.Warranted effectId effect' := by
  have htask : effect'.taskId = effect.taskId := congrArg EffectTerms.taskId hfixed
  rcases h with ⟨contract, hcontract, hlisted⟩ | ⟨d, decision, hdecision, happroves⟩
  · obtain ⟨contract', hcontract', hterms⟩ := (hp .contracts).1 _ _ hcontract
    have hversion : effect'.contractVersion = effect.contractVersion :=
      congrArg EffectTerms.contractVersion hfixed
    have hkey : effect'.logicalActionKey = effect.logicalActionKey :=
      congrArg EffectTerms.logicalActionKey hfixed
    have hcontent : contract'.content = contract.content := congrArg (·.2.2.1) hterms
    refine .inl ⟨contract', ?_, ?_⟩
    · rw [htask, hversion]
      exact hcontract'
    · rw [hkey, hcontent]
      exact hlisted
  · obtain ⟨decision', hdecision', happroved⟩ := hstay d decision hdecision happroves.approved
    obtain ⟨decision'', hdecision'', hterms⟩ := (hp .decisions).1 _ _ hdecision
    obtain rfl := Option.some.inj (hdecision'.symm.trans hdecision'')
    have hkind : decision'.decisionKind = decision.decisionKind :=
      congrArg DecisionTerms.decisionKind hterms
    have htarget : decision'.targetRef = decision.targetRef :=
      congrArg DecisionTerms.targetRef hterms
    have hsameTask : decision'.taskId = decision.taskId := congrArg DecisionTerms.taskId hterms
    have hhash : decision'.targetHash = decision.targetHash :=
      congrArg DecisionTerms.targetHash hterms
    have hdigest : effect'.actionDigest = effect.actionDigest :=
      congrArg EffectTerms.actionDigest hfixed
    exact .inr ⟨d, decision', hdecision', happroved, hkind.trans happroves.kind,
      htarget.trans happroves.target, by rw [hsameTask, htask, happroves.task],
      by rw [hhash, hdigest, happroves.hash]⟩

namespace WarrantInv

/-- What comes to be committed has to have a warrant, and what is new among the decisions has to
be about an effect of its task. -/
theorem of_parts {T : String → Prop} {D : String → DecisionTerms → Prop} (h : WarrantInv s)
    (hp : Persists s s') (hstay : ApprovedStay s s') (hnew : Arrivals Refs.decisions D s s')
    (henters : Enters Refs.sideEffects SideEffectRow.IsCommitted T s s')
    (howned : ∀ d decision, s'.decisions.find? d = some decision →
      D d (Columns.fixed decision) → decision.decisionKind = .sideEffectApproval →
      ∃ effect, s'.sideEffects.find? decision.targetRef = some effect ∧
        effect.taskId = decision.taskId)
    (hcommitted : ∀ e effect, T e → s'.sideEffects.find? e = some effect →
      effect.IsCommitted → s'.Warranted e effect) : WarrantInv s' where
  owned {d decision'} hdecision' hkind := by
    rcases hnew d decision' hdecision' with ⟨decision, hdecision, hterms⟩ | hD
    · have hsame : decision'.decisionKind = decision.decisionKind :=
        congrArg DecisionTerms.decisionKind hterms
      obtain ⟨effect, heffect, htask⟩ := h.owned hdecision (hsame ▸ hkind)
      obtain ⟨effect', heffect', hfixed⟩ := (hp .sideEffects).1 _ _ heffect
      have htarget : decision'.targetRef = decision.targetRef :=
        congrArg DecisionTerms.targetRef hterms
      have htask' : effect'.taskId = effect.taskId := congrArg EffectTerms.taskId hfixed
      have howner : decision'.taskId = decision.taskId := congrArg DecisionTerms.taskId hterms
      exact ⟨effect', htarget ▸ heffect', by rw [htask', howner, htask]⟩
    · exact howned d decision' hdecision' hD hkind
  warranted {e effect'} heffect' hstate := by
    rcases henters e effect' heffect' hstate with ⟨effect, heffect, hstate₀⟩ | hT
    · obtain ⟨effect'', heffect'', hfixed⟩ := (hp .sideEffects).1 _ _ heffect
      obtain rfl := Option.some.inj (heffect'.symm.trans heffect'')
      exact (h.warranted heffect hstate₀).of_persists hp hstay hfixed
    · exact hcommitted e effect' hT heffect' hstate

/-- Nothing is committed, and nobody is asked about an effect. -/
theorem of_quiet (h : WarrantInv s) (hp : Persists s s') (hstay : ApprovedStay s s')
    (hnew : NoEffectDecision s s') (hnone : CommitsNone s s') : WarrantInv s' := by
  refine h.of_parts hp hstay hnew hnone (fun d decision _ hother hkind ↦ ?_) fun _ _ hT ↦ hT.elim
  exact absurd hkind hother

end WarrantInv

namespace ApprovedStay

theorem of_kept (h : ApprovalsKept s s') : ApprovedStay s s' := by
  intro d decision hdecision happroved
  obtain ⟨decision', hdecision', hsame⟩ := h.kept d decision hdecision
  rw [DecisionRow.approval_of_approved happroved] at hsame
  exact ⟨decision', hdecision', (DecisionRow.approved_of_approval hsame).1⟩

theorem of_read (h : s'.decisions = s.decisions) : ApprovedStay s s' := by
  intro _ decision hdecision happroved
  exact ⟨decision, h ▸ hdecision, happroved⟩

theorem trans {t : DB} (h : ApprovedStay s t) (h' : ApprovedStay t s') : ApprovedStay s s' := by
  intro d decision hdecision happroved
  obtain ⟨decision₁, hdecision₁, happroved₁⟩ := h d decision hdecision happroved
  exact h' d decision₁ hdecision₁ happroved₁

/-- A pending decision is taken; the approved ones are others. -/
theorem of_take {r : Resolution} {decision : DecisionRow} {choice : String}
    (h : Resolves env auth r s decisionId decision task) :
    ApprovedStay s (s.take env auth choice decisionId) := by
  intro d approved hfound happroved
  have hne : d ≠ decisionId := by
    rintro rfl
    obtain rfl := Option.some.inj (hfound.symm.trans h.found)
    rw [h.pending] at happroved
    cases happroved
  exact ⟨approved, (Table.find?_modify_of_ne hne _ _).trans hfound, happroved⟩

end ApprovedStay

namespace WarrantInv

/-- The approval of an effect is its warrant. -/
theorem of_resolveDecision {r : Resolution} (h : WarrantInv s)
    (hrun : resolveDecision env auth r s = .ok (result, s')) (hp : Persists s s')
    (hnew : NoEffectDecision s s') : WarrantInv s' := by
  rcases ApprovalsKept.of_resolveDecision hrun with
    rfl | ⟨decisionId, decision, task, hresolves, hkept⟩
  · exact h
  have hstay : ApprovedStay s s' := (ApprovedStay.of_take hresolves).trans (.of_kept hkept)
  rcases CommitsNone.of_resolveDecision hrun with
    hnone | ⟨decisionId', decision', task', hresolves', henters⟩
  · exact h.of_quiet hp hstay hnew hnone
  -- it is the same decision that was taken and that commits the effect
  obtain rfl := Option.some.inj (hresolves.named.symm.trans hresolves'.named)
  obtain rfl := Option.some.inj (hresolves.found.symm.trans hresolves'.found)
  refine h.of_parts hp hstay hnew henters (fun d decision _ hother hkind ↦ ?_) ?_
  · exact absurd hkind hother
  rintro e effect' ⟨hchoice, rfl, hkind, effect, heffect, hdigest⟩ heffect' -
  have htaken : (s.take env auth r.verdict decisionId).decisions.find? decisionId =
      some (takenDecision env auth r.verdict decision) := by
    change (s.decisions.modify decisionId _).find? decisionId = _
    rw [Table.find?_modify, if_pos rfl, hresolves.found]
    rfl
  obtain ⟨decision', hdecision', hsame⟩ := hkept.kept _ _ htaken
  have happroved : (takenDecision env auth r.verdict decision).status = .approved := by
    rw [takenDecision, hchoice]
    rfl
  rw [DecisionRow.approval_of_approved happroved] at hsame
  obtain ⟨decision'', hdecision'', hterms⟩ := (hp .decisions).1 _ _ hresolves.found
  obtain rfl := Option.some.inj (hdecision'.symm.trans hdecision'')
  obtain ⟨effect'', heffect'', hfixed⟩ := (hp .sideEffects).1 _ _ heffect
  obtain rfl := Option.some.inj (heffect'.symm.trans heffect'')
  obtain ⟨owned, howned, htask⟩ := h.owned hresolves.found hkind
  obtain rfl := Option.some.inj (heffect.symm.trans howned)
  have hkind' : decision'.decisionKind = decision.decisionKind :=
    congrArg DecisionTerms.decisionKind hterms
  have htarget : decision'.targetRef = decision.targetRef :=
    congrArg DecisionTerms.targetRef hterms
  have hsameTask : decision'.taskId = decision.taskId := congrArg DecisionTerms.taskId hterms
  have hhash : decision'.targetHash = decision.targetHash :=
    congrArg DecisionTerms.targetHash hterms
  have htask' : effect'.taskId = effect.taskId := congrArg EffectTerms.taskId hfixed
  have hdigest' : effect'.actionDigest = effect.actionDigest :=
    congrArg EffectTerms.actionDigest hfixed
  exact .inr ⟨decisionId, decision', hdecision', (DecisionRow.approved_of_approval hsame).1,
    hkind'.trans hkind, htarget, by rw [hsameTask, htask', htask], by rw [hhash, hdigest', hdigest]⟩

/-- A preauthorized effect is listed by the contract it is proposed under. -/
theorem of_proposeSideEffect (h : WarrantInv s)
    (hrun : proposeSideEffect env auth p s = .ok (result, s')) (hp : Persists s s')
    (hstay : ApprovedStay s s') : WarrantInv s' := by
  rcases proposeSideEffect_ok hrun with
    rfl | ⟨taskId, key, version, contract, action, hcontract, hinsert⟩
  · exact h
  obtain ⟨effectId, hnone, heffects, hasks⟩ := insertEffect_ok hinsert
  have hfind {e : String} {effect : SideEffectRow}
      (heffect : s'.sideEffects.find? e = some effect) :
      e = effectId ∧ effect = proposedEffect env taskId key version action
        (if (contract.content.allowedSideEffects.getD []).contains key then .authorized
          else .waitingApproval) p ∨ s.sideEffects.find? e = some effect := by
    rw [heffects, Table.find?_insert hnone] at heffect
    split at heffect
    · next he => exact .inl ⟨he, (Option.some.inj heffect).symm⟩
    · exact .inr heffect
  have henters : Enters Refs.sideEffects SideEffectRow.IsCommitted (· = effectId) s s' := by
    intro e effect heffect hstate
    rcases hfind heffect with ⟨he, -⟩ | hold
    · exact .inr he
    · exact .inl ⟨effect, hold, hstate⟩
  have hself : s'.sideEffects.find? effectId = some (proposedEffect env taskId key version action
      (if (contract.content.allowedSideEffects.getD []).contains key then .authorized
        else .waitingApproval) p) := by
    rw [heffects, Table.find?_insert hnone, if_pos rfl]
  refine h.of_parts hp hstay hasks henters (fun d decision _ habout hkind ↦ ?_) ?_
  · obtain ⟨htarget, htask⟩ := habout hkind
    have htarget' : decision.targetRef = effectId := htarget
    have htask' : decision.taskId = taskId := htask
    exact ⟨_, htarget' ▸ hself, htask'.symm⟩
  · rintro e effect rfl heffect hstate
    obtain rfl := Option.some.inj (hself.symm.trans heffect)
    -- it is committed at once only if the contract lists it
    by_cases hlisted : (contract.content.allowedSideEffects.getD []).contains key = true
    · obtain ⟨contract', hcontract', hterms⟩ := (hp .contracts).1 _ _ hcontract
      have hcontent : contract'.content = contract.content := congrArg (·.2.2.1) hterms
      refine .inl ⟨contract', hcontract', ?_⟩
      rw [hcontent]
      exact List.contains_iff_mem.mp hlisted
    · rw [if_neg hlisted] at hstate
      rcases hstate with hstate | hstate <;> cases hstate

theorem of_handler {operation : Operation} (h : WarrantInv s)
    (hrun : handler env auth p operation s = .ok (result, s')) : WarrantInv s' := by
  have hp : Persists s s' := Respects.rel hrun
  by_cases hpropose : operation = .proposeSideEffect
  · subst hpropose
    exact h.of_proposeSideEffect hrun hp
      (.of_kept ((ApprovalsKept.handler_respects rfl).rel hrun))
  have hnew : NoEffectDecision s s' := (NoEffectDecision.handler_respects hpropose).rel hrun
  cases hr : resolution p operation with
  | none =>
    have hkept : ApprovalsKept s s' := (ApprovalsKept.handler_respects hr).rel hrun
    exact h.of_quiet hp (.of_kept hkept) hnew
      ((CommitsNone.handler_respects hpropose hr).rel hrun)
  | some r =>
    rw [handler_resolution hr] at hrun
    exact h.of_resolveDecision hrun hp hnew

theorem of_records (h : WarrantInv s) (hw : Writes requestRecords s s') : WarrantInv s' := by
  have hdecisions : s.decisions = s'.decisions := (hw .decisions).2 (by decide)
  exact h.of_quiet (persists_of_writes hw) (.of_read hdecisions.symm) (.of_read hdecisions)
    (.of_read ((hw .sideEffects).2 (by decide)))

end WarrantInv

theorem warrantInv_invariant (ok : World → Label → Prop) :
    system.Invariant ok fun w ↦ WarrantInv w.db where
  init := ⟨(fun h ↦ nomatch h), (fun h ↦ nomatch h)⟩
  step w l w' h _ hstep := by
    cases l
    case command env r =>
      rcases step_command hstep with hrecords | ⟨t, t', result, hran, hrecords⟩
      · exact h.of_records hrecords
      · obtain ⟨n, rfl⟩ := hran.start
        exact ((h.of_records (writes_drawn _ _)).of_handler hran.run).of_records hrecords
    all_goals
      exact h.of_quiet (step_rel hstep)
        (.of_kept (step_background Preord.refl rfl hstep))
        (step_background Preord.refl rfl hstep) (step_background Preord.refl rfl hstep)

end HibikiCore
