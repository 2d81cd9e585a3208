import HibikiCore.Safety.Contracts

/-!
# Who approved a decision

A decision is approved once, by a human of the principal of its task, and stays so. What else
happens to decisions is that new ones wait, that pending ones give way, and that their gates close.
-/

namespace HibikiCore

set_option synthInstance.maxSize 100000000
set_option synthInstance.maxHeartbeats 400000

/-- All tables but the decisions. -/
abbrev besideDecisions : List Relation :=
  [.tasks, .contracts, .activeContractMarkers, .explanations, .gates, .plans, .activePlanMarkers,
    .workUnitSpecs, .workUnitExecutions, .plannerSessions, .agentRuns, .activeExecuteRunMarkers,
    .activePlanRunMarkers, .workspaces, .contextManifests, .sideEffects, .events, .inbox, .outbox,
    .idempotencyKeys, .resultSnapshots, .artifacts, .acceptanceEvidence, .agentProfiles,
    .runInputs, .toolInvocations, .contextAppends, .taskMessages]

instance : Faithful Refs.decisions := ⟨id⟩

instance {n : Relation} [h : Touches n besideDecisions] : Beside Refs.decisions n where
  ne := by
    rintro rfl
    exact absurd h.mem (by decide)

/-- The actor and the principal that a decision was approved by, if it was. -/
def DecisionRow.approval (d : DecisionRow) : Option (Option String × Option String) :=
  if d.status = .approved then some (d.decidedByActor, d.decidedByPrincipal) else none

theorem DecisionRow.approval_of_pending {d : DecisionRow} (h : d.status = .pending) :
    d.approval = none := by
  rw [approval, h]
  rfl

theorem DecisionRow.approval_of_approved {d : DecisionRow} (h : d.status = .approved) :
    d.approval = some (d.decidedByActor, d.decidedByPrincipal) := if_pos h

theorem DecisionRow.approved_of_approval {d : DecisionRow} {who : Option String × Option String}
    (h : d.approval = some who) :
    d.status = .approved ∧ d.decidedByActor = who.1 ∧ d.decidedByPrincipal = who.2 := by
  rw [approval] at h
  split at h
  · next hstatus =>
    obtain rfl := Option.some.inj h
    exact ⟨hstatus, rfl, rfl⟩
  · cases h

variable {env : Env} {auth : AuthContext} {p : Payload} {task : TaskRow} {s s' : DB}
  {taskId decisionId : String} {result : CommandResult}

/-! ## Approvals that stay -/

/-- The decisions persist with their approval; a new one is not approved. -/
abbrev ApprovalsKept : DB → DB → Prop := KeepsColumn Refs.decisions DecisionRow.approval none

namespace ApprovalsKept

instance {lifecycle : GateLifecycle} :
    Leaves DecisionRow.approval fun d ↦ { d with gateLifecycle := lifecycle } :=
  ⟨fun _ ↦ rfl⟩

instance : OrdinaryDecisions ApprovalsKept where
  insert _ _ _ hd := KeepsColumn.insert (DecisionRow.approval_of_pending hd.pending)

instance : AcceptanceDecisions ApprovalsKept where
  insert _ _ _ hd := KeepsColumn.insert (DecisionRow.approval_of_pending hd.pending)

/-- Decisions that are not approved may give way to others. -/
theorem supersede {l : List (String × DecisionRow)}
    (hl : ∀ r ∈ l, ∃ d, s.decisions.find? r.1 = some d ∧ d.approval = none)
    (h : Tx.each l (fun d ↦ do
      Refs.decisions.update d.1 fun r ↦ { r with status := .superseded }
      resolveGates env d.1) s = .ok ((), s')) : ApprovalsKept s s' := by
  refine Tx.each_induct (P := ApprovalsKept s) (fun r hr t t' hkept hround ↦ ?_) (Preord.refl s) h
  obtain ⟨_, u, hupdate, hgates⟩ := Tx.bind_ok.mp hround
  have hunapproved : ApprovalsKept t u := by
    refine KeepsColumn.of_update (fun d hd ↦ ?_) hupdate
    obtain ⟨d₀, hd₀, hnone⟩ := hl r hr
    obtain ⟨d', hd', hsame⟩ := hkept.kept _ d₀ hd₀
    obtain rfl := Option.some.inj (hd.symm.trans hd')
    rw [hsame, hnone]
    rfl
  exact Preord.trans hkept (Preord.trans hunapproved (Respects.rel hgates))

instance supersedePendingAcceptance_respects :
    Respects ApprovalsKept (supersedePendingAcceptance env taskId) where
  rel {s _ s'} h := by
    rw [supersedePendingAcceptance, Tx.get_bind_ok] at h
    refine supersede (fun r hr ↦ ?_) h
    obtain ⟨hfind, hpending⟩ := Table.mem_select.mp hr
    simp only [Bool.and_eq_true, beq_iff_eq] at hpending
    exact ⟨r.2, hfind, DecisionRow.approval_of_pending hpending.2⟩

instance supersedePriorContracts_respects :
    Respects ApprovalsKept (supersedePriorContracts env taskId) where
  rel {s _ s'} h := by
    obtain ⟨_, t, hcontracts, h₁⟩ := Tx.bind_ok.mp h
    have hfirst : ApprovalsKept s t := Respects.rel hcontracts
    rw [Tx.get_bind_ok] at h₁
    refine Preord.trans hfirst (supersede (fun r hr ↦ ?_) h₁)
    obtain ⟨hfind, hpending⟩ := Table.mem_select.mp hr
    simp only [Bool.and_eq_true, beq_iff_eq] at hpending
    exact ⟨r.2, hfind, DecisionRow.approval_of_pending hpending.2⟩

instance invalidateStaleContractDelta_respects {decision : DecisionRow} {actor code : String} :
    Respects ApprovalsKept
      (invalidateStaleContractDelta env taskId decisionId decision actor code) := by
  rw [invalidateStaleContractDelta]
  infer_instance

instance activateContractDelta_respects {decision : DecisionRow} {envelope : DeltaEnvelope} :
    Respects ApprovalsKept
      (activateContractDelta env auth taskId decisionId task decision envelope) := by
  rw [activateContractDelta]
  infer_instance

instance applyContractApproval_respects {decision : DecisionRow} {actorId : String} :
    Respects ApprovalsKept
      (applyContractApproval env taskId decisionId decision actorId) := by
  rw [applyContractApproval]
  infer_instance

instance applyContractDeltaApproval_respects {decision : DecisionRow} :
    Respects ApprovalsKept (applyContractDeltaApproval env taskId decisionId decision) := by
  rw [applyContractDeltaApproval]
  infer_instance

instance proposeContractDelta_respects :
    Respects ApprovalsKept (proposeContractDelta env taskId p) := by
  have hadd (k : String) (d : DecisionRow) (hd : d.status = .pending) :
      Respects ApprovalsKept (add Refs.decisions k d) :=
    KeepsColumn.insert (DecisionRow.approval_of_pending hd)
  rw [proposeContractDelta]
  refine .seq inferInstance fun _ ↦ .seq inferInstance fun _ ↦ .seq inferInstance fun _ ↦ ?_
  exact .seq (hadd _ _ rfl) fun _ ↦ inferInstance

instance background : Background ApprovalsKept := inferInstance

/-- Besides the commands that resolve decisions none approves one. -/
theorem handler_respects {operation : Operation} (hresolve : resolution p operation = none) :
    Respects ApprovalsKept (handler env auth p operation) := by
  cases operation
  case approveContract | resolveDecision | acceptResult | approveSideEffect => cases hresolve
  all_goals (dsimp only [handler]; infer_instance)

/-- Resolving a decision is answered again, or it takes the decision and no other. -/
theorem of_resolveDecision {r : Resolution}
    (h : resolveDecision env auth r s = .ok (result, s')) :
    s' = s ∨ ∃ decisionId decision task, Resolves env auth r s decisionId decision task ∧
      ApprovalsKept (s.take env auth r.verdict decisionId) s' := by
  rcases resolveDecision_ok h with hsame | ⟨decisionId, decision, task, hresolves, hsettle⟩
  · exact .inl hsame
  · obtain ⟨u, hverdict, hevents⟩ := settleDecision_ok hsettle
    have hrest : ApprovalsKept u s' := Indifferent.writes hevents
    refine .inr ⟨decisionId, decision, task, hresolves, Preord.trans ?_ hrest⟩
    rcases hverdict with ⟨-, happly⟩ | ⟨-, hreject⟩
    · exact Respects.rel happly
    · have hrejects : Respects ApprovalsKept (rejectDecision env decision.taskId decisionId) := by
        rw [rejectDecision]
        infer_instance
      exact hrejects.rel hreject

/-- A command keeps the approvals, or it takes a pending decision. -/
theorem of_handler {operation : Operation}
    (h : handler env auth p operation s = .ok (result, s')) :
    ApprovalsKept s s' ∨ ∃ r decisionId decision task, resolution p operation = some r ∧
      Resolves env auth r s decisionId decision task ∧
      ApprovalsKept (s.take env auth r.verdict decisionId) s' := by
  cases hr : resolution p operation with
  | none => exact .inl ((handler_respects hr).rel h)
  | some r =>
    rw [handler_resolution hr] at h
    rcases of_resolveDecision h with rfl | ⟨decisionId, decision, task, hresolves, hkept⟩
    · exact .inl (Preord.refl _)
    · exact .inr ⟨r, decisionId, decision, task, rfl, hresolves, hkept⟩

end ApprovalsKept

/-! ## Steps -/

section Steps

variable {w w' : World} {l : Label}

/-- A step keeps the approvals, or a human takes a pending decision. -/
theorem step_approvals (hstep : system.step w l = some w') :
    ApprovalsKept w.db w'.db ∨ ∃ env request r decisionId decision task,
      l = .command env request ∧ request ∈ w'.executed ∧ request.auth.actorType = .human ∧
      resolution request.payload request.operation = some r ∧
      Resolves env request.auth r w.db decisionId decision task ∧
      ApprovalsKept (w.db.take env request.auth r.verdict decisionId) w'.db := by
  cases l
  case command env request =>
    rcases step_ran hstep with hrecords | ⟨t, t', result, hran, hrecords, hmem⟩
    · exact .inl (.of_read ((hrecords .decisions).2 (by decide)))
    · obtain ⟨n, rfl⟩ := hran.start
      have hafter : ApprovalsKept t' w'.db := .of_read ((hrecords .decisions).2 (by decide))
      rcases ApprovalsKept.of_handler hran.run with
        hkept | ⟨r, decisionId, decision, task, hr, hresolves, hkept⟩
      · have hdrawn : ApprovalsKept w.db { w.db with drawn := n } := .of_read rfl
        exact .inl (Preord.trans hdrawn (Preord.trans hkept hafter))
      · have hdrawn : ApprovalsKept (w.db.take env request.auth r.verdict decisionId)
            (DB.take { w.db with drawn := n } env request.auth r.verdict decisionId) := .of_read rfl
        exact .inr ⟨env, request, r, decisionId, decision, task, rfl, hmem,
          resolution_human hr hran.guard, hr, hresolves.of_drawn,
          Preord.trans hdrawn (Preord.trans hkept hafter)⟩
  all_goals exact .inl (step_background Preord.refl rfl hstep)

/-- The approvals of a step: those from before, and at most that of a decision that was pending. -/
theorem DB.take_approval {s : DB} {choice : String} {k : String} {d' : DecisionRow}
    (hd' : (s.take env auth choice decisionId).decisions.find? k = some d')
    (happroved : d'.status = .approved) :
    (∃ d, s.decisions.find? k = some d ∧ d.status = .approved ∧ d'.approval = d.approval) ∨
      k = decisionId ∧ choice = "APPROVE" ∧
        d'.approval = some (some auth.actorId, some auth.principalId) := by
  change (s.decisions.modify decisionId _).find? k = _ at hd'
  rw [Table.find?_modify] at hd'
  split at hd'
  · next hk =>
    obtain ⟨d, -, rfl⟩ := Option.map_eq_some_iff.mp hd'
    refine .inr ⟨hk, ?_, DecisionRow.approval_of_approved happroved⟩
    by_contra hchoice
    rw [takenDecision] at happroved
    simp [hchoice] at happroved
  · exact .inl ⟨d', hd', happroved, rfl⟩

/-- A decision that was approved stays approved by the same human. -/
theorem step_approved (hstep : system.step w l = some w') {k : String} {d : DecisionRow}
    (hd : w.db.decisions.find? k = some d) (happroved : d.status = .approved) :
    ∃ d', w'.db.decisions.find? k = some d' ∧ SameFixed d d' ∧ d'.approval = d.approval := by
  have hp : Persists w.db w'.db := step_rel hstep
  obtain ⟨d', hd', hfixed⟩ := (hp .decisions).1 k d hd
  refine ⟨d', hd', hfixed, ?_⟩
  rcases step_approvals hstep with
    hkept | ⟨env, request, r, decisionId, decision, task, -, -, -, -, hresolves, hkept⟩
  · obtain ⟨d'', hd'', hsame⟩ := hkept.kept k d hd
    obtain rfl := Option.some.inj (hd'.symm.trans hd'')
    exact hsame
  · have hne : k ≠ decisionId := by
      rintro rfl
      obtain rfl := Option.some.inj (hd.symm.trans hresolves.found)
      rw [hresolves.pending] at happroved
      cases happroved
    have htake : (w.db.take env request.auth r.verdict decisionId).decisions.find? k = some d :=
      (Table.find?_modify_of_ne hne _ _).trans hd
    obtain ⟨d'', hd'', hsame⟩ := hkept.kept k d htake
    obtain rfl := Option.some.inj (hd'.symm.trans hd'')
    exact hsame

/-! ## Humans -/

/-- A human of the principal of its task has approved a decision. -/
def World.Approved (w : World) (decisionId : String) (decision : DecisionRow) : Prop :=
  ∃ request ∈ w.executed, request.auth.actorType = .human ∧
    (∃ r, resolution request.payload request.operation = some r ∧
      r.decisionId = some decisionId ∧ r.verdict = "APPROVE") ∧
    decision.approval = some (some request.auth.actorId, some request.auth.principalId) ∧
    ∃ task, w.db.tasks.find? decision.taskId = some task ∧
      task.principalId = request.auth.principalId

theorem World.Approved.of_step {decision decision' : DecisionRow}
    (h : w.Approved decisionId decision) (hstep : system.step w l = some w')
    (hfixed : SameFixed decision decision') (hsame : decision'.approval = decision.approval) :
    w'.Approved decisionId decision' := by
  obtain ⟨request, hmem, hhuman, hnamed, happroval, task, htask, howner⟩ := h
  have hp : Persists w.db w'.db := step_rel hstep
  obtain ⟨task', htask', hfixed'⟩ := (hp .tasks).1 _ task htask
  have hprincipal : task'.principalId = task.principalId := congrArg (·.1) hfixed'
  have htaskId : decision'.taskId = decision.taskId := congrArg DecisionTerms.taskId hfixed
  exact ⟨request, mem_executed_of_step hstep hmem, hhuman, hnamed, hsame.trans happroval, task',
    htaskId ▸ htask', hprincipal.trans howner⟩

/-- Every approved decision was approved by a human of the principal of its task. -/
def ApprovalInv (w : World) : Prop :=
  ∀ decisionId decision, w.db.decisions.find? decisionId = some decision →
    decision.status = .approved → w.Approved decisionId decision

theorem approvalInv_invariant (ok : World → Label → Prop) : system.Invariant ok ApprovalInv where
  init _ _ h := nomatch h
  step w l w' h _ hstep k d' hd' happroved := by
    have hp : Persists w.db w'.db := step_rel hstep
    -- what was approved before is approved by the same request
    have hold (d : DecisionRow) (hd : w.db.decisions.find? k = some d)
        (happroved : d.status = .approved) : w'.Approved k d' := by
      obtain ⟨d'', hd'', hfixed, hsame⟩ := step_approved hstep hd happroved
      obtain rfl := Option.some.inj (hd'.symm.trans hd'')
      exact (h k d hd happroved).of_step hstep hfixed hsame
    have hof {d : DecisionRow} (hsame : d'.approval = d.approval) : d.status = .approved := by
      rw [DecisionRow.approval_of_approved happroved] at hsame
      exact (DecisionRow.approved_of_approval hsame.symm).1
    have hnot : d'.approval ≠ none := by
      rw [DecisionRow.approval_of_approved happroved]
      exact nofun
    rcases step_approvals hstep with
      hkept | ⟨env, request, r, decisionId, decision, task, -, hmem, hhuman, hr, hresolves, hkept⟩
    · rcases hkept.origin hd' with ⟨d, hd, hsame⟩ | ⟨-, hnone⟩
      · exact hold d hd (hof hsame)
      · exact absurd hnone hnot
    · rcases hkept.origin hd' with ⟨d₁, hd₁, hsame₁⟩ | ⟨-, hnone⟩
      · rcases DB.take_approval hd₁ (hof hsame₁) with ⟨d, hd, happroved₀, -⟩ | ⟨rfl, hverdict, htaken⟩
        · exact hold d hd happroved₀
        · obtain ⟨task', htask', hfixed⟩ := (hp .tasks).1 _ task hresolves.known
          have howner : task'.principalId = task.principalId := congrArg (·.1) hfixed
          obtain ⟨d'', hd'', hfixed'⟩ := (hp .decisions).1 k decision hresolves.found
          obtain rfl := Option.some.inj (hd'.symm.trans hd'')
          have htaskId : d'.taskId = decision.taskId := congrArg DecisionTerms.taskId hfixed'
          exact ⟨request, hmem, hhuman, ⟨r, hr, hresolves.named, hverdict⟩, hsame₁.trans htaken,
            task', htaskId ▸ htask', howner.trans hresolves.owner⟩
      · exact absurd hnone hnot

end Steps

end HibikiCore
