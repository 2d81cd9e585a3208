import HibikiCore.Application.Frames

/-!
# What the resolution of a decision was

The four commands that resolve a decision are one. A decision that was taken before is answered
again; otherwise the decision is pending, it is taken, and an approval is applied at once.
-/

namespace HibikiCore

variable {env : Env} {auth : AuthContext} {p : Payload} {s s' : DB} {result : CommandResult}

/-- What holds of a decision that is taken. -/
structure Resolves (env : Env) (auth : AuthContext) (r : Resolution) (s : DB) (decisionId : String)
    (decision : DecisionRow) (task : TaskRow) : Prop where
  named : r.decisionId = some decisionId
  found : s.decisions.find? decisionId = some decision
  human : guardHumanDecision auth decision.decisionKind = none
  known : s.tasks.find? decision.taskId = some task
  owner : task.principalId = auth.principalId
  pending : decision.status = .pending
  unexpired : env.now ≤ decision.expiresAt
  version : r.expectedTargetVersion.all (· = decision.targetVersion) = true
  hash : r.expectedTargetHash.all (· = decision.targetHash) = true
  unchanged : decision.decisionKind = .contractApproval → ∃ contract,
    s.contracts.find? (decision.taskId, decision.targetVersion) = some contract ∧
      contract.contentHash = decision.targetHash

/-- The identifiers that were drawn do not matter. -/
theorem Resolves.of_drawn {r : Resolution} {decisionId : String} {decision : DecisionRow}
    {task : TaskRow} {n : Nat}
    (h : Resolves env auth r { s with drawn := n } decisionId decision task) :
    Resolves env auth r s decisionId decision task :=
  ⟨h.named, h.found, h.human, h.known, h.owner, h.pending, h.unexpired, h.version, h.hash,
    h.unchanged⟩

/-- The choice of a resolution. -/
def Resolution.verdict (r : Resolution) : String := upperText (orElse r.choice "APPROVE")

theorem resolveDecision_ok {r : Resolution}
    (h : resolveDecision env auth r s = .ok (result, s')) :
    s' = s ∨ ∃ decisionId decision task, Resolves env auth r s decisionId decision task ∧
      settleDecision env auth decisionId decision r.verdict s = .ok (result, s') := by
  obtain ⟨decisionId, t₁, hkey, h₁⟩ := Tx.bind_ok.mp h
  obtain ⟨hnamed, rfl⟩ := key_ok.mp hkey
  rw [Tx.get_bind_ok] at h₁
  obtain ⟨decision, t₂, hrequire, h₂⟩ := Tx.bind_ok.mp h₁
  obtain ⟨hfound, rfl⟩ := Tx.require_ok.mp hrequire
  obtain ⟨_, t₃, hguard, h₃⟩ := Tx.bind_ok.mp h₂
  have hhuman : guardHumanDecision auth decision.decisionKind = none ∧ t₃ = t₂ := by
    rw [Tx.withSome_ok] at hguard
    simpa using hguard
  obtain ⟨hhuman, rfl⟩ := hhuman
  obtain ⟨task, t₄, hget, h₄⟩ := Tx.bind_ok.mp h₃
  obtain ⟨htask, rfl⟩ := getTask_ok.mp hget
  obtain ⟨_, t₅, hcheck, h₅⟩ := Tx.bind_ok.mp h₄
  obtain ⟨howner, rfl⟩ := Tx.check_ok.mp hcheck
  rcases Tx.ite_ok.mp h₅ with ⟨-, hreplay⟩ | ⟨-, h₆⟩
  · exact .inl (Tx.pure_ok.mp hreplay).2
  · right
    obtain ⟨_, t₆, hcheck₆, h₇⟩ := Tx.bind_ok.mp h₆
    obtain ⟨hpending, rfl⟩ := Tx.check_ok.mp hcheck₆
    obtain ⟨_, t₇, hcheck₇, h₈⟩ := Tx.bind_ok.mp h₇
    obtain ⟨hunexpired, rfl⟩ := Tx.check_ok.mp hcheck₇
    obtain ⟨_, t₈, hcheck₈, h₉⟩ := Tx.bind_ok.mp h₈
    obtain ⟨hversion, rfl⟩ := Tx.check_ok.mp hcheck₈
    obtain ⟨_, t₉, hcheck₉, h₁₀⟩ := Tx.bind_ok.mp h₉
    obtain ⟨hhash, rfl⟩ := Tx.check_ok.mp hcheck₉
    obtain ⟨_, t₁₀, hunchanged, hsettle⟩ := Tx.bind_ok.mp h₁₀
    have hreads : Respects Eq (checkContractUnchanged decision) := by
      rw [checkContractUnchanged]
      infer_instance
    obtain rfl : t₉ = t₁₀ := Respects.rel (R := Eq) hunchanged
    refine ⟨decisionId, decision, task, ⟨hnamed, hfound, hhuman, htask, howner, hpending,
      hunexpired, hversion, hhash, fun hkind ↦ ?_⟩, hsettle⟩
    rcases Tx.when_ok.mp hunchanged with ⟨-, hsame⟩ | ⟨hother, -⟩
    · rw [checkContractUnchanged, Tx.get_bind_ok] at hsame
      obtain ⟨contract, t₁₁, hrequire₁₁, hhash₁₁⟩ := Tx.bind_ok.mp hsame
      obtain ⟨hcontract, rfl⟩ := Tx.require_ok.mp hrequire₁₁
      exact ⟨contract, hcontract, (Tx.check_ok.mp hhash₁₁).1⟩
    · exact absurd hkind hother

/-- A decision after it was taken. -/
def takenDecision (env : Env) (auth : AuthContext) (choice : String) (decision : DecisionRow) :
    DecisionRow :=
  { decision with
    choice := some choice
    decidedByActor := some auth.actorId
    decidedByPrincipal := some auth.principalId
    decidedAt := some env.now
    status := if choice = "APPROVE" then .approved else .rejected }

/-- The database in which a decision was marked as taken. -/
def DB.take (s : DB) (env : Env) (auth : AuthContext) (choice decisionId : String) : DB :=
  { s with decisions := s.decisions.modify decisionId (takenDecision env auth choice) }

theorem DB.take_writes {choice decisionId : String} :
    Writes [.decisions] s (s.take env auth choice decisionId) :=
  Respects.rel (a := ()) (m := (Refs.decisions.update decisionId (takenDecision env auth choice) :
    Core Unit)) (Ref.update_ok.mpr rfl)

/-- What a rejection does. -/
def rejectDecision (env : Env) (taskId decisionId : String) : Core Unit := do
  resolveGates env decisionId
  recomputeRunnableState env taskId

/-- Taking a decision marks it, and does what the approval or the rejection asks for. -/
theorem settleDecision_ok {decisionId choice : String} {decision : DecisionRow}
    (h : settleDecision env auth decisionId decision choice s = .ok (result, s')) :
    ∃ u, (choice = "APPROVE" ∧ applyApprovedDecision env decision.taskId decisionId decision
          auth.actorId (s.take env auth choice decisionId) = .ok ((), u) ∨
        choice ≠ "APPROVE" ∧ rejectDecision env decision.taskId decisionId
          (s.take env auth choice decisionId) = .ok ((), u)) ∧
      Writes [.events] u s' := by
  obtain ⟨_, t₁, htake, h₁⟩ := Tx.bind_ok.mp h
  obtain rfl := Ref.update_ok.mp htake
  rcases Tx.ite_ok.mp h₁ with ⟨happrove, h₂⟩ | ⟨hreject, h₂⟩
  · obtain ⟨_, t₂, happly, h₃⟩ := Tx.bind_ok.mp h₂
    exact ⟨t₂, .inl ⟨happrove, happly⟩, Respects.rel h₃⟩
  · obtain ⟨_, t₂, hgates, h₃⟩ := Tx.bind_ok.mp h₂
    obtain ⟨_, t₃, hstate, h₄⟩ := Tx.bind_ok.mp h₃
    exact ⟨t₃, .inr ⟨hreject, Tx.bind_ok.mpr ⟨(), t₂, hgates, hstate⟩⟩, Respects.rel h₄⟩

/-! ## Commands -/

/-- What a command asks for that resolves a decision. -/
def resolution (p : Payload) : Operation → Option Resolution
  | .approveContract =>
    some
      { decisionId := p.decisionId
        choice := some (orElse p.choice "APPROVE")
        expectedTargetVersion := p.expectedTargetVersion
        expectedTargetHash := p.expectedTargetHash }
  | .approveSideEffect | .acceptResult =>
    some
      { decisionId := p.decisionId
        choice := some "APPROVE"
        expectedTargetHash := p.expectedTargetHash }
  | .resolveDecision =>
    some
      { decisionId := p.decisionId
        choice := p.choice
        expectedTargetVersion := p.expectedTargetVersion
        expectedTargetHash := p.expectedTargetHash }
  | _ => none

section Commands

variable {operation : Operation} {r : Resolution}

theorem resolution_operation (h : resolution p operation = some r) :
    operation = .approveContract ∨ operation = .approveSideEffect ∨ operation = .acceptResult ∨
      operation = .resolveDecision := by
  cases operation
  case approveContract => exact .inl rfl
  case approveSideEffect => exact .inr (.inl rfl)
  case acceptResult => exact .inr (.inr (.inl rfl))
  case resolveDecision => exact .inr (.inr (.inr rfl))
  all_goals cases h

theorem handler_resolution (h : resolution p operation = some r) :
    handler env auth p operation = resolveDecision env auth r := by
  rcases resolution_operation h with rfl | rfl | rfl | rfl <;>
    (obtain rfl := Option.some.inj h; rfl)

theorem resolution_decisionId (h : resolution p operation = some r) :
    r.decisionId = p.decisionId := by
  rcases resolution_operation h with rfl | rfl | rfl | rfl <;>
    (obtain rfl := Option.some.inj h; rfl)

/-- Only humans resolve decisions. -/
theorem resolution_human (h : resolution p operation = some r)
    (hguard : guardOperation auth operation = none) : auth.actorType = .human := by
  have hop : operation ∈ humanOnlyOps := by
    rcases resolution_operation h with rfl | rfl | rfl | rfl <;> decide
  rw [guardOperation, if_pos hop, requireHuman] at hguard
  by_contra hactor
  simp [hactor] at hguard

end Commands

end HibikiCore
