import HibikiCore.Application.Support

/-!
# External effects

Proposing an effect, claiming it for dispatch, and finding out afterwards what became of it.
-/

namespace HibikiCore

/-- An effect of a task under a logical key. -/
def effectByKey (db : DB) (taskId logicalKey : String) : Option (String × SideEffectRow) :=
  (db.sideEffects.select fun _ e ↦ e.taskId == taskId && e.logicalActionKey == logicalKey).head?

/-- Asks a human to approve an effect. -/
def requestEffectApproval (env : Env) (taskId effectId : String) (contractVersion : Nat)
    (digest parametersHash : Digest) : Core String := do
  let decisionId ← newId env "dec"
  add Refs.decisions decisionId
    { pendingDecision env taskId .sideEffectApproval effectId 1 digest
        Defaults.sideEffectApprovalTtl with
      contractVersion := some contractVersion
      parametersHash := some parametersHash }
  openGate env taskId decisionId .sideEffectApproval
  setTaskState env taskId .blockingGateOpened (some .sideEffectApproval)
  return decisionId

/-- The decision that a new effect waits for, unless it is preauthorized. -/
def effectDecision (env : Env) (taskId effectId : String) (contractVersion : Nat)
    (preauthorized : Bool) (action : Action) : Core (Option String) :=
  if preauthorized then return none
  else do
    let decisionId ← requestEffectApproval env taskId effectId contractVersion (.action action)
      (.parameters action.parameters)
    return some decisionId

def proposedEffect (env : Env) (taskId logicalKey : String) (contractVersion : Nat)
    (action : Action) (state : SideEffectState) (p : Payload) : SideEffectRow where
  taskId := taskId
  logicalActionKey := logicalKey
  originWorkUnitId := p.workUnitId
  requestRunId := p.runId
  actionType := action.actionType
  targetRef := action.targetRef
  parametersHash := .parameters action.parameters
  actionDigest := .action action
  parameters := action.parameters
  contractVersion := contractVersion
  authorizationRef := none
  expiresAt := none
  externalIdempotencyKey := "ext:" ++ taskId ++ ":" ++ logicalKey
  providerOperationId := none
  state := state
  dispatchAttempts := 0
  receipt := none
  lastError := none
  supportsIdempotentQuery := p.supportsIdempotentQuery.getD true
  createdAt := env.now

/-- A new effect: authorized if the contract lists its key, otherwise waiting for approval. -/
def insertEffect (env : Env) (auth : AuthContext) (p : Payload) (taskId logicalKey : String)
    (contractVersion : Nat) (preauthorized : Bool) (action : Action) : Core CommandResult := do
  let effectId ← newId env "eff"
  let state := if preauthorized then SideEffectState.authorized else .waitingApproval
  add Refs.sideEffects effectId
    (proposedEffect env taskId logicalKey contractVersion action state p)
  let digest := Digest.action action
  let decisionId ← effectDecision env taskId effectId contractVersion preauthorized action
  appendEvent env taskId "side_effect.proposed" auth.actorId
    [("effect_id", .text effectId), ("state", .text state.text)]
  return .success
    [("effect_id", .text effectId), ("state", .text state.text),
      ("decision_id", .ofOption decisionId), ("action_digest", .digest digest),
      ("task_id", .text taskId)]

def proposeSideEffect (env : Env) (auth : AuthContext) (p : Payload) : Core CommandResult := do
  let taskId ← key "task_id" p.taskId
  let _ ← getTask taskId
  let contract ← activeContract taskId
  let active ← Tx.require contract (.precondition "no_active_contract" "no active contract")
  let logicalKey ← key "logical_action_key" p.logicalActionKey
  let targetRef ← key "target_ref" p.targetRef
  let action : Action :=
    { actionType := orElse p.actionType "external.write"
      targetRef
      parameters := p.parameters.getD "\x7b\x7d" }
  let db ← get
  match effectByKey db taskId logicalKey with
  | some (effectId, existing) => do
    Tx.check (existing.actionDigest = .action action)
      (.conflict "side_effect_digest_conflict"
        "logical_action_key exists with different parameters/target")
    return .replay
      [("effect_id", .text effectId), ("state", .text existing.state.text),
        ("reused", .flag true), ("task_id", .text taskId),
        ("action_digest", .digest existing.actionDigest)]
  | none =>
    insertEffect env auth p taskId logicalKey active.1
      ((active.2.content.allowedSideEffects.getD []).contains logicalKey) action

/-- What an effect is sent with: its own immutable columns. -/
def dispatchPayload (effectId : String) (effect : SideEffectRow) : DispatchPayload where
  effectId := effectId
  externalIdempotencyKey := effect.externalIdempotencyKey
  parameters := effect.parameters
  targetRef := effect.targetRef
  actionType := effect.actionType
  supportsIdempotentQuery := effect.supportsIdempotentQuery

/-- Claims an authorized effect for dispatch; the outbox row that sends it is sent after commit. -/
def dispatchSideEffect (env : Env) (auth : AuthContext) (p : Payload) : Core CommandResult := do
  let effectId ← key "effect_id" p.effectId
  let db ← get
  let effect ← Tx.require (db.sideEffects.find? effectId)
    (.notFound "not_found" "effect not found")
  let taskId := effect.taskId
  let task ← getTask taskId
  let refusal ← sideEffectEligibility env taskId effectId [.authorized]
  Tx.withSome refusal fun e ↦ throw e
  let next ← Tx.require (sideEffectTransitions effect.state .claimDispatch)
    (.invalidTransition "SideEffect" SideEffectEvent.claimDispatch.text effect.state.text)
  Refs.sideEffects.update effectId fun e ↦
    { e with state := next, dispatchAttempts := e.dispatchAttempts + 1 }
  appendEvent env taskId "side_effect.dispatching" auth.actorId [("effect_id", .text effectId)]
  enqueue env taskId (.sideEffectDispatch (dispatchPayload effectId effect)) task.revokeEpoch
  return .success
    [("effect_id", .text effectId), ("state", .text next.text), ("task_id", .text taskId)]

def claimEffect (effect : SideEffectRow) : SideEffectRow :=
  { effect with state := .dispatching, dispatchAttempts := effect.dispatchAttempts + 1 }

/-- A dispatch that was accepted: the effect was authorized and could be sent, and it is claimed by
a new row of the outbox. -/
theorem dispatchSideEffect_ok {env : Env} {auth : AuthContext} {p : Payload}
    {result : CommandResult} {s s' : DB} (h : dispatchSideEffect env auth p s = .ok (result, s')) :
    ∃ effectId effect task k, p.effectId = some effectId ∧
      s.sideEffects.find? effectId = some effect ∧ effect.state = .authorized ∧
      Sendable env s effect.taskId task effect [.authorized] ∧ s.outbox.find? k = none ∧
      s'.sideEffects = s.sideEffects.modify effectId claimEffect ∧
      s'.outbox = s.outbox.insert k (pendingOutbox env effect.taskId
        (.sideEffectDispatch (dispatchPayload effectId effect)) task.revokeEpoch) := by
  obtain ⟨effectId, t₁, hkey, h₁⟩ := Tx.bind_ok.mp h
  obtain ⟨hid, rfl⟩ := key_ok.mp hkey
  rw [Tx.get_bind_ok] at h₁
  obtain ⟨effect, t₂, hrequire, h₂⟩ := Tx.bind_ok.mp h₁
  obtain ⟨heffect, rfl⟩ := Tx.require_ok.mp hrequire
  obtain ⟨task, t₃, hget, h₃⟩ := Tx.bind_ok.mp h₂
  obtain ⟨htask, rfl⟩ := getTask_ok.mp hget
  obtain ⟨refusal, t₄, heligible, h₄⟩ := Tx.bind_ok.mp h₃
  obtain rfl : t₃ = t₄ := Respects.rel (R := Eq) heligible
  obtain ⟨_, t₅, hrefusal, h₅⟩ := Tx.bind_ok.mp h₄
  have hnone : refusal = none ∧ t₅ = t₃ := by
    rw [Tx.withSome_ok] at hrefusal
    simpa using hrefusal
  obtain ⟨rfl, rfl⟩ := hnone
  obtain ⟨task', hsendable⟩ := sideEffectEligibility_none heffect heligible
  obtain rfl := Option.some.inj (htask.symm.trans hsendable.row)
  have hstate : effect.state = .authorized := List.mem_singleton.mp hsendable.state
  obtain ⟨next, t₆, hnext, h₆⟩ := Tx.bind_ok.mp h₅
  obtain ⟨htransition, rfl⟩ := Tx.require_ok.mp hnext
  obtain rfl : .dispatching = next := by simpa [hstate, sideEffectTransitions] using htransition
  obtain ⟨_, t₇, hupdate, h₇⟩ := Tx.bind_ok.mp h₆
  obtain rfl := Ref.update_ok.mp hupdate
  obtain ⟨_, t₈, hevent, h₈⟩ := Tx.bind_ok.mp h₇
  obtain ⟨_, t₉, henqueue, h₉⟩ := Tx.bind_ok.mp h₈
  obtain ⟨-, rfl⟩ := Tx.pure_ok.mp h₉
  obtain ⟨k, t₁₀, hid', hadd⟩ := Tx.bind_ok.mp henqueue
  have hwrites : Writes [.events] _ t₁₀ := Preord.trans (Respects.rel hevent) (Respects.rel hid')
  have heffects := (hwrites .sideEffects).2 (by decide)
  have houtbox := (hwrites .outbox).2 (by decide)
  obtain ⟨hk, rfl⟩ := Ref.insert_ok.mp hadd
  exact ⟨effectId, effect, task, k, hid, heffect, hstate, hsendable, houtbox ▸ hk, heffects.symm,
    congrArg (Table.insert k _) houtbox.symm⟩

/-- Moves an effect, leaving the rest of it. -/
def setEffectState (effectId : String) (state : SideEffectState) : Core Unit :=
  Refs.sideEffects.update effectId fun e ↦ { e with state }

/-- An effect whose outcome cannot be asked for stays in doubt, and the task waits for a human. -/
def reconcileWithoutQuery (env : Env) (effectId : String) (effect : SideEffectRow) :
    Core CommandResult := do
  Tx.when (effect.state = .dispatching) (setEffectState effectId .unknown)
  let task ← getTask effect.taskId
  Tx.when (task.state ≠ .waitingHuman ∧ task.state ≠ .cancelling ∧ task.state ≠ .aborted)
    (setTaskState env effect.taskId .blockingGateOpened (some .executionUncertain))
  return .success
    [("effect_id", .text effectId), ("state", .text SideEffectState.unknown.text),
      ("auto_retry", .flag false)]

/-- The external system does not know: the effect is in doubt, and it is not sent again. -/
def effectUnknown (effectId : String) : Core CommandResult := do
  setEffectState effectId .unknown
  return .success
    [("effect_id", .text effectId), ("state", .text SideEffectState.unknown.text),
      ("auto_retry", .flag false)]

/-- The answer of the external system decides what became of an effect. -/
def reconcileWithQuery (effectId : String) (answer : Option Receipt) : Core CommandResult :=
  match answer with
  | none => effectUnknown effectId
  | some receipt =>
    match receipt.status with
    | .succeeded => do
      Refs.sideEffects.update effectId fun e ↦
        { e with
          state := .succeeded
          receipt := some receipt
          providerOperationId := receipt.providerOperationId }
      return .success
        [("effect_id", .text effectId), ("state", .text SideEffectState.succeeded.text),
          ("reconciled", .flag true)]
    | .failed => do
      setEffectState effectId .failedConfirmed
      return .success
        [("effect_id", .text effectId), ("state", .text SideEffectState.failedConfirmed.text)]
    | .unknown => effectUnknown effectId

def reconcileSideEffect (env : Env) (_auth : AuthContext) (p : Payload) : Core CommandResult := do
  let effectId ← key "effect_id" p.effectId
  let db ← get
  let effect ← Tx.require (db.sideEffects.find? effectId)
    (.notFound "not_found" "effect not found")
  if effect.state ≠ .dispatching ∧ effect.state ≠ .unknown then
    return .success [("effect_id", .text effectId), ("state", .text effect.state.text)]
  else if effect.supportsIdempotentQuery = false then reconcileWithoutQuery env effectId effect
  else reconcileWithQuery effectId (env.query effectId effect.externalIdempotencyKey)

end HibikiCore
