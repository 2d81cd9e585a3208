import HibikiCore.Application.Totality
import HibikiCore.System.Transactions

/-!
# Answers from the records

A command is recorded twice: in the inbox under its actor and message, and under its principal,
task, operation and key. A later command is answered from such a record if it has the record's
fingerprint. The fingerprint is the operation next to the payload, and a key `operation` of the
payload takes the operation's place in it; so it tells two requests apart if both payloads lack
this key, or if both have it and the operations are the same, and not otherwise.
-/

namespace HibikiCore

set_option synthInstance.maxSize 100000000
set_option synthInstance.maxHeartbeats 400000

variable {env : Env} {r first : Request} {result : CommandResult} {s s' t : DB}
  {operation : Operation} {taskId messageId ikey : String} {w w' : World} {l : Label}

/-! ## Fingerprints -/

/-- Two requests name the same operation and carry the same payload. -/
def Request.Same (first r : Request) : Prop :=
  first.operation.text = r.operation.text ∧ first.payload = r.payload

/-- Neither payload has a key `operation`, or both have one and the operations are the same. -/
def Request.Separated (first r : Request) : Prop :=
  (first.payload.operation = none ∧ r.payload.operation = none) ∨
    first.payload.operation.isSome = true ∧ r.payload.operation.isSome = true ∧
      first.operation.text = r.operation.text

theorem Payload.eq_iff {p q : Payload} :
    p = q ↔ p.operation = q.operation ∧
      ({ p with operation := none } : Payload) = { q with operation := none } := by
  constructor
  · rintro rfl
    exact ⟨rfl, rfl⟩
  · rintro ⟨hoperation, hrest⟩
    have hp : p = { ({ p with operation := none } : Payload) with operation := p.operation } := rfl
    rw [hp, hrest, hoperation]

/-- Requests of one fingerprint are the same exactly if the fingerprint separates them. -/
theorem Request.same_iff_separated
    (h : payloadHash first.operation first.payload = payloadHash r.operation r.payload) :
    first.Same r ↔ first.Separated r := by
  obtain ⟨hoperation, hpayload⟩ := Fingerprint.mk.injEq .. ▸ h
  rw [Same, Payload.eq_iff, Separated]
  cases hfirst : first.payload.operation with
  | none =>
    cases hr : r.payload.operation with
    | none =>
      rw [hfirst, hr] at hoperation
      simpa [hpayload] using hoperation
    | some v => simp
  | some u =>
    cases hr : r.payload.operation with
    | none => simp
    | some v =>
      rw [hfirst, hr] at hoperation
      have huv : u = v := hoperation
      simp [huv, hpayload]

/-! ## Whose a record is -/

/-- The message under which a request is looked for in the inbox may be this one. -/
def Request.Comes (r : Request) (messageId : String) : Prop :=
  ∀ m, truthy r.messageId = some m → m = messageId

/-- The key under which a request is recorded may be this one. -/
def Request.Keyed (r : Request) (ikey : String) : Prop :=
  ∀ k, truthy r.idempotencyKey = some k → k = ikey

/-- A row of the inbox was stored for a request. -/
structure MessageOf (r : Request) (k : String × String) (row : InboxRow) : Prop where
  actor : k.1 = r.auth.actorId
  message : r.Comes k.2
  principal : row.principalId = r.auth.principalId
  operation : row.operationType = r.operation
  hash : row.payloadHash = payloadHash r.operation r.payload

/-- A record of a request that succeeded was stored for a request. -/
structure RecordOf (r : Request) (k : String × String × Operation × String)
    (row : IdempotencyRow) : Prop where
  principal : k.1 = r.auth.principalId
  operation : k.2.2.1 = r.operation
  key : r.Keyed k.2.2.2
  hash : row.payloadHash = payloadHash r.operation r.payload

/-- What is new in the records was stored for a request; a record may have got a task. -/
structure Recorded (r : Request) (s s' : DB) : Prop where
  inbox : ∀ k row, s'.inbox.find? k = some row → s.inbox.find? k = some row ∨ MessageOf r k row
  keys : ∀ k row, s'.idempotencyKeys.find? k = some row →
    (∃ taskId, s.idempotencyKeys.find? (k.1, taskId, k.2.2) = some row) ∨ RecordOf r k row

/-- All tables but the records of requests. -/
abbrev besideRequests : List Relation :=
  [.tasks, .contracts, .activeContractMarkers, .explanations, .decisions, .gates, .plans,
    .activePlanMarkers, .workUnitSpecs, .workUnitExecutions, .plannerSessions, .agentRuns,
    .activeExecuteRunMarkers, .activePlanRunMarkers, .workspaces, .contextManifests, .sideEffects,
    .events, .outbox, .resultSnapshots, .artifacts, .acceptanceEvidence, .agentProfiles,
    .runInputs, .toolInvocations, .contextAppends, .taskMessages]

instance requests_handler {auth : AuthContext} {p : Payload} :
    Respects (Writes besideRequests) (handler env auth p operation) := by
  cases operation <;> (dsimp only [handler]; infer_instance)

namespace Recorded

instance : Preord (Recorded r) where
  refl _ := ⟨fun _ _ h ↦ .inl h, fun k _ h ↦ .inl ⟨k.2.1, h⟩⟩
  trans h h' := by
    refine ⟨fun k row hrow ↦ ?_, fun k row hrow ↦ ?_⟩
    · rcases h'.inbox k row hrow with hrow | hnew
      · exact h.inbox k row hrow
      · exact .inr hnew
    · rcases h'.keys k row hrow with ⟨taskId, hrow⟩ | hnew
      · rcases h.keys _ row hrow with hold | hnew
        · exact .inl hold
        · exact .inr ⟨hnew.principal, hnew.operation, hnew.key, hnew.hash⟩
      · exact .inr hnew

theorem of_tables (hinbox : s'.inbox = s.inbox) (hkeys : s'.idempotencyKeys = s.idempotencyKeys) :
    Recorded r s s' :=
  ⟨fun _ _ h ↦ .inl (hinbox ▸ h), fun k _ h ↦ .inl ⟨k.2.1, hkeys ▸ h⟩⟩

theorem of_writes (h : Writes besideRequests s s') : Recorded r s s' :=
  of_tables ((h .inbox).2 (by decide)).symm ((h .idempotencyKeys).2 (by decide)).symm

/-- What the service stores in the inbox for a request. -/
theorem storeInbox (hcomes : r.Comes messageId)
    (h : HibikiCore.storeInbox env r.auth taskId r.operation messageId
      (payloadHash r.operation r.payload) result s = .ok ((), s')) : Recorded r s s' := by
  rw [HibikiCore.storeInbox, Tx.get_bind_ok, Tx.when_ok] at h
  rcases h with ⟨-, h⟩ | ⟨-, rfl⟩
  · obtain ⟨_, t, hcheck, hadd⟩ := Tx.bind_ok.mp h
    obtain ⟨-, rfl⟩ := Tx.check_ok.mp hcheck
    obtain ⟨hfresh, rfl⟩ := Ref.insert_ok.mp hadd
    refine ⟨fun k row hrow ↦ ?_, fun k row hrow ↦ .inl ⟨k.2.1, hrow⟩⟩
    have hrow' : (t.inbox.insert (r.auth.actorId, messageId) _).find? k = some row := hrow
    rw [Table.find?_insert hfresh] at hrow'
    split at hrow'
    · next hk =>
      obtain rfl := Option.some.inj hrow'
      subst hk
      exact .inr ⟨rfl, hcomes, rfl, rfl, rfl⟩
    · exact .inl hrow'
  · exact Preord.refl _

/-- What the service records of a request that succeeded. -/
theorem storeIdempotency (hkeyed : r.Keyed ikey)
    (h : HibikiCore.storeIdempotency env r.auth taskId r.operation ikey
      (payloadHash r.operation r.payload) result s = .ok ((), s')) : Recorded r s s' := by
  rw [HibikiCore.storeIdempotency, Tx.when_ok] at h
  rcases h with ⟨-, hadd⟩ | ⟨-, rfl⟩
  · obtain ⟨hfresh, rfl⟩ := Ref.insert_ok.mp hadd
    refine ⟨fun k row hrow ↦ .inl hrow, fun k row hrow ↦ ?_⟩
    have hrow' : (s.idempotencyKeys.insert
      (r.auth.principalId, taskId, r.operation, ikey) _).find? k = some row := hrow
    rw [Table.find?_insert hfresh] at hrow'
    split at hrow'
    · next hk =>
      obtain rfl := Option.some.inj hrow'
      subst hk
      exact .inr ⟨rfl, rfl, hkeyed, rfl⟩
    · exact .inl ⟨k.2.1, hrow'⟩
  · exact Preord.refl _

/-- A record that has no task yet is moved to its task. -/
theorem adoptLegacy {record : Option IdempotencyRow}
    (h : HibikiCore.adoptLegacy r.auth taskId operation ikey s = .ok (record, s')) :
    (∀ row, record = some row →
      s.idempotencyKeys.find? (r.auth.principalId, "", operation, ikey) = some row) ∧
      Recorded r s s' := by
  rw [HibikiCore.adoptLegacy, Tx.get_bind_ok] at h
  cases hfind : s.idempotencyKeys.find? (r.auth.principalId, "", operation, ikey) with
  | none =>
    rw [hfind] at h
    obtain ⟨rfl, rfl⟩ := Tx.pure_ok.mp h
    exact ⟨fun _ hrow ↦ (nomatch hrow), Preord.refl _⟩
  | some row =>
    rw [hfind] at h
    obtain ⟨owner, t, howner, hadopt⟩ := Tx.bind_ok.mp h
    obtain rfl := commandTaskId_reads howner
    rcases Tx.ite_ok.mp hadopt with ⟨-, hmove⟩ | ⟨-, hnone⟩
    · obtain ⟨_, t₁, hdelete, h₁⟩ := Tx.bind_ok.mp hmove
      obtain rfl := Ref.delete_ok.mp hdelete
      obtain ⟨_, t₂, hadd, h₂⟩ := Tx.bind_ok.mp h₁
      obtain ⟨hfresh, rfl⟩ := Ref.insert_ok.mp hadd
      obtain ⟨rfl, rfl⟩ := Tx.pure_ok.mp h₂
      refine ⟨fun _ hrow ↦ hrow, fun k _ hrow ↦ .inl hrow, fun k row' hrow ↦ .inl ?_⟩
      have hrow' : ((t.idempotencyKeys.erase (r.auth.principalId, "", operation, ikey)).insert
        (r.auth.principalId, taskId, operation, ikey) row).find? k = some row' := hrow
      rw [Table.find?_insert hfresh] at hrow'
      split at hrow'
      · next hk =>
        obtain rfl := Option.some.inj hrow'
        subst hk
        exact ⟨"", hfind⟩
      · rw [Table.find?_erase] at hrow'
        split at hrow'
        · cases hrow'
        · exact ⟨k.2.1, hrow'⟩
    · obtain ⟨rfl, rfl⟩ := Tx.pure_ok.mp hnone
      exact ⟨fun _ hrow ↦ (nomatch hrow), Preord.refl _⟩

/-- The record that is looked up is one of the principal, the operation and the key. -/
theorem idempotencyRecord {record : Option IdempotencyRow}
    (h : HibikiCore.idempotencyRecord r.auth taskId operation ikey s = .ok (record, s')) :
    (∀ row, record = some row → ∃ owner,
      s.idempotencyKeys.find? (r.auth.principalId, owner, operation, ikey) = some row) ∧
      Recorded r s s' := by
  rw [HibikiCore.idempotencyRecord, Tx.get_bind_ok] at h
  cases hfind : s.idempotencyKeys.find? (r.auth.principalId, taskId, operation, ikey) with
  | some row =>
    rw [hfind] at h
    obtain ⟨rfl, rfl⟩ := Tx.pure_ok.mp h
    exact ⟨fun _ hrow ↦ ⟨taskId, Option.some.inj hrow ▸ hfind⟩, Preord.refl _⟩
  | none =>
    rw [hfind] at h
    rcases Tx.ite_ok.mp h with ⟨-, hlegacy⟩ | ⟨-, hnone⟩
    · obtain ⟨hrow, hrecorded⟩ := adoptLegacy hlegacy
      exact ⟨fun row heq ↦ ⟨"", hrow row heq⟩, hrecorded⟩
    · obtain ⟨rfl, rfl⟩ := Tx.pure_ok.mp hnone
      exact ⟨fun _ hrow ↦ (nomatch hrow), Preord.refl _⟩

end Recorded

/-! ## How a command is answered -/

/-- A row of one of the two tables of records. -/
inductive RequestRecord
  | message (k : String × String) (row : InboxRow)
  | key (k : String × String × Operation × String) (row : IdempotencyRow)

namespace RequestRecord

def Stored (s : DB) : RequestRecord → Prop
  | message k row => s.inbox.find? k = some row
  | key k row => s.idempotencyKeys.find? k = some row

/-- The record was made for a request. -/
def MadeFor (r : Request) : RequestRecord → Prop
  | message k row => MessageOf r k row
  | key k row => RecordOf r k row

/-- The record is one that is looked up for a request. -/
def Named (r : Request) : RequestRecord → Prop
  | message k _ => k.1 = r.auth.actorId ∧ r.Comes k.2
  | key k _ => k.1 = r.auth.principalId ∧ k.2.2.1 = r.operation ∧ r.Keyed k.2.2.2

def hash : RequestRecord → Fingerprint
  | message _ row => row.payloadHash
  | key _ row => row.payloadHash

/-- The stored result, as it is returned again. -/
def answer : RequestRecord → CommandResult
  | message _ row => { row.result with replayed := true }
  | key _ row => .replay row.result

theorem MadeFor.hash {x : RequestRecord} (h : x.MadeFor r) :
    x.hash = payloadHash r.operation r.payload := by
  cases x with
  | message k row => exact MessageOf.hash h
  | key k row => exact RecordOf.hash h

end RequestRecord

/-- A request is answered with the stored result of a record. -/
structure AnsweredFrom (s : DB) (r : Request) (result : CommandResult) (x : RequestRecord) :
    Prop where
  stored : x.Stored s
  named : x.Named r
  hash : x.hash = payloadHash r.operation r.payload
  result : result = x.answer

theorem checkInbox_found {found : Option CommandResult} {ph : Fingerprint} {auth : AuthContext}
    (h : checkInbox auth messageId ph s = .ok (found, s')) :
    s' = s ∧ ∀ row, s.inbox.find? (auth.actorId, messageId) = some row →
      row.payloadHash = ph ∧ found = some { row.result with replayed := true } := by
  rw [checkInbox, Tx.get_bind_ok] at h
  cases hfind : s.inbox.find? (auth.actorId, messageId) with
  | none =>
    rw [hfind] at h
    exact ⟨(Tx.pure_ok.mp h).2, fun _ hrow ↦ (nomatch hrow)⟩
  | some row =>
    rw [hfind] at h
    obtain ⟨_, t, hcheck, hpure⟩ := Tx.bind_ok.mp h
    obtain ⟨hhash, rfl⟩ := Tx.check_ok.mp hcheck
    obtain ⟨rfl, rfl⟩ := Tx.pure_ok.mp hpure
    exact ⟨rfl, fun _ hrow ↦ Option.some.inj hrow ▸ ⟨hhash, rfl⟩⟩

/-- What a request did: its records were stored for it, and it was answered from a record, or its
handler ran. -/
structure Executed (env : Env) (r : Request) (s s' : DB) (result : CommandResult) : Prop where
  recorded : Recorded r s s'
  /-- A message that the inbox has under another fingerprint is refused. -/
  message : ∀ m row, truthy r.messageId = some m → s.inbox.find? (r.auth.actorId, m) = some row →
    row.payloadHash = payloadHash r.operation r.payload
  /-- A key that is recorded under another fingerprint is refused. -/
  key : ∀ taskId k row, commandTaskId r.operation r.payload.target s = .ok (taskId, s) →
    truthy r.idempotencyKey = some k → s.idempotencyKeys.find? (r.auth.principalId,
      (if r.operation = .createTask then "" else taskId), r.operation, k) = some row →
    row.payloadHash = payloadHash r.operation r.payload ∨
      ∃ k' row', AnsweredFrom s r result (.message k' row')
  answered : (∃ x, AnsweredFrom s r result x) ∨ ∃ t t', Ran env r s t t' result

/-- The task that rows agree on depends on the rows only. -/
theorem fold_agreeOnTask {owners : List String} {supplied : String}
    (h : Tx.fold agreeOnTask supplied owners s = .ok (taskId, s)) (t : DB) :
    Tx.fold agreeOnTask supplied owners t = .ok (taskId, t) := by
  induction owners generalizing supplied with
  | nil =>
    obtain ⟨rfl, -⟩ := Tx.pure_ok.mp h
    rfl
  | cons owner owners ih =>
    obtain ⟨a, s₁, hagree, hrest⟩ := Tx.bind_ok.mp h
    obtain ⟨_, s₂, hcheck, hpure⟩ := Tx.bind_ok.mp hagree
    obtain ⟨hsame, rfl⟩ := Tx.check_ok.mp hcheck
    obtain ⟨rfl, rfl⟩ := Tx.pure_ok.mp hpure
    refine Tx.bind_ok.mpr ⟨a, t, Tx.bind_ok.mpr ⟨(), t, Tx.check_ok.mpr ⟨hsame, rfl⟩, rfl⟩, ?_⟩
    exact ih hrest

theorem commandTaskId_drawn {target : Target} (n : Nat)
    (h : commandTaskId operation target s = .ok (taskId, s)) :
    commandTaskId operation target { s with drawn := n } =
      .ok (taskId, { s with drawn := n }) := by
  rw [commandTaskId] at h ⊢
  by_cases hcreate : operation = .createTask
  · rw [if_pos hcreate] at h ⊢
    obtain ⟨rfl, -⟩ := Tx.pure_ok.mp h
    rfl
  · rw [if_neg hcreate] at h ⊢
    exact fold_agreeOnTask (Tx.get_bind_ok.mp h) _

/-- A record under the task of the command is the one that is found. -/
theorem idempotencyRecord_present {auth : AuthContext} {record : Option IdempotencyRow}
    (h : idempotencyRecord auth taskId operation ikey s = .ok (record, s')) (row : IdempotencyRow)
    (hrow : s.idempotencyKeys.find? (auth.principalId, taskId, operation, ikey) = some row) :
    record = some row := by
  rw [idempotencyRecord, Tx.get_bind_ok, hrow] at h
  exact (Tx.pure_ok.mp h).1

theorem answer_recorded (hcomes : r.Comes messageId) (hkeyed : r.Keyed ikey)
    (h : answer env r taskId messageId ikey s = .ok (result, s')) :
    Recorded r s s' ∧ ∃ t', handler env r.auth r.payload r.operation s = .ok (result, t') := by
  rw [answer] at h
  obtain ⟨a, t₁, hrun, h₁⟩ := Tx.bind_ok.mp h
  obtain ⟨_, t₂, hkey, h₂⟩ := Tx.bind_ok.mp h₁
  obtain ⟨_, t₃, hmessage, h₃⟩ := Tx.bind_ok.mp h₂
  obtain ⟨rfl, rfl⟩ := Tx.pure_ok.mp h₃
  have hservice : Recorded r s t₁ := .of_writes (Respects.rel hrun)
  exact ⟨Preord.trans hservice (Preord.trans (.storeIdempotency hkeyed hkey)
    (.storeInbox hcomes hmessage)), t₁, hrun⟩

/-- A message that was not answered before is answered from a record of its key, if there is one. -/
theorem answerMessage_recorded (hcomes : r.Comes messageId) (hkeyed : r.Keyed ikey)
    (h : answerMessage env r taskId messageId ikey s = .ok (result, s')) :
    Recorded r s s' ∧ (∀ row, s.idempotencyKeys.find? (r.auth.principalId,
        (if r.operation = .createTask then "" else taskId), r.operation, ikey) = some row →
      row.payloadHash = payloadHash r.operation r.payload) ∧
    ((∃ x, AnsweredFrom s r result x) ∨
      ∃ t', handler env r.auth r.payload r.operation s = .ok (result, t')) := by
  rw [answerMessage, Tx.bind_ok] at h
  obtain ⟨replay, t, hreplay, hanswer⟩ := h
  obtain ⟨record, t₁, hrecord, hcheck⟩ := Tx.bind_ok.mp hreplay
  obtain ⟨hfound, hmoved⟩ := Recorded.idempotencyRecord hrecord
  have hpresent := idempotencyRecord_present hrecord
  cases record with
  | none =>
    obtain ⟨rfl, rfl⟩ := Tx.pure_ok.mp hcheck
    obtain ⟨hrecorded, hrun⟩ := answer_recorded hcomes hkeyed hanswer
    obtain rfl := idempotencyRecord_none hrecord
    exact ⟨hrecorded, fun row hrow ↦ (by cases hpresent row hrow), .inr hrun⟩
  | some row =>
    obtain ⟨_, t₂, hsame, hpure⟩ := Tx.bind_ok.mp hcheck
    obtain ⟨hhash, rfl⟩ := Tx.check_ok.mp hsame
    obtain ⟨rfl, rfl⟩ := Tx.pure_ok.mp hpure
    obtain ⟨_, t₃, hstore, hresult⟩ := Tx.bind_ok.mp hanswer
    obtain ⟨rfl, rfl⟩ := Tx.pure_ok.mp hresult
    obtain ⟨owner, hrow⟩ := hfound row rfl
    refine ⟨Preord.trans hmoved (.storeInbox hcomes hstore), fun row' hrow' ↦ ?_, .inl ?_⟩
    · obtain rfl := Option.some.inj (hpresent row' hrow')
      exact hhash
    exact ⟨.key _ row, hrow, ⟨rfl, rfl, hkeyed⟩, hhash, rfl⟩

theorem requestMessage_ok {messageId : String} (h : requestMessage env r s = .ok (messageId, t)) :
    r.Comes messageId ∧ ∃ n, t = { s with drawn := n } := by
  rw [requestMessage] at h
  cases hid : truthy r.messageId with
  | some id =>
    rw [hid] at h
    obtain ⟨rfl, rfl⟩ := Tx.pure_ok.mp h
    exact ⟨fun m hm ↦ (Option.some.inj (hid.symm.trans hm)).symm, t.drawn, rfl⟩
  | none =>
    rw [hid] at h
    exact ⟨fun m hm ↦ (nomatch hid.symm.trans hm), _, (newId_ok.mp h).2⟩

theorem execute_recorded (h : execute env r s = .ok (result, s')) :
    Executed env r s s' result := by
  rw [execute, Tx.bind_ok] at h
  obtain ⟨_, t₀, hguard, hrest₀⟩ := h
  have hnone : guardOperation r.auth r.operation = none ∧ t₀ = s := by
    rw [Tx.withSome_ok] at hguard
    simpa using hguard
  obtain ⟨hnone, rfl⟩ := hnone
  obtain ⟨messageId, t, hmessage, hrest⟩ := Tx.bind_ok.mp hrest₀
  obtain ⟨hcomes, n, rfl⟩ := requestMessage_ok hmessage
  have hkeyed : r.Keyed ((truthy r.idempotencyKey).getD messageId) := fun k hk ↦ by
    rw [hk]
    rfl
  rw [executeInTx, Tx.bind_ok] at hrest
  obtain ⟨taskId, t₁, htask, hrest₁⟩ := hrest
  obtain rfl := commandTaskId_reads htask
  obtain ⟨_, t₂, hauth, hrest₂⟩ := Tx.bind_ok.mp hrest₁
  obtain rfl := authorizeRunCommand_reads hauth
  obtain ⟨hit, t₃, hhit, hrest₃⟩ := Tx.bind_ok.mp hrest₂
  obtain ⟨rfl, hfound⟩ := checkInbox_found hhit
  have hsame : Recorded r t₀ { t₀ with drawn := n } := .of_tables rfl rfl
  have hclash (m : String) (row : InboxRow) (hm : truthy r.messageId = some m)
      (hrow : t₀.inbox.find? (r.auth.actorId, m) = some row) :
      row.payloadHash = payloadHash r.operation r.payload := by
    obtain rfl := hcomes m hm
    exact (hfound row hrow).1
  cases hit with
  | some stored =>
    obtain ⟨rfl, rfl⟩ := Tx.pure_ok.mp hrest₃
    cases hrow : t₀.inbox.find? (r.auth.actorId, messageId) with
    | none => exact absurd hhit (by simp [checkInbox, hrow])
    | some row =>
      obtain ⟨hhash, hresult⟩ := hfound row hrow
      have hx : AnsweredFrom t₀ r result (.message (r.auth.actorId, messageId) row) :=
        ⟨hrow, ⟨rfl, hcomes⟩, hhash, Option.some.inj hresult⟩
      exact ⟨hsame, hclash, fun _ _ _ _ _ _ ↦ .inr ⟨_, row, hx⟩, .inl ⟨_, hx⟩⟩
  | none =>
    obtain ⟨hrecorded, hkey, hanswer⟩ := answerMessage_recorded hcomes hkeyed hrest₃
    refine ⟨Preord.trans hsame hrecorded, hclash, fun taskId' k row htask' hk hrow ↦ .inl ?_, ?_⟩
    · have heq := htask.symm.trans (commandTaskId_drawn n htask')
      obtain rfl : taskId = taskId' := congrArg Prod.fst (Except.ok.inj heq)
      exact hkey row (by rw [hk]; exact hrow)
    rcases hanswer with ⟨x, hx⟩ | ⟨t', hrun⟩
    · refine .inl ⟨x, ?_, hx.named, hx.hash, hx.result⟩
      cases x <;> exact hx.stored
    · exact .inr ⟨_, t', hnone, ⟨n, rfl⟩, ⟨taskId, htask⟩, hauth, hrun⟩

/-! ## Requests that are new -/

/-- The message under which a request is answered: its own, or one that is drawn. -/
def Request.message (r : Request) (env : Env) (s : DB) : String :=
  (truthy r.messageId).getD ("msg" ++ "_" ++ env.uuid s.drawn)

/-- The state in which the request is answered. -/
def Request.start (r : Request) (s : DB) : DB :=
  if truthy r.messageId = none then { s with drawn := s.drawn + 1 } else s

theorem Request.start_eq (r : Request) (s : DB) : ∃ n, r.start s = { s with drawn := n } := by
  rw [start]
  split
  · exact ⟨_, rfl⟩
  · exact ⟨s.drawn, rfl⟩

theorem requestMessage_eq (env : Env) (r : Request) (s : DB) :
    requestMessage env r s = .ok (r.message env s, r.start s) := by
  rw [requestMessage, Request.message, Request.start]
  cases truthy r.messageId <;> rfl

/-- The rows that a request names agree on a task. -/
theorem execute_task (h : execute env r s = .ok (result, s')) :
    ∃ taskId, commandTaskId r.operation r.payload.target s = .ok (taskId, s) := by
  obtain ⟨_, t, hguard, h₁⟩ := Tx.bind_ok.mp h
  obtain rfl : s = t := Respects.rel (R := Eq) hguard
  rw [Tx.bind_of_ok (requestMessage_eq env r s)] at h₁
  obtain ⟨taskId, t₁, htask, -⟩ := Tx.bind_ok.mp h₁
  obtain ⟨n, hn⟩ := r.start_eq s
  obtain rfl := commandTaskId_reads htask
  rw [hn] at htask
  exact ⟨taskId, commandTaskId_drawn (s := { s with drawn := n }) s.drawn htask⟩

/-- A request of a task is new: its message and its key are not recorded. -/
structure Unanswered (env : Env) (r : Request) (taskId : String) (s : DB) : Prop where
  message : s.inbox.find? (r.auth.actorId, r.message env s) = none
  free : inboxTaken s r.auth taskId r.operation (r.message env s) = false
  key : ∀ owner ∈ [taskId, ""], s.idempotencyKeys.find? (r.auth.principalId, owner, r.operation,
    (truthy r.idempotencyKey).getD (r.message env s)) = none

instance : Decidable (Unanswered env r taskId s) :=
  decidable_of_iff (s.inbox.find? (r.auth.actorId, r.message env s) = none ∧
      inboxTaken s r.auth taskId r.operation (r.message env s) = false ∧
      ∀ owner ∈ [taskId, ""], s.idempotencyKeys.find? (r.auth.principalId, owner, r.operation,
        (truthy r.idempotencyKey).getD (r.message env s)) = none)
    ⟨fun h ↦ ⟨h.1, h.2.1, h.2.2⟩, fun h ↦ ⟨h.message, h.free, h.key⟩⟩

namespace Unanswered

theorem checkIdempotency_eq (hkey : ∀ owner ∈ [taskId, ""],
      s.idempotencyKeys.find? (r.auth.principalId, owner, r.operation, ikey) = none) :
    checkIdempotency r.auth taskId r.operation ikey (payloadHash r.operation r.payload) s =
      .ok (none, s) := by
  have hlegacy : adoptLegacy r.auth taskId r.operation ikey s = .ok (none, s) := by
    rw [adoptLegacy, Tx.bind_of_ok (Tx.get_ok.mpr ⟨rfl, rfl⟩), hkey "" (by simp)]
    rfl
  have hrecord : idempotencyRecord r.auth taskId r.operation ikey s = .ok (none, s) := by
    rw [idempotencyRecord, Tx.bind_of_ok (Tx.get_ok.mpr ⟨rfl, rfl⟩), hkey taskId (by simp)]
    dsimp only
    split
    · exact hlegacy
    · rfl
  rw [checkIdempotency, Tx.bind_of_ok hrecord]
  rfl

/-- A request that is new and that a run does not make about itself goes to its handler. -/
theorem execute_eq (h : Unanswered env r taskId s) (hguard : guardOperation r.auth r.operation = none)
    (hrun : r.operation ∉ runOperations) (hcreate : r.operation ≠ .createTask)
    (htask : commandTaskId r.operation r.payload.target s = .ok (taskId, s)) :
    execute env r s = answer env r taskId (r.message env s)
      ((truthy r.idempotencyKey).getD (r.message env s)) (r.start s) := by
  obtain ⟨n, hn⟩ := r.start_eq s
  have htask' : commandTaskId r.operation r.payload.target (r.start s) = .ok (taskId, r.start s) := by
    rw [hn]
    exact commandTaskId_drawn n htask
  have hauth : authorizeRunCommand r.operation r.auth r.payload (r.start s) = .ok ((), r.start s) :=
    Tx.when_ok.mpr (.inr ⟨hrun, rfl⟩)
  have hinbox : checkInbox r.auth (r.message env s) (payloadHash r.operation r.payload)
      (r.start s) = .ok (none, r.start s) := by
    have hnone : (r.start s).inbox.find? (r.auth.actorId, r.message env s) = none := by
      rw [hn]
      exact h.message
    rw [checkInbox, Tx.bind_of_ok (Tx.get_ok.mpr ⟨rfl, rfl⟩), hnone]
    rfl
  have hkey := checkIdempotency_eq (s := r.start s) (by rw [hn]; exact h.key)
  have hpasses : (Tx.withSome (guardOperation r.auth r.operation) fun e ↦ throw e : Core Unit) s =
      .ok ((), s) := by
    rw [hguard]
    rfl
  rw [execute, Tx.bind_of_ok hpasses, Tx.bind_of_ok (requestMessage_eq env r s), executeInTx,
    Tx.bind_of_ok htask', Tx.bind_of_ok hauth, Tx.bind_of_ok hinbox]
  dsimp only
  rw [answerMessage, if_neg hcreate, Tx.bind_of_ok hkey]

/-- What its handler answers is recorded. -/
theorem answer_ok (h : Unanswered env r taskId s) (hcreate : r.operation ≠ .createTask)
    (hnamed : taskId ≠ "")
    (hhandler : handler env r.auth r.payload r.operation (r.start s) = .ok (result, t)) :
    ∃ s', answer env r taskId (r.message env s)
        ((truthy r.idempotencyKey).getD (r.message env s)) (r.start s) = .ok (result, s') ∧
      Writes requestRecords t s' := by
  obtain ⟨n, hn⟩ := r.start_eq s
  have hbeside : Writes besideRequests (r.start s) t := Respects.rel hhandler
  have hinbox : t.inbox = s.inbox := by
    rw [← (hbeside .inbox).2 (by decide), hn]
  have hkeys : t.idempotencyKeys = s.idempotencyKeys := by
    rw [← (hbeside .idempotencyKeys).2 (by decide), hn]
  have hstore : storeTaskId r.operation taskId result = taskId := by
    rw [storeTaskId, if_neg hcreate, if_pos hnamed]
  obtain ⟨_, u, hstored, -⟩ : (storeIdempotency env r.auth taskId r.operation
      ((truthy r.idempotencyKey).getD (r.message env s)) (payloadHash r.operation r.payload)
      result).Yields t fun _ ↦ True := by
    refine .when fun _ ↦ add_yields ?_
    change t.idempotencyKeys.find? _ = none
    rw [hkeys]
    exact h.key taskId List.mem_cons_self
  have hwrites : Writes [.idempotencyKeys] t u := Respects.rel hstored
  have hinbox' : u.inbox = s.inbox := by
    rw [← (hwrites .inbox).2 (by decide), hinbox]
  obtain ⟨_, s', hmessage, -⟩ : (storeInbox env r.auth taskId r.operation (r.message env s)
      (payloadHash r.operation r.payload) result).Yields u fun _ ↦ True := by
    refine .bind (Tx.get_ok.mpr ⟨rfl, rfl⟩) (.when fun hnone ↦ ?_)
    refine .bind (a := ()) (Tx.check_ok.mpr ⟨.inl ?_, rfl⟩) (add_yields hnone)
    rw [inboxTaken, hinbox']
    exact h.free
  refine ⟨s', ?_, Preord.trans (hwrites.mono (by decide)) ?_⟩
  · rw [answer, Tx.bind_of_ok hhandler, hstore, Tx.bind_of_ok hstored, Tx.bind_of_ok hmessage]
    rfl
  · have hlast : Writes [.inbox] u s' := Respects.rel hmessage
    exact hlast.mono (by decide)

end Unanswered

/-- What was answered is what the handler answered. -/
theorem answer_handled (h : answer env r taskId messageId ikey s = .ok (result, s')) :
    ∃ t, handler env r.auth r.payload r.operation s = .ok (result, t) ∧
      Writes requestRecords t s' := by
  obtain ⟨a, t, hrun, hrest⟩ := Tx.bind_ok.mp h
  obtain ⟨_, t₂, hkey, h₂⟩ := Tx.bind_ok.mp hrest
  obtain ⟨_, t₃, hmessage, h₃⟩ := Tx.bind_ok.mp h₂
  obtain ⟨rfl, rfl⟩ := Tx.pure_ok.mp h₃
  exact ⟨t, hrun, Preord.trans (Respects.rel hkey) (Respects.rel hmessage)⟩

/-! ## Runs -/

/-- Every record was made for a command that was not refused. -/
structure RecordsMade (w : World) : Prop where
  inbox : ∀ k row, w.db.inbox.find? k = some row → ∃ r ∈ w.executed, MessageOf r k row
  keys : ∀ k row, w.db.idempotencyKeys.find? k = some row → ∃ r ∈ w.executed, RecordOf r k row

namespace RecordsMade

theorem of_tables (h : RecordsMade w) (hinbox : w'.db.inbox = w.db.inbox)
    (hkeys : w'.db.idempotencyKeys = w.db.idempotencyKeys)
    (hexecuted : ∀ r ∈ w.executed, r ∈ w'.executed) : RecordsMade w' := by
  constructor
  · intro k row hrow
    obtain ⟨r, hr, hmade⟩ := h.inbox k row (hinbox ▸ hrow)
    exact ⟨r, hexecuted r hr, hmade⟩
  · intro k row hrow
    obtain ⟨r, hr, hmade⟩ := h.keys k row (hkeys ▸ hrow)
    exact ⟨r, hexecuted r hr, hmade⟩

theorem of_recorded {db : DB} (h : RecordsMade w) (hnew : Recorded r w.db db) :
    RecordsMade { w with db, executed := r :: w.executed } := by
  constructor
  · intro k row hrow
    rcases hnew.inbox k row hrow with hold | hmade
    · obtain ⟨r', hr', hmade⟩ := h.inbox k row hold
      exact ⟨r', List.mem_cons_of_mem _ hr', hmade⟩
    · exact ⟨r, List.mem_cons_self, hmade⟩
  · intro k row hrow
    rcases hnew.keys k row hrow with ⟨taskId, hold⟩ | hmade
    · obtain ⟨r', hr', hmade⟩ := h.keys _ row hold
      exact ⟨r', List.mem_cons_of_mem _ hr', hmade.principal, hmade.operation, hmade.key,
        hmade.hash⟩
    · exact ⟨r, List.mem_cons_self, hmade⟩

theorem step (h : RecordsMade w) (hstep : system.step w l = some w') : RecordsMade w' := by
  cases hl : l.isCommand with
  | false =>
    have hbeside : Writes besideRequests w.db w'.db := step_background Preord.refl hl hstep
    exact h.of_tables ((hbeside .inbox).2 (by decide)).symm
      ((hbeside .idempotencyKeys).2 (by decide)).symm fun _ ↦ mem_executed_of_step hstep
  | true =>
    cases World.step_cases hstep with
    | command hrun => exact h.of_recorded (execute_recorded hrun).recorded
    | raised | ended | idle => exact h.of_tables rfl rfl fun _ hr ↦ hr
    | _ => cases hl

theorem invariant : system.Invariant (fun _ _ ↦ True) RecordsMade where
  init := ⟨fun _ _ h ↦ (nomatch h), fun _ _ h ↦ (nomatch h)⟩
  step _ _ _ h _ hstep := h.step hstep

end RecordsMade

/-- A command that is not refused is answered from a record of an earlier one, or its handler runs;
a message or a key that is recorded under another fingerprint is refused. It is answered with the
result of the same request exactly if the fingerprint separates the two. -/
theorem replayed_for_same_request_iff {db : DB} (hreach : system.Reachable w)
    (hrun : execute env r w.db = .ok (result, db)) :
    ((∃ t t', Ran env r w.db t t' result) ∨
      ∃ x, AnsweredFrom w.db r result x ∧ ∃ first ∈ w.executed, x.MadeFor first) ∧
    (∀ m row, truthy r.messageId = some m → w.db.inbox.find? (r.auth.actorId, m) = some row →
      row.payloadHash = payloadHash r.operation r.payload) ∧
    (∀ taskId k row, commandTaskId r.operation r.payload.target w.db = .ok (taskId, w.db) →
      truthy r.idempotencyKey = some k → w.db.idempotencyKeys.find? (r.auth.principalId,
        (if r.operation = .createTask then "" else taskId), r.operation, k) = some row →
      row.payloadHash = payloadHash r.operation r.payload ∨
        ∃ k' row', AnsweredFrom w.db r result (.message k' row')) ∧
    ∀ x first, AnsweredFrom w.db r result x → x.MadeFor first →
      (first.Same r ↔ first.Separated r) := by
  have hmade : RecordsMade w := RecordsMade.invariant.of_reachable hreach
  have hexecuted := execute_recorded hrun
  refine ⟨?_, hexecuted.message, hexecuted.key, fun x first hx hfirst ↦ ?_⟩
  · rcases hexecuted.answered with ⟨x, hx⟩ | hran
    · refine .inr ⟨x, hx, ?_⟩
      cases x with
      | message k row => exact hmade.inbox k row hx.stored
      | key k row => exact hmade.keys k row hx.stored
    · exact .inl hran
  · exact Request.same_iff_separated (hfirst.hash.symm.trans hx.hash)

/-- A note that was posted under a message. -/
def samplePost : Request where
  operation := .postTaskMessage
  auth := .ofHuman "owner"
  payload := { taskId := some "task_i" }
  messageId := some "m"

/-- A cancellation under the same message, with a key `operation`. -/
def sampleMasked : Request where
  operation := .cancelTask
  auth := .ofHuman "owner"
  payload := { operation := some (.text "post_task_message"), taskId := some "task_i" }
  messageId := some "m"

/-- A task to which the note was posted. -/
def samplePosted : List Label :=
  [.ask (.ofHuman "owner") .createTask { title := some "task" }, .command .silent samplePost]

/-- The row of the inbox under the message, if a request is answered from it. -/
def sampleReplay (r : Request) (w : World) : Option (InboxRow × CommandResult × DB) :=
  match w.db.inbox.find? ("human", "m"), execute .silent r w.db with
  | some row, .ok (result, db) =>
    if row.payloadHash = payloadHash r.operation r.payload
      ∧ result = { row.result with replayed := true } ∧ row.operationType = .postTaskMessage
      ∧ row.principalId = "owner" ∧ row.payloadHash = payloadHash .postTaskMessage samplePost.payload
    then some (row, result, db) else none
  | _, _ => none

/-- A request that is answered under the message is answered with the result of the note. -/
theorem answered_of_sampleReplay {row : InboxRow} {db : DB} (hmessage : r.messageId = some "m")
    (hactor : r.auth.actorId = "human") (h : sampleReplay r w = some (row, result, db)) :
    execute .silent r w.db = .ok (result, db) ∧
      AnsweredFrom w.db r result (.message ("human", "m") row) ∧
      (RequestRecord.message ("human", "m") row).MadeFor samplePost := by
  rw [sampleReplay] at h
  split at h
  · next row' result' db' hrow hrun =>
    split at h
    · next hchecks =>
      obtain ⟨hhash, hresult, hoperation, hprincipal, hpost⟩ := hchecks
      obtain ⟨rfl, rfl, rfl⟩ : row' = row ∧ result' = result ∧ db' = db := by
        simpa using h
      have hcomes : r.Comes "m" := by
        intro m hm
        rw [hmessage] at hm
        exact (Option.some.inj (truthy_eq_some.mp hm).1).symm
      refine ⟨hrun, ⟨hrow, ⟨hactor.symm, hcomes⟩, hhash, hresult⟩, rfl, ?_, hprincipal, hoperation,
        hpost⟩
      intro m hm
      exact (Option.some.inj (truthy_eq_some.mp hm).1).symm
    · cases h
  · cases h

theorem replayed_for_same_request_iff_samplePost :
    ∃ w result db x, system.exec system.init samplePosted = some w ∧
      execute .silent samplePost w.db = .ok (result, db) ∧
      AnsweredFrom w.db samplePost result x ∧ x.MadeFor samplePost ∧
      (samplePost.Same samplePost ↔ samplePost.Separated samplePost) := by
  have hview : ((system.exec system.init samplePosted).bind (sampleReplay samplePost)).isSome =
      true := by
    decide +kernel
  obtain ⟨⟨row, result, db⟩, hview⟩ := Option.isSome_iff_exists.mp hview
  obtain ⟨w, hexec, hreplay⟩ := Option.bind_eq_some_iff.mp hview
  obtain ⟨hrun, hx, hmade⟩ := answered_of_sampleReplay rfl rfl hreplay
  exact ⟨w, result, db, _, hexec, hrun, hx, hmade,
    (replayed_for_same_request_iff (.of_exec hexec) hrun).2.2.2 _ _ hx hmade⟩

/-- The cancellation is answered with the result of the note, and the task goes on. -/
theorem sampleMasked_replayed :
    ∃ w result db x, system.exec system.init samplePosted = some w ∧
      execute .silent sampleMasked w.db = .ok (result, db) ∧
      AnsweredFrom w.db sampleMasked result x ∧ x.MadeFor samplePost ∧
      ¬samplePost.Same sampleMasked := by
  have hview : ((system.exec system.init samplePosted).bind (sampleReplay sampleMasked)).isSome =
      true := by
    decide +kernel
  obtain ⟨⟨row, result, db⟩, hview⟩ := Option.isSome_iff_exists.mp hview
  obtain ⟨w, hexec, hreplay⟩ := Option.bind_eq_some_iff.mp hview
  obtain ⟨hrun, hx, hmade⟩ := answered_of_sampleReplay rfl rfl hreplay
  exact ⟨w, result, db, _, hexec, hrun, hx, hmade, fun h ↦ absurd h.1 (by decide)⟩

end HibikiCore
