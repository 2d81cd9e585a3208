import HibikiCore.Application.Frames
import HibikiCore.System.Steps

/-!
# The transactions of a step

A step of the system runs at most one transaction on the database. What all transactions respect
every step respects, and every run.

A command that is executed is either a replay, which only keeps the records of requests, or one run
of its handler with record keeping after it.
-/

namespace HibikiCore

set_option synthInstance.maxSize 100000000
set_option synthInstance.maxHeartbeats 400000

/-! ## Every table -/

/-- All tables. -/
abbrev everyTable : List Relation :=
  [.tasks, .contracts, .activeContractMarkers, .explanations, .decisions, .gates, .plans,
    .activePlanMarkers, .workUnitSpecs, .workUnitExecutions, .plannerSessions, .agentRuns,
    .activeExecuteRunMarkers, .activePlanRunMarkers, .workspaces, .contextManifests, .sideEffects,
    .events, .inbox, .outbox, .idempotencyKeys, .resultSnapshots, .artifacts, .acceptanceEvidence,
    .agentProfiles, .runInputs, .toolInvocations, .contextAppends, .taskMessages]

/-- The records of requests. -/
abbrev requestRecords : List Relation := [.inbox, .idempotencyKeys]

theorem mem_everyTable (n : Relation) : n ∈ everyTable := by cases n <;> decide

/-- Rows persist and keep their immutable columns. -/
abbrev Persists : DB → DB → Prop := Writes everyTable

theorem persists_of_writes {W : List Relation} {s s' : DB} (h : Writes W s s') : Persists s s' :=
  h.mono fun n _ ↦ mem_everyTable n

/-! ## Commands -/

/-- The handler of a command ran. It saw the database as it was when the command came, except that
identifiers may have been drawn; afterwards only the records of requests were written. -/
structure Ran (env : Env) (r : Request) (s t t' : DB) (result : CommandResult) : Prop where
  guard : guardOperation r.auth r.operation = none
  start : ∃ n, t = { s with drawn := n }
  task : ∃ taskId, commandTaskId r.operation r.payload.target t = .ok (taskId, t)
  authorized : authorizeRunCommand r.operation r.auth r.payload t = .ok ((), t)
  run : handler env r.auth r.payload r.operation t = .ok (result, t')

/-- A command was neither refused nor answered from the records: its handler ran. -/
def CarriedOut (env : Env) (r : Request) (s s' : DB) : Prop :=
  ∃ t t' result, Ran env r s t t' result ∧ Writes requestRecords t' s'

section Execute

variable {env : Env} {r : Request} {result : CommandResult} {s s' : DB}

theorem commandTaskId_reads {operation : Operation} {target : Target} {taskId : String}
    (h : commandTaskId operation target s = .ok (taskId, s')) : s' = s := by
  have hagree (a b : String) : Respects Eq (agreeOnTask a b) := by
    rw [agreeOnTask]
    infer_instance
  have hread : Respects Eq (commandTaskId operation target) := by
    rw [commandTaskId]
    infer_instance
  exact (hread.rel h).symm

theorem authorizeRunCommand_reads {operation : Operation} {auth : AuthContext} {p : Payload}
    (h : authorizeRunCommand operation auth p s = .ok ((), s')) : s' = s := by
  have hrun : Respects Eq (commandRunId operation p) := by
    rw [commandRunId]
    infer_instance
  have hbinding (runId : String) (run : AgentRunRow) :
      Respects Eq (assertRunWriteBinding auth runId run p.taskId p.runId p.fencingEpoch true) := by
    rw [assertRunWriteBinding]
    infer_instance
  have hread : Respects Eq (authorizeRunCommand operation auth p) := by
    rw [authorizeRunCommand]
    infer_instance
  exact (hread.rel h).symm

theorem checkInbox_none {auth : AuthContext} {messageId : String} {ph : Fingerprint}
    (h : checkInbox auth messageId ph s = .ok (none, s')) : s' = s := by
  rw [checkInbox, Tx.get_bind_ok] at h
  cases hfind : s.inbox.find? (auth.actorId, messageId) with
  | none =>
    rw [hfind] at h
    exact (Tx.pure_ok.mp h).2
  | some row => simp [hfind] at h

theorem adoptLegacy_none {auth : AuthContext} {taskId ikey : String} {operation : Operation}
    (h : adoptLegacy auth taskId operation ikey s = .ok (none, s')) : s' = s := by
  rw [adoptLegacy, Tx.get_bind_ok] at h
  cases hfind : s.idempotencyKeys.find? (auth.principalId, "", operation, ikey) with
  | none =>
    rw [hfind] at h
    exact (Tx.pure_ok.mp h).2
  | some row =>
    rw [hfind] at h
    obtain ⟨owner, t, howner, hadopt⟩ := Tx.bind_ok.mp h
    rw [Tx.ite_ok] at hadopt
    have ht : ¬owner = taskId ∧ s' = t := by simpa using hadopt
    rw [ht.2, commandTaskId_reads howner]

/-- No record was found, so none was adopted. -/
theorem idempotencyRecord_none {auth : AuthContext} {taskId ikey : String} {operation : Operation}
    (h : idempotencyRecord auth taskId operation ikey s = .ok (none, s')) : s' = s := by
  rw [idempotencyRecord, Tx.get_bind_ok] at h
  cases hfind : s.idempotencyKeys.find? (auth.principalId, taskId, operation, ikey) with
  | some row => simp [hfind] at h
  | none =>
    rw [hfind] at h
    rcases Tx.ite_ok.mp h with ⟨-, hlegacy⟩ | ⟨-, hnone⟩
    · exact adoptLegacy_none hlegacy
    · exact (Tx.pure_ok.mp hnone).2

theorem checkIdempotency_none {auth : AuthContext} {taskId ikey : String} {operation : Operation}
    {ph : Fingerprint} (h : checkIdempotency auth taskId operation ikey ph s = .ok (none, s')) :
    s' = s := by
  rw [checkIdempotency, Tx.bind_ok] at h
  obtain ⟨record, t, hrecord, h⟩ := h
  cases record
  · obtain rfl := (Tx.pure_ok.mp h).2
    exact idempotencyRecord_none hrecord
  · simp at h

theorem checkInbox_some {auth : AuthContext} {messageId : String} {ph : Fingerprint}
    (h : checkInbox auth messageId ph s = .ok (some result, s')) : result.replayed = true := by
  rw [checkInbox, Tx.get_bind_ok] at h
  cases hfind : s.inbox.find? (auth.actorId, messageId) with
  | none => simp [hfind] at h
  | some row =>
    rw [hfind] at h
    obtain ⟨_, t, -, hpure⟩ := Tx.bind_ok.mp h
    obtain ⟨hresult, -⟩ := Tx.pure_ok.mp hpure
    rw [Option.some.inj hresult]

theorem checkIdempotency_some {auth : AuthContext} {taskId ikey : String} {operation : Operation}
    {ph : Fingerprint}
    (h : checkIdempotency auth taskId operation ikey ph s = .ok (some result, s')) :
    result.replayed = true := by
  rw [checkIdempotency, Tx.bind_ok] at h
  obtain ⟨record, t, -, h⟩ := h
  cases record with
  | none => simp at h
  | some row =>
    obtain ⟨_, t', -, hpure⟩ := Tx.bind_ok.mp h
    obtain ⟨hresult, -⟩ := Tx.pure_ok.mp hpure
    rw [Option.some.inj hresult]
    rfl

theorem answerMessage_cases {taskId messageId ikey : String}
    (h : answerMessage env r taskId messageId ikey s = .ok (result, s')) :
    result.replayed = true ∧ Writes requestRecords s s' ∨ ∃ t',
      handler env r.auth r.payload r.operation s = .ok (result, t') ∧
        Writes requestRecords t' s' := by
  rw [answerMessage, Tx.bind_ok] at h
  obtain ⟨replay, t, hreplay, hanswer⟩ := h
  cases replay with
  | some stored =>
    refine .inl ⟨?_, Preord.trans (Respects.rel hreplay) (Respects.rel hanswer)⟩
    obtain ⟨_, t', -, hpure⟩ := Tx.bind_ok.mp hanswer
    obtain ⟨rfl, -⟩ := Tx.pure_ok.mp hpure
    exact checkIdempotency_some hreplay
  | none =>
    right
    obtain rfl := checkIdempotency_none hreplay
    obtain ⟨a, t', hrun, hstore⟩ := Tx.bind_ok.mp hanswer
    have hresult : result = a := by
      simp only [Tx.bind_ok, Tx.pure_ok] at hstore
      obtain ⟨-, -, -, -, -, -, hresult, -⟩ := hstore
      exact hresult
    exact ⟨t', hresult ▸ hrun, Respects.rel hstore⟩

/-- What a command that was executed did: it was answered from the records, or its handler ran. -/
theorem execute_cases (h : execute env r s = .ok (result, s')) :
    result.replayed = true ∧ Writes requestRecords s s' ∨
      ∃ t t', Ran env r s t t' result ∧ Writes requestRecords t' s' := by
  rw [execute, Tx.bind_ok] at h
  obtain ⟨_, t₀, hguard, hrest₀⟩ := h
  have hnone : guardOperation r.auth r.operation = none ∧ t₀ = s := by
    rw [Tx.withSome_ok] at hguard
    simpa using hguard
  obtain ⟨hnone, rfl⟩ := hnone
  obtain ⟨messageId, t, hmessage, hrest⟩ := Tx.bind_ok.mp hrest₀
  have hstart : ∃ n, t = { t₀ with drawn := n } := by
    rw [requestMessage] at hmessage
    cases hid : truthy r.messageId with
    | some id =>
      rw [hid] at hmessage
      exact ⟨t₀.drawn, (Tx.pure_ok.mp hmessage).2⟩
    | none =>
      rw [hid] at hmessage
      exact ⟨_, (newId_ok.mp hmessage).2⟩
  have hsame : Writes requestRecords t₀ t := by
    obtain ⟨n, rfl⟩ := hstart
    exact writes_drawn _ _
  rw [executeInTx, Tx.bind_ok] at hrest
  obtain ⟨taskId, t₁, htask, hrest₁⟩ := hrest
  have ht₁ := commandTaskId_reads htask
  subst ht₁
  obtain ⟨_, t₂, hauth, hrest₂⟩ := Tx.bind_ok.mp hrest₁
  have ht₂ := authorizeRunCommand_reads hauth
  subst ht₂
  obtain ⟨hit, t₃, hhit, hrest₃⟩ := Tx.bind_ok.mp hrest₂
  cases hit with
  | some stored =>
    left
    obtain ⟨rfl, rfl⟩ := Tx.pure_ok.mp hrest₃
    exact ⟨checkInbox_some hhit, Preord.trans hsame (Respects.rel hhit)⟩
  | none =>
    have ht₃ := checkInbox_none hhit
    subst ht₃
    rcases answerMessage_cases hrest₃ with ⟨hreplay, hrecords⟩ | ⟨t', hrun, hrecords⟩
    · exact .inl ⟨hreplay, Preord.trans hsame hrecords⟩
    · exact .inr ⟨_, t', ⟨hnone, hstart, ⟨taskId, htask⟩, hauth, hrun⟩, hrecords⟩

theorem execute_ok (h : execute env r s = .ok (result, s')) :
    Writes requestRecords s s' ∨
      ∃ t t', Ran env r s t t' result ∧ Writes requestRecords t' s' :=
  (execute_cases h).imp And.right id

end Execute

/-! ## Steps -/

/-- Every transaction that is not a command respects a relation. -/
class Background (R : DB → DB → Prop) : Prop where
  claim : ∀ env, Respects R (claimOneOutbox env)
  check : ∀ env item, Respects R (World.lastCheck env item)
  record : ∀ env item reply, Respects R (World.record env item reply)
  fail : ∀ env outboxId error, Respects R (failOutbox env outboxId error)
  reconcile : ∀ env, Respects R (reconcile env)
  tool : ∀ invocationId row, Respects R (World.recordTool invocationId row)
  toolOutcome : ∀ invocationId outcome,
    Respects R (World.recordToolOutcome invocationId outcome)

/-- Every transaction of the system respects a relation. -/
class Transactions (R : DB → DB → Prop) : Prop extends Background R where
  command : ∀ env r, Respects R (execute env r)

section Steps

variable {R : DB → DB → Prop} {w w' : World} {l : Label}

/-- What the transactions respect that settle the rows of threads is respected by the recording of
an answer. -/
theorem record_respects {env : Env} {item : OutboxItem} {reply : Reply} (hrefl : ∀ s, R s s)
    (hdead : ∀ k, Respects R (ackOutbox env k true))
    (hstart : ∀ k runId, Respects R (ackOutboxAndMarkRunning env k runId))
    (hstop : ∀ k runId reason result, Respects R (ackStop env k runId reason result))
    (hreceipt : ∀ k e receipt, Respects R (applyReceipt env k e receipt)) :
    Respects R (World.record env item reply) := by
  have hpure : Respects R (pure () : Core Unit) := by
    constructor
    intro s u s' h
    obtain ⟨-, rfl⟩ := Tx.pure_ok.mp h
    exact hrefl s'
  rw [World.record.eq_def]
  split
  · split
    · split
      · exact hdead _
      · exact hstart _ _
    · exact hpure
  · split
    · exact hstop _ _ _ _
    · exact hpure
  · split
    · exact hreceipt _ _ _
    · exact hpure

/-- A relation that the pieces of the transactions respect is respected by the transactions. -/
instance background_of_parts [Frame R] [Indifferent R Relation.toolInvocations]
    [∀ env, Respects R (claimOneOutbox env)]
    [∀ env outboxId runId, Respects R (startSendAllowed env outboxId runId)]
    [∀ env item effectId, Respects R (precheck env item effectId)]
    [∀ env outboxId dead, Respects R (ackOutbox env outboxId dead)]
    [∀ env outboxId runId, Respects R (ackOutboxAndMarkRunning env outboxId runId)]
    [∀ env outboxId runId reason result, Respects R (ackStop env outboxId runId reason result)]
    [∀ env outboxId effectId receipt, Respects R (applyReceipt env outboxId effectId receipt)]
    [∀ env outboxId error, Respects R (failOutbox env outboxId error)]
    [∀ env, Respects R (reconcile env)] : Background R where
  claim env := inferInstance
  check env item := by
    rw [World.lastCheck]
    split <;> infer_instance
  record env item reply :=
    record_respects Preord.refl (fun _ ↦ inferInstance) (fun _ _ ↦ inferInstance)
      (fun _ _ _ _ ↦ inferInstance) fun _ _ _ ↦ inferInstance
  fail env outboxId error := inferInstance
  reconcile env := inferInstance
  tool invocationId row := by
    rw [World.recordTool]
    infer_instance
  toolOutcome invocationId outcome := by
    rw [World.recordToolOutcome]
    infer_instance

/-- The same for a coarser relation, when the acknowledgement of a start respects only that one. -/
theorem background_of_ack {R' : DB → DB → Prop} [Frame R] [Indifferent R Relation.toolInvocations]
    [∀ env, Respects R (claimOneOutbox env)]
    [∀ env outboxId runId, Respects R (startSendAllowed env outboxId runId)]
    [∀ env item effectId, Respects R (precheck env item effectId)]
    [∀ env outboxId dead, Respects R (ackOutbox env outboxId dead)]
    [∀ env outboxId runId reason result, Respects R (ackStop env outboxId runId reason result)]
    [∀ env outboxId effectId receipt, Respects R (applyReceipt env outboxId effectId receipt)]
    [∀ env outboxId error, Respects R (failOutbox env outboxId error)]
    [∀ env, Respects R (reconcile env)] (hsub : ∀ {s s'}, R s s' → R' s s')
    (hack : ∀ env outboxId runId, Respects R' (ackOutboxAndMarkRunning env outboxId runId)) :
    Background R' where
  claim env := .mono (R := R) inferInstance hsub
  check env item := by
    refine .mono (R := R) ?_ hsub
    rw [World.lastCheck]
    split <;> infer_instance
  record env item reply :=
    record_respects (fun s ↦ hsub (Preord.refl s)) (fun _ ↦ .mono (R := R) inferInstance hsub)
      (hack env) (fun _ _ _ _ ↦ .mono (R := R) inferInstance hsub)
      fun _ _ _ ↦ .mono (R := R) inferInstance hsub
  fail env outboxId error := .mono (R := R) inferInstance hsub
  reconcile env := .mono (R := R) inferInstance hsub
  tool invocationId row := by
    refine .mono (R := R) ?_ hsub
    rw [World.recordTool]
    infer_instance
  toolOutcome invocationId outcome := by
    refine .mono (R := R) ?_ hsub
    rw [World.recordToolOutcome]
    infer_instance

instance transactions_of_parts [Background R] [Frame R] [Indifferent R Relation.inbox]
    [Indifferent R Relation.idempotencyKeys]
    [∀ env auth p operation, Respects R (handler env auth p operation)] : Transactions R where
  command _ _ := execute_respects inferInstance

/-- The label of a command. -/
def Label.isCommand : Label → Bool
  | .command _ _ => true
  | _ => false

/-- A step of the system that is no command moves the database along what the transactions in the
background respect. -/
theorem step_background [h : Background R] (hrefl : ∀ s, R s s) (hl : l.isCommand = false)
    (hstep : system.step w l = some w') : R w.db w'.db := by
  cases World.step_cases hstep with
  | command => cases hl
  | claimed _ hrun => exact (h.claim _).rel hrun
  | unclaimed hrun => exact (h.claim _).rel hrun
  | cleared _ hrun => exact (h.check _ _).rel hrun
  | refused _ hrun => exact (h.check _ _).rel hrun
  | settled _ hrun => exact (h.record _ _ _).rel hrun
  | failed _ hrun => exact (h.fail _ _ _).rel hrun
  | reconciled hrun => exact (h.reconcile _).rel hrun
  | tool hrun => exact (h.tool _ _).rel hrun
  | toolOutcome hrun => exact (h.toolOutcome _ _).rel hrun
  | started | stopped | sent | raised | ended | crashed | exited | idle => exact hrefl _

/-- A command either keeps everything but the records of requests, or it is one run of its handler
with record keeping after it. -/
theorem step_command {env : Env} {r : Request} (hstep : system.step w (.command env r) = some w') :
    Writes requestRecords w.db w'.db ∨
      ∃ t t' result, Ran env r w.db t t' result ∧ Writes requestRecords t' w'.db := by
  have hcases : World.Step w (.command env r) w' := World.step_cases hstep
  cases hcases with
  | command hrun =>
    rcases execute_ok hrun with hrecords | ⟨t, t', hran, hrecords⟩
    · exact .inl hrecords
    · exact .inr ⟨t, t', _, hran, hrecords⟩
  | raised | ended | idle => exact .inl (Preord.refl _)

/-- The commands that were not refused are recorded. -/
theorem step_executed (hstep : system.step w l = some w') :
    w'.executed = w.executed ∨ ∃ env r, l = .command env r ∧ w'.executed = r :: w.executed := by
  cases World.step_cases hstep with
  | command => exact .inr ⟨_, _, rfl, rfl⟩
  | _ => exact .inl rfl

theorem mem_executed_of_step {r : Request} (hstep : system.step w l = some w')
    (hr : r ∈ w.executed) : r ∈ w'.executed := by
  rcases step_executed hstep with hsame | ⟨_, _, -, hmore⟩
  · exact hsame ▸ hr
  · exact hmore ▸ List.mem_cons_of_mem _ hr

/-- A command whose handler ran was not refused. -/
theorem step_ran {env : Env} {r : Request} (hstep : system.step w (.command env r) = some w') :
    Writes requestRecords w.db w'.db ∨
      ∃ t t' result, Ran env r w.db t t' result ∧ Writes requestRecords t' w'.db ∧
        r ∈ w'.executed := by
  have hcases : World.Step w (.command env r) w' := World.step_cases hstep
  cases hcases with
  | command hrun =>
    rcases execute_ok hrun with hrecords | ⟨t, t', hran, hrecords⟩
    · exact .inl hrecords
    · exact .inr ⟨t, t', _, hran, hrecords, List.mem_cons_self⟩
  | raised | ended | idle => exact .inl (Preord.refl _)

/-- A step of the system moves the database along what all transactions respect. -/
theorem step_tx [h : Transactions R] (hrefl : ∀ s, R s s) (hstep : system.step w l = some w') :
    R w.db w'.db := by
  cases hl : l.isCommand with
  | false => exact step_background hrefl hl hstep
  | true =>
    cases World.step_cases hstep with
    | command hrun => exact (h.command _ _).rel hrun
    | raised | ended | idle => exact hrefl _
    | _ => cases hl

theorem step_rel [Preord R] [Transactions R] (hstep : system.step w l = some w') : R w.db w'.db :=
  step_tx Preord.refl hstep

theorem run_rel [Preord R] [Transactions R] {ok : World → Label → Prop} (h : system.Run ok w w') :
    R w.db w'.db := by
  induction h with
  | refl => exact Preord.refl _
  | step _ _ hstep ih => exact Preord.trans ih (step_rel hstep)

end Steps

/-! ## Rows persist -/

instance persists_handler {env : Env} {auth : AuthContext} {p : Payload} {operation : Operation} :
    Respects Persists (handler env auth p operation) := by
  cases operation <;> (dsimp only [handler]; infer_instance)

instance persists_transactions : Transactions Persists := inferInstance

end HibikiCore
