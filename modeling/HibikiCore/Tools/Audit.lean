import HibikiCore.Tools.Broker

/-!
# The audit of the tool broker

A request of a run is decided and gets one row in the audit. A refusal gets its row under the same
number as an allowance would, so that a number that was used before is refused and cannot be
recorded: the transaction raises. The other ways to raise are values that the database has no room
for.
-/

namespace HibikiCore

set_option synthInstance.maxSize 100000000
set_option synthInstance.maxHeartbeats 400000

namespace ToolBroker

variable {runId : String} {run run' : AgentRunRow} {s s' : DB} {decision : ToolDecision}

/-- A call of `authorize`, with the name that is drawn for its row. -/
structure Call where
  invocationId : String
  auth : AuthContext
  request : ToolRequest

variable {c : Call} {cs : List Call}

/-! ## One request -/

/-- A step of the system other than a request of the run, or one that is recorded under one of the
names. -/
def Elsewhere (runId : String) (names : List String) (l : Label) : Prop :=
  ∀ k row, l = .tool k row → row.runId ≠ runId ∧ k ∉ names

/-- The rows of all calls can be recorded one after the other: their values can be stored, their
numbers are pairwise different and were not used before, and so are the names drawn for them. -/
structure AllRecordable (s : DB) (run : AgentRunRow) (cs : List Call) : Prop where
  each : ∀ c ∈ cs, Recordable s c.invocationId run c.request
  numbers : (cs.map (·.request.sequenceNo)).Nodup
  names : (cs.map Call.invocationId).Nodup

/-! ## What happens between two requests -/

/-- The tables beside the audit. -/
abbrev besideInvocations : List Relation :=
  [.tasks, .contracts, .activeContractMarkers, .explanations, .decisions, .gates, .plans,
    .activePlanMarkers, .workUnitSpecs, .workUnitExecutions, .plannerSessions, .agentRuns,
    .activeExecuteRunMarkers, .activePlanRunMarkers, .workspaces, .contextManifests, .sideEffects,
    .events, .inbox, .outbox, .idempotencyKeys, .resultSnapshots, .artifacts, .acceptanceEvidence,
    .agentProfiles, .runInputs, .contextAppends, .taskMessages]

instance : Faithful Refs.toolInvocations := ⟨id⟩

instance {n : Relation} [h : Touches n besideInvocations] : Beside Refs.toolInvocations n where
  ne := by
    rintro rfl
    exact absurd h.mem (by decide)

/-- The new rows of the audit belong to other runs, and have other names. -/
abbrev OtherRows (runId : String) (names : List String) : DB → DB → Prop :=
  Arrivals Refs.toolInvocations fun k fixed ↦ fixed.2.1 ≠ runId ∧ k ∉ names

section OtherRows

variable {names : List String} {w w' : World} {l : Label}

instance otherRows_handler {env : Env} {auth : AuthContext} {p : Payload} {operation : Operation} :
    Respects (OtherRows runId names) (handler env auth p operation) := by
  cases operation <;> (dsimp only [handler]; infer_instance)

theorem lastCheck_otherRows {env : Env} {item : OutboxItem} :
    Respects (OtherRows runId names) (World.lastCheck env item) := by
  rw [World.lastCheck]
  split <;> infer_instance

theorem record_otherRows {env : Env} {item : OutboxItem} {reply : Reply} :
    Respects (OtherRows runId names) (World.record env item reply) :=
  record_respects Preord.refl (fun _ ↦ inferInstance) (fun _ _ ↦ inferInstance)
    (fun _ _ _ _ ↦ inferInstance) fun _ _ _ ↦ inferInstance

/-- Only a request adds a row to the audit. -/
theorem step_otherRows (hl : Elsewhere runId names l) (hstep : system.step w l = some w') :
    OtherRows runId names w.db w'.db := by
  cases World.step_cases hstep with
  | command hrun => exact (execute_respects otherRows_handler).rel hrun
  | claimed _ hrun => exact Respects.rel hrun
  | unclaimed hrun => exact Respects.rel hrun
  | cleared _ hrun => exact lastCheck_otherRows.rel hrun
  | refused _ hrun => exact lastCheck_otherRows.rel hrun
  | settled _ hrun => exact record_otherRows.rel hrun
  | failed _ hrun => exact Respects.rel hrun
  | reconciled hrun => exact Respects.rel hrun
  | tool hrun =>
    have hrow := hl _ _ rfl
    rw [World.recordTool] at hrun
    obtain ⟨_, t₁, hread, h₁⟩ := Tx.bind_ok.mp hrun
    obtain ⟨_, t₂, hcheck, hadd⟩ := Tx.bind_ok.mp h₁
    obtain ⟨-, rfl⟩ := getRun_ok.mp hread
    obtain ⟨-, rfl⟩ := Tx.check_ok.mp hcheck
    exact (Arrivals.insert hrow).rel hadd
  | toolOutcome hrun =>
    rw [World.recordToolOutcome] at hrun
    exact Respects.rel hrun
  | started | stopped | sent | raised | ended | crashed | exited | idle => exact Preord.refl _

end OtherRows

theorem sequenceTaken_eq_false {request : ToolRequest} :
    sequenceTaken s run request = false ↔ ∀ k i, s.toolInvocations.find? k = some i →
      i.taskId = run.taskId → i.runId = request.runId → i.sequenceNo ≠ request.sequenceNo := by
  constructor
  · intro h k i hi howner hrun
    exact sequenceTaken_false h hi howner hrun
  · intro h
    rw [sequenceTaken, Bool.not_eq_false', List.isEmpty_iff, List.eq_nil_iff_forall_not_mem]
    rintro ⟨k, i⟩ hmem
    obtain ⟨hi, hkey⟩ := Table.mem_select.mp hmem
    simp only [Bool.and_eq_true, beq_iff_eq] at hkey
    exact h k i hi hkey.1.1 hkey.1.2 hkey.2

/-- What can be recorded can still be recorded after the rows of other runs. -/
theorem Recordable.after {k : String} {names : List String} {request : ToolRequest}
    (h : Recordable s k run request) (hother : OtherRows request.runId names s s')
    (hk : k ∈ names) (htask : run'.taskId = run.taskId) : Recordable s' k run' request where
  encodable := h.encodable
  sequenceNo := h.sequenceNo
  grantEpoch := h.grantEpoch
  fencingEpoch := h.fencingEpoch
  free := by
    refine sequenceTaken_eq_false.mpr fun k' i hi howner hrun ↦ ?_
    rcases hother k' i hi with ⟨i₀, hi₀, hsame⟩ | ⟨hne, -⟩
    · have htask₀ : i.taskId = i₀.taskId := congrArg Prod.fst hsame
      have hrun₀ : i.runId = i₀.runId := congrArg (·.2.1) hsame
      have hnumber₀ : i.sequenceNo = i₀.sequenceNo := congrArg (·.2.2.1) hsame
      rw [hnumber₀]
      refine sequenceTaken_eq_false.mp h.free k' i₀ hi₀ ?_ (hrun₀ ▸ hrun)
      exact htask₀.symm.trans (howner.trans htask)
    · exact absurd hrun hne
  fresh := by
    cases hfind : s'.toolInvocations.find? k with
    | none => rfl
    | some i =>
      rcases hother k i hfind with ⟨i₀, hi₀, -⟩ | ⟨-, hne⟩
      · exact nomatch h.fresh.symm.trans hi₀
      · exact absurd hk hne

/-! ## Rows that can be recorded one after the other -/

/-- Whatever happens elsewhere, the run goes on existing, and the rows can still be recorded. -/
theorem AllRecordable.after {w w' : World} (hrun : w.db.agentRuns.find? runId = some run)
    (hcalls : ∀ c ∈ cs, c.request.runId = runId) (h : AllRecordable w.db run cs)
    (hpath : system.Run (fun _ ↦ Elsewhere runId (cs.map Call.invocationId)) w w') :
    ∃ run', w'.db.agentRuns.find? runId = some run' ∧ AllRecordable w'.db run' cs := by
  have hpersist : Persists w.db w'.db := run_rel hpath
  obtain ⟨run', hrun', hsame⟩ := (hpersist .agentRuns).1 runId run hrun
  have htask : run'.taskId = run.taskId := congrArg RunAssignment.taskId hsame
  have hother : OtherRows runId (cs.map Call.invocationId) w.db w'.db := by
    refine hpath.induct (P := fun t ↦ OtherRows runId _ w.db t.db) (Preord.refl _) ?_
    intro t l u ht hl hstep
    exact Preord.trans ht (step_otherRows hl hstep)
  refine ⟨run', hrun', fun c hc ↦ ?_, h.numbers, h.names⟩
  have hother' : OtherRows c.request.runId (cs.map Call.invocationId) w.db w'.db := by
    rw [hcalls c hc]
    exact hother
  exact (h.each c hc).after hother' (List.mem_map_of_mem hc) htask

end ToolBroker

end HibikiCore
