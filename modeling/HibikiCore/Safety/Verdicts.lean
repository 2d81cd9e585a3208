import HibikiCore.Application.Totality
import HibikiCore.Safety.Evidence
import HibikiCore.Safety.Logs
import HibikiCore.Safety.Results

/-!
# The latest verdict

A verdict is stored under the number that the next event of its task will have, and the submission
that stores it appends an event. So the verdicts on a criterion are in one order, whatever a clock
says, and the one that counts is the last of those that belong to a selected result.

Which run a selected result is of is looked up by the reference of the result, which a runtime may
choose. If it has chosen the same one twice for a unit, the lookup fails.
-/

namespace HibikiCore

set_option synthInstance.maxSize 100000000
set_option synthInstance.maxHeartbeats 400000

variable {env : Env} {auth : AuthContext} {p : Payload} {run : AgentRunRow} {s s' : DB}
  {w w' : World} {l : Label} {taskId runId wuId ref : String} {nodes : List RawNode}
  {result : RunResult} {reply : CommandResult}

/-! ## The rows a result adds -/

/-- The verdicts that a run has added to a store under a number: one for each criterion. -/
structure VerdictsAdded (taskId runId : String) (run : AgentRunRow) (n : Nat) (s s' : DB) : Prop where
  kept : ∀ k r, s.acceptanceEvidence.find? k = some r → s'.acceptanceEvidence.find? k = some r
  added : ∀ k r, s'.acceptanceEvidence.find? k = some r → s.acceptanceEvidence.find? k = none →
    r.taskId = taskId ∧ r.runId = runId ∧ r.workUnitId = run.workUnitId ∧
      r.resultRef = run.resultRef ∧ r.sequenceNo = n ∧ r.criterionId ≠ "" ∧ r.artifactHash ≠ ""
  apart : ∀ k k' r r', s'.acceptanceEvidence.find? k = some r →
    s'.acceptanceEvidence.find? k' = some r' → s.acceptanceEvidence.find? k = none →
    s.acceptanceEvidence.find? k' = none → r.criterionId = r'.criterionId → k = k'

/-- In the middle of a result: no criterion that comes to have a verdict is unseen. -/
structure Recording (taskId runId : String) (run : AgentRunRow) (s : DB) (seen : List String)
    (t : DB) : Prop where
  recorded : VerdictsAdded taskId runId run (nextEventSeq s taskId) s t
  seen : ∀ k r, t.acceptanceEvidence.find? k = some r → s.acceptanceEvidence.find? k = none →
    r.criterionId ∈ seen
  events : t.events = s.events

theorem VerdictsAdded.of_read {n : Nat} (h : s'.acceptanceEvidence = s.acceptanceEvidence) :
    VerdictsAdded taskId runId run n s s' := by
  refine ⟨fun k r hr ↦ by rw [h]; exact hr, fun k r hr hnew ↦ ?_, fun k k' r r' hr _ hnew _ _ ↦ ?_⟩
  all_goals
    rw [h, hnew] at hr
    cases hr

namespace Recording

variable {t t' : DB} {seen seen' : List String}

theorem of_read (h : Recording taskId runId run s seen t)
    (hrows : t'.acceptanceEvidence = t.acceptanceEvidence) (hevents : t'.events = t.events) :
    Recording taskId runId run s seen t' where
  recorded := ⟨by rw [hrows]; exact h.recorded.kept, by rw [hrows]; exact h.recorded.added,
    by rw [hrows]; exact h.recorded.apart⟩
  seen := by rw [hrows]; exact h.seen
  events := hevents.trans h.events

theorem mono (h : Recording taskId runId run s seen t) (hmono : ∀ c ∈ seen, c ∈ seen') :
    Recording taskId runId run s seen' t :=
  ⟨h.recorded, fun k r hr hnew ↦ hmono _ (h.seen k r hr hnew), h.events⟩

/-- A verdict on a criterion that was not seen. -/
theorem insert {k : String} {row : AcceptanceEvidenceRow} (h : Recording taskId runId run s seen t)
    (hfresh : t.acceptanceEvidence.find? k = none)
    (hrow : row.taskId = taskId ∧ row.runId = runId ∧ row.workUnitId = run.workUnitId ∧
      row.resultRef = run.resultRef ∧ row.sequenceNo = nextEventSeq s taskId ∧
      row.criterionId ≠ "" ∧ row.artifactHash ≠ "")
    (hunseen : row.criterionId ∉ seen)
    (hrows : t'.acceptanceEvidence = t.acceptanceEvidence.insert k row)
    (hevents : t'.events = t.events) :
    Recording taskId runId run s (seen ++ [row.criterionId]) t' := by
  have hfind (k' : String) : t'.acceptanceEvidence.find? k' =
      if k' = k then some row else t.acceptanceEvidence.find? k' := by
    rw [hrows, Table.find?_insert hfresh]
  have hold (k' : String) (r : AcceptanceEvidenceRow)
      (hr : t'.acceptanceEvidence.find? k' = some r) :
      (k' = k ∧ r = row) ∨ t.acceptanceEvidence.find? k' = some r := by
    rw [hfind] at hr
    split at hr
    · next heq => exact .inl ⟨heq, (Option.some.inj hr).symm⟩
    · exact .inr hr
  refine ⟨⟨fun k' r hr ↦ ?_, fun k' r hr hnew ↦ ?_, fun k₁ k₂ r₁ r₂ h₁ h₂ hnew₁ hnew₂ heq ↦ ?_⟩,
    fun k' r hr hnew ↦ ?_, hevents.trans h.events⟩
  · rw [hfind, if_neg]
    · exact h.recorded.kept k' r hr
    · rintro rfl
      exact absurd (hfresh.symm.trans (h.recorded.kept _ r hr)) nofun
  · rcases hold k' r hr with ⟨-, rfl⟩ | hr
    · exact hrow
    · exact h.recorded.added k' r hr hnew
  · rcases hold k₁ r₁ h₁ with ⟨rfl, rfl⟩ | h₁'
    · rcases hold k₂ r₂ h₂ with ⟨rfl, -⟩ | h₂'
      · rfl
      · exact absurd (heq ▸ h.seen k₂ r₂ h₂' hnew₂) hunseen
    · rcases hold k₂ r₂ h₂ with ⟨rfl, rfl⟩ | h₂'
      · exact absurd (heq ▸ h.seen k₁ r₁ h₁' hnew₁) hunseen
      · exact h.recorded.apart k₁ k₂ r₁ r₂ h₁' h₂' hnew₁ hnew₂ heq
  · rw [List.mem_append, List.mem_singleton]
    rcases hold k' r hr with ⟨-, rfl⟩ | hr
    · exact .inr rfl
    · exact .inl (h.seen k' r hr hnew)

/-- One verdict of a result. -/
theorem registerEvidence {e : EvidenceItem} (h : Recording taskId runId run s seen t)
    (hrun : HibikiCore.registerEvidence env taskId runId run seen e t = .ok (seen', t')) :
    Recording taskId runId run s seen' t' := by
  rw [HibikiCore.registerEvidence, Tx.get_bind_ok] at hrun
  cases hc : truthy e.criterionId with
  | none =>
    rw [hc] at hrun
    obtain ⟨rfl, rfl⟩ := Tx.pure_ok.mp hrun
    exact h
  | some c =>
    cases hh : truthy e.artifactHash <|> truthy e.artifactRef with
    | none =>
      rw [hc, hh] at hrun
      obtain ⟨rfl, rfl⟩ := Tx.pure_ok.mp hrun
      exact h
    | some hash =>
      cases hv : e.verdict with
      | none =>
        rw [hc, hh, hv] at hrun
        obtain ⟨rfl, rfl⟩ := Tx.pure_ok.mp hrun
        exact h
      | some verdict =>
        rw [hc, hh, hv] at hrun
        obtain ⟨_, t₁, hcheck, h₁⟩ := Tx.bind_ok.mp hrun
        obtain ⟨hunseen, rfl⟩ := Tx.check_ok.mp hcheck
        obtain ⟨_, t₂, hregistered, h₂⟩ := Tx.bind_ok.mp h₁
        obtain ⟨-, rfl⟩ := Tx.check_ok.mp hregistered
        obtain ⟨id, t₃, hid, h₃⟩ := Tx.bind_ok.mp h₂
        obtain ⟨-, rfl⟩ := newId_ok.mp hid
        obtain ⟨_, t₄, hadd, hpure⟩ := Tx.bind_ok.mp h₃
        obtain ⟨rfl, rfl⟩ := Tx.pure_ok.mp hpure
        have hcriterion : c ≠ "" := (truthy_eq_some.mp hc).2
        have hhash : hash ≠ "" := by
          rw [Option.orElse_eq_some] at hh
          rcases hh with hh | ⟨-, hh⟩ <;> exact (truthy_eq_some.mp hh).2
        have hdrawn : Recording taskId runId run s seen { t₂ with drawn := t₂.drawn + 1 } :=
          h.of_read rfl rfl
        have hnumber : nextEventSeq t₂ taskId = nextEventSeq s taskId := by
          rw [nextEventSeq, nextEventSeq, h.events]
        rcases Tx.when_ok.mp hadd with ⟨-, hadd⟩ | ⟨-, rfl⟩
        · obtain ⟨hfresh, hinsert⟩ := Ref.insert_ok.mp hadd
          have hrows := congrArg DB.acceptanceEvidence hinsert
          have hevents := congrArg DB.events hinsert
          exact hdrawn.insert hfresh ⟨rfl, rfl, rfl, rfl, hnumber, hcriterion, hhash⟩ hunseen hrows
            hevents
        · exact hdrawn.mono fun _ ↦ List.mem_append_left _

end Recording

/-- The tables beside the verdicts. -/
abbrev besideVerdicts : List Relation :=
  [.tasks, .contracts, .activeContractMarkers, .explanations, .decisions, .gates, .plans,
    .activePlanMarkers, .workUnitSpecs, .workUnitExecutions, .plannerSessions, .agentRuns,
    .activeExecuteRunMarkers, .activePlanRunMarkers, .workspaces, .contextManifests, .sideEffects,
    .events, .inbox, .outbox, .idempotencyKeys, .resultSnapshots, .artifacts, .agentProfiles,
    .runInputs, .toolInvocations, .contextAppends, .taskMessages]

/-- The verdicts of a result that applies to its unit. -/
theorem registerResultArtifacts_recorded (hfound : s.agentRuns.find? runId = some run)
    (h : registerResultArtifacts env taskId runId result true s = .ok ((), s')) :
    VerdictsAdded taskId runId run (nextEventSeq s taskId) s s' := by
  obtain ⟨run', t₁, hget, h₁⟩ := Tx.bind_ok.mp h
  obtain ⟨hrun, rfl⟩ := getRun_ok.mp hget
  obtain rfl := Option.some.inj (hfound.symm.trans hrun)
  obtain ⟨_, t₂, hregister, h₂⟩ := Tx.bind_ok.mp h₁
  have hartifacts : Writes [.artifacts] t₁ t₂ := Respects.rel hregister
  have hrows : t₂.acceptanceEvidence = t₁.acceptanceEvidence :=
    ((hartifacts .acceptanceEvidence).2 (by decide)).symm
  have hevents : t₂.events = t₁.events := ((hartifacts .events).2 (by decide)).symm
  have hstart : Recording taskId runId run t₁ [] t₂ := by
    refine ⟨.of_read hrows, fun k r hr hnew ↦ ?_, hevents⟩
    rw [hrows, hnew] at hr
    cases hr
  rcases Tx.when_ok.mp h₂ with ⟨-, h₃⟩ | ⟨hfalse, -⟩
  · obtain ⟨seen, t₃, hfold, hpure⟩ := Tx.bind_ok.mp h₃
    obtain ⟨-, rfl⟩ := Tx.pure_ok.mp hpure
    have hend : Recording taskId runId run t₁ seen s' :=
      Tx.fold_invariant (fun _ _ _ _ _ _ hrec hone ↦ hrec.registerEvidence hone) hstart hfold
    exact hend.recorded
  · exact absurd rfl hfalse

/-- A result that does not apply to its unit adds no verdict. -/
theorem registerResultArtifacts_unapplied
    (h : registerResultArtifacts env taskId runId result false s = .ok ((), s')) :
    Writes besideVerdicts s s' := by
  obtain ⟨run', t₁, hget, h₁⟩ := Tx.bind_ok.mp h
  obtain ⟨-, rfl⟩ := getRun_ok.mp hget
  obtain ⟨_, t₂, hregister, h₂⟩ := Tx.bind_ok.mp h₁
  rcases Tx.when_ok.mp h₂ with ⟨hfalse, -⟩ | ⟨-, rfl⟩
  · cases hfalse
  · exact Respects.rel hregister

/-- The verdicts of a result that completes or blocks its unit. -/
theorem applyResultToUnit_recorded {outcome : Outcome}
    (hfound : s.agentRuns.find? runId = some run)
    (h : applyResultToUnit env taskId runId wuId result ref outcome s = .ok ((), s')) :
    VerdictsAdded taskId runId run (nextEventSeq s taskId) s s' := by
  obtain ⟨_, t, hregister, hrest⟩ := Tx.bind_ok.mp h
  have hbeside : Writes besideVerdicts t s' := Respects.rel hrest
  have hlast : s'.acceptanceEvidence = t.acceptanceEvidence :=
    ((hbeside .acceptanceEvidence).2 (by decide)).symm
  by_cases hblocked : outcome = .blocked
  · subst hblocked
    have hfirst := (registerResultArtifacts_unapplied hregister .acceptanceEvidence).2 (by decide)
    exact .of_read (hlast.trans hfirst.symm)
  · rw [decide_eq_true hblocked] at hregister
    have hrecorded := registerResultArtifacts_recorded hfound hregister
    exact ⟨by rw [hlast]; exact hrecorded.kept, by rw [hlast]; exact hrecorded.added,
      by rw [hlast]; exact hrecorded.apart⟩

theorem appendEvent_number {eventType : String} {actor : Option String} {payload : Data}
    (h : appendEvent env taskId eventType actor payload s = .ok ((), s')) :
    nextEventSeq s taskId ≤ maxSeq s'.events taskId := by
  rw [appendEvent, Tx.get_bind_ok] at h
  obtain ⟨hfresh, hinsert⟩ := Ref.insert_ok.mp h
  have hevents := congrArg DB.events hinsert
  have hfind : s'.events.find? (taskId, nextEventSeq s taskId) =
      some { eventType, actorId := actor, payload, occurredAt := env.now } := by
    rw [hevents]
    exact (Table.find?_insert hfresh _ _).trans (if_pos rfl)
  exact le_maxSeq hfind

/-- The verdicts of a result that is accepted have the number of the event that tells of it, or a
smaller one. -/
theorem acceptRunResult_recorded (hfound : s.agentRuns.find? runId = some run)
    (h : acceptRunResult env auth runId run result ref s = .ok (reply, s')) :
    ∃ run', s'.agentRuns.find? runId = some run' ∧ run'.status = .succeeded ∧
      run'.workUnitId = run.workUnitId ∧
      VerdictsAdded run.taskId runId run' (nextEventSeq s run.taskId) s s' ∧
      nextEventSeq s run.taskId ≤ maxSeq s'.events run.taskId := by
  have hruns := acceptRunResult_runs h
  obtain ⟨next, t₁, hrequire, h₁⟩ := Tx.bind_ok.mp h
  obtain ⟨-, rfl⟩ := Tx.require_ok.mp hrequire
  obtain ⟨_, t₂, hend, h₂⟩ := Tx.bind_ok.mp h₁
  obtain ⟨_, t₃, hunit, h₃⟩ := Tx.bind_ok.mp h₂
  obtain ⟨_, t₄, hclear, h₄⟩ := Tx.bind_ok.mp h₃
  obtain ⟨_, t₅, hpost, h₅⟩ := Tx.bind_ok.mp h₄
  obtain ⟨_, t₆, happend, hpure⟩ := Tx.bind_ok.mp h₅
  obtain ⟨-, rfl⟩ := Tx.pure_ok.mp hpure
  have hended : Writes [.agentRuns] t₁ t₂ := Respects.rel hend
  have happlied : Writes besideEvents t₂ t₃ := Respects.rel hunit
  have hcleared : Writes [.activeExecuteRunMarkers, .activePlanRunMarkers, .plannerSessions,
      .workUnitExecutions, .workspaces] t₃ t₄ := Respects.rel hclear
  have hposted : Writes [.taskMessages] t₄ t₅ := Respects.rel hpost
  have hlast : Writes [.events] t₅ s' := Respects.rel happend
  have hbefore : t₁.acceptanceEvidence = t₂.acceptanceEvidence :=
    (hended .acceptanceEvidence).2 (by decide)
  have hafter : s'.acceptanceEvidence = t₃.acceptanceEvidence :=
    (((hcleared .acceptanceEvidence).2 (by decide)).trans
      (((hposted .acceptanceEvidence).2 (by decide)).trans
        ((hlast .acceptanceEvidence).2 (by decide)))).symm
  have hevents₂ : t₁.events = t₂.events := (hended .events).2 (by decide)
  have hevents₅ : t₂.events = t₅.events :=
    ((happlied .events).2 (by decide)).trans (((hcleared .events).2 (by decide)).trans
      ((hposted .events).2 (by decide)))
  have hnumber : nextEventSeq t₂ run.taskId = nextEventSeq t₁ run.taskId := by
    rw [nextEventSeq, nextEventSeq, hevents₂]
  have hbound : nextEventSeq t₁ run.taskId ≤ maxSeq s'.events run.taskId := by
    have hle := appendEvent_number happend
    rwa [nextEventSeq, ← hevents₅, ← hevents₂] at hle
  have hrun' : s'.agentRuns.find? runId = some
      { run with
        result := some result
        resultRef := some ref
        status := .succeeded
        finishedAt := some env.now } := by
    rw [hruns, Table.find?_modify_self, hfound]
    rfl
  refine ⟨_, hrun', rfl, rfl, ?_, hbound⟩
  have hruns₂ : t₂.agentRuns = s'.agentRuns := by
    have hkept : Writes besideRuns t₂ t₃ := Respects.rel hunit
    exact ((hkept .agentRuns).2 (by decide)).trans (((hcleared .agentRuns).2 (by decide)).trans
      (((hposted .agentRuns).2 (by decide)).trans ((hlast .agentRuns).2 (by decide))))
  rcases Tx.withSome_ok.mp hunit with ⟨wuId, -, happly⟩ | ⟨-, hnone⟩
  · have hrecorded := applyResultToUnit_recorded (hruns₂ ▸ hrun') happly
    rw [hnumber] at hrecorded
    exact ⟨by rw [hafter, hbefore]; exact hrecorded.kept,
      by rw [hafter, hbefore]; exact hrecorded.added,
      by rw [hafter, hbefore]; exact hrecorded.apart⟩
  · exact .of_read (hafter.trans (hnone ▸ hbefore.symm))

/-- A result for an assignment that was superseded adds no verdict. -/
theorem recordSupersededResult_verdicts
    (h : recordSupersededResult env auth runId wuId run result ref s = .ok (reply, s')) :
    s'.acceptanceEvidence = s.acceptanceEvidence := by
  obtain ⟨next, t₁, hrequire, h₁⟩ := Tx.bind_ok.mp h
  obtain ⟨-, rfl⟩ := Tx.require_ok.mp hrequire
  obtain ⟨_, t₂, hend, h₂⟩ := Tx.bind_ok.mp h₁
  rw [Tx.get_bind_ok] at h₂
  obtain ⟨_, t₃, hmarker, h₃⟩ := Tx.bind_ok.mp h₂
  obtain ⟨_, t₄, hunit, h₄⟩ := Tx.bind_ok.mp h₃
  obtain ⟨_, t₅, hregister, hrest⟩ := Tx.bind_ok.mp h₄
  have hended : Writes besideVerdicts t₁ t₂ := Respects.rel hend
  have hmarked : Writes besideVerdicts t₂ t₃ := Respects.rel hmarker
  have hfreed : Writes besideVerdicts t₃ t₄ := Respects.rel hunit
  have hregistered : Writes besideVerdicts t₄ t₅ := registerResultArtifacts_unapplied hregister
  have hlast : Writes besideVerdicts t₅ s' := Respects.rel hrest
  have hall : Writes besideVerdicts t₁ s' :=
    Preord.trans hended (Preord.trans hmarked (Preord.trans hfreed
      (Preord.trans hregistered hlast)))
  exact ((hall .acceptanceEvidence).2 (by decide)).symm

/-! ## Steps -/

/-- A store keeps its verdicts, or a run that succeeds adds some. -/
def VerdictsGrow (s s' : DB) : Prop :=
  s'.acceptanceEvidence = s.acceptanceEvidence ∨
    ∃ runId run run', s.agentRuns.find? runId = some run ∧ run.status.isTerminal = false ∧
      s'.agentRuns.find? runId = some run' ∧ run'.status = .succeeded ∧
      run'.workUnitId = run.workUnitId ∧
      VerdictsAdded run.taskId runId run' (nextEventSeq s run.taskId) s s' ∧
      nextEventSeq s run.taskId ≤ maxSeq s'.events run.taskId

theorem Submission.verdicts (h : Submission env auth p s reply s') : VerdictsGrow s s' := by
  have hbeside (hwrites : Writes besideVerdicts s s') : VerdictsGrow s s' :=
    .inl ((hwrites .acceptanceEvidence).2 (by decide)).symm
  cases h with
  | stopped _ _ _ ran => exact hbeside (Respects.rel ran)
  | overtaken _ _ _ _ ran => exact hbeside (Respects.rel ran)
  | marked => exact .inl rfl
  | superseded _ _ _ ran =>
    have hsame := recordSupersededResult_verdicts ran
    exact .inl hsame
  | @accepted runId ref run n _ _ accepts ran =>
    have hfound : { s with drawn := n }.agentRuns.find? runId = some run := accepts.found
    have hrecorded := acceptRunResult_recorded hfound ran
    obtain ⟨run', hrun', hsucceeded, hunit, hrecorded, hnumber⟩ := hrecorded
    exact .inr ⟨_, _, run', accepts.found, accepts.live, hrun', hsucceeded, hunit,
      ⟨hrecorded.kept, hrecorded.added, hrecorded.apart⟩, hnumber⟩

theorem handler_besideVerdicts {operation : Operation} (h : operation ≠ .submitResult) :
    Respects (Writes besideVerdicts) (handler env auth p operation) := by
  cases operation
  case submitResult => exact (h rfl).elim
  all_goals (dsimp only [handler]; infer_instance)

instance background_besideVerdicts : Background (Writes besideVerdicts) := inferInstance

theorem step_verdicts (hstep : system.step w l = some w') : VerdictsGrow w.db w'.db := by
  by_cases hl : l.isCommand = false
  · have hbeside : Writes besideVerdicts w.db w'.db := step_background Preord.refl hl hstep
    exact .inl ((hbeside .acceptanceEvidence).2 (by decide)).symm
  cases l with
  | command env r =>
    rcases step_command hstep with hrecords | ⟨t, t', reply, hran, hrecords⟩
    · exact .inl ((hrecords .acceptanceEvidence).2 (by decide)).symm
    obtain ⟨n, rfl⟩ := hran.start
    have hafter : w'.db.acceptanceEvidence = t'.acceptanceEvidence :=
      ((hrecords .acceptanceEvidence).2 (by decide)).symm
    have hrun := hran.run
    by_cases hsubmit : r.operation = .submitResult
    · rw [hsubmit] at hrun
      have hruns : w'.db.agentRuns = t'.agentRuns := ((hrecords .agentRuns).2 (by decide)).symm
      have hevents : t'.events = w'.db.events := (hrecords .events).2 (by decide)
      rcases (submitResult_ok hrun).verdicts with
        hsame | ⟨runId, run, run', hfound, hlive, hrun', hsucceeded, hunit, hrecorded, hnumber⟩
      · exact .inl (hafter.trans hsame)
      · refine .inr ⟨runId, run, run', hfound, hlive, hruns ▸ hrun', hsucceeded, hunit, ?_, ?_⟩
        · exact ⟨by rw [hafter]; exact hrecorded.kept, by rw [hafter]; exact hrecorded.added,
            by rw [hafter]; exact hrecorded.apart⟩
        · exact hevents ▸ hnumber
    · have hbeside : Writes besideVerdicts { w.db with drawn := n } t' :=
        (handler_besideVerdicts hsubmit).rel hrun
      exact .inl (hafter.trans ((hbeside .acceptanceEvidence).2 (by decide)).symm)
  | _ => exact absurd rfl hl

/-- A submission leaves the reference of a run that has ended. -/
theorem Submission.reference (h : Submission env auth p s reply s')
    (hrun : s.agentRuns.find? runId = some run) (hended : run.status.isTerminal = true) :
    ∃ run', s'.agentRuns.find? runId = some run' ∧ run'.resultRef = run.resultRef := by
  have hmodified {f : AgentRunRow → AgentRunRow} (k : String)
      (hf : ∀ r, (f r).resultRef = r.resultRef) :
      ∃ run', (s.agentRuns.modify k f).find? runId = some run' ∧
        run'.resultRef = run.resultRef := by
    rw [Table.find?_modify]
    split
    · exact ⟨f run, congrArg (Option.map f) hrun, hf run⟩
    · exact ⟨run, hrun, rfl⟩
  cases h with
  | stopped _ _ _ ran =>
    rw [recordLateResult_runs ran]
    exact hmodified _ fun _ ↦ rfl
  | overtaken _ _ _ _ ran =>
    rw [recordLateResult_runs ran]
    exact hmodified _ fun _ ↦ rfl
  | marked => exact hmodified _ fun _ ↦ rfl
  | @superseded runId' _ _ _ _ _ _ named found live ran =>
    have hk : runId ≠ runId' := by
      rintro rfl
      obtain rfl := Option.some.inj (hrun.symm.trans found)
      rw [hended] at live
      cases live
    exact ⟨run, (recordSupersededResult_runs ran runId hk).trans hrun, rfl⟩
  | @accepted runId' _ _ _ _ _ accepts ran =>
    have hk : runId ≠ runId' := by
      rintro rfl
      obtain rfl := Option.some.inj (hrun.symm.trans accepts.found)
      have live := accepts.live
      rw [hended] at live
      cases live
    rw [acceptRunResult_runs ran]
    exact ⟨run, (Table.find?_modify_of_ne hk _ _).trans hrun, rfl⟩

/-- A run that has ended keeps what identifies its result. -/
theorem step_endedRun (hstep : system.step w l = some w')
    (hrun : w.db.agentRuns.find? runId = some run) (hended : run.status.isTerminal = true) :
    ∃ run', w'.db.agentRuns.find? runId = some run' ∧ run'.status.isTerminal = true ∧
      run'.workUnitId = run.workUnitId ∧ run'.resultRef = run.resultRef := by
  have hpersist : Persists w.db w'.db := step_rel hstep
  obtain ⟨run', hrun', hfixed⟩ := (hpersist .agentRuns).1 runId run hrun
  have hone : system.Run (fun _ _ ↦ True) w w' := Machine.Run.refl.step trivial hstep
  obtain ⟨run₁, hrun₁, hstatus⟩ := ended_run_kept hone hrun hended
  obtain rfl := Option.some.inj (hrun'.symm.trans hrun₁)
  refine ⟨run', hrun', hstatus ▸ hended, congrArg RunAssignment.workUnitId hfixed, ?_⟩
  have hsame (run₂ : AgentRunRow) (hrun₂ : w'.db.agentRuns.find? runId = some run₂)
      (href : run₂.resultRef = run.resultRef) : run'.resultRef = run.resultRef := by
    obtain rfl := Option.some.inj (hrun'.symm.trans hrun₂)
    exact href
  by_cases hl : l.isCommand = false
  · have hstays : Moves Refs.agentRuns ResultStays w.db w'.db :=
      step_background (fun _ _ run hrun ↦ ⟨run, hrun, fun _ ↦ ⟨rfl, rfl⟩⟩) hl hstep
    obtain ⟨run₂, hrun₂, hstay⟩ := hstays runId run hrun
    exact hsame run₂ hrun₂ (hstay hended).2
  cases l with
  | command env r =>
    rcases step_command hstep with hrecords | ⟨t, t', reply, hran, hrecords⟩
    · have hruns : w.db.agentRuns = w'.db.agentRuns := (hrecords .agentRuns).2 (by decide)
      exact hsame run (hruns ▸ hrun) rfl
    have hruns : t'.agentRuns = w'.db.agentRuns := (hrecords .agentRuns).2 (by decide)
    obtain ⟨n, rfl⟩ := hran.start
    have hhandler := hran.run
    by_cases hsubmit : r.operation = .submitResult
    · rw [hsubmit] at hhandler
      obtain ⟨run₂, hrun₂, href⟩ := (submitResult_ok hhandler).reference hrun hended
      exact hsame run₂ (hruns ▸ hrun₂) href
    · have hrests := (RunsRest.handler_rests hsubmit).rel hhandler
      obtain ⟨run₂, hrun₂, hrest⟩ := hrests runId run hrun
      exact hsame run₂ (hruns ▸ hrun₂) (hrest.stays hended).2
  | _ => exact absurd rfl hl

/-! ## The order of the verdicts -/

/-- The verdicts on a criterion are in the order of their numbers, none of which is in the future,
and each is of a run that has ended with the result it belongs to. -/
structure VerdictInv (s : DB) : Prop where
  number : ∀ k r, s.acceptanceEvidence.find? k = some r → r.sequenceNo ≤ maxSeq s.events r.taskId
  apart : ∀ k k' r r', s.acceptanceEvidence.find? k = some r →
    s.acceptanceEvidence.find? k' = some r' → r.taskId = r'.taskId →
    r.criterionId = r'.criterionId → r.sequenceNo = r'.sequenceNo → k = k'
  origin : ∀ k r, s.acceptanceEvidence.find? k = some r → ∃ run,
    s.agentRuns.find? r.runId = some run ∧ run.status.isTerminal = true ∧
      run.workUnitId = r.workUnitId ∧ run.resultRef = r.resultRef
  named : ∀ k r, s.acceptanceEvidence.find? k = some r → r.criterionId ≠ "" ∧ r.artifactHash ≠ ""

/-- The largest number of a log does not fall. -/
theorem maxSeq_mono (h : Appends Refs.events s s') (hnumbered : s.events.Numbered taskId) :
    maxSeq s.events taskId ≤ maxSeq s'.events taskId := by
  obtain ⟨hnumbered', hprefix⟩ := h taskId hnumbered
  have hlast : maxSeq s.events taskId = (s.events.entries taskId).length := hnumbered.lastNumber
  have hlast' : maxSeq s'.events taskId = (s'.events.entries taskId).length :=
    hnumbered'.lastNumber
  rw [hlast, hlast']
  exact hprefix.length_le

theorem VerdictInv.of_step (h : VerdictInv w.db) (hnumbered : ∀ t, w.db.events.Numbered t)
    (hstep : system.step w l = some w') : VerdictInv w'.db := by
  have happends : Appends Refs.events w.db w'.db := step_rel hstep
  have hmono (t : String) : maxSeq w.db.events t ≤ maxSeq w'.db.events t :=
    maxSeq_mono happends (hnumbered t)
  have horigin (k : String) (r : AcceptanceEvidenceRow)
      (hr : w.db.acceptanceEvidence.find? k = some r) : ∃ run,
      w'.db.agentRuns.find? r.runId = some run ∧ run.status.isTerminal = true ∧
        run.workUnitId = r.workUnitId ∧ run.resultRef = r.resultRef := by
    obtain ⟨run, hrun, hended, hunit, href⟩ := h.origin k r hr
    obtain ⟨run', hrun', hended', hunit', href'⟩ := step_endedRun hstep hrun hended
    exact ⟨run', hrun', hended', hunit'.trans hunit, href'.trans href⟩
  rcases step_verdicts hstep with
    hsame | ⟨runId, run, run', hfound, hlive, hrun', hsucceeded, hunit, hrecorded, hnumber⟩
  · refine ⟨fun k r hr ↦ ?_, fun k k' r r' hr hr' ↦ ?_, fun k r hr ↦ ?_, fun k r hr ↦ ?_⟩
    all_goals rw [hsame] at hr
    · exact (h.number k r hr).trans (hmono _)
    · rw [hsame] at hr'
      exact h.apart k k' r r' hr hr'
    · exact horigin k r hr
    · exact h.named k r hr
  · -- a row is an old one, or it has the number of the result
    have hrow (k : String) (r : AcceptanceEvidenceRow)
        (hr : w'.db.acceptanceEvidence.find? k = some r) :
        w.db.acceptanceEvidence.find? k = some r ∨
          w.db.acceptanceEvidence.find? k = none ∧ r.taskId = run.taskId ∧ r.runId = runId ∧
            r.workUnitId = run'.workUnitId ∧ r.resultRef = run'.resultRef ∧
            r.sequenceNo = nextEventSeq w.db run.taskId ∧ r.criterionId ≠ "" ∧
            r.artifactHash ≠ "" := by
      cases hold : w.db.acceptanceEvidence.find? k with
      | none => exact .inr ⟨rfl, hrecorded.added k r hr hold⟩
      | some r₀ =>
        obtain rfl := Option.some.inj ((hrecorded.kept k r₀ hold).symm.trans hr)
        exact .inl rfl
    refine ⟨fun k r hr ↦ ?_, fun k k' r r' hr hr' htask hcriterion hseq ↦ ?_, fun k r hr ↦ ?_,
      fun k r hr ↦ ?_⟩
    · rcases hrow k r hr with hold | ⟨-, htask, -, -, -, hseq, -⟩
      · exact (h.number k r hold).trans (hmono _)
      · rw [hseq, htask]
        exact hnumber
    · rcases hrow k r hr with hold | ⟨hnew, htaskId, -, -, -, hseqNo, -⟩
      · rcases hrow k' r' hr' with hold' | ⟨-, htaskId', -, -, -, hseqNo', -⟩
        · exact h.apart k k' r r' hold hold' htask hcriterion hseq
        · have hle := h.number k r hold
          rw [hseq, hseqNo', htask, htaskId', nextEventSeq] at hle
          omega
      · rcases hrow k' r' hr' with hold' | ⟨hnew', -⟩
        · have hle := h.number k' r' hold'
          rw [← hseq, hseqNo, ← htask, htaskId, nextEventSeq] at hle
          omega
        · exact hrecorded.apart k k' r r' hr hr' hnew hnew' hcriterion
    · rcases hrow k r hr with hold | ⟨-, -, hof, hunit', href, -⟩
      · exact horigin k r hold
      · refine ⟨run', hof ▸ hrun', ?_, hunit'.symm, href.symm⟩
        rw [hsucceeded]
        rfl
    · rcases hrow k r hr with hold | ⟨-, -, -, -, -, -, hnamed⟩
      · exact h.named k r hold
      · exact hnamed

/-- A verdict on a criterion belongs to the selected result of a unit of a plan, and is about a hash
that is delivered. -/
structure Candidate (s : DB) (taskId criterionId : String) (nodes : List RawNode)
    (row : AcceptanceEvidenceRow) : Prop where
  task : row.taskId = taskId
  criterion : row.criterionId = criterionId
  selected : ∃ node ∈ nodes, ∃ wu run, s.workUnitExecutions.find? node.workUnitId = some wu ∧
    s.agentRuns.find? row.runId = some run ∧ row.workUnitId = some node.workUnitId ∧
    run.workUnitId = some node.workUnitId ∧ row.resultRef = wu.selectedResultRef ∧
    run.resultRef = wu.selectedResultRef
  delivered : ∃ node ∈ nodes, ∃ wu delivery, Delivers s node wu delivery ∧
    row.artifactHash ∈ (delivery.artifactRefs ++ delivery.verifiedArtifactRefs).filterMap truthy

/-- A verdict has the greatest number of those that belong to a selected result. -/
def Latest (s : DB) (taskId criterionId : String) (nodes : List RawNode)
    (row : AcceptanceEvidenceRow) : Prop :=
  ∃ k, s.acceptanceEvidence.find? k = some row ∧ Candidate s taskId criterionId nodes row ∧
    ∀ k' row', s.acceptanceEvidence.find? k' = some row' →
      Candidate s taskId criterionId nodes row' → k' ≠ k → row'.sequenceNo < row.sequenceNo

variable {criterionId k : String} {row row' : AcceptanceEvidenceRow}

theorem Latest.unique (h : Latest s taskId criterionId nodes row)
    (h' : Latest s taskId criterionId nodes row') : row = row' := by
  obtain ⟨k, hrow, hcandidate, hlatest⟩ := h
  obtain ⟨k', hrow', hcandidate', hlatest'⟩ := h'
  by_cases hk : k' = k
  · subst hk
    exact Option.some.inj (hrow.symm.trans hrow')
  · have hlt := hlatest k' row' hrow' hcandidate' hk
    have hgt := hlatest' k row hrow hcandidate (Ne.symm hk)
    omega

/-- The check of the evidence passes if every required criterion has evidence that is a PASS about a
hash. -/
theorem assertAcceptanceEvidence_iff {required : List Criterion} {evidence : List EvidenceItem} :
    assertAcceptanceEvidence required evidence s = .ok ((), s) ↔
      ∀ c ∈ required, ∃ item, evidenceFor evidence c.criterionId = some item ∧
        item.fixedHash ≠ none ∧ item.verdict = some .pass := by
  rw [assertAcceptanceEvidence]
  induction required with
  | nil => simp
  | cons c required ih =>
    rw [Tx.each_cons, Tx.bind_ok, List.forall_mem_cons]
    constructor
    · rintro ⟨_, t, hone, hrest⟩
      obtain ⟨item, t₁, hrequire, h₁⟩ := Tx.bind_ok.mp hone
      obtain ⟨hitem, rfl⟩ := Tx.require_ok.mp hrequire
      obtain ⟨_, t₂, hfixed, h₂⟩ := Tx.bind_ok.mp h₁
      obtain ⟨hhash, rfl⟩ := Tx.check_ok.mp hfixed
      obtain ⟨_, t₃, hfail, h₃⟩ := Tx.bind_ok.mp h₂
      obtain ⟨-, rfl⟩ := Tx.check_ok.mp hfail
      obtain ⟨hpass, rfl⟩ := Tx.check_ok.mp h₃
      exact ⟨⟨item, hitem, hhash, hpass⟩, ih.mp hrest⟩
    · rintro ⟨⟨item, hitem, hhash, hpass⟩, hrest⟩
      refine ⟨(), s, ?_, ih.mpr hrest⟩
      refine Tx.bind_ok.mpr ⟨item, s, Tx.require_ok.mpr ⟨hitem, rfl⟩, ?_⟩
      refine Tx.bind_ok.mpr ⟨(), s, Tx.check_ok.mpr ⟨hhash, rfl⟩, ?_⟩
      refine Tx.bind_ok.mpr ⟨(), s, Tx.check_ok.mpr ⟨?_, rfl⟩, Tx.check_ok.mpr ⟨hpass, rfl⟩⟩
      rw [hpass]
      intro hfail
      cases hfail

/-- A run of a unit has given its result a reference. -/
def HasResult (s : DB) (wuId ref runId : String) : Prop :=
  ∃ run, s.agentRuns.find? runId = some run ∧ run.workUnitId = some wuId ∧
    run.resultRef = some ref

/-- A unit that is done has selected a reference that two of its runs have given. -/
def SelectedTwice (s : DB) (node : RawNode) : Prop :=
  ∃ wu ref k k', s.workUnitExecutions.find? node.workUnitId = some wu ∧ wu.status = .done ∧
    truthy wu.selectedResultRef = some ref ∧ k ≠ k' ∧ HasResult s node.workUnitId ref k ∧
    HasResult s node.workUnitId ref k'

/-- The run of a result is found if only one run has given the reference. -/
theorem selectedRun_cases (s : DB) (wuId ref : String) :
    (∃ selected, selectedRun s wuId ref = .ok selected ∧
      ∀ k k', HasResult s wuId ref k → HasResult s wuId ref k' → k = k') ∨
    ∃ e k k', selectedRun s wuId ref = .error e ∧ e.kind = .uncaught ∧ k ≠ k' ∧
      HasResult s wuId ref k ∧ HasResult s wuId ref k' := by
  have hmem (k : String) : HasResult s wuId ref k ↔ k ∈ (s.agentRuns.select fun _ r ↦
      r.workUnitId == some wuId && r.resultRef == some ref).map Prod.fst := by
    simp only [HasResult, List.mem_map, Table.mem_select, Bool.and_eq_true, beq_iff_eq,
      Prod.exists, exists_and_right, exists_eq_right]
  have hnodup := Table.nodup_select s.agentRuns fun _ r ↦
    r.workUnitId == some wuId && r.resultRef == some ref
  rw [selectedRun]
  cases hrows : s.agentRuns.select fun _ r ↦
      r.workUnitId == some wuId && r.resultRef == some ref with
  | nil =>
    refine .inl ⟨none, rfl, fun k k' hk _ ↦ ?_⟩
    rw [hmem, hrows] at hk
    cases hk
  | cons r rest =>
    cases rest with
    | nil =>
      refine .inl ⟨some r.2, rfl, fun k k' hk hk' ↦ ?_⟩
      rw [hmem, hrows] at hk hk'
      exact (List.mem_singleton.mp hk).trans (List.mem_singleton.mp hk').symm
    | cons r' rest =>
      rw [hrows] at hnodup hmem
      refine .inr ⟨_, r.1, r'.1, rfl, rfl, ?_, (hmem _).mpr List.mem_cons_self,
        (hmem _).mpr (List.mem_cons_of_mem _ List.mem_cons_self)⟩
      intro heq
      rw [List.map_cons, List.nodup_cons] at hnodup
      exact hnodup.1 (heq ▸ List.mem_cons_self)

theorem nodeDeliveryHashes_cases (s : DB) (node : RawNode) :
    (∃ hashes, nodeDeliveryHashes s node = .ok hashes ∧ ¬SelectedTwice s node) ∨
      ∃ e, nodeDeliveryHashes s node = .error e ∧ e.kind = .uncaught ∧ SelectedTwice s node := by
  rw [nodeDeliveryHashes]
  cases hwu : s.workUnitExecutions.find? node.workUnitId with
  | none =>
    refine .inl ⟨[], rfl, ?_⟩
    rintro ⟨wu, _, _, _, hfound, -⟩
    cases hwu.symm.trans hfound
  | some wu =>
    cases href : truthy wu.selectedResultRef with
    | none =>
      refine .inl ⟨[], by simp only [href], ?_⟩
      rintro ⟨wu', ref, _, _, hfound, -, hselected, -⟩
      obtain rfl := Option.some.inj (hwu.symm.trans hfound)
      cases href.symm.trans hselected
    | some ref =>
      simp only [href]
      by_cases hdone : wu.status = .done
      swap
      · refine .inl ⟨[], if_pos hdone, ?_⟩
        rintro ⟨wu', _, _, _, hfound, hstatus, -⟩
        obtain rfl := Option.some.inj (hwu.symm.trans hfound)
        exact hdone hstatus
      rw [if_neg (not_not.mpr hdone)]
      rcases selectedRun_cases s node.workUnitId ref with
        ⟨selected, hok, hone⟩ | ⟨e, k, k', herror, hkind, hne, hk, hk'⟩
      · have htwice : ¬SelectedTwice s node := by
          rintro ⟨wu', ref', k, k', hfound, -, hselected, hne, hk, hk'⟩
          obtain rfl := Option.some.inj (hwu.symm.trans hfound)
          obtain rfl := Option.some.inj (href.symm.trans hselected)
          exact hne (hone k k' hk hk')
        rw [hok]
        cases selected with
        | none => exact .inl ⟨[], rfl, htwice⟩
        | some run => exact .inl ⟨_, rfl, htwice⟩
      · rw [herror]
        exact .inr ⟨e, rfl, hkind, wu, ref, k, k', hwu, hdone, href, hne, hk, hk'⟩

/-- The hashes that are delivered are found if no unit has selected a reference twice. -/
theorem currentDeliveryHashes_cases (s : DB) (nodes : List RawNode) :
    (∃ hashes, currentDeliveryHashes s nodes = .ok hashes ∧
      ∀ node ∈ nodes, ¬SelectedTwice s node) ∨
    ∃ e, currentDeliveryHashes s nodes = .error e ∧ e.kind = .uncaught ∧
      ∃ node ∈ nodes, SelectedTwice s node := by
  have hmap : (∃ lists, nodes.mapM (nodeDeliveryHashes s) = .ok lists ∧
      ∀ node ∈ nodes, ¬SelectedTwice s node) ∨
      ∃ e, nodes.mapM (nodeDeliveryHashes s) = .error e ∧ e.kind = .uncaught ∧
        ∃ node ∈ nodes, SelectedTwice s node := by
    induction nodes with
    | nil => exact .inl ⟨[], rfl, nofun⟩
    | cons node nodes ih =>
      rw [List.mapM_cons]
      rcases nodeDeliveryHashes_cases s node with
        ⟨hashes, hok, hone⟩ | ⟨e, herror, hkind, htwice⟩
      · rw [hok]
        rcases ih with ⟨lists, hrest, hall⟩ | ⟨e, hrest, hkind, node', hnode', htwice⟩
        · rw [hrest]
          exact .inl ⟨_, rfl, List.forall_mem_cons.mpr ⟨hone, hall⟩⟩
        · rw [hrest]
          exact .inr ⟨e, rfl, hkind, node', List.mem_cons_of_mem _ hnode', htwice⟩
      · rw [herror]
        exact .inr ⟨e, rfl, hkind, node, List.mem_cons_self, htwice⟩
  rw [currentDeliveryHashes]
  rcases hmap with ⟨lists, hok, hall⟩ | ⟨e, herror, hrest⟩
  · rw [hok]
    exact .inl ⟨_, rfl, hall⟩
  · rw [herror]
    exact .inr ⟨e, rfl, hrest⟩

/-! ## Preparations -/

/-- What a preparation has checked when it comes to the evidence. -/
structure Assembled (env : Env) (s : DB) (taskId : String) (task : TaskRow) (version : Nat)
    (contract : ContractRow) (marker : ActivePlanMarker) (plan : PlanRow) : Prop where
  found : s.tasks.find? taskId = some task
  contractMarker : s.activeContractMarkers.find? taskId = some ⟨version⟩
  authorised : s.contracts.find? (taskId, version) = some contract
  known : (s.sideEffects.select fun _ e ↦ e.taskId == taskId && e.state == .unknown) = []
  gates : otherBlockingGates s taskId none = []
  writers : taskHasLiveWriter env s taskId = false
  planMarker : s.activePlanMarkers.find? taskId = some marker
  planned : s.plans.find? (taskId, marker.planVersion) = some plan
  done : ∀ node ∈ plan.nodes, ∃ wu ref, s.workUnitExecutions.find? node.workUnitId = some wu ∧
    wu.status = .done ∧ truthy wu.selectedResultRef = some ref

/-- A node is done and has selected a result. -/
def NodeDone (s : DB) (node : RawNode) : Prop :=
  ∃ wu ref, s.workUnitExecutions.find? node.workUnitId = some wu ∧ wu.status = .done ∧
    truthy wu.selectedResultRef = some ref

/-- What a node contributes is found exactly if it is done and has selected a result. -/
theorem nodeDeliverable_cases (s : DB) (node : RawNode) :
    (∃ d, nodeDeliverable node s = .ok (d, s) ∧ NodeDone s node) ∨
      ∃ e, nodeDeliverable node s = .error e ∧ e.kind ≠ .uncaught ∧ ¬NodeDone s node := by
  rw [nodeDeliverable, Tx.bind_of_ok (Tx.get_ok.mpr ⟨rfl, rfl⟩)]
  cases hdone : (s.workUnitExecutions.find? node.workUnitId).filter (·.status == .done) with
  | none =>
    refine .inr ⟨_, Tx.bind_of_error rfl, nofun, ?_⟩
    rintro ⟨wu, ref, hwu, hstatus, -⟩
    rw [hwu, Option.filter_some, hstatus] at hdone
    cases hdone
  | some wu =>
    obtain ⟨hwu, hstatus⟩ := Option.filter_eq_some_iff.mp hdone
    rw [Tx.bind_of_ok (Tx.require_ok.mpr ⟨rfl, rfl⟩)]
    cases href : truthy wu.selectedResultRef with
    | none =>
      refine .inr ⟨_, Tx.bind_of_error rfl, nofun, ?_⟩
      rintro ⟨wu', ref, hwu', -, hselected⟩
      obtain rfl := Option.some.inj (hwu.symm.trans hwu')
      cases href.symm.trans hselected
    | some ref =>
      rw [Tx.bind_of_ok (Tx.require_ok.mpr ⟨rfl, rfl⟩)]
      exact .inl ⟨_, rfl, wu, ref, hwu, beq_iff_eq.mp hstatus, href⟩

theorem nodeDeliverables_cases (s : DB) (nodes : List RawNode) :
    (∃ ds, nodeDeliverables nodes s = .ok (ds, s) ∧ ∀ node ∈ nodes, NodeDone s node) ∨
      ∃ e, nodeDeliverables nodes s = .error e ∧ e.kind ≠ .uncaught ∧
        ¬∀ node ∈ nodes, NodeDone s node := by
  have hfold (acc : List DeliverableResult) :
      (∃ ds, Tx.fold (fun acc node ↦ do return acc ++ [← nodeDeliverable node]) acc nodes s =
        .ok (ds, s) ∧ ∀ node ∈ nodes, NodeDone s node) ∨
      ∃ e, Tx.fold (fun acc node ↦ do return acc ++ [← nodeDeliverable node]) acc nodes s =
        .error e ∧ e.kind ≠ .uncaught ∧ ¬∀ node ∈ nodes, NodeDone s node := by
    induction nodes generalizing acc with
    | nil => exact .inl ⟨acc, rfl, nofun⟩
    | cons node nodes ih =>
      rw [Tx.fold_cons]
      rcases nodeDeliverable_cases s node with ⟨d, hok, hdone⟩ | ⟨e, herror, hkind, hopen⟩
      · rw [Tx.bind_of_ok (Tx.bind_of_ok hok)]
        rcases ih (acc ++ [d]) with ⟨ds, hrest, hall⟩ | ⟨e, hrest, hkind, hsome⟩
        · exact .inl ⟨ds, hrest, List.forall_mem_cons.mpr ⟨hdone, hall⟩⟩
        · exact .inr ⟨e, hrest, hkind, fun hall ↦ hsome (List.forall_mem_cons.mp hall).2⟩
      · refine .inr ⟨e, Tx.bind_of_error (Tx.bind_of_error herror), hkind, fun hall ↦ ?_⟩
        exact hopen (hall node List.mem_cons_self)
  exact hfold []

variable {task : TaskRow} {version : Nat} {deliverables : List DeliverableResult}
  {evidence : List EvidenceItem}

variable {contract : ContractRow} {plan : PlanRow} {required : List Criterion}
  {extra : List EvidenceItem}

/-- The evidence cannot be built if a unit has selected a reference twice. -/
theorem buildAcceptanceEvidence_twice (taskId : String) (required : List Criterion)
    (extra : List EvidenceItem) (h : ∃ node ∈ nodes, SelectedTwice s node) :
    ∃ e, buildAcceptanceEvidence taskId nodes required extra s = .error e ∧
      e.kind = .uncaught := by
  rw [buildAcceptanceEvidence, Tx.bind_of_ok (Tx.get_ok.mpr ⟨rfl, rfl⟩)]
  rcases currentDeliveryHashes_cases s nodes with ⟨hashes, -, hnone⟩ | ⟨e, herror, hkind, -⟩
  · obtain ⟨node, hnode, htwice⟩ := h
    exact absurd htwice (hnone node hnode)
  · rw [herror]
    exact ⟨e, Tx.bind_of_error rfl, hkind⟩

variable {marker : ActivePlanMarker}

theorem Assembled.unique {task' : TaskRow} {version' : Nat} {contract' : ContractRow}
    {marker' : ActivePlanMarker} {plan' : PlanRow}
    (h : Assembled env s taskId task version contract marker plan)
    (h' : Assembled env s taskId task' version' contract' marker' plan') :
    task = task' ∧ contract = contract' ∧ plan = plan' := by
  obtain rfl := Option.some.inj (h.found.symm.trans h'.found)
  obtain rfl : version = version' := by
    have heq := Option.some.inj (h.contractMarker.symm.trans h'.contractMarker)
    exact congrArg ActiveContractMarker.contractVersion heq
  obtain rfl := Option.some.inj (h.authorised.symm.trans h'.authorised)
  obtain rfl := Option.some.inj (h.planMarker.symm.trans h'.planMarker)
  exact ⟨rfl, rfl, Option.some.inj (h.planned.symm.trans h'.planned)⟩

end HibikiCore
