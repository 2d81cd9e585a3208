import HibikiCore.Application.Submission
import HibikiCore.System.Transactions

/-!
# The status of runs

Every transaction but the acknowledgement of a start leaves the status of a run or ends the run, and
it ends it along the transition table. Since an ended run has no way on, this is a preorder on rows,
and the transactions are followed along it. The acknowledgement of a start is one more edge.
-/

namespace HibikiCore

set_option synthInstance.maxSize 100000000
set_option synthInstance.maxHeartbeats 400000

/-- The tables beside `agentRuns`. -/
abbrev besideRuns : List Relation :=
  [.tasks, .contracts, .activeContractMarkers, .explanations, .decisions, .gates, .plans,
    .activePlanMarkers, .workUnitSpecs, .workUnitExecutions, .plannerSessions,
    .activeExecuteRunMarkers, .activePlanRunMarkers, .workspaces, .contextManifests,
    .sideEffects, .events, .inbox, .outbox, .idempotencyKeys, .resultSnapshots, .artifacts,
    .acceptanceEvidence, .agentProfiles, .runInputs, .toolInvocations, .contextAppends,
    .taskMessages]

instance : Faithful Refs.agentRuns := ⟨id⟩

instance {n : Relation} [h : Touches n besideRuns] : Beside Refs.agentRuns n where
  ne := by
    rintro rfl
    exact absurd h.mem (by decide)

/-- The tables that say what a run occupies. -/
abbrev occupancyTables : List Relation :=
  [.activePlanRunMarkers, .plannerSessions, .activeExecuteRunMarkers, .workUnitExecutions,
    .workspaces]

/-! ## Edges -/

theorem runTransitions_terminal {status : AgentRunStatus} (h : status.isTerminal = true)
    (event : RunEvent) : runTransitions status event = none := by
  cases status <;> simp_all [AgentRunStatus.isTerminal] <;> cases event <;> rfl

theorem runTransitions_cancel {status : AgentRunStatus} (h : status.isActive = true) :
    runTransitions status .cancel = some .cancelled := by
  cases status <;> simp_all [AgentRunStatus.isActive, AgentRunStatus.isTerminal, runTransitions]

/-- A run keeps its status, or it ends. -/
def RunEnds (a b : AgentRunRow) : Prop :=
  b.status = a.status ∨
    b.status.isTerminal = true ∧ ∃ event, runTransitions a.status event = some b.status

/-- A run keeps its status, or takes an edge of the table. -/
def RunMoves (a b : AgentRunRow) : Prop :=
  b.status = a.status ∨ ∃ event, runTransitions a.status event = some b.status

instance : Preord RunEnds where
  refl a := .inl rfl
  trans {a b c} h h' := by
    rcases h' with hsame | ⟨hterminal, event, hedge⟩
    · rw [RunEnds, hsame]
      exact h
    · rcases h with hsame | ⟨hended, -⟩
      · rw [hsame] at hedge
        exact .inr ⟨hterminal, event, hedge⟩
      · rw [runTransitions_terminal hended] at hedge
        cases hedge

theorem RunEnds.moves {a b : AgentRunRow} (h : RunEnds a b) : RunMoves a b :=
  h.imp id And.right

/-- An active run is cancelled. -/
theorem RunEnds.cancel {a b : AgentRunRow} (h : a.status.isActive = true)
    (hb : b.status = .cancelled) : RunEnds a b := by
  refine .inr ⟨by rw [hb]; rfl, .cancel, ?_⟩
  rw [hb, runTransitions_cancel h]

/-- An ended run keeps its status. -/
theorem RunMoves.terminal {a b : AgentRunRow} (h : RunMoves a b)
    (ha : a.status.isTerminal = true) : b.status = a.status := by
  rcases h with hsame | ⟨event, hedge⟩
  · exact hsame
  · rw [runTransitions_terminal ha] at hedge
    cases hedge

/-- Runs keep their status or end. -/
abbrev RunsEnd : DB → DB → Prop := Moves Refs.agentRuns RunEnds

variable {env : Env} {auth : AuthContext} {p : Payload} {task : TaskRow} {run : AgentRunRow}
  {row : OutboxRow} {flushed s s' : DB} {taskId runId wuId outboxId sessionId : String}

namespace RunsEnd

/-- An update that leaves the status. -/
theorem update_same {f : AgentRunRow → AgentRunRow} {hf : ∀ a, SameFixed a (f a)}
    (h : ∀ a, (f a).status = a.status) :
    Respects RunsEnd (Refs.agentRuns.update runId f hf : Core Unit) :=
  Moves.update fun a ↦ .inl (h a)

/-- An update that cancels a run that is active. -/
theorem update_cancel {f : AgentRunRow → AgentRunRow} {hf : ∀ a, SameFixed a (f a)}
    (hfind : s.agentRuns.find? runId = some run) (hactive : run.status.isActive = true)
    (hcancel : ∀ a, (f a).status = .cancelled)
    (h : (Refs.agentRuns.update runId f hf : Core Unit) s = .ok ((), s')) : RunsEnd s s' := by
  refine Moves.of_update (fun a ha ↦ ?_) h
  obtain rfl := Option.some.inj (hfind.symm.trans ha)
  exact .cancel hactive (hcancel run)

/-! ## Revoked runs -/

instance revokeUnsentStart_respects :
    Respects RunsEnd (revokeUnsentStart env outboxId runId task) where
  rel {s _ s'} h := by
    rw [revokeUnsentStart] at h
    obtain ⟨_, t, hkill, h₁⟩ := Tx.bind_ok.mp h
    have hkilled : RunsEnd s t := Respects.rel hkill
    refine Preord.trans hkilled ?_
    rw [Tx.get_bind_ok] at h₁
    rcases Tx.withSome_ok.mp h₁ with ⟨run, hrun, h₂⟩ | ⟨-, rfl⟩
    · rcases Tx.when_ok.mp h₂ with ⟨hcreated, h₃⟩ | ⟨-, rfl⟩
      · obtain ⟨_, u, hcancel, hrest⟩ := Tx.bind_ok.mp h₃
        have hactive : run.status.isActive = true := by rw [hcreated]; rfl
        have hcancelled : RunsEnd t u := update_cancel hrun hactive (fun _ ↦ rfl) hcancel
        exact Preord.trans hcancelled (Respects.rel hrest)
      · exact Preord.refl _
    · exact Preord.refl _

/-- The run of an unsent start that is not needed any more was created, and is cancelled. -/
theorem cancelUnsentStart_ends (hrun : s.agentRuns.find? runId = some run)
    (hcreated : run.status = .created)
    (h : cancelUnsentStart env taskId runId s = .ok ((), s')) : RunsEnd s s' := by
  rw [cancelUnsentStart, Tx.get_bind_ok] at h
  -- a second start row finds the run cancelled already
  have hloop := Tx.each_induct (P := fun t ↦ RunsEnd s t ∧ ∃ run,
    t.agentRuns.find? runId = some run ∧ (run.status = .created ∨ run.status = .cancelled))
    ?_ ⟨Preord.refl s, run, hrun, .inl hcreated⟩ h
  · exact hloop.1
  · rintro r - t t' ⟨hends, run, hrun, hstatus⟩ hround
    obtain ⟨_, t₁, hkill, h₁⟩ := Tx.bind_ok.mp hround
    obtain ⟨_, t₂, hcancel, hclear⟩ := Tx.bind_ok.mp h₁
    have hkilled : Writes [.outbox] t t₁ := Respects.rel hkill
    have hruns₁ : t.agentRuns = t₁.agentRuns := (hkilled .agentRuns).2 (by decide)
    have hcleared : Writes occupancyTables t₂ t' := Respects.rel hclear
    have hruns₂ : t₂.agentRuns = t'.agentRuns := (hcleared .agentRuns).2 (by decide)
    rw [hruns₁] at hrun
    have hcancelled : RunsEnd t₁ t₂ := by
      refine Moves.of_update (fun a ha ↦ ?_) hcancel
      obtain rfl := Option.some.inj (hrun.symm.trans ha)
      rcases hstatus with hcreated | hcancelled
      · exact .cancel (by rw [hcreated]; rfl) rfl
      · exact .inl hcancelled.symm
    refine ⟨Preord.trans hends (Preord.trans (Moves.of_read hruns₁)
      (Preord.trans hcancelled (Moves.of_read hruns₂))), ?_⟩
    obtain rfl := Ref.update_ok.mp hcancel
    rw [← hruns₂]
    exact ⟨_, by rw [Refs.agentRuns.read_write, Table.find?_modify_self, hrun]; rfl, .inr rfl⟩

instance stopRemovedUnit_respects {wu : WorkUnitExecutionRow} :
    Respects RunsEnd (stopRemovedUnit env flushed taskId wu) where
  rel {s _ s'} h := by
    rw [stopRemovedUnit, Tx.get_bind_ok] at h
    rcases Tx.withSome_ok.mp h with ⟨runId, -, h₁⟩ | ⟨-, rfl⟩
    · rcases Tx.withSome_ok.mp h₁ with ⟨run, hrun, h₂⟩ | ⟨-, rfl⟩
      · rcases Tx.when_ok.mp h₂ with ⟨-, h₃⟩ | ⟨-, rfl⟩
        · obtain ⟨_, t, hstop, h₄⟩ := Tx.bind_ok.mp h₃
          have hstopped : Writes [.outbox] s t := Respects.rel hstop
          have hruns : s.agentRuns = t.agentRuns := (hstopped .agentRuns).2 (by decide)
          refine Preord.trans (Moves.of_read hruns) ?_
          rcases Tx.when_ok.mp h₄ with ⟨hcreated, h₅⟩ | ⟨-, rfl⟩
          · exact cancelUnsentStart_ends (hruns ▸ hrun) hcreated h₅
          · exact Preord.refl _
        · exact Preord.refl _
      · exact Preord.refl _
    · exact Preord.refl _

instance revokePlanRun_respects :
    Respects RunsEnd (revokePlanRun env flushed taskId sessionId) where
  rel {s _ s'} h := by
    rw [revokePlanRun, Tx.get_bind_ok] at h
    obtain ⟨_, t, hrevoke, hrest⟩ := Tx.bind_ok.mp h
    refine Preord.trans ?_ (Respects.rel hrest)
    rcases Tx.withSome_ok.mp hrevoke with ⟨marker, -, h₁⟩ | ⟨-, rfl⟩
    · rcases Tx.ite_ok.mp h₁ with ⟨hactive, h₂⟩ | ⟨-, h₂⟩
      · obtain ⟨run, hrun, hstatus⟩ := (Option.any_eq_true _ _).mp hactive
        obtain ⟨_, u, hcancel, h₃⟩ := Tx.bind_ok.mp h₂
        have hcancelled : RunsEnd s u := update_cancel hrun hstatus (fun _ ↦ rfl) hcancel
        exact Preord.trans hcancelled (Respects.rel h₃)
      · exact Respects.rel h₂
    · exact Preord.refl _

/-! ## Paused, cancelled and gated runs -/

/-- A run is active. -/
def ActiveIn (s : DB) (runId : String) : Prop :=
  ∃ run, s.agentRuns.find? runId = some run ∧ run.status.isActive = true

theorem cancelPausedRun_ends (hactive : ActiveIn s runId)
    (h : cancelPausedRun env runId s = .ok ((), s')) :
    RunsEnd s s' ∧ ∀ runId', runId' ≠ runId → ActiveIn s runId' → ActiveIn s' runId' := by
  obtain ⟨run, hrun, hstatus⟩ := hactive
  obtain ⟨_, t, hcancel, hclear⟩ := Tx.bind_ok.mp h
  have hcancelled : RunsEnd s t := update_cancel hrun hstatus (fun _ ↦ rfl) hcancel
  have hcleared : Writes occupancyTables t s' := Respects.rel hclear
  have hruns : t.agentRuns = s'.agentRuns := (hcleared .agentRuns).2 (by decide)
  refine ⟨Preord.trans hcancelled (Moves.of_read hruns), ?_⟩
  rintro runId' hne ⟨run', hrun', hstatus'⟩
  refine ⟨run', ?_, hstatus'⟩
  obtain rfl := Ref.update_ok.mp hcancel
  rw [← hruns]
  exact (Table.find?_modify_of_ne hne _ _).trans hrun'

theorem cancelPausedRuns_ends (h : Tx.each (activeRuns s taskId) (cancelPausedRun env) s
      = .ok ((), s')) : RunsEnd s s' := by
  refine Tx.each_keys (P := RunsEnd s) (H := ActiveIn) (Table.nodup_select _ _) ?_
    (Preord.refl s) ?_ h
  · intro runId _ t t' ht hactive hround
    obtain ⟨hends, hkeep⟩ := cancelPausedRun_ends hactive hround
    exact ⟨Preord.trans ht hends, hkeep⟩
  · intro runId hmem
    obtain ⟨r, hr, rfl⟩ := List.mem_map.mp hmem
    obtain ⟨hrun, hp⟩ := Table.mem_select.mp hr
    exact ⟨r.2, hrun, (Bool.and_eq_true_iff.mp hp).2⟩

instance runtimeQuiescent_respects : Respects RunsEnd (runtimeQuiescent env auth p) where
  rel {s _ s'} h := by
    obtain ⟨taskId, t₁, hkey, h₁⟩ := Tx.bind_ok.mp h
    obtain ⟨-, rfl⟩ := key_ok.mp hkey
    obtain ⟨task, t₂, hget, h₂⟩ := Tx.bind_ok.mp h₁
    obtain ⟨-, rfl⟩ := getTask_ok.mp hget
    obtain ⟨_, t₃, hcheck, h₃⟩ := Tx.bind_ok.mp h₂
    obtain ⟨-, rfl⟩ := Tx.check_ok.mp hcheck
    rw [Tx.get_bind_ok] at h₃
    obtain ⟨_, t₄, hwriter, h₄⟩ := Tx.bind_ok.mp h₃
    obtain ⟨-, rfl⟩ := Tx.check_ok.mp hwriter
    obtain ⟨_, t₅, hblock, h₅⟩ := Tx.bind_ok.mp h₄
    obtain ⟨_, t₆, hloop, hrest⟩ := Tx.bind_ok.mp h₅
    have hblocked : Writes [.workUnitExecutions] t₄ t₅ := Respects.rel hblock
    have hruns : t₄.agentRuns = t₅.agentRuns := (hblocked .agentRuns).2 (by decide)
    rw [show activeRuns t₄ taskId = activeRuns t₅ taskId by rw [activeRuns, hruns, activeRuns]]
      at hloop
    exact Preord.trans (Moves.of_read hruns)
      (Preord.trans (cancelPausedRuns_ends hloop) (Respects.rel hrest))

instance cancellationSettled_respects : Respects RunsEnd (cancellationSettled env auth p) := by
  have hcancel (taskId : String) : Respects RunsEnd (Refs.agentRuns.updateWhere
      (fun _ r ↦ r.taskId == taskId && r.status.isActive) fun r ↦
        { r with status := .cancelled, finishedAt := some env.now } : Core Unit) :=
    Moves.updateWhere fun _ _ hp ↦ .cancel (Bool.and_eq_true_iff.mp hp).2 rfl
  rw [cancellationSettled]
  infer_instance

instance blockGatedRun_respects {reason : WaitingReason} :
    Respects RunsEnd (blockGatedRun env flushed taskId runId reason) where
  rel {s _ s'} h := by
    rw [blockGatedRun, Tx.get_bind_ok] at h
    rcases Tx.withSome_ok.mp h with ⟨run, hrun, h₁⟩ | ⟨-, rfl⟩
    · rcases Tx.withSome_ok.mp h₁ with ⟨wuId, -, h₂⟩ | ⟨-, rfl⟩
      · obtain ⟨_, t₁, hblock, h₃⟩ := Tx.bind_ok.mp h₂
        obtain ⟨_, t₂, hmarker, h₄⟩ := Tx.bind_ok.mp h₃
        obtain ⟨_, t₃, hend, hstop⟩ := Tx.bind_ok.mp h₄
        have hblocked : Writes occupancyTables s t₁ := Respects.rel hblock
        have hdropped : Writes occupancyTables t₁ t₂ := Respects.rel hmarker
        have hruns₁ : s.agentRuns = t₁.agentRuns := (hblocked .agentRuns).2 (by decide)
        have hruns₂ : t₁.agentRuns = t₂.agentRuns := (hdropped .agentRuns).2 (by decide)
        have hsame : RunsEnd s t₂ := Moves.of_read (hruns₁.trans hruns₂)
        refine Preord.trans hsame (Preord.trans ?_ (Respects.rel hstop))
        rcases Tx.when_ok.mp hend with ⟨hrunning, hupdate⟩ | ⟨-, rfl⟩
        · refine Moves.of_update (fun a ha ↦ ?_) hupdate
          rw [hruns₁, hruns₂] at hrun
          obtain rfl := Option.some.inj (hrun.symm.trans ha)
          exact .inr ⟨rfl, .succeed, by rw [hrunning]; rfl⟩
        · exact Preord.refl _
      · exact Preord.refl _
    · exact Preord.refl _

/-! ## Stopped and lost runs -/

instance ackStop_respects {reason : String} {result : StopResult} :
    Respects RunsEnd (ackStop env outboxId runId reason result) where
  rel {s _ s'} h := by
    obtain ⟨_, t₁, hack, h₁⟩ := Tx.bind_ok.mp h
    refine Preord.trans (Respects.rel hack) ?_
    rw [Tx.get_bind_ok] at h₁
    rcases Tx.withSome_ok.mp h₁ with ⟨run, hrun, h₂⟩ | ⟨-, rfl⟩
    · obtain ⟨_, t₂, hworkspace, h₃⟩ := Tx.bind_ok.mp h₂
      obtain ⟨_, t₃, hsettle, hevent⟩ := Tx.bind_ok.mp h₃
      have hsettled : Writes occupancyTables t₁ t₂ := Respects.rel hworkspace
      have hruns : t₁.agentRuns = t₂.agentRuns := (hsettled .agentRuns).2 (by decide)
      refine Preord.trans (Moves.of_read hruns) (Preord.trans ?_ (Respects.rel hevent))
      rcases Tx.when_ok.mp hsettle with ⟨⟨-, hactive⟩, hrun'⟩ | ⟨-, rfl⟩
      · obtain ⟨_, t₄, hcancel, hrest⟩ := Tx.bind_ok.mp hrun'
        have hcancelled : RunsEnd t₂ t₄ :=
          update_cancel (hruns ▸ hrun) hactive (fun _ ↦ rfl) hcancel
        exact Preord.trans hcancelled (Respects.rel hrest)
      · exact Preord.refl _
    · exact Preord.refl _

theorem loseRun_ends (hrun : s.agentRuns.find? runId = some run)
    (hrunning : run.status = .running) (h : loseRun env taskId runId s = .ok ((), s')) :
    RunsEnd s s' := by
  obtain ⟨_, t, hlose, hrest⟩ := Tx.bind_ok.mp h
  refine Preord.trans (Moves.of_update (fun a ha ↦ ?_) hlose) (Respects.rel hrest)
  obtain rfl := Option.some.inj (hrun.symm.trans ha)
  exact .inr ⟨rfl, .lost, by rw [hrunning]; rfl⟩

instance reconcileRun_respects {notes : List String} :
    Respects RunsEnd (reconcileRun env taskId notes runId) where
  rel {s _ s'} h := by
    obtain ⟨run, t, hget, h₁⟩ := Tx.bind_ok.mp h
    obtain ⟨hrun, rfl⟩ := getRun_ok.mp hget
    rcases Tx.ite_ok.mp h₁ with ⟨-, h₂⟩ | ⟨-, h₂⟩
    · exact Respects.rel h₂
    · rcases Tx.ite_ok.mp h₂ with ⟨-, h₃⟩ | ⟨hrunning, h₃⟩
      · exact Respects.rel h₃
      · rcases Tx.ite_ok.mp h₃ with ⟨-, h₄⟩ | ⟨-, h₄⟩
        · obtain ⟨_, u, hlose, hnotes⟩ := Tx.bind_ok.mp h₄
          exact Preord.trans (loseRun_ends hrun (not_not.mp hrunning) hlose) (Respects.rel hnotes)
        · exact Respects.rel h₄

/-! ## Results -/

instance recordLateResult_respects {result : RunResult} {event : String} {data : Data} :
    Respects RunsEnd (recordLateResult env auth runId run result event data) := by
  have hsame : Respects RunsEnd (Refs.agentRuns.update runId fun r ↦
      { r with lateArrival := true, result := some result } : Core Unit) :=
    update_same fun _ ↦ rfl
  rw [recordLateResult]
  infer_instance

/-- A run that succeeds. -/
theorem update_succeed {next : AgentRunStatus} {f : AgentRunRow → AgentRunRow}
    {hf : ∀ a, SameFixed a (f a)} (hrun : s.agentRuns.find? runId = some run)
    (hnext : runTransitions run.status .succeed = some next) (hstatus : ∀ a, (f a).status = next)
    (h : (Refs.agentRuns.update runId f hf : Core Unit) s = .ok ((), s')) : RunsEnd s s' := by
  refine Moves.of_update (fun a ha ↦ ?_) h
  obtain rfl := Option.some.inj (hrun.symm.trans ha)
  have hterminal : next.isTerminal = true := by
    cases hs : run.status <;> rw [hs] at hnext <;> cases hnext
    rfl
  exact .inr ⟨by rw [hstatus, hterminal], .succeed, by rw [hstatus, hnext]⟩

theorem recordSupersededResult_ends {result : RunResult} {ref : String} {reply : CommandResult}
    (hrun : s.agentRuns.find? runId = some run)
    (h : recordSupersededResult env auth runId wuId run result ref s = .ok (reply, s')) :
    RunsEnd s s' := by
  obtain ⟨next, t, hrequire, h₁⟩ := Tx.bind_ok.mp h
  obtain ⟨hnext, rfl⟩ := Tx.require_ok.mp hrequire
  obtain ⟨_, u, hend, hrest⟩ := Tx.bind_ok.mp h₁
  have hended : RunsEnd t u := update_succeed hrun hnext (fun _ ↦ rfl) hend
  exact Preord.trans hended (Respects.rel hrest)

theorem acceptRunResult_ends {result : RunResult} {ref : String} {reply : CommandResult}
    (hrun : s.agentRuns.find? runId = some run)
    (h : acceptRunResult env auth runId run result ref s = .ok (reply, s')) : RunsEnd s s' := by
  obtain ⟨next, t, hrequire, h₁⟩ := Tx.bind_ok.mp h
  obtain ⟨hnext, rfl⟩ := Tx.require_ok.mp hrequire
  obtain ⟨_, u, hend, hrest⟩ := Tx.bind_ok.mp h₁
  have hended : RunsEnd t u := update_succeed hrun hnext (fun _ ↦ rfl) hend
  exact Preord.trans hended (Respects.rel hrest)

instance submitResult_respects : Respects RunsEnd (submitResult env auth p) where
  rel {s reply s'} h := by
    have hdraw (n : Nat) : RunsEnd s { s with drawn := n } := Moves.of_read rfl
    cases submitResult_ok h with
    | stopped _ _ _ ran => exact Respects.rel ran
    | overtaken _ _ _ _ ran => exact Respects.rel ran
    | marked =>
      have hsame (runId : String) : Respects RunsEnd (Refs.agentRuns.update runId fun r ↦
        { r with lateArrival := true } : Core Unit) := update_same fun _ ↦ rfl
      exact (hsame _).rel (a := ()) (Ref.update_ok.mpr rfl)
    | superseded _ found _ ran =>
      refine Preord.trans (hdraw _) (recordSupersededResult_ends ?_ ran)
      exact found
    | accepted accepts ran =>
      refine Preord.trans (hdraw _) (acceptRunResult_ends ?_ ran)
      exact accepts.found

/-! ## What leaves the status -/

instance registerSandboxIdentity_respects :
    Respects RunsEnd (registerSandboxIdentity env auth p) := by
  have hcontainer (runId container : String) : Respects RunsEnd (Refs.agentRuns.update runId
      fun r ↦ { r with sandboxContainerId := some container } : Core Unit) :=
    update_same fun _ ↦ rfl
  have hexit (runId : String) (confirmed : Bool) : Respects RunsEnd (Refs.agentRuns.update runId
      fun r ↦ { r with sandboxExitUnconfirmed := !confirmed } : Core Unit) :=
    update_same fun _ ↦ rfl
  rw [registerSandboxIdentity]
  infer_instance

instance heartbeat_respects : Respects RunsEnd (heartbeat env auth p) := by
  have hbeat (runId : String) : Respects RunsEnd (Refs.agentRuns.update runId fun r ↦
      { r with
        lastHeartbeatAt := some env.now
        leaseExpiresAt := env.now + Defaults.leaseSeconds } : Core Unit) :=
    update_same fun _ ↦ rfl
  rw [heartbeat]
  infer_instance

instance createExecuteRun_respects {r : RunIdentity} {attempt : Nat} :
    Respects RunsEnd (createExecuteRun env auth taskId task r attempt) := by
  rw [createExecuteRun]
  infer_instance

instance createPlanRun_respects {session : PlannerSessionRow} :
    Respects RunsEnd (createPlanRun env auth p taskId task sessionId session) := by
  rw [createPlanRun]
  infer_instance

instance handler_respects {operation : Operation} :
    Respects RunsEnd (handler env auth p operation) := by
  cases operation <;> (dsimp only [handler]; infer_instance)

end RunsEnd

/-! ## Steps -/

/-- The acknowledgement of a start moves a created run, and leaves every other run. -/
theorem ackOutboxAndMarkRunning_runs
    (h : ackOutboxAndMarkRunning env outboxId runId s = .ok ((), s')) :
    s'.agentRuns = s.agentRuns ∨
      s'.agentRuns = s.agentRuns.modifyWhere (fun k r ↦ k == runId && r.status == .created)
        fun r ↦ { r with status := .running, startedAt := some env.now } := by
  rw [ackOutboxAndMarkRunning, Tx.get_bind_ok] at h
  rcases Tx.ite_ok.mp h with ⟨-, hfence⟩ | ⟨-, hrun⟩
  · have hfenced : Writes [.outbox, .workspaces] s s' := Respects.rel hfence
    exact .inl ((hfenced .agentRuns).2 (by decide)).symm
  · obtain ⟨_, t, hack, hmark⟩ := Tx.bind_ok.mp hrun
    have hacked : Writes [.outbox] s t := Respects.rel hack
    have hruns : s.agentRuns = t.agentRuns := (hacked .agentRuns).2 (by decide)
    obtain rfl := Ref.updateWhere_ok.mp hmark
    rw [hruns]
    exact .inr rfl

/-- Whatever a relation says of the start of a created run holds of an acknowledgement. -/
theorem ackOutboxAndMarkRunning_moves {le : AgentRunRow → AgentRunRow → Prop}
    (hrefl : ∀ a, le a a)
    (hstart : ∀ a, a.status = .created →
      le a { a with status := .running, startedAt := some env.now })
    (h : ackOutboxAndMarkRunning env outboxId runId s = .ok ((), s')) :
    Moves Refs.agentRuns le s s' := by
  intro k run hfind
  rcases ackOutboxAndMarkRunning_runs h with hsame | hstarted
  · exact ⟨run, (congrArg (·.find? k) hsame).trans hfind, hrefl run⟩
  · refine ⟨_, (congrArg (·.find? k) hstarted).trans
      ((Table.find?_modifyWhere _ _ _ k).trans (congrArg _ hfind)), ?_⟩
    dsimp only
    split
    · next hp => exact hstart run (by simpa using (Bool.and_eq_true_iff.mp hp).2)
    · exact hrefl run

theorem RunMoves.refl (a : AgentRunRow) : RunMoves a a := .inl rfl

/-- A created run is started. -/
theorem RunMoves.start {a b : AgentRunRow} (ha : a.status = .created) (hb : b.status = .running) :
    RunMoves a b :=
  .inr ⟨.start, by rw [ha, hb]; rfl⟩

theorem RunsEnd.moves (h : RunsEnd s s') : Moves Refs.agentRuns RunMoves s s' := by
  intro k run hrun
  obtain ⟨run', hrun', hends⟩ := h k run hrun
  exact ⟨run', hrun', hends.moves⟩

instance runMoves_background : Background (Moves Refs.agentRuns RunMoves) :=
  background_of_ack RunsEnd.moves fun _ _ _ ↦
    ⟨ackOutboxAndMarkRunning_moves RunMoves.refl fun _ ha ↦ .start ha rfl⟩

instance runMoves_transactions : Transactions (Moves Refs.agentRuns RunMoves) where
  command _ _ := (execute_respects (R := RunsEnd) inferInstance).mono RunsEnd.moves

/-- A run that has ended keeps its status, whatever the system does. -/
theorem ended_run_kept {ok : World → Label → Prop} {w w' : World} (h : system.Run ok w w')
    (hrun : w.db.agentRuns.find? runId = some run) (hended : run.status.isTerminal = true) :
    ∃ run', w'.db.agentRuns.find? runId = some run' ∧ run'.status = run.status := by
  induction h with
  | refl => exact ⟨run, hrun, rfl⟩
  | step _ _ hstep ih =>
    obtain ⟨run₁, hrun₁, hstatus₁⟩ := ih
    have hmoves : Moves Refs.agentRuns RunMoves _ _ :=
      step_tx (fun _ _ run hrun ↦ ⟨run, hrun, .refl run⟩) hstep
    obtain ⟨run₂, hrun₂, hmove⟩ := hmoves runId run₁ hrun₁
    exact ⟨run₂, hrun₂, (hmove.terminal (hstatus₁ ▸ hended)).trans hstatus₁⟩

/-- A task whose only unit has a run that was not started yet. -/
def sampleDispatched : List Label :=
  let human := AuthContext.ofHuman "owner"
  [ .ask human .createTask { title := some "task" },
    .ask human .submitContract { taskId := some "task_i" },
    .ask human .approveContract { decisionId := some "dec_iiii" },
    .ask human .activateMinimalPlan { taskId := some "task_i", workUnitId := some "unit" },
    .ask human .dispatchReadyRuns { taskId := some "task_i" } ]

/-- The run was started. -/
def sampleStarted : List Label :=
  sampleDispatched ++
    [.claim .silent 0, .check .silent 0, .call 0 (.start true (.ok false)), .settle .silent 0,
      .finish 0]

/-- The status of a run moves only along the transition table: each step leaves it or takes an edge
of the table, and in no run of the system does it leave a terminal status. -/
theorem run_status_follows_table {w w' : World} {runId : String} {run : AgentRunRow}
    (hrun : w.db.agentRuns.find? runId = some run) :
    (∀ l, system.step w l = some w' → ∃ run', w'.db.agentRuns.find? runId = some run' ∧
      (run'.status = run.status ∨ ∃ event, runTransitions run.status event = some run'.status)) ∧
    (∀ ok, system.Run ok w w' → run.status.isTerminal = true →
      ∃ run', w'.db.agentRuns.find? runId = some run' ∧ run'.status = run.status) := by
  constructor
  · intro l hstep
    have hmoves : Moves Refs.agentRuns RunMoves w.db w'.db :=
      step_tx (fun _ _ run hrun ↦ ⟨run, hrun, .refl run⟩) hstep
    exact hmoves runId run hrun
  · intro ok hsteps hended
    exact ended_run_kept hsteps hrun hended

theorem run_status_follows_table_sample :
    ∃ w w' run, system.exec system.init sampleStarted = some w ∧
      system.step w (.reconcile .silent) = some w' ∧
      w.db.agentRuns.find? "run_iiiiiiiiii" = some run ∧ run.status = .running ∧
      ∃ run', w'.db.agentRuns.find? "run_iiiiiiiiii" = some run' ∧
        (run'.status = run.status ∨
          ∃ event, runTransitions run.status event = some run'.status) := by
  have hview : ((system.exec system.init sampleStarted).bind fun w ↦
      (system.step w (.reconcile .silent)).map fun _ ↦
        (w.db.agentRuns.find? "run_iiiiiiiiii").map (·.status)) = some (some .running) := by
    decide +kernel
  obtain ⟨w, hw, hw'⟩ := Option.bind_eq_some_iff.mp hview
  obtain ⟨w', hstep, hfind⟩ := Option.map_eq_some_iff.mp hw'
  obtain ⟨run, hrun, hstatus⟩ := Option.map_eq_some_iff.mp hfind
  exact ⟨w, w', run, hw, hstep, hrun, hstatus, (run_status_follows_table hrun).1 _ hstep⟩

end HibikiCore
