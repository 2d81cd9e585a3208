import HibikiCore.Safety.Limits
import HibikiCore.Safety.Runnable

/-!
# The units of lost runs

A run that reconciliation declares lost may have reached the outside world. Its unit is blocked when
the recovery finds a trace of that: a result, an invocation that went well, or a stored artifact. An
invocation that failed, timed out or never came back is no such trace, nor is an effect that was
asked for. A unit that is blocked is set free with the others when the last gate of its task is
resolved, whatever that gate was about.
-/

namespace HibikiCore

set_option synthInstance.maxSize 100000000
set_option synthInstance.maxHeartbeats 400000

variable {env : Env} {auth : AuthContext} {run : AgentRunRow} {s s' t : DB} {w w' : World}
  {l : Label} {taskId runId wuId : String} {result : CommandResult}

/-! ## What a run may have done -/

/-- The tools that reach the outside world. -/
def ToolInvocationRow.reachesOut (i : ToolInvocationRow) : Prop :=
  i.toolName = "shell.run" ∨ i.toolName = "artifact.publish"

/-- A run may have reached the outside world. -/
inductive MayHaveActed (s : DB) (runId : String) : Prop
  /-- A tool may have been executed for it. -/
  | invoked {k : String} {i : ToolInvocationRow} (found : s.toolInvocations.find? k = some i)
      (caller : i.runId = runId) (tool : i.reachesOut) (allowed : i.allowed = true)
      (undenied : i.outcome ≠ some .denied)
  /-- It registered a stored artifact. -/
  | registered {k : String × String} {a : ArtifactRow} (found : s.artifacts.find? k = some a)
      (producer : a.runId = some runId) (stored : a.artifactUri.isSome = true)
  /-- An effect it asked for is being sent, was sent, or may have been. -/
  | requested {k : String} {e : SideEffectRow} (found : s.sideEffects.find? k = some e)
      (asked : e.requestRunId = some runId)
      (begun : e.state = .dispatching ∨ e.state = .unknown ∨ e.state = .succeeded)

/-- What the recovery takes for a trace of an effect. -/
inductive Traced (s : DB) (runId : String) (run : AgentRunRow) : Prop
  | submitted {ref : String} (result : truthy run.resultRef = some ref)
  | invoked {k : String} {i : ToolInvocationRow} (found : s.toolInvocations.find? k = some i)
      (caller : i.runId = runId) (tool : i.reachesOut) (allowed : i.allowed = true)
      (succeeded : i.outcome = some .ok)
  | registered {k : String × String} {a : ArtifactRow} (found : s.artifacts.find? k = some a)
      (producer : a.runId = some runId) (stored : a.artifactUri.isSome = true)

theorem hadEffect_iff : hadEffect s runId run = true ↔ Traced s runId run := by
  simp only [hadEffect, Bool.or_eq_true, Bool.not_eq_true',
    Table.select_isEmpty_eq_false, Bool.and_eq_true, beq_iff_eq]
  constructor
  · rintro ((hresult | ⟨k, i, hi, ⟨⟨hcaller, htool⟩, hallowed⟩, hok⟩) | ⟨k, a, ha, hrun, huri⟩)
    · obtain ⟨ref, href⟩ := Option.isSome_iff_exists.mp hresult
      exact .submitted href
    · exact .invoked hi hcaller htool hallowed hok
    · exact .registered ha hrun huri
  · rintro (⟨hresult⟩ | ⟨hi, hcaller, htool, hallowed, hok⟩ | ⟨ha, hrun, huri⟩)
    · exact .inl (.inl (by rw [hresult]; rfl))
    · exact .inl (.inr ⟨_, _, hi, ⟨⟨hcaller, htool⟩, hallowed⟩, hok⟩)
    · exact .inr ⟨_, _, ha, hrun, huri⟩

/-- A unit that did not wait to be dispatched waits again. -/
structure Returned (wuId : String) (s s' : DB) : Prop where
  before : ∃ u, s.workUnitExecutions.find? wuId = some u ∧ u.status ≠ .pending
  after : ∃ u, s'.workUnitExecutions.find? wuId = some u ∧ u.status = .pending

/-- A unit that is as it was has not been returned. -/
theorem Returned.changed (h : Returned wuId s s') :
    s'.workUnitExecutions.find? wuId ≠ s.workUnitExecutions.find? wuId := by
  rintro hsame
  obtain ⟨⟨u, hu, hstatus⟩, v, hv, hpending⟩ := h
  obtain rfl := Option.some.inj (hu.symm.trans (hsame.symm.trans hv))
  exact hstatus hpending

/-! ## One recovery -/

/-- What the recovery makes of the unit of a lost run. -/
structure Recovery (s : DB) (runId : String) (run : AgentRunRow) (wuId : String)
    (u v : WorkUnitExecutionRow) : Prop where
  ofUnit : run.workUnitId = some wuId
  found : s.workUnitExecutions.find? wuId = some u
  running : u.status = .running
  attempts : v.attemptCount = u.attemptCount
  blocked : Traced s runId run ∨ Defaults.maxWorkUnitAttempts ≤ u.attemptCount →
    v.status = .blocked
  pending : ¬Traced s runId run → u.attemptCount < Defaults.maxWorkUnitAttempts →
    v.status = .pending

/-- A unit is returned only if there was no trace and attempts are left. -/
theorem Recovery.of_pending {u v : WorkUnitExecutionRow} (h : Recovery s runId run wuId u v)
    (hpending : v.status = .pending) :
    ¬Traced s runId run ∧ u.attemptCount < Defaults.maxWorkUnitAttempts := by
  have hnot : ¬(Traced s runId run ∨ Defaults.maxWorkUnitAttempts ≤ u.attemptCount) := by
    intro hor
    rw [h.blocked hor] at hpending
    cases hpending
  rwa [not_or, not_le] at hnot

theorem recoverWorkUnitAfterLostRun_ok (hrun : s.agentRuns.find? runId = some run)
    (h : recoverWorkUnitAfterLostRun env runId s = .ok ((), s')) :
    (s'.workUnitExecutions = s.workUnitExecutions ∧ ∀ k u, run.workUnitId = some k →
      s.workUnitExecutions.find? k = some u → u.status ≠ .running) ∨
    ∃ k u f, Recovery s runId run k u (f u) ∧
      s'.workUnitExecutions = s.workUnitExecutions.modify k f := by
  obtain ⟨run', t, hget, h₁⟩ := Tx.bind_ok.mp h
  obtain ⟨hrun', rfl⟩ := getRun_ok.mp hget
  obtain rfl := Option.some.inj (hrun.symm.trans hrun')
  rw [Tx.get_bind_ok] at h₁
  rcases Tx.withSome_ok.mp h₁ with ⟨k, hk, h₂⟩ | ⟨hnone, rfl⟩
  · rcases Tx.withSome_ok.mp h₂ with ⟨u, hu, h₃⟩ | ⟨hnone, rfl⟩
    · rcases Tx.when_ok.mp h₃ with ⟨hrunning, h₄⟩ | ⟨hnot, rfl⟩
      · have hparked {v : DB} {reason : WaitingReason}
            (hpark : parkTask env run.taskId reason v = .ok ((), s')) :
            s'.workUnitExecutions = v.workUnitExecutions := by
          have hwrites : Writes [.tasks, .events] v s' := Respects.rel hpark
          exact ((hwrites .workUnitExecutions).2 (by decide)).symm
        refine .inr ⟨k, u, ?_⟩
        rcases Tx.ite_ok.mp h₄ with ⟨⟨-, htraced⟩, h₅⟩ | ⟨hnot, h₅⟩
        · obtain ⟨_, v, hblock, hpark⟩ := Tx.bind_ok.mp h₅
          have hunits := (hparked hpark).trans (Ref.read_of_update hblock)
          exact ⟨_, ⟨hk, hu, hrunning, rfl, fun _ ↦ rfl,
            fun hno _ ↦ absurd (hadEffect_iff.mp htraced) hno⟩, hunits⟩
        · -- a run that left a trace is blocked by the policy
          have huntraced : ¬Traced t runId run := by
            intro htraced
            have heffect := hadEffect_iff.mpr htraced
            exact hnot ⟨by rw [lostRunRecoveryPolicy, if_pos heffect], heffect⟩
          rcases Tx.ite_ok.mp h₅ with ⟨hspent, h₆⟩ | ⟨hleft, hretry⟩
          · obtain ⟨_, v, hblock, hpark⟩ := Tx.bind_ok.mp h₆
            have hunits := (hparked hpark).trans (Ref.read_of_update hblock)
            exact ⟨_, ⟨hk, hu, hrunning, rfl, fun _ ↦ rfl,
              fun _ hleft ↦ absurd hspent (not_le.mpr hleft)⟩, hunits⟩
          · have hunits := Ref.read_of_update hretry
            exact ⟨_, ⟨hk, hu, hrunning, rfl, fun hor ↦ (hor.elim huntraced hleft).elim,
              fun _ _ ↦ rfl⟩, hunits⟩
      · refine .inl ⟨rfl, fun k' u' hk' hu' ↦ ?_⟩
        obtain rfl := Option.some.inj (hk.symm.trans hk')
        obtain rfl := Option.some.inj (hu.symm.trans hu')
        exact hnot
    · refine .inl ⟨rfl, fun k' u' hk' hu' ↦ ?_⟩
      obtain rfl := Option.some.inj (hk.symm.trans hk')
      exact absurd (hnone.symm.trans hu') nofun
  · exact .inl ⟨rfl, fun k' _ hk' _ ↦ absurd (hnone.symm.trans hk') nofun⟩

/-- Reconciliation finds a run marked running whose process is gone. -/
structure Missing (env : Env) (s : DB) (runId : String) (run : AgentRunRow) : Prop where
  found : s.agentRuns.find? runId = some run
  running : run.status = .running
  uncontained : sandboxContainerAlive env run = false
  gone : (env.inspect runId).alive = false

/-- A unit with attempts left is the one of a missing run of which the recovery finds no trace. -/
def Retried (env : Env) (s : DB) (wuId : String) : Prop :=
  ∃ runId run u, Missing env s runId run ∧ run.workUnitId = some wuId ∧ ¬Traced s runId run ∧
    s.workUnitExecutions.find? wuId = some u ∧ u.status = .running ∧
    u.attemptCount < Defaults.maxWorkUnitAttempts

/-- The tables that reconciliation writes without a lost run. -/
abbrev recoveryTables : List Relation :=
  [.tasks, .events, .outbox, .sideEffects, .workspaces, .plannerSessions, .activePlanRunMarkers,
    .activeExecuteRunMarkers]

/-- What reconciliation does to runs and units: the runs stay, or they were missing and are lost, and
a unit that changes its status was running and is blocked, or was running and is retried. -/
structure Recovers (env : Env) (s s' : DB) : Prop where
  invocations : s'.toolInvocations = s.toolInvocations
  artifacts : s'.artifacts = s.artifacts
  runs : ∀ k b, s'.agentRuns.find? k = some b →
    ∃ a, s.agentRuns.find? k = some a ∧ (b = a ∨ b.status = .lost ∧ Missing env s k a)
  units : ∀ k u, s.workUnitExecutions.find? k = some u →
    ∃ v, s'.workUnitExecutions.find? k = some v ∧ v.attemptCount = u.attemptCount ∧
      (v.status = u.status ∨ u.status = .running ∧ (v.status = .pending → Retried env s k))

namespace Recovers

theorem traced (h : Recovers env s s') (htraced : Traced s runId run) : Traced s' runId run := by
  cases htraced with
  | submitted result => exact .submitted result
  | invoked found caller tool allowed succeeded =>
    exact .invoked (h.invocations ▸ found) caller tool allowed succeeded
  | registered found producer stored => exact .registered (h.artifacts ▸ found) producer stored

/-- A run that is still marked running was missing before. -/
theorem missing (h : Recovers env s s') (hmissing : Missing env s' runId run) :
    Missing env s runId run := by
  obtain ⟨a, ha, rfl | ⟨hlost, -⟩⟩ := h.runs runId run hmissing.found
  · exact ⟨ha, hmissing.running, hmissing.uncontained, hmissing.gone⟩
  · rw [hmissing.running] at hlost
    cases hlost

instance : Preord (Recovers env) where
  refl s := ⟨rfl, rfl, fun _ b hb ↦ ⟨b, hb, .inl rfl⟩, fun _ u hu ↦ ⟨u, hu, rfl, .inl rfl⟩⟩
  trans {s t s'} h h' := by
    refine ⟨h'.invocations.trans h.invocations, h'.artifacts.trans h.artifacts,
      fun k c hc ↦ ?_, fun k u hu ↦ ?_⟩
    · obtain ⟨b, hb, rfl | ⟨hlost, hmissing⟩⟩ := h'.runs k c hc
      · exact h.runs k c hb
      · exact ⟨b, (h.missing hmissing).found, .inr ⟨hlost, h.missing hmissing⟩⟩
    · obtain ⟨v, hv, hcount, hmove⟩ := h.units k u hu
      obtain ⟨v', hv', hcount', hmove'⟩ := h'.units k v hv
      refine ⟨v', hv', hcount'.trans hcount, ?_⟩
      rcases hmove' with hsame | ⟨hrunning, hretried⟩
      · rw [hsame]
        exact hmove
      · have hu_running : u.status = .running := by
          rcases hmove with hsame | ⟨hrunning', -⟩
          · exact hsame.symm.trans hrunning
          · exact hrunning'
        refine .inr ⟨hu_running, fun hpending ↦ ?_⟩
        obtain ⟨runId, run, v₁, hmissing, hunit, huntraced, hv₁, -, hleft⟩ := hretried hpending
        obtain rfl := Option.some.inj (hv.symm.trans hv₁)
        exact ⟨runId, run, u, h.missing hmissing, hunit, fun htraced ↦ huntraced (h.traced htraced),
          hu, hu_running, hcount ▸ hleft⟩

theorem of_writes (h : Writes recoveryTables s s') : Recovers env s s' where
  invocations := ((h .toolInvocations).2 (by decide)).symm
  artifacts := ((h .artifacts).2 (by decide)).symm
  runs k b hb := by
    have hruns : s.agentRuns = s'.agentRuns := (h .agentRuns).2 (by decide)
    exact ⟨b, hruns ▸ hb, .inl rfl⟩
  units k u hu := by
    have hunits : s.workUnitExecutions = s'.workUnitExecutions :=
      (h .workUnitExecutions).2 (by decide)
    exact ⟨u, hunits ▸ hu, rfl, .inl rfl⟩

instance : Frame (Recovers env) where
  still h := of_writes (h.mono fun _ hn ↦ (List.not_mem_nil hn).elim)

instance {n : Relation} [h : Touches n recoveryTables] : Indifferent (Recovers env) n where
  writes hw := of_writes (hw.mono fun _ hm ↦ List.mem_singleton.mp hm ▸ h.mem)

/-- A missing run is lost, and its unit is recovered. -/
theorem of_lost (hmissing : Missing env s runId run)
    (h : loseRun env taskId runId s = .ok ((), s')) : Recovers env s s' := by
  obtain ⟨_, t₁, hlose, h₁⟩ := Tx.bind_ok.mp h
  obtain ⟨_, t₂, hclear, h₂⟩ := Tx.bind_ok.mp h₁
  obtain ⟨_, t₃, hrecover, hevent⟩ := Tx.bind_ok.mp h₂
  refine Preord.trans ?_ (Respects.rel hevent)
  have hlost := Ref.read_of_update hlose
  have hloseWrites : Writes [.agentRuns] s t₁ := Respects.rel hlose
  have hclearWrites : Writes occupancyTables t₁ t₂ := Respects.rel hclear
  have hrecoverWrites : Writes [.workUnitExecutions, .tasks, .events] t₂ t₃ := Respects.rel hrecover
  have hrunsClear : t₁.agentRuns = t₂.agentRuns := (hclearWrites .agentRuns).2 (by decide)
  have hrunsRecover : t₂.agentRuns = t₃.agentRuns := (hrecoverWrites .agentRuns).2 (by decide)
  have hinvocations : s.toolInvocations = t₂.toolInvocations :=
    ((hloseWrites .toolInvocations).2 (by decide)).trans
      ((hclearWrites .toolInvocations).2 (by decide))
  have hartifacts : s.artifacts = t₂.artifacts :=
    ((hloseWrites .artifacts).2 (by decide)).trans ((hclearWrites .artifacts).2 (by decide))
  have hunitsLose : s.workUnitExecutions = t₁.workUnitExecutions :=
    (hloseWrites .workUnitExecutions).2 (by decide)
  have hkept : Units UnitKeeps t₁ t₂ := Respects.rel hclear
  have hcounts : AttemptsKept t₁ t₂ := Respects.rel hclear
  refine ⟨((hrecoverWrites .toolInvocations).2 (by decide)).symm.trans hinvocations.symm,
    ((hrecoverWrites .artifacts).2 (by decide)).symm.trans hartifacts.symm, fun k b hb ↦ ?_,
    fun k u hu ↦ ?_⟩
  · have hb' := ((congrArg (·.find? k) (hlost.symm.trans (hrunsClear.trans hrunsRecover))).trans
      hb)
    dsimp only at hb'
    rw [Table.find?_modify] at hb'
    split at hb'
    · next hk =>
      subst hk
      obtain ⟨a, ha, rfl⟩ := Option.map_eq_some_iff.mp hb'
      obtain rfl := Option.some.inj (hmissing.found.symm.trans ha)
      exact ⟨run, ha, .inr ⟨rfl, hmissing⟩⟩
    · exact ⟨b, hb', .inl rfl⟩
  · obtain ⟨v, hv, hsame⟩ := hkept k u ((congrArg (·.find? k) hunitsLose).symm.trans hu)
    obtain ⟨v', hv', hcount⟩ := hcounts.kept k u ((congrArg (·.find? k) hunitsLose).symm.trans hu)
    obtain rfl := Option.some.inj (hv.symm.trans hv')
    have hfound := (congrArg (·.find? runId) (hrunsClear.symm.trans hlost)).trans
      ((Table.find?_modify_self _ _ _).trans (congrArg _ hmissing.found))
    rcases recoverWorkUnitAfterLostRun_ok hfound hrecover with ⟨hunits, -⟩ |
      ⟨k', u', f, hrecovery, hunits⟩
    · exact ⟨v, (congrArg (·.find? k) hunits).trans hv, hcount, .inl hsame⟩
    · by_cases hk : k = k'
      · subst hk
        obtain rfl := Option.some.inj (hv.symm.trans hrecovery.found)
        refine ⟨f v, (congrArg (·.find? k) hunits).trans
          ((Table.find?_modify_self _ _ _).trans (congrArg _ hv)), hrecovery.attempts.trans hcount,
          .inr ⟨hsame.symm.trans hrecovery.running, fun hpending ↦ ?_⟩⟩
        obtain ⟨huntraced, hleft⟩ := hrecovery.of_pending hpending
        refine ⟨runId, run, u, hmissing, hrecovery.ofUnit, fun htraced ↦ huntraced ?_, hu,
          hsame.symm.trans hrecovery.running, hcount ▸ hleft⟩
        cases htraced with
        | submitted result => exact .submitted result
        | invoked found caller tool allowed succeeded =>
          exact .invoked (hinvocations ▸ found) caller tool allowed succeeded
        | registered found producer stored =>
          exact .registered (hartifacts ▸ found) producer stored
      · exact ⟨v, (congrArg (·.find? k) hunits).trans
          ((Table.find?_modify_of_ne hk _ _).trans hv), hcount, .inl hsame⟩

instance reconcileRun_respects {notes : List String} :
    Respects (Recovers env) (reconcileRun env taskId notes runId) where
  rel {s _ s'} h := by
    obtain ⟨run, t, hget, h₁⟩ := Tx.bind_ok.mp h
    obtain ⟨hrun, rfl⟩ := getRun_ok.mp hget
    rcases Tx.ite_ok.mp h₁ with ⟨-, h₂⟩ | ⟨huncontained, h₂⟩
    · exact Respects.rel h₂
    · rcases Tx.ite_ok.mp h₂ with ⟨-, h₃⟩ | ⟨hrunning, h₃⟩
      · exact Respects.rel h₃
      · rcases Tx.ite_ok.mp h₃ with ⟨hgone, h₄⟩ | ⟨-, h₄⟩
        · obtain ⟨_, u, hlose, hnotes⟩ := Tx.bind_ok.mp h₄
          have hmissing : Missing env t runId run :=
            ⟨hrun, not_not.mp hrunning, by simpa using huncontained, hgone⟩
          exact Preord.trans (of_lost hmissing hlose) (Respects.rel hnotes)
        · exact Respects.rel h₄

instance reconcileTask_respects {notes : List String} :
    Respects (Recovers env) (reconcileTask env notes taskId) := by
  rw [reconcileTask]
  infer_instance

instance reconcile_respects : Respects (Recovers env) (reconcile env) := by
  rw [reconcile]
  infer_instance

end Recovers

/-- A blocked unit is set free with its task. -/
def Freed (env : Env) (auth : AuthContext) (r : Resolution) (s : DB) (wuId : String) : Prop :=
  ∃ decisionId decision task u, FreesTask env auth r s decisionId decision task ∧
    s.workUnitExecutions.find? wuId = some u ∧ u.isGateBlocked decision.taskId = true

/-- A task goes on waiting, and its cancellation is wanted as before. -/
def TaskStands (a b : TaskRow) : Prop := b.state = a.state ∧ b.cancelIntent = a.cancelIntent

instance : Preord TaskStands where
  refl _ := ⟨rfl, rfl⟩
  trans h h' := ⟨h'.1.trans h.1, h'.2.trans h.2⟩

instance syncModelCallLimit_stands {content : ContractContent} :
    Respects (Moves Refs.tasks TaskStands) (syncModelCallLimit taskId content) := by
  have hlimit (limit : Int) : Respects (Moves Refs.tasks TaskStands)
      (Refs.tasks.update taskId fun t ↦ { t with modelCallLimit := limit } : Core Unit) :=
    Moves.update fun _ ↦ ⟨rfl, rfl⟩
  rw [syncModelCallLimit]
  infer_instance

/-- A blocked unit is set free with its task when a delta is applied, or found to be stale. -/
def FreedByDelta (env : Env) (auth : AuthContext) (p : Payload) (s : DB) (wuId : String) : Prop :=
  ∃ decisionId decision task envelope u,
    Applicable env auth p s decisionId decision task envelope ∧
    LastGates s decisionId decision task ∧ s.workUnitExecutions.find? wuId = some u ∧
    u.isGateBlocked decision.taskId = true

/-- The steps that would give the unit of a lost run back to be dispatched: a reconciliation that
loses a run of the unit that may have acted, and finds no trace of a run of it, and the resolution
of a decision that frees its task. -/
inductive GivesBack (s : DB) (wuId : String) : Label → Prop
  | retried {env : Env} {runId : String} {run : AgentRunRow} (missing : Missing env s runId run)
      (ofUnit : run.workUnitId = some wuId) (acted : MayHaveActed s runId)
      (retried : Retried env s wuId) : GivesBack s wuId (.reconcile env)
  | freed {env : Env} {q : Request} {r : Resolution}
      (asked : resolution q.payload q.operation = some r)
      (freed : Freed env q.auth r s wuId) : GivesBack s wuId (.command env q)
  | applied {env : Env} {q : Request} (asked : q.operation = .applyContractDelta)
      (freed : FreedByDelta env q.auth q.payload s wuId) : GivesBack s wuId (.command env q)

/-- A step that does not give a unit back. -/
def Withholds (wuId : String) (w : World) (l : Label) : Prop := ¬GivesBack w.db wuId l

/-- The identifiers that were drawn do not matter. -/
theorem Freed.of_drawn {r : Resolution} {n : Nat} (h : Freed env auth r { s with drawn := n } wuId) :
    Freed env auth r s wuId := by
  obtain ⟨decisionId, decision, task, u, hfrees, hu, hblocked⟩ := h
  obtain ⟨hresolves, ⟨hwaiting, hgoing, hgates⟩, hkind⟩ := hfrees
  exact ⟨decisionId, decision, task, u, ⟨hresolves.of_drawn, ⟨hwaiting, hgoing, hgates⟩, hkind⟩, hu,
    hblocked⟩

theorem Applicable.of_drawn {p : Payload} {n : Nat} {decisionId : String} {decision : DecisionRow}
    {task : TaskRow} {envelope : DeltaEnvelope}
    (h : Applicable env auth p { s with drawn := n } decisionId decision task envelope) :
    Applicable env auth p s decisionId decision task envelope :=
  ⟨h.named, h.found, h.delta, h.approved, h.known, h.owner, h.gated, h.idle, h.payload⟩

theorem FreedByDelta.of_drawn {p : Payload} {n : Nat}
    (h : FreedByDelta env auth p { s with drawn := n } wuId) : FreedByDelta env auth p s wuId := by
  obtain ⟨decisionId, decision, task, envelope, u, happlicable, ⟨hwaiting, hgoing, hgates⟩, hu,
    hblocked⟩ := h
  exact ⟨decisionId, decision, task, envelope, u, happlicable.of_drawn,
    ⟨hwaiting, hgoing, hgates⟩, hu, hblocked⟩

/-- A run is declared lost by a step. -/
structure DeclaredLost (s s' : DB) (runId : String) (run : AgentRunRow) : Prop where
  found : s.agentRuns.find? runId = some run
  running : run.status = .running
  lost : ∃ run', s'.agentRuns.find? runId = some run' ∧ run'.status = .lost

/-- A run that a reconciliation declares lost is missing. -/
theorem DeclaredLost.missing (h : DeclaredLost s s' runId run) (hrecovers : Recovers env s s') :
    Missing env s runId run := by
  obtain ⟨run', hrun', hlost⟩ := h.lost
  obtain ⟨a, ha, hcases⟩ := hrecovers.runs runId run' hrun'
  obtain rfl := Option.some.inj (h.found.symm.trans ha)
  rcases hcases with rfl | ⟨-, hmissing⟩
  · rw [h.running] at hlost
    cases hlost
  · exact hmissing

/-- A step that neither recovers nor resolves. -/
def Label.isPlain : Label → Bool
  | .reconcile _ => false
  | .command _ q =>
    (resolution q.payload q.operation).isNone && q.operation != .applyContractDelta
  | _ => true

theorem Withholds.of_plain (h : l.isPlain = true) : Withholds wuId w l := by
  rintro (_ | ⟨asked, -⟩ | ⟨asked, -⟩)
  · cases h
  · rw [Label.isPlain, asked] at h
    cases h
  · rw [Label.isPlain, asked] at h
    simp at h

end HibikiCore
