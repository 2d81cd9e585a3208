import HibikiCore.Safety.Halting

/-!
# Agents are launched once, and only while they may be

A thread that is cleared to start an agent has seen, in one transaction, that nothing stands against
the start. What it saw is remembered with the call. A run has one start, and a start has one thread
that calls the adapter for it once, so no agent is launched twice, whatever raises and whatever is
tried again. A start that was revoked before the check is not carried out, even if its task goes on.
-/

namespace HibikiCore

set_option synthInstance.maxSize 100000000
set_option synthInstance.maxHeartbeats 400000

/-! ## Starts -/

/-- In a database, a start was claimed and nothing stood against it. -/
def MayLaunch (db : DB) (outboxId taskId runId : String) : Prop :=
  ∃ row run task, db.outbox.find? outboxId = some row ∧ row.status = .inFlight ∧
    row.taskId = taskId ∧ StartAllowed db row runId run task

/-- Whoever is about to launch an agent, and whoever has launched one, was cleared to do so. -/
structure LaunchInv (w : World) : Prop where
  cleared : ∀ {id item db now payload}, w.threads.find? id = some ⟨item, .cleared db now⟩ →
    item.command = .agentStart payload → MayLaunch db item.outboxId item.taskId payload.runId
  launched : ∀ c ∈ w.starts, MayLaunch c.checkedIn c.outboxId c.taskId c.runId

namespace LaunchInv

variable {w w' : World} {l : Label}

/-- No thread was cleared by a step, and no agent was launched. -/
theorem kept (h : LaunchInv w) (hstarts : w'.starts = w.starts)
    (hthreads : ∀ {id item db now}, w'.threads.find? id = some ⟨item, .cleared db now⟩ →
      w.threads.find? id = some ⟨item, .cleared db now⟩) : LaunchInv w' where
  cleared hthread hcommand := h.cleared (hthreads hthread) hcommand
  launched c hmem := h.launched c (hstarts ▸ hmem)

/-- The check has passed in the database that the thread remembers. -/
theorem clear {env : Env} {id : Nat} {item : OutboxItem} {db : DB} (ht : ThreadInv w)
    (h : LaunchInv w) (hthread : w.threads.find? id = some ⟨item, .claimed⟩)
    (hrun : World.lastCheck env item w.db = .ok (true, db)) :
    LaunchInv ({ w with db }.setPhase id (.cleared db env.now)) where
  launched := h.launched
  cleared {id' item' db' now' payload} hthread' hcommand := by
    rw [World.find?_setPhase] at hthread'
    split at hthread'
    · next heq =>
      subst heq
      obtain ⟨t, ht', heq⟩ := Option.map_eq_some_iff.mp hthread'
      obtain rfl := Option.some.inj (hthread.symm.trans ht')
      obtain rfl : item = item' := congrArg Thread.item heq
      obtain ⟨rfl, -⟩ := Phase.cleared.inj (congrArg Thread.phase heq)
      rw [World.lastCheck, hcommand] at hrun
      obtain ⟨rfl, row, run, task, hrow, hclaimed, hallowed⟩ := startSendAllowed_true hrun
      obtain ⟨row', hrow'⟩ := ht.row hthread
      obtain rfl := Option.some.inj (hrow.symm.trans hrow'.found)
      exact ⟨row, run, task, hrow, hclaimed, hrow'.sameTask, hallowed⟩
    · exact h.cleared hthread' hcommand

/-- The adapter is called by a thread that was cleared. -/
theorem launch {id : Nat} {item : OutboxItem} {db : DB} {now : Time} {payload : StartPayload}
    {alive : List String} {reply : Except String Bool} (h : LaunchInv w)
    (hthread : w.threads.find? id = some ⟨item, .cleared db now⟩)
    (hcommand : item.command = .agentStart payload) :
    LaunchInv ({ w with
      alive
      starts := ⟨item.outboxId, item.taskId, payload.runId, db⟩ :: w.starts }.setPhase id
        (Phase.after 0 .started reply)) where
  cleared hthread' hcommand' := by
    exact h.cleared (World.cleared_of_setPhase Phase.after_ne_cleared hthread') hcommand'
  launched c hmem := by
    rcases List.mem_cons.mp hmem with rfl | hmem
    · exact h.cleared hthread hcommand
    · exact h.launched c hmem

theorem step (ht : ThreadInv w) (h : LaunchInv w) (hstep : World.Step w l w') : LaunchInv w' := by
  cases hstep with
  | cleared hthread hrun => exact h.clear ht hthread hrun
  | started hthread hcommand => exact h.launch hthread hcommand
  | claimed hnew =>
    refine h.kept rfl fun hthread ↦ ?_
    rw [Table.find?_insert hnew] at hthread
    split at hthread
    · cases congrArg Thread.phase (Option.some.inj hthread)
    · exact hthread
  | stopped | sent => exact h.kept rfl (World.cleared_of_setPhase Phase.after_ne_cleared)
  | settled | raised => exact h.kept rfl (World.cleared_of_setPhase (by simp))
  | refused | failed | ended => exact h.kept rfl World.cleared_of_endThread
  | crashed => exact h.kept rfl fun hthread ↦ nomatch hthread
  | command | unclaimed | reconciled | exited | tool | toolOutcome | idle => exact h.kept rfl id

end LaunchInv

theorem launchInv_invariant (ok : World → Label → Prop) :
    system.Invariant ok fun w ↦ ThreadInv w ∧ LaunchInv w := by
  refine (threadInv_invariant ok).strengthen ⟨(fun h ↦ nomatch h), (fun _ h ↦ nomatch h)⟩ ?_
  intro w l w' ht _ h _ hstep
  exact h.step ht (World.step_cases hstep)

/-- The call that launched a run was made for the row that starts the run. -/
theorem ThreadInv.startedFrom {w : World} {k : String} {row : OutboxRow} {payload : StartPayload}
    (ht : ThreadInv w) (hs : StartInv w.db) (hrow : w.db.outbox.find? k = some row)
    (hcommand : row.command = .agentStart payload) {c : Start} (hc : c ∈ w.starts)
    (hrun : c.runId = payload.runId) : c.outboxId = k := by
  obtain ⟨row', payload', hpayload', hrow'⟩ := ht.startRow c hc
  exact hs.unique hrow'.found hrow hrow'.sameCommand hcommand (hpayload'.trans hrun)

/-- The starts of two runs are two rows, so a run is started by one call. -/
theorem ThreadInv.startsOfRuns {w : World} (ht : ThreadInv w) (hs : StartInv w.db) :
    (w.starts.map Start.runId).Nodup := by
  refine List.Nodup.map_on (fun c hc c' hc' hrun ↦ ?_) (List.Nodup.of_map _ ht.startedOnce)
  obtain ⟨row, payload, hpayload, hrow⟩ := ht.startRow c' hc'
  have hk : c.outboxId = c'.outboxId :=
    ht.startedFrom hs hrow.found hrow.sameCommand hc (hrun.trans hpayload.symm)
  exact List.inj_on_of_nodup_map ht.startedOnce hc hc' hk

/-- An agent is launched for a start that was written before a revocation only by a thread that was
cleared before the revocation. -/
theorem Halts.launched {w w₁ w₂ : World} {taskId k : String} {row : OutboxRow}
    {payload : StartPayload} {ok : World → Label → Prop} (h : Halts taskId w w₁)
    (hw : system.Reachable w) (hrun : system.Run ok w₁ w₂)
    (hrow : w.db.outbox.find? k = some row) (htask : row.taskId = taskId)
    (hcommand : row.command = .agentStart payload) {c : Start} (hc : c ∈ w₂.starts)
    (hsame : c.runId = payload.runId) : c ∈ w₁.starts ∨ ClearedFor k c.checkedIn w₁ := by
  obtain ⟨env, r, hstep, -⟩ := h.step
  have hw₁ : system.Reachable w₁ := hw.step trivial hstep
  have hw₂ : system.Reachable w₂ := hw₁.trans (hrun.mono fun _ _ _ ↦ trivial)
  have ht₁ : ThreadInv w₁ := (threadInv_invariant fun _ _ ↦ True).of_reachable hw₁
  have ht₂ : ThreadInv w₂ := (threadInv_invariant fun _ _ ↦ True).of_reachable hw₂
  have hs₂ : StartInv w₂.db := (startInv_invariant fun _ _ ↦ True).of_reachable hw₂
  have hhalted : Halted k payload w₁ w₂ :=
    .run ht₁ (h.revokes k row payload hrow htask hcommand) hrun
  obtain ⟨row', hrow', hcommand', -⟩ := hhalted.ended
  exact hhalted.launched c hc (ht₂.startedFrom hs₂ hrow' hcommand' hc hsame)

/-- Whatever raises, expires, crashes or is reconciled: the agent adapter is asked to start a run at
most once. When it is asked, the check right before has found the start claimed, the run not ended,
its task in a state from which runs are dispatched, without an intent to pause or to cancel and
without a gate, and at the revocation at which the start was written. When a task is paused or
cancelled or a gate is opened for it, the starts that were written before are carried out only by
threads that have passed the check by then, whatever the task does later. A start that was claimed
never waits again. -/
theorem launched_once_while_allowed {w : World} (h : system.Reachable w) :
    (w.starts.map Start.runId).Nodup ∧
    (∀ c ∈ w.starts, MayLaunch c.checkedIn c.outboxId c.taskId c.runId) ∧
    (∀ taskId w₁, Halts taskId w w₁ → ∀ ok w₂, system.Run ok w₁ w₂ → ∀ k row payload,
      w.db.outbox.find? k = some row → row.taskId = taskId → row.command = .agentStart payload →
      ∀ c ∈ w₂.starts, c.runId = payload.runId →
        c ∈ w₁.starts ∨ ClearedFor k c.checkedIn w₁) ∧
    ∀ ok w', system.Run ok w w' → ∀ k row payload, w.db.outbox.find? k = some row →
      row.command = .agentStart payload → row.status ≠ .pending →
      ∃ row', w'.db.outbox.find? k = some row' ∧ row'.command = .agentStart payload ∧
        row'.status ≠ .pending := by
  obtain ⟨ht, hl⟩ := (launchInv_invariant fun _ _ ↦ True).of_reachable h
  have hs : StartInv w.db := (startInv_invariant fun _ _ ↦ True).of_reachable h
  refine ⟨ht.startsOfRuns hs, hl.launched, ?_, ?_⟩
  · intro taskId w₁ hhalts ok w₂ hrun k row payload hrow htask hcommand c hc hsame
    exact hhalts.launched h hrun hrow htask hcommand hc hsame
  · intro ok w' hrun k row payload hrow hcommand hclaimed
    have hkept : ClaimsKept w.db w'.db := run_rel hrun
    obtain ⟨row', hrow', hsame, hstatus⟩ := hkept k row hrow (by rw [hcommand]; rfl) hclaimed
    exact ⟨row', hrow', hsame.trans hcommand, hstatus⟩

/-- The task is paused before the start of its run is claimed. -/
def sampleEarlyPause : Label :=
  .ask (.ofHuman "owner") .pauseTask { taskId := some "task_i" }

/-- The task is resumed, its unit is dispatched again, and a thread takes the start that waits. -/
def sampleResumed : List Label :=
  [ .ask (.ofHuman "owner") .runtimeQuiescent { taskId := some "task_i" },
    .ask (.ofHuman "owner") .resumeTask { taskId := some "task_i" },
    .ask (.ofHuman "owner") .dispatchReadyRuns { taskId := some "task_i" },
    .claim .silent 0, .check .silent 0, .call 0 (.start true (.ok false)) ]

/-- The start that was written before the pause is never carried out, the one after it is. -/
theorem launched_once_while_allowed_sampleEarlyPause :
    ∃ w w₁ w₂, system.exec system.init sampleDispatched = some w ∧ Halts "task_i" w w₁ ∧
      system.exec w₁ sampleResumed = some w₂ ∧
      w₂.starts.map Start.runId = ["run_iiiiiiiiiiiiiiiii"] ∧
      (∀ c ∈ w₂.starts, MayLaunch c.checkedIn c.outboxId c.taskId c.runId) ∧
      ∀ c ∈ w₂.starts, c.runId ≠ "run_iiiiiiiiii" := by
  have hview : (system.exec system.init sampleDispatched).bind (fun w ↦
      (system.step w sampleEarlyPause).bind fun w₁ ↦ (system.exec w₁ sampleResumed).map fun w₂ ↦
        ((w.db.outbox.find? "ob_iiiiiiiiiiii").map fun r ↦ (r.taskId, r.command.startRun),
          (w.db.tasks.find? "task_i").map TaskRow.pauseIntent,
          (w₁.db.tasks.find? "task_i").map TaskRow.pauseIntent, w₁.starts.map Start.runId,
          w₁.threads.rows.map Prod.fst, w₂.starts.map Start.runId)) =
      some (some ("task_i", some "run_iiiiiiiiii"), some false, some true, [], [],
        ["run_iiiiiiiiiiiiiiiii"]) := by
    decide +kernel
  obtain ⟨w, hw, hview₁⟩ := Option.bind_eq_some_iff.mp hview
  obtain ⟨w₁, hw₁, hview₂⟩ := Option.bind_eq_some_iff.mp hview₁
  obtain ⟨w₂, hw₂, hseen⟩ := Option.map_eq_some_iff.mp hview₂
  simp only [Prod.mk.injEq, List.map_eq_nil_iff] at hseen
  obtain ⟨hfound, hbefore, hafter, hstarts₁, hthreads₁, hstarts₂⟩ := hseen
  have hreach : system.Reachable w := .of_exec hw
  have hreach₂ : system.Reachable w₂ := (hreach.step trivial hw₁).trans (.of_exec hw₂)
  have hhalts : Halts "task_i" w w₁ := by
    refine ⟨_, _, hw₁, by decide, rfl, ?_⟩
    rcases step_command hw₁ with hrecords | hcarried
    · -- the task was changed, so more than the records of requests was written
      have hsame : w.db.tasks = w₁.db.tasks := (hrecords .tasks).2 (by decide)
      rw [hsame, hafter] at hbefore
      cases hbefore
    · exact hcarried
  obtain ⟨row, hrow, hcolumns⟩ := Option.map_eq_some_iff.mp hfound
  obtain ⟨htask, hstart⟩ := Prod.mk.inj hcolumns
  obtain ⟨payload, hcommand, hpayload⟩ : ∃ payload, row.command = .agentStart payload ∧
      payload.runId = "run_iiiiiiiiii" := by
    cases hcommand : row.command <;> simp [hcommand, OutboxCommand.startRun] at hstart
    exact ⟨_, rfl, hstart⟩
  refine ⟨w, w₁, w₂, hw, hhalts, hw₂, hstarts₂, (launched_once_while_allowed hreach₂).2.1,
    fun c hc hrun ↦ ?_⟩
  rcases (launched_once_while_allowed hreach).2.2.1 "task_i" w₁ hhalts _ w₂ (.of_exec hw₂) _ row
    payload hrow htask hcommand c hc (hrun.trans hpayload.symm) with hmem | ⟨_, _, _, hthread, -⟩
  · rw [hstarts₁] at hmem
    cases hmem
  · rw [Table.find?, hthreads₁] at hthread
    cases hthread

/-- A run is dispatched, and an effect is proposed before it is started, which opens a gate. -/
def sampleInterrupted : List Label :=
  sampleDispatched ++
    [.ask (.ofHuman "owner") .proposeSideEffect
      { taskId := some "task_i", logicalActionKey := some "notify", targetRef := some "owner" }]

/-- The effect is approved, which resolves the gate, and a thread takes the start. -/
def sampleContinued : List Label :=
  [ .ask (.ofHuman "owner") .approveSideEffect { decisionId := some "dec_iiiiiiiiiiiiiii" },
    .claim .silent 0, .check .silent 0, .call 0 (.start true (.ok false)) ]

/-- The run is started although a gate of its task was opened after its dispatch: it was resolved
before the check. -/
theorem sampleInterrupted_started :
    ∃ w w', system.exec system.init sampleInterrupted = some w ∧
      system.exec w sampleContinued = some w' ∧
      (w.db.agentRuns.find? "run_iiiiiiiiii").map (·.taskId) = some "task_i" ∧
      hasBlockingGate w.db "task_i" = true ∧ w.starts = [] ∧
      w'.starts.map Start.runId = ["run_iiiiiiiiii"] := by
  have hview : ((system.exec system.init sampleInterrupted).bind fun w ↦
      (system.exec w sampleContinued).map fun w' ↦
        ((w.db.agentRuns.find? "run_iiiiiiiiii").map (·.taskId), hasBlockingGate w.db "task_i",
          w.starts.map Start.runId, w'.starts.map Start.runId)) =
      some (some "task_i", true, [], ["run_iiiiiiiiii"]) := by
    decide +kernel
  obtain ⟨w, hw, hw'⟩ := Option.bind_eq_some_iff.mp hview
  obtain ⟨w', hrun, hseen⟩ := Option.map_eq_some_iff.mp hw'
  simp only [Prod.mk.injEq, List.map_eq_nil_iff] at hseen
  exact ⟨w, w', hw, hrun, hseen⟩

end HibikiCore
