import HibikiCore.Safety.Runs
import HibikiCore.Safety.Claims

/-!
# The rows that start runs

A run comes into being together with the row of the outbox that starts it. The two belong to the
same task, and no other row ever starts the run.
-/

namespace HibikiCore

set_option synthInstance.maxSize 100000000
set_option synthInstance.maxHeartbeats 400000

instance : Faithful Refs.outbox := ⟨id⟩

instance {n : Relation} [h : Touches n besideOutbox] : Beside Refs.outbox n where
  ne := by
    rintro rfl
    exact absurd h.mem (by decide)

/-- Every start names a run of its task, and no two starts name the same run. -/
structure StartInv (s : DB) : Prop where
  owned : ∀ {k row payload}, s.outbox.find? k = some row → row.command = .agentStart payload →
    ∃ run, s.agentRuns.find? payload.runId = some run ∧ run.taskId = row.taskId
  unique : ∀ {k k' row row' payload payload'}, s.outbox.find? k = some row →
    s.outbox.find? k' = some row' → row.command = .agentStart payload →
    row'.command = .agentStart payload' → payload.runId = payload'.runId → k = k'

/-- What is new in the outbox starts no run. -/
abbrev NoNewStart : DB → DB → Prop := Arrivals Refs.outbox fun _ f ↦ f.2.1.startRun = none

variable {env : Env} {auth : AuthContext} {p : Payload} {task : TaskRow} {s s' : DB}
  {taskId runId : String}

namespace StartInv

/-- Without a new start nothing has to be shown. -/
theorem of_arrivals (h : StartInv s) (hnew : NoNewStart s s') (hp : Persists s s') :
    StartInv s' := by
  have hold {k row' payload} (hrow' : s'.outbox.find? k = some row')
      (hcommand : row'.command = .agentStart payload) :
      ∃ row, s.outbox.find? k = some row ∧ row.command = .agentStart payload ∧
        row'.taskId = row.taskId := by
    rcases hnew k row' hrow' with ⟨row, hrow, hfixed⟩ | hnone
    · have hsame : row'.command = row.command := congrArg (·.2.1) hfixed
      exact ⟨row, hrow, hsame ▸ hcommand, congrArg (·.1) hfixed⟩
    · have hstart : row'.command.startRun = none := hnone
      rw [hcommand] at hstart
      cases hstart
  constructor
  · intro k row' payload hrow' hcommand
    obtain ⟨row, hrow, hcommand₀, htask⟩ := hold hrow' hcommand
    obtain ⟨run, hrun, howner⟩ := h.owned hrow hcommand₀
    obtain ⟨run', hrun', hfixed⟩ := (hp .agentRuns).1 _ _ hrun
    have howner' : run'.taskId = run.taskId := congrArg RunAssignment.taskId hfixed
    exact ⟨run', hrun', by rw [howner', howner, htask]⟩
  · intro k₁ k₂ row₁ row₂ payload₁ payload₂ hrow₁ hrow₂ hcommand₁ hcommand₂ hrun
    obtain ⟨row₁, hrow₁, hcommand₁, -⟩ := hold hrow₁ hcommand₁
    obtain ⟨row₂, hrow₂, hcommand₂, -⟩ := hold hrow₂ hcommand₂
    exact h.unique hrow₁ hrow₂ hcommand₁ hcommand₂ hrun

/-- A run that has no start yet gets one. -/
theorem enqueueStart {payload : StartPayload} {run : AgentRunRow} {epoch : Nat}
    (h : StartInv s) (hrun : s.agentRuns.find? payload.runId = some run)
    (howner : run.taskId = taskId)
    (hfresh : ∀ k row payload', s.outbox.find? k = some row →
      row.command = .agentStart payload' → payload'.runId ≠ payload.runId)
    (henqueue : enqueue env taskId (.agentStart payload) epoch s = .ok ((), s')) :
    StartInv s' := by
  obtain ⟨k₀, t, hid, hadd⟩ := Tx.bind_ok.mp henqueue
  obtain ⟨-, rfl⟩ := newId_ok.mp hid
  obtain ⟨hnone, rfl⟩ := Ref.insert_ok.mp hadd
  have hrows {k row} (hrow : (s.outbox.insert k₀ (pendingOutbox env taskId (.agentStart payload)
      epoch)).find? k = some row) :
      k = k₀ ∧ row = pendingOutbox env taskId (.agentStart payload) epoch ∨
        s.outbox.find? k = some row := by
    rw [Table.find?_insert hnone] at hrow
    split at hrow
    · next hk => exact .inl ⟨hk, (Option.some.inj hrow).symm⟩
    · exact .inr hrow
  constructor
  · intro k row payload' hrow hcommand
    rcases hrows hrow with ⟨-, rfl⟩ | hrow
    · obtain rfl : payload = payload' := OutboxCommand.agentStart.inj hcommand
      exact ⟨run, hrun, howner⟩
    · exact h.owned hrow hcommand
  · intro k₁ k₂ row₁ row₂ payload₁ payload₂ hrow₁ hrow₂ hcommand₁ hcommand₂ hsame
    rcases hrows hrow₁ with ⟨hk₁, rfl⟩ | hrow₁ <;> rcases hrows hrow₂ with ⟨hk₂, rfl⟩ | hrow₂
    · exact hk₁.trans hk₂.symm
    · obtain rfl := OutboxCommand.agentStart.inj hcommand₁
      exact absurd hsame.symm (hfresh _ _ _ hrow₂ hcommand₂)
    · obtain rfl := OutboxCommand.agentStart.inj hcommand₂
      exact absurd hsame (hfresh _ _ _ hrow₁ hcommand₁)
    · exact h.unique hrow₁ hrow₂ hcommand₁ hcommand₂ hsame

end StartInv

/-! ## Transactions -/

namespace StartInv

theorem of_writes (h : StartInv s) (hw : Writes besideOutbox s s') : StartInv s' := by
  have houtbox : Refs.outbox.read s = Refs.outbox.read s' := (hw .outbox).2 (by decide)
  exact h.of_arrivals (Arrivals.of_read houtbox) (persists_of_writes hw)

instance : Frame (Maintains StartInv) where
  still hw h := h.of_writes (hw.mono fun _ hn ↦ (List.not_mem_nil hn).elim)

instance {n : Relation} [hn : Touches n besideOutbox] : Indifferent (Maintains StartInv) n where
  writes hw h := h.of_writes (hw.mono fun _ hm ↦ List.mem_singleton.mp hm ▸ hn.mem)

instance : Updates (Maintains StartInv) Refs.outbox where
  update k f hf := by
    constructor
    intro s _ s' hrun h
    exact h.of_arrivals (Respects.rel hrun) (Respects.rel hrun)
  updateWhere p f hf := by
    constructor
    intro s _ s' hrun h
    exact h.of_arrivals (Respects.rel hrun) (Respects.rel hrun)

/-- A row that is no start may be added. -/
theorem enqueue_respects {command : OutboxCommand} {epoch : Nat}
    (hcommand : command.startRun = none) :
    Respects (Maintains StartInv) (enqueue env taskId command epoch) := by
  have hnew : Respects NoNewStart (enqueue env taskId command epoch) := by
    rw [enqueue]
    exact .seq inferInstance fun _ ↦ Arrivals.insert hcommand
  constructor
  intro s _ s' hrun h
  exact h.of_arrivals (hnew.rel hrun) (Respects.rel hrun)

instance : StopRows (Maintains StartInv) where
  enqueueStop _ _ _ _ _ := enqueue_respects rfl

instance : OutboxSteps (Maintains StartInv) where
  enqueue _ _ _ _ := enqueue_respects rfl
  kill _ := inferInstance
  ack _ _ _ := inferInstance
  lease _ _ _ := inferInstance

/-- A run was added that has no start. -/
structure Unstarted (taskId runId : String) (s : DB) : Prop where
  inv : StartInv s
  found : ∃ run, s.agentRuns.find? runId = some run ∧ run.taskId = taskId
  fresh : ∀ k row payload, s.outbox.find? k = some row → row.command = .agentStart payload →
    payload.runId ≠ runId

theorem unstarted {run : AgentRunRow} (h : StartInv s) (howner : run.taskId = taskId)
    (hadd : add Refs.agentRuns runId run s = .ok ((), s')) : Unstarted taskId runId s' := by
  have hinv : Maintains StartInv s s' := Respects.rel hadd
  obtain ⟨hnone, rfl⟩ := Ref.insert_ok.mp hadd
  refine ⟨hinv h, ⟨run, ?_, howner⟩, fun k row payload hrow hcommand hsame ↦ ?_⟩
  · exact (Table.find?_insert hnone run runId).trans (if_pos rfl)
  · obtain ⟨run', hrun', -⟩ := h.owned hrow hcommand
    rw [hsame] at hrun'
    exact absurd (hnone.symm.trans hrun') (by simp)

theorem Unstarted.of_writes (h : Unstarted taskId runId s) (hw : Writes besideOutbox s s') :
    Unstarted taskId runId s' := by
  have houtbox : s.outbox = s'.outbox := (hw .outbox).2 (by decide)
  obtain ⟨run, hrun, howner⟩ := h.found
  obtain ⟨run', hrun', hfixed⟩ := (hw .agentRuns).1 _ _ hrun
  have howner' : run'.taskId = run.taskId := congrArg RunAssignment.taskId hfixed
  exact ⟨h.inv.of_writes hw, ⟨run', hrun', howner'.trans howner⟩, houtbox ▸ h.fresh⟩

theorem Unstarted.start {epoch : Nat} (payload : StartPayload)
    (h : Unstarted taskId payload.runId s)
    (henqueue : enqueue env taskId (.agentStart payload) epoch s = .ok ((), s')) :
    StartInv s' := by
  obtain ⟨run, hrun, howner⟩ := h.found
  exact h.inv.enqueueStart hrun howner h.fresh henqueue

instance createExecuteRun_respects {r : RunIdentity} {attempt : Nat} :
    Respects (Maintains StartInv) (createExecuteRun env auth taskId task r attempt) where
  rel {s _ s'} hrun h := by
    rw [createExecuteRun, Tx.get_bind_ok] at hrun
    obtain ⟨_, t₁, hmanifest, hrun₁⟩ := Tx.bind_ok.mp hrun
    obtain ⟨_, t₂, hadd, hrun₂⟩ := Tx.bind_ok.mp hrun₁
    have hmanifests : Maintains StartInv s t₁ := Respects.rel hmanifest
    have hunstarted : Unstarted taskId r.runId t₂ := unstarted (hmanifests h) rfl hadd
    -- what comes between the run and its start does not touch the outbox
    obtain ⟨_, t₃, hinputs, hrun₃⟩ := Tx.bind_ok.mp hrun₂
    obtain ⟨_, t₄, hmarker, hrun₄⟩ := Tx.bind_ok.mp hrun₃
    obtain ⟨_, t₅, hunit, hrun₅⟩ := Tx.bind_ok.mp hrun₄
    obtain ⟨_, t₆, hworkspace, hrun₆⟩ := Tx.bind_ok.mp hrun₅
    obtain ⟨_, t₇, hstart, hevent⟩ := Tx.bind_ok.mp hrun₆
    have hbetween : Writes besideOutbox t₂ t₆ :=
      Preord.trans (Respects.rel hinputs) (Preord.trans (Respects.rel hmarker)
        (Preord.trans (Respects.rel hunit) (Respects.rel hworkspace)))
    have hstarted : StartInv t₇ :=
      Unstarted.start (startPayload taskId task _) (hunstarted.of_writes hbetween) hstart
    have hrest : Maintains StartInv t₇ s' := Respects.rel hevent
    exact hrest hstarted

instance createPlanRun_respects {sessionId : String} {session : PlannerSessionRow} :
    Respects (Maintains StartInv) (createPlanRun env auth p taskId task sessionId session) where
  rel {s _ s'} hrun h := by
    rw [createPlanRun] at hrun
    obtain ⟨runId, t₁, hrunId, hrun₁⟩ := Tx.bind_ok.mp hrun
    obtain ⟨manifestId, t₂, hmanifestId, hrun₂⟩ := Tx.bind_ok.mp hrun₁
    obtain ⟨_, t₃, hadd, hrun₃⟩ := Tx.bind_ok.mp hrun₂
    have hids : Maintains StartInv s t₂ :=
      Preord.trans (R := Maintains StartInv) (Respects.rel hrunId) (Respects.rel hmanifestId)
    have hunstarted : Unstarted taskId runId t₃ := unstarted (hids h) rfl hadd
    obtain ⟨contract, t₄, hcontract, hrun₄⟩ := Tx.bind_ok.mp hrun₃
    rw [Tx.get_bind_ok] at hrun₄
    obtain ⟨_, t₅, hmanifest, hrun₅⟩ := Tx.bind_ok.mp hrun₄
    obtain ⟨_, t₆, hinputs, hrun₆⟩ := Tx.bind_ok.mp hrun₅
    obtain ⟨_, t₇, hmarker, hrun₇⟩ := Tx.bind_ok.mp hrun₆
    obtain ⟨_, t₈, hsession, hrun₈⟩ := Tx.bind_ok.mp hrun₇
    obtain ⟨_, t₉, hstart, hrest⟩ := Tx.bind_ok.mp hrun₈
    have hbetween : Writes besideOutbox t₃ t₈ :=
      Preord.trans (Respects.rel hcontract) (Preord.trans (Respects.rel hmanifest)
        (Preord.trans (Respects.rel hinputs) (Preord.trans (Respects.rel hmarker)
          (Respects.rel hsession))))
    have hstarted : StartInv t₉ :=
      Unstarted.start (planStartPayload taskId task runId _) (hunstarted.of_writes hbetween) hstart
    have hevent : Maintains StartInv t₉ s' :=
      Respects.rel (m := do
        appendEvent env taskId "plan_run.created" auth.actorId
          [("run_id", .text runId), ("planner_session_id", .text sessionId),
            ("generation", Value.ofNat session.generation)]
        return _) hrest
    exact hevent hstarted

instance confirmRunExit_respects : Respects (Maintains StartInv) (confirmRunExit env auth p) := by
  rw [confirmRunExit]
  infer_instance

instance handler_respects {operation : Operation} :
    Respects (Maintains StartInv) (handler env auth p operation) := by
  cases operation <;> (dsimp only [handler]; infer_instance)

end StartInv

theorem startInv_invariant (ok : World → Label → Prop) :
    system.Invariant ok fun w ↦ StartInv w.db where
  init := ⟨(fun h ↦ nomatch h), (fun h ↦ nomatch h)⟩
  step _ _ _ h _ hstep := step_rel (R := Maintains StartInv) hstep h

end HibikiCore
