import HibikiCore.Safety.Starts
import HibikiCore.Safety.Draining
import HibikiCore.Safety.AtMostOnce

/-!
# Starts that were revoked

A pause, a cancellation and a gate that is opened for a task revoke the starts of the task that wait
or are under way. A start that is over stays over, whatever becomes of the task: it is not claimed
again, and no thread that holds it passes the check before the call.
-/

namespace HibikiCore

set_option synthInstance.maxSize 100000000
set_option synthInstance.maxHeartbeats 400000

variable {env : Env} {auth : AuthContext} {p : Payload} {result : CommandResult} {s t u s' : DB}
  {taskId k : String}

/-! ## Rows that are over stay over -/

namespace RowsKept

variable {K : OutboxStatus → Prop}

/-- One row was changed. -/
theorem modify {f : OutboxRow → OutboxRow} (hout : s'.outbox = s.outbox.modify k f)
    (hcommand : ∀ a, (f a).command = a.command)
    (hstatus : ∀ row, s.outbox.find? k = some row → K row.status → K (f row).status) :
    RowsKept K s s' := by
  intro k' row hrow _ hkept
  rw [hout, Table.find?_modify]
  split
  · next heq =>
    subst heq
    exact ⟨f row, by rw [hrow]; rfl, hcommand row, hstatus row hrow hkept⟩
  · exact ⟨row, hrow, rfl, hkept⟩

/-- What is claimed waits, and what a claim retires is over. -/
instance claimOneOutbox_respects :
    Respects (RowsKept OutboxStatus.IsOver) (claimOneOutbox env) where
  rel {s item s'} h := by
    cases item with
    | none =>
      rcases claimOneOutbox_nothing h with ⟨-, rfl⟩ | ⟨k, row, -, hretired⟩
      · exact Preord.refl _
      · exact modify hretired (fun _ ↦ rfl) fun _ _ _ ↦ Final.dead
    | some item =>
      obtain ⟨k, row, hrow, hpending, hclaimed⟩ := claimOneOutbox_claimed h
      refine modify hclaimed.outbox (fun _ ↦ rfl) fun row' hrow' hover ↦ ?_
      obtain rfl := Option.some.inj (hrow.symm.trans hrow')
      exact absurd hpending hover.1

instance transactions_over : Transactions (RowsKept OutboxStatus.IsOver) := inferInstance

end RowsKept

/-- A row starts an agent, and is over. -/
def StartOver (k : String) (payload : StartPayload) (s : DB) : Prop :=
  ∃ row, s.outbox.find? k = some row ∧ row.command = .agentStart payload ∧ row.status.IsOver

theorem StartOver.kept {payload : StartPayload} (h : StartOver k payload s)
    (hkept : RowsKept OutboxStatus.IsOver s s') : StartOver k payload s' := by
  obtain ⟨row, hrow, hcommand, hover⟩ := h
  obtain ⟨row', hrow', hsame, hover'⟩ := hkept k row hrow (by rw [hcommand]; rfl) hover
  exact ⟨row', hrow', hsame.trans hcommand, hover'⟩

/-! ## Revoking -/

/-- The starts of a task are over. -/
def StartsRevoked (taskId : String) (s s' : DB) : Prop :=
  ∀ k row payload, s.outbox.find? k = some row → row.taskId = taskId →
    row.command = .agentStart payload → StartOver k payload s'

/-- Rows persist up to a revocation, and what it ended stays over. -/
theorem StartsRevoked.within (h : StartsRevoked taskId t u) (hbefore : Persists s t)
    (hafter : RowsKept OutboxStatus.IsOver u s') : StartsRevoked taskId s s' := by
  intro k row payload hrow htask hcommand
  obtain ⟨row', hrow', hfixed⟩ := (hbefore .outbox).1 k row hrow
  have htask' : row'.taskId = row.taskId := congrArg (·.1) hfixed
  have hcommand' : row'.command = row.command := congrArg (·.2.1) hfixed
  exact (h k row' payload hrow' (htask'.trans htask) (hcommand'.trans hcommand)).kept hafter

/-- A start in the revocation loop. -/
theorem revokeOutboxRow_start {task : TaskRow} {stops stops' : List String}
    {r : String × OutboxRow} {row : OutboxRow} {payload : StartPayload}
    (hrow : s.outbox.find? r.1 = some row) (hstart : row.command = .agentStart payload)
    (hcommand : r.2.command = .agentStart payload)
    (h : revokeOutboxRow env task stops r s = .ok (stops', s')) : StartOver r.1 payload s' := by
  have hdead {v : DB} (hupdate : (Refs.outbox.update r.1 fun ob ↦
      { ob with status := .dead, revokeEpoch := task.revokeEpoch } : Core Unit) s = .ok ((), v)) :
      StartOver r.1 payload v := by
    obtain rfl := Ref.update_ok.mp hupdate
    refine ⟨{ row with status := .dead, revokeEpoch := task.revokeEpoch }, ?_, hstart,
      Final.dead (K := OutboxStatus.IsOver)⟩
    exact (Table.find?_modify_self _ _ _).trans (congrArg _ hrow)
  rw [revokeOutboxRow, hcommand] at h
  rcases Tx.ite_ok.mp h with ⟨-, huncertain⟩ | ⟨-, hunsent⟩
  · obtain ⟨_, t, hrevoke, hpure⟩ := Tx.bind_ok.mp huncertain
    obtain ⟨-, rfl⟩ := Tx.pure_ok.mp hpure
    obtain ⟨_, u, hkill, hkeep⟩ := Tx.bind_ok.mp hrevoke
    exact (hdead hkill).kept (Respects.rel hkeep)
  · obtain ⟨_, t, hrevoke, hpure⟩ := Tx.bind_ok.mp hunsent
    obtain ⟨-, rfl⟩ := Tx.pure_ok.mp hpure
    obtain ⟨_, u, hkill, hrelease⟩ := Tx.bind_ok.mp hrevoke
    exact (hdead hkill).kept (Respects.rel hrelease)

theorem invalidatePendingOutbox_revokes {flushed : DB}
    (h : invalidatePendingOutbox env flushed taskId s = .ok ((), s')) :
    StartsRevoked taskId s s' := by
  intro k row payload hrow htask hcommand
  by_cases hlive : row.isLive = true
  · obtain ⟨task, t, hget, h₁⟩ := Tx.bind_ok.mp h
    obtain ⟨-, rfl⟩ := getTask_ok.mp hget
    rw [Tx.get_bind_ok] at h₁
    obtain ⟨stops, u, hloop, hstops⟩ := Tx.bind_ok.mp h₁
    refine StartOver.kept ?_ (Respects.rel hstops)
    have hmem : (k, row) ∈ revocableOutbox t taskId := by
      rw [revocableOutbox, Table.mem_select]
      refine ⟨hrow, ?_⟩
      simp [htask, hlive, hcommand, OutboxCommand.stopRun]
    -- the row is found with its command until its own round
    refine Tx.fold_mem (I := fun v ↦ ∃ a, v.outbox.find? k = some a ∧
      a.command = .agentStart payload) (P := StartOver k payload) hmem ?_ ?_ ?_
      ⟨row, hrow, hcommand⟩ hloop
    · rintro r - b b' t₁ t₂ ⟨a, ha, hstart⟩ hround
      have hp : Persists t₁ t₂ := Respects.rel hround
      obtain ⟨a', ha', hfixed⟩ := (hp .outbox).1 k a ha
      have hsame : a'.command = a.command := congrArg (·.2.1) hfixed
      exact ⟨a', ha', hsame.trans hstart⟩
    · rintro b b' t₁ t₂ ⟨a, ha, hstart⟩ hround
      exact revokeOutboxRow_start ha hstart hcommand hround
    · exact fun r _ b b' t₁ t₂ _ hover hround ↦ hover.kept (Respects.rel hround)
  · have hover : StartOver k payload s := by
      refine ⟨row, hrow, hcommand, ?_⟩
      simpa [OutboxRow.isLive] using hlive
    exact hover.kept (Respects.rel h)

/-! ## The operations that revoke -/

/-- What pauses or cancels a task, or opens a gate for it by name. -/
def haltingOperations : List Operation := [.pauseTask, .cancelTask, .openBlockingGate]

theorem pauseTask_revokes (htask : p.taskId = some taskId)
    (h : pauseTask env auth p s = .ok (result, s')) : StartsRevoked taskId s s' := by
  rw [pauseTask, Tx.get_bind_ok] at h
  obtain ⟨taskId', t₁, hkey, h₁⟩ := Tx.bind_ok.mp h
  obtain ⟨hid, rfl⟩ := key_ok.mp hkey
  obtain rfl := Option.some.inj (htask.symm.trans hid)
  obtain ⟨task, t₂, hget, h₂⟩ := Tx.bind_ok.mp h₁
  obtain ⟨_, t₃, hcheck, h₃⟩ := Tx.bind_ok.mp h₂
  obtain ⟨_, t₄, hmark, h₄⟩ := Tx.bind_ok.mp h₃
  obtain ⟨_, t₅, hstate, h₅⟩ := Tx.bind_ok.mp h₄
  obtain ⟨_, t₆, hrevoke, h₆⟩ := Tx.bind_ok.mp h₅
  have hbefore : Persists t₁ t₅ :=
    Preord.trans (Respects.rel hget) (Preord.trans (Respects.rel hcheck)
      (Preord.trans (Respects.rel hmark) (Respects.rel hstate)))
  exact (invalidatePendingOutbox_revokes hrevoke).within hbefore (Respects.rel h₆)

theorem cancelTask_revokes (htask : p.taskId = some taskId)
    (h : cancelTask env auth p s = .ok (result, s')) : StartsRevoked taskId s s' := by
  rw [cancelTask, Tx.get_bind_ok] at h
  obtain ⟨taskId', t₁, hkey, h₁⟩ := Tx.bind_ok.mp h
  obtain ⟨hid, rfl⟩ := key_ok.mp hkey
  obtain rfl := Option.some.inj (htask.symm.trans hid)
  obtain ⟨task, t₂, hget, h₂⟩ := Tx.bind_ok.mp h₁
  obtain ⟨_, t₃, hmark, h₃⟩ := Tx.bind_ok.mp h₂
  obtain ⟨_, t₄, hstate, h₄⟩ := Tx.bind_ok.mp h₃
  obtain ⟨_, t₅, hrevoke, h₅⟩ := Tx.bind_ok.mp h₄
  have hbefore : Persists t₁ t₄ :=
    Preord.trans (Respects.rel hget) (Preord.trans (Respects.rel hmark) (Respects.rel hstate))
  exact (invalidatePendingOutbox_revokes hrevoke).within hbefore (Respects.rel h₅)

theorem openBlockingGate_revokes (htask : p.taskId = some taskId)
    (h : openBlockingGate env auth p s = .ok (result, s')) : StartsRevoked taskId s s' := by
  rw [openBlockingGate, Tx.get_bind_ok] at h
  obtain ⟨taskId', t₁, hkey, h₁⟩ := Tx.bind_ok.mp h
  obtain ⟨hid, rfl⟩ := key_ok.mp hkey
  obtain rfl := Option.some.inj (htask.symm.trans hid)
  obtain ⟨task, t₂, hget, h₂⟩ := Tx.bind_ok.mp h₁
  obtain ⟨decisionId, t₃, hdecision, h₃⟩ := Tx.bind_ok.mp h₂
  obtain ⟨_, t₄, hadd, h₄⟩ := Tx.bind_ok.mp h₃
  obtain ⟨_, t₅, hgate, h₅⟩ := Tx.bind_ok.mp h₄
  obtain ⟨_, t₆, hblock, h₆⟩ := Tx.bind_ok.mp h₅
  obtain ⟨_, t₇, hstate, h₇⟩ := Tx.bind_ok.mp h₆
  obtain ⟨_, t₈, hrevoke, h₈⟩ := Tx.bind_ok.mp h₇
  have hbefore : Persists t₁ t₇ :=
    Preord.trans (Respects.rel hget) (Preord.trans (Respects.rel hdecision)
      (Preord.trans (Respects.rel hadd) (Preord.trans (Respects.rel hgate)
        (Preord.trans (Respects.rel hblock) (Respects.rel hstate)))))
  exact (invalidatePendingOutbox_revokes hrevoke).within hbefore (Respects.rel h₈)

theorem handler_revokes {operation : Operation} (hhalt : operation ∈ haltingOperations)
    (htask : p.taskId = some taskId)
    (h : handler env auth p operation s = .ok (result, s')) : StartsRevoked taskId s s' := by
  simp only [haltingOperations, List.mem_cons, List.not_mem_nil, or_false] at hhalt
  rcases hhalt with rfl | rfl | rfl
  · exact pauseTask_revokes htask h
  · exact cancelTask_revokes htask h
  · have hgate : openBlockingGate env auth p s = .ok (result, s') := h
    exact openBlockingGate_revokes htask hgate

/-- A command paused or cancelled a task, or opened a gate for it. -/
structure Halts (taskId : String) (w w' : World) : Prop where
  step : ∃ env r, system.step w (.command env r) = some w' ∧ r.operation ∈ haltingOperations ∧
    r.payload.taskId = some taskId ∧ CarriedOut env r w.db w'.db

theorem Halts.revokes {w w' : World} (h : Halts taskId w w') :
    StartsRevoked taskId w.db w'.db := by
  obtain ⟨env, r, -, hhalt, htask, t, t', result, hran, hrecords⟩ := h.step
  obtain ⟨n, rfl⟩ := hran.start
  have hdrawn : Persists w.db { w.db with drawn := n } := writes_drawn _ _
  exact (handler_revokes hhalt htask hran.run).within hdrawn
    (RowsKept.of_writes (hrecords.mono (by decide)))

/-! ## Threads that are cleared -/

namespace World

variable {w : World}

/-- A thread that leaves its phase for another one than the cleared has not been cleared. -/
theorem cleared_of_setPhase {id id' : Nat} {phase : Phase} {item : OutboxItem} {db : DB}
    {now : Time} (hphase : ∀ db now, phase ≠ .cleared db now)
    (h : (w.setPhase id phase).threads.find? id' = some ⟨item, .cleared db now⟩) :
    w.threads.find? id' = some ⟨item, .cleared db now⟩ := by
  rw [World.find?_setPhase] at h
  split at h
  · obtain ⟨t, -, heq⟩ := Option.map_eq_some_iff.mp h
    exact absurd (congrArg Thread.phase heq) (hphase db now)
  · exact h

theorem cleared_of_endThread {id id' : Nat} {t : Thread}
    (h : (w.endThread id).threads.find? id' = some t) : w.threads.find? id' = some t := by
  rw [World.find?_endThread] at h
  split at h
  · cases h
  · exact h

end World

/-! ## After a revocation -/

/-- A thread was cleared to launch an agent for a row. -/
def ClearedFor (k : String) (checkedIn : DB) (w : World) : Prop :=
  ∃ id item now, w.threads.find? id = some ⟨item, .cleared checkedIn now⟩ ∧ item.outboxId = k

/-- A start is over, and whoever may still launch its agent was cleared before. -/
structure Halted (k : String) (payload : StartPayload) (w₀ w : World) : Prop where
  ended : StartOver k payload w.db
  cleared : ∀ checkedIn, ClearedFor k checkedIn w → ClearedFor k checkedIn w₀
  launched : ∀ c ∈ w.starts, c.outboxId = k → c ∈ w₀.starts ∨ ClearedFor k c.checkedIn w₀

namespace Halted

variable {payload : StartPayload} {w₀ w w' : World} {l : Label}

/-- The check of a start that is over does not pass. -/
theorem not_cleared {item : OutboxItem} {db : DB} (h : Halted k payload w₀ w)
    (hrun : World.lastCheck env item w.db = .ok (true, db))
    (hitem : ∃ row, WasClaimed w.db item.outboxId item.taskId item.command row) :
    item.outboxId ≠ k := by
  rintro rfl
  obtain ⟨row, hrow, hcommand, hover⟩ := h.ended
  obtain ⟨row', hrow'⟩ := hitem
  obtain rfl := Option.some.inj (hrow.symm.trans hrow'.found)
  rw [World.lastCheck, show item.command = .agentStart payload from
    hrow'.sameCommand.symm.trans hcommand] at hrun
  obtain ⟨-, row', run, task, hfound, hclaimed, -⟩ := startSendAllowed_true hrun
  obtain rfl := Option.some.inj (hrow.symm.trans hfound)
  exact hover.2 hclaimed

/-- No thread was cleared by a step, and no agent was launched. -/
theorem kept (h : Halted k payload w₀ w) (hover : StartOver k payload w'.db)
    (hstarts : w'.starts = w.starts)
    (hthreads : ∀ {id item db now}, w'.threads.find? id = some ⟨item, .cleared db now⟩ →
      w.threads.find? id = some ⟨item, .cleared db now⟩) : Halted k payload w₀ w' where
  ended := hover
  cleared checkedIn := by
    rintro ⟨id, item, now, hthread, hitem⟩
    exact h.cleared checkedIn ⟨id, item, now, hthreads hthread, hitem⟩
  launched c hc := h.launched c (hstarts ▸ hc)

theorem step (ht : ThreadInv w) (h : Halted k payload w₀ w) (hstep : system.step w l = some w') :
    Halted k payload w₀ w' := by
  have hover : StartOver k payload w'.db := h.ended.kept (step_rel hstep)
  cases World.step_cases hstep with
  | @cleared env id item db hthread hrun =>
    refine ⟨hover, ?_, h.launched⟩
    rintro checkedIn ⟨id', item', now', hthread', hitem'⟩
    rw [World.find?_setPhase] at hthread'
    split at hthread'
    · next heq =>
      subst heq
      obtain ⟨t, ht', heq⟩ := Option.map_eq_some_iff.mp hthread'
      obtain rfl := Option.some.inj (hthread.symm.trans ht')
      obtain rfl : item = item' := congrArg Thread.item heq
      exact absurd hitem' (h.not_cleared hrun (ht.row hthread))
    · exact h.cleared checkedIn ⟨id', item', now', hthread', hitem'⟩
  | started hthread hcommand =>
    refine ⟨hover, ?_, fun c hc hk ↦ ?_⟩
    · rintro checkedIn ⟨id', item', now', hthread', hitem'⟩
      exact h.cleared checkedIn
        ⟨id', item', now', World.cleared_of_setPhase Phase.after_ne_cleared hthread', hitem'⟩
    · rcases List.mem_cons.mp hc with rfl | hc
      · exact .inr (h.cleared _ ⟨_, _, _, hthread, hk⟩)
      · exact h.launched c hc hk
  | claimed hnew =>
    refine h.kept hover rfl fun hthread ↦ ?_
    rw [Table.find?_insert hnew] at hthread
    split at hthread
    · cases congrArg Thread.phase (Option.some.inj hthread)
    · exact hthread
  | stopped | sent => exact h.kept hover rfl (World.cleared_of_setPhase Phase.after_ne_cleared)
  | settled | raised => exact h.kept hover rfl (World.cleared_of_setPhase (by simp))
  | refused | failed | ended => exact h.kept hover rfl World.cleared_of_endThread
  | crashed => exact h.kept hover rfl fun hthread ↦ nomatch hthread
  | command | unclaimed | reconciled | exited | tool | toolOutcome | idle =>
    exact h.kept hover rfl id

/-- At first, whoever is cleared is. -/
theorem refl (hover : StartOver k payload w.db) : Halted k payload w w :=
  ⟨hover, fun _ h ↦ h, fun _ hc _ ↦ .inl hc⟩

theorem run {ok : World → Label → Prop} (ht : ThreadInv w) (hover : StartOver k payload w.db)
    (hrun : system.Run ok w w') : Halted k payload w w' := by
  have hboth : ThreadInv w' ∧ Halted k payload w w' := by
    refine hrun.induct (P := fun u ↦ ThreadInv u ∧ Halted k payload w u) ⟨ht, .refl hover⟩ ?_
    rintro u l v ⟨ht', h⟩ - hstep
    exact ⟨ht'.step hstep, h.step ht' hstep⟩
  exact hboth.2

end Halted

end HibikiCore
