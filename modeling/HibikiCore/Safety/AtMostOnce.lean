import HibikiCore.Safety.Sending
import HibikiCore.Safety.Threads

/-!
# Effects are sent at most once

An effect is engaged through a row when it was sent through it, or when a thread is cleared to send
it. The invariant of effects and their rows is kept with the engaged rows as those that may have
been sent; an engaged effect is engaged through one row only, and a row is sent at most once.
-/

namespace HibikiCore

set_option synthInstance.maxSize 100000000
set_option synthInstance.maxHeartbeats 400000

/-- The effect was sent through the row, or a thread may send it next. -/
def Engaged (w : World) (k e : String) : Prop :=
  (∃ c ∈ w.sends, c.outboxId = k ∧ c.payload.effectId = e) ∨
    ∃ id item db now payload, w.threads.find? id = some ⟨item, .cleared db now⟩ ∧
      item.outboxId = k ∧ item.command = .sideEffectDispatch payload ∧ payload.effectId = e

variable {w w' : World} {l : Label}

/-! ## Engaged rows -/

section Engage

variable {Sent Sent' : String → String → Prop} {s : DB}

theorem DispatchInv.mono (h : DispatchInv Sent s) (hsub : ∀ {k e}, Sent' k e → Sent k e) :
    DispatchInv Sent' s where
  fits hrow hcommand := by
    obtain ⟨effect, heffect, htask, hpayload, hfit⟩ := h.fits hrow hcommand
    exact ⟨effect, heffect, htask, hpayload, hfit.live, hfit.acked, fun hs ↦ hfit.sent (hsub hs),
      hfit.decided⟩
  unique := h.unique
  known hsent := h.known (hsub hsent)

/-- A claimed row whose effect is under way may be sent. -/
theorem DispatchInv.engage {k : String} {row : OutboxRow} {payload : DispatchPayload}
    {effect : SideEffectRow} (h : DispatchInv Sent s) (hrow : s.outbox.find? k = some row)
    (hcommand : row.command = .sideEffectDispatch payload) (hstatus : row.status = .inFlight)
    (heffect : s.sideEffects.find? payload.effectId = some effect)
    (hstate : effect.state = .dispatching)
    (hsub : ∀ {k' e}, Sent' k' e → Sent k' e ∨ k' = k ∧ e = payload.effectId) :
    DispatchInv Sent' s where
  fits {k' row' payload'} hrow' hcommand' := by
    obtain ⟨effect', heffect', htask, hpayload, hfit⟩ := h.fits hrow' hcommand'
    refine ⟨effect', heffect', htask, hpayload, hfit.live, hfit.acked, fun hs ↦ ?_, hfit.decided⟩
    rcases hsub hs with hold | ⟨rfl, he⟩
    · exact hfit.sent hold
    · rw [he] at heffect'
      obtain rfl := Option.some.inj (heffect.symm.trans heffect')
      obtain rfl := Option.some.inj (hrow.symm.trans hrow')
      exact .inr ⟨hstate, hstatus⟩
  unique := h.unique
  known hsent := by
    rcases hsub hsent with hold | ⟨rfl, rfl⟩
    · exact h.known hold
    · exact ⟨row, payload, hrow, hcommand, rfl⟩

end Engage

theorem Engaged.of_sends {k e : String} (h : Engaged w' k e) (hsends : w'.sends = w.sends)
    (hthreads : ∀ id item db now, w'.threads.find? id = some ⟨item, .cleared db now⟩ →
      w.threads.find? id = some ⟨item, .cleared db now⟩) : Engaged w k e := by
  rcases h with hsent | ⟨id, item, db, now, payload, hthread, hrest⟩
  · exact .inl (hsends ▸ hsent)
  · exact .inr ⟨id, item, db, now, payload, hthreads id item db now hthread, hrest⟩

/-- A thread that leaves its phase for another one than the cleared is not engaged any more. -/
theorem Engaged.of_setPhase {id : Nat} {phase : Phase} {k e : String}
    (hphase : ∀ db now, phase ≠ .cleared db now) (h : Engaged (w.setPhase id phase) k e) :
    Engaged w k e := by
  refine h.of_sends rfl fun id' item db now hthread ↦ ?_
  rw [World.find?_setPhase] at hthread
  split at hthread
  · obtain ⟨t, -, heq⟩ := Option.map_eq_some_iff.mp hthread
    exact absurd (congrArg Thread.phase heq) (hphase db now)
  · exact hthread

theorem Engaged.of_endThread {id : Nat} {k e : String} (h : Engaged (w.endThread id) k e) :
    Engaged w k e := by
  refine h.of_sends rfl fun id' item db now hthread ↦ ?_
  rw [World.find?_endThread] at hthread
  split at hthread
  · cases hthread
  · exact hthread

/-- A thread that was not cleared has a row that is not engaged. -/
theorem ThreadInv.not_engaged {id : Nat} {item : OutboxItem} {e : String} (h : ThreadInv w)
    (hthread : w.threads.find? id = some ⟨item, .claimed⟩) (hstop : item.command.stopRun = none) :
    ¬Engaged w item.outboxId e := by
  rintro (⟨c, hmem, hk, -⟩ | ⟨id', item', db, now, payload, hthread', hk, -⟩)
  · exact h.unsent hthread rfl hstop c hmem hk
  · obtain rfl := h.single hthread hthread' hk.symm hstop
    have heq := Option.some.inj (hthread.symm.trans hthread')
    cases congrArg Thread.phase heq

/-! ## Steps -/

theorem ThreadInv.agentRow {id : Nat} {t : Thread} (h : ThreadInv w)
    (hthread : w.threads.find? id = some t) (hagent : t.item.command.dispatchEffect = none) :
    AgentRow t.item.outboxId w.db := by
  obtain ⟨row, hrow⟩ := h.row hthread
  exact ⟨row, hrow.found, hrow.sameCommand ▸ hagent⟩

/-- The check of a claimed row is careful. -/
theorem lastCheck_careful {env : Env} {id : Nat} {item : OutboxItem} {b : Bool} {db : DB}
    (h : ThreadInv w) (hthread : w.threads.find? id = some ⟨item, .claimed⟩)
    (hrun : World.lastCheck env item w.db = .ok (b, db)) : Careful (Engaged w) w.db db := by
  rw [World.lastCheck] at hrun
  cases hcommand : item.command with
  | agentStart payload =>
    rw [hcommand] at hrun
    have hagent : AgentRow item.outboxId w.db := h.agentRow hthread (by rw [hcommand]; rfl)
    have hquiet : QuietAt item.outboxId w.db db := Respects.rel hrun
    exact .of_quiet (hquiet hagent).1
  | agentStop runId reason =>
    rw [hcommand] at hrun
    obtain ⟨-, rfl⟩ := Tx.pure_ok.mp hrun
    exact Preord.refl _
  | sideEffectDispatch payload =>
    rw [hcommand] at hrun
    obtain ⟨row, hrow⟩ := h.row hthread
    refine precheck_careful (fun row' hrow' ↦ ?_) ?_ hrun
    · obtain rfl := Option.some.inj (hrow.found.symm.trans hrow')
      exact hrow.sameCommand.trans hcommand
    · exact h.not_engaged hthread (by rw [hcommand]; rfl)

/-- Recording what an adapter answered keeps the invariant. -/
theorem record_keeps {env : Env} {id : Nat} {item : OutboxItem} {reply : Reply} {db : DB}
    (h : ThreadInv w) (hthread : w.threads.find? id = some ⟨item, .answered reply⟩)
    (hrun : World.record env item reply w.db = .ok ((), db)) :
    Maintains (DispatchInv (Engaged w)) w.db db := by
  have hquiet (hagent : item.command.dispatchEffect = none)
      (hrow : QuietAt item.outboxId w.db db) : Maintains (DispatchInv (Engaged w)) w.db db :=
    fun hinv ↦ hinv.of_quiet (hrow (h.agentRow hthread hagent)).1
  have hsame (hpure : (pure () : Core Unit) w.db = .ok ((), db)) :
      Maintains (DispatchInv (Engaged w)) w.db db := by
    obtain ⟨-, rfl⟩ := Tx.pure_ok.mp hpure
    exact Preord.refl _
  cases hcommand : item.command with
  | agentStart payload =>
    cases reply with
    | started revoked =>
      simp only [World.record, hcommand] at hrun
      exact hquiet (by rw [hcommand]; rfl) (Respects.rel hrun)
    | stopped result | receipt receipt =>
      simp only [World.record, hcommand] at hrun
      exact hsame hrun
  | agentStop runId reason =>
    cases reply with
    | stopped result =>
      simp only [World.record, hcommand] at hrun
      exact hquiet (by rw [hcommand]; rfl) (Respects.rel hrun)
    | started revoked | receipt receipt =>
      simp only [World.record, hcommand] at hrun
      exact hsame hrun
  | sideEffectDispatch payload =>
    cases reply with
    | receipt receipt =>
      simp only [World.record, hcommand] at hrun
      obtain ⟨row, hrow⟩ := h.row hthread
      exact applyReceipt_maintains hrow.found (hrow.sameCommand.trans hcommand) hrun
    | started revoked | stopped result =>
      simp only [World.record, hcommand] at hrun
      exact hsame hrun

/-- Every transaction keeps the invariant with the rows that were engaged before it. -/
theorem dispatchInv_step (ht : ThreadInv w) (h : DispatchInv (Engaged w) w.db)
    (hstep : World.Step w l w') : DispatchInv (Engaged w) w'.db := by
  cases hstep with
  | command hrun => exact (execute_respects handler_maintains).rel hrun h
  | claimed _ hrun => exact (claimOneOutbox_careful.rel hrun h).1
  | unclaimed hrun => exact (claimOneOutbox_careful.rel hrun h).1
  | cleared hthread hrun => exact (lastCheck_careful ht hthread hrun h).1
  | refused hthread hrun => exact (lastCheck_careful ht hthread hrun h).1
  | settled hthread hrun => exact record_keeps ht hthread hrun h
  | failed _ hrun => exact (failOutbox_careful.rel hrun h).1
  | reconciled hrun => exact (reconcile_careful.rel hrun h).1
  | tool hrun =>
    rw [World.recordTool] at hrun
    exact Respects.rel (R := Maintains (DispatchInv (Engaged w))) hrun h
  | toolOutcome hrun =>
    rw [World.recordToolOutcome] at hrun
    exact Respects.rel (R := Maintains (DispatchInv (Engaged w))) hrun h
  | started | stopped | sent | raised | ended | crashed | exited | idle => exact h

/-- What is true of effects that were sent, or may be. -/
structure SendInv (w : World) : Prop where
  dispatch : DispatchInv (Engaged w) w.db
  /-- An effect is engaged through one row. -/
  alone : ∀ {k k' e}, Engaged w k e → Engaged w k' e → k = k'

/-- No effect was engaged by a step. -/
theorem SendInv.kept (ht : ThreadInv w) (h : SendInv w) (hstep : World.Step w l w')
    (hsub : ∀ {k e}, Engaged w' k e → Engaged w k e) : SendInv w' where
  dispatch := (dispatchInv_step ht h.dispatch hstep).mono hsub
  alone hk hk' := h.alone (hsub hk) (hsub hk')

/-- A thread is cleared to send: its effect is under way, so it was not engaged through another
row. -/
theorem SendInv.cleared {env : Env} {id : Nat} {item : OutboxItem} {db : DB} (ht : ThreadInv w)
    (h : SendInv w) (hthread : w.threads.find? id = some ⟨item, .claimed⟩)
    (hrun : World.lastCheck env item w.db = .ok (true, db)) :
    SendInv ({ w with db }.setPhase id (.cleared db env.now)) := by
  have hnew {k e} (hengaged : Engaged ({ w with db }.setPhase id (.cleared db env.now)) k e) :
      Engaged w k e ∨ k = item.outboxId ∧ ∃ payload, item.command = .sideEffectDispatch payload ∧
        payload.effectId = e := by
    rcases hengaged with hsent | ⟨id', item', db', now', payload, hthread', hk, hcommand, he⟩
    · exact .inl (.inl hsent)
    · rw [World.find?_setPhase] at hthread'
      split at hthread'
      · next heq =>
        subst heq
        obtain ⟨t, htfind, heq⟩ := Option.map_eq_some_iff.mp hthread'
        obtain rfl := Option.some.inj (hthread.symm.trans htfind)
        obtain rfl : item = item' := congrArg Thread.item heq
        exact .inr ⟨hk.symm, payload, hcommand, he⟩
      · exact .inl (.inr ⟨id', item', db', now', payload, hthread', hk, hcommand, he⟩)
  have hdb : DispatchInv (Engaged w) db := (lastCheck_careful ht hthread hrun h.dispatch).1
  cases hcommand : item.command with
  | agentStart payload | agentStop runId reason =>
    have hsub {k e} (hengaged : Engaged ({ w with db }.setPhase id (.cleared db env.now)) k e) :
        Engaged w k e := by
      refine (hnew hengaged).resolve_right ?_
      rintro ⟨-, payload', hcommand', -⟩
      cases hcommand.symm.trans hcommand'
    exact ⟨hdb.mono hsub, fun hk hk' ↦ h.alone (hsub hk) (hsub hk')⟩
  | sideEffectDispatch payload =>
    rw [World.lastCheck, hcommand] at hrun
    obtain ⟨rfl, taskId, row, effect, task, hcheck⟩ := precheck_true hrun
    obtain ⟨row', hrow'⟩ := ht.row hthread
    obtain rfl := Option.some.inj (hcheck.claim.symm.trans hrow'.found)
    have hrowCommand : row.command = .sideEffectDispatch payload :=
      hrow'.sameCommand.trans hcommand
    have hstate : effect.state = .dispatching := List.mem_singleton.mp hcheck.sendable.state
    obtain ⟨effect', heffect', -, -, hfit⟩ := h.dispatch.fits hcheck.claim hrowCommand
    obtain rfl := Option.some.inj (hcheck.found.symm.trans heffect')
    have hstatus : row.status = .inFlight := by
      cases hst : row.status with
      | inFlight => rfl
      | dead => exact absurd hst hcheck.live
      | pending => exact absurd hst (hrow'.status (by rw [hcommand]; rfl))
      | acked =>
        have hrec := hfit.acked hst
        rw [hstate] at hrec
        cases hrec
    have hsub {k e}
        (hengaged : Engaged ({ w with db := w.db }.setPhase id (.cleared w.db env.now)) k e) :
        Engaged w k e ∨ k = item.outboxId ∧ e = payload.effectId := by
      rcases hnew hengaged with hold | ⟨hk, payload', hcommand', he⟩
      · exact .inl hold
      · obtain rfl := OutboxCommand.sideEffectDispatch.inj (hcommand.symm.trans hcommand')
        exact .inr ⟨hk, he.symm⟩
    have hother {k} (hengaged : Engaged w k payload.effectId) : k = item.outboxId := by
      obtain ⟨row₁, payload₁, hrow₁, hcommand₁, he₁⟩ := h.dispatch.known hengaged
      obtain ⟨effect₁, heffect₁, -, -, hfit₁⟩ := h.dispatch.fits hrow₁ hcommand₁
      rw [he₁, hcheck.found, Option.some_inj] at heffect₁
      subst heffect₁
      rw [he₁] at hfit₁
      rcases hfit₁.sent hengaged with hrec | ⟨-, hflight⟩
      · rw [hstate] at hrec
        cases hrec
      · exact h.dispatch.unique hrow₁ hcheck.claim hcommand₁ hrowCommand he₁
          (OutboxRow.isLive_iff.mpr (.inr hflight)) (OutboxRow.isLive_iff.mpr (.inr hstatus))
    refine ⟨h.dispatch.engage hcheck.claim hrowCommand hstatus hcheck.found hstate hsub, ?_⟩
    intro k k' e hk hk'
    rcases hsub hk with hold | ⟨rfl, rfl⟩ <;> rcases hsub hk' with hold' | ⟨rfl, he⟩
    · exact h.alone hold hold'
    · exact hother (he ▸ hold)
    · exact (hother hold').symm
    · rfl

/-- A call engages nothing that was not engaged before it. -/
theorem Engaged.of_sent {id : Nat} {item : OutboxItem} {db : DB} {now : Time}
    {payload : DispatchPayload} {phase : Phase} {k e : String}
    (hthread : w.threads.find? id = some ⟨item, .cleared db now⟩)
    (hcommand : item.command = .sideEffectDispatch payload)
    (hphase : ∀ db now, phase ≠ .cleared db now)
    (h : Engaged ({ w with
      sends := ⟨item.outboxId, item.taskId, payload, db, now⟩ :: w.sends }.setPhase id phase) k e) :
    Engaged w k e := by
  rcases Engaged.of_setPhase hphase h with ⟨c, hmem, hk, he⟩ | hthreads
  · rcases List.mem_cons.mp hmem with rfl | hmem
    · exact .inr ⟨id, item, db, now, payload, hthread, hk, hcommand, he⟩
    · exact .inl ⟨c, hmem, hk, he⟩
  · exact .inr hthreads

theorem Phase.after_ne_cleared {α : Type} {retries : Nat} {f : α → Reply}
    {reply : Except String α} (db : DB) (now : Time) :
    Phase.after retries f reply ≠ .cleared db now := by
  cases reply <;> simp [Phase.after]

theorem SendInv.step (ht : ThreadInv w) (h : SendInv w) (hstep : World.Step w l w') :
    SendInv w' := by
  have hkept : (∀ {k e}, Engaged w' k e → Engaged w k e) → SendInv w' := h.kept ht hstep
  cases hstep with
  | cleared hthread hrun => exact h.cleared ht hthread hrun
  | claimed hnew hrun =>
    refine hkept fun hengaged ↦ hengaged.of_sends rfl fun id' item db now hthread ↦ ?_
    rw [Table.find?_insert hnew] at hthread
    split at hthread
    · cases congrArg Thread.phase (Option.some.inj hthread)
    · exact hthread
  | sent hthread hcommand => exact hkept (.of_sent hthread hcommand Phase.after_ne_cleared)
  | started hthread hcommand =>
    refine hkept fun hengaged ↦ ?_
    exact (Engaged.of_setPhase Phase.after_ne_cleared hengaged).of_sends rfl fun _ _ _ _ ↦ id
  | stopped hthread hcommand =>
    refine hkept fun hengaged ↦ ?_
    exact (Engaged.of_setPhase Phase.after_ne_cleared hengaged).of_sends rfl fun _ _ _ _ ↦ id
  | settled => exact hkept (.of_setPhase (by simp))
  | raised => exact hkept (.of_setPhase (by simp))
  | refused | failed | ended => exact hkept .of_endThread
  | crashed => exact hkept fun hengaged ↦ hengaged.of_sends rfl fun _ _ _ _ hnone ↦ nomatch hnone
  | command | unclaimed | reconciled | exited | tool | toolOutcome => exact hkept id
  | idle => exact h

theorem sendInv_invariant (ok : World → Label → Prop) :
    system.Invariant ok fun w ↦ ThreadInv w ∧ SendInv w := by
  refine (threadInv_invariant ok).strengthen ⟨⟨?_, ?_, ?_⟩, ?_⟩ ?_
  · rintro k row payload ⟨⟩
  · rintro k k' row row' payload payload' ⟨⟩
  · rintro k e (⟨c, ⟨⟩, -⟩ | ⟨id, item, db, now, payload, ⟨⟩, -⟩)
  · rintro k k' e (⟨c, ⟨⟩, -⟩ | ⟨id, item, db, now, payload, ⟨⟩, -⟩)
  · intro w l w' ht _ h _ hstep
    exact h.step ht (World.step_cases hstep)

/-- A task with an approved contract that allows an effect, and the effect claimed for dispatch by
a thread. -/
def sampleClaimed : List Label :=
  let human := AuthContext.ofHuman "owner"
  [ .ask human .createTask { title := some "task" },
    .ask human .submitContract { taskId := some "task_i", allowedSideEffects := ["notify"] },
    .ask human .approveContract { decisionId := some "dec_iiii" },
    .ask human .proposeSideEffect
      { taskId := some "task_i", logicalActionKey := some "notify", targetRef := some "owner" },
    .ask human .dispatchSideEffect { effectId := some "eff_iiiiiiii" },
    .claim .silent 0 ]

/-- The claimed effect is checked once more and sent; the adapter raises. -/
def sampleSent : List Label :=
  sampleClaimed ++ [.check .silent 0, .call 0 (.dispatch (.error "timeout"))]

/-- The external adapter is asked at most once for each effect, in every run of the system. The
check right before the call passes only while nothing is recorded of the effect. -/
theorem dispatched_at_most_once {w : World} (h : system.Reachable w) :
    (w.sends.map fun c ↦ c.payload.effectId).Nodup ∧
      ∀ env id item payload db, w.threads.find? id = some ⟨item, .claimed⟩ →
        item.command = .sideEffectDispatch payload →
        World.lastCheck env item w.db = .ok (true, db) →
        ∃ effect, w.db.sideEffects.find? payload.effectId = some effect ∧
          effect.state.isRecorded = false := by
  obtain ⟨ht, hs⟩ := (sendInv_invariant fun _ _ ↦ True).of_reachable h
  constructor
  · refine List.Nodup.map_on (fun c hc c' hc' he ↦ ?_) (List.Nodup.of_map _ ht.sentOnce)
    have hk : c.outboxId = c'.outboxId :=
      hs.alone (.inl ⟨c, hc, rfl, rfl⟩) (.inl ⟨c', hc', rfl, he.symm⟩)
    exact List.inj_on_of_nodup_map ht.sentOnce hc hc' hk
  · intro env id item payload db _ hcommand hrun
    rw [World.lastCheck, hcommand] at hrun
    obtain ⟨-, taskId, row, effect, task, hcheck⟩ := precheck_true hrun
    refine ⟨effect, hcheck.found, ?_⟩
    rw [List.mem_singleton.mp hcheck.sendable.state]
    rfl

theorem dispatched_at_most_once_sampleSent :
    ∃ w, system.exec system.init sampleSent = some w ∧
      w.sends.map (fun c ↦ c.payload.effectId) = ["eff_iiiiiiii"] ∧
      (w.sends.map fun c ↦ c.payload.effectId).Nodup := by
  have hrun : (system.exec system.init sampleSent).map
      (fun w ↦ w.sends.map fun c ↦ c.payload.effectId) = some ["eff_iiiiiiii"] := by
    decide +kernel
  obtain ⟨w, hw, hsends⟩ := Option.map_eq_some_iff.mp hrun
  exact ⟨w, hw, hsends, (dispatched_at_most_once (.of_exec hw)).1⟩

end HibikiCore
