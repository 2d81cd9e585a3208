import HibikiCore.Safety.Launches
import HibikiCore.Safety.Warrants

/-!
# Effects are sent with a warrant

Between the approval of an effect and the moment it is sent anything may happen: the contract is
replaced, the approval expires, the task is paused, gated or cancelled, the effect is set free and
claimed again. The check right before the call looks at what can change; that somebody has
authorized the action is not looked at again, it follows from the state of the effect. What the
check has seen is remembered with the call.
-/

namespace HibikiCore

set_option synthInstance.maxSize 100000000
set_option synthInstance.maxHeartbeats 400000

/-- In a database, an effect was under way that could be sent with a payload, and it had a warrant;
an approval was given by a human of the principal of its task, for the action of the payload. -/
structure MaySend (w : World) (db : DB) (now : Time) (taskId : String) (payload : DispatchPayload)
    (effect : SideEffectRow) (task : TaskRow) : Prop where
  found : db.sideEffects.find? payload.effectId = some effect
  sameTask : effect.taskId = taskId
  sameAction : payload = dispatchPayload payload.effectId effect
  sendable : ∃ env, env.now = now ∧ Sendable env db taskId task effect [.dispatching]
  warrant : db.Lists effect ∨ ∃ decisionId decision,
    db.decisions.find? decisionId = some decision ∧ decision.Approves payload.effectId effect ∧
      decision.targetHash = .action
        { actionType := payload.actionType, targetRef := payload.targetRef
          parameters := payload.parameters } ∧
      w.Approved decisionId decision

/-- Whoever is about to send an effect, and whoever has sent one, was cleared to do so. -/
structure SendsInv (w : World) : Prop where
  cleared : ∀ {id item db now payload}, w.threads.find? id = some ⟨item, .cleared db now⟩ →
    item.command = .sideEffectDispatch payload →
    ∃ effect task, MaySend w db now item.taskId payload effect task
  sent : ∀ c ∈ w.sends, ∃ effect task, MaySend w c.checkedIn c.checkedAt c.taskId c.payload effect
    task

/-- What is known of every state: of the rows that send effects, of their warrants, and of who
approved a decision. -/
structure Authorised (w : World) : Prop where
  threads : ThreadInv w
  sends : SendInv w
  warrants : WarrantInv w.db
  approvals : ApprovalInv w
  digests : ∀ e effect, w.db.sideEffects.find? e = some effect → effect.Digested

theorem authorised_of_reachable {w : World} (h : system.Reachable w) : Authorised w where
  threads := ((sendInv_invariant fun _ _ ↦ True).of_reachable h).1
  sends := ((sendInv_invariant fun _ _ ↦ True).of_reachable h).2
  warrants := (warrantInv_invariant fun _ _ ↦ True).of_reachable h
  approvals := (approvalInv_invariant fun _ _ ↦ True).of_reachable h
  digests _ _ heffect := digested_of_reachable h heffect

variable {w w' : World} {l : Label}

/-- Approvals stay, so what was seen stays true. -/
theorem MaySend.of_step {db : DB} {now : Time} {taskId : String} {payload : DispatchPayload}
    {effect : SideEffectRow} {task : TaskRow} (h : MaySend w db now taskId payload effect task)
    (hstep : system.step w l = some w') : MaySend w' db now taskId payload effect task where
  found := h.found
  sameTask := h.sameTask
  sameAction := h.sameAction
  sendable := h.sendable
  warrant := by
    rcases h.warrant with hlists | ⟨d, decision, hdecision, happroves, hhash, happroved⟩
    · exact .inl hlists
    · exact .inr ⟨d, decision, hdecision, happroves, hhash,
        happroved.of_step hstep (SameFixed.refl _) rfl⟩

/-- A check that passes has seen an effect of the task, with a warrant. -/
theorem Authorised.maySend {env : Env} {id : Nat} {item : OutboxItem} {payload : DispatchPayload}
    {db : DB} (h : Authorised w) (hthread : w.threads.find? id = some ⟨item, .claimed⟩)
    (hcommand : item.command = .sideEffectDispatch payload)
    (hrun : precheck env item payload.effectId w.db = .ok (true, db)) :
    db = w.db ∧ ∃ effect task, MaySend w w.db env.now item.taskId payload effect task := by
  obtain ⟨rfl, taskId, row, effect, task, hcheck⟩ := precheck_true hrun
  obtain ⟨row', hrow'⟩ := h.threads.row hthread
  obtain rfl := Option.some.inj (hcheck.claim.symm.trans hrow'.found)
  have hrowCommand : row.command = .sideEffectDispatch payload := hrow'.sameCommand.trans hcommand
  obtain ⟨effect', heffect', howner, hpayload, -⟩ := h.sends.dispatch.fits hcheck.claim hrowCommand
  obtain rfl := Option.some.inj (hcheck.found.symm.trans heffect')
  have hsame : effect.taskId = item.taskId := howner.trans hrow'.sameTask
  have htask : taskId = item.taskId := by
    rcases hcheck.owner with heq | ⟨-, heq⟩
    · exact heq
    · exact heq.trans hsame
  subst htask
  have hstate : effect.state = .dispatching := List.mem_singleton.mp hcheck.sendable.state
  refine ⟨rfl, effect, task, hcheck.found, hsame, hpayload, ⟨env, rfl, hcheck.sendable⟩, ?_⟩
  rcases h.warrants.warranted hcheck.found (.inr hstate) with
    hlists | ⟨d, decision, hdecision, happroves⟩
  · exact .inl hlists
  · refine .inr ⟨d, decision, hdecision, happroves, ?_,
      h.approvals d decision hdecision happroves.approved⟩
    have hdigest : effect.Digested := h.digests _ _ hcheck.found
    rw [happroves.hash, hdigest, hpayload]
    rfl

namespace SendsInv

/-- No thread was cleared by a step, and no effect was sent. -/
theorem kept (h : SendsInv w) (hstep : system.step w l = some w') (hsends : w'.sends = w.sends)
    (hthreads : ∀ {id item db now}, w'.threads.find? id = some ⟨item, .cleared db now⟩ →
      w.threads.find? id = some ⟨item, .cleared db now⟩) : SendsInv w' where
  cleared hthread hcommand := by
    obtain ⟨effect, task, hmay⟩ := h.cleared (hthreads hthread) hcommand
    exact ⟨effect, task, hmay.of_step hstep⟩
  sent c hmem := by
    obtain ⟨effect, task, hmay⟩ := h.sent c (hsends ▸ hmem)
    exact ⟨effect, task, hmay.of_step hstep⟩

/-- The check has passed in the database that the thread remembers. -/
theorem clear {env : Env} {id : Nat} {item : OutboxItem} {db : DB} (ha : Authorised w)
    (h : SendsInv w) (hstep : system.step w l =
      some ({ w with db }.setPhase id (.cleared db env.now)))
    (hthread : w.threads.find? id = some ⟨item, .claimed⟩)
    (hrun : World.lastCheck env item w.db = .ok (true, db)) :
    SendsInv ({ w with db }.setPhase id (.cleared db env.now)) where
  sent c hmem := by
    obtain ⟨effect, task, hmay⟩ := h.sent c hmem
    exact ⟨effect, task, hmay.of_step hstep⟩
  cleared {id' item' db' now' payload} hthread' hcommand := by
    rw [World.find?_setPhase] at hthread'
    split at hthread'
    · next heq =>
      subst heq
      obtain ⟨t, ht', heq⟩ := Option.map_eq_some_iff.mp hthread'
      obtain rfl := Option.some.inj (hthread.symm.trans ht')
      obtain rfl : item = item' := congrArg Thread.item heq
      obtain ⟨rfl, rfl⟩ := Phase.cleared.inj (congrArg Thread.phase heq)
      rw [World.lastCheck, hcommand] at hrun
      obtain ⟨rfl, effect, task, hmay⟩ := ha.maySend hthread hcommand hrun
      exact ⟨effect, task, hmay.of_step hstep⟩
    · obtain ⟨effect, task, hmay⟩ := h.cleared hthread' hcommand
      exact ⟨effect, task, hmay.of_step hstep⟩

/-- The adapter is called by a thread that was cleared. -/
theorem send {id : Nat} {item : OutboxItem} {db : DB} {now : Time} {payload : DispatchPayload}
    {phase : Phase} (h : SendsInv w) (hphase : ∀ db now, phase ≠ .cleared db now)
    (hthread : w.threads.find? id = some ⟨item, .cleared db now⟩)
    (hcommand : item.command = .sideEffectDispatch payload)
    (hstep : system.step w l = some ({ w with
      sends := ⟨item.outboxId, item.taskId, payload, db, now⟩ :: w.sends }.setPhase id phase)) :
    SendsInv ({ w with
      sends := ⟨item.outboxId, item.taskId, payload, db, now⟩ :: w.sends }.setPhase id phase) where
  cleared hthread' hcommand' := by
    obtain ⟨effect, task, hmay⟩ := h.cleared (World.cleared_of_setPhase hphase hthread') hcommand'
    exact ⟨effect, task, hmay.of_step hstep⟩
  sent c hmem := by
    rcases List.mem_cons.mp hmem with rfl | hmem
    · obtain ⟨effect, task, hmay⟩ := h.cleared hthread hcommand
      exact ⟨effect, task, hmay.of_step hstep⟩
    · obtain ⟨effect, task, hmay⟩ := h.sent c hmem
      exact ⟨effect, task, hmay.of_step hstep⟩

theorem step (ha : Authorised w) (h : SendsInv w) (hstep : system.step w l = some w') :
    SendsInv w' := by
  have hcases : World.Step w l w' := World.step_cases hstep
  cases hcases with
  | cleared hthread hrun => exact h.clear ha hstep hthread hrun
  | sent hthread hcommand => exact h.send Phase.after_ne_cleared hthread hcommand hstep
  | claimed hnew =>
    refine h.kept hstep rfl fun hthread ↦ ?_
    rw [Table.find?_insert hnew] at hthread
    split at hthread
    · cases congrArg Thread.phase (Option.some.inj hthread)
    · exact hthread
  | started | stopped =>
    exact h.kept hstep rfl (World.cleared_of_setPhase Phase.after_ne_cleared)
  | settled | raised => exact h.kept hstep rfl (World.cleared_of_setPhase (by simp))
  | refused | failed | ended => exact h.kept hstep rfl World.cleared_of_endThread
  | crashed => exact h.kept hstep rfl fun hthread ↦ nomatch hthread
  | command | unclaimed | reconciled | exited | tool | toolOutcome | idle =>
    exact h.kept hstep rfl id

end SendsInv

theorem sendsInv_of_reachable (h : system.Reachable w) : SendsInv w := by
  induction h with
  | refl => exact ⟨(fun hthread ↦ nomatch hthread), (fun _ hmem ↦ nomatch hmem)⟩
  | step hrun _ hstep ih => exact ih.step (authorised_of_reachable hrun) hstep

/-- In every run of the system, whenever the external adapter is asked to carry out an effect, the
check right before has found: the effect under way and of the task of the row, its columns those
that are passed on, the task neither paused, pausing, being cancelled nor ended, without an intent
to pause or to cancel and without a gate, the contract it was proposed under the active one, its
approval not expired. And either that contract lists the key of the effect, or a decision that was
approved by a human of the principal of the task has as its target the digest of the action that is
passed on. -/
theorem sent_only_when_authorised (h : system.Reachable w) :
    ∀ c ∈ w.sends, ∃ effect task,
      MaySend w c.checkedIn c.checkedAt c.taskId c.payload effect task :=
  (sendsInv_of_reachable h).sent

/-- A task whose contract lists no effect, an effect that a human approves, and its dispatch. -/
def sampleApproved : List Label :=
  let human := AuthContext.ofHuman "owner"
  [ .ask human .createTask { title := some "task" },
    .ask human .submitContract { taskId := some "task_i" },
    .ask human .approveContract { decisionId := some "dec_iiii" },
    .ask human .proposeSideEffect
      { taskId := some "task_i", logicalActionKey := some "notify", targetRef := some "owner" },
    .ask human .approveSideEffect { decisionId := some "dec_iiiiiiiii" },
    .ask human .dispatchSideEffect { effectId := some "eff_iiiiiiii" },
    .claim .silent 0,
    .check .silent 0,
    .call 0 (.dispatch (.error "timeout")) ]

theorem sent_only_when_authorised_sampleApproved :
    ∃ w, system.exec system.init sampleApproved = some w ∧
      w.sends.map (fun c ↦ c.payload.effectId) = ["eff_iiiiiiii"] ∧
      ∀ c ∈ w.sends, ∃ effect task,
        MaySend w c.checkedIn c.checkedAt c.taskId c.payload effect task := by
  have hview : (system.exec system.init sampleApproved).map
      (fun w ↦ w.sends.map fun c ↦ c.payload.effectId) = some ["eff_iiiiiiii"] := by
    decide +kernel
  obtain ⟨w, hw, hsends⟩ := Option.map_eq_some_iff.mp hview
  exact ⟨w, hw, hsends, sent_only_when_authorised (.of_exec hw)⟩

end HibikiCore
