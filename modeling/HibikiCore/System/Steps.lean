import HibikiCore.System.World

/-!
# What a step is

`World.Step` says once what a step of the system can do: the transaction that was committed, the
thread that moved, and the call that was made. Invariants are argued for along its cases.
-/

namespace HibikiCore

namespace World

/-- The steps, with the transactions that were committed in them. -/
inductive Step (w : World) : Label → World → Prop
  | command {env : Env} {request : Request} {result : CommandResult} {db : DB}
      (hrun : execute env request w.db = .ok (result, db)) :
      Step w (.command env request) { w with db, executed := request :: w.executed }
  | claimed {env : Env} {id : Nat} {item : OutboxItem} {db : DB}
      (hnew : w.threads.find? id = none) (hrun : claimOneOutbox env w.db = .ok (some item, db)) :
      Step w (.claim env id) { w with db, threads := w.threads.insert id ⟨item, .claimed⟩ }
  | unclaimed {env : Env} {id : Nat} {db : DB}
      (hrun : claimOneOutbox env w.db = .ok (none, db)) : Step w (.claim env id) { w with db }
  | cleared {env : Env} {id : Nat} {item : OutboxItem} {db : DB}
      (hthread : w.threads.find? id = some ⟨item, .claimed⟩)
      (hrun : lastCheck env item w.db = .ok (true, db)) :
      Step w (.check env id) ({ w with db }.setPhase id (.cleared db env.now))
  | refused {env : Env} {id : Nat} {item : OutboxItem} {db : DB}
      (hthread : w.threads.find? id = some ⟨item, .claimed⟩)
      (hrun : lastCheck env item w.db = .ok (false, db)) :
      Step w (.check env id) ({ w with db }.endThread id)
  | started {id : Nat} {item : OutboxItem} {checkedIn : DB} {checkedAt : Time}
      {payload : StartPayload} {spawned : Bool} {reply : Except String Bool}
      (hthread : w.threads.find? id = some ⟨item, .cleared checkedIn checkedAt⟩)
      (hcommand : item.command = .agentStart payload) :
      Step w (.call id (.start spawned reply)) ({ w with
        alive := processes w.alive payload.runId spawned false
        starts := ⟨item.outboxId, item.taskId, payload.runId, checkedIn⟩ :: w.starts }.setPhase id
          (Phase.after 0 .started reply))
  | stopped {id : Nat} {item : OutboxItem} {checkedIn : DB} {checkedAt : Time}
      {runId reason : String} {killed : Bool} {reply : Except String StopResult}
      (hthread : w.threads.find? id = some ⟨item, .cleared checkedIn checkedAt⟩)
      (hcommand : item.command = .agentStop runId reason) :
      Step w (.call id (.stop killed reply))
        ({ w with alive := processes w.alive runId false killed }.setPhase id
          (Phase.after 0 .stopped reply))
  | sent {id : Nat} {item : OutboxItem} {checkedIn : DB} {checkedAt : Time}
      {payload : DispatchPayload} {reply : Except String Receipt}
      (hthread : w.threads.find? id = some ⟨item, .cleared checkedIn checkedAt⟩)
      (hcommand : item.command = .sideEffectDispatch payload) :
      Step w (.call id (.dispatch reply)) ({ w with
        sends := ⟨item.outboxId, item.taskId, payload, checkedIn, checkedAt⟩ :: w.sends }.setPhase
          id (Phase.after 1 .receipt reply))
  | settled {env : Env} {id : Nat} {item : OutboxItem} {reply : Reply} {db : DB}
      (hthread : w.threads.find? id = some ⟨item, .answered reply⟩)
      (hrun : record env item reply w.db = .ok ((), db)) :
      Step w (.settle env id) ({ w with db }.setPhase id .settled)
  /-- Something raised in a thread, and nothing was committed. -/
  | raised {l : Label} {id : Nat} {thread : Thread} {retries : Nat} {error : String}
      (hthread : w.threads.find? id = some thread) :
      Step w l (w.setPhase id (.failing retries error))
  | failed {env : Env} {id : Nat} {item : OutboxItem} {retries : Nat} {error : String} {db : DB}
      (hthread : w.threads.find? id = some ⟨item, .failing retries error⟩)
      (hrun : failOutbox env item.outboxId error w.db = .ok ((), db)) :
      Step w (.fail env id) ({ w with db }.endThread id)
  | ended {l : Label} {id : Nat} : Step w l (w.endThread id)
  | reconciled {env : Env} {notes : List String} {db : DB}
      (hrun : HibikiCore.reconcile env w.db = .ok (notes, db)) :
      Step w (.reconcile env) { w with db }
  | crashed : Step w .crash { w with threads := .empty }
  | exited {runId : String} : Step w (.exit runId) { w with alive := w.alive.filter (· ≠ runId) }
  | tool {invocationId : String} {row : ToolInvocationRow} {db : DB}
      (hrun : recordTool invocationId row w.db = .ok ((), db)) :
      Step w (.tool invocationId row) { w with db }
  | toolOutcome {invocationId : String} {outcome : ToolOutcome} {db : DB}
      (hrun : recordToolOutcome invocationId outcome w.db = .ok ((), db)) :
      Step w (.toolOutcome invocationId outcome) { w with db }
  /-- A transaction of a command, a claim or a reconciliation was refused. -/
  | idle {l : Label} : Step w l w

variable {w w' : World}

theorem find?_setPhase (w : World) (id id' : Nat) (phase : Phase) :
    (w.setPhase id phase).threads.find? id' =
      if id' = id then (w.threads.find? id').map fun t ↦ { t with phase }
      else w.threads.find? id' :=
  Table.find?_modify _ _ _ _

theorem find?_endThread (w : World) (id id' : Nat) :
    (w.endThread id).threads.find? id' = if id' = id then none else w.threads.find? id' :=
  Table.find?_erase _ _ _

/-- Every step of the machine is one of these. -/
theorem step_cases {l : Label} (h : w.step l = some w') : Step w l w' := by
  cases l with
  | command env request =>
    obtain rfl := Option.some.inj h
    rw [World.command]
    split
    · next hrun => exact .command hrun
    · exact .idle
  | claim env id =>
    simp only [step, claim] at h
    split at h
    · next hnew =>
      split at h <;> obtain rfl := Option.some.inj h
      · next hrun => exact .claimed hnew hrun
      · next hrun => exact .unclaimed hrun
      · exact .idle
    · cases h
  | check env id =>
    simp only [step] at h
    split at h
    · next hthread =>
      obtain rfl := Option.some.inj h
      rw [check]
      split
      · next hrun => exact .cleared hthread hrun
      · next hrun => exact .refused hthread hrun
      · exact .raised hthread
    · cases h
  | call id c =>
    simp only [step] at h
    split at h
    · next hthread =>
      cases c <;> simp only [call] at h <;> split at h <;> cases h
      · next hcommand => exact .started hthread hcommand
      · next hcommand => exact .stopped hthread hcommand
      · next hcommand => exact .sent hthread hcommand
    · cases h
  | settle env id =>
    simp only [step] at h
    split at h
    · next hthread =>
      obtain rfl := Option.some.inj h
      rw [settle]
      split
      · next hrun => exact .settled hthread hrun
      · exact .raised hthread
    · cases h
  | fault id error =>
    simp only [step] at h
    split at h
    · cases h
    · cases h
    · next hthread =>
      obtain rfl := Option.some.inj h
      exact .raised hthread
  | fail env id =>
    simp only [step] at h
    split at h
    · next hthread =>
      obtain rfl := Option.some.inj h
      rw [fail]
      split
      · next hrun => exact .failed hthread hrun
      · split
        · exact .ended
        · exact .raised hthread
    · cases h
  | finish id =>
    simp only [step] at h
    split at h
    · obtain rfl := Option.some.inj h
      exact .ended
    · cases h
  | reconcile env =>
    obtain rfl := Option.some.inj h
    rw [commit]
    split
    · next hrun => exact .reconciled hrun
    · exact .idle
  | crash =>
    obtain rfl := Option.some.inj h
    exact .crashed
  | exit runId =>
    obtain rfl := Option.some.inj h
    exact .exited
  | tool invocationId row =>
    obtain rfl := Option.some.inj h
    rw [commit]
    split
    · next hrun => exact .tool hrun
    · exact .idle
  | toolOutcome invocationId outcome =>
    obtain rfl := Option.some.inj h
    rw [commit]
    split
    · next hrun => exact .toolOutcome hrun
    · exact .idle

end World

end HibikiCore
