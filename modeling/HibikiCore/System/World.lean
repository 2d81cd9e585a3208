import HibikiCore.Store.Machine
import HibikiCore.Application.Command
import HibikiCore.Application.Reconcile

/-!
# The system

The database, the rows that threads have claimed and not finished, the agent processes, and what
was called so far. Every transaction is one step; between any two steps everything else may
happen.

## Threads

A thread of the drain loop handles one claimed row at a time. After the claim it checks the row
once more (a stop is not checked), calls the adapter, and records the outcome. Whatever raises
takes it to `failing`: an exception of the external adapter is recorded once inside the dispatch
and, if that raises as well, once outside of it; an exception that the last attempt raises ends the
thread and leaves the row as it is.

A crash ends all threads. What they have claimed stays claimed until a reconciliation.
-/

namespace HibikiCore

/-- What an adapter answered. -/
inductive Reply
  /-- The start was refused, or the agent was started. -/
  | started (startRevoked : Bool)
  | stopped (result : StopResult)
  | receipt (receipt : Receipt)
  deriving DecidableEq, Repr

/-- How far a thread has come with its row. -/
inductive Phase
  | claimed
  /-- The last check has passed, in this database and at this time. -/
  | cleared (db : DB) (now : Time)
  | answered (reply : Reply)
  | settled
  /-- Something raised; so many more attempts to record it are left. -/
  | failing (retries : Nat) (error : String)

/-- Where a call takes its thread: what it returned is to be recorded, or what it raised is. -/
def Phase.after {α : Type} (retries : Nat) (reply : α → Reply) : Except String α → Phase
  | .ok a => .answered (reply a)
  | .error e => .failing retries e

structure Thread where
  item : OutboxItem
  phase : Phase

/-- A call of `ExternalAdapter.dispatch`, with the check that preceded it. -/
structure Send where
  outboxId : String
  taskId : String
  payload : DispatchPayload
  checkedIn : DB
  checkedAt : Time

/-- A call of `AgentAdapter.start`, with the check that preceded it. -/
structure Start where
  outboxId : String
  taskId : String
  runId : String
  checkedIn : DB

structure World where
  db : DB := {}
  threads : Table Nat Thread := .empty
  /-- The runs that have a process. -/
  alive : List String := []
  /-- The calls of the external adapter, latest first. -/
  sends : List Send := []
  /-- The starts asked of the agent adapter, latest first. -/
  starts : List Start := []
  /-- The commands that were not refused, latest first. -/
  executed : List Request := []

/-- What a call of an adapter did, and what it returned or raised. -/
inductive Call
  | start (spawned : Bool) (reply : Except String Bool)
  | stop (killed : Bool) (reply : Except String StopResult)
  | dispatch (reply : Except String Receipt)

inductive Label
  | command (env : Env) (request : Request)
  | claim (env : Env) (thread : Nat)
  | check (env : Env) (thread : Nat)
  | call (thread : Nat) (call : Call)
  | settle (env : Env) (thread : Nat)
  /-- A transaction of a thread raises and is rolled back, or raises after it was committed. -/
  | fault (thread : Nat) (error : String)
  | fail (env : Env) (thread : Nat)
  | finish (thread : Nat)
  | reconcile (env : Env)
  | crash
  /-- The process of a run ends by itself. -/
  | exit (runId : String)
  /-- The tool broker records an invocation. -/
  | tool (invocationId : String) (row : ToolInvocationRow)
  /-- The tool broker records the outcome of an invocation. -/
  | toolOutcome (invocationId : String) (outcome : ToolOutcome)

namespace World

/-! ## Steps -/

/-- Runs a transaction; a refusal leaves the database as it is. -/
def commit {α : Type} (w : World) (m : Core α) : World :=
  match m w.db with
  | .ok (_, db) => { w with db }
  | .error _ => w

def command (w : World) (env : Env) (request : Request) : World :=
  match execute env request w.db with
  | .ok (_, db) => { w with db, executed := request :: w.executed }
  | .error _ => w

def setPhase (w : World) (id : Nat) (phase : Phase) : World :=
  { w with threads := w.threads.modify id fun t ↦ { t with phase } }

def endThread (w : World) (id : Nat) : World := { w with threads := w.threads.erase id }

def claim (w : World) (env : Env) (id : Nat) : Option World :=
  if w.threads.find? id = none then
    match claimOneOutbox env w.db with
    | .ok (some item, db) => some { w with db, threads := w.threads.insert id ⟨item, .claimed⟩ }
    | .ok (none, db) => some { w with db }
    | .error _ => some w
  else none

/-- The check of a claimed start or dispatch. -/
def lastCheck (env : Env) (item : OutboxItem) : Core Bool :=
  match item.command with
  | .agentStart payload => startSendAllowed env item.outboxId payload.runId
  | .sideEffectDispatch payload => precheck env item payload.effectId
  | .agentStop _ _ => return true

def check (w : World) (env : Env) (id : Nat) (item : OutboxItem) : World :=
  match lastCheck env item w.db with
  | .ok (true, db) => { w with db }.setPhase id (.cleared db env.now)
  | .ok (false, db) => { w with db }.endThread id
  | .error e => w.setPhase id (.failing 0 e.message)

/-- The process table after a call. -/
def processes (alive : List String) (runId : String) (spawned killed : Bool) : List String :=
  if spawned then runId :: alive else if killed then alive.filter (· ≠ runId) else alive

/-- The calls that a cleared row asks for. -/
def call (w : World) (id : Nat) (item : OutboxItem) (checkedIn : DB) (checkedAt : Time) :
    Call → Option World
  | .start spawned reply =>
    match item.command with
    | .agentStart payload =>
      some ({ w with
        alive := processes w.alive payload.runId spawned false
        starts := ⟨item.outboxId, item.taskId, payload.runId, checkedIn⟩ :: w.starts }.setPhase id
          (Phase.after 0 .started reply))
    | _ => none
  | .stop killed reply =>
    match item.command with
    | .agentStop runId _ =>
      some ({ w with alive := processes w.alive runId false killed }.setPhase id
        (Phase.after 0 .stopped reply))
    | _ => none
  | .dispatch reply =>
    match item.command with
    | .sideEffectDispatch payload =>
      some ({ w with
        sends := ⟨item.outboxId, item.taskId, payload, checkedIn, checkedAt⟩ :: w.sends }.setPhase
          id (Phase.after 1 .receipt reply))
    | _ => none

/-- The transaction that records an answer. -/
def record (env : Env) (item : OutboxItem) : Reply → Core Unit
  | .started revoked =>
    match item.command with
    | .agentStart payload =>
      if revoked then ackOutbox env item.outboxId true
      else ackOutboxAndMarkRunning env item.outboxId payload.runId
    | _ => pure ()
  | .stopped result =>
    match item.command with
    | .agentStop runId reason => ackStop env item.outboxId runId reason result
    | _ => pure ()
  | .receipt receipt =>
    match item.command with
    | .sideEffectDispatch payload => applyReceipt env item.outboxId payload.effectId receipt
    | _ => pure ()

def settle (w : World) (env : Env) (id : Nat) (item : OutboxItem) (reply : Reply) : World :=
  match record env item reply w.db with
  | .ok (_, db) => { w with db }.setPhase id .settled
  | .error e => w.setPhase id (.failing 0 e.message)

def fail (w : World) (env : Env) (id : Nat) (item : OutboxItem) (retries : Nat)
    (error : String) : World :=
  match failOutbox env item.outboxId error w.db with
  | .ok (_, db) => { w with db }.endThread id
  | .error e =>
    match retries with
    | 0 => w.endThread id
    | n + 1 => w.setPhase id (.failing n e.message)

/-- The tool broker serves the runs of the database. -/
def recordTool (invocationId : String) (row : ToolInvocationRow) : Core Unit := do
  let run ← getRun row.runId
  Tx.check (run.taskId = row.taskId) (.authorization "run task mismatch")
  add Refs.toolInvocations invocationId row

def recordToolOutcome (invocationId : String) (outcome : ToolOutcome) : Core Unit :=
  Refs.toolInvocations.update invocationId fun i ↦ { i with outcome := some outcome }

/-- The step of a label, if it is enabled. -/
def step (w : World) : Label → Option World
  | .command env request => some (w.command env request)
  | .claim env id => w.claim env id
  | .check env id =>
    match w.threads.find? id with
    | some ⟨item, .claimed⟩ => some (w.check env id item)
    | _ => none
  | .call id c =>
    match w.threads.find? id with
    | some ⟨item, .cleared checkedIn checkedAt⟩ => w.call id item checkedIn checkedAt c
    | _ => none
  | .settle env id =>
    match w.threads.find? id with
    | some ⟨item, .answered reply⟩ => some (w.settle env id item reply)
    | _ => none
  | .fault id error =>
    match w.threads.find? id with
    | some ⟨_, .failing _ _⟩ | none => none
    | some _ => some (w.setPhase id (.failing 0 error))
  | .fail env id =>
    match w.threads.find? id with
    | some ⟨item, .failing retries error⟩ => some (w.fail env id item retries error)
    | _ => none
  | .finish id =>
    match w.threads.find? id with
    | some ⟨_, .settled⟩ => some (w.endThread id)
    | _ => none
  | .reconcile env => some (w.commit (reconcile env))
  | .crash => some { w with threads := .empty }
  | .exit runId => some { w with alive := w.alive.filter (· ≠ runId) }
  | .tool invocationId row => some (w.commit (recordTool invocationId row))
  | .toolOutcome invocationId outcome => some (w.commit (recordToolOutcome invocationId outcome))

end World

/-- The system, from an empty database on. -/
def system : Machine World Label where
  init := {}
  step := World.step

/-! ## A silent environment -/

/-- Time stands still, identifiers are drawn in unary, no process runs, and nothing answers. -/
def Env.silent : Env where
  now := 0
  uuid n := String.ofList (List.replicate n 'i')
  inspect _ := {}
  containerRunning _ := false
  query _ _ := none
  refBytes _ := 0
  workspaceRoot := none
  readWorkspace _ _ _ := .error ⟨.notFound, "", ""⟩
  artifactStore := false
  readStore _ := .error ⟨.notFound, "", ""⟩
  frames := 1000
  roomy := by decide

/-- A human of a principal. -/
def AuthContext.ofHuman (principalId : String) : AuthContext where
  principalId := principalId
  actorId := "human"
  actorType := .human

/-- A command in the silent environment. -/
def Label.ask (auth : AuthContext) (operation : Operation) (payload : Payload) : Label :=
  .command .silent { operation, auth, payload }

end HibikiCore
