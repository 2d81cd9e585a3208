import HibikiCore.Application.Outbox
import HibikiCore.Concurrency.Methods

/-!
# Agent adapters

The fake adapter, the adapter that runs a model loop on a thread, and the one that routes PLAN runs
to one adapter and all others to another. Each keeps the runs it knows and the ids it has revoked. A
section is what is done under an adapter's lock.

The loop of a thread, and what a test sets on the fake adapter, happen between the calls.
-/

namespace HibikiCore

/-- The statuses of runs that adapters know. -/
inductive AgentStatus
  | running | revoked | stopped | dead | stopUnconfirmed | failed | exited
  deriving DecidableEq, Repr

/-- What is read of the specification of a run. -/
structure RunSpec where
  runId : String
  assignmentKind : Option AssignmentKind := none
  deriving DecidableEq, Repr

/-- An answer of an adapter; a key that is absent is `none`. A run that the adapter does not know has
no status, which is `MISSING`. -/
structure AgentReply where
  runId : String
  alive : Bool
  writerAlive : Option Bool := none
  status : Option AgentStatus
  stopRequested : Option Bool := none
  startRevoked : Option Bool := none
  deriving DecidableEq, Repr

/-- What the service reads of the answer to a stop. -/
def AgentReply.toStopResult (r : AgentReply) : StopResult where
  startRevoked := r.startRevoked
  alive := some r.alive
  writerAlive := r.writerAlive

/-- The answer about a run that an adapter does not know. -/
def missingReply (runId : String) : AgentReply := { runId, alive := false, status := none }

/-- The answer to a stop of a run that an adapter does not know, and to a start that is revoked. -/
def revokedReply (runId : String) : AgentReply :=
  { runId
    alive := false
    writerAlive := some false
    status := some .revoked
    startRevoked := some true }

/-- A method answers, or it raises. -/
abbrev AgentMethod (σ χ : Type) := Method σ χ (Except String AgentReply)

structure AgentAdapter where
  State : Type
  Choice : Type
  Drift : Type
  init : State
  start : RunSpec → AgentMethod State Choice
  stop : String → String → AgentMethod State Choice
  inspect : String → AgentMethod State Choice
  drift : Drift → State → State
  /-- The runs for which a process was created, one entry for each process. -/
  processes : State → List String
  /-- Whether there is a record of a run. -/
  knows : State → String → Bool

/-! ## The fake adapter -/

structure FakeRecord where
  alive : Bool
  writerAlive : Bool
  status : AgentStatus
  spec : RunSpec
  startRevoked : Bool
  stopRequested : Option Bool := none
  stopReason : Option String := none
  deriving DecidableEq, Repr

/-- A copy of a record. -/
def FakeRecord.reply (runId : String) (r : FakeRecord) : AgentReply where
  runId := runId
  alive := r.alive
  writerAlive := some r.writerAlive
  status := some r.status
  stopRequested := r.stopRequested
  startRevoked := some r.startRevoked

structure FakeState where
  runs : Table String FakeRecord := .empty
  started : List String := []
  stopped : List (String × String) := []
  failStartIds : List String := []
  keepAliveAfterLease : List String := []
  revokedIds : List String := []
  /-- The ids that a test's hook revokes after the first look at the revoked ids. -/
  startAfterRevokeCheckHook : List String := []

namespace FakeState

def revokedStartResult (runId : String) (spec : RunSpec) (s : FakeState) :
    Except String AgentReply × FakeState :=
  match s.runs.find? runId with
  | some r =>
    (.ok ({ r with startRevoked := true }.reply runId),
      { s with runs := s.runs.modify runId fun r ↦ { r with startRevoked := true } })
  | none =>
    let record : FakeRecord :=
      { alive := false, writerAlive := false, status := .revoked, spec, startRevoked := true }
    (.ok (record.reply runId), { s with runs := s.runs.insert runId record })

def start (spec : RunSpec) (s : FakeState) : Except String AgentReply × FakeState :=
  if spec.runId ∈ s.revokedIds then revokedStartResult spec.runId spec s
  else
    let s := { s with revokedIds := s.startAfterRevokeCheckHook ++ s.revokedIds }
    if spec.runId ∈ s.revokedIds then revokedStartResult spec.runId spec s
    else
      match s.runs.find? spec.runId with
      | some r => (.ok (r.reply spec.runId), s)
      | none =>
        if spec.runId ∈ s.failStartIds then (.error "fake_start_failed", s)
        else
          -- a third look at the revoked ids finds what the second has found
          let record : FakeRecord :=
            { alive := true, status := .running, spec, writerAlive := true, startRevoked := false }
          (.ok (record.reply spec.runId),
            { s with
              runs := s.runs.insert spec.runId record
              started := s.started ++ [spec.runId] })

def stop (runId reason : String) (s : FakeState) : Except String AgentReply × FakeState :=
  let s := { s with
    stopped := s.stopped ++ [(runId, reason)], revokedIds := s.revokedIds.insert runId }
  match s.runs.find? runId with
  | none => (.ok (revokedReply runId), s)
  | some _ =>
    if runId ∈ s.keepAliveAfterLease then
      (.ok
        { runId
          alive := true
          writerAlive := some true
          status := some .running
          stopRequested := some true
          startRevoked := some true },
        { s with
          runs := s.runs.modify runId fun r ↦
            { r with startRevoked := true, stopRequested := some true } })
    else
      (.ok
        { runId
          alive := false
          writerAlive := some false
          status := some .stopped
          startRevoked := some true },
        { s with
          runs := s.runs.modify runId fun r ↦
            { r with
              alive := false
              writerAlive := false
              status := .stopped
              stopReason := some reason
              startRevoked := true } })

def inspect (runId : String) (s : FakeState) : Except String AgentReply × FakeState :=
  match s.runs.find? runId with
  | none => (.ok (missingReply runId), s)
  | some r =>
    (.ok
      { runId
        alive := r.alive
        writerAlive := some r.writerAlive
        status := some r.status
        startRevoked := some r.startRevoked }, s)

def markDead (runId : String) (s : FakeState) : FakeState :=
  { s with
    runs := s.runs.modify runId fun r ↦
      { r with alive := false, writerAlive := false, status := .dead } }

end FakeState

/-- What a test does to a fake adapter besides calling it. -/
inductive FakeDrift
  | markDead (runId : String)
  | revoke (runId : String)
  | set (failStartIds keepAliveAfterLease startAfterRevokeCheckHook : List String)

def FakeDrift.apply : FakeDrift → FakeState → FakeState
  | .markDead runId, s => s.markDead runId
  | .revoke runId, s => { s with revokedIds := s.revokedIds.insert runId }
  | .set failStartIds keepAliveAfterLease startAfterRevokeCheckHook, s =>
    { s with failStartIds, keepAliveAfterLease, startAfterRevokeCheckHook }

abbrev fakeAgentAdapter : AgentAdapter where
  State := FakeState
  Choice := Unit
  Drift := FakeDrift
  init := {}
  start spec := .atomic (FakeState.start spec)
  stop runId reason := .atomic (FakeState.stop runId reason)
  inspect runId := .atomic (FakeState.inspect runId)
  drift := FakeDrift.apply
  processes := FakeState.started
  knows s runId := (s.runs.find? runId).isSome

/-! ## The adapter with a thread for each run -/

structure ApiRecord where
  spec : RunSpec
  /-- The thread of the run, if it has one: whether it is alive. -/
  thread : Option Bool
  status : AgentStatus := .running
  startRevoked : Bool := false
  alive : Bool := true
  writerAlive : Bool := true
  finishedWrites : Bool := false
  stopReason : Option String := none
  sandboxExitUnconfirmed : Bool := false
  deriving DecidableEq, Repr

/-- `_state` -/
def ApiRecord.reply (runId : String) (r : ApiRecord) : AgentReply :=
  if r.sandboxExitUnconfirmed = true ∨ r.status = .stopUnconfirmed then
    { runId
      alive := true
      writerAlive := some true
      status := some .stopUnconfirmed
      startRevoked := some r.startRevoked }
  else
    { runId
      alive := r.thread.getD false
      writerAlive := some (r.thread.getD false && r.writerAlive)
      status := some r.status
      startRevoked := some r.startRevoked }

structure ApiState where
  runs : Table String ApiRecord := .empty
  revokedIds : List String := []
  started : List String := []

namespace ApiState

def revokedStartResult (runId : String) (spec : RunSpec) (s : ApiState) :
    Except String AgentReply × ApiState :=
  match s.runs.find? runId with
  | some r =>
    (.ok ({ r with startRevoked := true }.reply runId),
      { s with runs := s.runs.modify runId fun r ↦ { r with startRevoked := true } })
  | none =>
    (.ok (revokedReply runId),
      { s with
        runs := s.runs.insert runId
          { spec
            thread := none
            status := .revoked
            startRevoked := true
            alive := false
            writerAlive := false
            finishedWrites := true } })

def start (spec : RunSpec) (s : ApiState) : Except String AgentReply × ApiState :=
  if spec.runId ∈ s.revokedIds then revokedStartResult spec.runId spec s
  else
    match s.runs.find? spec.runId with
    | some r => (.ok (r.reply spec.runId), s)
    | none =>
      (.ok
        { runId := spec.runId
          alive := true
          writerAlive := some true
          status := some .running
          startRevoked := some false },
        { s with
          runs := s.runs.insert spec.runId { spec, thread := some true }
          started := s.started ++ [spec.runId] })

/-- A record after a stop that its own thread has asked for when its writes were finished. -/
def stopFromWithin (r : ApiRecord) : ApiRecord :=
  if r.sandboxExitUnconfirmed then
    { r with alive := true, writerAlive := true, status := .stopUnconfirmed }
  else { r with alive := false, writerAlive := false, status := .stopped }

/-- The caller is the thread of the run, and has nothing more to write. -/
def stopsItself (ownThread : Bool) (r : ApiRecord) : Bool :=
  ownThread && r.thread.isSome && r.finishedWrites

/-- The first section of a stop: the id is revoked and the thread is asked to stop. -/
def requestStop (runId reason : String) (ownThread : Bool) (s : ApiState) : ApiState :=
  { s with
    revokedIds := s.revokedIds.insert runId
    runs := s.runs.modify runId fun r ↦
      let r := { r with startRevoked := true, stopReason := some reason }
      if stopsItself ownThread r then stopFromWithin r else r }

/-- The last section of a stop, after the thread was found alive or not. -/
def finishStop (runId : String) (alive : Bool) (s : ApiState) :
    Except String AgentReply × ApiState :=
  let settle (r : ApiRecord) : ApiRecord :=
    if r.sandboxExitUnconfirmed then
      { r with alive := true, writerAlive := true, status := .stopUnconfirmed }
    else
      { r with
        alive
        writerAlive := alive && !r.finishedWrites
        status := if alive then r.status else .stopped }
  match s.runs.find? runId with
  | none => (.error runId, s)
  | some r =>
    (.ok (if r.sandboxExitUnconfirmed then (settle r).reply runId
      else
        { runId
          alive
          writerAlive := some (settle r).writerAlive
          status := some (settle r).status
          startRevoked := some true }),
      { s with runs := s.runs.modify runId settle })

/-- Between the two sections the thread is waited for. A thread cannot wait for itself. -/
def stop (runId reason : String) : AgentMethod ApiState Bool :=
  .act (requestStop runId reason) fun ownThread s ↦
    match s.runs.find? runId with
    | none => .done (.ok (revokedReply runId))
    | some r =>
      if stopsItself ownThread r then
        .done <| .ok <| if r.sandboxExitUnconfirmed then
            (stopFromWithin { r with startRevoked := true }).reply runId
          else
            { runId
              alive := false
              writerAlive := some false
              status := some .stopped
              startRevoked := some true }
      else if ownThread && r.thread.isSome then .done (.error "cannot join current thread")
      else
        .act (fun _ s ↦ s) fun _ s ↦
          .atomic (finishStop runId ((s.runs.find? runId).bind (·.thread) == some true))

def inspect (runId : String) (s : ApiState) : Except String AgentReply × ApiState :=
  match s.runs.find? runId with
  | none => (.ok (missingReply runId), s)
  | some r => (.ok (r.reply runId), s)

end ApiState

/-- What the thread of a run does to its record. -/
structure ApiDrift where
  runId : String
  work : ApiRecord → ApiRecord

abbrev apiAgentAdapter : AgentAdapter where
  State := ApiState
  Choice := Bool
  Drift := ApiDrift
  init := {}
  start spec := .atomic (ApiState.start spec)
  stop := ApiState.stop
  inspect runId := .atomic (ApiState.inspect runId)
  drift d s := { s with runs := s.runs.modify d.runId d.work }
  processes := ApiState.started
  knows s runId := (s.runs.find? runId).isSome

/-! ## Routing -/

/-- PLAN runs go to the planner and all others to the worker; a stop goes to the adapter that knows
the run, the worker first. -/
abbrev assignmentRoutingAdapter (planner worker : AgentAdapter) : AgentAdapter where
  State := worker.State × planner.State
  Choice := worker.Choice × planner.Choice
  Drift := worker.Drift ⊕ planner.Drift
  init := (worker.init, planner.init)
  start spec :=
    if spec.assignmentKind = some .plan then
      ((planner.start spec).choosing Prod.snd).within Prod.snd fun p s ↦ (s.1, p)
    else ((worker.start spec).choosing Prod.fst).within Prod.fst fun w s ↦ (w, s.2)
  stop runId reason :=
    (((worker.inspect runId).choosing Prod.fst).within Prod.fst fun w s ↦ (w, s.2)).andThen
      fun
      | .error e => .done (.error e)
      | .ok insp =>
        if insp.status.isSome then
          ((worker.stop runId reason).choosing Prod.fst).within Prod.fst fun w s ↦ (w, s.2)
        else
          (((planner.inspect runId).choosing Prod.snd).within Prod.snd fun p s ↦ (s.1, p)).andThen
            fun
            | .error e => .done (.error e)
            | .ok insp =>
              if insp.status.isSome then
                ((planner.stop runId reason).choosing Prod.snd).within Prod.snd fun p s ↦ (s.1, p)
              else .done (.ok insp)
  inspect runId :=
    (((worker.inspect runId).choosing Prod.fst).within Prod.fst fun w s ↦ (w, s.2)).andThen
      fun
      | .error e => .done (.error e)
      | .ok insp =>
        if insp.status.isSome then .done (.ok insp)
        else
          (((planner.inspect runId).choosing Prod.snd).within Prod.snd fun p s ↦ (s.1, p)).andThen
            fun
            | .error e => .done (.error e)
            | .ok insp =>
              if insp.status.isSome then .done (.ok insp) else .done (.ok (missingReply runId))
  drift
    | .inl d, s => (worker.drift d s.1, s.2)
    | .inr d, s => (s.1, planner.drift d s.2)
  processes s := worker.processes s.1 ++ planner.processes s.2
  knows s runId := worker.knows s.1 runId || planner.knows s.2 runId

/-! ## Interleavings -/

/-- A call of an adapter. -/
inductive AgentCall
  | start (spec : RunSpec)
  | stop (runId reason : String)
  | inspect (runId : String)
  deriving DecidableEq

/-- The run a start is about. -/
def AgentCall.starts : AgentCall → Option String
  | .start spec => some spec.runId
  | _ => none

namespace AgentAdapter

/-- An adapter as an object that threads call. -/
abbrev shared (A : AgentAdapter) :
    Shared A.State A.Choice A.Drift AgentCall (Except String AgentReply) where
  init := A.init
  call
    | .start spec => A.start spec
    | .stop runId reason => A.stop runId reason
    | .inspect runId => A.inspect runId
  drift := A.drift

/-- An adapter with the calls that are under way. -/
abbrev Threads (A : AgentAdapter) := Pool A.State A.Choice AgentCall (Except String AgentReply)

/-- A stop of a run has returned. -/
def Stopped (A : AgentAdapter) (p : A.Threads) (runId : String) : Prop :=
  ∃ reason answer, Note.returned (.stop runId reason) answer ∈ p.log

/-- What the service relies on in every interleaving whose turns satisfy a condition: there is at
most one process for a run, none comes after a stop has returned, and a stop of a run that was never
started is confirmed. -/
structure HonoursRevoke (A : AgentAdapter)
    (ok : A.Threads → Turn A.Choice A.Drift AgentCall → Prop) : Prop where
  once : ∀ p, A.shared.pool.ReachableBy ok p → ∀ runId, (A.processes p.state).count runId ≤ 1
  fenced : ∀ p q runId, A.shared.pool.ReachableBy ok p → A.Stopped p runId →
    A.shared.pool.Run ok p q →
    (A.processes q.state).count runId = (A.processes p.state).count runId
  confirmed : ∀ p runId reason answer, A.shared.pool.ReachableBy ok p →
    .returned (.stop runId reason) answer ∈ p.log →
    (∀ spec, spec.runId = runId → .called (.start spec) ∉ p.log) →
    ∃ reply, answer = .ok reply ∧ reply.toStopResult.stopped = true

end AgentAdapter

end HibikiCore
