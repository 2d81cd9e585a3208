import HibikiCore.Persistence.Database
import HibikiCore.Domain.Guards

/-!
# The service's environment

A transaction of the service reads the clock, draws identifiers, asks the agent adapter and the
external system what they know, and reads files. `Env` holds the answers it gets. Nothing is
assumed of them here: a clock may go backwards and an identifier may be drawn twice, which then is
an integrity error of the insertion.

One transaction reads the clock once.
-/

namespace HibikiCore

/-- A transaction of the service. -/
abbrev Core (α : Type) := Tx DB Error α

/-- What the agent adapter says of a run. -/
structure Inspection where
  alive : Bool := false
  writerAlive : Bool := false
  deriving DecidableEq, Repr

/-- A file as it was read: its digest and its size. -/
structure FileContent where
  digest : String
  size : Nat
  deriving DecidableEq, Repr

/-! ## Defaults -/

namespace Defaults

def globalRunConcurrency : Nat := 4
def perTaskRunConcurrency : Nat := 2
def maxWorkUnitAttempts : Nat := 3
def maxRunModelTurns : Int := 30
def maxTaskModelCalls : Int := 200
def maxPlanRevisions : Nat := 10
def maxWorkUnitsPerTask : Nat := 30
def leaseSeconds : Time := 30
def runWallTimeoutSeconds : Int := 1800
def retryBackoffSeconds : List Time := [2, 5]
def decisionTtl : Time := 24 * 3600
def sideEffectApprovalTtl : Time := 15 * 60
def contextMaxMaterializedBytes : Int := 262144

end Defaults

/-! ## What a transaction asks -/

structure Env where
  now : Time
  /-- The identifiers `new_id` draws, by number. -/
  uuid : Nat → String
  /-- `AgentAdapter.inspect`. -/
  inspect : String → Inspection
  /-- The probe of a sandbox container. -/
  containerRunning : String → Bool
  /-- `ExternalAdapter.query`, by effect and idempotency key. -/
  query : String → String → Option Receipt
  /-- The length of the canonical JSON of a context reference. -/
  refBytes : ContextRef → Nat
  workspaceRoot : Option String
  /-- Reads a file below the workspace root, by workspace and path. -/
  readWorkspace : String → String → Option Nat → Except Error FileContent
  /-- Whether an artifact store is configured. -/
  artifactStore : Bool
  /-- Reads a stored object, by digest; the result has the hash of what was read. -/
  readStore : String → Except Error FileContent
  /-- The calls that the interpreter's stack has room for when a plan is validated. -/
  frames : Nat
  /-- The interpreter's limit is far above the number of units a plan may have. -/
  roomy : Defaults.maxWorkUnitsPerTask < frames

/-! ## Identifiers, keys and rows -/

/-- Draws an identifier. -/
def newId (env : Env) (pre : String) : Core String := do
  let db ← get
  modify fun db ↦ { db with drawn := db.drawn + 1 }
  return pre ++ "_" ++ env.uuid db.drawn

/-- The value of a payload key that a handler reads without a default. -/
def key {α : Type} (name : String) (o : Option α) : Core α := Tx.require o (.missingKey name)

/-- `session.add` and the flush that follows: a key that is taken refuses the transaction. -/
abbrev add {κ ρ : Type} [DecidableEq κ] [Columns ρ] (r : Ref DB κ ρ) (k : κ) (row : ρ) :
    Core Unit :=
  r.insert (.integrity "unique constraint") k row

def getTask (taskId : String) : Core TaskRow := do
  let db ← get
  Tx.require (db.tasks.find? taskId)
    (.notFound "task_not_found" ("task " ++ taskId ++ " not found"))

def getRun (runId : String) : Core AgentRunRow := do
  let db ← get
  Tx.require (db.agentRuns.find? runId) (.notFound "run_not_found" "run not found")

/-! ## Events -/

/-- The largest sequence number of a task, or zero. -/
def maxSeq {ρ : Type} (t : Table (String × Nat) ρ) (taskId : String) : Nat :=
  ((t.select fun k _ ↦ k.1 == taskId).map fun r ↦ r.1.2).foldl max 0

def nextEventSeq (db : DB) (taskId : String) : Nat := maxSeq db.events taskId + 1

def appendEvent (env : Env) (taskId eventType : String) (authActor : Option String)
    (payload : Data) : Core Unit := do
  let db ← get
  add Refs.events (taskId, nextEventSeq db taskId)
    { eventType, actorId := authActor, payload, occurredAt := env.now }

/-! ## What they do -/

section Frames

theorem writes_drawn (db : DB) (n : Nat) {W : List Relation} :
    Writes W db { db with drawn := n } := by
  intro m
  have h : db.Same { db with drawn := n } m := by cases m <;> rfl
  exact ⟨DB.GrowsIn.of_same h, fun _ ↦ h⟩

theorem newId_ok {env : Env} {pre id : String} {s s' : DB} :
    newId env pre s = .ok (id, s') ↔
      id = pre ++ "_" ++ env.uuid s.drawn ∧ s' = { s with drawn := s.drawn + 1 } := by
  rw [newId, Tx.bind_ok]
  simp only [Tx.get_ok, Tx.bind_ok, Tx.modify_ok, Tx.pure_ok]
  constructor
  · rintro ⟨_, _, ⟨rfl, rfl⟩, _, _, rfl, rfl, rfl⟩
    exact ⟨rfl, rfl⟩
  · rintro ⟨rfl, rfl⟩
    exact ⟨s, s, ⟨rfl, rfl⟩, (), _, rfl, rfl, rfl⟩

variable {R : DB → DB → Prop}

instance newId_respects [Frame R] {env : Env} {pre : String} : Respects R (newId env pre) where
  rel h := by
    obtain ⟨-, rfl⟩ := newId_ok.mp h
    exact Frame.still (writes_drawn _ _)

variable [Preord R]

instance key_respects {α : Type} {name : String} {o : Option α} : Respects R (key name o) := by
  rw [key]
  infer_instance

instance getTask_respects {taskId : String} : Respects R (getTask taskId) := by
  rw [getTask]
  infer_instance

instance getRun_respects {runId : String} : Respects R (getRun runId) := by
  rw [getRun]
  infer_instance

instance appendEvent_respects {env : Env} {taskId eventType : String} {authActor : Option String}
    {payload : Data} [Indifferent R Relation.events] :
    Respects R (appendEvent env taskId eventType authActor payload) := by
  rw [appendEvent]
  infer_instance

end Frames

@[simp] theorem key_ok {α : Type} {name : String} {o : Option α} {a : α} {s s' : DB} :
    key name o s = .ok (a, s') ↔ o = some a ∧ s' = s := Tx.require_ok

@[simp] theorem getTask_ok {taskId : String} {task : TaskRow} {s s' : DB} :
    getTask taskId s = .ok (task, s') ↔ s.tasks.find? taskId = some task ∧ s' = s := by
  rw [getTask, Tx.bind_ok]
  simp [and_comm]

@[simp] theorem getRun_ok {runId : String} {run : AgentRunRow} {s s' : DB} :
    getRun runId s = .ok (run, s') ↔ s.agentRuns.find? runId = some run ∧ s' = s := by
  rw [getRun, Tx.bind_ok]
  simp [and_comm]

end HibikiCore
