import Mathlib.Algebra.Group.Int.Defs
import HibikiCore.Safety.Acceptances
import HibikiCore.Safety.Endings
import HibikiCore.Safety.Inputs

/-!
# The tool broker

Every request of a tool is decided and recorded before anything is done. The decision is made from
the run, its frozen inputs, its task, and the invocations so far. It is recorded in the database of
the Core, beside everything that the Core does.
-/

namespace HibikiCore

set_option synthInstance.maxSize 100000000
set_option synthInstance.maxHeartbeats 400000

structure ToolRequest where
  runId : String
  taskId : String
  workUnitId : Option String := none
  toolName : String
  /-- The code points of the canonical text of the parameters, if they have one. -/
  parameters : Option (List Nat) := some []
  grantEpoch : Int
  fencingEpoch : Int
  sequenceNo : Int
  deriving DecidableEq, Repr

structure ToolDecision where
  allowed : Bool
  reason : Option String := none
  invocationId : Option String := none
  deriving DecidableEq, Repr

namespace ToolBroker

/-! ## Checks -/

/-- The states of a task in which no tool may run. -/
def frozenTaskStates : List TaskState := [.waitingHuman, .pausing, .paused, .cancelling]

/-- A credential is that of a run, or it is refused. There is no request where a recorded invocation
is finished. -/
def bindingError (auth : AuthContext) (runId : String) (run : AgentRunRow) (task : TaskRow)
    (request : Option ToolRequest) : Option String :=
  if auth.actorType ≠ .internal then some "authorization_denied"
  else if auth.principalId ≠ task.principalId then some "authorization_denied"
  else if request.any fun r ↦ r.taskId != "" && r.taskId != run.taskId then
    some "authorization_denied"
  else if run.workUnitId.isSome && request.any fun r ↦
      r.workUnitId.isSome && r.workUnitId != run.workUnitId then
    some "authorization_denied"
  else if auth.boundTaskId ≠ some run.taskId ∨ auth.boundRunId ≠ some runId ∨
      auth.boundFencingEpoch ≠ some run.fencingEpoch ∨ auth.boundGrantEpoch ≠ some run.grantEpoch ∨
      auth.actorId ≠ run.agentInstanceId then
    some "authorization_denied"
  else none

def taskFrozen (db : DB) (taskId : String) (task : TaskRow) : Bool :=
  frozenTaskStates.contains task.state || task.cancelIntent || task.pauseIntent ||
    hasBlockingGate db taskId

def sequenceTaken (db : DB) (run : AgentRunRow) (request : ToolRequest) : Bool :=
  !(db.toolInvocations.select fun _ i ↦ i.taskId == run.taskId && i.runId == request.runId
    && i.sequenceNo == request.sequenceNo).isEmpty

/-- Why a request of a run is refused, if it is; the first check that fails decides. -/
def refusal (db : DB) (auth : AuthContext) (run : AgentRunRow) (request : ToolRequest) :
    Option String :=
  match db.runInputs.find? request.runId with
  | none => some "run_input_unknown"
  | some input =>
    match db.tasks.find? run.taskId with
    | none => some "run_not_found"
    | some task =>
      if (bindingError auth request.runId run task (some request)).isSome then
        some "authorization_denied"
      else if run.status ≠ .running then some "run_not_running"
      else if request.fencingEpoch ≠ run.fencingEpoch then some "fencing_conflict"
      else if request.grantEpoch ≠ run.grantEpoch then some "grant_conflict"
      else if taskFrozen db run.taskId task then some "task_frozen"
      else if request.toolName ∉ toolCatalog ∨ request.toolName ∉ input.spec.grantedTools then
        some "tool_not_granted"
      else if sequenceTaken db run request then some "duplicate_sequence"
      else none

/-! ## Authorization -/

/-- A code point that UTF-8 has no encoding for. -/
def isSurrogate (c : Nat) : Bool := 0xD800 ≤ c && c ≤ 0xDFFF

/-- A text that can be hashed and stored. -/
def encodable (text : List Nat) : Bool := text.all fun c ↦ !isSurrogate c

/-- An integer that the database has room for. -/
def storable (i : Int) : Bool := -2 ^ 63 ≤ i && i < 2 ^ 63

/-- `_parameters`, and the numbers of a row: values that can be stored. -/
def checkStorable (request : ToolRequest) : Core Unit := do
  Tx.check (request.parameters.any encodable = true) (.unstorable "UnicodeEncodeError")
  Tx.check (storable request.sequenceNo = true ∧ storable request.grantEpoch = true
    ∧ storable request.fencingEpoch = true) (.unstorable "OverflowError")

def invocation (run : AgentRunRow) (request : ToolRequest) (denyReason : Option String) :
    ToolInvocationRow where
  taskId := run.taskId
  runId := request.runId
  workUnitId := request.workUnitId <|> run.workUnitId
  sequenceNo := request.sequenceNo
  toolName := request.toolName
  allowed := denyReason.isNone
  denyReason := denyReason
  grantEpoch := request.grantEpoch
  fencingEpoch := request.fencingEpoch
  outcome := denyReason.map fun _ ↦ .denied

/-- A row of the audit; two rows of one run never have the same number. -/
def record (invocationId : String) (run : AgentRunRow) (request : ToolRequest)
    (denyReason : Option String) : Core ToolDecision := do
  checkStorable request
  let db ← get
  Tx.check (sequenceTaken db run request = false) (.integrity "tool_invocations")
  add Refs.toolInvocations invocationId (invocation run request denyReason)
  return ⟨denyReason.isNone, denyReason, some invocationId⟩

def deny (invocationId : String) (run : AgentRunRow) (request : ToolRequest) (reason : String) :
    Core ToolDecision := record invocationId run request (some reason)

/-- `_authorize_in_tx`; only a request that names no run is not recorded. -/
def authorizeInTx (invocationId : String) (auth : AuthContext) (request : ToolRequest) :
    Core ToolDecision := do
  let db ← get
  match db.agentRuns.find? request.runId with
  | none => return ⟨false, some "run_not_found", none⟩
  | some run =>
    match refusal db auth run request with
    | some reason => deny invocationId run request reason
    | none => record invocationId run request none

/-! ## A step of the system -/

variable {invocationId runId k : String} {auth : AuthContext} {request : ToolRequest}
  {run : AgentRunRow} {task : TaskRow} {s s' : DB} {w : World} {decision : ToolDecision}
  {denyReason : Option String} {row : ToolInvocationRow}

/-- A row can be recorded: its values can be stored, and its keys are free. -/
structure Recordable (s : DB) (invocationId : String) (run : AgentRunRow) (request : ToolRequest) :
    Prop where
  encodable : request.parameters.any encodable = true
  sequenceNo : storable request.sequenceNo = true
  grantEpoch : storable request.grantEpoch = true
  fencingEpoch : storable request.fencingEpoch = true
  free : sequenceTaken s run request = false
  fresh : s.toolInvocations.find? invocationId = none

theorem record_ok :
    record invocationId run request denyReason s = .ok (decision, s') ↔
      Recordable s invocationId run request ∧
      decision = ⟨denyReason.isNone, denyReason, some invocationId⟩ ∧
      s' = { s with toolInvocations :=
        s.toolInvocations.insert invocationId (invocation run request denyReason) } := by
  constructor
  · intro h
    obtain ⟨_, t₁, hstorable, h₁⟩ := Tx.bind_ok.mp h
    obtain ⟨_, t₂, hcheck, hnumbers⟩ := Tx.bind_ok.mp hstorable
    obtain ⟨hencodable, rfl⟩ := Tx.check_ok.mp hcheck
    obtain ⟨⟨hsequence, hgrant, hfencing⟩, rfl⟩ := Tx.check_ok.mp hnumbers
    rw [Tx.get_bind_ok] at h₁
    obtain ⟨_, t₃, hcheck₃, h₃⟩ := Tx.bind_ok.mp h₁
    obtain ⟨hfree, rfl⟩ := Tx.check_ok.mp hcheck₃
    obtain ⟨_, t₄, hadd, hpure⟩ := Tx.bind_ok.mp h₃
    obtain ⟨rfl, rfl⟩ := Tx.pure_ok.mp hpure
    obtain ⟨hnew, rfl⟩ := Ref.insert_ok.mp hadd
    exact ⟨⟨hencodable, hsequence, hgrant, hfencing, hfree, hnew⟩, rfl, rfl⟩
  · rintro ⟨h, rfl, rfl⟩
    refine Tx.bind_ok.mpr ⟨(), s, Tx.bind_ok.mpr ⟨(), s, Tx.check_ok.mpr ⟨h.encodable, rfl⟩, ?_⟩, ?_⟩
    · exact Tx.check_ok.mpr ⟨⟨h.sequenceNo, h.grantEpoch, h.fencingEpoch⟩, rfl⟩
    · rw [Tx.get_bind_ok]
      refine Tx.bind_ok.mpr ⟨(), s, Tx.check_ok.mpr ⟨h.free, rfl⟩, ?_⟩
      exact Tx.bind_ok.mpr ⟨(), _, Ref.insert_ok.mpr ⟨h.fresh, rfl⟩, rfl⟩

/-- An authorization writes nothing, or one row for the run that the request names. -/
theorem authorizeInTx_ok (h : authorizeInTx invocationId auth request s = .ok (decision, s')) :
    s' = s ∧ decision.allowed = false ∨
      ∃ run, s.agentRuns.find? request.runId = some run ∧
        record invocationId run request (refusal s auth run request) s = .ok (decision, s') := by
  rw [authorizeInTx, Tx.get_bind_ok] at h
  cases hrun : s.agentRuns.find? request.runId with
  | none =>
    rw [hrun] at h
    obtain ⟨rfl, rfl⟩ := Tx.pure_ok.mp h
    exact .inl ⟨rfl, rfl⟩
  | some run =>
    rw [hrun] at h
    dsimp only at h
    refine .inr ⟨run, rfl, ?_⟩
    cases hrefusal : refusal s auth run request with
    | none =>
      rw [hrefusal] at h
      exact h
    | some reason =>
      rw [hrefusal] at h
      exact h

/-- Everything an allowed request satisfies in the database that it was decided in. -/
structure Allowable (s : DB) (auth : AuthContext) (request : ToolRequest) (run : AgentRunRow)
    (task : TaskRow) (input : RunInputRow) : Prop where
  found : s.agentRuns.find? request.runId = some run
  owner : s.tasks.find? run.taskId = some task
  inputs : s.runInputs.find? request.runId = some input
  internal : auth.actorType = .internal
  principal : auth.principalId = task.principalId
  boundTask : auth.boundTaskId = some run.taskId
  boundRun : auth.boundRunId = some request.runId
  boundFencing : auth.boundFencingEpoch = some run.fencingEpoch
  boundGrant : auth.boundGrantEpoch = some run.grantEpoch
  actor : auth.actorId = run.agentInstanceId
  running : run.status = .running
  fencing : request.fencingEpoch = run.fencingEpoch
  grant : request.grantEpoch = run.grantEpoch
  state : task.state ∉ frozenTaskStates
  goingOn : task.state.isTerminal = false
  unpaused : task.pauseIntent = false
  uncancelled : task.cancelIntent = false
  ungated : hasBlockingGate s run.taskId = false
  catalog : request.toolName ∈ toolCatalog
  granted : request.toolName ∈ input.spec.grantedTools
  ceiling : ∀ tool ∈ input.spec.grantedTools, Grantable s run tool
  alone : ∀ k i, s.toolInvocations.find? k = some i → i.taskId = run.taskId →
    i.runId = request.runId → i.sequenceNo ≠ request.sequenceNo

theorem refused_eq_none {c : Prop} [Decidable c] {reason : String} {o : Option String} :
    (if c then some reason else o) = none ↔ ¬c ∧ o = none := by
  by_cases hc : c <;> simp [hc]

theorem bindingError_none (h : bindingError auth runId run task (some request) = none) :
    auth.actorType = .internal ∧ auth.principalId = task.principalId ∧
      auth.boundTaskId = some run.taskId ∧ auth.boundRunId = some runId ∧
      auth.boundFencingEpoch = some run.fencingEpoch ∧ auth.boundGrantEpoch = some run.grantEpoch ∧
      auth.actorId = run.agentInstanceId := by
  simp only [bindingError, refused_eq_none, not_or, not_not] at h
  obtain ⟨htype, hprincipal, -, -, ⟨htask, hrun, hfencing, hgrant, hactor⟩, -⟩ := h
  exact ⟨htype, hprincipal, htask, hrun, hfencing, hgrant, hactor⟩

theorem taskFrozen_false {taskId : String} (h : taskFrozen s taskId task = false) :
    task.state ∉ frozenTaskStates ∧ task.cancelIntent = false ∧ task.pauseIntent = false ∧
      hasBlockingGate s taskId = false := by
  simp only [taskFrozen, Bool.or_eq_false_iff] at h
  obtain ⟨⟨⟨hstate, hcancel⟩, hpause⟩, hgate⟩ := h
  exact ⟨by simpa using hstate, hcancel, hpause, hgate⟩

theorem sequenceTaken_false (h : sequenceTaken s run request = false)
    {i : ToolInvocationRow} (hi : s.toolInvocations.find? k = some i)
    (howner : i.taskId = run.taskId) (hrun : i.runId = request.runId) :
    i.sequenceNo ≠ request.sequenceNo := by
  intro hsequence
  rw [sequenceTaken, Bool.not_eq_false', List.isEmpty_iff] at h
  have hmem : (k, i) ∈ s.toolInvocations.select fun _ i ↦ i.taskId == run.taskId
      && i.runId == request.runId && i.sequenceNo == request.sequenceNo := by
    rw [Table.mem_select]
    exact ⟨hi, by simp [howner, hrun, hsequence]⟩
  rw [h] at hmem
  cases hmem

/-- In a reachable state a request that is not refused satisfies everything. -/
theorem allowable_of_refusal (hw : system.Reachable w)
    (hrun : w.db.agentRuns.find? request.runId = some run)
    (h : refusal w.db auth run request = none) :
    ∃ task input, Allowable w.db auth request run task input := by
  rw [refusal] at h
  cases hinput : w.db.runInputs.find? request.runId with
  | none => simp [hinput] at h
  | some input =>
    cases htask : w.db.tasks.find? run.taskId with
    | none => simp [hinput, htask] at h
    | some task =>
      simp only [hinput, htask, refused_eq_none, not_or, not_not, Bool.not_eq_true] at h
      obtain ⟨hbinding, hrunning, hfencing, hgrant, hfrozen, ⟨hcatalog, hgranted⟩, hfree, -⟩ := h
      obtain ⟨htype, hprincipal, hboundTask, hboundRun, hboundFencing, hboundGrant, hactor⟩ :=
        bindingError_none (by simpa using hbinding)
      obtain ⟨hstate, hcancel, hpause, hgate⟩ := taskFrozen_false hfrozen
      -- the broker lets a terminal state pass, but then the run is not active
      have hgoing : task.state.isTerminal = false := by
        by_contra hended
        have hrests : Resting w.db run.taskId :=
          (ended_rests_invariant fun _ _ ↦ True).of_reachable hw run.taskId task htask
            (by simpa using hended)
        have hactive := hrests request.runId run hrun rfl
        rw [hrunning] at hactive
        cases hactive
      have hinputs : InputsGiven (fun _ ↦ True) w.db :=
        (inputsGiven_invariant fun _ l _ ↦ inEnv_anywhere l).of_reachable hw
      obtain ⟨run', hgiven⟩ := hinputs request.runId input hinput
      obtain rfl := Option.some.inj (hrun.symm.trans hgiven.found)
      exact ⟨task, input, hrun, htask, hinput, htype, hprincipal, hboundTask, hboundRun,
        hboundFencing, hboundGrant, hactor, hrunning, hfencing, hgrant, hstate, hgoing, hpause,
        hcancel, hgate, hcatalog, hgranted, hgiven.tools,
        fun _ _ hi howner hcaller ↦ sequenceTaken_false hfree hi howner hcaller⟩

/-- Every row that the broker adds with an ALLOW is about a request that satisfies everything in the
database before. -/
theorem allowed_invocations_sound (hw : system.Reachable w)
    (h : authorizeInTx invocationId auth request w.db = .ok (decision, s'))
    (hrow : s'.toolInvocations.find? k = some row) (hallowed : row.allowed = true) :
    w.db.toolInvocations.find? k = some row ∨ ∃ run task input,
      row = invocation run request none ∧ Allowable w.db auth request run task input := by
  rcases authorizeInTx_ok h with ⟨rfl, -⟩ | ⟨run, hrun, hrecord⟩
  · exact .inl hrow
  obtain ⟨⟨-, -, -, -, -, hnew⟩, -, rfl⟩ := record_ok.mp hrecord
  change (w.db.toolInvocations.insert invocationId _).find? k = some row at hrow
  rw [Table.find?_insert hnew] at hrow
  split at hrow
  · obtain rfl := Option.some.inj hrow
    have hrefusal : refusal w.db auth run request = none := Option.isNone_iff_eq_none.mp hallowed
    obtain ⟨task, input, hallowable⟩ := allowable_of_refusal hw hrun hrefusal
    exact .inr ⟨run, task, input, by rw [hrefusal], hallowable⟩
  · exact .inl hrow

/-- A request to read a file, made for the run of the sample. -/
def sampleReading : ToolRequest where
  runId := "run_iiiiiiiiii"
  taskId := "task_i"
  toolName := "fs.read"
  grantEpoch := 0
  fencingEpoch := 1
  sequenceNo := 1

/-- The run of the sample is allowed to read, and its request is recorded. -/
theorem allowed_invocations_sound_sampleStarted :
    ∃ w s' row run task input, system.Reachable w ∧
      authorizeInTx "call" sampleRuntime sampleReading w.db = .ok (⟨true, none, some "call"⟩, s') ∧
      s'.toolInvocations.find? "call" = some row ∧ row = invocation run sampleReading none ∧
      Allowable w.db sampleRuntime sampleReading run task input := by
  have hview : (system.exec system.init sampleStarted).bind (fun w ↦
      match authorizeInTx "call" sampleRuntime sampleReading w.db with
      | .ok (decision, s') => some (decision, w.db.toolInvocations.find? "call",
          (s'.toolInvocations.find? "call").map (·.allowed))
      | .error _ => none) = some (⟨true, none, some "call"⟩, none, some true) := by
    decide +kernel
  obtain ⟨w, hexec, hdecided⟩ := Option.bind_eq_some_iff.mp hview
  cases hauthorize : authorizeInTx "call" sampleRuntime sampleReading w.db with
  | error e =>
    rw [hauthorize] at hdecided
    cases hdecided
  | ok answer =>
    obtain ⟨decision, s'⟩ := answer
    rw [hauthorize] at hdecided
    simp only [Option.some.injEq, Prod.mk.injEq] at hdecided
    obtain ⟨rfl, hnone, hsome⟩ := hdecided
    obtain ⟨row, hrow, hallowed⟩ := Option.map_eq_some_iff.mp hsome
    rcases allowed_invocations_sound (.of_exec hexec) hauthorize hrow hallowed with
      hold | ⟨run, task, input, hrecorded, hallowable⟩
    · rw [hnone] at hold
      cases hold
    · exact ⟨w, s', row, run, task, input, .of_exec hexec, hauthorize, hrow, hrecorded, hallowable⟩

end ToolBroker

end HibikiCore
