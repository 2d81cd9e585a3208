import HibikiCore.Application.Support

/-!
# What runs report

Results and the artifacts and verdicts they name, model usage, heartbeats, exits, workspaces,
sandboxes, published artifacts and appended context.
-/

namespace HibikiCore

open Value (ofNat ofOption ofOptionNat)

/-! ## Artifacts and evidence of a result -/

/-- The references a result delivers: the verified ones, if it names any. -/
def RunResult.deliveredRefs (r : RunResult) : List String :=
  (if r.verifiedArtifactRefs.isEmpty then r.artifactRefs else r.verifiedArtifactRefs).filterMap
    truthy

/-- Every hash a result names, each once. -/
def RunResult.namedHashes (r : RunResult) : List String :=
  (r.deliveredRefs ++ r.acceptanceEvidence.filterMap fun e ↦
    truthy e.artifactHash <|> truthy e.artifactRef).foldl
    (fun acc h ↦ if acc.contains h then acc else acc ++ [h]) []

def registerArtifact (env : Env) (taskId runId : String) (run : AgentRunRow) (hash : String) :
    Core Unit := do
  let db ← get
  Tx.when (db.artifacts.find? (taskId, hash) = none) do
    add Refs.artifacts (taskId, hash)
      { workUnitId := run.workUnitId
        runId := some runId
        resultRef := run.resultRef
        artifactUri := none
        sizeBytes := none
        sourcePath := none
        createdAt := env.now }

/-- Stores one verdict of a result; the seen criteria are handed along. -/
def registerEvidence (env : Env) (taskId runId : String) (run : AgentRunRow)
    (seen : List String) (e : EvidenceItem) : Core (List String) := do
  let db ← get
  match truthy e.criterionId, truthy e.artifactHash <|> truthy e.artifactRef, e.verdict with
  | some criterionId, some hash, some verdict => do
    Tx.check (criterionId ∉ seen)
      (.precondition "duplicate_evidence" "duplicate criterion evidence")
    Tx.check ((db.artifacts.find? (taskId, hash)).isSome = true)
      (.precondition "unregistered_artifact"
        ("artifact " ++ hash ++ " is not registered for this task"))
    let evidenceId ← newId env "aev"
    Tx.when ((db.acceptanceEvidence.select fun _ r ↦ r.taskId == taskId && r.runId == runId
        && r.criterionId == criterionId) = []) do
      add Refs.acceptanceEvidence evidenceId
        { taskId
          criterionId
          artifactHash := hash
          workUnitId := run.workUnitId
          runId
          resultRef := run.resultRef
          verdict
          sequenceNo := nextEventSeq db taskId
          createdAt := env.now }
    return seen ++ [criterionId]
  | _, _, _ => return seen

/-- Registers content hashes once; verdicts are stored apart from them. -/
def registerResultArtifacts (env : Env) (taskId runId : String) (result : RunResult)
    (applyToWorkUnit : Bool) : Core Unit := do
  let run ← getRun runId
  Tx.each result.namedHashes (registerArtifact env taskId runId run)
  Tx.when (applyToWorkUnit = true) do
    let _ ← Tx.fold (registerEvidence env taskId runId run) [] result.acceptanceEvidence

/-! ## Results -/

/-- A correctly bound credential reports on a run that has ended: a late fact. -/
def isStoppedRunResult (auth : AuthContext) (runId : String) (run : AgentRunRow) : Bool :=
  auth.actorType == .internal && auth.boundTaskId == some run.taskId
    && auth.boundRunId == some runId && auth.actorId == run.agentInstanceId
    && run.status.isTerminal

def lateResult (runId : String) : CommandResult :=
  .success
    [("run_id", .text runId), ("late_arrival", .flag true), ("accepted_as_history", .flag true)]

/-- Records a result that changes nothing else. -/
def recordLateResult (env : Env) (auth : AuthContext) (runId : String) (run : AgentRunRow)
    (result : RunResult) (eventType : String) (data : Data) : Core CommandResult := do
  Refs.agentRuns.update runId fun r ↦ { r with lateArrival := true, result := some result }
  appendEvent env run.taskId eventType auth.actorId (("run_id", .text runId) :: data)
  return lateResult runId

/-- The frozen assignment of a run still matches its work unit and the ACTIVE plan. -/
def assignmentCurrent (db : DB) (runId : String) (run : AgentRunRow) (wuId : String) : Bool :=
  match db.workUnitExecutions.find? wuId with
  | none => false
  | some wu =>
    run.workUnitSpecVersion.all (· == wu.specVersion)
      && (truthy wu.activeRunId).all (· == runId)
      && match (db.activePlanMarkers.find? run.taskId).bind fun m ↦
          db.plans.find? (run.taskId, m.planVersion) with
        | none => true
        | some plan =>
          match plan.nodes.find? fun n ↦ n.workUnitId == wuId with
          | none => false
          | some node => run.workUnitSpecVersion.all (· == node.version)

/-- A result for an assignment that was superseded: the run ends, the unit is only set free. -/
def recordSupersededResult (env : Env) (auth : AuthContext) (runId wuId : String)
    (run : AgentRunRow) (result : RunResult) (resultRef : String) : Core CommandResult := do
  let next ← Tx.require (runTransitions run.status .succeed)
    (.invalidTransition "AgentRun" RunEvent.succeed.text run.status.text)
  Refs.agentRuns.update runId fun r ↦
    { r with
      lateArrival := true
      result := some result
      resultRef := some resultRef
      status := next
      finishedAt := some env.now }
  let db ← get
  Tx.when (db.activeExecuteRunMarkers.find? wuId = some ⟨runId⟩) do
    Refs.activeExecuteRunMarkers.delete wuId
  Refs.workUnitExecutions.updateWhere (fun k u ↦ k == wuId && u.activeRunId == some runId)
    fun u ↦ { u with activeRunId := none }
  registerResultArtifacts env run.taskId runId result false
  appendEvent env run.taskId "run.late_result" auth.actorId
    [("run_id", .text runId), ("reason", .text "assignment_superseded"),
      ("work_unit_spec_version", ofOptionNat run.workUnitSpecVersion)]
  return .success
    [("run_id", .text runId), ("late_arrival", .flag true), ("accepted_as_history", .flag true),
      ("assignment_current", .flag false)]

/-- The first delivered reference that is backed by stored content. -/
def verifiedDelivery (db : DB) (taskId : String) (result : RunResult) : Option String :=
  result.deliveredRefs.find? fun h ↦
    (db.artifacts.find? (taskId, h)).any fun a ↦ (truthy a.artifactUri).isSome

/-- Verification units drive the task between execution and verification. -/
def maybeAdvanceVerifyTaskState (env : Env) (taskId wuId : String) (result : RunResult)
    (outcome : Outcome) : Core Unit := do
  let db ← get
  let wu ← Tx.require (db.workUnitExecutions.find? wuId) .assertion
  let isVerify := (db.workUnitSpecs.find? (wuId, wu.specVersion)).any
    fun s ↦ upperText s.workType == "VERIFY"
  Tx.when (outcome ≠ .blocked ∧ isVerify = true) do
    let task ← getTask taskId
    Tx.when (task.state = .executing) (setTaskState env taskId .requiredOutputsReady none)
    let task ← getTask taskId
    Tx.when (result.verdict = some .fail ∧ task.state = .verifying)
      (setTaskState env taskId .verificationFailed none)

/-- Why a unit is blocked by its result. -/
def blockersText (result : RunResult) : String :=
  ",".intercalate (if result.blockers.isEmpty then ["blocked"] else result.blockers)

/-- The result of an EXECUTE run completes or blocks its work unit. -/
def applyResultToUnit (env : Env) (taskId runId wuId : String) (result : RunResult)
    (resultRef : String) (outcome : Outcome) : Core Unit := do
  registerResultArtifacts env taskId runId result (outcome ≠ .blocked)
  let db ← get
  if outcome = .blocked then
    Refs.workUnitExecutions.update wuId fun u ↦
      { u with
        status := transitionWorkUnit .running .runBlocked runBlocked_known
        blockedReason := some (.blockers (blockersText result))
        activeRunId := none }
  else
    Refs.workUnitExecutions.update wuId fun u ↦
      { u with
        status := transitionWorkUnit .running .runCompleted runCompleted_known
        selectedResultRef := some resultRef
        selectedVerdict := result.verdict
        verifiedArtifactHash :=
          verifiedDelivery db taskId result <|> u.verifiedArtifactHash
        activeRunId := none }
  Refs.activeExecuteRunMarkers.delete wuId
  maybeAdvanceVerifyTaskState env taskId wuId result outcome

/-- A result is delivered to the planner as a message. -/
def postResultMessage (env : Env) (auth : AuthContext) (taskId runId : String)
    (run : AgentRunRow) (result : RunResult) (outcome : Outcome) : Core Unit := do
  let db ← get
  add Refs.taskMessages (taskId, maxSeq db.taskMessages taskId + 1)
    { senderRunId := some runId
      senderActor := some auth.actorId
      kind := if run.assignmentKind = .execute then "worker.result" else "plan.result"
      body := .result runId run.workUnitId outcome result.verdict result.artifactRefs
      createdAt := env.now }

def verdictValue : Option Verdict → Value
  | none => .null
  | some .pass => .text "PASS"
  | some .fail => .text "FAIL"
  | some .blocked => .text "BLOCKED"
  | some (.other text) => .text text

/-- The result of a run whose assignment is current. -/
def acceptRunResult (env : Env) (auth : AuthContext) (runId : String) (run : AgentRunRow)
    (result : RunResult) (resultRef : String) : Core CommandResult := do
  let taskId := run.taskId
  let outcome := result.outcome.getD .completed
  let next ← Tx.require (runTransitions run.status .succeed)
    (.invalidTransition "AgentRun" RunEvent.succeed.text run.status.text)
  Refs.agentRuns.update runId fun r ↦
    { r with
      result := some result
      resultRef := some resultRef
      status := next
      finishedAt := some env.now }
  Tx.withSome run.workUnitId fun wuId ↦
    applyResultToUnit env taskId runId wuId result resultRef outcome
  Tx.when (run.assignmentKind = .plan) (clearRunOccupancy runId true)
  Tx.when (run.lateArrival = false) (postResultMessage env auth taskId runId run result outcome)
  appendEvent env taskId "work.result.submitted" auth.actorId
    [("run_id", .text runId), ("outcome", .text outcome.text),
      ("verdict", verdictValue result.verdict)]
  return .success
    [("run_id", .text runId), ("status", .text next.text),
      ("work_unit_id", ofOption run.workUnitId), ("verdict", verdictValue result.verdict),
      ("workspace_released", .flag false)]

/-- The unit of a run is held by another run now. -/
def supersededBy (db : DB) (runId : String) (run : AgentRunRow) : Option String :=
  ((run.workUnitId.bind db.workUnitExecutions.find?).bind fun u ↦ truthy u.activeRunId).filter
    (· ≠ runId)

/-- The marker of the unit of a run names another run. -/
def markerTaken (db : DB) (runId : String) (run : AgentRunRow) : Bool :=
  (run.workUnitId.bind db.activeExecuteRunMarkers.find?).any fun m ↦ m.runId != runId

/-- The result of a run that no other run has taken the place of. -/
def submitHeldResult (env : Env) (auth : AuthContext) (p : Payload) (runId : String)
    (run : AgentRunRow) (result : RunResult) : Core CommandResult := do
  let db ← get
  if markerTaken db runId run then do
    Refs.agentRuns.update runId fun r ↦ { r with lateArrival := true }
    return lateResult runId
  else do
    Tx.check (run.status.isTerminal = false)
      (.precondition "run_terminal" "run already terminal")
    let drawn ← newId env "res"
    let resultRef := (truthy p.resultRef).getD drawn
    match run.workUnitId.filter fun wuId ↦ !assignmentCurrent db runId run wuId with
    | some wuId => recordSupersededResult env auth runId wuId run result resultRef
    | none => acceptRunResult env auth runId run result resultRef

def submitResult (env : Env) (auth : AuthContext) (p : Payload) : Core CommandResult := do
  let runId ← key "run_id" p.runId
  let run ← getRun runId
  let _ ← getTask run.taskId
  let db ← get
  let result := p.result.getD {}
  if isStoppedRunResult auth runId run then
    recordLateResult env auth runId run result "run.late_result_after_stop" []
  else do
    assertRunWriteBinding auth runId run p.taskId p.runId p.fencingEpoch true
    match supersededBy db runId run with
    | some other =>
      recordLateResult env auth runId run result "run.late_result"
        [("active_run_id", .text other)]
    | none => submitHeldResult env auth p runId run result

/-! ## Accounting and liveness -/

def recordModelUsage (_env : Env) (auth : AuthContext) (p : Payload) : Core CommandResult := do
  let runId ← key "run_id" p.runId
  let run ← getRun runId
  assertRunWriteBinding auth runId run p.taskId p.runId p.fencingEpoch false
  let task ← getTask run.taskId
  let db ← get
  let calls := (p.calls.filter (· ≠ 0)).getD 1
  Tx.check (1 ≤ calls) (.precondition "invalid_usage" "calls must be >= 1")
  let contractLimit := intOr (contractAndLimits db run.taskId task).2.maxModelCalls
    task.modelCallLimit
  let limit :=
    if contractLimit = 0 then task.modelCallLimit
    else if task.modelCallLimit = 0 then contractLimit
    else min task.modelCallLimit contractLimit
  if 0 < limit ∧ limit < task.modelCallsUsed + calls then
    return .failure "model_call_budget_exhausted"
      ("task model call limit " ++ toString limit ++ " would be exceeded")
  else do
    let used := task.modelCallsUsed + calls
    Refs.tasks.update run.taskId fun t ↦ { t with modelCallsUsed := used }
    return .success
      [("task_id", .text run.taskId), ("model_calls_used", .int used), ("limit", .int limit),
        ("remaining", if limit = 0 then .null else .int (max (limit - used) 0))]

/-- The starts of a run that wait or are under way are dead. -/
def killStarts (taskId runId : String) : Core Unit :=
  Refs.outbox.updateWhere
    (fun _ ob ↦ ob.taskId == taskId && ob.isLive && ob.command.startRun == some runId)
    fun ob ↦ { ob with status := .dead, leasedUntil := none }

/-- Asks for a stop; only its acknowledgement confirms the exit and releases. -/
def confirmRunExit (env : Env) (auth : AuthContext) (p : Payload) : Core CommandResult := do
  let flushed ← get
  let runId ← key "run_id" p.runId
  let run ← getRun runId
  let _ ← getTask run.taskId
  killStarts run.taskId runId
  enqueueStopsForRuns env flushed run.taskId [runId] "confirm_exit"
  appendEvent env run.taskId "run.exit_confirmation_requested" auth.actorId
    [("run_id", .text runId)]
  return .success
    [("task_id", .text run.taskId), ("run_id", .text runId), ("stop_requested", .flag true),
      ("workspace_released", .flag false)]

def workspaceStateText : WorkspaceState → String
  | .ready => "READY"
  | .locked => "LOCKED"
  | .quarantined => "QUARANTINED"
  | .archived => "ARCHIVED"

def setWriterAlive (_env : Env) (auth : AuthContext) (p : Payload) : Core CommandResult := do
  let wsId ← key "workspace_id" p.workspaceId
  let db ← get
  let ws ← Tx.require (db.workspaces.find? wsId) (.notFound "not_found" "workspace not found")
  let runId ← Tx.require (truthy p.runId <|> truthy ws.ownerRunId)
    (.precondition "workspace_unbound" "workspace has no owner run")
  let run ← getRun runId
  Tx.check ((truthy ws.ownerRunId).all (· = runId)) (.authorization "workspace owner mismatch")
  assertRunWriteBinding auth runId run p.taskId (some (p.runId.getD runId)) p.fencingEpoch true
  let alive := p.alive.getD true
  Refs.workspaces.update wsId fun w ↦ { w with writerAlive := alive }
  Tx.when (p.quarantine = true) do
    Refs.workspaces.update wsId fun w ↦ { w with state := .quarantined }
  let state := if p.quarantine then WorkspaceState.quarantined else ws.state
  return .success
    [("workspace_id", .text wsId), ("writer_alive", .flag alive),
      ("state", .text (workspaceStateText state))]

/-- Binds a container to a run, and notes whether its exit is confirmed. -/
def registerSandboxIdentity (_env : Env) (auth : AuthContext) (p : Payload) :
    Core CommandResult := do
  let runId ← key "run_id" p.runId
  let run ← getRun runId
  assertRunWriteBinding auth runId run p.taskId p.runId p.fencingEpoch true
  Tx.withSome (truthy (p.containerId.map stripText)) fun containerId ↦
    Refs.agentRuns.update runId fun r ↦ { r with sandboxContainerId := some containerId }
  Tx.withSome p.exitConfirmed fun confirmed ↦ do
    Refs.agentRuns.update runId fun r ↦ { r with sandboxExitUnconfirmed := !confirmed }
    if confirmed then releaseWorkspaceAfterConfirmedExit runId
    else
      Tx.withSome run.workspaceId fun wsId ↦
        Refs.workspaces.update wsId fun w ↦ { w with writerAlive := true }
  let run ← getRun runId
  return .success
    [("run_id", .text runId), ("sandbox_container_id", ofOption run.sandboxContainerId),
      ("sandbox_exit_unconfirmed", .flag run.sandboxExitUnconfirmed)]

def heartbeat (env : Env) (auth : AuthContext) (p : Payload) : Core CommandResult := do
  let runId ← key "run_id" p.runId
  let run ← getRun runId
  assertRunWriteBinding auth runId run p.taskId p.runId p.fencingEpoch true
  Refs.agentRuns.update runId fun r ↦
    { r with
      lastHeartbeatAt := some env.now
      leaseExpiresAt := env.now + Defaults.leaseSeconds }
  return .success
    [("run_id", .text runId), ("lease_expires_at", ofNat (env.now + Defaults.leaseSeconds))]

/-! ## Publishing and reading -/

/-- A run may touch a workspace that no other run owns, unless it was stopped. -/
def assertWorkspaceAccessibleByRun (runId : String) (run : AgentRunRow) (wsId : String) :
    Core Unit := do
  let db ← get
  let ws ← Tx.require (db.workspaces.find? wsId)
    (.precondition "workspace_missing" "workspace not found")
  Tx.check (ws.ownerRunId.all (· = runId))
    (.precondition "workspace_not_owned" "workspace is owned by another run")
  Tx.check (run.status ≠ .cancelled)
    (.precondition "run_revoked" "run was stopped and may no longer touch its workspace")

/-- Reads a file in the workspace of a run. -/
def readWorkspaceBytes (env : Env) (runId : String) (run : AgentRunRow) (path wsId : String)
    (maxBytes : Option Nat) : Core FileContent := do
  assertWorkspaceAccessibleByRun runId run wsId
  Tx.check (env.workspaceRoot.isSome = true)
    (.precondition "workspace_missing" "workspace root not configured")
  Tx.lift (env.readWorkspace wsId path maxBytes)

/-- The states in which a task takes no more artifacts. -/
def publicationFrozen : List TaskState :=
  [.waitingHuman, .pausing, .paused, .cancelling, .aborted, .completed, .failed]

def publishArtifact (env : Env) (auth : AuthContext) (p : Payload) : Core CommandResult := do
  let runId ← key "run_id" p.runId
  let run ← getRun runId
  assertRunWriteBinding auth runId run p.taskId p.runId p.fencingEpoch true
  let taskId := run.taskId
  let task ← getTask taskId
  Tx.check (task.state ∉ publicationFrozen)
    (.precondition "task_frozen"
      ("task state " ++ task.state.text ++ " does not allow artifact publication"))
  let db ← get
  let wsId ← Tx.require ((db.runInputs.find? runId).bind fun i ↦ truthy i.workspaceId)
    (.precondition "workspace_missing" "run has no workspace")
  let path ← Tx.require (truthy p.path) (.precondition "artifact_path_required" "path required")
  let content ← readWorkspaceBytes env runId run path wsId none
  let digest := content.digest
  Tx.check ((truthy p.expectedHash).all (· = digest))
    (.conflict "artifact_hash_mismatch"
      ("artifact hash mismatch: claimed " ++ p.expectedHash.getD "" ++ ", actual " ++ digest))
  Tx.check (env.artifactStore = true)
    (.precondition "artifact_store_missing" "artifact store not configured")
  let uri := "artifact://" ++ digest
  let created := (db.artifacts.find? (taskId, digest)).isNone
  Tx.when (created = true) do
    add Refs.artifacts (taskId, digest)
      { workUnitId := run.workUnitId
        runId := some runId
        resultRef := none
        artifactUri := none
        sizeBytes := none
        sourcePath := none
        createdAt := env.now }
  Refs.artifacts.update (taskId, digest) fun a ↦
    { a with
      artifactUri := some uri
      sizeBytes := some content.size
      sourcePath := some path }
  let data : Data :=
    [("artifact_hash", .text digest), ("uri", .text uri), ("run_id", .text runId),
      ("path", .text path), ("size", ofNat content.size), ("created", .flag created)]
  appendEvent env taskId "artifact.published" auth.actorId data
  return .success (("task_id", .text taskId) :: data)

/-- An artifact's bytes, if the reference is a digest this task registered and stored. -/
def readTaskArtifactBytes (env : Env) (db : DB) (taskId digest : String) :
    Except Error FileContent := do
  let uri ← match (db.artifacts.find? (taskId, digest)).bind fun a ↦ truthy a.artifactUri with
    | some uri => .ok uri
    | none => .error (.notFound "artifact_not_owned" "artifact not registered for this task")
  if uri ≠ "artifact://" ++ digest then
    .error (.precondition "artifact_uri_mismatch" "registered artifact uri does not match digest")
  let content ← env.readStore digest
  if content.digest ≠ digest then
    .error (.conflict "artifact_hash_mismatch" "artifact content hash mismatch")
  return content

/-- The prefixes of references that are not paths. -/
def refSchemes : List String := ["artifact://", "task:", "contract:", "plan:", "run:", "msg:"]

def looksLikeRelativePath (ref : String) : Bool :=
  ref ≠ "" && !refSchemes.any (fun scheme ↦ ref.startsWith scheme) && !ref.startsWith "/"

/-- A read that was refused is a refusal of the reference; a conflict stays one. -/
def contextRefused (what : String) (e : Error) : Error :=
  if e.kind = .precondition ∨ e.kind = .notFound then
    .precondition "context_ref_refused" (what ++ " refused: " ++ e.message)
  else e

/-- What an appended reference was read as; nothing, if the service holds no bytes for it. -/
def readAppendedRef (env : Env) (runId : String) (run : AgentRunRow) (ref : String)
    (maxBytes : Option Nat) : Core (Option FileContent) := do
  let db ← get
  if ref.startsWith "artifact://" then do
    let content ← Tx.mapError (contextRefused "context artifact ref")
      (Tx.lift (readTaskArtifactBytes env db run.taskId (ref.drop 11).toString))
    return some content
  else if (db.runInputs.find? runId).isSome && looksLikeRelativePath ref then do
    let wsId ← Tx.require ((db.runInputs.find? runId).bind fun i ↦ truthy i.workspaceId)
      (.precondition "context_ref_refused" "context ref refused: run has no workspace")
    let content ← Tx.mapError (contextRefused "context ref")
      (readWorkspaceBytes env runId run ref wsId maxBytes)
    return some content
  else return none

/-- The reference an append is asked for, under either of its names. -/
def Payload.appendedRef (p : Payload) : Option String :=
  truthy ((truthy p.authorizedRef <|> p.ref).map stripText)

/-- Appends a dynamic input to the context of a run; bytes the service holds are hashed by it. -/
def contextAppend (env : Env) (auth : AuthContext) (p : Payload) : Core CommandResult := do
  let runId ← key "run_id" p.runId
  let run ← getRun runId
  assertRunWriteBinding auth runId run p.taskId p.runId p.fencingEpoch true
  let taskId := run.taskId
  let task ← getTask taskId
  Tx.check (task.state ≠ .cancelling ∧ task.state.isTerminal = false)
    (.precondition "task_frozen"
      ("task state " ++ task.state.text ++ " does not allow context appends"))
  let reason ← Tx.require (truthy (p.reason.map stripText))
    (.precondition "context_reason_required" "reason required")
  let ref ← Tx.require (p.appendedRef)
    (.precondition "context_ref_required" "authorized_ref required")
  let content ← readAppendedRef env runId run ref p.maxBytes
  Tx.check (content.all fun c ↦ p.contentHash.all (· = c.digest))
    (.conflict "context_hash_mismatch" "context ref hash mismatch")
  let read := content.map FileContent.digest
  -- for a file of the workspace the caller's hash wins over the one that was read
  let materialized :=
    if ref.startsWith "artifact://" then read else truthy p.materializedHash <|> read
  let db ← get
  let appendId ← newId env "ctxapp"
  add Refs.contextAppends appendId
    { taskId
      runId
      sequenceNo := ((db.contextAppends.select fun _ a ↦ a.taskId == taskId
        && a.runId == runId).map (·.2.sequenceNo)).foldl max 0 + 1
      reason
      authorizedRef := ref
      version := p.version
      contentHash := read <|> truthy p.contentHash
      grantRef := truthy p.grantRef
      materializedHash := materialized
      createdAt := env.now }
  let size := ofOptionNat (content.map FileContent.size)
  appendEvent env taskId "context.appended" auth.actorId
    [("run_id", .text runId), ("reason", .text reason), ("authorized_ref", .text ref),
      ("amount", size)]
  return .success
    [("append_id", .text appendId), ("run_id", .text runId), ("reason", .text reason),
      ("authorized_ref", .text ref), ("materialized_hash", ofOption materialized), ("size", size)]

/-! ## Profiles -/

def seedProfile (env : Env) (_auth : AuthContext) (p : Payload) : Core CommandResult := do
  let profileId ← key "profile_id" p.profileId
  let profileVersion ← key "profile_version" p.profileVersion
  add Refs.agentProfiles (profileId, profileVersion)
    { content := p.content.getD "\x7b\x7d", createdAt := env.now }
  return .success [("profile_id", .text profileId), ("profile_version", ofNat profileVersion)]

end HibikiCore
