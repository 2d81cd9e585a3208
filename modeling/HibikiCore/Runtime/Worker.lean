import HibikiCore.Concurrency.Activity
import HibikiCore.Runtime.Adapters
import HibikiCore.Runtime.ModelClient
import HibikiCore.Tools.Broker

/-!
# The worker of a run

The thread of a run asks a model what to do next, carries out the tools that the model calls, and
tells the model what came of them, until the model has nothing left to call, a budget is spent, or
the run is stopped. Then it submits a result and reports its exit.

What is not the worker's to decide in a section is an observation: what the Core, the broker, the
sandbox and the provider answer, what time it is, and which files there are. Whatever the worker
asks of others, and what it adds to the conversation with the model, is noted in its log.
-/

namespace HibikiCore

/-! ## What a worker is given -/

/-- What libraries contribute to the work: JSON texts, and splitting a command line. -/
structure Libraries extends JsonTexts where
  dumpsCriteria : List Criterion → Text
  /-- The code points of the canonical text of parameters, if they have one. -/
  canonical : ReplyObject → Option (List Nat)
  splitCommand : Text → Except Text (List Text)

/-- The sandbox that an adapter was given: none, one for all runs, or one that is made anew for each
workspace. -/
inductive SandboxGiven
  | none | shared | perRun
  deriving DecidableEq, Repr

/-- The specification of a run with what the adapter was configured with. -/
structure Duty where
  runId : String
  /-- What the start is missing of the credential, if anything. -/
  missingAuth : Option Text := none
  taskId : String
  workUnitId : Option String := none
  grantEpoch : Int
  fencingEpoch : Int
  unit : WorkUnitSpec
  grantedTools : List String
  workspacePath : Text
  /-- In thousandths of a second; there is none where it is zero. -/
  wallTimeout : Nat := 0
  maxTurns : Option Int := none
  modelCallLimit : Option Int := none
  adapterMaxTurns : Int := 30
  adapterMaxModelCalls : Int := 200
  systemPrompt : Text
  hasBroker : Bool := true
  sandbox : SandboxGiven := .shared

/-- `int(value or default)` -/
def orDefault (value : Option Int) (default : Int) : Int := (value.filter (· ≠ 0)).getD default

namespace Duty

def turnBudget (duty : Duty) : Nat :=
  (max 1 (min duty.adapterMaxTurns (orDefault duty.maxTurns duty.adapterMaxTurns))).toNat

def callBudget (duty : Duty) : Nat :=
  (max 1 (min duty.adapterMaxModelCalls
    (orDefault duty.modelCallLimit duty.adapterMaxModelCalls))).toNat

end Duty

/-! ## The log -/

variable (I : Interpreter)

/-- What a worker asks for in the course of one tool call. -/
inductive ToolAct
  /-- The broker is asked to decide, or to carry out a tool of its own. -/
  | requested (request : ToolRequest)
  | appended (path digest : Text)
  | published (path : ReplyValue)
  /-- The Core is asked to note a container, and whether it has ended; it may not take this. -/
  | identified (containerId : Text) (exitConfirmed taken : Bool)
  /-- A sandbox has carried out a command, and may have said that nothing of it is left alive. -/
  | executed (command : List Text) (exitConfirmed : Bool)
  | recorded (invocationId : String) (outcome : Text)

/-- What a worker does, and what is done to it. -/
inductive Deed
  /-- Others have asked it to stop, or have sent a message. -/
  | stopRequested
  | sent (message : ReplyObject)
  /-- Messages begin the conversation, or are added to it. -/
  | began (messages : List (ChatMessage I))
  | drained (messages : List ReplyObject)
  | answered (message : ChatMessage I)
  | nudged (message : ChatMessage I)
  /-- A call of the model is accounted for, and made. -/
  | accounted (number : Nat) (accepted : Bool)
  | asked (number : Nat) (conversation : List (ChatMessage I))
      (reply : Except Text (ModelReply I))
  | tool (number : Nat) (act : ToolAct)
  | submitted (result : ReportedResult)
  /-- The work is over; its writes have finished, or a sandbox may still be alive. -/
  | closed (finishedWrites : Bool)
  | exitReported

/-! ## The state of a worker -/

/-- The record of a run, as far as the thread and others share it, and the log. -/
structure WorkerState where
  record : ApiRecord
  stopEvent : Bool := false
  error : Option Text := none
  resultSubmitted : Bool := false
  modelCalls : Nat := 0
  toolCalls : Nat := 0
  toolSeq : Nat := 0
  published : Publications := ⟨[], []⟩
  pendingMessages : List ReplyObject := []
  lastContainerId : Option Text := none
  log : List (Deed I) := []

/-- The answer to a command of the Core. -/
structure CommandAnswer where
  ok : Bool := true
  data : ReplyObject := []
  errorCode : Option Text := none
  errorMessage : ReplyValue := .null

/-- What the environment decides in a section. A call of another component may raise instead of
answering. -/
structure Observation where
  raises : Option Text := none
  /-- The clock, in thousandths of a second. -/
  now : Nat := 0
  command : CommandAnswer := {}
  decision : ToolDecision := ⟨false, none, none⟩
  result : ReplyObject := []
  reply : Except Text (ModelReply I) := .error []
  /-- The names of files that the workspace has. -/
  isFile : String → Bool := fun _ ↦ false
  /-- What the Core gives of the context of the run. -/
  materialized : List Text := []
  appends : List Text := []
  /-- The name of a container that is about to be started. -/
  pendingId : Text := []

/-- The sections of a worker, which may raise. -/
abbrev Work (α : Type) := ExceptT Text (Method (WorkerState I) (Observation I)) α

namespace Worker

variable {I}

/-- A section that only looks. -/
def look {α : Type} (f : Observation I → WorkerState I → α) : Work I α :=
  .attempt fun x s ↦ (.ok (f x s), s)

/-- A section that asks another component for something, which is noted. -/
def ask {α : Type} (deed : WorkerState I → Deed I) (answer : Observation I → α) : Work I α :=
  .attempt fun x s ↦ (match x.raises with
    | some e => .error e
    | none => .ok (answer x), { s with log := deed s :: s.log })

/-- A section that asks for something and goes on if that raises. -/
def tell {α : Type} (deed : WorkerState I → Deed I) (answer : Observation I → α)
    (otherwise : α) : Work I α :=
  .attempt fun x s ↦ (.ok (if x.raises.isSome then otherwise else answer x),
    { s with log := deed s :: s.log })

def stopped : Work I Bool := look fun _ s ↦ s.stopEvent

/-! ## Tools -/

def functionNames : List (String × String) :=
  [("fs.read", "fs_read"), ("fs.write", "fs_write"), ("fs.list", "fs_list"),
    ("shell.run", "shell_run"), ("artifact.publish", "artifact_publish")]

/-- `_TOOL_NAMES.get(raw_name, raw_name)` -/
def toolNameOf (rawName : Text) : String :=
  ((functionNames.find? fun n ↦ n.2.toList == rawName).map Prod.fst).getD (String.ofList rawName)

/-- The tools that the broker carries out itself. -/
def fsHelpers : List String := ["fs.read", "fs.list", "fs.write"]

def texts (members : List (String × Text)) : ReplyObject :=
  members.map fun m ↦ (m.1.toList, .string m.2)

/-- The result of a tool call that came to nothing. -/
def errorResult (error : Text) (rest : List (String × Text) := []) : ReplyObject :=
  texts (("status", "error".toList) :: ("error", error) :: rest)

def deniedResult (reason : Option String) : ReplyObject :=
  [("status".toList, .string "denied".toList),
    ("reason".toList, (reason.map fun r ↦ ReplyValue.string r.toList).getD .null)]

/-- Whether the status of a result is one of some words. -/
def hasStatus (result : ReplyObject) (words : List String) : Bool :=
  match result.get "status" with
  | .string status => words.any (·.toList == status)
  | _ => false

variable (L : Libraries) (duty : Duty)

/-- The number of the current tool call is that of the request. -/
def toolRequest (toolName : String) (parameters : ReplyObject) (s : WorkerState I) :
    ToolRequest where
  runId := duty.runId
  taskId := duty.taskId
  workUnitId := duty.workUnitId
  toolName := toolName
  parameters := L.canonical parameters
  grantEpoch := duty.grantEpoch
  fencingEpoch := duty.fencingEpoch
  sequenceNo := s.toolSeq

/-- A deed of the current tool call. -/
def deedOf (act : WorkerState I → ToolAct) (s : WorkerState I) : Deed I := .tool s.toolSeq (act s)

def authorize (toolName : String) (parameters : ReplyObject) : Work I ToolDecision :=
  ask (deedOf fun s ↦ .requested (toolRequest L duty toolName parameters s)) fun x ↦ x.decision

/-- `_finish_invocation`: the audit is completed as far as possible. -/
def finishInvocation (decision : ToolDecision) (outcome : Text) : Work I Unit :=
  match decision.invocationId.filter (· ≠ "") with
  | none => pure ()
  | some invocationId => tell (deedOf fun _ ↦ .recorded invocationId outcome) (fun _ ↦ ()) ()

/-- The Core has taken a command: the call did not raise, and was not refused. -/
def Observation.taken (x : Observation I) : Bool := x.raises.isNone && x.command.ok

/-- `_register_sandbox_identity`: it goes on whatever becomes of the call. -/
def registerSandboxIdentity (containerId : Text) (exitConfirmed : Bool) : Work I Unit :=
  .attempt fun x s ↦ (.ok (), { s with
    log := .tool s.toolSeq (.identified containerId exitConfirmed (Observation.taken x)) :: s.log })

/-- The texts of a list, if it has no other members. -/
def textsOf : ReplyValue → Option (List Text)
  | .array items => items.mapM fun item ↦ match item with
    | .string text => some text
    | _ => none
  | _ => none

def valueError (message : String) : Text := ("ValueError: " ++ message).toList

/-- The arguments of a shell call, or its command line split into some. -/
def sandboxCommand (parameters : ReplyObject) : Except Text (List Text) := do
  let args ← match textsOf (parameters.get "argv") with
    | some (arg :: args) => pure (arg :: args)
    | _ => match parameters.get "command" with
      | .string command =>
        if Text.strip command = [] then
          .error (valueError "shell.run requires a non-empty 'command' or 'argv'")
        else L.splitCommand command
      | _ => .error (valueError "shell.run requires a non-empty 'command' or 'argv'")
  if args = [] then .error (valueError "shell.run resolved to an empty argv") else return args

/-- Whether the answer of a sandbox says that nothing of it is left alive. -/
def exitConfirmed (result : ReplyObject) : Bool :=
  match (result.find? fun m ↦ m.1 == "exit_confirmed".toList).map Prod.snd with
  | some confirmed => confirmed.truthy
  | none => hasStatus result ["ok", "cancelled", "error", "timeout", "unavailable", "denied"]

/-- The container of a result, or the name it was given before. -/
def containerOf (result : ReplyObject) (pendingId : Text) : Text :=
  if (result.get "container_id").truthy then I.str (result.get "container_id") else pendingId

/-- A sandbox is about to be started, and may be alive from now on. -/
def expectSandbox : Work I Text :=
  .attempt fun x s ↦ (.ok x.pendingId,
    { s with
      record := { s.record with sandboxExitUnconfirmed := true }
      lastContainerId := some x.pendingId })

/-- A sandbox has answered. -/
def settleSandbox (containerId : Text) (confirmed : Bool) : Work I Unit :=
  .attempt fun _ s ↦ (.ok (),
    { s with
      record := { s.record with sandboxExitUnconfirmed := !confirmed }
      lastContainerId :=
        if confirmed ∨ containerId = [] then s.lastContainerId else some containerId })

/-- What a sandbox comes to: a result, or the text of an exception. -/
def sandboxAnswer (x : Observation I) : Except Text ReplyObject :=
  match x.raises with
  | some e => .error e
  | none => .ok x.result

/-- A sandbox is started, and answers or raises. -/
def execute (command : List Text) : Work I (Except Text ReplyObject) :=
  .attempt fun x s ↦ (.ok (sandboxAnswer x), { s with
    log := .tool s.toolSeq (.executed command ((sandboxAnswer x).toOption.any exitConfirmed)) ::
      s.log })

/-- A command is carried out in the sandbox of the run. -/
def runSandbox (deadline : Nat) (decision : ToolDecision) (command : List Text) :
    Work I ReplyObject := do
  let late ← look fun x _ ↦ decide (deadline ≤ x.now)
  if late then
    finishInvocation decision "error".toList
    return errorResult "run_wall_timeout_exceeded".toList
  let pendingId ← expectSandbox
  registerSandboxIdentity pendingId false
  let answer ← execute command
  match answer with
  | .error detail =>
    finishInvocation decision "error".toList
    return errorResult detail
  | .ok result =>
    let containerId := containerOf (I := I) result pendingId
    registerSandboxIdentity containerId (exitConfirmed result)
    settleSandbox containerId (exitConfirmed result)
    let outcome := if (result.get "status").truthy then I.str (result.get "status")
      else "error".toList
    finishInvocation decision outcome
    return result

/-- `_sandbox_for`: whether there is a sandbox for the workspace of the run. One that is made anew
may be refused, which raises. -/
def sandboxFor : Work I Bool :=
  if duty.workspacePath = [] then return false
  else match duty.sandbox with
    | .none => return false
    | .shared => return true
    | .perRun => .attempt fun x s ↦ (match x.raises with
      | some e => .error e
      | none => .ok true, s)

/-- `_dispatch_shell` -/
def dispatchShell (deadline : Nat) (parameters : ReplyObject) : Work I ReplyObject := do
  let decision ← authorize L duty "shell.run" parameters
  if decision.allowed then
    if ← sandboxFor duty then
      match sandboxCommand L parameters with
      | .error detail =>
        finishInvocation decision "error".toList
        return errorResult detail
      | .ok command => runSandbox deadline decision command
    else
      finishInvocation decision "error".toList
      return errorResult "sandbox_unavailable".toList
  else return deniedResult decision.reason

/-- The path that is published: the first of two parameters that is not empty. -/
def publishedPath (parameters : ReplyObject) : ReplyValue :=
  if (parameters.get "path").truthy then parameters.get "path" else parameters.get "relative_path"

/-- `_dispatch_publish` -/
def dispatchPublish (parameters : ReplyObject) : Work I ReplyObject := do
  let decision ← authorize L duty "artifact.publish" parameters
  if decision.allowed then
    let answer : Except Text CommandAnswer ←
      .attempt fun x s ↦ (.ok (match x.raises with
        | some e => .error e
        | none => .ok x.command),
        { s with log := .tool s.toolSeq (.published (publishedPath parameters)) :: s.log })
    match answer with
    | .error detail =>
      finishInvocation decision "error".toList
      return errorResult detail
    | .ok response =>
      if response.ok then
        finishInvocation decision "ok".toList
        return response.data.set "status" (.string "ok".toList)
      else
        finishInvocation decision "error".toList
        return [("status".toList, .string "error".toList),
          ("error".toList, textValue response.errorCode),
          ("message".toList, response.errorMessage)]
  else return deniedResult decision.reason

/-- `_register_tool_read`: what the model is about to read becomes part of the context. -/
def registerToolRead (parameters result : ReplyObject) : Work I Bool := do
  let path := if (parameters.get "path").truthy then I.str (parameters.get "path") else []
  let digest := if (result.get "sha256").truthy then I.str (result.get "sha256") else []
  if path = [] ∨ digest = [] then return false
  else tell (deedOf fun _ ↦ .appended path digest) (fun x ↦ x.command.ok) false

/-- A tool that the broker carries out. -/
def dispatchFs (toolName : String) (parameters : ReplyObject) : Work I ReplyObject := do
  let answer : Except Text ReplyObject ←
    .attempt fun x s ↦ (.ok (match x.raises with
      | some e => .error e
      | none => .ok x.result),
      { s with log := .tool s.toolSeq (.requested (toolRequest L duty toolName parameters s)) ::
        s.log })
  match answer with
  | .error detail => return errorResult detail
  | .ok result =>
    if toolName = "fs.read" ∧ hasStatus result ["ok"] then
      if ← registerToolRead parameters result then return result
      else
        return [("status".toList, .string "error".toList),
          ("error".toList, .string "context_append_failed".toList),
          ("tool".toList, .string toolName.toList), ("path".toList, parameters.get "path")]
    else return result

/-- The arguments of a call as parameters. -/
def parametersOf : ReplyValue → ReplyObject
  | .object members => members
  | value => [("value".toList, value)]

/-- `_dispatch_tool` -/
def dispatchTool (deadline : Nat) (call : ToolCall I) : Work I ReplyObject := do
  let toolName := toolNameOf call.name
  match I.loads call.arguments with
  | none => return errorResult "invalid_tool_arguments".toList [("raw", call.arguments)]
  | some value =>
    let parameters := parametersOf value
    .attempt fun _ s ↦
      (.ok (), { s with toolCalls := s.toolCalls + 1, toolSeq := s.toolSeq + 1 })
    if duty.hasBroker then
      if toolName = "shell.run" then dispatchShell L duty deadline parameters
      else if toolName = "artifact.publish" then dispatchPublish L duty parameters
      else if toolName ∈ fsHelpers then dispatchFs L duty toolName parameters
      else return errorResult "unsupported_tool".toList [("tool", toolName.toList)]
    else return errorResult "broker_unavailable".toList [("tool", toolName.toList)]

/-! ## Artifacts -/

/-- `_artifact_ref`: the artifact that a result is about, if it is one that was published. -/
def artifactRef (result : ReplyObject) : Option Text :=
  if hasStatus result ["ok", "published"] then
    ["artifact_hash", "artifact_ref"].findSome? fun key ↦ match result.get key with
      | .string value => if value = [] then none else some value
      | _ => none
  else none

/-- The path in a result: the first of two members that is not empty, if it is a text. -/
def resultPath (result : ReplyObject) : Option Text :=
  match if (result.get "path").truthy then result.get "path" else result.get "source_path" with
  | .string path => if path = [] then none else some path
  | _ => none

/-- An entry is appended unless it is there. -/
def appendNew (entries : List String) (entry : Text) : List String :=
  if String.ofList entry ∈ entries then entries else entries ++ [String.ofList entry]

/-- Artifacts and their paths are noted once. -/
def note (published : Publications) (result : ReplyObject) : Publications :=
  match artifactRef result with
  | none => published
  | some ref =>
    { artifactRefs := appendNew published.artifactRefs ref
      publishedPaths := match resultPath result with
        | none => published.publishedPaths
        | some path => appendNew published.publishedPaths path }

/-- Expected outputs that the workspace has, but that were never published. -/
def expectedButUnpublished (published : Publications) (isFile : String → Bool) : List String :=
  if duty.workspacePath = [] then []
  else duty.unit.expected.filter fun name ↦
    !(published.publishedPaths.any fun path ↦ name.toList.isSuffixOf path.toList) && isFile name

/-! ## Messages -/

/-- The identifier of a call, or one made of the number of calls so far. -/
def callId (call : ToolCall I) (toolCalls : Nat) : Text :=
  if (call.members.get "id").truthy then I.str (call.members.get "id")
  else "call_".toList ++ (toString toolCalls).toList

/-- What the model is told of a call. -/
def toolMessage (call : ToolCall I) (result : ReplyObject) (toolCalls : Nat) : ChatMessage I where
  role := "tool".toList
  content := some (L.dumps result)
  toolCallId := some (callId call toolCalls)

/-- A message that was sent to the run. -/
def pendingMessage (message : ReplyObject) : ChatMessage I where
  role := if (message.get "role").truthy then I.str (message.get "role") else "user".toList
  content := textOf I (message.get "content")
  toolCallId := textOf I (message.get "tool_call_id")
  name := textOf I (message.get "name")

/-- What is said to a worker that has finished without publishing what it wrote. -/
def nudgeMessage (unpublished : List String) : ChatMessage I where
  role := "user".toList
  content := some (
    "Your deliverable exists on disk but was never published, so it cannot count as ".toList ++
      "evidence. Call artifact.publish for: ".toList ++ (", ".intercalate unpublished).toList ++
      ". Then reply with your final summary.".toList)

/-- The lines of the first message to the model. -/
def promptLines (materialized appends : List Text) : List Text :=
  let expected := duty.unit.expectedOutputs
  let criteria := duty.unit.acceptanceCriteria
  let joined (lines : List Text) : Text := List.intercalate ['\n'] lines
  ["Task: ".toList ++ duty.taskId.toList] ++
    (if duty.unit.objective = "" then []
      else ["Objective: ".toList ++ duty.unit.objective.toList]) ++
    (if duty.unit.workType = "" then [] else ["Work type: ".toList ++ duty.unit.workType.toList]) ++
    (if expected = [] then []
      else ["Expected outputs: ".toList ++ (", ".intercalate expected).toList]) ++
    (if criteria = [] then [] else ["Acceptance criteria: ".toList ++ L.dumpsCriteria criteria]) ++
    (if materialized = [] then [] else ["Authorized context:\n".toList ++ joined materialized]) ++
    (if appends = [] then [] else ["Appended context:\n".toList ++ joined appends]) ++
    ["Granted tools: ".toList ++ if duty.grantedTools = [] then "(none)".toList
      else (", ".intercalate duty.grantedTools).toList]

/-- `_build_messages` -/
def firstMessages (materialized appends : List Text) : List (ChatMessage I) :=
  [{ role := "system".toList, content := some duty.systemPrompt },
    { role := "user".toList
      content := some (List.intercalate ['\n'] (promptLines L duty materialized appends)) }]

/-! ## The loop -/

/-- How the loop ends: it was told to stop, it failed, or the model delivered a text. -/
inductive Ended
  | stopped
  | failed (error : Text)
  | delivered (text : Text)
  deriving DecidableEq, Repr

/-- How a turn ends: the conversation goes on, with a note whether the model was reminded to
publish, or the loop ends. -/
inductive Turned (I : Interpreter)
  | next (messages : List (ChatMessage I)) (reminded : Bool)
  | ended (e : Ended)

def isLate (deadline : Nat) : Work I Bool :=
  look fun x _ ↦ decide (duty.wallTimeout ≠ 0 ∧ deadline < x.now)

def buildMessages : Work I (List (ChatMessage I)) :=
  .attempt fun x s ↦
    let messages := firstMessages L duty x.materialized x.appends
    (.ok messages, { s with log := .began messages :: s.log })

/-- `_drain_pending` -/
def drainPending (messages : List (ChatMessage I)) : Work I (List (ChatMessage I)) :=
  .attempt fun _ s ↦ (.ok (messages ++ s.pendingMessages.map pendingMessage),
    { s with pendingMessages := [], log := .drained s.pendingMessages :: s.log })

/-- The reason why the model may not be asked, if there is one. -/
def usageRefusal (x : Observation I) : Option Text :=
  match x.raises with
  | some e => some ("model_usage_unrecorded: ".toList ++ e)
  | none => if x.command.ok then none
    else some ((x.command.errorCode.filter (· ≠ [])).getD "model_usage_rejected".toList)

/-- `_record_model_usage` -/
def recordModelUsage : Work I (Option Text) :=
  .attempt fun x s ↦ (.ok (usageRefusal x),
    { s with log := .accounted (s.modelCalls + 1) (usageRefusal x).isNone :: s.log })

def chat (messages : List (ChatMessage I)) : Work I (Except Text (ModelReply I)) :=
  .attempt fun x s ↦ (.ok x.reply,
    { s with
      modelCalls := s.modelCalls + 1
      log := .asked (s.modelCalls + 1) messages x.reply :: s.log })

/-- What came of a call is noted, and becomes a message. -/
def answerCall (call : ToolCall I) (result : ReplyObject) : Work I (ChatMessage I) :=
  .attempt fun _ s ↦
    let message := toolMessage L call result s.toolCalls
    (.ok message, { s with
      published := note s.published result, log := .answered message :: s.log })

/-- A reminder to publish what is there, if anything is missing. -/
def remind : Work I (Option (ChatMessage I)) :=
  .attempt fun x s ↦
    let unpublished := expectedButUnpublished duty s.published x.isFile
    if unpublished = [] then (.ok none, s)
    else (.ok (some (nudgeMessage unpublished)),
      { s with log := .nudged (nudgeMessage unpublished) :: s.log })

/-- The calls of a reply, one after the other. -/
def runCalls (deadline : Nat) :
    List (ToolCall I) → List (ChatMessage I) → Work I (Except Ended (List (ChatMessage I)))
  | [], messages => return .ok messages
  | call :: calls, messages => do
    if ← stopped then return .error .stopped
    if ← isLate duty deadline then return .error (.failed "run_wall_timeout_exceeded".toList)
    let result ← dispatchTool L duty deadline call
    let message ← answerCall L call result
    runCalls deadline calls (messages ++ [message])

/-- What follows a reply that calls no tool: the result, or one reminder to publish. -/
def conclude (reply : ModelReply I) (messages : List (ChatMessage I)) (reminded : Bool) :
    Work I (Turned I) := do
  let text := reply.content.getD []
  if Text.strip text = [] then return .ended (.failed "empty_model_completion".toList)
  if !reminded then
    if let some message ← remind duty then return .next (messages ++ [message]) true
  return .ended (.delivered text)

/-- The model has been asked. -/
def follow (deadline : Nat) (reply : ModelReply I) (messages : List (ChatMessage I))
    (reminded : Bool) : Work I (Turned I) := do
  if ← stopped then return .ended .stopped
  if reply.toolCalls = [] then conclude duty reply messages reminded
  else match ← runCalls L duty deadline reply.toolCalls messages with
    | .ok messages => return .next messages reminded
    | .error e => return .ended e

def turn (deadline : Nat) (messages : List (ChatMessage I)) (reminded : Bool) :
    Work I (Turned I) := do
  if ← stopped then return .ended .stopped
  if ← isLate duty deadline then return .ended (.failed "run_wall_timeout_exceeded".toList)
  let messages ← drainPending messages
  if ← stopped then return .ended .stopped
  if duty.callBudget ≤ (← look fun _ s ↦ s.modelCalls) then
    return .ended (.failed "model_call_budget_exhausted".toList)
  match ← recordModelUsage with
  | some error => return .ended (.failed error)
  | none =>
    match ← chat messages with
    | .error error => return .ended (.failed error)
    | .ok reply => follow L duty deadline reply (messages ++ [reply.message]) reminded

/-- The turns that are left. -/
def turns (deadline : Nat) : Nat → List (ChatMessage I) → Bool → Work I Ended
  | 0, _, _ => return .failed "max_turns_exhausted".toList
  | left + 1, messages, reminded => do
    match ← turn L duty deadline messages reminded with
    | .next messages reminded => turns deadline left messages reminded
    | .ended e => return e

/-- `_loop` -/
def loop : Work I Ended := do
  let messages ← buildMessages L duty
  let deadline ← look fun x _ ↦ x.now + duty.wallTimeout
  let ended ← turns L duty deadline duty.turnBudget messages false
  if ← stopped then return .stopped else return ended

/-! ## The run -/

def Ended.content : Ended → Option Text
  | .delivered text => some text
  | _ => none

def Ended.error : Ended → Option Text
  | .failed error => some error
  | _ => none

def setError (error : Text) : Work I Unit :=
  .attempt fun _ s ↦ (.ok (), { s with error := some error })

/-- The text of an exception of the interpreter. -/
def exceptionText (e : Error) : Text := (e.code ++ ": " ++ e.message).toList

/-- Why a result was not taken, if it was not. -/
def submissionError (x : Observation I) : Option Text :=
  match x.raises with
  | some e => some ("submit_result_failed: ".toList ++ e)
  | none => if x.command.ok then none
    else some ("submit_result_failed: ".toList ++ x.command.errorCode.getD "None".toList)

/-- `_submit_result` -/
def submitResult (content error : Option Text) : Work I Unit := do
  let published ← look fun _ s ↦ s.published
  match ApiAgent.submitResult I duty.unit published content error with
  | .error e => throw (exceptionText e)
  | .ok result =>
    .attempt fun x s ↦ (.ok (), { s with
      error := submissionError x <|> s.error
      resultSubmitted := s.resultSubmitted || (submissionError x).isNone
      log := .submitted result :: s.log })

/-- The loop, with its faults turned into an error; `none` if it was never begun. -/
def work : Work I (Option Text × Option Text) :=
  tryCatch (do
    let ended ← loop L duty
    return (ended.content, ended.error))
  fun e ↦ do
    setError e
    return (none, some e)

/-- What the Core is asked without anything being noted, and may raise. -/
def consult : Work I Unit :=
  .attempt fun x s ↦ (match x.raises with
    | some e => .error e
    | none => .ok (), s)

/-- What a worker does with its credential. It waits for its run to be running, which changes
nothing. -/
def attend : Work I Unit := do
  consult
  if ← stopped then return ()
  let (content, error) ← work L duty
  if ← stopped then return ()
  submitResult duty content error

/-- What a worker does until its work is over, or raises. -/
def carryOut : Work I Unit :=
  match duty.missingAuth with
  | some missing => throw missing
  | none => attend L duty

/-- Nothing is written any more, unless a sandbox may still be alive. -/
def close : Work I Unit :=
  .attempt fun _ s ↦
    let unconfirmed := s.record.sandboxExitUnconfirmed
    (.ok (), { s with
      record := { s.record with finishedWrites := !unconfirmed, writerAlive := unconfirmed }
      log := .closed (!unconfirmed) :: s.log })

/-- `_confirm_exit` -/
def confirmExit : Work I Unit :=
  .attempt fun x s ↦ (.ok (), { s with
    error := s.error <|> x.raises.map ("confirm_run_exit_failed: ".toList ++ ·)
    log := .exitReported :: s.log })

/-- The record of a worker that is over. -/
def finished (error : Option Text) (r : ApiRecord) : ApiRecord :=
  if r.sandboxExitUnconfirmed then
    { r with alive := true, writerAlive := true, status := .stopUnconfirmed }
  else
    { r with
      alive := false
      writerAlive := false
      status := if error.isSome ∧ r.startRevoked = false then .failed
        else if r.startRevoked then .stopped else .exited }

def finish : Work I Unit :=
  .attempt fun _ s ↦ (.ok (), { s with record := finished s.error s.record })

/-- The thread ends. -/
def exit : Work I Unit :=
  .attempt fun _ s ↦ (.ok (), { s with record := { s.record with thread := some false } })

/-- `_run_worker` -/
def runWorker : Work I Unit := do
  tryCatch (carryOut L duty) setError
  close
  if duty.missingAuth.isNone then confirmExit
  finish
  exit

/-! ## What others do -/

/-- What other threads do to the record of a run. -/
inductive Disturbance
  | send (message : ReplyObject)
  | requestStop (reason : String) (ownThread : Bool)
  | finishStop
  deriving Repr

/-- The first section of a stop, as far as the record goes. -/
def requestStop (reason : String) (ownThread : Bool) (r : ApiRecord) : ApiRecord :=
  let r := { r with startRevoked := true, stopReason := some reason }
  if ApiState.stopsItself ownThread r then ApiState.stopFromWithin r else r

/-- The last section of a stop, as far as the record goes. -/
def finishStop (r : ApiRecord) : ApiRecord :=
  let alive := r.thread == some true
  if r.sandboxExitUnconfirmed then
    { r with alive := true, writerAlive := true, status := .stopUnconfirmed }
  else
    { r with
      alive
      writerAlive := alive && !r.finishedWrites
      status := if alive then r.status else .stopped }

def disturb : Disturbance → WorkerState I → WorkerState I
  | .send message, s =>
    { s with pendingMessages := s.pendingMessages ++ [message], log := .sent message :: s.log }
  | .requestStop reason ownThread, s =>
    { s with
      record := requestStop reason ownThread s.record
      stopEvent := true
      log := if s.stopEvent then s.log else .stopRequested :: s.log }
  | .finishStop, s => { s with record := finishStop s.record }

/-- The record of a run whose thread has been started. -/
def started (spec : RunSpec) : ApiRecord := { spec, thread := some true }

/-- The thread of a run, with those who stop it and send it messages. -/
def activity (spec : RunSpec) :
    Activity (WorkerState I) (Observation I) Disturbance (Except Text Unit) where
  init := { record := started spec }
  body := runWorker L duty
  others := disturb

/-- The record that the adapter has of a run changes as it does here. -/
theorem requestStop_adapter (runId reason : String) (ownThread : Bool) (s : ApiState) :
    (s.requestStop runId reason ownThread).runs.find? runId =
      (s.runs.find? runId).map (requestStop reason ownThread) :=
  Table.find?_modify_self _ _ _

theorem finishStop_adapter {runId : String} {s : ApiState} {r : ApiRecord}
    (h : s.runs.find? runId = some r) :
    (s.finishStop runId (r.thread == some true)).2.runs.find? runId = some (finishStop r) := by
  rw [ApiState.finishStop, h]
  dsimp only
  rw [Table.find?_modify_self, h]
  rfl

end Worker

end HibikiCore
