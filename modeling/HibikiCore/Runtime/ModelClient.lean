import HibikiCore.Runtime.Redaction
import HibikiCore.Runtime.Reporting

/-!
# The client of the model

A conversation is sent to the provider as a request, and a request that fails in a way that may pass
is sent again, a bounded number of times. What the provider answers is read as a reply: a text, and
calls of tools whose arguments can be decoded. Anything else is an error that is not tried again.

A reply becomes a message of the conversation, which the next request carries.
`dumped_message_read_back` says that such a message, read again, is the same reply, and
`chat_retries` which requests a call of the client makes.
-/

namespace HibikiCore

/-! ## Members of an object -/

namespace ReplyObject

/-- `payload[key] = value`: a key that is there keeps its place. -/
def set (key : String) (value : ReplyValue) : ReplyObject → ReplyObject
  | [] => [(key.toList, value)]
  | m :: rest => if m.1 == key.toList then (key.toList, value) :: rest else m :: set key value rest

variable {payload : ReplyObject} {key other : String} {value : ReplyValue}

theorem get_cons (m : Text × ReplyValue) (payload : ReplyObject) (key : String) :
    get (m :: payload) key = if m.1 == key.toList then m.2 else get payload key := by
  rw [get, get, List.find?_cons]
  cases m.1 == key.toList <;> rfl

@[simp] theorem get_set_self : (payload.set key value).get key = value := by
  induction payload with
  | nil => simp [set, get]
  | cons m rest ih =>
    rw [set]
    split
    · simp [get_cons]
    · next hne => rw [get_cons, if_neg hne, ih]

theorem get_set_of_ne (hne : key ≠ other) :
    (payload.set key value).get other = payload.get other := by
  have hkeys : ¬(key.toList == other.toList) = true := by
    intro heq
    exact hne (String.toList_injective (by simpa using heq))
  induction payload with
  | nil => rw [set, get_cons, if_neg hkeys]
  | cons m rest ih =>
    rw [set]
    split
    · next hm =>
      have hm' : ¬(m.1 == other.toList) = true := by rwa [eq_of_beq hm]
      rw [get_cons, get_cons, if_neg hkeys, if_neg hm']
    · rw [get_cons, get_cons, ih]

/-- Nothing changes where a member is given the value that it has. -/
theorem set_get (hget : payload.get key = value) (hvalue : value ≠ .null) :
    payload.set key value = payload := by
  induction payload with
  | nil => exact absurd hget.symm hvalue
  | cons m rest ih =>
    rw [get_cons] at hget
    rw [set]
    split
    · next hm =>
      rw [if_pos hm] at hget
      rw [← eq_of_beq hm, ← hget]
    · next hm =>
      rw [if_neg hm] at hget
      rw [ih hget]

end ReplyObject

/-! ## Tool calls -/

/-- What the decoder and the encoder of the interpreter contribute besides values: the canonical
text of an object, and why a text cannot be decoded. -/
structure JsonTexts where
  dumps : ReplyObject → Text
  decodeError : Text → Text

variable (I : Interpreter) (J : JsonTexts)

/-- A function with its name and the text of its arguments. -/
def functionObject (name arguments : Text) : ReplyValue :=
  .object [("name".toList, .string name), ("arguments".toList, .string arguments)]

/-- A tool call as the client hands it on: its function has a name, and arguments that can be
decoded. -/
structure ToolCall where
  members : ReplyObject
  name : Text
  arguments : Text
  named : name ≠ []
  decodes : (I.loads arguments).isSome = true
  function : members.get "function" = functionObject name arguments
  typed : (members.get "type").truthy = true

/-- `call.get("type") or "function"` -/
def callType (call : ReplyObject) : ReplyValue :=
  if (call.get "type").truthy then call.get "type" else .string "function".toList

theorem callType_truthy (call : ReplyObject) : (callType call).truthy = true := by
  rw [callType]
  split
  · assumption
  · rfl

/-- The members of a call, with a type and a function that has nothing but a name and arguments. -/
def normalized (call : ReplyObject) (name arguments : Text) : ReplyObject :=
  (call.set "type" (callType call)).set "function" (functionObject name arguments)

theorem normalized_function (call : ReplyObject) (name arguments : Text) :
    (normalized call name arguments).get "function" = functionObject name arguments :=
  ReplyObject.get_set_self

theorem normalized_typed (call : ReplyObject) (name arguments : Text) :
    ((normalized call name arguments).get "type").truthy = true := by
  rw [normalized, ReplyObject.get_set_of_ne (by decide), ReplyObject.get_set_self]
  exact callType_truthy call

/-- The arguments of a function as a text; absent ones are those of an empty object. -/
def argumentsText (function : ReplyObject) : Option Text :=
  match (function.find? fun m ↦ m.1 == "arguments".toList).map Prod.snd with
  | none => some ['\x7b', '\x7d']
  | some (.object members) => some (J.dumps members)
  | some (.string text) => some text
  | some _ => none

/-- `_normalize_tool_call` -/
def normalizeToolCall : ReplyValue → Except Text (ToolCall I)
  | .object call =>
    match ReplyObject.get call "function" with
    | .object function =>
      match ReplyObject.get function "name" with
      | .string name =>
        if hname : name = [] then .error "tool call is missing a function name".toList
        else
          match argumentsText J function with
          | some arguments =>
            if hdecodes : (I.loads arguments).isSome = true then
              .ok ⟨normalized call name arguments, name, arguments, hname, hdecodes,
                normalized_function call name arguments, normalized_typed call name arguments⟩
            else .error (J.decodeError arguments)
          | none => .error "tool call arguments must be a JSON string".toList
      | _ => .error "tool call is missing a function name".toList
    | _ => .error "tool call is missing its function object".toList
  | _ => .error "tool call must be an object".toList

/-! ## Messages and replies -/

/-- A message of a conversation. -/
structure ChatMessage where
  role : Text
  content : Option Text := none
  toolCallId : Option Text := none
  name : Option Text := none
  toolCalls : List (ToolCall I) := []

structure ModelReply where
  content : Option Text
  toolCalls : List (ToolCall I)
  finishReason : Option Text
  usage : ReplyObject
  raw : ReplyObject

/-- The message that a reply becomes. -/
def ModelReply.message {I : Interpreter} (reply : ModelReply I) : ChatMessage I where
  role := "assistant".toList
  content := reply.content
  toolCalls := reply.toolCalls

def protocolError (message : String) : ModelClientError :=
  ⟨"protocol", message.toList, false, none⟩

/-- A value as a text, unless it is absent. -/
def textOf : ReplyValue → Option Text
  | .null => none
  | value => some (I.str value)

/-- The calls of a message; a single call may be given in an older form. -/
def rawCalls (message : ReplyObject) : ReplyValue :=
  match message.get "tool_calls" with
  | .null =>
    match message.get "function_call" with
    | .null => .array []
    | functionCall =>
      .array [.object [("id".toList, .string "legacy_call_1".toList),
        ("type".toList, .string "function".toList), ("function".toList, functionCall)]]
  | calls => calls

/-- The calls of a message, unless one of them is malformed. -/
def readCalls : ReplyValue → Except ModelClientError (List (ToolCall I))
  | .array calls =>
    (calls.mapM (normalizeToolCall I J)).mapError fun detail ↦
      ⟨"protocol", "malformed tool call: ".toList ++ detail, false, none⟩
  | _ => .error (protocolError "model 'tool_calls' is not a list")

/-- The message of the first choice. -/
def readChoice (payload : ReplyObject) : Except ModelClientError (ReplyObject × ReplyObject) :=
  match payload.get "choices" with
  | .array (choice :: _) =>
    match choice with
    | .object choice =>
      match ReplyObject.get choice "message" with
      | .object message => .ok (choice, message)
      | _ => .error (protocolError "model choice is missing 'message'")
    | _ => .error (protocolError "model choice is not an object")
  | _ => .error (protocolError "model response is missing 'choices'")

/-- The usage that is reported; what is no object counts as nothing. -/
def usageOf (payload : ReplyObject) : ReplyObject :=
  match payload.get "usage" with
  | .object usage => usage
  | _ => []

/-- The reply in a message of a choice. -/
def readReply (payload choice message : ReplyObject) :
    Except ModelClientError (ModelReply I) :=
  (readCalls I J (rawCalls message)).map fun toolCalls ↦
    { content := textOf I (message.get "content")
      toolCalls
      finishReason := textOf I (choice.get "finish_reason")
      usage := usageOf payload
      raw := payload }

/-- `_parse_reply` -/
def parseReply : ReplyValue → Except ModelClientError (ModelReply I)
  | .object payload => do
    let (choice, message) ← readChoice payload
    readReply I J payload choice message
  | _ => .error (protocolError "model response is not a JSON object")

/-- A text, or the absent value. -/
def textValue : Option Text → ReplyValue
  | none => .null
  | some text => .string text

/-- `_dump_message` -/
def dumpMessage {I : Interpreter} (message : ChatMessage I) : ReplyObject :=
  [("role".toList, .string message.role), ("content".toList, textValue message.content)] ++
    (message.name.map fun name ↦ ("name".toList, .string name)).toList ++
    (message.toolCallId.map fun id ↦ ("tool_call_id".toList, .string id)).toList ++
    if message.toolCalls = [] then []
    else [("tool_calls".toList, .array (message.toolCalls.map fun call ↦ .object call.members))]

/-! ## A reply that is sent again -/

section Resent

variable {I J} {reply : ModelReply I} {message : ChatMessage I}

/-- The reading of a call is determined by its members. -/
theorem ToolCall.ext_members {c d : ToolCall I} (h : c.members = d.members) : c = d := by
  have hfunction : functionObject c.name c.arguments = functionObject d.name d.arguments := by
    rw [← c.function, h, d.function]
  obtain ⟨cm, cn, ca, _, _, _, _⟩ := c
  obtain ⟨dm, dn, da, _, _, _, _⟩ := d
  simp only [functionObject, ReplyValue.object.injEq, List.cons.injEq, Prod.mk.injEq,
    ReplyValue.string.injEq, true_and, and_true] at hfunction
  obtain ⟨rfl, rfl⟩ := hfunction
  obtain rfl : cm = dm := h
  rfl

/-- What the client hands on is normal already. -/
theorem normalizeToolCall_members (call : ToolCall I) :
    normalizeToolCall I J (.object call.members) = .ok call := by
  have hname : ReplyObject.get [("name".toList, .string call.name),
      ("arguments".toList, .string call.arguments)] "name" = .string call.name := rfl
  have harguments : argumentsText J [("name".toList, .string call.name),
      ("arguments".toList, .string call.arguments)] = some call.arguments := rfl
  rw [normalizeToolCall, call.function, functionObject]
  dsimp only
  rw [hname]
  dsimp only
  rw [dif_neg call.named, harguments]
  dsimp only
  rw [dif_pos call.decodes]
  refine congrArg Except.ok (ToolCall.ext_members ?_)
  change normalized call.members call.name call.arguments = call.members
  have htype : call.members.get "type" = callType call.members := by
    rw [callType, if_pos call.typed]
  have hset : call.members.set "type" (callType call.members) = call.members := by
    refine ReplyObject.set_get htype fun hnull ↦ ?_
    have htruthy := callType_truthy call.members
    rw [hnull] at htruthy
    cases htruthy
  rw [normalized, hset]
  exact ReplyObject.set_get call.function (by rw [functionObject]; exact fun h ↦ by cases h)

theorem readCalls_members (calls : List (ToolCall I)) :
    readCalls I J (.array (calls.map fun call ↦ .object call.members)) = .ok calls := by
  have hall : (calls.map fun call ↦ ReplyValue.object call.members).mapM (normalizeToolCall I J) =
      .ok calls := by
    induction calls with
    | nil => rfl
    | cons call calls ih =>
      rw [List.map_cons, List.mapM_cons, normalizeToolCall_members, ih]
      rfl
  rw [readCalls, hall]
  rfl

/-- The calls of a message are found where it was dumped. -/
theorem rawCalls_dumpMessage (message : ChatMessage I) :
    rawCalls (dumpMessage message) =
      .array (message.toolCalls.map fun call ↦ .object call.members) := by
  obtain ⟨role, content, id, name, calls⟩ := message
  rw [rawCalls]
  cases name <;> cases id <;> cases calls <;> rfl

theorem textOf_dumpMessage (message : ChatMessage I) :
    textOf I ((dumpMessage message).get "content") = message.content := by
  obtain ⟨role, content, id, name, calls⟩ := message
  cases content <;> rfl

/-- An answer whose first choice holds a message. -/
structure Carries (answer message : ReplyObject) : Prop where
  choice : ∃ choice rest, answer.get "choices" = .array (.object choice :: rest) ∧
    ReplyObject.get choice "message" = .object message

theorem Carries.readChoice {answer message : ReplyObject} (h : Carries answer message) :
    ∃ choice, readChoice answer = .ok (choice, message) := by
  obtain ⟨choice, rest, hchoices, hmessage⟩ := h.choice
  refine ⟨choice, ?_⟩
  rw [HibikiCore.readChoice, hchoices]
  dsimp only
  rw [hmessage]

/-- A message of the conversation is read again as it was: whatever answer carries it, with whatever
beside it, is accepted, and becomes the message of the assistant with this text and these calls. -/
theorem dumped_message_read_back (message : ChatMessage I) {answer : ReplyObject}
    (h : Carries answer (dumpMessage message)) :
    ∃ reply, parseReply I J (.object answer) = .ok reply ∧
      reply.message = { message with
        role := "assistant".toList, toolCallId := none, name := none } := by
  obtain ⟨choice, hchoice⟩ := h.readChoice
  have hcalls : readCalls I J (rawCalls (dumpMessage message)) = .ok message.toolCalls := by
    rw [rawCalls_dumpMessage, readCalls_members]
  have hreply : parseReply I J (.object answer) =
      readReply I J answer choice (dumpMessage message) := by
    rw [parseReply, hchoice]
    rfl
  rw [readReply, hcalls, Except.map, textOf_dumpMessage] at hreply
  exact ⟨_, hreply, rfl⟩

end Resent

/-- An interpreter whose decoder knows the empty object. -/
def sampleDecoder : Interpreter where
  isWord := asciiWord
  loads text := if text = ['\x7b', '\x7d'] then some (.object []) else none
  repr _ := []

/-- A call that lists the workspace, and says so in a text. -/
def sampleListing : ChatMessage sampleDecoder where
  role := "assistant".toList
  content := some "Looking around.".toList
  toolCalls := [{
    members := [("id".toList, .string "call_7".toList),
      ("type".toList, .string "function".toList),
      ("function".toList, functionObject "fs_list".toList ['\x7b', '\x7d'])]
    name := "fs_list".toList
    arguments := ['\x7b', '\x7d']
    named := by decide
    decodes := rfl
    function := rfl
    typed := rfl }]

theorem dumped_message_read_back_sampleListing :
    ∃ reply, parseReply sampleDecoder ⟨fun _ ↦ [], fun _ ↦ []⟩
        (.object [("choices".toList, .array [.object
          [("message".toList, .object (dumpMessage sampleListing))]])]) = .ok reply ∧
      reply.message = sampleListing :=
  dumped_message_read_back sampleListing ⟨_, [], rfl, rfl⟩

/-! ## Errors of reading -/

theorem readCalls_error {calls : ReplyValue} {e : ModelClientError}
    (h : readCalls I J calls = .error e) : e.retryable = false := by
  cases calls with
  | array items =>
    rw [readCalls] at h
    cases hitems : items.mapM (normalizeToolCall I J) with
    | ok calls =>
      rw [hitems] at h
      cases h
    | error detail =>
      rw [hitems] at h
      cases h
      rfl
  | _ =>
    obtain rfl := Except.error.inj h
    rfl

theorem readChoice_error {payload : ReplyObject} {e : ModelClientError}
    (h : readChoice payload = .error e) : e.retryable = false := by
  rw [readChoice] at h
  split at h
  · split at h
    · split at h
      · cases h
      · cases h
        rfl
    · cases h
      rfl
  · cases h
    rfl

/-- An answer that cannot be read is not asked for again. -/
theorem parseReply_error {payload : ReplyValue} {e : ModelClientError}
    (h : parseReply I J payload = .error e) : e.retryable = false := by
  cases payload with
  | object payload =>
    cases hchoice : readChoice payload with
    | error e' =>
      rw [parseReply, hchoice] at h
      cases h
      exact readChoice_error hchoice
    | ok found =>
      rw [parseReply, hchoice] at h
      change readReply I J payload found.1 found.2 = .error e at h
      rw [readReply] at h
      cases hcalls : readCalls I J (rawCalls found.2) with
      | error e' =>
        rw [hcalls] at h
        cases h
        exact readCalls_error I J hcalls
      | ok calls =>
        rw [hcalls] at h
        cases h
  | _ =>
    cases h
    rfl

/-! ## Requests -/

structure ModelClient where
  apiKey : Text
  model : Text
  maxRetries : Nat

structure ChatRequest where
  model : Text
  messages : List ReplyObject
  tools : List ReplyObject

/-- The requests of a call of the client, how long it waited between them, in milliseconds, and what
came of it. -/
structure ChatRun where
  requests : List ChatRequest
  waits : List Nat
  outcome : Except ModelClientError (ModelReply I)

namespace ModelClient

/-- `_attempt` -/
def attempt (client : ModelClient) (exchange : Exchange) :
    Except ModelClientError (ModelReply I) := do
  let body ← HibikiCore.attempt client.apiKey exchange
  match I.loads body with
  | some payload => parseReply I J payload
  | none => .error (protocolError "model response body is not JSON")

/-- `min(_BACKOFF_BASE_S * (2**attempt), _BACKOFF_MAX_S)` -/
def backoff (attempt : Nat) : Nat := min (250 * 2 ^ attempt) 2000

/-- The attempts from one on, when so many retries are left. -/
def attempts (client : ModelClient) (request : ChatRequest) (exchanges : Nat → Exchange) :
    Nat → Nat → ChatRun I
  | left, attempt =>
    match client.attempt I J (exchanges attempt) with
    | .ok reply => ⟨[request], [], .ok reply⟩
    | .error error =>
      match left with
      | 0 => ⟨[request], [], .error error⟩
      | left + 1 =>
        if error.retryable then
          let run := attempts client request exchanges left (attempt + 1)
          { run with requests := request :: run.requests, waits := backoff attempt :: run.waits }
        else ⟨[request], [], .error error⟩

def request {I : Interpreter} (client : ModelClient) (messages : List (ChatMessage I))
    (tools : List ReplyObject) : ChatRequest where
  model := client.model
  messages := messages.map dumpMessage
  tools

/-- A call of the client. -/
def chat (client : ModelClient) (messages : List (ChatMessage I)) (tools : List ReplyObject)
    (exchanges : Nat → Exchange) : ChatRun I :=
  client.attempts I J (client.request messages tools) exchanges client.maxRetries 0

variable {I J}

/-- A request failed, and is made again if a retry is left, when it was not answered, when there
were too many requests, or when the server was at fault. -/
def mayPass : Exchange → Bool
  | .answered status _ => status = 429 || (500 ≤ status && status ≤ 599)
  | _ => true

theorem classifyStatus_retryable (status : Nat) (body : Text) :
    (classifyStatus status).2 = mayPass (.answered status body) := by
  simp only [classifyStatus, mayPass]
  split
  · next h => simp [h]
  · split
    · next h => rcases h with rfl | rfl <;> rfl
    · split
      · next h => simp [h]
      · split <;> simp_all

theorem attempt_of_mayPass (client : ModelClient) {exchange : Exchange}
    (h : mayPass exchange = true) :
    ∃ e, client.attempt I J exchange = .error e ∧ e.retryable = true := by
  cases exchange with
  | answered status body =>
    have hfailed : 400 ≤ status := by
      simp only [mayPass, Bool.or_eq_true, decide_eq_true_eq, Bool.and_eq_true] at h
      omega
    rw [attempt, HibikiCore.attempt, if_pos hfailed]
    exact ⟨_, rfl, (classifyStatus_retryable status body).trans h⟩
  | _ => exact ⟨_, rfl, rfl⟩

/-- What is not made again has succeeded, or has failed for good. -/
theorem attempt_of_not_mayPass {client : ModelClient} {exchange : Exchange} {e : ModelClientError}
    (h : mayPass exchange = false) (hfails : client.attempt I J exchange = .error e) :
    e.retryable = false := by
  cases exchange with
  | answered status body =>
    rw [attempt, HibikiCore.attempt] at hfails
    split at hfails
    · cases hfails
      exact (classifyStatus_retryable status body).trans h
    · change (match I.loads body with
        | some payload => parseReply I J payload
        | none => .error (protocolError "model response body is not JSON")) = .error e at hfails
      split at hfails
      · exact parseReply_error I J hfails
      · cases hfails
        rfl
  | _ => cases h

variable (I J)

/-- What is asked of a provider that behaves in a given way, when so many retries are left: the same
request again and again, each time after a longer wait, while it fails in a way that may pass and a
retry is left. The last answer is the outcome. -/
structure Settles (client : ModelClient) (request : ChatRequest) (exchanges : Nat → Exchange)
    (left first : Nat) (run : ChatRun I) : Prop where
  same : run.requests = List.replicate (run.waits.length + 1) request
  waited : run.waits = (List.range' first run.waits.length).map backoff
  bounded : run.waits.length ≤ left
  earlier : ∀ k < run.waits.length, mayPass (exchanges (first + k)) = true
  last : run.outcome = client.attempt I J (exchanges (first + run.waits.length))
  ended : mayPass (exchanges (first + run.waits.length)) = true → run.waits.length = left

variable {I J} {client : ModelClient} {exchanges : Nat → Exchange} {left first : Nat}
  {request : ChatRequest} {run run' : ChatRun I}

/-- A request that settles the call. -/
theorem Settles.single (hended : mayPass (exchanges first) = true → 0 = left) :
    Settles I J client request exchanges left first
      ⟨[request], [], client.attempt I J (exchanges first)⟩ where
  same := rfl
  waited := rfl
  bounded := Nat.zero_le left
  earlier _ hk := absurd hk (Nat.not_lt_zero _)
  last := rfl
  ended := hended

/-- A request that fails in a way that may pass, before those of the attempts behind it. -/
theorem Settles.retry (hretry : mayPass (exchanges first) = true)
    (h : Settles I J client request exchanges left (first + 1) run) :
    Settles I J client request exchanges (left + 1) first
      { run with requests := request :: run.requests, waits := backoff first :: run.waits } := by
  have hshift (k : Nat) : first + (k + 1) = first + 1 + k := by omega
  constructor
  · exact congrArg (request :: ·) h.same
  · rw [List.length_cons, List.range'_succ, List.map_cons, ← h.waited]
  · exact Nat.succ_le_succ h.bounded
  · intro k hk
    cases k with
    | zero => exact hretry
    | succ k => exact hshift k ▸ h.earlier k (Nat.lt_of_succ_lt_succ hk)
  · rw [List.length_cons, hshift]
    exact h.last
  · rw [List.length_cons, hshift]
    exact fun hlast ↦ congrArg (· + 1) (h.ended hlast)

/-- The attempts of a call, by the retries that are left. -/
theorem attempts_settles :
    Settles I J client request exchanges left first
      (client.attempts I J request exchanges left first) := by
  induction left generalizing first with
  | zero =>
    have hsingle : Settles I J client request exchanges 0 first
        ⟨[request], [], client.attempt I J (exchanges first)⟩ := .single fun _ ↦ rfl
    cases hlast : client.attempt I J (exchanges first) with
    | ok reply =>
      rw [attempts, hlast]
      rwa [hlast] at hsingle
    | error e =>
      rw [attempts, hlast]
      rwa [hlast] at hsingle
  | succ left ih =>
    cases hmay : mayPass (exchanges first) with
    | true =>
      obtain ⟨e, hfails, hretry⟩ : ∃ e, client.attempt I J (exchanges first) = .error e ∧
          e.retryable = true := attempt_of_mayPass client hmay
      rw [attempts, hfails]
      dsimp only
      rw [if_pos hretry]
      exact .retry hmay ih
    | false =>
      have hsingle : Settles I J client request exchanges (left + 1) first
          ⟨[request], [], client.attempt I J (exchanges first)⟩ := .single fun h ↦ by simp_all
      cases hlast : client.attempt I J (exchanges first) with
      | ok reply =>
        rw [attempts, hlast]
        rwa [hlast] at hsingle
      | error e =>
        rw [attempts, hlast]
        dsimp only
        rw [if_neg (by simp [attempt_of_not_mayPass hmay hlast])]
        rwa [hlast] at hsingle

/-- The provider determines how many requests there are. -/
theorem Settles.length_le (h : Settles I J client request exchanges left first run)
    (h' : Settles I J client request exchanges left first run') :
    run.waits.length ≤ run'.waits.length := by
  by_contra hlt
  have hlast := h'.ended (h.earlier run'.waits.length (by omega))
  have hbounded := h.bounded
  omega

/-- The requests, the waits and the outcome of a call are determined by what the provider does. The
first exchange that succeeds or fails for good is the last one, as is the one for which no retry is
left; every request is the same, and an answer that cannot be read fails for good. -/
theorem chat_retries (client : ModelClient) (messages : List (ChatMessage I))
    (tools : List ReplyObject) (exchanges : Nat → Exchange) (run : ChatRun I) :
    run = client.chat I J messages tools exchanges ↔
      Settles I J client (client.request messages tools) exchanges client.maxRetries 0 run := by
  have hchat : Settles I J client (client.request messages tools) exchanges client.maxRetries 0
      (client.chat I J messages tools exchanges) := attempts_settles
  constructor
  · rintro rfl
    exact hchat
  · intro h
    have hlength : run.waits.length = (client.chat I J messages tools exchanges).waits.length :=
      Nat.le_antisymm (h.length_le hchat) (hchat.length_le h)
    have hrequests := h.same.trans (hlength ▸ hchat.same.symm)
    have hwaits := h.waited.trans (hlength ▸ hchat.waited.symm)
    have houtcome := h.last.trans (hlength ▸ hchat.last.symm)
    obtain ⟨requests, waits, outcome⟩ := run
    dsimp only at hrequests hwaits houtcome
    rw [hrequests, hwaits, houtcome]

end ModelClient

end HibikiCore
