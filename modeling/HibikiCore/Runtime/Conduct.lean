import HibikiCore.Runtime.Worklog

/-!
# The conduct of a worker

Every section of a worker is shown to keep the protocol: from tool calls through the turns of the
loop to the whole run, which ends with the work closed and its exit reported. So the log of a worker
is orderly at every moment, in every interleaving with those who stop it or send it messages.
-/

namespace HibikiCore

namespace Worker

variable {I : Interpreter}

/-! ## Tool calls -/

section Tools

variable {L : Libraries} {duty : Duty} {p : Point I}

theorem authorize_does {toolName : String} {parameters : ReplyObject} :
    Does duty (Numbered duty p) (authorize L duty toolName parameters)
      fun _ ↦ Calling duty p := by
  have hrequest (s : WorkerState I) (h : Knows (Numbered duty p) s) :=
    h.holds.request (toolRequest L duty toolName parameters s) rfl rfl
  refine .deed (d := fun _ s ↦ deedOf (fun s ↦ .requested
    (toolRequest L duty toolName parameters s)) s) (fun x s ↦ rfl) (fun x s h ↦ ?_)
    (fun x s h ↦ (hrequest s h).1) (fun x s h ↦ ?_) fun _ ↦ Calling.lasting
  · exact h.agrees.tool nofun
  · have hcalling := (hrequest s h).2
    dsimp only
    cases x.raises with
    | none => exact hcalling
    | some e => exact hcalling.1.isOpen

/-- A deed of a tool call that was requested. -/
theorem tool_does {α : Type} {C : Knowledge I} {act : ToolAct} {g : Observation I → α}
    (hact : ∀ request, act ≠ .requested request) (hC : Lasting C)
    (hcalling : ∀ log n b, C log n b → Calling duty p log n b)
    (hkept : ∀ log n b, C log n b → C (.tool n act :: log) n b)
    (huses : usesSandbox act = true → ∀ log n b, C log n b → b = true) :
    Does duty C (.attempt fun x s ↦
      (.ok (g x), { s with log := Deed.tool s.toolSeq act :: s.log })) fun _ ↦ C := by
  refine .deed (d := fun _ s ↦ .tool s.toolSeq act) (fun _ _ ↦ rfl) (fun x s h ↦ ?_)
    (fun x s h ↦ ?_) (fun x s h ↦ hkept _ _ _ h.holds) fun _ ↦ hC
  · exact h.agrees.tool fun huse ↦ huses huse _ _ _ h.holds
  · exact ((hcalling _ _ _ h.holds).tool hact).1

theorem calling_does {α : Type} {act : ToolAct} {g : Observation I → α}
    (hact : ∀ request, act ≠ .requested request) (hunused : usesSandbox act = false) :
    Does duty (Calling duty p) (.attempt fun x s ↦
      (.ok (g x), { s with log := Deed.tool s.toolSeq act :: s.log })) fun _ ↦ Calling duty p :=
  tool_does hact Calling.lasting (fun _ _ _ ↦ id) (fun _ _ _ h ↦ (h.tool hact).2)
    fun huses ↦ absurd (hunused.symm.trans huses) Bool.false_ne_true

theorem finishInvocation_does {decision : ToolDecision} {outcome : Text} :
    Does duty (Calling duty p) (finishInvocation decision outcome) fun _ ↦ Calling duty p := by
  rw [finishInvocation]
  split
  · exact .pure fun _ _ _ ↦ id
  · exact calling_does (fun _ h ↦ by cases h) rfl

/-- A tool call in which a sandbox may be alive. -/
abbrev Sandboxed (duty : Duty) (p : Point I) : Knowledge I := fun log n b ↦
  Calling duty p log n b ∧ b = true

theorem Sandboxed.lasting : Lasting (Sandboxed duty p) :=
  Calling.lasting.and ⟨fun _ h ↦ h, fun _ h ↦ h⟩

theorem expectSandbox_does :
    Does duty (Calling duty p) expectSandbox fun _ ↦ Sandboxed duty p := by
  refine .change (f := fun x s ↦ (x.pendingId, { s with
    record := { s.record with sandboxExitUnconfirmed := true }
    lastContainerId := some x.pendingId })) (fun _ _ ↦ rfl) (fun x s h ↦ ?_)
    (fun x s h ↦ ⟨h.holds, rfl⟩) fun _ ↦ Sandboxed.lasting
  exact { h.agrees with sandbox := nofun }

/-- A sandbox may be alive, unless it has said that it has ended, where `K` holds. -/
abbrev Ending (duty : Duty) (p : Point I) (K : Prop) : Knowledge I := fun log n b ↦
  Sandboxed duty p log n b ∧ (K → lastAnswer log = some true)

theorem Ending.lasting {K : Prop} : Lasting (Ending duty p K) :=
  Sandboxed.lasting.and ⟨fun _ h ↦ h, fun _ h ↦ h⟩

theorem registerSandboxIdentity_does {K : Prop} {containerId : Text} {confirmed : Bool} :
    Does duty (Ending duty p K) (registerSandboxIdentity containerId confirmed) fun _ log n b ↦
      Ending duty p K log n b ∧ ∃ taken, lastReport log = some (confirmed, taken) := by
  have hact (taken : Bool) :
      ∀ request, ToolAct.identified containerId confirmed taken ≠ .requested request :=
    fun _ h ↦ by cases h
  refine .deed (d := fun x s ↦ .tool s.toolSeq
    (.identified containerId confirmed (Observation.taken x)))
    (fun _ _ ↦ rfl) (fun x s h ↦ ?_) (fun x s h ↦ ?_) (fun x s h ↦ ?_) fun _ ↦ ?_
  · exact h.agrees.tool fun _ ↦ h.holds.1.2
  · exact (h.holds.1.1.tool (hact _)).1
  · exact ⟨⟨⟨(h.holds.1.1.tool (hact _)).2, h.holds.1.2⟩, h.holds.2⟩, _, rfl⟩
  · exact Ending.lasting.and ⟨fun _ h ↦ h, fun _ h ↦ h⟩

theorem execute_does {command : List Text} :
    Does duty (Sandboxed duty p) (execute command) fun answer ↦
      Ending duty p (answer.toOption.any exitConfirmed = true) := by
  have hact (confirmed : Bool) :
      ∀ request, ToolAct.executed command confirmed ≠ .requested request :=
    fun _ h ↦ by cases h
  refine .deed (d := fun x s ↦ .tool s.toolSeq
    (.executed command ((sandboxAnswer x).toOption.any exitConfirmed)))
    (fun _ _ ↦ rfl) (fun x s h ↦ ?_) (fun x s h ↦ ?_) (fun x s h ↦ ?_) fun _ ↦ Ending.lasting
  · exact h.agrees.tool fun _ ↦ h.holds.2
  · exact (h.holds.1.tool (hact _)).1
  · exact ⟨⟨(h.holds.1.tool (hact _)).2, h.holds.2⟩, congrArg some⟩

/-- The mark of a sandbox is taken away only when it has ended and the Core was asked to note it. -/
theorem settleSandbox_does {containerId : Text} {confirmed : Bool} :
    Does duty (fun log n b ↦ Ending duty p (confirmed = true) log n b ∧
        ∃ taken, lastReport log = some (confirmed, taken))
      (settleSandbox containerId confirmed) fun _ ↦ Calling duty p := by
  refine .change (f := fun _ s ↦ ((), { s with
    record := { s.record with sandboxExitUnconfirmed := !confirmed }
    lastContainerId :=
      if confirmed ∨ containerId = [] then s.lastContainerId else some containerId }))
    (fun _ _ ↦ rfl) (fun x s h ↦ ?_) (fun x s h ↦ h.holds.1.1.1) fun _ ↦ Calling.lasting
  obtain ⟨⟨-, hanswer⟩, hreport⟩ := h.holds
  refine { h.agrees with sandbox := fun hended ↦ ?_ }
  obtain rfl : confirmed = true := by simpa using hended
  exact .inr ⟨hanswer rfl, hreport⟩

theorem runSandbox_does {deadline : Nat} {decision : ToolDecision} {command : List Text} :
    Does duty (Calling duty p) (runSandbox deadline decision command) fun _ ↦ Calling duty p := by
  rw [runSandbox]
  refine .bind (R := fun _ ↦ Calling duty p) (.look (fun _ _ h ↦ h.holds) fun _ ↦ Calling.lasting)
    fun late ↦ .ite (fun _ ↦ ?_) fun _ ↦ ?_
  · exact .bind finishInvocation_does fun _ ↦ .pure fun _ _ _ ↦ id
  · refine .bind expectSandbox_does fun pendingId ↦ ?_
    refine .bind (.weaken (registerSandboxIdentity_does (K := False)) fun _ _ _ h ↦ ⟨h, nofun⟩)
      fun _ ↦ ?_
    refine .bind (.weaken execute_does fun _ _ _ h ↦ h.1.1) fun answer ↦ ?_
    cases answer with
    | error detail =>
      refine .weaken (.bind finishInvocation_does fun _ ↦ .pure fun _ _ _ ↦ id) ?_
      exact fun _ _ _ h ↦ h.1.1
    | ok result =>
      refine .bind registerSandboxIdentity_does fun _ ↦ .bind settleSandbox_does fun _ ↦ ?_
      exact .bind finishInvocation_does fun _ ↦ .pure fun _ _ _ ↦ id

theorem sandboxFor_does :
    Does duty (Calling duty p) (sandboxFor duty) fun _ ↦ Calling duty p := by
  rw [sandboxFor]
  refine .ite (fun _ ↦ .pure fun _ _ _ ↦ id) fun _ ↦ ?_
  cases duty.sandbox with
  | none => exact .pure fun _ _ _ ↦ id
  | shared => exact .pure fun _ _ _ ↦ id
  | perRun =>
    refine Method.Meets.section (fun x s hs ↦ ?_) (Outcome.stable fun _ ↦ Calling.lasting)
    refine ⟨⟨.refl, hs.agrees⟩, ?_⟩
    cases x.raises with
    | none => exact hs
    | some e => exact ⟨hs.agrees, hs.holds.1.isOpen⟩

theorem dispatchShell_does {deadline : Nat} {parameters : ReplyObject} :
    Does duty (Numbered duty p) (dispatchShell L duty deadline parameters)
      fun _ ↦ Calling duty p := by
  rw [dispatchShell]
  refine .bind authorize_does fun decision ↦ .ite (fun _ ↦ ?_) fun _ ↦ .pure fun _ _ _ ↦ id
  refine .bind sandboxFor_does fun found ↦ .ite (fun _ ↦ ?_) fun _ ↦ ?_
  · cases sandboxCommand L parameters with
    | error detail => exact .bind finishInvocation_does fun _ ↦ .pure fun _ _ _ ↦ id
    | ok command => exact runSandbox_does
  · exact .bind finishInvocation_does fun _ ↦ .pure fun _ _ _ ↦ id

theorem dispatchPublish_does {parameters : ReplyObject} :
    Does duty (Numbered duty p) (dispatchPublish L duty parameters) fun _ ↦ Calling duty p := by
  rw [dispatchPublish]
  refine .bind authorize_does fun decision ↦ .ite (fun _ ↦ ?_) fun _ ↦ .pure fun _ _ _ ↦ id
  refine .bind (calling_does (fun _ h ↦ by cases h) rfl) fun answer ↦ ?_
  cases answer with
  | error detail => exact .bind finishInvocation_does fun _ ↦ .pure fun _ _ _ ↦ id
  | ok response =>
    refine .ite (fun _ ↦ ?_) fun _ ↦ ?_
    · exact .bind finishInvocation_does fun _ ↦ .pure fun _ _ _ ↦ id
    · exact .bind finishInvocation_does fun _ ↦ .pure fun _ _ _ ↦ id

theorem registerToolRead_does {parameters result : ReplyObject} :
    Does duty (Calling duty p) (registerToolRead parameters result) fun _ ↦ Calling duty p := by
  rw [registerToolRead]
  refine .ite (fun _ ↦ .pure fun _ _ _ ↦ id) fun _ ↦ ?_
  exact calling_does (fun _ h ↦ by cases h) rfl

theorem dispatchFs_does {toolName : String} {parameters : ReplyObject} :
    Does duty (Numbered duty p) (dispatchFs L duty toolName parameters)
      fun _ ↦ Calling duty p := by
  rw [dispatchFs]
  refine .bind (R := fun _ ↦ Calling duty p) ?_ fun answer ↦ ?_
  · have hrequest (s : WorkerState I) (h : Knows (Numbered duty p) s) :=
      h.holds.request (toolRequest L duty toolName parameters s) rfl rfl
    refine .deed (d := fun _ s ↦ .tool s.toolSeq (.requested
      (toolRequest L duty toolName parameters s))) (fun _ _ ↦ rfl) (fun x s h ↦ ?_)
      (fun x s h ↦ (hrequest s h).1) (fun x s h ↦ (hrequest s h).2) fun _ ↦ Calling.lasting
    exact h.agrees.tool nofun
  · cases answer with
    | error detail => exact .pure fun _ _ _ ↦ id
    | ok result =>
      refine .ite (fun _ ↦ ?_) fun _ ↦ .pure fun _ _ _ ↦ id
      refine .bind registerToolRead_does fun registered ↦ .ite (fun _ ↦ ?_) fun _ ↦ ?_
      · exact .pure fun _ _ _ ↦ id
      · exact .pure fun _ _ _ ↦ id

/-- A tool call leaves the conversation as it is. -/
theorem dispatchTool_does {deadline : Nat} {call : ToolCall I} :
    Does duty (Ready duty p) (dispatchTool L duty deadline call) fun _ ↦ Talking duty p := by
  rw [dispatchTool]
  cases I.loads call.arguments with
  | none => exact .pure fun _ _ _ h ↦ h.1
  | some value =>
    refine .bind (R := fun _ ↦ Numbered duty p) ?_ fun _ ↦ .ite (fun _ ↦ ?_) fun _ ↦ ?_
    · refine .change (f := fun _ s ↦ ((), { s with
        toolCalls := s.toolCalls + 1, toolSeq := s.toolSeq + 1 })) (fun _ _ ↦ rfl)
        (fun x s h ↦ ?_) (fun x s h ↦ ?_) fun _ ↦ Numbered.lasting
      · exact { h.agrees with
          numbers := fun number act hmem ↦ Nat.le_succ_of_le (h.agrees.numbers number act hmem) }
      · exact ⟨h.holds, fun earlier act hmem ↦
          Nat.lt_succ_of_le (h.agrees.numbers earlier act hmem)⟩
    · refine .ite (fun _ ↦ ?_) fun _ ↦ .ite (fun _ ↦ ?_) fun _ ↦ .ite (fun _ ↦ ?_) fun _ ↦ ?_
      · exact dispatchShell_does.strengthen fun _ _ _ _ h ↦ h.1
      · exact dispatchPublish_does.strengthen fun _ _ _ _ h ↦ h.1
      · exact dispatchFs_does.strengthen fun _ _ _ _ h ↦ h.1
      · exact .pure fun _ _ _ h ↦ h.1.1
    · exact .pure fun _ _ _ h ↦ h.1.1

end Tools

/-! ## The conversation -/

section Conversation

variable {L : Libraries} {duty : Duty} {p : Point I} {log : List (Deed I)} {s : WorkerState I}

/-- Deeds that the state has no trace of, other than in the log. -/
def untraced : Deed I → Bool
  | .began _ | .answered _ | .nudged _ | .accounted _ _ | .submitted _ | .exitReported => true
  | _ => false

theorem Agrees.note {d : Deed I} (h : Agrees s) (hd : untraced d = true) :
    Agrees { s with log := d :: s.log } where
  stop := h.stop.trans ⟨List.mem_cons_of_mem d, fun hmem ↦ by
    rcases List.mem_cons.mp hmem with heq | hmem
    · rw [← heq] at hd
      cases hd
    · exact hmem⟩
  calls := by cases d <;> first | exact h.calls | cases hd
  numbers number act hmem := by
    rcases List.mem_cons.mp hmem with heq | hmem
    · rw [← heq] at hd
      cases hd
    · exact h.numbers number act hmem
  sandbox := by cases d <;> first | exact h.sandbox | cases hd
  inbox := by cases d <;> first | exact h.inbox | cases hd
  quiet hq := (h.quiet hq).cons

/-- The worker looks whether it was asked to stop. If not, it has done nothing since. -/
theorem stopped_does {P : Knowledge I} (hP : Lasting P) :
    Does duty P stopped fun b log n c ↦ P log n c ∧ (b = false → Free log) := by
  refine .look (fun x s h ↦ ⟨h.holds, fun hstop ↦ ?_⟩) fun b ↦ ?_
  · refine .of_unstopped fun hmem ↦ ?_
    rw [h.agrees.stop.mpr hmem] at hstop
    cases hstop
  · refine hP.and ⟨fun hstop h hb ↦ ?_, fun message h hb ↦ ?_⟩
    · exact (h hb).cons fun k hk ↦ by cases hk
    · exact (h hb).cons fun k hk ↦ by cases hk

theorem isLate_does {P : Knowledge I} {deadline : Nat} (hP : Lasting P) :
    Does duty P (isLate duty deadline) fun _ ↦ P :=
  .look (fun _ _ h ↦ h.holds) fun _ ↦ hP

theorem toolMessage_answers (call : ToolCall I) (result : ReplyObject) (toolCalls : Nat) :
    Answers (toolMessage L call result toolCalls) call where
  role := rfl
  plain := rfl
  id hid := by rw [toolMessage, callId, if_pos hid]

/-- The conversation goes on with a deed that says something. -/
theorem Talk.say {d : Deed I} {p' : Point I} (h : Talk duty p log)
    (hclosed : ∀ b, d ≠ .closed b) (hsubmitted : ∀ r, d ≠ .submitted r)
    (htalk : p'.messages = p.messages ++ spoken d) (howed : owed (d :: log) = p'.calls)
    (hroom : askedCount (d :: log) + p'.left ≤ duty.turnBudget)
    (hfresh : p'.reminded = false → p.reminded = false ∧ ∀ m, d ≠ .nudged m) :
    Talk duty p' (d :: log) where
  isOpen := h.isOpen.cons hclosed hsubmitted
  talk := by rw [transcript, h.talk, htalk]
  owes := howed
  room := hroom
  fresh hf message hmem := by
    obtain ⟨hf', hd⟩ := hfresh hf
    rcases List.mem_cons.mp hmem with heq | hmem
    · exact hd message heq.symm
    · exact h.fresh hf' message hmem

/-- A call is answered, and the message is part of the conversation. -/
theorem answerCall_does {call : ToolCall I} {calls : List (ToolCall I)} {result : ReplyObject}
    (howed : p.calls = call :: calls) :
    Does duty (Talking duty p) (answerCall L call result) fun message ↦
      Talking duty { p with messages := p.messages ++ [message], calls } := by
  refine .deed (d := fun _ s ↦ .answered (toolMessage L call result s.toolCalls)) (fun _ _ ↦ rfl)
    (fun x s h ↦ ?_) (fun x s h ↦ ?_) (fun x s h ↦ ?_) fun _ ↦ Talk.lasting
  · exact { h.agrees.note (d := .answered (toolMessage L call result s.toolCalls)) rfl with }
  · exact ⟨h.holds.isOpen, call, calls, h.holds.owes.trans howed, toolMessage_answers call _ _⟩
  · refine h.holds.say (fun _ heq ↦ by cases heq) (fun _ heq ↦ by cases heq) rfl ?_ h.holds.room
      fun hf ↦ ⟨hf, fun _ heq ↦ by cases heq⟩
    rw [owed, h.holds.owes, howed, List.tail_cons]

/-- All calls of a reply are answered, unless the loop ends before. -/
theorem runCalls_does {deadline : Nat} {calls : List (ToolCall I)}
    {messages : List (ChatMessage I)} {left : Nat} {reminded : Bool} :
    Does duty (Talking duty ⟨messages, calls, left, reminded⟩)
      (runCalls L duty deadline calls messages) fun r log _ _ ↦
        match r with
        | .ok messages => Talk duty ⟨messages, [], left, reminded⟩ log
        | .error _ => Open log := by
  induction calls generalizing messages with
  | nil => exact .pure fun _ _ _ ↦ id
  | cons call calls ih =>
    rw [runCalls]
    refine .bind (stopped_does Talk.lasting) fun b ↦
      .ite (fun _ ↦ .pure fun _ _ _ h ↦ h.1.isOpen) fun hb ↦ ?_
    refine .weaken (P := Ready duty _) ?_ fun _ _ _ h ↦ ⟨h.1, h.2 (by simpa using hb)⟩
    refine .bind (isLate_does Ready.lasting) fun late ↦
      .ite (fun _ ↦ .pure fun _ _ _ h ↦ h.1.isOpen) fun _ ↦ ?_
    exact .bind dispatchTool_does fun result ↦ .bind (answerCall_does rfl) fun message ↦ ih

/-- What is known after a turn: the calls are answered and one turn fewer is left, or the work
ends. -/
def AfterTurn (duty : Duty) (left : Nat) : Turned I → Knowledge I
  | .next messages reminded, log, _, _ => Talk duty ⟨messages, [], left, reminded⟩ log
  | .ended _, log, _, _ => Open log

/-- A worker is reminded to publish once. -/
theorem remind_does {messages : List (ChatMessage I)} {left : Nat} :
    Does duty (Talking duty ⟨messages, [], left, false⟩) (remind duty) fun message log _ _ ↦
      Talk duty ⟨messages ++ message.toList, [], left, message.isSome⟩ log := by
  refine Method.Meets.section (fun x s h ↦ ?_) (Outcome.stable fun _ ↦ Talk.lasting)
  dsimp only
  split
  · refine ⟨⟨.refl, h.agrees⟩, h.agrees, ?_⟩
    simpa using h.holds
  · generalize hm : nudgeMessage (expectedButUnpublished duty s.published x.isFile) = message
    have hplain : message.toolCalls = [] := by rw [← hm]; rfl
    have hagrees := h.agrees.note (d := .nudged message) rfl
    refine ⟨⟨.single ⟨h.holds.isOpen, h.holds.owes, hplain, h.holds.fresh rfl⟩, hagrees⟩,
      hagrees, ?_⟩
    exact h.holds.say (fun _ heq ↦ by cases heq) (fun _ heq ↦ by cases heq) rfl h.holds.owes
      h.holds.room fun hf ↦ by cases hf

theorem conclude_does {reply : ModelReply I} {messages : List (ChatMessage I)} {left : Nat}
    {reminded : Bool} :
    Does duty (Talking duty ⟨messages, [], left, reminded⟩)
      (conclude duty reply messages reminded) (AfterTurn duty left) := by
  rw [conclude]
  refine .ite (fun _ ↦ .pure fun _ _ _ h ↦ h.isOpen) fun _ ↦ ?_
  cases reminded with
  | true => exact .pure fun _ _ _ h ↦ h.isOpen
  | false =>
    refine .bind remind_does fun message ↦ ?_
    cases message with
    | none => exact .pure fun _ _ _ h ↦ h.isOpen
    | some message => exact .pure fun _ _ _ ↦ id

theorem follow_does {deadline : Nat} {reply : ModelReply I} {messages : List (ChatMessage I)}
    {left : Nat} {reminded : Bool} :
    Does duty (Talking duty ⟨messages, reply.toolCalls, left, reminded⟩)
      (follow L duty deadline reply messages reminded) (AfterTurn duty left) := by
  rw [follow]
  refine .bind (stopped_does Talk.lasting) fun b ↦
    .ite (fun _ ↦ .pure fun _ _ _ h ↦ h.1.isOpen) fun _ ↦ .ite (fun hcalls ↦ ?_) fun _ ↦ ?_
  · refine conclude_does.weaken fun _ _ _ h ↦ ?_
    rw [← hcalls]
    exact h.1
  · refine .bind (runCalls_does.weaken fun _ _ _ h ↦ h.1) fun r ↦ ?_
    cases r with
    | ok messages => exact .pure fun _ _ _ ↦ id
    | error e => exact .pure fun _ _ _ ↦ id

/-- The messages of others have just been taken into the conversation. -/
abbrev Drained (duty : Duty) (p : Point I) : Knowledge I := fun log _ _ ↦
  Talk duty p log ∧ ∃ messages, latest log = some (.drained messages)

theorem Drained.lasting : Lasting (Drained duty p) :=
  Talk.lasting.and ⟨fun _ h ↦ h, fun _ h ↦ h⟩

theorem drainPending_does {messages : List (ChatMessage I)} {left : Nat} {reminded : Bool} :
    Does duty (Talking duty ⟨messages, [], left, reminded⟩) (drainPending messages) fun messages ↦
      Drained duty ⟨messages, [], left, reminded⟩ := by
  refine .deed (d := fun _ s ↦ .drained s.pendingMessages) (fun _ _ ↦ rfl) (fun x s h ↦ ?_)
    (fun x s h ↦ ⟨h.holds.isOpen, h.holds.owes⟩) (fun x s h ↦ ⟨?_, _, rfl⟩) fun _ ↦ Drained.lasting
  · exact
      { stop := h.agrees.stop.trans (by simp)
        calls := h.agrees.calls
        numbers := fun number act hmem ↦ h.agrees.numbers number act (by simpa using hmem)
        sandbox := h.agrees.sandbox
        inbox := by
          change sentMessages s.log = drainedMessages s.log ++ s.pendingMessages ++ []
          rw [h.agrees.inbox, List.append_nil]
        quiet := fun hq ↦ (h.agrees.quiet hq).cons }
  · exact h.holds.say (fun _ heq ↦ by cases heq) (fun _ heq ↦ by cases heq) rfl h.holds.owes
      h.holds.room fun hf ↦ ⟨hf, fun _ heq ↦ by cases heq⟩

/-- A call of the model is accounted for. -/
abbrev Accounted (duty : Duty) (p : Point I) : Knowledge I := fun log _ _ ↦
  Talk duty p log ∧ StepsSince (· = .call (askedCount log + 1)) log ∧
    latest log = some (.accounted (askedCount log + 1) true)

theorem Accounted.lasting : Lasting (Accounted duty p) where
  stop {log n b} hstop h := by
    have hsince : StepsSince (· = .call (askedCount log + 1)) (.stopRequested :: log) :=
      h.2.1.cons fun k hk ↦ by cases hk
    exact ⟨Talk.lasting.stop (n := n) (b := b) hstop h.1, hsince, h.2.2⟩
  sent {log n b} message h := by
    have hsince : StepsSince (· = .call (askedCount log + 1)) (.sent message :: log) :=
      h.2.1.cons fun k hk ↦ by cases hk
    exact ⟨Talk.lasting.sent (n := n) (b := b) message h.1, hsince, h.2.2⟩

/-- What is known after the accounting: a call may be made, or the work ends. -/
def AfterAccounting (duty : Duty) (p : Point I) : Option Text → Knowledge I
  | none => Accounted duty p
  | some _ => fun log _ _ ↦ Open log

theorem recordModelUsage_does {messages : List (ChatMessage I)} {left : Nat} {reminded : Bool} :
    Does duty (fun log n b ↦ (Drained duty ⟨messages, [], left + 1, reminded⟩ log n b ∧ Free log) ∧
        askedCount log < duty.callBudget) recordModelUsage
      (AfterAccounting duty ⟨messages, [], left + 1, reminded⟩) := by
  refine .deed (d := fun x s ↦ .accounted (s.modelCalls + 1) (usageRefusal x).isNone)
    (fun _ _ ↦ rfl) (fun x s h ↦ h.agrees.note rfl) (fun x s h ↦ ?_) (fun x s h ↦ ?_)
    fun refusal ↦ ?_
  · obtain ⟨⟨⟨htalk, messages, hlatest⟩, hfree⟩, hbudget⟩ := h.holds
    have hroom : askedCount s.log + (left + 1) ≤ duty.turnBudget := htalk.room
    rw [h.agrees.calls]
    refine ⟨htalk.isOpen, hfree.mono fun _ hk ↦ hk.elim, htalk.owes, rfl, by omega, ?_⟩
    intro earlier hearlier
    rw [hlatest] at hearlier
    cases hearlier
  · obtain ⟨⟨⟨htalk, -⟩, hfree⟩, hbudget⟩ := h.holds
    have htalk' : Talk duty ⟨messages, [], left + 1, reminded⟩
        (.accounted (s.modelCalls + 1) (usageRefusal x).isNone :: s.log) :=
      htalk.say (fun _ heq ↦ by cases heq) (fun _ heq ↦ by cases heq)
        (List.append_nil messages).symm htalk.owes htalk.room
        fun hf ↦ ⟨hf, fun _ heq ↦ by cases heq⟩
    dsimp only
    rw [h.agrees.calls] at htalk' ⊢
    cases hrefusal : usageRefusal x with
    | some e =>
      rw [hrefusal] at htalk'
      exact htalk'.isOpen
    | none =>
      rw [hrefusal] at htalk'
      have hsince : StepsSince (· = .call (askedCount s.log + 1))
          (.accounted (askedCount s.log + 1) true :: s.log) :=
        (hfree.mono fun _ hk ↦ hk.elim).cons fun k hk ↦ (Option.some.inj hk).symm
      exact ⟨htalk', hsince, rfl⟩
  · cases refusal with
    | some e => exact Open.lasting
    | none => exact Accounted.lasting

/-- What is known after the model was asked: what it calls is to be answered, or the work ends. -/
def AfterChat (duty : Duty) (messages : List (ChatMessage I)) (left : Nat) (reminded : Bool) :
    Except Text (ModelReply I) → Knowledge I
  | .ok reply =>
    Talking duty ⟨messages ++ [reply.message], reply.toolCalls, left, reminded⟩
  | .error _ => fun log _ _ ↦ Open log

theorem chat_does {messages : List (ChatMessage I)} {left : Nat} {reminded : Bool} :
    Does duty (Accounted duty ⟨messages, [], left + 1, reminded⟩) (chat messages)
      (AfterChat duty messages left reminded) := by
  refine .deed (d := fun x s ↦ .asked (s.modelCalls + 1) messages x.reply) (fun _ _ ↦ rfl)
    (fun x s h ↦ ?_) (fun x s h ↦ ?_) (fun x s h ↦ ?_) fun r ↦ ?_
  · exact
      { stop := h.agrees.stop.trans (by simp)
        calls := by rw [askedCount, h.agrees.calls]
        numbers := fun number act hmem ↦ h.agrees.numbers number act (by simpa using hmem)
        sandbox := h.agrees.sandbox
        inbox := h.agrees.inbox
        quiet := fun hq ↦ (h.agrees.quiet hq).cons }
  · obtain ⟨htalk, hsince, hlatest⟩ := h.holds
    rw [h.agrees.calls]
    exact ⟨htalk.isOpen, hsince, hlatest, rfl, htalk.owes, htalk.talk.symm⟩
  · obtain ⟨htalk, -, -⟩ := h.holds
    have hroom : askedCount s.log + (left + 1) ≤ duty.turnBudget := htalk.room
    dsimp only
    cases x.reply with
    | error e => exact htalk.isOpen.cons (fun _ heq ↦ by cases heq) fun _ heq ↦ by cases heq
    | ok reply =>
      exact htalk.say (fun _ heq ↦ by cases heq) (fun _ heq ↦ by cases heq) rfl rfl
        (by rw [askedCount]; dsimp only; omega) fun hf ↦ ⟨hf, fun _ heq ↦ by cases heq⟩
  · cases r with
    | ok reply => exact Talk.lasting
    | error e => exact Open.lasting

theorem turn_does {deadline : Nat} {messages : List (ChatMessage I)} {left : Nat}
    {reminded : Bool} :
    Does duty (Talking duty ⟨messages, [], left + 1, reminded⟩)
      (turn L duty deadline messages reminded) (AfterTurn duty left) := by
  rw [turn]
  refine .bind (stopped_does Talk.lasting) fun _ ↦
    .ite (fun _ ↦ .pure fun _ _ _ h ↦ h.1.isOpen) fun _ ↦ ?_
  refine .weaken ?_ fun _ _ _ h ↦ h.1
  refine .bind (isLate_does Talk.lasting) fun _ ↦ .ite (fun _ ↦ .pure fun _ _ _ h ↦ h.isOpen)
    fun _ ↦ .bind drainPending_does fun messages ↦ .bind (stopped_does Drained.lasting) fun b ↦
    .ite (fun _ ↦ .pure fun _ _ _ h ↦ h.1.1.isOpen) fun hb ↦ ?_
  let C : Knowledge I := fun log n b ↦
    Drained duty ⟨messages, [], left + 1, reminded⟩ log n b ∧ Free log
  have hC : Lasting C := Drained.lasting.and StepsSince.lasting
  refine .weaken (P := C) ?_ fun _ _ _ h ↦ ⟨h.1, h.2 (by simpa using hb)⟩
  refine .bind (R := fun calls log n b ↦ C log n b ∧ askedCount log = calls)
    (.look (fun _ _ h ↦ ⟨h.holds, h.agrees.calls.symm⟩)
      fun _ ↦ hC.and ⟨fun _ h ↦ h, fun _ h ↦ h⟩) fun calls ↦
    .ite (fun _ ↦ .pure fun _ _ _ h ↦ h.1.1.1.isOpen) fun hcalls ↦ ?_
  refine .weaken (.bind recordModelUsage_does fun refusal ↦ ?_)
    fun _ _ _ h ↦ ⟨h.1, h.2 ▸ Nat.lt_of_not_le hcalls⟩
  cases refusal with
  | some error => exact .pure fun _ _ _ ↦ id
  | none =>
    refine .bind chat_does fun r ↦ ?_
    cases r with
    | error e => exact .pure fun _ _ _ ↦ id
    | ok reply => exact follow_does

/-- The turns that are left end with the work. -/
theorem turns_does {deadline : Nat} {messages : List (ChatMessage I)} {left : Nat}
    {reminded : Bool} :
    Does duty (Talking duty ⟨messages, [], left, reminded⟩)
      (turns L duty deadline left messages reminded) fun _ log _ _ ↦ Open log := by
  induction left generalizing messages reminded with
  | zero => exact .pure fun _ _ _ h ↦ h.isOpen
  | succ left ih =>
    rw [turns]
    refine .bind turn_does fun t ↦ ?_
    cases t with
    | next messages reminded => exact ih
    | ended e => exact .pure fun _ _ _ ↦ id

/-- A worker that has begun nothing. -/
structure Untouched (log : List (Deed I)) : Prop where
  isOpen : Open log
  talk : transcript log = []
  owes : owed log = []
  asked : askedCount log = 0
  fresh : ∀ message, .nudged message ∉ log

theorem Untouched.lasting : Lasting fun (log : List (Deed I)) _ _ ↦ Untouched log where
  stop {log n b} hstop h :=
    ⟨Open.lasting.stop (n := n) (b := b) hstop h.isOpen, by simpa [transcript, spoken] using h.talk,
      h.owes, h.asked, fun message hmem ↦ h.fresh message (by simpa using hmem)⟩
  sent {log n b} message h :=
    ⟨Open.lasting.sent (n := n) (b := b) message h.isOpen,
      by simpa [transcript, spoken] using h.talk, h.owes, h.asked,
      fun message hmem ↦ h.fresh message (by simpa using hmem)⟩

theorem buildMessages_does :
    Does duty (fun log _ _ ↦ Untouched log) (buildMessages L duty) fun messages ↦
      Talking duty (I := I) ⟨messages, [], duty.turnBudget, false⟩ := by
  refine .deed (d := fun x _ ↦ .began (firstMessages L duty x.materialized x.appends))
    (fun _ _ ↦ rfl) (fun x s h ↦ h.agrees.note rfl)
    (fun x s h ↦ ⟨h.holds.isOpen, h.holds.talk, h.holds.owes, ?_⟩) (fun x s h ↦ ?_)
    fun _ ↦ Talk.lasting
  · intro message hmem
    simp only [firstMessages, List.mem_cons, List.not_mem_nil, or_false] at hmem
    rcases hmem with rfl | rfl <;> rfl
  exact
    { isOpen := h.holds.isOpen.cons (fun _ heq ↦ by cases heq) fun _ heq ↦ by cases heq
      talk := by rw [transcript, h.holds.talk, List.nil_append]; rfl
      owes := h.holds.owes
      room := by
        change askedCount s.log + duty.turnBudget ≤ duty.turnBudget
        rw [h.holds.asked, Nat.zero_add]
      fresh := fun _ message hmem ↦ h.holds.fresh message (by simpa using hmem) }

theorem loop_does : Does duty (fun log _ _ ↦ Untouched log) (loop L duty (I := I))
    fun _ log _ _ ↦ Open log := by
  rw [loop]
  refine .bind buildMessages_does fun messages ↦
    .bind (.look (fun _ _ h ↦ h.holds) fun _ ↦ Talk.lasting) fun deadline ↦
    .bind turns_does fun ended ↦ .bind (stopped_does Open.lasting) fun b ↦
    .ite (fun _ ↦ .pure fun _ _ _ h ↦ h.1) fun _ ↦ .pure fun _ _ _ h ↦ h.1

end Conversation

/-! ## The whole run -/

section Run

variable {L : Libraries} {duty : Duty} {log : List (Deed I)} {s : WorkerState I}

theorem setError_does {P : Knowledge I} {error : Text} (hP : Lasting P) :
    Does duty P (setError error) fun _ ↦ P :=
  .change (f := fun _ s ↦ ((), { s with error := some error })) (fun _ _ ↦ rfl)
    (fun _ _ h ↦ { h.agrees with }) (fun _ _ h ↦ h.holds) fun _ ↦ hP

/-- Whatever is caught, the work goes on from an open log. -/
theorem Does.tryCatch {α : Type} {P : Knowledge I} {Q : α → Knowledge I} {m : Work I α}
    {g : Text → Work I α} (h : Does duty P m Q)
    (hg : ∀ e, Does duty (fun log _ _ ↦ Open log) (g e) Q) :
    Does duty P (tryCatchThe Text m g) Q :=
  Method.Meets.tryCatch h (fun _ _ ↦ id) hg

theorem work_does : Does duty (fun log _ _ ↦ Untouched log) (work L duty (I := I))
    fun _ log _ _ ↦ Open log :=
  .tryCatch (.bind loop_does fun _ ↦ .pure fun _ _ _ ↦ id) fun _ ↦
    .bind (setError_does Open.lasting) fun _ ↦ .pure fun _ _ _ ↦ id

theorem unclosed_lasting : Lasting fun (log : List (Deed I)) _ _ ↦ ¬Closed log where
  stop _ h hc := h (hc.of_cons fun _ heq ↦ by cases heq)
  sent _ h hc := h (hc.of_cons fun _ heq ↦ by cases heq)

/-- A result is submitted by a worker that was not asked to stop. -/
theorem submitResult_does {content error : Option Text} :
    Does duty (fun log _ _ ↦ Open log ∧ Free log) (submitResult duty content error (I := I))
      fun _ log _ _ ↦ ¬Closed log := by
  have hlasting : Lasting fun (log : List (Deed I)) _ _ ↦ Open log ∧ Free log :=
    Open.lasting.and StepsSince.lasting
  rw [submitResult]
  refine .bind (R := fun _ log _ _ ↦ Open log ∧ Free log) (.look (fun _ _ h ↦ h.holds)
    fun _ ↦ hlasting) fun published ↦ ?_
  cases ApiAgent.submitResult I duty.unit published content error with
  | error e => exact .throw fun _ _ _ h ↦ h.1
  | ok result =>
    refine .deed (d := fun _ _ ↦ .submitted result) (fun _ _ ↦ rfl) (fun x s h ↦ ?_)
      (fun x s h ↦ h.holds) (fun x s h ↦ ?_) fun _ ↦ unclosed_lasting
    · exact { h.agrees.note (d := .submitted result) rfl with }
    · exact fun hc ↦ h.holds.1.unclosed (hc.of_cons fun _ heq ↦ by cases heq)

theorem attend_does : Does duty (fun log _ _ ↦ Untouched log) (attend L duty (I := I))
    fun _ log _ _ ↦ ¬Closed log := by
  rw [attend]
  refine .bind (R := fun _ log _ _ ↦ Untouched log) ?_ fun _ ↦
    .bind (stopped_does Untouched.lasting) fun _ ↦
    .ite (fun _ ↦ .pure fun _ _ _ h ↦ h.1.isOpen.unclosed) fun _ ↦ ?_
  · refine Method.Meets.section (fun x s h ↦ ⟨⟨.refl, h.agrees⟩, ?_⟩)
      (Outcome.stable fun _ ↦ Untouched.lasting)
    cases x.raises with
    | some e => exact ⟨h.agrees, h.holds.isOpen⟩
    | none => exact ⟨h.agrees, h.holds⟩
  · refine .bind (work_does.weaken fun _ _ _ h ↦ h.1) fun _ ↦
      .bind (stopped_does Open.lasting) fun b ↦
      .ite (fun _ ↦ .pure fun _ _ _ h ↦ h.1.unclosed) fun hb ↦ ?_
    exact submitResult_does.weaken fun _ _ _ h ↦ ⟨h.1, h.2 (by simpa using hb)⟩

theorem carryOut_does : Does duty (fun log _ _ ↦ Untouched log) (carryOut L duty (I := I))
    fun _ log _ _ ↦ ¬Closed log := by
  rw [carryOut]
  cases duty.missingAuth with
  | some missing => exact .throw fun _ _ _ h ↦ h.isOpen
  | none => exact attend_does

/-- The work is over, and nothing of it is done any more. -/
theorem close_does : Does duty (fun log _ _ ↦ ¬Closed log) (close (I := I)) fun _ log _ _ ↦
    ∃ finishedWrites, latest log = some (.closed finishedWrites) := by
  refine .deed (d := fun _ s ↦ .closed (!s.record.sandboxExitUnconfirmed)) (fun _ _ ↦ rfl)
    (fun x s h ↦ ?_) (fun x s h ↦ ⟨h.holds, fun hfinished ↦ ?_⟩) (fun x s h ↦ ⟨_, rfl⟩)
    fun _ ↦ ⟨fun _ h ↦ h, fun _ h ↦ h⟩
  · exact
      { stop := h.agrees.stop.trans (by simp)
        calls := h.agrees.calls
        numbers := fun number act hmem ↦ h.agrees.numbers number act (by simpa using hmem)
        sandbox := h.agrees.sandbox
        inbox := h.agrees.inbox
        quiet := fun _ ↦ ⟨_, List.mem_cons_self⟩ }
  · exact h.agrees.sandbox (by simpa using hfinished)

theorem Closed.of_latest (h : ∃ finishedWrites, latest log = some (.closed finishedWrites)) :
    Closed log := by
  obtain ⟨b, hb⟩ := h
  induction log with
  | nil => cases hb
  | cons d log ih =>
    cases d with
    | stopRequested => exact (ih hb).cons
    | sent message => exact (ih hb).cons
    | closed b' => exact ⟨b', List.mem_cons_self⟩
    | _ => cases hb

/-- A part of the work that keeps the protocol and never raises. -/
def Surely {α : Type} (duty : Duty) (P : Knowledge I) (body : Work I α) (Q : α → Knowledge I) :
    Prop :=
  Method.Meets Disturbed (Guarantees duty) (fun r s ↦ ∃ a, r = .ok a ∧ Knows (Q a) s) (Knows P) body

namespace Surely

variable {α β : Type} {P : Knowledge I} {Q : α → Knowledge I} {R : β → Knowledge I}

theorem of_does {f : Observation I → WorkerState I → Except Text α × WorkerState I}
    (h : Does duty P (.attempt f) Q) (hok : ∀ x s, ∃ a, (f x s).1 = .ok a) :
    Surely duty P (.attempt f) Q := by
  cases h with
  | act B moves holds stable next =>
    refine .act B moves holds stable fun x s hs ↦ .done fun t ht ↦ ?_
    have hnext := next x s hs
    cases hnext with
    | done answer =>
      have hanswer := answer t ht
      obtain ⟨a, ha⟩ := hok x s
      rw [ha] at hanswer
      exact ⟨a, ha, hanswer⟩

theorem bind {m : Work I β} {f : β → Work I α} (h : Surely duty P m R)
    (hf : ∀ b, Surely duty (R b) (f b) Q) : Surely duty P (m >>= f) Q := by
  refine Method.Meets.bind h (fun b ↦ ?_) ?_
  · refine (hf b).weaken fun s hs ↦ ?_
    obtain ⟨b', hb', hs⟩ := hs
    obtain rfl := Except.ok.inj hb'
    exact hs
  · rintro e s ⟨b, hb, -⟩
    cases hb

theorem weaken {P' : Knowledge I} {body : Work I α} (h : Surely duty P body Q)
    (hP : ∀ log n b, P' log n b → P log n b) : Surely duty P' body Q :=
  Method.Meets.weaken h fun _ hs ↦ ⟨hs.agrees, hP _ _ _ hs.holds⟩

theorem pure {a : α} (h : ∀ log n b, P log n b → Q a log n b) :
    Surely duty P (Pure.pure a : Work I α) Q :=
  Method.Meets.pure fun _ hs ↦ ⟨a, rfl, hs.agrees, h _ _ _ hs.holds⟩

/-- Whatever raises is caught. -/
theorem tryCatch {m : Work I α} {g : Text → Work I α} (h : Does duty P m Q)
    (hg : ∀ e, Surely duty (fun log _ _ ↦ Open log) (g e) Q) :
    Surely duty P (tryCatchThe Text m g) Q :=
  Method.Meets.tryCatch h (fun a _ hs ↦ ⟨a, rfl, hs⟩) hg

end Surely

/-- The end of the work: it is closed, and its exit is reported if there is a credential. -/
abbrev Over (duty : Duty) : Knowledge I := fun log _ _ ↦
  Closed log ∧ (duty.missingAuth = none → .exitReported ∈ log)

theorem Over.lasting : Lasting (Over duty (I := I)) :=
  ⟨fun _ h ↦ ⟨h.1.cons, fun hauth ↦ List.mem_cons_of_mem _ (h.2 hauth)⟩,
    fun _ h ↦ ⟨h.1.cons, fun hauth ↦ List.mem_cons_of_mem _ (h.2 hauth)⟩⟩

theorem finished_sandbox (error : Option Text) (r : ApiRecord) :
    (finished error r).sandboxExitUnconfirmed = r.sandboxExitUnconfirmed := by
  rw [finished]
  split <;> rfl

/-- The record of a closed work may say that nothing is written any more. -/
theorem finish_does : Does duty (Over duty) (finish (I := I)) fun _ ↦ Over duty := by
  refine .change (f := fun _ s ↦ ((), { s with record := finished s.error s.record }))
    (fun _ _ ↦ rfl) (fun x s h ↦ ?_) (fun x s h ↦ h.holds) fun _ ↦ Over.lasting
  exact { h.agrees with
    sandbox := fun hended ↦ h.agrees.sandbox ((finished_sandbox _ _).symm.trans hended)
    quiet := fun _ ↦ h.holds.1 }

theorem exit_does : Does duty (Over duty) (exit (I := I)) fun _ ↦ Over duty := by
  refine .change (f := fun _ s ↦ ((), { s with
    record := { s.record with thread := some false } })) (fun _ _ ↦ rfl) (fun x s h ↦ ?_)
    (fun x s h ↦ h.holds) fun _ ↦ Over.lasting
  exact { h.agrees with quiet := fun _ ↦ h.holds.1 }

theorem confirmExit_does :
    Does duty (fun log _ _ ↦ ∃ finishedWrites, latest log = some (.closed finishedWrites))
      (confirmExit (I := I)) fun _ ↦ Over duty := by
  refine .deed (d := fun _ _ ↦ .exitReported) (fun _ _ ↦ rfl) (fun x s h ↦ ?_)
    (fun x s h ↦ h.holds) (fun x s h ↦ ?_) fun _ ↦ Over.lasting
  · exact { h.agrees.note (d := .exitReported) rfl with }
  · exact ⟨(Closed.of_latest h.holds).cons, fun _ ↦ List.mem_cons_self⟩

/-- Whatever happens, the thread comes to its end: its work is closed, and its exit is reported. -/
theorem runWorker_surely : Surely duty (fun log _ _ ↦ Untouched log) (runWorker L duty (I := I))
    fun _ ↦ Over duty := by
  have hend : Surely duty (Over duty) (do finish; exit : Work I Unit) fun _ ↦ Over duty :=
    .bind (.of_does finish_does fun _ _ ↦ ⟨_, rfl⟩) fun _ ↦ .of_does exit_does fun _ _ ↦ ⟨_, rfl⟩
  have herror (e : Text) : Does duty (fun (log : List (Deed I)) _ _ ↦ Open log) (setError e)
      fun _ log _ _ ↦ ¬Closed log :=
    (setError_does Open.lasting).strengthen fun _ _ _ _ h ↦ h.unclosed
  rw [runWorker]
  refine .bind (.tryCatch carryOut_does fun e ↦ .of_does (herror e) fun _ _ ↦ ⟨_, rfl⟩) fun _ ↦
    .bind (.of_does close_does fun _ _ ↦ ⟨_, rfl⟩) fun _ ↦ ?_
  cases hauth : duty.missingAuth with
  | none => exact .bind (.of_does confirmExit_does fun _ _ ↦ ⟨_, rfl⟩) fun _ ↦ hend
  | some missing =>
    exact hend.weaken fun _ _ _ h ↦ ⟨.of_latest h, fun hnone ↦ by rw [hauth] at hnone; cases hnone⟩

theorem Untouched.nil : Untouched ([] : List (Deed I)) where
  isOpen := ⟨fun ⟨_, h⟩ ↦ (List.not_mem_nil h).elim, fun _ h ↦ (List.not_mem_nil h).elim⟩
  talk := rfl
  owes := rfl
  asked := rfl
  fresh _ h := (List.not_mem_nil h).elim

theorem Agrees.started (spec : RunSpec) :
    Agrees ({ record := Worker.started spec } : WorkerState I) where
  stop := by simp
  calls := rfl
  numbers _ _ h := (List.not_mem_nil h).elim
  sandbox _ := .inl ⟨rfl, rfl⟩
  inbox := rfl
  quiet h := by simp [Quiet, Worker.started] at h

/-- Others do what the worker relies on, and its log is empty at first. -/
theorem activity_guarded (L : Libraries) (duty : Duty) (spec : RunSpec) :
    (activity L duty spec (I := I)).Guarded Disturbed (Guarantees duty)
      (Knows fun log _ _ ↦ Untouched log) (fun r s ↦ ∃ a, r = .ok a ∧ Knows (Over duty) s) where
  init := ⟨.started spec, .nil⟩
  stable := Untouched.lasting.stable
  others d _ := ⟨d, rfl⟩
  meets := runWorker_surely

/-- At every moment, whatever others did in between, the log of a worker came in the order of the
protocol, and the state agrees with it. -/
theorem conduct_invariant (L : Libraries) (duty : Duty) (spec : RunSpec) :
    (activity L duty spec (I := I)).machine.Invariant (fun _ _ ↦ True) fun m ↦
      (Orderly (Follows duty) m.1.log ∧ Agrees m.1) ∧
        Activity.Goes Disturbed (Guarantees duty)
          (fun r s ↦ ∃ a, r = .ok a ∧ Knows (Over duty) s) m := by
  refine (activity_guarded L duty spec).invariant
    (P := fun s ↦ Orderly (Follows duty) s.log ∧ Agrees s) ⟨.nil, .started spec⟩
    (fun s t hs hguar ↦ ?_) fun s t hs hrely ↦ ?_
  · exact ⟨hguar.1.orderly hs.1, hguar.2⟩
  · obtain ⟨d, rfl⟩ := hrely
    refine ⟨?_, hs.2.disturb d⟩
    rcases disturb_log d s with hlog | ⟨hstop, hlog⟩ | ⟨message, hlog⟩
    · exact hlog ▸ hs.1
    · rw [hlog]
      refine .cons (fun hmem ↦ ?_) hs.1
      rw [hs.2.stop.mpr hmem] at hstop
      cases hstop
    · rw [hlog]
      exact .cons trivial hs.1

end Run

end Worker

end HibikiCore
