import HibikiCore.Runtime.Worker

/-!
# The log of a worker

A worker keeps a protocol towards the model, the broker and the Core, whatever these answer and
whatever others do to its record meanwhile. `Follows` says which deed may come next: that is the
whole protocol.

What a worker knows at some point of its work is an assertion about its log that survives what
others add to it. `Does` says of a part of the work that it adds to the log what may follow, if it
is begun with some knowledge, and what is known afterwards.
-/

namespace HibikiCore

namespace Worker

variable {I : Interpreter}

/-! ## Reading a log -/

/-- What a deed adds to the conversation. -/
def spoken : Deed I → List (ChatMessage I)
  | .began messages => messages
  | .drained messages => messages.map pendingMessage
  | .asked _ _ (.ok reply) => [reply.message]
  | .answered message => [message]
  | .nudged message => [message]
  | _ => []

/-- The conversation with the model, in its order. -/
def transcript : List (Deed I) → List (ChatMessage I)
  | [] => []
  | d :: log => transcript log ++ spoken d

/-- The tool calls of the last reply that have not been answered. -/
def owed : List (Deed I) → List (ToolCall I)
  | [] => []
  | .asked _ _ (.ok reply) :: _ => reply.toolCalls
  | .answered _ :: log => (owed log).tail
  | _ :: log => owed log

/-- How often the model was asked. -/
def askedCount : List (Deed I) → Nat
  | [] => 0
  | .asked _ _ _ :: log => askedCount log + 1
  | _ :: log => askedCount log

/-- The messages that others have sent, and those that were taken into the conversation. -/
def sentMessages : List (Deed I) → List ReplyObject
  | [] => []
  | .sent message :: log => sentMessages log ++ [message]
  | _ :: log => sentMessages log

def drainedMessages : List (Deed I) → List ReplyObject
  | [] => []
  | .drained messages :: log => drainedMessages log ++ messages
  | _ :: log => drainedMessages log

/-- The last thing that the worker itself has done. -/
def latest : List (Deed I) → Option (Deed I)
  | [] => none
  | .stopRequested :: log => latest log
  | .sent _ :: log => latest log
  | d :: _ => some d

/-- The number of the last tool request. -/
def currentRequest : List (Deed I) → Option Nat
  | [] => none
  | .tool number (.requested _) :: _ => some number
  | _ :: log => currentRequest log

/-- Whether the last sandbox has said that nothing of it is left alive. -/
def lastAnswer : List (Deed I) → Option Bool
  | [] => none
  | .tool _ (.executed _ confirmed) :: _ => some confirmed
  | _ :: log => lastAnswer log

/-- What the Core was asked to note since then: whether a sandbox has ended, and whether the Core has
taken it. -/
def lastReport : List (Deed I) → Option (Bool × Bool)
  | [] => none
  | .tool _ (.executed _ _) :: _ => none
  | .tool _ (.identified _ confirmed taken) :: _ => some (confirmed, taken)
  | _ :: log => lastReport log

/-- What the Core has taken last: whether a sandbox has ended. -/
def lastTaken : List (Deed I) → Option Bool
  | [] => none
  | .tool _ (.identified _ confirmed true) :: _ => some confirmed
  | _ :: log => lastTaken log

/-- No sandbox was started, or the last one has said that it has ended and the Core was asked to note
it. -/
def SandboxEnded (log : List (Deed I)) : Prop :=
  (lastAnswer log = none ∧ lastReport log = none) ∨
    (lastAnswer log = some true ∧ ∃ taken, lastReport log = some (true, taken))

/-- What a worker does for others is done in steps: a call of the model with its accounting, a tool
call with all that it takes, and the submission of a result. -/
inductive Step
  | call (number : Nat)
  | tool (number : Nat)
  | submission
  deriving DecidableEq, Repr

def step : Deed I → Option Step
  | .accounted number _ => some (.call number)
  | .asked number _ _ => some (.call number)
  | .tool number _ => some (.tool number)
  | .submitted _ => some .submission
  | _ => none

/-- Since the worker was asked to stop, if it was, it has taken only some steps. -/
def StepsSince (allowed : Step → Prop) (log : List (Deed I)) : Prop :=
  ∀ newer older, log = newer ++ .stopRequested :: older → ∀ d ∈ newer, ∀ k, step d = some k →
    allowed k

/-- The work is over. -/
def Closed (log : List (Deed I)) : Prop := ∃ finishedWrites, .closed finishedWrites ∈ log

/-- The work is not over, and no result was submitted. -/
structure Open (log : List (Deed I)) : Prop where
  unclosed : ¬Closed log
  unsubmitted : ∀ result, .submitted result ∉ log

/-! ## The protocol -/

/-- A message answers a tool call. -/
structure Answers (message : ChatMessage I) (call : ToolCall I) : Prop where
  role : message.role = "tool".toList
  plain : message.toolCalls = []
  id : (call.members.get "id").truthy = true →
    message.toolCallId = some (I.str (call.members.get "id"))

/-- What may follow a log. -/
def Follows (duty : Duty) : Deed I → List (Deed I) → Prop
  | .stopRequested, log => .stopRequested ∉ log
  | .sent _, _ => True
  | .began messages, log => Open log ∧ transcript log = [] ∧ owed log = [] ∧
      ∀ message ∈ messages, message.toolCalls = []
  | .drained _, log => Open log ∧ owed log = []
  | .answered message, log => Open log ∧ ∃ call calls, owed log = call :: calls ∧
      Answers message call
  | .nudged message, log => Open log ∧ owed log = [] ∧ message.toolCalls = [] ∧
      ∀ earlier, .nudged earlier ∉ log
  | .accounted number _, log => Open log ∧ StepsSince (· = .call number) log ∧ owed log = [] ∧
      number = askedCount log + 1 ∧ number ≤ min duty.turnBudget duty.callBudget ∧
      ∀ earlier, latest log ≠ some (.accounted earlier true)
  | .asked number conversation _, log => Open log ∧ StepsSince (· = .call number) log ∧
      latest log = some (.accounted number true) ∧ number = askedCount log + 1 ∧
      owed log = [] ∧ conversation = transcript log
  | .tool number act, log => Open log ∧ StepsSince (· = .tool number) log ∧
      match act with
      | .requested request => request.sequenceNo = number ∧ request.runId = duty.runId ∧
          ∀ earlier act, .tool earlier act ∈ log → earlier < number
      | _ => currentRequest log = some number
  | .submitted _, log => Open log ∧ StepsSince (fun _ ↦ False) log
  | .closed finishedWrites, log => ¬Closed log ∧ (finishedWrites = true → SandboxEnded log)
  | .exitReported, log => ∃ finishedWrites, latest log = some (.closed finishedWrites)

/-! ## What others do -/

section Others

variable {s t : WorkerState I} {log : List (Deed I)}

/-- A record says that nothing is written any more. -/
def Quiet (r : ApiRecord) : Prop :=
  r.finishedWrites = true ∨ r.writerAlive = false ∨ r.thread ≠ some true

/-- The state agrees with the log. -/
structure Agrees (s : WorkerState I) : Prop where
  stop : s.stopEvent = true ↔ .stopRequested ∈ s.log
  calls : s.modelCalls = askedCount s.log
  numbers : ∀ number act, .tool number act ∈ s.log → number ≤ s.toolSeq
  sandbox : s.record.sandboxExitUnconfirmed = false → SandboxEnded s.log
  inbox : sentMessages s.log = drainedMessages s.log ++ s.pendingMessages
  quiet : Quiet s.record → Closed s.log

/-- What another thread does in one step. -/
def Disturbed (s t : WorkerState I) : Prop := ∃ d, t = disturb d s

theorem Closed.cons {d : Deed I} (h : Closed log) : Closed (d :: log) :=
  h.imp fun _ hmem ↦ List.mem_cons_of_mem _ hmem

theorem Closed.of_cons {d : Deed I} (hd : ∀ b, d ≠ .closed b) (h : Closed (d :: log)) :
    Closed log := by
  obtain ⟨b, hmem⟩ := h
  rcases List.mem_cons.mp hmem with heq | hmem
  · exact absurd heq.symm (hd b)
  · exact ⟨b, hmem⟩

theorem requestStop_quiet {reason : String} {own : Bool} {r : ApiRecord}
    (h : Quiet (requestStop reason own r)) : Quiet r := by
  rw [requestStop] at h
  split at h
  · next hitself =>
    simp only [ApiState.stopsItself, Bool.and_eq_true] at hitself
    exact .inl hitself.2
  · exact h

theorem finishStop_quiet {r : ApiRecord} (h : Quiet (finishStop r)) : Quiet r := by
  rw [finishStop] at h
  split at h
  · rcases h with h | h | h
    · exact .inl h
    · cases h
    · exact .inr (.inr h)
  · rcases h with h | h | h
    · exact .inl h
    · rw [Bool.and_eq_false_iff] at h
      rcases h with h | h
      · exact .inr (.inr (by simpa using h))
      · exact .inl (by simpa using h)
    · exact .inr (.inr h)

theorem requestStop_sandbox (reason : String) (own : Bool) (r : ApiRecord) :
    (requestStop reason own r).sandboxExitUnconfirmed = r.sandboxExitUnconfirmed := by
  rw [requestStop]
  split
  · rw [ApiState.stopFromWithin]
    split <;> rfl
  · rfl

theorem finishStop_sandbox (r : ApiRecord) :
    (finishStop r).sandboxExitUnconfirmed = r.sandboxExitUnconfirmed := by
  rw [finishStop]
  split <;> rfl

/-- Others add at most a mark to the log. -/
theorem disturb_log (d : Disturbance) (s : WorkerState I) :
    (disturb d s).log = s.log ∨
      (s.stopEvent = false ∧ (disturb d s).log = .stopRequested :: s.log) ∨
      ∃ message, (disturb d s).log = .sent message :: s.log := by
  cases d with
  | send message => exact .inr (.inr ⟨message, rfl⟩)
  | requestStop reason own =>
    cases hstop : s.stopEvent with
    | true => exact .inl (by rw [disturb, hstop]; rfl)
    | false => exact .inr (.inl ⟨rfl, by rw [disturb, hstop]; rfl⟩)
  | finishStop => exact .inl rfl

theorem disturb_toolSeq (d : Disturbance) (s : WorkerState I) :
    (disturb d s).toolSeq = s.toolSeq := by
  cases d <;> rfl

theorem disturb_sandbox (d : Disturbance) (s : WorkerState I) :
    (disturb d s).record.sandboxExitUnconfirmed = s.record.sandboxExitUnconfirmed := by
  cases d with
  | send message => rfl
  | requestStop reason own => exact requestStop_sandbox reason own s.record
  | finishStop => exact finishStop_sandbox s.record

theorem Agrees.disturb (h : Agrees s) (d : Disturbance) : Agrees (disturb d s) := by
  cases d with
  | send message =>
    refine ⟨?_, h.calls, ?_, h.sandbox, ?_, fun hq ↦ (h.quiet hq).cons⟩
    · exact h.stop.trans (by simp [Worker.disturb])
    · intro number act hmem
      exact h.numbers number act (by simpa [Worker.disturb] using hmem)
    · change sentMessages s.log ++ [message] =
        drainedMessages s.log ++ (s.pendingMessages ++ [message])
      rw [h.inbox, List.append_assoc]
  | requestStop reason own =>
    have hsandbox := requestStop_sandbox reason own s.record
    cases hstop : s.stopEvent with
    | true =>
      refine ⟨?_, ?_, ?_, ?_, ?_, ?_⟩ <;> simp only [Worker.disturb, hstop, if_true]
      · exact iff_of_true trivial (h.stop.mp hstop)
      · exact h.calls
      · exact h.numbers
      · exact fun hended ↦ h.sandbox (hsandbox.symm.trans hended)
      · exact h.inbox
      · exact fun hq ↦ h.quiet (requestStop_quiet hq)
    | false =>
      refine ⟨?_, ?_, ?_, ?_, ?_, ?_⟩ <;>
        simp only [Worker.disturb, hstop, Bool.false_eq_true, if_false]
      · simp
      · exact h.calls
      · intro number act hmem
        exact h.numbers number act (by simpa using hmem)
      · exact fun hended ↦ h.sandbox (hsandbox.symm.trans hended)
      · exact h.inbox
      · exact fun hq ↦ (h.quiet (requestStop_quiet hq)).cons
  | finishStop =>
    exact ⟨h.stop, h.calls, h.numbers,
      fun hended ↦ h.sandbox ((finishStop_sandbox _).symm.trans hended), h.inbox,
      fun hq ↦ h.quiet (finishStop_quiet hq)⟩

end Others

/-! ## Knowing -/

section Knowing

variable {α β : Type} {duty : Duty} {s t : WorkerState I}

/-- An assertion about the log, the number of the last tool call, and whether a sandbox may be
alive. -/
abbrev Knowledge (I : Interpreter) := List (Deed I) → Nat → Bool → Prop

/-- The state agrees with the log, and an assertion holds of the log. -/
structure Knows (P : Knowledge I) (s : WorkerState I) : Prop where
  agrees : Agrees s
  holds : P s.log s.toolSeq s.record.sandboxExitUnconfirmed

/-- An assertion survives what others add to the log. -/
structure Lasting (P : Knowledge I) : Prop where
  stop : ∀ {log n b}, .stopRequested ∉ log → P log n b → P (.stopRequested :: log) n b
  sent : ∀ {log n b} message, P log n b → P (.sent message :: log) n b

variable {P P' : Knowledge I} {Q Q' : α → Knowledge I} {R : β → Knowledge I}

theorem Lasting.and (h : Lasting P) (h' : Lasting P') :
    Lasting fun log n b ↦ P log n b ∧ P' log n b where
  stop hstop hP := ⟨h.stop hstop hP.1, h'.stop hstop hP.2⟩
  sent message hP := ⟨h.sent message hP.1, h'.sent message hP.2⟩

theorem Lasting.stable (h : Lasting P) : Method.Stable Disturbed (Knows P) := by
  rintro s t hs ⟨d, rfl⟩
  refine ⟨hs.agrees.disturb d, ?_⟩
  rw [disturb_toolSeq, disturb_sandbox]
  rcases disturb_log d s with hlog | ⟨hstop, hlog⟩ | ⟨message, hlog⟩
  · rw [hlog]
    exact hs.holds
  · rw [hlog]
    refine h.stop (fun hmem ↦ ?_) hs.holds
    rw [hs.agrees.stop.mpr hmem] at hstop
    cases hstop
  · rw [hlog]
    exact h.sent message hs.holds

/-- What a section of the worker does: it adds to the log what may follow. -/
def Guarantees (duty : Duty) (s t : WorkerState I) : Prop :=
  Extends (Follows duty) s.log t.log ∧ Agrees t

/-- What is known when the work goes on, and when it raises. -/
def Outcome (Q : α → Knowledge I) : Except Text α → WorkerState I → Prop
  | .ok a => Knows (Q a)
  | .error _ => Knows fun log _ _ ↦ Open log

/-- A part of the work keeps the protocol, if it is begun with some knowledge. -/
def Does (duty : Duty) (P : Knowledge I) (body : Work I α) (Q : α → Knowledge I) : Prop :=
  Method.Meets Disturbed (Guarantees duty) (Outcome Q) (Knows P) body

theorem Open.lasting : Lasting fun (log : List (Deed I)) _ _ ↦ Open log where
  stop _ h := ⟨fun hclosed ↦ h.unclosed (hclosed.of_cons fun _ heq ↦ by cases heq),
    fun result hmem ↦ h.unsubmitted result (by simpa using hmem)⟩
  sent _ h := ⟨fun hclosed ↦ h.unclosed (hclosed.of_cons fun _ heq ↦ by cases heq),
    fun result hmem ↦ h.unsubmitted result (by simpa using hmem)⟩

theorem Outcome.stable (h : ∀ a, Lasting (Q a)) (r : Except Text α) :
    Method.Stable Disturbed (Outcome Q r) := by
  cases r with
  | ok a => exact (h a).stable
  | error e => exact Open.lasting.stable

namespace Does

theorem weaken {body : Work I α} (h : Does duty P body Q) (hP : ∀ log n b, P' log n b → P log n b) :
    Does duty P' body Q :=
  Method.Meets.weaken h fun _ hs ↦ ⟨hs.agrees, hP _ _ _ hs.holds⟩

theorem strengthen {body : Work I α} (h : Does duty P body Q)
    (hQ : ∀ a log n b, Q a log n b → Q' a log n b) : Does duty P body Q' := by
  refine Method.Meets.mono h (fun _ _ ↦ id) fun r s hs ↦ ?_
  cases r with
  | ok a => exact ⟨hs.agrees, hQ a _ _ _ hs.holds⟩
  | error e => exact hs

theorem pure {a : α} (h : ∀ log n b, P log n b → Q a log n b) :
    Does duty P (Pure.pure a : Work I α) Q :=
  Method.Meets.pure fun _ hs ↦ ⟨hs.agrees, h _ _ _ hs.holds⟩

theorem bind {m : Work I β} {f : β → Work I α} (h : Does duty P m R)
    (hf : ∀ b, Does duty (R b) (f b) Q) : Does duty P (m >>= f) Q :=
  Method.Meets.bind h hf fun _ _ hs ↦ hs

theorem throw {e : Text} (h : ∀ log n b, P log n b → Open log) :
    Does duty P (throwThe Text e : Work I α) Q :=
  .done fun _ hs ↦ ⟨hs.agrees, h _ _ _ hs.holds⟩

theorem ite {c : Prop} [Decidable c] {m m' : Work I α} (h : c → Does duty P m Q)
    (h' : ¬c → Does duty P m' Q) : Does duty P (if c then m else m') Q := by
  split
  · next hc => exact h hc
  · next hc => exact h' hc

/-- A section that only looks. -/
theorem look {f : Observation I → WorkerState I → α}
    (h : ∀ x s, Knows P s → Q (f x s) s.log s.toolSeq s.record.sandboxExitUnconfirmed)
    (hQ : ∀ a, Lasting (Q a)) :
    Does duty P (Worker.look f) Q :=
  Method.Meets.section
    (fun x s hs ↦ ⟨⟨.refl, hs.agrees⟩, ⟨hs.agrees, h x s hs⟩⟩) (Outcome.stable hQ)

/-- A section that changes the state and adds nothing to the log. -/
theorem change {f : Observation I → WorkerState I → α × WorkerState I}
    (hlog : ∀ x s, (f x s).2.log = s.log) (hagrees : ∀ x s, Knows P s → Agrees (f x s).2)
    (hpost : ∀ x s, Knows P s →
      Q (f x s).1 s.log (f x s).2.toolSeq (f x s).2.record.sandboxExitUnconfirmed)
    (hQ : ∀ a, Lasting (Q a)) :
    Does duty P (.attempt fun x s ↦ (.ok (f x s).1, (f x s).2)) Q := by
  refine Method.Meets.section (fun x s hs ↦ ?_) (Outcome.stable hQ)
  have hpost' := hpost x s hs
  rw [← hlog x s] at hpost'
  exact ⟨⟨hlog x s ▸ .refl, hagrees x s hs⟩, hagrees x s hs, hpost'⟩

/-- A section that adds one deed to the log. -/
theorem deed {f : Observation I → WorkerState I → Except Text α × WorkerState I}
    {d : Observation I → WorkerState I → Deed I}
    (hlog : ∀ x s, (f x s).2.log = d x s :: s.log)
    (hagrees : ∀ x s, Knows P s → Agrees (f x s).2)
    (hfollows : ∀ x s, Knows P s → Follows duty (d x s) s.log)
    (hpost : ∀ x s, Knows P s → match (f x s).1 with
      | .ok a => Q a (f x s).2.log (f x s).2.toolSeq (f x s).2.record.sandboxExitUnconfirmed
      | .error _ => Open (f x s).2.log)
    (hQ : ∀ a, Lasting (Q a)) : Does duty P (.attempt f) Q := by
  refine Method.Meets.section (fun x s hs ↦ ?_) (Outcome.stable hQ)
  have hpost' := hpost x s hs
  refine ⟨⟨hlog x s ▸ .single (hfollows x s hs), hagrees x s hs⟩, ?_⟩
  cases hr : (f x s).1 with
  | ok a =>
    rw [hr] at hpost'
    exact ⟨hagrees x s hs, hpost'⟩
  | error e =>
    rw [hr] at hpost'
    exact ⟨hagrees x s hs, hpost'⟩

end Does

/-! ## Assertions -/

/-- Where a worker is: what the conversation is, which calls are to be answered, how many turns are
left, and whether it was reminded to publish. -/
structure Point (I : Interpreter) where
  messages : List (ChatMessage I)
  calls : List (ToolCall I)
  left : Nat
  reminded : Bool

structure Talk (duty : Duty) (p : Point I) (log : List (Deed I)) : Prop where
  isOpen : Open log
  talk : transcript log = p.messages
  owes : owed log = p.calls
  room : askedCount log + p.left ≤ duty.turnBudget
  fresh : p.reminded = false → ∀ message, .nudged message ∉ log

/-- Nothing was done for others since the worker was asked to stop. -/
abbrev Free (log : List (Deed I)) : Prop := StepsSince (fun _ ↦ False) log

theorem StepsSince.mono {K K' : Step → Prop} {log : List (Deed I)} (h : StepsSince K log)
    (hK : ∀ k, K k → K' k) : StepsSince K' log :=
  fun newer older heq d hd k hk ↦ hK k (h newer older heq d hd k hk)

theorem StepsSince.of_unstopped {K : Step → Prop} {log : List (Deed I)}
    (h : .stopRequested ∉ log) : StepsSince K log := by
  rintro newer older rfl
  exact absurd (List.mem_append_right newer List.mem_cons_self) h

/-- A deed that is no step, or an allowed one. -/
theorem StepsSince.cons {K : Step → Prop} {log : List (Deed I)} {d : Deed I}
    (h : StepsSince K log) (hd : ∀ k, step d = some k → K k) : StepsSince K (d :: log) := by
  intro newer older heq d' hd' k hk
  cases newer with
  | nil => cases hd'
  | cons first newer =>
    obtain ⟨hfirst, hrest⟩ := List.cons.inj heq
    rcases List.mem_cons.mp hd' with rfl | hd'
    · exact hd k (hfirst ▸ hk)
    · exact h newer older hrest d' hd' k hk

theorem StepsSince.lasting {K : Nat → Step → Prop} :
    Lasting fun (log : List (Deed I)) n _ ↦ StepsSince (K n) log where
  stop _ h := h.cons fun k hk ↦ by cases hk
  sent _ h := h.cons fun k hk ↦ by cases hk

theorem Talk.lasting {p : Point I} : Lasting fun log _ _ ↦ Talk duty p log where
  stop hstop h :=
    { isOpen := Open.lasting.stop (n := 0) (b := false) hstop h.isOpen
      talk := by simpa [transcript, spoken] using h.talk
      owes := h.owes
      room := h.room
      fresh := fun hfresh message hmem ↦ h.fresh hfresh message (by simpa using hmem) }
  sent message h :=
    { isOpen := Open.lasting.sent (n := 0) (b := false) message h.isOpen
      talk := by simpa [transcript, spoken] using h.talk
      owes := h.owes
      room := h.room
      fresh := fun hfresh message hmem ↦ h.fresh hfresh message (by simpa using hmem) }

/-- The next tool call may be begun. -/
abbrev Ready (duty : Duty) (p : Point I) : Knowledge I := fun log _ _ ↦ Talk duty p log ∧ Free log

/-- A tool call has its number, and was not requested. -/
abbrev Numbered (duty : Duty) (p : Point I) : Knowledge I := fun log n b ↦
  Ready duty p log n b ∧ ∀ earlier act, .tool earlier act ∈ log → earlier < n

/-- A tool call was requested. -/
abbrev Calling (duty : Duty) (p : Point I) : Knowledge I := fun log n _ ↦
  Talk duty p log ∧ StepsSince (· = .tool n) log ∧ currentRequest log = some n

/-- The conversation goes on. -/
abbrev Talking (duty : Duty) (p : Point I) : Knowledge I := fun log _ _ ↦ Talk duty p log

variable {p : Point I} {log : List (Deed I)} {n : Nat} {b : Bool}

theorem Ready.lasting : Lasting (Ready duty p) := Talk.lasting.and StepsSince.lasting

theorem Calling.lasting : Lasting (Calling duty p) :=
  Talk.lasting.and (StepsSince.lasting.and ⟨fun _ h ↦ h, fun _ h ↦ h⟩)

theorem Numbered.lasting : Lasting (Numbered duty p) :=
  Ready.lasting.and
    ⟨fun _ h earlier act hmem ↦ h earlier act (by simpa using hmem),
      fun _ h earlier act hmem ↦ h earlier act (by simpa using hmem)⟩

theorem Open.cons {d : Deed I} (h : Open log) (hclosed : ∀ b, d ≠ .closed b)
    (hsubmitted : ∀ r, d ≠ .submitted r) : Open (d :: log) where
  unclosed hc := h.unclosed (hc.of_cons hclosed)
  unsubmitted r hmem := by
    rcases List.mem_cons.mp hmem with heq | hmem
    · exact hsubmitted r heq.symm
    · exact h.unsubmitted r hmem

/-- What is done in a tool call does not touch the conversation. -/
theorem Talk.tool {act : ToolAct} (h : Talk duty p log) : Talk duty p (.tool n act :: log) where
  isOpen := h.isOpen.cons (fun _ heq ↦ by cases heq) fun _ heq ↦ by cases heq
  talk := by simpa [transcript, spoken] using h.talk
  owes := h.owes
  room := h.room
  fresh hfresh message hmem := h.fresh hfresh message (by simpa using hmem)

/-- Something is done with a sandbox. -/
def usesSandbox : ToolAct → Bool
  | .identified _ _ _ | .executed _ _ => true
  | _ => false

/-- A deed of the current tool call agrees with the state, if nothing is done with a sandbox that is
not marked as one that may be alive. -/
theorem Agrees.tool {act : ToolAct} (h : Agrees s)
    (huses : usesSandbox act = true → s.record.sandboxExitUnconfirmed = true) :
    Agrees { s with log := .tool s.toolSeq act :: s.log } where
  stop := h.stop.trans (by simp)
  calls := h.calls
  numbers number act' hmem := by
    rcases List.mem_cons.mp hmem with heq | hmem
    · cases heq
      exact le_rfl
    · exact h.numbers number act' hmem
  sandbox hended := by
    have hunused : usesSandbox act = false := by
      cases huse : usesSandbox act with
      | false => rfl
      | true => exact nomatch hended.symm.trans (huses huse)
    cases act with
    | identified | executed => cases hunused
    | _ => exact h.sandbox hended
  inbox := h.inbox
  quiet hq := (h.quiet hq).cons

/-- Whatever belongs to the current tool call, other than its request, may be done once it was
requested. -/
theorem Calling.tool {act : ToolAct} (hact : ∀ request, act ≠ .requested request)
    (h : Calling duty p log n b) :
    Follows duty (.tool n act) log ∧ Calling duty p (.tool n act :: log) n b := by
  obtain ⟨htalk, hsince, hcurrent⟩ := h
  have hsince' : StepsSince (· = .tool n) (.tool n act :: log) :=
    hsince.cons fun k hk ↦ (Option.some.inj hk).symm
  cases act with
  | requested request => exact absurd rfl (hact request)
  | _ => exact ⟨⟨htalk.isOpen, hsince, hcurrent⟩, htalk.tool, hsince', hcurrent⟩

/-- The request of a tool call, under a number that none before had. -/
theorem Numbered.request (h : Numbered duty p log n b) (request : ToolRequest)
    (hnumber : request.sequenceNo = n) (hrun : request.runId = duty.runId) :
    Follows duty (.tool n (.requested request)) log ∧
      Calling duty p (.tool n (.requested request) :: log) n b := by
  obtain ⟨⟨htalk, hfree⟩, hfresh⟩ := h
  have hsince : StepsSince (· = .tool n) log := hfree.mono fun _ hk ↦ hk.elim
  exact ⟨⟨htalk.isOpen, hsince, hnumber, hrun, hfresh⟩, htalk.tool,
    hsince.cons fun k hk ↦ (Option.some.inj hk).symm, rfl⟩

end Knowing

end Worker

end HibikiCore
