import HibikiCore.Runtime.Conduct
import HibikiCore.Tools.Audit

/-!
# What a worker can be relied on for

The model is asked with complete conversations only, the Core has accounted for every call before
it is made, tool calls are numbered without repetition, a stop ends the work after the step that was
under way, and a record says that nothing is written any more only when this is so. All of it holds
at every moment of every run, whatever the model, the broker, the sandbox and the Core answer, and
whenever others stop the worker or send it messages.
-/

namespace HibikiCore

namespace Worker

variable {I : Interpreter} {L : Libraries} {duty : Duty} {spec : RunSpec} {log : List (Deed I)}
  {m m' : Activity.Moment (WorkerState I) (Observation I) (Except Text Unit)}

/-- A moment of a run. -/
abbrev Reached (L : Libraries) (duty : Duty) (spec : RunSpec)
    (m : Activity.Moment (WorkerState I) (Observation I) (Except Text Unit)) : Prop :=
  (activity L duty spec).machine.Reachable m

theorem Reached.orderly (h : Reached L duty spec m) : Orderly (Follows duty) m.1.log :=
  ((conduct_invariant L duty spec).of_reachable h).1.1

theorem Reached.agrees (h : Reached L duty spec m) : Agrees m.1 :=
  ((conduct_invariant L duty spec).of_reachable h).1.2

/-! ## A run -/

def sampleLibraries : Libraries where
  dumps _ := []
  decodeError _ := []
  dumpsCriteria _ := []
  canonical _ := some []
  splitCommand command := .ok [command]

def sampleService : Duty where
  runId := "run"
  taskId := "task"
  grantEpoch := 1
  fencingEpoch := 1
  unit := sampleDuty
  grantedTools := ["fs.list"]
  workspacePath := "/workspace".toList
  systemPrompt := []

/-- Nothing in particular is observed. -/
def sampleQuiet : Observation sampleDecoder where
  raises := none

/-- The model lists the workspace, and is done. -/
def sampleWork : List (Observation sampleDecoder ⊕ Disturbance) :=
  (List.replicate 10 sampleQuiet ++
    { sampleQuiet with reply := .ok ⟨none, sampleListing.toolCalls, none, [], []⟩ } ::
    List.replicate 12 sampleQuiet ++
    { sampleQuiet with reply := .ok ⟨some "Done.".toList, [], none, [], []⟩ } ::
    List.replicate 10 sampleQuiet).map .inl

/-- The worker is asked to stop when it is about to list the workspace. -/
def sampleHalted : List (Observation sampleDecoder ⊕ Disturbance) :=
  sampleWork.take 15 ++ .inr (.requestStop "pause" false) :: List.replicate 8 (.inl sampleQuiet)

abbrev SampleMoment :=
  Activity.Moment (WorkerState sampleDecoder) (Observation sampleDecoder) (Except Text Unit)

def sampleMoment (turns : List (Observation sampleDecoder ⊕ Disturbance)) : Option SampleMoment :=
  let activity := activity sampleLibraries sampleService { runId := "run" }
  activity.machine.exec activity.machine.init turns

/-- A moment of a run of the sample. -/
abbrev SampleReached (m : SampleMoment) : Prop :=
  Reached sampleLibraries sampleService { runId := "run" } m

/-- A moment that some turns lead to. -/
theorem sampleMoment_reached {α : Type} (turns : List (Observation sampleDecoder ⊕ Disturbance))
    (view : SampleMoment → α) (a : α) (h : (sampleMoment turns).map view = some a) :
    ∃ m, SampleReached m ∧ view m = a := by
  obtain ⟨m, hexec, hm⟩ := Option.map_eq_some_iff.mp h
  exact ⟨m, .of_exec hexec, hm⟩

/-! ## Conversations -/

/-- A conversation in which the calls of each message are answered right behind it, one after the
other, except for those that are still owed at its end. -/
inductive Owes : List (ChatMessage I) → List (ToolCall I) → Prop
  | nil : Owes [] []
  | other {conversation : List (ChatMessage I)} (message : ChatMessage I) :
      Owes conversation [] → Owes (conversation ++ [message]) message.toolCalls
  | answer {conversation : List (ChatMessage I)} {call : ToolCall I} {calls : List (ToolCall I)}
      (message : ChatMessage I) : Owes conversation (call :: calls) → Answers message call →
      Owes (conversation ++ [message]) calls

/-- Every call is answered. -/
abbrev Complete (conversation : List (ChatMessage I)) : Prop := Owes conversation []

/-- Messages that call nothing leave a conversation complete. -/
theorem Owes.plain {conversation messages : List (ChatMessage I)} (h : Complete conversation)
    (hplain : ∀ message ∈ messages, message.toolCalls = []) :
    Complete (conversation ++ messages) := by
  induction messages generalizing conversation with
  | nil => rwa [List.append_nil]
  | cons message messages ih =>
    obtain ⟨hfirst, hrest⟩ := List.forall_mem_cons.mp hplain
    rw [List.append_cons]
    have hnext := h.other message
    rw [hfirst] at hnext
    exact ih hnext hrest

/-- The transcript of an orderly log owes what the log says. -/
theorem owes_transcript (h : Orderly (Follows duty) log) : Owes (transcript log) (owed log) := by
  induction h with
  | nil => exact .nil
  | @cons d log entry _ ih =>
    cases d with
    | began messages =>
      obtain ⟨-, -, howed, hplain⟩ := entry
      change Owes (transcript log ++ messages) (owed log)
      rw [howed] at ih ⊢
      exact ih.plain hplain
    | drained messages =>
      obtain ⟨-, howed⟩ := entry
      change Owes (transcript log ++ messages.map pendingMessage) (owed log)
      rw [howed] at ih ⊢
      refine ih.plain fun message hmem ↦ ?_
      obtain ⟨raw, -, rfl⟩ := List.mem_map.mp hmem
      rfl
    | answered message =>
      obtain ⟨-, call, calls, howed, hanswers⟩ := entry
      change Owes (transcript log ++ [message]) (owed log).tail
      rw [howed] at ih ⊢
      exact ih.answer message hanswers
    | nudged message =>
      obtain ⟨-, howed, hplain, -⟩ := entry
      change Owes (transcript log ++ [message]) (owed log)
      rw [howed] at ih ⊢
      exact hplain ▸ ih.other message
    | asked number conversation reply =>
      obtain ⟨-, -, -, -, howed, -⟩ := entry
      cases reply with
      | ok reply =>
        change Owes (transcript log ++ [reply.message]) reply.toolCalls
        rw [howed] at ih
        exact ih.other reply.message
      | error e =>
        change Owes (transcript log ++ []) (owed log)
        rwa [List.append_nil]
    | _ =>
      change Owes (transcript log ++ []) (owed log)
      rwa [List.append_nil]

theorem transcript_prefix {newer : List (Deed I)} :
    transcript log <+: transcript (newer ++ log) := by
  induction newer with
  | nil => exact List.prefix_rfl
  | cons d newer ih => exact ih.trans (List.prefix_append _ _)

/-- Whenever the model is asked, the conversation is exactly what was said so far: it is complete,
it goes on from every earlier one, and it holds what others have sent, in its order, except for
messages that are still waiting. -/
theorem conversations_complete (h : Reached L duty spec m) :
    (∀ newer number conversation reply older,
      m.1.log = newer ++ .asked number conversation reply :: older →
        conversation = transcript older ∧ Complete conversation ∧
          ∀ number' conversation' reply', .asked number' conversation' reply' ∈ older →
            conversation' <+: conversation) ∧
      sentMessages m.1.log = drainedMessages m.1.log ++ m.1.pendingMessages := by
  refine ⟨?_, h.agrees.inbox⟩
  intro newer number conversation reply older hlog
  obtain ⟨⟨-, -, -, -, howed, rfl⟩, horderly⟩ := (hlog ▸ h.orderly).split
  have howes := owes_transcript horderly
  rw [howed] at howes
  refine ⟨rfl, howes, fun number' conversation' reply' hmem ↦ ?_⟩
  obtain ⟨between, oldest, rfl⟩ := List.append_of_mem hmem
  obtain ⟨⟨-, -, -, -, -, rfl⟩, -⟩ := horderly.split
  rw [List.append_cons]
  exact transcript_prefix

theorem conversations_complete_sampleWork :
    ∃ m, SampleReached m ∧ askedCount m.1.log = 2 ∧
      (∀ newer number conversation reply older,
        m.1.log = newer ++ .asked number conversation reply :: older → Complete conversation) := by
  obtain ⟨m, hm, hview⟩ := sampleMoment_reached sampleWork (fun m ↦ askedCount m.1.log) 2
    (by decide +kernel)
  refine ⟨m, hm, hview, fun newer number conversation reply older hlog ↦ ?_⟩
  exact ((conversations_complete hm).1 newer number conversation reply older hlog).2.1

/-! ## Calls of the model -/

/-- How many calls of the model the Core has accepted. -/
def acceptedCount : List (Deed I) → Nat
  | [] => 0
  | .accounted _ true :: log => acceptedCount log + 1
  | _ :: log => acceptedCount log

theorem latest_mem {d : Deed I} (h : latest log = some d) :
    ∃ newer older, log = newer ++ d :: older := by
  induction log with
  | nil => cases h
  | cons d' log ih =>
    have hlater (h : latest log = some d) : ∃ newer older, d' :: log = newer ++ d :: older := by
      obtain ⟨newer, older, heq⟩ := ih h
      exact ⟨d' :: newer, older, by rw [heq]; rfl⟩
    cases d' with
    | stopRequested => exact hlater h
    | sent message => exact hlater h
    | _ => exact ⟨[], log, by rw [Option.some.inj h]; rfl⟩

/-- As many calls were accepted as the model was asked, and one more where it is about to be. -/
theorem asked_le_accepted (h : Orderly (Follows duty) log) :
    askedCount log ≤ acceptedCount log ∧
      (∀ number, latest log = some (.accounted number true) →
        askedCount log + 1 ≤ acceptedCount log) := by
  induction h with
  | nil => exact ⟨le_rfl, fun _ h ↦ by cases h⟩
  | @cons d log entry _ ih =>
    obtain ⟨hle, hnext⟩ := ih
    cases d with
    | stopRequested => exact ⟨hle, hnext⟩
    | sent message => exact ⟨hle, hnext⟩
    | accounted number accepted =>
      cases accepted with
      | true => exact ⟨Nat.le_succ_of_le hle, fun _ _ ↦ Nat.succ_le_succ hle⟩
      | false => exact ⟨hle, fun _ h ↦ by cases h⟩
    | asked number conversation reply =>
      obtain ⟨-, -, hlatest, -⟩ := entry
      exact ⟨hnext number hlatest, fun _ h ↦ by cases h⟩
    | _ => exact ⟨hle, fun _ h ↦ by cases h⟩

theorem asked_le_budget (h : Orderly (Follows duty) log) :
    askedCount log ≤ min duty.turnBudget duty.callBudget := by
  induction h with
  | nil => exact Nat.zero_le _
  | @cons d log entry horderly ih =>
    cases d with
    | asked number conversation reply =>
      obtain ⟨-, -, hlatest, rfl, -⟩ := entry
      obtain ⟨newer, older, hlog⟩ := latest_mem hlatest
      obtain ⟨⟨-, -, -, -, hbound, -⟩, -⟩ := (hlog ▸ horderly).split
      exact hbound
    | _ => exact ih

/-- Each call of the model has its own number, and the last thing the worker did before it was to
have it accounted for under this number. So the model is never asked more often than the Core has
accepted, nor more often than the budgets of turns and of calls allow. -/
theorem model_calls_accounted (h : Reached L duty spec m) :
    m.1.modelCalls = askedCount m.1.log ∧ askedCount m.1.log ≤ acceptedCount m.1.log ∧
      askedCount m.1.log ≤ min duty.turnBudget duty.callBudget ∧
      ∀ newer number conversation reply older,
        m.1.log = newer ++ .asked number conversation reply :: older →
          number = askedCount older + 1 ∧ latest older = some (.accounted number true) := by
  refine ⟨h.agrees.calls, (asked_le_accepted h.orderly).1, asked_le_budget h.orderly, ?_⟩
  intro newer number conversation reply older hlog
  obtain ⟨⟨-, -, hlatest, hnumber, -⟩, -⟩ := (hlog ▸ h.orderly).split
  exact ⟨hnumber, hlatest⟩

theorem model_calls_accounted_sampleWork :
    ∃ m, SampleReached m ∧ m.1.modelCalls = 2 ∧
      m.1.modelCalls ≤ acceptedCount m.1.log := by
  obtain ⟨m, hm, hview⟩ := sampleMoment_reached sampleWork (fun m ↦ m.1.modelCalls) 2
    (by decide +kernel)
  obtain ⟨hcalls, haccepted, -⟩ := model_calls_accounted hm
  exact ⟨m, hm, hview, hcalls ▸ haccepted⟩

/-! ## Requests -/

/-- The requests that the broker was sent, latest first. -/
def requests : List (Deed I) → List ToolRequest
  | [] => []
  | .tool _ (.requested request) :: log => request :: requests log
  | _ :: log => requests log

/-- A deed that is part of a step comes when only this step was taken since the worker was asked to
stop. -/
theorem Follows.within {d : Deed I} {k : Step} (h : Follows duty d log) (hk : step d = some k) :
    StepsSince (· = k) log := by
  cases d with
  | accounted number accepted =>
    obtain rfl := Option.some.inj hk
    exact h.2.1
  | asked number conversation reply =>
    obtain rfl := Option.some.inj hk
    exact h.2.1
  | tool number act =>
    obtain rfl := Option.some.inj hk
    exact h.2.1
  | submitted result => exact h.2.mono fun _ hfalse ↦ hfalse.elim
  | _ => cases hk

/-- Once a worker was asked to stop, all that it does for others belongs to one step: the call of
the model, the tool call or the submission that it had begun, or was about to begin. -/
theorem stop_leaves_one_step (h : Reached L duty spec m) {newer older : List (Deed I)}
    (hlog : m.1.log = newer ++ .stopRequested :: older) :
    ∃ k, ∀ d ∈ newer, ∀ k', step d = some k' → k' = k := by
  have horderly := hlog ▸ h.orderly
  clear hlog
  induction newer with
  | nil => exact ⟨.submission, fun d hd ↦ (List.not_mem_nil hd).elim⟩
  | cons d newer ih =>
    cases hstep : step d with
    | none =>
      obtain ⟨k, hk⟩ := ih horderly.tail
      refine ⟨k, List.forall_mem_cons.mpr ⟨fun k' hk' ↦ ?_, hk⟩⟩
      rw [hstep] at hk'
      cases hk'
    | some k =>
      have hwithin : StepsSince (· = k) (newer ++ .stopRequested :: older) :=
        Follows.within horderly.head hstep
      refine ⟨k, List.forall_mem_cons.mpr ⟨fun k' hk' ↦ ?_, hwithin newer older rfl⟩⟩
      rw [hstep] at hk'
      exact (Option.some.inj hk').symm

theorem stop_leaves_one_step_sampleHalted :
    ∃ (m : SampleMoment) (newer older : List (Deed sampleDecoder)),
      SampleReached m ∧
        m.1.log = newer ++ .stopRequested :: older ∧ m.1.log.map step =
          [none, none, none, some (.tool 1), none, some (.call 1), some (.call 1), none, none] ∧
        ∃ k, ∀ d ∈ newer, ∀ k', step d = some k' → k' = k := by
  obtain ⟨m, hm, hview⟩ := sampleMoment_reached sampleHalted
    (fun m ↦ (m.1.stopEvent, m.1.log.map step))
    (true, [none, none, none, some (.tool 1), none, some (.call 1), some (.call 1), none, none])
    (by decide +kernel)
  obtain ⟨hstop, hsteps⟩ := Prod.mk.inj hview
  obtain ⟨newer, older, hlog⟩ := List.append_of_mem (hm.agrees.stop.mp hstop)
  exact ⟨m, newer, older, hm, hlog, hsteps, stop_leaves_one_step hm hlog⟩

/-! ## The end -/

/-- What was noted stays noted. -/
theorem Reached.later (h : Reached L duty spec m)
    (hrun : (activity L duty spec).machine.Run (fun _ _ ↦ True) m m') :
    Reached L duty spec m' ∧ ∃ newer, m'.1.log = newer ++ m.1.log := by
  refine hrun.induct (P := fun m' ↦ Reached L duty spec m' ∧ ∃ newer, m'.1.log = newer ++ m.1.log)
    ⟨h, [], rfl⟩ ?_
  rintro t l u ⟨ht, newer, hlog⟩ _ hstep
  refine ⟨ht.step trivial hstep, ?_⟩
  have hgoes := ((conduct_invariant L duty spec).of_reachable ht).2
  obtain ⟨hguar | ⟨d, hd⟩, -⟩ := (activity_guarded L duty spec).turn hgoes hstep
  · obtain ⟨newest, hnewest⟩ := hguar.1.suffix
    exact ⟨newest ++ newer, by rw [← hnewest, hlog, List.append_assoc]⟩
  · rw [hd]
    rcases disturb_log d t.1 with hlog' | ⟨-, hlog'⟩ | ⟨message, hlog'⟩
    · exact ⟨newer, by rw [hlog', hlog]⟩
    · exact ⟨.stopRequested :: newer, by rw [hlog', hlog]; rfl⟩
    · exact ⟨.sent message :: newer, by rw [hlog', hlog]; rfl⟩

/-- What the Core was asked to note last is what it has taken last, if it has taken it. -/
theorem lastTaken_of_lastReport {confirmed : Bool} (h : lastReport log = some (confirmed, true)) :
    lastTaken log = some confirmed := by
  induction log with
  | nil => cases h
  | cons d log ih =>
    cases d with
    | tool number act =>
      cases act with
      | identified container confirmed' taken =>
        obtain ⟨rfl, rfl⟩ := Prod.mk.inj (Option.some.inj h)
        rfl
      | executed command confirmed' => cases h
      | _ => exact ih h
    | _ => exact ih h

/-- Nothing is taken of a sandbox that nobody has reported. -/
theorem lastTaken_eq_none (hanswer : lastAnswer log = none) (h : lastReport log = none) :
    lastTaken log = none := by
  induction log with
  | nil => rfl
  | cons d log ih =>
    cases d with
    | tool number act =>
      cases act with
      | identified container confirmed taken => cases h
      | executed command confirmed => cases hanswer
      | _ => exact ih hanswer h
    | _ => exact ih hanswer h

/-- No sandbox of the run is alive: the last one has said so, and the Core knows it, unless the call
that should have told it has raised or was refused. -/
structure SandboxOver (log : List (Deed I)) : Prop where
  ended : SandboxEnded log
  told : lastTaken log = some false → lastReport log = some (true, false)

theorem SandboxEnded.over (h : SandboxEnded log) : SandboxOver log where
  ended := h
  told hopen := by
    rcases h with ⟨hanswer, hreport⟩ | ⟨-, taken, hreport⟩
    · exact nomatch (lastTaken_eq_none hanswer hreport).symm.trans hopen
    · cases taken with
      | false => exact hreport
      | true => exact nomatch (lastTaken_of_lastReport hreport).symm.trans hopen

/-- When the work is closed, nothing more is done for others. -/
theorem Closed.rests {newer : List (Deed I)} (hclosed : Closed log)
    (h : Orderly (Follows duty) (newer ++ log)) :
    (∀ d ∈ newer, step d = none) ∧ (SandboxEnded log → SandboxEnded (newer ++ log)) := by
  induction newer with
  | nil => exact ⟨fun _ hd ↦ (List.not_mem_nil hd).elim, id⟩
  | cons d newer ih =>
    obtain ⟨hrest, hsame⟩ := ih h.tail
    have hlater : Closed (newer ++ log) :=
      hclosed.imp fun _ hmem ↦ List.mem_append_right newer hmem
    have hnone : step d = none := by
      have hentry : Follows duty d (newer ++ log) := h.head
      cases d with
      | accounted number accepted => exact absurd hlater hentry.1.unclosed
      | asked number conversation reply => exact absurd hlater hentry.1.unclosed
      | tool number act => exact absurd hlater hentry.1.unclosed
      | submitted result => exact absurd hlater hentry.1.unclosed
      | _ => rfl
    refine ⟨List.forall_mem_cons.mpr ⟨hnone, hrest⟩, ?_⟩
    cases d with
    | tool number act => cases hnone
    | _ => exact hsame

/-- When the adapter says of a run that nothing of it is alive, or that nothing is written any more,
then the last sandbox has said that it has ended and the Core was asked to note it, which it knows
unless that call failed; and the worker does nothing more for others: no call of the model, no tool
call and no submission follows, and no sandbox is started, whatever happens later. -/
theorem exit_reported_truthfully (h : Reached L duty spec m)
    (hreply : (m.1.record.reply duty.runId).alive = false ∨
      (m.1.record.reply duty.runId).writerAlive = some false)
    (hrun : (activity L duty spec).machine.Run (fun _ _ ↦ True) m m') :
    ∃ newer, m'.1.log = newer ++ m.1.log ∧ (∀ d ∈ newer, step d = none) ∧
      SandboxOver m'.1.log := by
  obtain ⟨hlater, newer, hlog⟩ := h.later hrun
  have hrecord : m.1.record.sandboxExitUnconfirmed = false ∧ Quiet m.1.record := by
    rw [ApiRecord.reply] at hreply
    split at hreply
    · simp at hreply
    · next hconfirmed =>
      simp only [not_or, Bool.not_eq_true] at hconfirmed
      refine ⟨hconfirmed.1, ?_⟩
      have hthread : m.1.record.thread.getD false = false → m.1.record.thread ≠ some true := by
        intro hdead halive
        rw [halive] at hdead
        cases hdead
      rcases hreply with hdead | hquiet
      · exact .inr (.inr (hthread hdead))
      · rw [Option.some.injEq, Bool.and_eq_false_iff] at hquiet
        rcases hquiet with hdead | hquiet
        · exact .inr (.inr (hthread hdead))
        · exact .inr (.inl hquiet)
  obtain ⟨hrest, hsame⟩ := (h.agrees.quiet hrecord.2).rests (hlog ▸ hlater.orderly)
  have hended : SandboxEnded m'.1.log := hlog ▸ hsame (h.agrees.sandbox hrecord.1)
  exact ⟨newer, hlog, hrest, hended.over⟩

/-- An interpreter whose decoder knows one command. -/
def sampleShell : Interpreter where
  isWord := asciiWord
  loads text := if text = "make".toList then
    some (.object [("argv".toList, .array [.string "make".toList])]) else none
  repr _ := []

/-- A call that runs the command. -/
def sampleMake : ToolCall sampleShell where
  members := [("type".toList, .string "function".toList),
    ("function".toList, functionObject "shell_run".toList "make".toList)]
  name := "shell_run".toList
  arguments := "make".toList
  named := by decide
  decodes := rfl
  function := rfl
  typed := rfl

/-- Tools are allowed, and a sandbox carries out its command. -/
def sampleObliging : Observation sampleShell where
  decision := ⟨true, none, some "invocation"⟩
  result := texts [("status", "ok".toList), ("container_id", "container".toList)]

/-- The model runs the command, and is done. -/
def sampleBuild : List (Observation sampleShell ⊕ Disturbance) :=
  (List.replicate 10 sampleObliging ++
    { sampleObliging with reply := .ok ⟨none, [sampleMake], none, [], []⟩ } ::
    List.replicate 19 sampleObliging ++
    { sampleObliging with reply := .ok ⟨some "Done.".toList, [], none, [], []⟩ } ::
    List.replicate 7 sampleObliging).map .inl

/-- The thread ends, and somebody writes to the run and asks it to stop meanwhile. -/
def sampleBelated : List (Observation sampleShell ⊕ Disturbance) :=
  [.inr (.send []), .inl sampleObliging, .inr (.requestStop "late" false), .inl sampleObliging,
    .inl sampleObliging, .inr .finishStop]

/-- The command has a second. -/
def sampleShellDuty : Duty := { sampleService with wallTimeout := 1000 }

/-- A sandbox was started and has ended, and what comes later adds to the log, but does nothing. -/
theorem exit_reported_truthfully_sampleBuild :
    ∃ (m m' : Activity.Moment (WorkerState sampleShell) (Observation sampleShell)
        (Except Text Unit)) (newer : List (Deed sampleShell)),
      Reached sampleLibraries sampleShellDuty { runId := "run" } m ∧
        (m.1.record.reply "run").writerAlive = some false ∧ lastAnswer m.1.log = some true ∧
        m'.1.log = newer ++ m.1.log ∧ newer.length = 3 ∧
        (∀ d ∈ newer, step d = none) ∧ SandboxOver m'.1.log := by
  let machine := (activity (I := sampleShell) sampleLibraries sampleShellDuty
    { runId := "run" }).machine
  have hview : (machine.exec machine.init sampleBuild).bind (fun m ↦
      (machine.exec m sampleBelated).map fun m' ↦
        ((m.1.record.reply "run").writerAlive, lastAnswer m.1.log,
          m'.1.log.length - m.1.log.length)) = some (some false, some true, 3) := by
    decide +kernel
  obtain ⟨m, hexec, hrest⟩ := Option.bind_eq_some_iff.mp hview
  obtain ⟨m', hexec', hseen⟩ := Option.map_eq_some_iff.mp hrest
  simp only [Prod.mk.injEq] at hseen
  obtain ⟨hquiet, hanswer, hlength⟩ := hseen
  have hm : Reached sampleLibraries sampleShellDuty { runId := "run" } m := .of_exec hexec
  obtain ⟨newer, hlog, hnothing, hover⟩ :=
    exit_reported_truthfully hm (.inr hquiet) (.of_exec hexec')
  refine ⟨m, m', newer, hm, hquiet, hanswer, hlog, ?_, hnothing, hover⟩
  rw [hlog, List.length_append] at hlength
  omega

/-- A thread that has ended did not fail: the end of its work was noted, and its exit was reported
if it had a credential. -/
theorem ended_thread_reported (h : Reached L duty spec m) {r : Except Text Unit}
    (hended : m.2 = .done r) :
    r = .ok () ∧ Closed m.1.log ∧ (duty.missingAuth = none → .exitReported ∈ m.1.log) := by
  obtain ⟨s, c⟩ := m
  obtain rfl : c = .done r := hended
  obtain ⟨-, hgoes⟩ := (conduct_invariant L duty spec).of_reachable h
  obtain ⟨a, rfl, hover⟩ := hgoes.answer
  exact ⟨rfl, hover.holds⟩

end Worker

end HibikiCore
