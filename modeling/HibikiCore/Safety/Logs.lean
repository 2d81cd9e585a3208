import HibikiCore.Store.Log
import HibikiCore.Safety.Runs

/-!
# The logs of a task

The events of a task and the messages to its planner are logs: each entry gets the number after the
largest one in the same transaction. So the committed entries of a task are numbered without a gap
in the order in which they came, and none is changed or removed.
-/

namespace HibikiCore

set_option synthInstance.maxSize 100000000
set_option synthInstance.maxHeartbeats 400000

variable {env : Env} {taskId : String} {s s' : DB} {w w' : World}

/-! ## Events -/

/-- The tables beside the events. -/
abbrev besideEvents : List Relation :=
  [.tasks, .contracts, .activeContractMarkers, .explanations, .decisions, .gates, .plans,
    .activePlanMarkers, .workUnitSpecs, .workUnitExecutions, .plannerSessions, .agentRuns,
    .activeExecuteRunMarkers, .activePlanRunMarkers, .workspaces, .contextManifests, .sideEffects,
    .inbox, .outbox, .idempotencyKeys, .resultSnapshots, .artifacts, .acceptanceEvidence,
    .agentProfiles, .runInputs, .toolInvocations, .contextAppends, .taskMessages]

instance : Faithful Refs.events := ⟨id⟩

instance {n : Relation} [h : Touches n besideEvents] : Beside Refs.events n where
  ne := by
    rintro rfl
    exact absurd h.mem (by decide)

/-- An event gets the next number of its task. -/
instance : EventRows (Appends Refs.events) where
  append env taskId eventType authActor payload := by
    constructor
    intro s _ s' h
    exact Appends.of_insert h

instance events_handler {auth : AuthContext} {p : Payload} {operation : Operation} :
    Respects (Appends Refs.events) (handler env auth p operation) := by
  cases operation <;> (dsimp only [handler]; infer_instance)

/-- The events of a task, oldest first. -/
def DB.eventLog (s : DB) (taskId : String) : List (Nat × EventRow) := s.events.entries taskId

/-- At any time the events of a task carry the numbers from 1 on, in the order in which they were
appended, and from then on they stay as they are: later events come after them. -/
theorem event_log_append_only {ok : World → Label → Prop} (hreach : system.Reachable w)
    (hrun : system.Run ok w w') :
    (w.db.eventLog taskId).map Prod.fst = List.range' 1 (w.db.eventLog taskId).length ∧
      w.db.eventLog taskId <+: w'.db.eventLog taskId := by
  have hfirst : Appends Refs.events system.init.db w.db := run_rel hreach
  have hlater : Appends Refs.events w.db w'.db := run_rel hrun
  have hnumbered := (hfirst taskId (Table.numbered_empty taskId)).1
  exact ⟨hnumbered, (hlater taskId hnumbered).2⟩

theorem event_log_append_only_sampleDispatched :
    ∃ w w', system.exec system.init sampleDispatched = some w ∧
      system.step w (.ask (.ofHuman "owner") .pauseTask { taskId := some "task_i" }) = some w' ∧
      (w.db.eventLog "task_i").length = 5 ∧ (w'.db.eventLog "task_i").length = 6 ∧
      (w.db.eventLog "task_i").map Prod.fst = List.range' 1 (w.db.eventLog "task_i").length ∧
      w.db.eventLog "task_i" <+: w'.db.eventLog "task_i" := by
  have hview : ((system.exec system.init sampleDispatched).bind fun w ↦
      (system.step w (.ask (.ofHuman "owner") .pauseTask { taskId := some "task_i" })).map
        fun w' ↦ ((w.db.eventLog "task_i").length, (w'.db.eventLog "task_i").length)) =
      some (5, 6) := by
    decide +kernel
  obtain ⟨w, hw, hw'⟩ := Option.bind_eq_some_iff.mp hview
  obtain ⟨w', hstep, hlengths⟩ := Option.map_eq_some_iff.mp hw'
  obtain ⟨hbefore, hafter⟩ := Prod.ext_iff.mp hlengths
  have hrun : system.Run (fun _ _ ↦ True) w w' := Machine.Run.refl.step trivial hstep
  exact ⟨w, w', hw, hstep, hbefore, hafter, event_log_append_only (.of_exec hw) hrun⟩

end HibikiCore
