import HibikiCore.Safety.Runs
import HibikiCore.Safety.States
import Mathlib.Logic.Relation

/-!
# The course of a task

A transaction may take a task along several edges of the transition table: a decision is resolved
and a gate is opened again, a plan is activated and its task released. What is left of the table
between two databases is therefore a path of edges, and paths compose.
-/

namespace HibikiCore

set_option synthInstance.maxSize 100000000
set_option synthInstance.maxHeartbeats 400000

/-- Some event takes a task from one state to another. -/
def TaskEdge (a b : TaskState) : Prop := ∃ event, taskTransitions a event = some b

/-- Some events, one after another, take a task from one state to another. -/
abbrev TaskPath : TaskState → TaskState → Prop := Relation.ReflTransGen TaskEdge

namespace TaskPath

variable {a b : TaskState}

/-- No path leaves a terminal state. -/
theorem terminal (h : TaskPath a b) (ha : a.isTerminal = true) : b = a := by
  induction h with
  | refl => rfl
  | tail _ hedge ih =>
    obtain ⟨event, hevent⟩ := hedge
    rw [ih, taskTransitions_terminal ha] at hevent
    cases hevent

/-- A task that is being cancelled can only be aborted. -/
theorem cancelling (h : TaskPath .cancelling b) : b = .cancelling ∨ b = .aborted := by
  induction h with
  | refl => exact .inl rfl
  | tail _ hedge ih =>
    obtain ⟨event, hevent⟩ := hedge
    rcases ih with rfl | rfl
    · exact .inr (taskTransitions_cancelling hevent)
    · rw [taskTransitions_terminal rfl] at hevent
      cases hevent

end TaskPath

/-- The state of a task moves along a path. -/
def TaskMoves (a b : TaskRow) : Prop := TaskPath a.state b.state

instance : Preord TaskMoves where
  refl _ := Relation.ReflTransGen.refl
  trans h h' := Relation.ReflTransGen.trans h h'

/-- Tasks persist, and their states move along paths. -/
abbrev TasksMove : DB → DB → Prop := Moves Refs.tasks TaskMoves

variable {env : Env} {auth : AuthContext} {p : Payload} {taskId : String} {s s' : DB}

namespace TasksMove

/-- The one place that writes the state of a task takes an edge. -/
instance setTaskState_respects {event : TaskEvent} {reason : Option WaitingReason} :
    Respects TasksMove (setTaskState env taskId event reason) where
  rel {s _ s'} hrun := by
    obtain ⟨task, t₁, hget, h₁⟩ := Tx.bind_ok.mp hrun
    obtain ⟨htask, rfl⟩ := getTask_ok.mp hget
    obtain ⟨next, t₂, hrequire, hupdate⟩ := Tx.bind_ok.mp h₁
    obtain ⟨hnext, rfl⟩ := Tx.require_ok.mp hrequire
    refine Moves.of_update (fun a ha ↦ ?_) hupdate
    obtain rfl := Option.some.inj (htask.symm.trans ha)
    exact Relation.ReflTransGen.single ⟨event, hnext⟩

theorem update_same {f : TaskRow → TaskRow} {hf : ∀ t, SameFixed t (f t)}
    (hstate : ∀ t, (f t).state = t.state) :
    Respects TasksMove (Refs.tasks.update taskId f hf : Core Unit) := by
  refine Moves.update fun t ↦ ?_
  rw [TaskMoves, hstate]

instance : TaskDetails TasksMove where
  update _ _ _ hd := update_same hd.state

instance : ContractVersions TasksMove where
  update _ _ := update_same fun _ ↦ rfl

instance : PlanVersions TasksMove where
  update _ _ := update_same fun _ ↦ rfl

instance : TaskSessions TasksMove where
  update _ _ := update_same fun _ ↦ rfl

instance handler_respects {operation : Operation} :
    Respects TasksMove (handler env auth p operation) := by
  cases operation <;> (dsimp only [handler]; infer_instance)

end TasksMove

/-- The state of a task moves along the transition table only, in every run of the system. So a task
that has ended stays as it ended, and a task that is being cancelled is aborted or stays. -/
theorem task_state_follows_table {ok : World → Label → Prop} {w w' : World} {task : TaskRow}
    (hrun : system.Run ok w w') (htask : w.db.tasks.find? taskId = some task) :
    ∃ task', w'.db.tasks.find? taskId = some task' ∧ TaskPath task.state task'.state ∧
      (task.state.isTerminal = true → task'.state = task.state) ∧
      (task.state = .cancelling → task'.state = .cancelling ∨ task'.state = .aborted) := by
  have hmoves : TasksMove w.db w'.db := run_rel hrun
  obtain ⟨task', htask', hpath⟩ := hmoves taskId task htask
  refine ⟨task', htask', hpath, hpath.terminal, fun hcancelling ↦ ?_⟩
  exact TaskPath.cancelling (hcancelling ▸ hpath)

theorem task_state_follows_table_sampleDispatched :
    ∃ w w' task task', system.exec system.init sampleDispatched = some w ∧
      system.exec w [.ask (.ofHuman "owner") .cancelTask { taskId := some "task_i" }] = some w' ∧
      w.db.tasks.find? "task_i" = some task ∧ task.state = .executing ∧
      w'.db.tasks.find? "task_i" = some task' ∧ TaskPath .executing task'.state := by
  have hview : ((system.exec system.init sampleDispatched).bind fun w ↦
      (system.exec w [.ask (.ofHuman "owner") .cancelTask { taskId := some "task_i" }]).map fun _ ↦
        (w.db.tasks.find? "task_i").map (·.state)) = some (some .executing) := by
    decide +kernel
  obtain ⟨w, hw, hcancel⟩ := Option.bind_eq_some_iff.mp hview
  obtain ⟨w', hw', hfind⟩ := Option.map_eq_some_iff.mp hcancel
  obtain ⟨task, htask, hstate⟩ := Option.map_eq_some_iff.mp hfind
  obtain ⟨task', htask', hpath, -⟩ := task_state_follows_table (.of_exec hw') htask
  exact ⟨w, w', task, task', hw, hw', htask, hstate, htask', hstate ▸ hpath⟩

end HibikiCore
