import HibikiCore.Safety.Contracts

/-!
# The states of tasks

The state of a task is written by one function only, which takes an edge of the transition table.
What a set of states is entered by are therefore the events that lead into it.
-/

namespace HibikiCore

set_option synthInstance.maxSize 100000000
set_option synthInstance.maxHeartbeats 400000

variable {env : Env} {auth : AuthContext} {p : Payload} {task : TaskRow} {s s' : DB}
  {taskId decisionId : String} {Q : TaskState → Bool} {event : TaskEvent} {T : String → Prop}

/-- An event that leads into a set of states from this set only. -/
class Calm (Q : TaskState → Bool) (event : TaskEvent) : Prop where
  calm : ∀ {state next}, taskTransitions state event = some next → Q next = true → Q state = true

/-- The tasks that come to be in one of the states are among some. -/
abbrev StateEnters (Q : TaskState → Bool) (T : String → Prop) : DB → DB → Prop :=
  Enters Refs.tasks (fun t ↦ Q t.state = true) T

namespace StateEnters

/-- What an edge of the table does to one task. -/
theorem setTaskState_enters {reason : Option WaitingReason}
    (h : ∀ {state next}, taskTransitions state event = some next → Q next = true →
      Q state = true ∨ T taskId) :
    Respects (StateEnters Q T) (setTaskState env taskId event reason) where
  rel {s _ s'} hrun := by
    obtain ⟨task, t₁, hget, h₁⟩ := Tx.bind_ok.mp hrun
    obtain ⟨htask, rfl⟩ := getTask_ok.mp hget
    obtain ⟨next, t₂, hrequire, hupdate⟩ := Tx.bind_ok.mp h₁
    obtain ⟨hnext, rfl⟩ := Tx.require_ok.mp hrequire
    refine Enters.of_update (fun a ha hP ↦ ?_) hupdate
    obtain rfl := Option.some.inj (htask.symm.trans ha)
    exact h hnext hP

instance setTaskState_respects [hc : Calm Q event] {reason : Option WaitingReason} :
    Respects (StateEnters Q T) (setTaskState env taskId event reason) :=
  setTaskState_enters fun hnext hQ ↦ .inl (hc.calm hnext hQ)

/-- Whatever happens to a task happens to this task. -/
instance setTaskState_own {reason : Option WaitingReason} :
    Respects (StateEnters Q (· = taskId)) (setTaskState env taskId event reason) :=
  setTaskState_enters fun _ _ ↦ .inr rfl

/-- An update that is not about the state. -/
theorem update_enters {f : TaskRow → TaskRow} {hf : ∀ t, SameFixed t (f t)}
    (hstate : ∀ t, (f t).state = t.state) :
    Respects (StateEnters Q T) (Refs.tasks.update taskId f hf : Core Unit) where
  rel h := by
    refine Enters.of_update (fun t _ hP ↦ .inl ?_) h
    rwa [hstate] at hP

instance : TaskDetails (StateEnters Q T) where
  update _ _ _ hd := update_enters hd.state

instance : ContractVersions (StateEnters Q T) where
  update _ _ := update_enters fun _ ↦ rfl

instance : PlanVersions (StateEnters Q T) where
  update _ _ := update_enters fun _ ↦ rfl

instance : TaskSessions (StateEnters Q T) where
  update _ _ := update_enters fun _ ↦ rfl

/-! ## Commands -/

theorem createTask_enters (hnew : Q .new = false) :
    Respects (StateEnters Q T) (createTask env auth p) := by
  have hadd (k : String) (row : TaskRow) (hrow : row.state = .new) :
      Respects (StateEnters Q T) (add Refs.tasks k row) := by
    refine Enters.insert ?_
    rw [hrow, hnew]
    exact Bool.false_ne_true
  rw [createTask]
  refine .seq inferInstance fun _ ↦ .seq inferInstance fun _ ↦ .seq inferInstance fun _ ↦ ?_
  exact .seq (hadd _ _ rfl) fun _ ↦ inferInstance

end StateEnters

/-! ## States that are kept -/

/-- An event that leads from a set of states into this set only. -/
class Firm (Q : TaskState → Bool) (event : TaskEvent) : Prop where
  firm : ∀ {state next}, taskTransitions state event = some next → Q state = true → Q next = true

/-- The tasks in one of the states stay in one of them, but for some tasks. -/
abbrev StateStays (Q : TaskState → Bool) (T : String → Prop) : DB → DB → Prop :=
  Stays Refs.tasks (fun t ↦ Q t.state = true) T

namespace StateStays

theorem setTaskState_stays {reason : Option WaitingReason}
    (h : ∀ {state next}, taskTransitions state event = some next → Q state = true →
      Q next = true ∨ T taskId) :
    Respects (StateStays Q T) (setTaskState env taskId event reason) where
  rel {s _ s'} hrun := by
    obtain ⟨task, t₁, hget, h₁⟩ := Tx.bind_ok.mp hrun
    obtain ⟨htask, rfl⟩ := getTask_ok.mp hget
    obtain ⟨next, t₂, hrequire, hupdate⟩ := Tx.bind_ok.mp h₁
    obtain ⟨hnext, rfl⟩ := Tx.require_ok.mp hrequire
    refine Stays.of_update (fun a ha hP ↦ ?_) hupdate
    obtain rfl := Option.some.inj (htask.symm.trans ha)
    exact h hnext hP

instance setTaskState_respects [hf : Firm Q event] {reason : Option WaitingReason} :
    Respects (StateStays Q T) (setTaskState env taskId event reason) :=
  setTaskState_stays fun hnext hQ ↦ .inl (hf.firm hnext hQ)

/-- Whatever happens to a task happens to this task. -/
instance setTaskState_own {reason : Option WaitingReason} :
    Respects (StateStays Q (· = taskId)) (setTaskState env taskId event reason) :=
  setTaskState_stays fun _ _ ↦ .inr rfl

/-- An update that is not about the state. -/
theorem update_stays {f : TaskRow → TaskRow} {hf : ∀ t, SameFixed t (f t)}
    (hstate : ∀ t, (f t).state = t.state) :
    Respects (StateStays Q T) (Refs.tasks.update taskId f hf : Core Unit) where
  rel h := by
    refine Stays.of_update (fun t _ hP ↦ .inl ?_) h
    rwa [hstate]

instance : TaskDetails (StateStays Q T) where
  update _ _ _ hd := update_stays hd.state

instance : ContractVersions (StateStays Q T) where
  update _ _ := update_stays fun _ ↦ rfl

instance : PlanVersions (StateStays Q T) where
  update _ _ := update_stays fun _ ↦ rfl

instance : TaskSessions (StateStays Q T) where
  update _ _ := update_stays fun _ ↦ rfl

end StateStays

end HibikiCore
