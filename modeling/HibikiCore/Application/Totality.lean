import HibikiCore.Application.Frames

/-!
# What does not fail

Statements that update rows never fail, and what closes gates, appends events or sets a task free
again fails for nothing but the lack of the task.
-/

namespace HibikiCore

variable {env : Env} {s s' : DB} {taskId decisionId : String}

/-! ## Statements -/

section Statements

variable {κ ρ : Type} [DecidableEq κ] [Columns ρ] {r : Ref DB κ ρ}

theorem update_yields {k : κ} {f : ρ → ρ} {hf : ∀ a, SameFixed a (f a)} :
    (r.update k f hf : Core Unit).Yields s fun _ ↦ True :=
  .of_ok (a := ()) (Ref.update_ok.mpr rfl)

theorem updateWhere_yields {p : κ → ρ → Bool} {f : ρ → ρ} {hf : ∀ a, SameFixed a (f a)} :
    (r.updateWhere p f hf : Core Unit).Yields s fun _ ↦ True :=
  .of_ok (a := ()) (Ref.updateWhere_ok.mpr rfl)

theorem add_yields {k : κ} {a : ρ} (h : (r.read s).find? k = none) :
    (add r k a).Yields s fun _ ↦ True :=
  .of_ok (a := ()) (Ref.insert_ok.mpr ⟨h, rfl⟩)

end Statements

/-! ## Sequence numbers -/

theorem le_maxSeq {ρ : Type} {t : Table (String × Nat) ρ} {n : Nat} {a : ρ}
    (h : t.find? (taskId, n) = some a) : n ≤ maxSeq t taskId := by
  have hmem : n ∈ (t.select fun k _ ↦ k.1 == taskId).map fun r ↦ r.1.2 :=
    List.mem_map.mpr ⟨((taskId, n), a), Table.mem_select.mpr ⟨h, by simp⟩, rfl⟩
  have hle (l : List Nat) (b : Nat) : b ≤ l.foldl max b ∧ ∀ m ∈ l, m ≤ l.foldl max b := by
    induction l generalizing b with
    | nil => simp
    | cons c l ih =>
      rw [List.foldl_cons]
      obtain ⟨hbase, hall⟩ := ih (max b c)
      refine ⟨by omega, fun m hm ↦ ?_⟩
      rcases List.mem_cons.mp hm with rfl | hm
      · omega
      · exact hall m hm
  exact (hle _ 0).2 n hmem

theorem find?_succ_maxSeq {ρ : Type} (t : Table (String × Nat) ρ) (taskId : String) :
    t.find? (taskId, maxSeq t taskId + 1) = none := by
  rw [Option.eq_none_iff_forall_ne_some]
  intro a ha
  have := le_maxSeq ha
  omega

theorem appendEvent_yields {eventType : String} {actor : Option String} {payload : Data} :
    (appendEvent env taskId eventType actor payload).Yields s fun _ ↦ True := by
  rw [appendEvent]
  exact .bind (Tx.get_ok.mpr ⟨rfl, rfl⟩) (add_yields (find?_succ_maxSeq _ _))

/-! ## Gates and task states -/

theorem setGates_yields {lifecycle : GateLifecycle} {resolvedAt : Option Time} :
    (setGates decisionId lifecycle resolvedAt).Yields s fun _ ↦ True := by
  rw [setGates]
  exact updateWhere_yields

theorem resolveGates_yields : (resolveGates env decisionId).Yields s fun _ ↦ True := by
  rw [resolveGates]
  exact setGates_yields

theorem supersedePendingAcceptance_yields :
    (supersedePendingAcceptance env taskId).Yields s fun _ ↦ True := by
  rw [supersedePendingAcceptance]
  refine .bind (Tx.get_ok.mpr ⟨rfl, rfl⟩) (.each fun d _ t ↦ ?_)
  exact .seq update_yields fun _ _ _ _ ↦ resolveGates_yields

theorem openGate_yields {reason : WaitingReason}
    (h : s.gates.find? ("gate_" ++ env.uuid s.drawn) = none) :
    (openGate env taskId decisionId reason).Yields s fun _ ↦ True := by
  rw [openGate]
  exact .bind (newId_ok.mpr ⟨rfl, rfl⟩) (add_yields h)

theorem setTaskState_yields {event : TaskEvent} {reason : Option WaitingReason} {task : TaskRow}
    {next : TaskState} (htask : s.tasks.find? taskId = some task)
    (hnext : taskTransitions task.state event = some next) :
    (setTaskState env taskId event reason).Yields s fun _ ↦ True := by
  rw [setTaskState]
  refine .bind (getTask_ok.mpr ⟨htask, rfl⟩) (.bind (Tx.require_ok.mpr ⟨hnext, rfl⟩) ?_)
  exact update_yields

theorem recomputeRunnableState_yields {task : TaskRow}
    (htask : s.tasks.find? taskId = some task) :
    (recomputeRunnableState env taskId).Yields s fun _ ↦ True := by
  rw [recomputeRunnableState]
  refine .bind (getTask_ok.mpr ⟨htask, rfl⟩) (.bind (Tx.get_ok.mpr ⟨rfl, rfl⟩) (.when ?_))
  rintro ⟨hwaiting, -⟩
  have hnext : taskTransitions task.state .decisionResolved = some .executing := by
    rw [hwaiting]
    rfl
  exact .bind (a := ()) (Ref.updateWhere_ok.mpr rfl) (setTaskState_yields htask hnext)

theorem syncModelCallLimit_yields {content : ContractContent} :
    (syncModelCallLimit taskId content).Yields s fun _ ↦ True := by
  rw [syncModelCallLimit]
  exact .withSome fun _ _ ↦ update_yields

/-! ## Submitting a contract -/

/-- The identifiers that a submission will draw are not taken. -/
structure FreshIds (env : Env) (s : DB) : Prop where
  explanations : ∀ n, s.drawn ≤ n → s.explanations.find? ("expl_" ++ env.uuid n) = none
  decisions : ∀ n, s.drawn ≤ n → s.decisions.find? ("dec_" ++ env.uuid n) = none
  gates : ∀ n, s.drawn ≤ n → s.gates.find? ("gate_" ++ env.uuid n) = none

/-- The contract that a submission is about. -/
def offeredContract (p : Payload) (task : TaskRow) : ContractContent :=
  (p.contract.filter (· ≠ {})).getD (requestedContract p task)

/-- A contract with everything that its explanation needs. -/
structure ContractContent.WellFormed (content : ContractContent) : Prop where
  objective : ∃ x, content.objective = some x
  deliverables : ∃ x, content.deliverables = some x
  acceptanceCriteria : ∃ x, content.acceptanceCriteria = some x
  permissionCeiling : ∃ x, content.permissionCeiling = some x

/-- A request without a contract describes a well-formed one. -/
theorem requestedContract_wellFormed (p : Payload) (task : TaskRow) :
    (requestedContract p task).WellFormed :=
  ⟨⟨_, rfl⟩, ⟨_, rfl⟩, ⟨_, rfl⟩, ⟨_, rfl⟩⟩

/-- Nothing was drawn, and no row came. -/
structure Retained (s s' : DB) : Prop where
  drawn : s'.drawn = s.drawn
  contracts : ∀ k, s.contracts.find? k = none → s'.contracts.find? k = none
  decisions : ∀ k, s.decisions.find? k = none → s'.decisions.find? k = none
  gates : ∀ k, s.gates.find? k = none → s'.gates.find? k = none

instance : Preord Retained where
  refl _ := ⟨rfl, fun _ ↦ id, fun _ ↦ id, fun _ ↦ id⟩
  trans h h' := ⟨h'.drawn.trans h.drawn, fun k hk ↦ h'.contracts k (h.contracts k hk),
    fun k hk ↦ h'.decisions k (h.decisions k hk), fun k hk ↦ h'.gates k (h.gates k hk)⟩

/-- What is superseded stays. -/
instance supersedePriorContracts_retained :
    Respects Retained (supersedePriorContracts env taskId) := by
  have hcontracts (q : String × Nat → ContractRow → Bool) : Respects Retained
      (Refs.contracts.updateWhere q fun c ↦ { c with status := .superseded } : Core Unit) := by
    constructor
    intro s _ s' h
    obtain rfl := Ref.updateWhere_ok.mp h
    refine ⟨rfl, fun k hk ↦ ?_, fun _ ↦ id, fun _ ↦ id⟩
    change (s.contracts.modifyWhere _ _).find? k = none
    rw [Table.find?_modifyWhere, hk, Option.map_none]
  have hdecision (k : String) : Respects Retained
      (Refs.decisions.update k fun r ↦ { r with status := .superseded } : Core Unit) := by
    constructor
    intro s _ s' h
    obtain rfl := Ref.update_ok.mp h
    refine ⟨rfl, fun _ ↦ id, fun k' hk ↦ ?_, fun _ ↦ id⟩
    change (s.decisions.modify _ _).find? k' = none
    rw [Table.find?_modify]
    split
    · rw [hk, Option.map_none]
    · exact hk
  have hgates (k : String) : Respects Retained (resolveGates env k) := by
    constructor
    intro s _ s' h
    rw [resolveGates, setGates] at h
    obtain rfl := Ref.updateWhere_ok.mp h
    refine ⟨rfl, fun _ ↦ id, fun _ ↦ id, fun k' hk ↦ ?_⟩
    change (s.gates.modifyWhere _ _).find? k' = none
    rw [Table.find?_modifyWhere, hk, Option.map_none]
  rw [supersedePriorContracts]
  infer_instance

theorem supersedePriorContracts_yields :
    (supersedePriorContracts env taskId).Yields s fun _ ↦ True := by
  rw [supersedePriorContracts]
  refine .seq updateWhere_yields fun _ t _ _ ↦ .bind (Tx.get_ok.mpr ⟨rfl, rfl⟩) ?_
  exact .each fun d _ u ↦ .seq update_yields fun _ _ _ _ ↦ resolveGates_yields

/-- A task that is new or waits takes a submission. -/
theorem submitContract_yields {auth : AuthContext} {p : Payload} {task : TaskRow}
    (hnamed : p.taskId = some taskId) (htask : s.tasks.find? taskId = some task)
    (howner : task.principalId = auth.principalId)
    (hstate : task.state = .new ∨ task.state = .waitingHuman)
    (hwell : (offeredContract p task).WellFormed) (hfresh : FreshIds env s) :
    (submitContract env auth p).Yields s (·.ok = true) := by
  obtain ⟨⟨objective, hobjective⟩, ⟨deliverables, hdeliverables⟩, ⟨criteria, hcriteria⟩,
    ⟨ceiling, hceiling⟩⟩ := hwell
  have hnext : taskTransitions task.state .contractSubmitted = some .waitingHuman := by
    rcases hstate with h | h <;> (rw [h]; rfl)
  rw [submitContract]
  refine .bind (key_ok.mpr ⟨hnamed, rfl⟩) (.bind (getTask_ok.mpr ⟨htask, rfl⟩) ?_)
  refine .bind (a := ()) (Tx.check_ok.mpr ⟨howner, rfl⟩) (.bind (Tx.get_ok.mpr ⟨rfl, rfl⟩) ?_)
  refine .seq supersedePriorContracts_yields fun _ s₁ hsupersede _ ↦ ?_
  have hretained : Retained s s₁ := Respects.rel hsupersede
  have hwrites : Writes [.contracts, .decisions, .gates] s s₁ := Respects.rel hsupersede
  have htasks : s.tasks = s₁.tasks := (hwrites .tasks).2 (by decide)
  have hexplanations : s.explanations = s₁.explanations := (hwrites .explanations).2 (by decide)
  have hunused := hretained.contracts _ (find?_succ_maxSeq s.contracts taskId)
  refine .bind (a := ()) (Ref.insert_ok.mpr ⟨hunused, rfl⟩) ?_
  refine .bind (key_ok.mpr ⟨hobjective, rfl⟩) (.bind (key_ok.mpr ⟨hdeliverables, rfl⟩) ?_)
  refine .bind (key_ok.mpr ⟨hcriteria, rfl⟩) (.bind (key_ok.mpr ⟨hceiling, rfl⟩) ?_)
  -- three identifiers are drawn, one after the other
  have hexplanation := hfresh.explanations s₁.drawn hretained.drawn.ge
  rw [hexplanations] at hexplanation
  have hdecision := hretained.decisions _ (hfresh.decisions (s₁.drawn + 1)
    (Nat.le_succ_of_le hretained.drawn.ge))
  have hgate := hretained.gates _ (hfresh.gates (s₁.drawn + 1 + 1)
    (Nat.le_succ_of_le (Nat.le_succ_of_le hretained.drawn.ge)))
  refine .bind (newId_ok.mpr ⟨rfl, rfl⟩) (.bind (a := ()) (Ref.insert_ok.mpr ⟨hexplanation, rfl⟩) ?_)
  refine .bind (newId_ok.mpr ⟨rfl, rfl⟩) (.bind (a := ()) (Ref.insert_ok.mpr ⟨hdecision, rfl⟩) ?_)
  refine .seq (openGate_yields (by exact hgate)) fun _ s₂ hopens _ ↦ ?_
  have hopened : Writes [.gates] _ s₂ := Respects.rel hopens
  have hknown : s₂.tasks.find? taskId = some task := by
    have hsame : s₁.tasks = s₂.tasks := (hopened .tasks).2 (by decide)
    rw [← hsame, ← htasks, htask]
  refine .seq (setTaskState_yields hknown hnext) fun _ s₃ hstate _ ↦ ?_
  refine .seq appendEvent_yields fun _ s₄ hevent _ ↦ ?_
  have hp₃ : Writes [.tasks, .events] s₂ s₃ := Respects.rel hstate
  have hp₄ : Writes [.tasks, .events] s₃ s₄ := Respects.rel hevent
  obtain ⟨task₃, htask₃, -⟩ := (hp₃ .tasks).1 taskId task hknown
  obtain ⟨task₄, htask₄, -⟩ := (hp₄ .tasks).1 taskId task₃ htask₃
  exact .bind (getTask_ok.mpr ⟨htask₄, rfl⟩) (.pure rfl)

end HibikiCore
