import HibikiCore.System.Steps
import HibikiCore.Safety.Runs

/-!
# Draining the outbox

A drain claims one row after the other and handles each of them, until a claim brings nothing. A
claim brings nothing when no row is due; it also brings nothing when it retires the row that it
found, because the task of the row was stopped in the meantime. The loop cannot tell the two apart.

`drained_completely_iff` says which drains leave nothing behind of what was due at their start: those
whose last claim retires no row while another one waits.
-/

namespace HibikiCore

set_option synthInstance.maxSize 100000000
set_option synthInstance.maxHeartbeats 400000

/-- A row waits, and its backoff is over. -/
def Due (now : Time) (db : DB) (outboxId : String) : Prop :=
  ∃ row, db.outbox.find? outboxId = some row ∧ row.status = .pending ∧ row.isDue now = true

/-- The loop of a drain: its thread has claimed some rows and handled each of them to its end. What
the rest of the system does in the meantime is left open. -/
inductive Draining (thread : Nat) (w : World) : World → Prop
  | start : Draining thread w w
  | handled {w₁ w₂ w₃ : World} {env : Env} (before : Draining thread w w₁)
      (claim : system.step w₁ (.claim env thread) = some w₂)
      (claimed : (w₂.threads.find? thread).isSome = true)
      (run : system.Run (fun _ _ ↦ True) w₂ w₃) (finished : w₃.threads.find? thread = none) :
      Draining thread w w₃
  | waited {w₁ w₂ : World} {l : Label} (before : Draining thread w w₁)
      (step : system.step w₁ l = some w₂) (idle : w₂.threads.find? thread = none) :
      Draining thread w w₂

/-- A drain that returns: its last claim, made in `last`, brings nothing. -/
structure Drained (thread : Nat) (w : World) (env : Env) (last w' : World) : Prop where
  loop : Draining thread w last
  claim : system.step last (.claim env thread) = some w'
  nothing : ∃ db, claimOneOutbox env last.db = .ok (none, db)

/-- No row that was due at the start of a drain is due at its end. -/
def DrainedCompletely (start : Time) (w : World) (env : Env) (w' : World) : Prop :=
  ∀ outboxId, Due start w.db outboxId → ¬Due env.now w'.db outboxId

variable {env : Env} {s s' : DB} {k outboxId effectId : String} {row : OutboxRow}

/-! ## Claims that bring nothing -/

theorem claimableOutbox_none (h : claimableOutbox env s = none) : ¬Due env.now s k := by
  rintro ⟨row, hrow, hpending, hdue⟩
  have hmem : (k, row) ∈ pendingOutboxByAge s := by
    rw [pendingOutboxByAge, List.mem_insertionSort, Table.mem_select]
    exact ⟨hrow, beq_iff_eq.mpr hpending⟩
  exact List.find?_eq_none.mp h _ hmem hdue

/-- A row was retired, and no other row was touched. -/
def RowRetired (outboxId : String) (s s' : DB) : Prop :=
  s'.outbox = s.outbox.modify outboxId fun ob ↦ { ob with status := .dead }

theorem killOutbox_retired {u : Unit} (h : killOutbox outboxId s = .ok (u, s')) :
    RowRetired outboxId s s' := by
  obtain rfl := Ref.update_ok.mp h
  rfl

/-- What is done to the effect of a row leaves the outbox alone. -/
theorem RowRetired.then {t : DB} (h : RowRetired outboxId s t) (heq : s'.outbox = t.outbox) :
    RowRetired outboxId s s' := heq.trans h

theorem setEffectState_outbox {state : SideEffectState} {u : Unit}
    (h : setEffectState effectId state s = .ok (u, s')) : s'.outbox = s.outbox := by
  obtain rfl := Ref.update_ok.mp h
  rfl

theorem leaseOutbox_ne_none (h : leaseOutbox env outboxId row s = .ok (none, s')) : False := by
  obtain ⟨hitem, -⟩ := leaseOutbox_ok h
  cases hitem

theorem releaseUnsentEffect_outbox {effect : SideEffectRow} {task : TaskRow} {u : Unit}
    (h : releaseUnsentEffect effectId effect task s = .ok (u, s')) : s'.outbox = s.outbox := by
  rw [releaseUnsentEffect] at h
  rcases Tx.ite_ok.mp h with ⟨-, hset⟩ | ⟨-, hwhen⟩
  · exact setEffectState_outbox hset
  · rcases Tx.when_ok.mp hwhen with ⟨-, hset⟩ | ⟨-, rfl⟩
    · exact setEffectState_outbox hset
    · rfl

theorem claimStart_retired {task : Option TaskRow}
    (h : claimStart env outboxId row task s = .ok (none, s')) : RowRetired outboxId s s' := by
  rcases Tx.ite_ok.mp h with ⟨-, hretire⟩ | ⟨-, hlease⟩
  · obtain ⟨_, t, hkill, hpure⟩ := Tx.bind_ok.mp hretire
    obtain ⟨-, rfl⟩ := Tx.pure_ok.mp hpure
    exact killOutbox_retired hkill
  · exact (leaseOutbox_ne_none hlease).elim

theorem claimDispatch_retired {task : TaskRow}
    (h : claimDispatch env outboxId row effectId task s = .ok (none, s')) :
    RowRetired outboxId s s' := by
  rw [claimDispatch, Tx.get_bind_ok] at h
  cases heffect : s.sideEffects.find? effectId with
  | none =>
    rw [heffect] at h
    obtain ⟨_, t, hkill, hpure⟩ := Tx.bind_ok.mp h
    obtain ⟨-, rfl⟩ := Tx.pure_ok.mp hpure
    exact killOutbox_retired hkill
  | some effect =>
    rw [heffect] at h
    obtain ⟨refusal, t, heligible, hrest⟩ := Tx.bind_ok.mp h
    obtain rfl : s = t := Respects.rel (R := Eq) heligible
    rcases Tx.ite_ok.mp hrest with ⟨-, hrefused⟩ | ⟨-, hrest₁⟩
    · obtain ⟨_, t₁, hkill, hrelease⟩ := Tx.bind_ok.mp hrefused
      obtain ⟨_, t₂, hset, hpure⟩ := Tx.bind_ok.mp hrelease
      obtain ⟨-, rfl⟩ := Tx.pure_ok.mp hpure
      exact (killOutbox_retired hkill).then (releaseUnsentEffect_outbox hset)
    · rcases Tx.ite_ok.mp hrest₁ with ⟨-, hrevoked⟩ | ⟨-, hclaim⟩
      · obtain ⟨_, t₁, hkill, hpure⟩ := Tx.bind_ok.mp hrevoked
        obtain ⟨-, rfl⟩ := Tx.pure_ok.mp hpure
        obtain ⟨_, t₂, hkill, hwhen⟩ := Tx.bind_ok.mp hkill
        refine (killOutbox_retired hkill).then ?_
        rcases Tx.when_ok.mp hwhen with ⟨-, hset⟩ | ⟨-, rfl⟩
        · exact setEffectState_outbox hset
        · rfl
      · obtain ⟨_, t₁, -, hlease⟩ := Tx.bind_ok.mp hclaim
        exact (leaseOutbox_ne_none hlease).elim

/-- A claim that brings nothing has found nothing, or has retired what it found. -/
theorem claimOneOutbox_nothing (h : claimOneOutbox env s = .ok (none, s')) :
    claimableOutbox env s = none ∧ s' = s ∨
      ∃ k row, claimableOutbox env s = some (k, row) ∧ RowRetired k s s' := by
  rw [claimOneOutbox, Tx.get_bind_ok] at h
  cases hclaimable : claimableOutbox env s with
  | none =>
    rw [hclaimable] at h
    obtain ⟨-, rfl⟩ := Tx.pure_ok.mp h
    exact .inl ⟨rfl, rfl⟩
  | some r =>
    obtain ⟨k, row⟩ := r
    rw [hclaimable] at h
    refine .inr ⟨k, row, rfl, ?_⟩
    have hclaim : claimRow env k row s = .ok (none, s') := h
    rw [claimRow, Tx.get_bind_ok] at hclaim
    cases hcommand : row.command with
    | agentStart payload =>
      rw [hcommand] at hclaim
      exact claimStart_retired hclaim
    | agentStop runId reason =>
      rw [hcommand] at hclaim
      exact (leaseOutbox_ne_none hclaim).elim
    | sideEffectDispatch payload =>
      rw [hcommand] at hclaim
      cases htask : s.tasks.find? row.taskId with
      | none =>
        simp only [htask] at hclaim
        exact (leaseOutbox_ne_none hclaim).elim
      | some task =>
        simp only [htask] at hclaim
        exact claimDispatch_retired hclaim

/-- Retiring a row takes this row from those that are due, and no other one. -/
theorem RowRetired.due_iff {now : Time} (h : RowRetired outboxId s s') :
    Due now s' k ↔ Due now s k ∧ k ≠ outboxId := by
  rw [Due, Due, show s'.outbox = _ from h, Table.find?_modify]
  constructor
  · rintro ⟨row, hrow, hpending, hdue⟩
    by_cases hk : k = outboxId
    · rw [if_pos hk] at hrow
      obtain ⟨row₀, -, rfl⟩ := Option.map_eq_some_iff.mp hrow
      cases hpending
    · rw [if_neg hk] at hrow
      exact ⟨⟨row, hrow, hpending, hdue⟩, hk⟩
  · rintro ⟨⟨row, hrow, hpending, hdue⟩, hk⟩
    rw [if_neg hk]
    exact ⟨row, hrow, hpending, hdue⟩

/-! ## Drains -/

theorem Draining.run {thread : Nat} {w w₁ : World} (h : Draining thread w w₁) :
    system.Run (fun _ _ ↦ True) w w₁ := by
  induction h with
  | start => exact .refl
  | handled _ claim _ run _ ih => exact (ih.step trivial claim).trans run
  | waited _ step _ ih => exact ih.step trivial step

/-- A drain loses no row, and it leaves nothing behind of what was due at its start exactly when its
last claim does not retire a row while another one that was due at the start is still waiting. -/
theorem drained_completely_iff {thread : Nat} {start : Time} {w last w' : World} {env : Env}
    (h : Drained thread w env last w') :
    (∀ outboxId row, w.db.outbox.find? outboxId = some row →
      ∃ row', w'.db.outbox.find? outboxId = some row') ∧
    (DrainedCompletely start w env w' ↔
      ¬∃ retired row, claimableOutbox env last.db = some (retired, row) ∧
        ∃ outboxId ≠ retired, Due start w.db outboxId ∧ Due env.now last.db outboxId) := by
  constructor
  · intro outboxId row hrow
    have hpersist : Persists w.db w'.db := run_rel (h.loop.run.step trivial h.claim)
    obtain ⟨row', hrow', -⟩ := (hpersist .outbox).1 outboxId row hrow
    exact ⟨row', hrow'⟩
  obtain ⟨db, hclaim⟩ := h.nothing
  have hdb : w'.db = db := by
    have hstep := h.claim
    simp only [system, World.step, World.claim] at hstep
    split at hstep
    · rw [hclaim] at hstep
      obtain rfl := Option.some.inj hstep
      rfl
    · cases hstep
  rw [DrainedCompletely, hdb]
  rcases claimOneOutbox_nothing hclaim with ⟨hnone, rfl⟩ | ⟨k, row, hsome, hretired⟩
  · rw [hnone]
    refine ⟨?_, fun _ outboxId _ ↦ claimableOutbox_none hnone⟩
    rintro - ⟨retired, row, hsome, -⟩
    cases hsome
  · rw [hsome]
    constructor
    · rintro hdone ⟨retired, row', hfound, outboxId, hne, hstart, hdue⟩
      obtain ⟨rfl, -⟩ := Prod.mk.inj (Option.some.inj hfound)
      exact hdone outboxId hstart (hretired.due_iff.mpr ⟨hdue, hne⟩)
    · intro hnot outboxId hstart hdue
      obtain ⟨hbefore, hne⟩ := hretired.due_iff.mp hdue
      exact hnot ⟨k, row, rfl, outboxId, hne, hstart, hbefore⟩

/-! ### Two drains -/

/-- A claim that brings nothing, as a test. -/
def bringsNothing (env : Env) (db : DB) : Bool :=
  match claimOneOutbox env db with
  | .ok (none, _) => true
  | _ => false

theorem bringsNothing_iff {env : Env} {db : DB} :
    bringsNothing env db = true ↔ ∃ db', claimOneOutbox env db = .ok (none, db') := by
  rw [bringsNothing]
  constructor
  · intro h
    split at h
    · next hclaim => exact ⟨_, hclaim⟩
    · cases h
  · rintro ⟨db', hclaim⟩
    rw [hclaim]

/-- What a thread does with the start it has claimed. -/
def sampleHandling : List Label :=
  [.check .silent 0, .call 0 (.start true (.ok false)), .settle .silent 0, .finish 0]

/-- A task has the start of a run in the outbox; behind it is the start of a run of another task,
which waits for a human. -/
def sampleParkedBehind : List Label :=
  let human := AuthContext.ofHuman "owner"
  sampleDispatched ++
    [ .ask human .createTask { title := some "second" },
      .ask human .submitContract { taskId := some "task_iiiiiiiiiiiiii" },
      .ask human .approveContract { decisionId := some "dec_iiiiiiiiiiiiiiiii" },
      .ask human .activateMinimalPlan
        { taskId := some "task_iiiiiiiiiiiiii", workUnitId := some "second" },
      .ask human .dispatchReadyRuns { taskId := some "task_iiiiiiiiiiiiii" },
      .ask human .proposeSideEffect
        { taskId := some "task_iiiiiiiiiiiiii", logicalActionKey := some "notify"
          targetRef := some "owner" } ]

/-- A drain handles the start of a run, and retires the row of the task that waits: nothing else is
left of the two rows that were due. -/
theorem drained_completely_iff_sampleParkedBehind :
    ∃ w last w', system.Reachable w ∧ Drained 0 w .silent last w' ∧
      (∃ k k', k ≠ k' ∧ Due 0 w.db k ∧ Due 0 w.db k') ∧
      (∃ k row, claimableOutbox .silent last.db = some (k, row)) ∧
      DrainedCompletely 0 w .silent w' := by
  have hview : (system.exec system.init sampleParkedBehind).bind (fun w ↦
      (system.step w (.claim .silent 0)).bind fun w₂ ↦
        (system.exec w₂ sampleHandling).bind fun w₃ ↦
          (system.step w₃ (.claim .silent 0)).map fun _ ↦
            ((w.db.outbox.find? "ob_iiiiiiiiiiii").map (fun row ↦ (row.status, row.isDue 0)),
              (w.db.outbox.find? "ob_iiiiiiiiiiiiiiiiiiiiiiiii").map
                (fun row ↦ (row.status, row.isDue 0)),
              (w₂.threads.find? 0).isSome, (w₃.threads.find? 0).isNone,
              bringsNothing .silent w₃.db, (claimableOutbox .silent w₃.db).map Prod.fst,
              w₃.db.outbox.rows.all fun r ↦
                r.1 == "ob_iiiiiiiiiiiiiiiiiiiiiiiii" || r.2.status != .pending)) =
      some (some (.pending, true), some (.pending, true), true, true, true,
        some "ob_iiiiiiiiiiiiiiiiiiiiiiiii", true) := by
    decide +kernel
  obtain ⟨w, hw, hrest⟩ := Option.bind_eq_some_iff.mp hview
  obtain ⟨w₂, hclaim, hrest⟩ := Option.bind_eq_some_iff.mp hrest
  obtain ⟨w₃, hhandled, hrest⟩ := Option.bind_eq_some_iff.mp hrest
  obtain ⟨w', hlast, hseen⟩ := Option.map_eq_some_iff.mp hrest
  simp only [Prod.mk.injEq, Option.isNone_iff_eq_none, Option.map_eq_some_iff] at hseen
  obtain ⟨⟨first, hfirst, hwaits, hdue⟩, ⟨second, hsecond, hwaits', hdue'⟩, hclaimed, hfinished,
    hnothing, ⟨⟨_, row⟩, hretires, rfl⟩, hothers⟩ := hseen
  have hdrained : Drained 0 w .silent w₃ w' :=
    ⟨.handled .start hclaim hclaimed (.of_exec hhandled) hfinished, hlast,
      bringsNothing_iff.mp hnothing⟩
  refine ⟨w, w₃, w', .of_exec hw, hdrained, ⟨_, _, by decide, ⟨first, hfirst, hwaits, hdue⟩, second,
    hsecond, hwaits', hdue'⟩, ⟨_, _, hretires⟩, (drained_completely_iff hdrained).2.mpr ?_⟩
  rintro ⟨retired, row', hsome, k, hne, -, row₃, hrow₃, hpending, -⟩
  obtain ⟨rfl, -⟩ := Prod.mk.inj (Option.some.inj (hretires.symm.trans hsome))
  have hother := List.all_eq_true.mp hothers _ (Table.find?_eq_some_iff.mp hrow₃)
  simp [hpending] at hother
  exact hne hother

/-- A task waits for a human, with the start of a run in the outbox; behind it is the start of a run
of another task. -/
def sampleParkedBefore : List Label :=
  let human := AuthContext.ofHuman "owner"
  sampleDispatched ++
    [ .ask human .proposeSideEffect
        { taskId := some "task_i", logicalActionKey := some "notify", targetRef := some "owner" },
      .ask human .createTask { title := some "second" },
      .ask human .submitContract { taskId := some "task_iiiiiiiiiiiiiiiiii" },
      .ask human .approveContract { decisionId := some "dec_iiiiiiiiiiiiiiiiiiiii" },
      .ask human .activateMinimalPlan
        { taskId := some "task_iiiiiiiiiiiiiiiiii", workUnitId := some "second" },
      .ask human .dispatchReadyRuns { taskId := some "task_iiiiiiiiiiiiiiiiii" } ]

/-- The row of the task that waits is retired, and the drain ends in front of the other one. -/
theorem drained_sampleParkedBefore :
    ∃ w w', system.Reachable w ∧ Drained 0 w .silent w w' ∧
      ¬DrainedCompletely 0 w .silent w' := by
  have hview : (system.exec system.init sampleParkedBefore).bind (fun w ↦
      (system.step w (.claim .silent 0)).map fun w' ↦
        (bringsNothing .silent w.db,
          (w.db.outbox.find? "ob_iiiiiiiiiiiiiiiiiiiiiiiiiiiii").map
            (fun row ↦ (row.status, row.isDue 0)),
          (w'.db.outbox.find? "ob_iiiiiiiiiiiiiiiiiiiiiiiiiiiii").map
            fun row ↦ (row.status, row.isDue 0))) =
      some (true, some (.pending, true), some (.pending, true)) := by
    decide +kernel
  obtain ⟨w, hw, hrest⟩ := Option.bind_eq_some_iff.mp hview
  obtain ⟨w', hlast, hseen⟩ := Option.map_eq_some_iff.mp hrest
  simp only [Prod.mk.injEq, Option.map_eq_some_iff] at hseen
  obtain ⟨hnothing, ⟨row, hrow, hpending, hdue⟩, row', hrow', hpending', hdue'⟩ := hseen
  refine ⟨w, w', .of_exec hw, ⟨.start, hlast, bringsNothing_iff.mp hnothing⟩, fun hdone ↦ ?_⟩
  exact hdone _ ⟨row, hrow, hpending, hdue⟩ ⟨row', hrow', hpending', hdue'⟩

end HibikiCore
