import HibikiCore.Safety.AtMostOnce

/-!
# Cancelling a task whose effect is under way

A cancellation walks the effects of its task twice. The first pass puts an effect whose dispatch is
claimed in doubt. The second pass finds it by its flushed state, sees in memory that it is not being
dispatched any more, and takes it for an effect that was never sent.
-/

namespace HibikiCore

set_option synthInstance.maxSize 100000000
set_option synthInstance.maxHeartbeats 400000

variable {env : Env} {auth : AuthContext} {p : Payload} {result : CommandResult} {s s' : DB}
  {taskId e : String}

/-- The stages of a cancellation: the task is marked, its outbox is revoked, its effects and units
are ended, and its runs are asked to stop. -/
theorem cancelTask_ok (h : cancelTask env auth p s = .ok (result, s')) :
    ∃ taskId task s₁ s₂ s₃, p.taskId = some taskId ∧ s.tasks.find? taskId = some task ∧
      Writes [.tasks] s s₁ ∧
      (∀ id, id ≠ taskId → s₁.tasks.find? id = s.tasks.find? id) ∧
      invalidatePendingOutbox env s taskId s₁ = .ok ((), s₂) ∧
      Tx.each (cancellableEffects s taskId) (cancelEffect s taskId) s₂ = .ok ((), s₃) ∧
      Writes [.workUnitExecutions, .outbox, .events] s₃ s' := by
  rw [cancelTask, Tx.get_bind_ok] at h
  obtain ⟨taskId, t₁, hkey, h₁⟩ := Tx.bind_ok.mp h
  obtain ⟨hid, rfl⟩ := key_ok.mp hkey
  obtain ⟨task, t₂, hget, h₂⟩ := Tx.bind_ok.mp h₁
  obtain ⟨htask, rfl⟩ := getTask_ok.mp hget
  obtain ⟨_, t₃, hmark, h₃⟩ := Tx.bind_ok.mp h₂
  obtain ⟨_, t₄, hstate, h₄⟩ := Tx.bind_ok.mp h₃
  obtain ⟨_, t₅, hrevoke, h₅⟩ := Tx.bind_ok.mp h₄
  obtain ⟨_, t₆, heffects, h₆⟩ := Tx.bind_ok.mp h₅
  have hmarked : Writes [.tasks] t₂ t₃ := Respects.rel hmark
  have hmoved : Writes [.tasks] t₃ t₄ := Respects.rel hstate
  refine ⟨taskId, task, t₄, t₅, t₆, hid, htask, Preord.trans hmarked hmoved, fun id hne ↦ ?_,
    hrevoke, heffects, Respects.rel h₆⟩
  obtain ⟨task', u₁, hget', hstate₁⟩ := Tx.bind_ok.mp hstate
  obtain ⟨-, rfl⟩ := getTask_ok.mp hget'
  obtain ⟨next, u₂, hnext, hmove⟩ := Tx.bind_ok.mp hstate₁
  obtain ⟨-, rfl⟩ := Tx.require_ok.mp hnext
  obtain rfl := Ref.update_ok.mp hmove
  obtain rfl := Ref.update_ok.mp hmark
  exact (Table.find?_modify_of_ne hne _ _).trans (Table.find?_modify_of_ne hne _ _)

/-- What a revocation of the outbox writes. -/
abbrev revocationTables : List Relation :=
  [.outbox, .sideEffects, .agentRuns, .workUnitExecutions, .plannerSessions, .workspaces,
    .activePlanRunMarkers, .activeExecuteRunMarkers]

/-- An effect that is not being dispatched. -/
def NotDispatching (e : String) (s : DB) : Prop :=
  ∃ effect, s.sideEffects.find? e = some effect ∧ effect.state ≠ .dispatching

theorem NotDispatching.of_same (h : NotDispatching e s) (heff : s'.sideEffects = s.sideEffects) :
    NotDispatching e s' := by
  obtain ⟨effect, heffect, hstate⟩ := h
  exact ⟨effect, heff ▸ heffect, hstate⟩

/-- Effects are moved, and none into being dispatched. -/
theorem NotDispatching.modify {e' : String} {g : SideEffectRow → SideEffectRow}
    (h : NotDispatching e s) (heff : s'.sideEffects = s.sideEffects.modify e' g)
    (hg : ∀ a, a.state ≠ .dispatching → (g a).state ≠ .dispatching) : NotDispatching e s' := by
  obtain ⟨effect, heffect, hstate⟩ := h
  by_cases he : e = e'
  · subst he
    exact ⟨g effect, by rw [heff, Table.find?_modify_self, heffect]; rfl, hg effect hstate⟩
  · exact ⟨effect, by rw [heff, Table.find?_modify_of_ne he, heffect], hstate⟩

/-! ## The first pass -/

/-- An effect that is being dispatched moves to a state. -/
def moveDispatching (state : SideEffectState) (a : SideEffectRow) : SideEffectRow :=
  if a.state == .dispatching then { a with state } else a

theorem moveDispatching_state {state : SideEffectState} (hstate : state ≠ .dispatching)
    (a : SideEffectRow) : (moveDispatching state a).state ≠ .dispatching := by
  rw [moveDispatching]
  split
  · exact hstate
  · next hne => simpa using hne

/-- What a revoked row does to the effects. -/
theorem revokeOutboxRow_effects {task : TaskRow} {stops stops' : List String}
    {r : String × OutboxRow} (h : revokeOutboxRow env task stops r s = .ok (stops', s')) :
    r.2.command.dispatchEffect = none ∧ s'.sideEffects = s.sideEffects ∨
      ∃ payload state, r.2.command = .sideEffectDispatch payload ∧ state ≠ .dispatching ∧
        s'.sideEffects = s.sideEffects.modify payload.effectId (moveDispatching state) := by
  rw [revokeOutboxRow] at h
  cases hcommand : r.2.command with
  | sideEffectDispatch payload =>
    right
    rw [hcommand] at h
    rcases Tx.ite_ok.mp h with ⟨-, h⟩ | ⟨-, h⟩
    · obtain ⟨_, t, hrevoke, hpure⟩ := Tx.bind_ok.mp h
      obtain ⟨-, rfl⟩ := Tx.pure_ok.mp hpure
      obtain ⟨_, u, hmark, hack⟩ := Tx.bind_ok.mp hrevoke
      obtain ⟨heff, -⟩ := effects_updateWhere hmark
      obtain ⟨-, heff'⟩ := outbox_update hack
      exact ⟨payload, .unknown, rfl, by simp, heff'.trans heff⟩
    · obtain ⟨_, t, hrevoke, hpure⟩ := Tx.bind_ok.mp h
      obtain ⟨-, rfl⟩ := Tx.pure_ok.mp hpure
      obtain ⟨_, u, hkill, hmark⟩ := Tx.bind_ok.mp hrevoke
      obtain ⟨-, heff⟩ := outbox_update hkill
      obtain ⟨heff', -⟩ := effects_updateWhere hmark
      rw [heff] at heff'
      exact ⟨payload, _, rfl, by cases task.cancelIntent <;> simp, heff'⟩
  | agentStart payload =>
    refine .inl ⟨rfl, ?_⟩
    rw [hcommand] at h
    have hsame : Writes (.outbox :: besideEffects) s s' := by
      rcases Tx.ite_ok.mp h with ⟨-, h⟩ | ⟨-, h⟩
      · rw [revokeUncertainStart] at h
        exact Respects.rel h
      · rw [revokeUnsentStart] at h
        exact Respects.rel h
    exact ((hsame .sideEffects).2 (by decide)).symm
  | agentStop runId reason =>
    rw [hcommand] at h
    obtain ⟨-, rfl⟩ := Tx.pure_ok.mp h
    exact .inl ⟨rfl, rfl⟩

theorem NotDispatching.revokeOutboxRow {task : TaskRow} {stops stops' : List String}
    {r : String × OutboxRow} (h : NotDispatching e s)
    (hrun : revokeOutboxRow env task stops r s = .ok (stops', s')) : NotDispatching e s' := by
  rcases revokeOutboxRow_effects hrun with ⟨-, heff⟩ | ⟨payload, state, -, hstate, heff⟩
  · exact h.of_same heff
  · exact h.modify heff fun a _ ↦ moveDispatching_state hstate a

/-- After the first pass no effect of the task is being dispatched whose row was waiting or
claimed. -/
theorem invalidatePendingOutbox_notDispatching {flushed : DB} {k : String} {row : OutboxRow}
    {payload : DispatchPayload} (hrow : s.outbox.find? k = some row)
    (hcommand : row.command = .sideEffectDispatch payload) (htask : row.taskId = taskId)
    (hlive : row.isLive = true) (heffect : (s.sideEffects.find? payload.effectId).isSome)
    (h : invalidatePendingOutbox env flushed taskId s = .ok ((), s')) :
    NotDispatching payload.effectId s' := by
  obtain ⟨task, t, hget, h₁⟩ := Tx.bind_ok.mp h
  obtain ⟨-, rfl⟩ := getTask_ok.mp hget
  rw [Tx.get_bind_ok] at h₁
  obtain ⟨stops, u, hloop, hstops⟩ := Tx.bind_ok.mp h₁
  have hquiet : EffectsQuiet u s' := Respects.rel hstops
  refine NotDispatching.of_same ?_ hquiet.effects
  have hmem : (k, row) ∈ revocableOutbox t taskId := by
    rw [revocableOutbox, Table.mem_select]
    refine ⟨hrow, ?_⟩
    simp [htask, hlive, hcommand, OutboxCommand.stopRun]
  have hpersist (t₁ t₂ : DB) (r : String × OutboxRow) (b b' : List String)
      (hround : revokeOutboxRow env task b r t₁ = .ok (b', t₂))
      (hsome : (t₁.sideEffects.find? payload.effectId).isSome) :
      (t₂.sideEffects.find? payload.effectId).isSome := by
    obtain ⟨effect, heff⟩ := Option.isSome_iff_exists.mp hsome
    have hp : Persists t₁ t₂ := Respects.rel hround
    obtain ⟨effect', heff', -⟩ := (hp .sideEffects).1 _ effect heff
    rw [heff']
    rfl
  refine Tx.fold_mem (I := fun t ↦ (t.sideEffects.find? payload.effectId).isSome = true)
    (P := NotDispatching payload.effectId) hmem ?_ ?_ ?_ heffect hloop
  · exact fun r _ b b' t₁ t₂ hsome hround ↦ hpersist t₁ t₂ r b b' hround hsome
  · intro b b' t₁ t₂ hsome hround
    obtain ⟨effect, heff⟩ := Option.isSome_iff_exists.mp hsome
    rcases revokeOutboxRow_effects hround with
      ⟨hnone, -⟩ | ⟨payload', state, hcommand', hstate, heff'⟩
    · rw [hcommand] at hnone
      cases hnone
    · obtain rfl := OutboxCommand.sideEffectDispatch.inj (hcommand.symm.trans hcommand')
      refine ⟨moveDispatching state effect, ?_, moveDispatching_state hstate effect⟩
      rw [heff', Table.find?_modify_self, heff]
      rfl
  · exact fun r _ b b' t₁ t₂ _ hnot hround ↦ hnot.revokeOutboxRow hround

/-! ## The second pass -/

/-- An effect that the second pass visits and that is not being dispatched is cancelled. -/
theorem cancelEffect_cancelled {flushed : DB} (hnot : NotDispatching e s)
    (h : cancelEffect flushed taskId e s = .ok ((), s')) :
    ∃ effect, s'.sideEffects.find? e = some effect ∧ effect.state = .cancelled := by
  obtain ⟨effect, heffect, hstate⟩ := hnot
  rw [cancelEffect, Tx.get_bind_ok, heffect, Tx.withSome_some] at h
  rcases Tx.ite_ok.mp h with ⟨hdispatching, -⟩ | ⟨-, hcancel⟩
  · exact absurd hdispatching hstate
  · obtain ⟨heff, -⟩ := effects_update hcancel
    refine ⟨{ effect with state := .cancelled }, ?_, rfl⟩
    rw [heff, Table.find?_modify_self, heffect]
    rfl

/-- What a visit of the second pass does to the effects. -/
theorem cancelEffect_effects {flushed : DB} (h : cancelEffect flushed taskId e s = .ok ((), s')) :
    s'.sideEffects = s.sideEffects ∨
      s'.sideEffects = s.sideEffects.modify e fun a ↦ { a with state := .cancelled } := by
  rw [cancelEffect, Tx.get_bind_ok, Tx.withSome_ok] at h
  rcases h with ⟨effect, -, h⟩ | ⟨-, rfl⟩
  · rcases Tx.ite_ok.mp h with ⟨-, h⟩ | ⟨-, hcancel⟩
    · rcases Tx.when_ok.mp h with ⟨-, hcancel⟩ | ⟨-, rfl⟩
      · exact .inr (effects_update hcancel).1
      · exact .inl rfl
    · exact .inr (effects_update hcancel).1
  · exact .inl rfl

theorem cancelEffects_cancelled {flushed : DB} (hmem : e ∈ cancellableEffects flushed taskId)
    (hnot : NotDispatching e s)
    (h : Tx.each (cancellableEffects flushed taskId) (cancelEffect flushed taskId) s
      = .ok ((), s')) :
    ∃ effect, s'.sideEffects.find? e = some effect ∧ effect.state = .cancelled := by
  have hkeep (e' : String) (t t' : DB) (hround : cancelEffect flushed taskId e' t = .ok ((), t'))
      (hnot : NotDispatching e t) : NotDispatching e t' := by
    rcases cancelEffect_effects hround with heff | heff
    · exact hnot.of_same heff
    · exact hnot.modify heff fun _ _ ↦ by simp
  refine Tx.each_mem (I := NotDispatching e) (P := fun t ↦ ∃ effect,
    t.sideEffects.find? e = some effect ∧ effect.state = .cancelled) hmem
    (fun e' _ t t' ht hround ↦ hkeep e' t t' hround ht)
    (fun _ _ ht hround ↦ cancelEffect_cancelled ht hround) ?_ hnot h
  rintro e' - t t' - ⟨effect, heffect, hstate⟩ hround
  rcases cancelEffect_effects hround with heff | heff
  · exact ⟨effect, heff ▸ heffect, hstate⟩
  · by_cases he : e = e'
    · subst he
      exact ⟨_, by rw [heff, Table.find?_modify_self, heffect]; rfl, rfl⟩
    · exact ⟨effect, by rw [heff, Table.find?_modify_of_ne he, heffect], hstate⟩

/-! ## The whole cancellation -/

theorem cancelTask_cancelled {k : String} {row : OutboxRow} {payload : DispatchPayload}
    {effect : SideEffectRow} (h : cancelTask env auth p s = .ok (result, s'))
    (htask : p.taskId = some effect.taskId)
    (heffect : s.sideEffects.find? payload.effectId = some effect)
    (hstate : effect.state = .dispatching) (hrow : s.outbox.find? k = some row)
    (hcommand : row.command = .sideEffectDispatch payload) (howner : row.taskId = effect.taskId)
    (hlive : row.isLive = true) :
    ∃ effect', s'.sideEffects.find? payload.effectId = some effect' ∧
      effect'.state = .cancelled := by
  obtain ⟨taskId, task, s₁, s₂, s₃, hid, -, hmark, -, hrevoke, hcancel, hrest⟩ := cancelTask_ok h
  obtain rfl := Option.some.inj (htask.symm.trans hid)
  have heff₁ : s.sideEffects = s₁.sideEffects := (hmark .sideEffects).2 (by decide)
  have hout₁ : s.outbox = s₁.outbox := (hmark .outbox).2 (by decide)
  have heff₃ : s₃.sideEffects = s'.sideEffects := (hrest .sideEffects).2 (by decide)
  have hmem : payload.effectId ∈ cancellableEffects s effect.taskId := by
    refine List.mem_map.mpr ⟨(payload.effectId, effect), ?_, rfl⟩
    rw [Table.mem_select]
    exact ⟨heffect, by simp [hstate, SideEffectState.isCancellable]⟩
  have hnot : NotDispatching payload.effectId s₂ := by
    refine invalidatePendingOutbox_notDispatching (hout₁ ▸ hrow) hcommand howner hlive ?_ hrevoke
    rw [← heff₁, heffect]
    rfl
  rw [← heff₃]
  exact cancelEffects_cancelled hmem hnot hcancel

/-- A cancellation that commits while the dispatch of an effect of its task is claimed leaves that
effect cancelled: whatever the state of the system, it is not left in doubt. The revoke epoch of a
task is what a cancellation that commits raises. -/
theorem claimed_effect_cancelled {w w' : World} {env : Env} {r : Request} {k : String}
    {row : OutboxRow} {payload : DispatchPayload} {effect : SideEffectRow} {task task' : TaskRow}
    (h : system.Reachable w) (hstep : system.step w (.command env r) = some w')
    (hcancel : r.operation = .cancelTask) (hrow : w.db.outbox.find? k = some row)
    (hcommand : row.command = .sideEffectDispatch payload) (hstatus : row.status = .inFlight)
    (heffect : w.db.sideEffects.find? payload.effectId = some effect)
    (hstate : effect.state = .dispatching) (htask : w.db.tasks.find? effect.taskId = some task)
    (htask' : w'.db.tasks.find? effect.taskId = some task')
    (hcommitted : task.revokeEpoch < task'.revokeEpoch) :
    ∃ effect', w'.db.sideEffects.find? payload.effectId = some effect' ∧
      effect'.state = .cancelled := by
  obtain ⟨-, hinv⟩ := (sendInv_invariant fun _ _ ↦ True).of_reachable h
  obtain ⟨effect₁, heffect₁, howner, -, -⟩ := hinv.dispatch.fits hrow hcommand
  obtain rfl := Option.some.inj (heffect.symm.trans heffect₁)
  have hchanged : w'.db.tasks.find? effect.taskId ≠ w.db.tasks.find? effect.taskId := by
    intro hsame
    rw [htask, htask'] at hsame
    obtain rfl := Option.some.inj hsame
    exact absurd hcommitted (lt_irrefl _)
  have hcases : World.Step w (.command env r) w' := World.step_cases hstep
  cases hcases with
  | command hrun =>
    rcases execute_ok hrun with hrecords | ⟨t, t', hran, hrecords⟩
    · exact absurd (congrArg (·.find? effect.taskId) ((hrecords .tasks).2 (by decide))).symm hchanged
    · obtain ⟨n, rfl⟩ := hran.start
      have hran' := hran.run
      rw [hcancel] at hran'
      have heff : t'.sideEffects = _ := (hrecords .sideEffects).2 (by decide)
      have htasks : t'.tasks = _ := (hrecords .tasks).2 (by decide)
      obtain ⟨taskId, task₁, s₁, s₂, s₃, hid, -, -, hother, hrevoke, hwalk, hrest⟩ :=
        cancelTask_ok hran'
      have hsame : effect.taskId = taskId := by
        by_contra hne
        have hrevoked : Writes revocationTables s₁ s₂ := Respects.rel hrevoke
        have hwalked : Writes [.sideEffects] s₂ s₃ := Respects.rel hwalk
        have h₂ : s₁.tasks = s₂.tasks := (hrevoked .tasks).2 (by decide)
        have h₃ : s₂.tasks = s₃.tasks := (hwalked .tasks).2 (by decide)
        have h₄ : s₃.tasks = t'.tasks := (hrest .tasks).2 (by decide)
        refine hchanged ?_
        rw [← htasks, ← h₄, ← h₃, ← h₂]
        exact hother _ hne
      have hp : r.payload.taskId = some effect.taskId := hsame ▸ hid
      obtain ⟨effect', heffect', hstate'⟩ := cancelTask_cancelled hran' hp heffect hstate hrow
        hcommand howner.symm (OutboxRow.isLive_iff.mpr (.inr hstatus))
      exact ⟨effect', heff ▸ heffect', hstate'⟩
  | raised | ended | idle => exact absurd rfl hchanged

/-- The owner cancels the task of the samples. -/
def sampleCancel : Label :=
  .ask (.ofHuman "owner") .cancelTask { taskId := some "task_i" }

/-- What the sample dispatches. -/
def samplePayload : DispatchPayload where
  effectId := "eff_iiiiiiii"
  externalIdempotencyKey := "ext:task_i:notify"
  parameters := "\x7b\x7d"
  targetRef := "owner"
  actionType := "external.write"
  supportsIdempotentQuery := true

/-- The claimed row of the sample, its effect, and the revoke epoch of the task. -/
def sampleView (w : World) :
    Option (OutboxStatus × OutboxCommand) × Option (SideEffectState × String) × Option Nat :=
  ((w.db.outbox.find? "ob_iiiiiiiiii").map fun row ↦ (row.status, row.command),
    (w.db.sideEffects.find? "eff_iiiiiiii").map fun effect ↦ (effect.state, effect.taskId),
    (w.db.tasks.find? "task_i").map (·.revokeEpoch))

theorem sampleCancel_view :
    ((system.exec system.init sampleClaimed).bind fun w ↦
      (system.step w sampleCancel).map fun w' ↦ (sampleView w, sampleView w')) =
      some ((some (.inFlight, .sideEffectDispatch samplePayload),
          some (.dispatching, "task_i"), some 0),
        (some (.acked, .sideEffectDispatch samplePayload),
          some (.cancelled, "task_i"), some 1)) := by
  decide +kernel

/-- The effect of the sample may be on its way to the adapter, and the cancellation leaves it
cancelled, not in doubt. -/
theorem sampleCancel_forgets :
    ∃ w w', system.exec system.init sampleClaimed = some w ∧
      system.step w sampleCancel = some w' ∧
      (w.db.outbox.find? "ob_iiiiiiiiii").map (·.status) = some .inFlight ∧
      (w.db.sideEffects.find? "eff_iiiiiiii").map (·.state) = some .dispatching ∧
      (w'.db.sideEffects.find? "eff_iiiiiiii").map (·.state) = some .cancelled := by
  obtain ⟨w, hw, hw'⟩ := Option.bind_eq_some_iff.mp sampleCancel_view
  obtain ⟨w', hstep, hview⟩ := Option.map_eq_some_iff.mp hw'
  simp only [Prod.mk.injEq, sampleView, Option.map_eq_some_iff] at hview
  obtain ⟨⟨⟨row, hrow, hstatus, -⟩, ⟨effect, heffect, hstate, -⟩, -⟩,
    -, ⟨effect', heffect', hstate', -⟩, -⟩ := hview
  refine ⟨w, w', hw, hstep, ?_, ?_, ?_⟩
  · rw [hrow, Option.map_some, hstatus]
  · rw [heffect, Option.map_some, hstate]
  · rw [heffect', Option.map_some, hstate']

theorem claimed_effect_cancelled_sample :
    ∃ w w' effect', system.exec system.init sampleClaimed = some w ∧
      system.step w sampleCancel = some w' ∧
      w'.db.sideEffects.find? "eff_iiiiiiii" = some effect' ∧ effect'.state = .cancelled := by
  obtain ⟨w, hw, hw'⟩ := Option.bind_eq_some_iff.mp sampleCancel_view
  obtain ⟨w', hstep, hview⟩ := Option.map_eq_some_iff.mp hw'
  simp only [Prod.mk.injEq, sampleView, Option.map_eq_some_iff] at hview
  obtain ⟨⟨⟨row, hrow, hstatus, hcommand⟩, ⟨effect, heffect, hstate, howner⟩, task, htask, hepoch⟩,
    -, -, task', htask', hepoch'⟩ := hview
  have hcommitted : task.revokeEpoch < task'.revokeEpoch := by
    rw [hepoch, hepoch']
    exact Nat.zero_lt_one
  obtain ⟨effect', heffect', hcancelled⟩ := claimed_effect_cancelled
    (.of_exec hw) hstep rfl hrow hcommand hstatus heffect hstate (howner ▸ htask)
    (howner ▸ htask') hcommitted
  exact ⟨w, w', effect', hw, hstep, heffect', hcancelled⟩

end HibikiCore
