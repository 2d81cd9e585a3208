import HibikiCore.Safety.Claims

/-!
# Threads and the rows they have claimed

A thread keeps the row it has claimed in memory, while other transactions change that row. What it
remembers of the row stays true, and a start or a dispatch is claimed by one thread only, once. So
an adapter is called at most once for each row, in every run of the system.
-/

namespace HibikiCore

set_option synthInstance.maxSize 100000000
set_option synthInstance.maxHeartbeats 400000

/-- The adapter has not been called. -/
def Phase.isUncalled : Phase → Bool
  | .claimed | .cleared _ _ => true
  | _ => false

/-- A row that was claimed at some time; a start or a dispatch does not wait any more. -/
structure WasClaimed (s : DB) (k taskId : String) (command : OutboxCommand) (row : OutboxRow) :
    Prop where
  found : s.outbox.find? k = some row
  sameCommand : row.command = command
  sameTask : row.taskId = taskId
  status : command.stopRun = none → row.status ≠ .pending

/-- What a transaction leaves of a claimed row. -/
theorem WasClaimed.of_kept {s s' : DB} {k taskId : String} {command : OutboxCommand}
    {row : OutboxRow} (hp : Persists s s') (hc : ClaimsKept s s')
    (h : WasClaimed s k taskId command row) : ∃ row', WasClaimed s' k taskId command row' := by
  obtain ⟨row', hrow', hfixed⟩ := (hp .outbox).1 k row h.found
  have hcommand : row'.command = row.command := congrArg (·.2.1) hfixed
  have htask : row'.taskId = row.taskId := congrArg (·.1) hfixed
  refine ⟨row', hrow', hcommand.trans h.sameCommand, htask.trans h.sameTask, fun hstop ↦ ?_⟩
  obtain ⟨row'', hrow'', -, hstatus⟩ :=
    hc k row h.found (h.sameCommand.symm ▸ hstop) (h.status hstop)
  obtain rfl := Option.some.inj (hrow'.symm.trans hrow'')
  exact hstatus

/-- What is true of threads, of their rows and of the calls that were made. -/
structure ThreadInv (w : World) : Prop where
  row : ∀ {id t}, w.threads.find? id = some t →
    ∃ row, WasClaimed w.db t.item.outboxId t.item.taskId t.item.command row
  /-- A start or a dispatch has one thread. -/
  single : ∀ {id id' t t'}, w.threads.find? id = some t → w.threads.find? id' = some t' →
    t.item.outboxId = t'.item.outboxId → t.item.command.stopRun = none → id = id'
  sendRow : ∀ c ∈ w.sends, ∃ row, WasClaimed w.db c.outboxId c.taskId
    (.sideEffectDispatch c.payload) row
  startRow : ∀ c ∈ w.starts, ∃ row payload, payload.runId = c.runId ∧
    WasClaimed w.db c.outboxId c.taskId (.agentStart payload) row
  unsent : ∀ {id t}, w.threads.find? id = some t → t.phase.isUncalled = true →
    t.item.command.stopRun = none → ∀ c ∈ w.sends, c.outboxId ≠ t.item.outboxId
  unstarted : ∀ {id t}, w.threads.find? id = some t → t.phase.isUncalled = true →
    t.item.command.stopRun = none → ∀ c ∈ w.starts, c.outboxId ≠ t.item.outboxId
  sentOnce : (w.sends.map Send.outboxId).Nodup
  startedOnce : (w.starts.map Start.outboxId).Nodup

/-- The threads after a step are threads from before it, and none has gone back before its call. -/
def ThreadsKept (w w' : World) : Prop :=
  ∀ id t', w'.threads.find? id = some t' → ∃ t, w.threads.find? id = some t ∧
    t.item = t'.item ∧ (t'.phase.isUncalled = true → t.phase.isUncalled = true)

variable {w w' : World} {l : Label}

theorem ThreadsKept.of_same (h : w'.threads = w.threads) : ThreadsKept w w' :=
  fun _ t ht ↦ ⟨t, h ▸ ht, rfl, id⟩

/-- A thread moves on to a phase that comes after its call, or that came before it as well. -/
theorem ThreadsKept.setPhase {id : Nat} {t : Thread} {phase : Phase}
    (hthread : w.threads.find? id = some t)
    (hphase : phase.isUncalled = true → t.phase.isUncalled = true) :
    ThreadsKept w (w.setPhase id phase) := by
  intro id' t' ht'
  rw [World.find?_setPhase] at ht'
  split at ht'
  · next heq =>
    subst heq
    rw [hthread] at ht'
    obtain rfl := Option.some.inj ht'
    exact ⟨t, hthread, rfl, hphase⟩
  · exact ⟨t', ht', rfl, fun h ↦ h⟩

theorem ThreadsKept.endThread {id : Nat} : ThreadsKept w (w.endThread id) := by
  intro id' t' ht'
  rw [World.find?_endThread] at ht'
  split at ht'
  · cases ht'
  · exact ⟨t', ht', rfl, fun h ↦ h⟩

/-- No new thread and no new call. -/
theorem ThreadInv.kept (h : ThreadInv w) (hp : Persists w.db w'.db) (hc : ClaimsKept w.db w'.db)
    (hthreads : ThreadsKept w w') (hsends : w'.sends = w.sends) (hstarts : w'.starts = w.starts) :
    ThreadInv w' where
  row ht' := by
    obtain ⟨t, ht, hitem, -⟩ := hthreads _ _ ht'
    obtain ⟨row, hrow⟩ := h.row ht
    exact hitem ▸ hrow.of_kept hp hc
  single ht₁ ht₂ hk hstop := by
    obtain ⟨t₁, ht₁, hitem₁, -⟩ := hthreads _ _ ht₁
    obtain ⟨t₂, ht₂, hitem₂, -⟩ := hthreads _ _ ht₂
    rw [← hitem₁] at hk hstop
    rw [← hitem₂] at hk
    exact h.single ht₁ ht₂ hk hstop
  sendRow c hmem := by
    obtain ⟨row, hrow⟩ := h.sendRow c (hsends ▸ hmem)
    exact hrow.of_kept hp hc
  startRow c hmem := by
    obtain ⟨row, payload, hrun, hrow⟩ := h.startRow c (hstarts ▸ hmem)
    obtain ⟨row', hrow'⟩ := hrow.of_kept hp hc
    exact ⟨row', payload, hrun, hrow'⟩
  unsent ht' hphase hstop c hmem := by
    obtain ⟨t, ht, hitem, hback⟩ := hthreads _ _ ht'
    rw [← hitem] at hstop ⊢
    exact h.unsent ht (hback hphase) hstop c (hsends ▸ hmem)
  unstarted ht' hphase hstop c hmem := by
    obtain ⟨t, ht, hitem, hback⟩ := hthreads _ _ ht'
    rw [← hitem] at hstop ⊢
    exact h.unstarted ht (hback hphase) hstop c (hstarts ▸ hmem)
  sentOnce := hsends ▸ h.sentOnce
  startedOnce := hstarts ▸ h.startedOnce

/-- A row that waited is claimed by a new thread: no other thread has it, and no call was made for
it, since a row that was claimed once does not wait again. -/
theorem ThreadInv.claim {id : Nat} {item : OutboxItem} {env : Env} {db : DB} (h : ThreadInv w)
    (hp : Persists w.db db) (hc : ClaimsKept w.db db) (hnew : w.threads.find? id = none)
    (hrun : claimOneOutbox env w.db = .ok (some item, db)) :
    ThreadInv { w with db, threads := w.threads.insert id ⟨item, .claimed⟩ } := by
  obtain ⟨k, row, hrow, hpending, hitem, hout⟩ := claimOneOutbox_claimed hrun
  subst hitem
  have hclaimed : WasClaimed db k row.taskId row.command (row.leased env) := by
    refine ⟨?_, rfl, rfl, fun _ ↦ by simp [OutboxRow.leased]⟩
    rw [hout, Table.find?_modify_self, hrow]
    rfl
  have hwaits {taskId command row'} (hother : WasClaimed w.db k taskId command row') :
      command.stopRun ≠ none := fun hstop ↦ by
    obtain rfl := Option.some.inj (hrow.symm.trans hother.found)
    exact hother.status hstop hpending
  have hthread {id' t'} (ht' : (w.threads.insert id ⟨⟨k, row.taskId, row.command⟩,
      .claimed⟩).find? id' = some t') :
      (id' = id ∧ t' = ⟨⟨k, row.taskId, row.command⟩, .claimed⟩) ∨
        id' ≠ id ∧ w.threads.find? id' = some t' := by
    rw [Table.find?_insert hnew] at ht'
    split at ht'
    · next heq => exact .inl ⟨heq, (Option.some.inj ht').symm⟩
    · next hne => exact .inr ⟨hne, ht'⟩
  have hold {id' t'} (ht' : w.threads.find? id' = some t') (hk : t'.item.outboxId = k) :
      t'.item.command.stopRun ≠ none := by
    obtain ⟨row', hrow'⟩ := h.row ht'
    exact hwaits (hk ▸ hrow')
  have hcommand {id' t'} (ht' : w.threads.find? id' = some t') (hk : t'.item.outboxId = k) :
      t'.item.command = row.command := by
    obtain ⟨row', hrow'⟩ := h.row ht'
    obtain rfl := Option.some.inj (hrow.symm.trans (hk ▸ hrow'.found))
    exact hrow'.sameCommand.symm
  refine ⟨fun ht' ↦ ?_, fun {id₁ id₂ t₁ t₂} ht₁ ht₂ hk hstop ↦ ?_, fun c hmem ↦ ?_, fun c hmem ↦ ?_,
    fun {id' t'} ht' hphase hstop c hmem ↦ ?_, fun {id' t'} ht' hphase hstop c hmem ↦ ?_,
    h.sentOnce, h.startedOnce⟩
  · rcases hthread ht' with ⟨-, rfl⟩ | ⟨-, ht'⟩
    · exact ⟨_, hclaimed⟩
    · obtain ⟨row', hrow'⟩ := h.row ht'
      exact hrow'.of_kept hp hc
  · rcases hthread ht₁ with ⟨h₁, rfl⟩ | ⟨h₁, ht₁'⟩ <;> rcases hthread ht₂ with ⟨h₂, rfl⟩ | ⟨h₂, ht₂'⟩
    · exact h₁.trans h₂.symm
    · exact absurd (hcommand ht₂' hk.symm ▸ hstop) (hold ht₂' hk.symm)
    · exact absurd hstop (hold ht₁' hk)
    · exact h.single ht₁' ht₂' hk hstop
  · obtain ⟨row', hrow'⟩ := h.sendRow c hmem
    exact hrow'.of_kept hp hc
  · obtain ⟨row', payload, hrunId, hrow'⟩ := h.startRow c hmem
    obtain ⟨row'', hrow''⟩ := hrow'.of_kept hp hc
    exact ⟨row'', payload, hrunId, hrow''⟩
  · rcases hthread ht' with ⟨-, rfl⟩ | ⟨-, ht'⟩
    · intro hk
      obtain ⟨row', hrow'⟩ := h.sendRow c hmem
      exact hwaits (hk ▸ hrow') rfl
    · exact h.unsent ht' hphase hstop c hmem
  · rcases hthread ht' with ⟨-, rfl⟩ | ⟨-, ht'⟩
    · intro hk
      obtain ⟨row', payload, -, hrow'⟩ := h.startRow c hmem
      exact hwaits (hk ▸ hrow') rfl
    · exact h.unstarted ht' hphase hstop c hmem

theorem Phase.after_isUncalled {α : Type} {retries : Nat} {f : α → Reply}
    {reply : Except String α} : (Phase.after retries f reply).isUncalled = false := by
  cases reply <;> rfl

/-- A thread of which the adapter was called is not one of the others. -/
theorem ThreadInv.not_called {id id' : Nat} {t t' : Thread} {phase : Phase} (h : ThreadInv w)
    (hthread : w.threads.find? id = some t) (hstop : t.item.command.stopRun = none)
    (hphase : phase.isUncalled = false)
    (ht' : (w.setPhase id phase).threads.find? id' = some t')
    (hphase' : t'.phase.isUncalled = true) :
    t.item.outboxId ≠ t'.item.outboxId := by
  intro hk
  rw [World.find?_setPhase] at ht'
  split at ht'
  · next heq =>
    subst heq
    rw [hthread] at ht'
    obtain rfl := Option.some.inj ht'
    rw [hphase] at hphase'
    cases hphase'
  · next hne => exact hne (h.single hthread ht' hk hstop).symm

theorem ThreadInv.sent {id : Nat} {item : OutboxItem} {db : DB} {now : Time}
    {payload : DispatchPayload} {reply : Except String Receipt} (h : ThreadInv w)
    (hthread : w.threads.find? id = some ⟨item, .cleared db now⟩)
    (hcommand : item.command = .sideEffectDispatch payload) :
    ThreadInv ({ w with
      sends := ⟨item.outboxId, item.taskId, payload, db, now⟩ :: w.sends }.setPhase id
        (Phase.after 1 .receipt reply)) := by
  have hstop : item.command.stopRun = none := by rw [hcommand]; rfl
  have hkept : ThreadInv (w.setPhase id (Phase.after 1 .receipt reply)) := by
    refine h.kept (Preord.refl _) (Preord.refl _) (.setPhase hthread ?_) rfl rfl
    rw [Phase.after_isUncalled]
    exact fun h ↦ nomatch h
  refine ⟨hkept.row, hkept.single, fun c hmem ↦ ?_, hkept.startRow, ?_, hkept.unstarted, ?_,
    hkept.startedOnce⟩
  · rcases List.mem_cons.mp hmem with rfl | hmem
    · obtain ⟨row, hrow⟩ := h.row hthread
      exact ⟨row, hcommand ▸ hrow⟩
    · exact hkept.sendRow c hmem
  · intro id' t' ht' hphase' hstop' c hmem
    rcases List.mem_cons.mp hmem with rfl | hmem
    · exact h.not_called hthread hstop Phase.after_isUncalled ht' hphase'
    · exact hkept.unsent ht' hphase' hstop' c hmem
  · refine List.nodup_cons.mpr ⟨fun hmem ↦ ?_, h.sentOnce⟩
    obtain ⟨c, hmem, hk⟩ := List.mem_map.mp hmem
    exact h.unsent hthread rfl hstop c hmem hk

theorem ThreadInv.started {id : Nat} {item : OutboxItem} {db : DB} {now : Time}
    {payload : StartPayload} {alive : List String} {reply : Except String Bool} (h : ThreadInv w)
    (hthread : w.threads.find? id = some ⟨item, .cleared db now⟩)
    (hcommand : item.command = .agentStart payload) :
    ThreadInv ({ w with
      alive
      starts := ⟨item.outboxId, item.taskId, payload.runId, db⟩ :: w.starts }.setPhase id
        (Phase.after 0 .started reply)) := by
  have hstop : item.command.stopRun = none := by rw [hcommand]; rfl
  have hkept : ThreadInv (w.setPhase id (Phase.after 0 .started reply)) := by
    refine h.kept (Preord.refl _) (Preord.refl _) (.setPhase hthread ?_) rfl rfl
    rw [Phase.after_isUncalled]
    exact fun h ↦ nomatch h
  refine ⟨hkept.row, hkept.single, hkept.sendRow, fun c hmem ↦ ?_, hkept.unsent, ?_,
    hkept.sentOnce, ?_⟩
  · rcases List.mem_cons.mp hmem with rfl | hmem
    · obtain ⟨row, hrow⟩ := h.row hthread
      exact ⟨row, payload, rfl, hcommand ▸ hrow⟩
    · exact hkept.startRow c hmem
  · intro id' t' ht' hphase' hstop' c hmem
    rcases List.mem_cons.mp hmem with rfl | hmem
    · exact h.not_called hthread hstop Phase.after_isUncalled ht' hphase'
    · exact hkept.unstarted ht' hphase' hstop' c hmem
  · refine List.nodup_cons.mpr ⟨fun hmem ↦ ?_, h.startedOnce⟩
    obtain ⟨c, hmem, hk⟩ := List.mem_map.mp hmem
    exact h.unstarted hthread rfl hstop c hmem hk

/-- Every step keeps what is true of threads. -/
theorem ThreadInv.step (h : ThreadInv w) (hstep : system.step w l = some w') : ThreadInv w' := by
  have hp : Persists w.db w'.db := step_rel hstep
  have hc : ClaimsKept w.db w'.db := step_rel hstep
  cases World.step_cases hstep with
  | command | unclaimed | reconciled | exited | tool | toolOutcome | idle =>
    exact h.kept hp hc (.of_same rfl) rfl rfl
  | claimed hnew hrun => exact h.claim hp hc hnew hrun
  | cleared hthread => exact h.kept hp hc (.setPhase hthread fun _ ↦ rfl) rfl rfl
  | refused => exact h.kept hp hc .endThread rfl rfl
  | started hthread hcommand => exact h.started hthread hcommand
  | sent hthread hcommand => exact h.sent hthread hcommand
  | stopped hthread =>
    refine h.kept hp hc (.setPhase hthread ?_) rfl rfl
    rw [Phase.after_isUncalled]
    exact fun h ↦ nomatch h
  | settled hthread => exact h.kept hp hc (.setPhase hthread fun h ↦ nomatch h) rfl rfl
  | raised hthread => exact h.kept hp hc (.setPhase hthread fun h ↦ nomatch h) rfl rfl
  | failed | ended => exact h.kept hp hc .endThread rfl rfl
  | crashed => exact h.kept hp hc (fun _ _ ht ↦ nomatch ht) rfl rfl

theorem threadInv_invariant (ok : World → Label → Prop) : system.Invariant ok ThreadInv where
  init := by
    refine ⟨?_, ?_, ?_, ?_, ?_, ?_, List.nodup_nil, List.nodup_nil⟩
    all_goals intros
    all_goals contradiction
  step _ _ _ h _ hstep := h.step hstep

/-- An adapter is called at most once for each row of the outbox that starts an agent or sends an
effect. -/
theorem calls_once {w : World} (h : system.Reachable w) :
    (w.sends.map Send.outboxId).Nodup ∧ (w.starts.map Start.outboxId).Nodup := by
  have hinv : ThreadInv w := (threadInv_invariant fun _ _ ↦ True).of_reachable h
  exact ⟨hinv.sentOnce, hinv.startedOnce⟩

end HibikiCore
