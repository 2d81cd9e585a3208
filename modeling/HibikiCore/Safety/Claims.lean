import HibikiCore.Safety.EffectRows

/-!
# Claims are not taken back

A start or an external dispatch that was claimed never waits to be claimed again: whatever becomes
of it, its row stays claimed or is settled. Only stops are tried again. A row that is settled, dead
or acknowledged, is over: nothing but a claim, which takes a row that waits, makes it live again.
-/

namespace HibikiCore

set_option synthInstance.maxSize 100000000
set_option synthInstance.maxHeartbeats 400000

/-- All tables but the outbox. -/
abbrev besideOutbox : List Relation := .sideEffects :: besideEffects

/-- The starts and dispatches with a status in `K` keep one in `K`. -/
def RowsKept (K : OutboxStatus → Prop) (s s' : DB) : Prop :=
  ∀ k row, s.outbox.find? k = some row → row.command.stopRun = none → K row.status →
    ∃ row', s'.outbox.find? k = some row' ∧ row'.command = row.command ∧ K row'.status

/-- A row that is dead or acknowledged is in `K`. -/
class Final (K : OutboxStatus → Prop) : Prop where
  dead : K .dead
  acked : K .acked

/-- The starts and dispatches that do not wait to be claimed still do not. -/
abbrev ClaimsKept : DB → DB → Prop := RowsKept (· ≠ .pending)

/-- A row neither waits nor is under way. -/
abbrev OutboxStatus.IsOver (status : OutboxStatus) : Prop := status ≠ .pending ∧ status ≠ .inFlight

instance : Final (· ≠ .pending) := ⟨nofun, nofun⟩

instance : Final OutboxStatus.IsOver := ⟨⟨nofun, nofun⟩, nofun, nofun⟩

namespace RowsKept

variable {K : OutboxStatus → Prop} {s s' : DB}

instance : Preord (RowsKept K) where
  refl _ _ row hrow _ hstatus := ⟨row, hrow, rfl, hstatus⟩
  trans h h' k row hrow hstop hstatus := by
    obtain ⟨row₁, hrow₁, hcommand₁, hstatus₁⟩ := h k row hrow hstop hstatus
    obtain ⟨row₂, hrow₂, hcommand₂, hstatus₂⟩ := h' k row₁ hrow₁ (hcommand₁ ▸ hstop) hstatus₁
    exact ⟨row₂, hrow₂, hcommand₂.trans hcommand₁, hstatus₂⟩

theorem of_writes (h : Writes besideOutbox s s') : RowsKept K s s' := by
  have houtbox : s.outbox = s'.outbox := (h .outbox).2 (by decide)
  intro k row hrow _ hstatus
  exact ⟨row, houtbox ▸ hrow, rfl, hstatus⟩

instance : Frame (RowsKept K) where
  still h := of_writes (h.mono fun _ hn ↦ (List.not_mem_nil hn).elim)

instance {n : Relation} [h : Touches n besideOutbox] : Indifferent (RowsKept K) n where
  writes hw := of_writes (hw.mono fun _ hm ↦ List.mem_singleton.mp hm ▸ h.mem)

theorem insert_outbox {k : String} {row : OutboxRow} (hk : s.outbox.find? k = none) :
    RowsKept K s { s with outbox := s.outbox.insert k row } := by
  intro k' row' hrow _ hstatus
  refine ⟨row', ?_, rfl, hstatus⟩
  rw [show ({ s with outbox := s.outbox.insert k row } : DB).outbox = s.outbox.insert k row
    from rfl, Table.find?_insert hk, if_neg, hrow]
  rintro rfl
  rw [hk] at hrow
  cases hrow

/-- Rows are updated, and no start and no dispatch leaves `K`. -/
theorem map_outbox {g : String → OutboxRow → OutboxRow} (hg : ∀ k a, SameFixed a (g k a))
    (hwait : ∀ k row, s.outbox.find? k = some row → row.command.stopRun = none →
      K row.status → K (g k row).status) :
    RowsKept K s { s with outbox := s.outbox.mapRows g } := by
  intro k row hrow hstop hstatus
  refine ⟨g k row, ?_, congrArg (·.2.1) (hg k row), hwait k row hrow hstop hstatus⟩
  rw [show ({ s with outbox := s.outbox.mapRows g } : DB).outbox = s.outbox.mapRows g from rfl,
    Table.find?_mapRows, hrow]
  rfl

/-- An update of one row that leaves its status, or takes it into `K`. -/
theorem update {k : String} {f : OutboxRow → OutboxRow} {hf : ∀ a, SameFixed a (f a)}
    (hstatus : ∀ a, (f a).status = a.status ∨ K (f a).status) :
    Respects (RowsKept K) (Refs.outbox.update k f hf : Core Unit) where
  rel h := by
    obtain rfl := Ref.update_ok.mp h
    refine map_outbox (fun k' a ↦ ?_) fun k' row _ _ hrow ↦ ?_
    · split
      · exact hf a
      · exact SameFixed.refl a
    · split
      · rcases hstatus row with heq | hne
        · rwa [heq]
        · exact hne
      · exact hrow

theorem updateWhere {p : String → OutboxRow → Bool} {f : OutboxRow → OutboxRow}
    {hf : ∀ a, SameFixed a (f a)} (hstatus : ∀ a, K (f a).status) :
    Respects (RowsKept K) (Refs.outbox.updateWhere p f hf : Core Unit) where
  rel h := by
    obtain rfl := Ref.updateWhere_ok.mp h
    refine map_outbox (fun k' a ↦ ?_) fun k' row _ _ hrow ↦ ?_
    · split
      · exact hf a
      · exact SameFixed.refl a
    · split
      · exact hstatus row
      · exact hrow

/-! ## Where rows are written -/

variable [Final K] {env : Env} {auth : AuthContext} {p : Payload} {task : TaskRow} {flushed : DB}
  {row : OutboxRow} {taskId runId outboxId effectId : String}

instance enqueue_respects {command : OutboxCommand} {epoch : Nat} :
    Respects (RowsKept K) (enqueue env taskId command epoch) where
  rel h := by
    rw [enqueue, Tx.bind_ok] at h
    obtain ⟨k, t, hk, hadd⟩ := h
    obtain ⟨hnone, rfl⟩ := Ref.insert_ok.mp hadd
    exact Preord.trans (Respects.rel hk) (insert_outbox hnone)

instance agentRows : AgentRows (RowsKept K) where
  enqueueStart _ _ _ _ := inferInstance
  enqueueStop _ _ _ _ _ := inferInstance
  killStarts _ _ := by
    rw [killStarts]
    exact updateWhere fun _ ↦ Final.dead

instance cancelUnsentStart_respects : Respects (RowsKept K) (cancelUnsentStart env taskId runId) := by
  have hdead (k : String) : Respects (RowsKept K)
      (Refs.outbox.update k fun o ↦ { o with status := .dead } : Core Unit) :=
    update fun _ ↦ .inr Final.dead
  rw [cancelUnsentStart]
  infer_instance

instance outboxRows : OutboxRows (RowsKept K) where
  enqueue _ _ _ _ := inferInstance
  kill k := by
    rw [killOutbox]
    exact update fun _ ↦ .inr Final.dead
  ack env k dead := by
    rw [ackOutbox]
    refine update fun _ ↦ .inr ?_
    cases dead
    · exact Final.acked
    · exact Final.dead

instance outboxSteps : OutboxSteps ClaimsKept where
  lease env k row := by
    have hlease : Respects ClaimsKept (Refs.outbox.update k fun ob ↦
        { ob with
          status := .inFlight
          leasedUntil := some (env.now + Defaults.outboxLeaseSeconds) } : Core Unit) :=
      update fun _ ↦ .inr (by simp)
    rw [leaseOutbox]
    infer_instance

instance revokeOutboxRow_respects {stops : List String} {r : String × OutboxRow} :
    Respects (RowsKept K) (revokeOutboxRow env task stops r) := by
  have hdead (k : String) : Respects (RowsKept K) (Refs.outbox.update k fun ob ↦
      { ob with status := .dead, revokeEpoch := task.revokeEpoch } : Core Unit) :=
    update fun _ ↦ .inr Final.dead
  have hacked (k : String) : Respects (RowsKept K) (Refs.outbox.update k fun ob ↦
      { ob with status := .acked, ackedAt := some env.now } : Core Unit) :=
    update fun _ ↦ .inr Final.acked
  rw [revokeOutboxRow]
  split
  · rw [revokeClaimedDispatch, revokeUnsentDispatch]
    infer_instance
  · rw [revokeUncertainStart, revokeUnsentStart]
    infer_instance
  · infer_instance

instance invalidatePendingOutbox_respects :
    Respects (RowsKept K) (invalidatePendingOutbox env flushed taskId) := by
  rw [invalidatePendingOutbox]
  infer_instance

instance fenceClaimedAgentStart_respects {reason : String} :
    Respects (RowsKept K) (fenceClaimedAgentStart env flushed outboxId row runId reason) := by
  have hdead : Respects (RowsKept K) (Refs.outbox.update outboxId fun ob ↦
      { ob with status := .dead, leasedUntil := none } : Core Unit) :=
    update fun _ ↦ .inr Final.dead
  have hepoch (epoch : Nat) : Respects (RowsKept K) (Refs.outbox.update outboxId fun ob ↦
      { ob with revokeEpoch := epoch } : Core Unit) :=
    update fun _ ↦ .inl rfl
  rw [fenceClaimedAgentStart]
  infer_instance

instance fenceAckedStart_respects {run : Option AgentRunRow} {task : Option (String × TaskRow)} :
    Respects (RowsKept K) (fenceAckedStart env flushed outboxId runId run task) := by
  have hdead : Respects (RowsKept K) (Refs.outbox.updateWhere
      (fun k ob ↦ k == outboxId && ob.status == .inFlight) fun ob ↦
      { ob with
        status := .dead
        revokeEpoch := (task.map fun t ↦ t.2.revokeEpoch).getD ob.revokeEpoch } : Core Unit) :=
    updateWhere fun _ ↦ Final.dead
  rw [fenceAckedStart]
  infer_instance

/-- Only a stop is tried again after a failure. -/
instance failOutbox_respects {error : String} :
    Respects (RowsKept K) (failOutbox env outboxId error) where
  rel {s u s'} h := by
    rw [failOutbox, Tx.get_bind_ok, Tx.withSome_ok] at h
    rcases h with ⟨row, hrow, h⟩ | ⟨-, rfl⟩
    · rw [failRow] at h
      cases hcommand : row.command with
      | sideEffectDispatch payload =>
        rw [hcommand] at h
        exact Respects.rel h
      | agentStart payload =>
        rw [hcommand] at h
        exact Respects.rel h
      | agentStop runId reason =>
        rw [hcommand] at h
        rcases Tx.when_ok.mp h with ⟨-, h⟩ | ⟨-, rfl⟩
        · obtain rfl := Ref.update_ok.mp h
          refine map_outbox (fun k a ↦ ?_) fun k row' hrow' hstop hstatus ↦ ?_
          · split <;> rfl
          · rw [if_neg]
            · exact hstatus
            · rintro rfl
              obtain rfl := Option.some.inj (hrow.symm.trans hrow')
              rw [hcommand] at hstop
              cases hstop
        · exact Preord.refl _
    · exact Preord.refl _

/-- Only a stop is tried again after its lease. -/
theorem expireRow_rel {s s' : DB} {notes notes' : List String} {r : String × OutboxRow}
    (hrow : ∃ row, s.outbox.find? r.1 = some row ∧ row.command = r.2.command)
    (h : expireRow env flushed notes r s = .ok (notes', s')) : RowsKept K s s' := by
  rw [expireRow] at h
  cases hcommand : r.2.command with
  | sideEffectDispatch payload =>
    rw [hcommand] at h
    exact Respects.rel h
  | agentStart payload =>
    rw [hcommand] at h
    exact Respects.rel h
  | agentStop runId reason =>
    rw [hcommand] at h
    obtain ⟨_, t, hupdate, hpure⟩ := Tx.bind_ok.mp h
    obtain ⟨-, rfl⟩ := Tx.pure_ok.mp hpure
    obtain rfl := Ref.update_ok.mp hupdate
    refine map_outbox (fun k a ↦ ?_) fun k row' hrow' hstop hstatus ↦ ?_
    · split <;> rfl
    · rw [if_neg]
      · exact hstatus
      · rintro rfl
        obtain ⟨row, hfind, hcmd⟩ := hrow
        obtain rfl := Option.some.inj (hfind.symm.trans hrow')
        rw [hcmd, hcommand] at hstop
        cases hstop

instance reconcile_respects : Respects (RowsKept K) (reconcile env) where
  rel {s notes s'} h := by
    rw [reconcile, Tx.get_bind_ok] at h
    obtain ⟨notes₁, t, hexpire, hrest⟩ := Tx.bind_ok.mp h
    refine Preord.trans ?_ (Respects.rel hrest)
    -- the rows of the loop persist with their commands
    refine (Tx.fold_induct (P := fun t ↦ RowsKept K s t ∧ Persists s t) ?_
      ⟨Preord.refl s, Preord.refl s⟩ hexpire).1
    rintro r hr b b' t t' ⟨hkept, hpersists⟩ hround
    refine ⟨Preord.trans hkept (expireRow_rel ?_ hround),
      Preord.trans hpersists (Respects.rel hround)⟩
    obtain ⟨row, hrow, hfixed⟩ := (hpersists .outbox).1 r.1 r.2 (Table.mem_select.mp hr).1
    exact ⟨row, hrow, congrArg (·.2.1) hfixed⟩

instance handler_respects {operation : Operation} :
    Respects (RowsKept K) (handler env auth p operation) := by
  cases operation <;> (dsimp only [handler]; infer_instance)

instance transactions : Transactions ClaimsKept := inferInstance

end RowsKept

end HibikiCore
