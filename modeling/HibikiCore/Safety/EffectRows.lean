import HibikiCore.System.Transactions

/-!
# Effects and the rows that send them

Most commands leave effects alone, and of the outbox they write the rows of agents only. What is
claimed of effects looks at effects and at the rows that send them; it is therefore argued for in
the few places that write these.
-/

namespace HibikiCore

set_option synthInstance.maxSize 100000000
set_option synthInstance.maxHeartbeats 400000

/-- All tables but the effects and the outbox. -/
abbrev besideEffects : List Relation :=
  [.tasks, .contracts, .activeContractMarkers, .explanations, .decisions, .gates, .plans,
    .activePlanMarkers, .workUnitSpecs, .workUnitExecutions, .plannerSessions, .agentRuns,
    .activeExecuteRunMarkers, .activePlanRunMarkers, .workspaces, .contextManifests, .events,
    .inbox, .idempotencyKeys, .resultSnapshots, .artifacts, .acceptanceEvidence, .agentProfiles,
    .runInputs, .toolInvocations, .contextAppends, .taskMessages]

/-- Effects, and the rows that send them, are as they were. -/
structure EffectsQuiet (s s' : DB) : Prop where
  effects : s'.sideEffects = s.sideEffects
  rows : ∀ {k row payload}, row.command = .sideEffectDispatch payload →
    (s'.outbox.find? k = some row ↔ s.outbox.find? k = some row)

namespace EffectsQuiet

variable {s s' : DB}

theorem of_writes (h : Writes besideEffects s s') : EffectsQuiet s s' := by
  have heffects : s.sideEffects = s'.sideEffects := (h .sideEffects).2 (by decide)
  have houtbox : s.outbox = s'.outbox := (h .outbox).2 (by decide)
  exact ⟨heffects.symm, fun _ ↦ by rw [houtbox]⟩

instance : Preord EffectsQuiet where
  refl _ := ⟨rfl, fun _ ↦ Iff.rfl⟩
  trans h h' := ⟨h'.effects.trans h.effects, fun hc ↦ (h'.rows hc).trans (h.rows hc)⟩

instance : Frame EffectsQuiet where
  still h := of_writes (h.mono fun _ hn ↦ (List.not_mem_nil hn).elim)

instance {n : Relation} [h : Touches n besideEffects] : Indifferent EffectsQuiet n where
  writes hw := of_writes (hw.mono fun _ hm ↦ List.mem_singleton.mp hm ▸ h.mem)

/-- A new row that sends no effect. -/
theorem insert_outbox {k : String} {row : OutboxRow} (hk : s.outbox.find? k = none)
    (hrow : row.command.dispatchEffect = none) :
    EffectsQuiet s { s with outbox := s.outbox.insert k row } where
  effects := rfl
  rows {k' row' payload} hc := by
    rw [show ({ s with outbox := s.outbox.insert k row } : DB).outbox = s.outbox.insert k row
      from rfl, Table.find?_insert hk]
    split
    · next heq =>
      subst heq
      rw [hk]
      constructor
      · intro h
        obtain rfl := Option.some.inj h
        rw [hc] at hrow
        cases hrow
      · intro h
        cases h
    · rfl

/-- Rows are updated, those that send an effect excepted. -/
theorem map_outbox {g : String → OutboxRow → OutboxRow} (hg : ∀ k a, SameFixed a (g k a))
    (hsend : ∀ k row payload, s.outbox.find? k = some row →
      row.command = .sideEffectDispatch payload → g k row = row) :
    EffectsQuiet s { s with outbox := s.outbox.mapRows g } where
  effects := rfl
  rows {k row payload} hc := by
    rw [show ({ s with outbox := s.outbox.mapRows g } : DB).outbox = s.outbox.mapRows g from rfl,
      Table.find?_mapRows]
    cases hfind : s.outbox.find? k with
    | none => simp
    | some old =>
      rw [Option.map_some, Option.some_inj, Option.some_inj]
      have hcommand : (g k old).command = old.command := congrArg (·.2.1) (hg k old)
      constructor
      · rintro rfl
        exact (hsend k old payload hfind (hcommand ▸ hc)).symm
      · rintro rfl
        exact hsend k old payload hfind hc

instance agentRows : AgentRows EffectsQuiet where
  enqueueStart env taskId payload epoch := by
    constructor
    intro s u s' h
    rw [enqueue, Tx.bind_ok] at h
    obtain ⟨k, t, hk, hadd⟩ := h
    obtain ⟨hnone, rfl⟩ := Ref.insert_ok.mp hadd
    exact Preord.trans (Respects.rel hk) (insert_outbox hnone rfl)
  enqueueStop env taskId runId reason epoch := by
    constructor
    intro s u s' h
    rw [enqueue, Tx.bind_ok] at h
    obtain ⟨k, t, hk, hadd⟩ := h
    obtain ⟨hnone, rfl⟩ := Ref.insert_ok.mp hadd
    exact Preord.trans (Respects.rel hk) (insert_outbox hnone rfl)
  killStarts taskId runId := by
    constructor
    intro s u s' h
    rw [killStarts, Ref.updateWhere_ok] at h
    subst h
    refine map_outbox (fun k a ↦ ?_) fun k row payload _ hc ↦ ?_
    · split <;> rfl
    · simp [hc, OutboxCommand.startRun]

instance cancelUnsentStart_quiet {env : Env} {taskId runId : String} :
    Respects EffectsQuiet (cancelUnsentStart env taskId runId) := by
  constructor
  intro s u s' h
  rw [cancelUnsentStart, Tx.get_bind_ok] at h
  -- the rows of the loop persist with their commands, which are starts
  refine (Tx.each_induct (P := fun t ↦ EffectsQuiet s t ∧ Persists s t) ?_
    ⟨Preord.refl s, Preord.refl s⟩ h).1
  rintro r hr t t' ⟨hquiet, hpersists⟩ hround
  refine ⟨Preord.trans hquiet ?_, Preord.trans hpersists (Respects.rel hround)⟩
  obtain ⟨_, t₁, hdead, hrest⟩ := Tx.bind_ok.mp hround
  refine Preord.trans ?_ (Respects.rel hrest)
  rw [Ref.update_ok] at hdead
  subst hdead
  rw [Table.mem_select] at hr
  obtain ⟨row, hrow, hfixed⟩ := (hpersists .outbox).1 r.1 r.2 hr.1
  refine map_outbox (fun k a ↦ ?_) fun k row' payload hk hc ↦ if_neg ?_
  · split <;> rfl
  · rintro rfl
    rw [hrow] at hk
    obtain rfl := Option.some.inj hk
    have hcommand : row.command = r.2.command := congrArg (·.2.1) hfixed
    simp [← hcommand, hc, OutboxCommand.startRun] at hr

end EffectsQuiet

/-! ## Rows of agents -/

/-- A row that starts or stops an agent. -/
def AgentRow (k : String) (s : DB) : Prop :=
  ∃ row, s.outbox.find? k = some row ∧ row.command.dispatchEffect = none

theorem AgentRow.of_persists {k : String} {s s' : DB} (h : AgentRow k s) (hp : Persists s s') :
    AgentRow k s' := by
  obtain ⟨row, hrow, hcommand⟩ := h
  obtain ⟨row', hrow', hfixed⟩ := (hp .outbox).1 k row hrow
  have hsame : row'.command = row.command := congrArg (·.2.1) hfixed
  exact ⟨row', hrow', hsame ▸ hcommand⟩

/-- Effects and the rows that send them stay as they are, given that a row is one of an agent. -/
def QuietAt (k : String) (s s' : DB) : Prop := AgentRow k s → EffectsQuiet s s' ∧ AgentRow k s'

namespace QuietAt

variable {k : String} {s s' : DB}

theorem of_quiet (h : EffectsQuiet s s') (hp : Persists s s') : QuietAt k s s' :=
  fun hrow ↦ ⟨h, hrow.of_persists hp⟩

theorem respects {α : Type} {m : Core α} (h : Respects EffectsQuiet m) (hp : Respects Persists m) :
    Respects (QuietAt k) m where
  rel hm := of_quiet (h.rel hm) (hp.rel hm)

instance : Preord (QuietAt k) where
  refl s h := ⟨Preord.refl s, h⟩
  trans h h' hrow :=
    have h₁ := h hrow
    have h₂ := h' h₁.2
    ⟨Preord.trans h₁.1 h₂.1, h₂.2⟩

instance : Frame (QuietAt k) where
  still h := of_quiet (Frame.still h) (persists_of_writes h)

instance {n : Relation} [Touches n besideEffects] : Indifferent (QuietAt k) n where
  writes h := of_quiet (Indifferent.writes h) (persists_of_writes h)

instance : AgentRows (QuietAt k) where
  enqueueStart _ _ _ _ := respects inferInstance inferInstance
  enqueueStop _ _ _ _ _ := respects inferInstance inferInstance
  killStarts _ _ := respects inferInstance inferInstance

instance cancelUnsentStart_quietAt {env : Env} {taskId runId : String} :
    Respects (QuietAt k) (cancelUnsentStart env taskId runId) :=
  respects inferInstance inferInstance

instance update {f : OutboxRow → OutboxRow} {hf : ∀ a, SameFixed a (f a)} :
    Respects (QuietAt k) (Refs.outbox.update k f hf : Core Unit) where
  rel {s _ s'} h hrow := by
    refine ⟨?_, hrow.of_persists (Respects.rel h)⟩
    obtain rfl := Ref.update_ok.mp h
    refine EffectsQuiet.map_outbox (fun k' a ↦ ?_) fun k' row payload hk hc ↦ if_neg ?_
    · split
      · exact hf a
      · exact SameFixed.refl a
    · rintro rfl
      obtain ⟨row', hrow', hcommand⟩ := hrow
      obtain rfl := Option.some.inj (hrow'.symm.trans hk)
      rw [hc] at hcommand
      cases hcommand

instance updateWhere {q : OutboxRow → Bool} {f : OutboxRow → OutboxRow}
    {hf : ∀ a, SameFixed a (f a)} : Respects (QuietAt k)
      (Refs.outbox.updateWhere (fun k' ob ↦ k' == k && q ob) f hf : Core Unit) where
  rel {s _ s'} h hrow := by
    refine ⟨?_, hrow.of_persists (Respects.rel h)⟩
    obtain rfl := Ref.updateWhere_ok.mp h
    refine EffectsQuiet.map_outbox (fun k' a ↦ ?_) fun k' row payload hk hc ↦ if_neg ?_
    · split
      · exact hf a
      · exact SameFixed.refl a
    · rw [Bool.and_eq_true, beq_iff_eq]
      rintro ⟨rfl, -⟩
      obtain ⟨row', hrow', hcommand⟩ := hrow
      obtain rfl := Option.some.inj (hrow'.symm.trans hk)
      rw [hc] at hcommand
      cases hcommand

variable {env : Env} {flushed : DB} {row : OutboxRow} {task : TaskRow} {runId reason : String}

instance ackOutbox_respects {dead : Bool} : Respects (QuietAt k) (ackOutbox env k dead) := by
  rw [ackOutbox]
  infer_instance

instance killOutbox_respects : Respects (QuietAt k) (killOutbox k) := by
  rw [killOutbox]
  infer_instance

instance leaseOutbox_respects : Respects (QuietAt k) (leaseOutbox env k row) := by
  rw [leaseOutbox]
  infer_instance

instance claimStart_respects {task : Option TaskRow} :
    Respects (QuietAt k) (claimStart env k row task) := by
  rw [claimStart]
  infer_instance

instance fenceClaimedAgentStart_respects :
    Respects (QuietAt k) (fenceClaimedAgentStart env flushed k row runId reason) := by
  rw [fenceClaimedAgentStart]
  infer_instance

instance fenceAckedStart_respects {run : Option AgentRunRow} {task : Option (String × TaskRow)} :
    Respects (QuietAt k) (fenceAckedStart env flushed k runId run task) := by
  rw [fenceAckedStart]
  infer_instance

instance startSendAllowed_respects : Respects (QuietAt k) (startSendAllowed env k runId) := by
  rw [startSendAllowed]
  exact .seq inferInstance fun _ ↦ by split <;> infer_instance

instance ackOutboxAndMarkRunning_respects :
    Respects (QuietAt k) (ackOutboxAndMarkRunning env k runId) := by
  rw [ackOutboxAndMarkRunning]
  infer_instance

instance ackStop_respects {result : StopResult} :
    Respects (QuietAt k) (ackStop env k runId reason result) := by
  rw [ackStop]
  infer_instance

instance revokeUnsentStart_respects :
    Respects (QuietAt k) (revokeUnsentStart env k runId task) := by
  rw [revokeUnsentStart]
  infer_instance

instance revokeUncertainStart_respects :
    Respects (QuietAt k) (revokeUncertainStart k runId task) := by
  rw [revokeUncertainStart]
  infer_instance

end QuietAt

/-! ## Properties of effects and the rows that send them -/

/-- A property that looks at effects and the rows that send them only. -/
class EffectsOnly (P : DB → Prop) : Prop where
  quiet : ∀ {s s' : DB}, EffectsQuiet s s' → P s → P s'

/-- What leaves effects alone respects what looks at effects only. -/
theorem Respects.of_quiet {R : DB → DB → Prop} {α : Type} {m : Core α}
    (hR : ∀ {s s'}, EffectsQuiet s s' → R s s') (h : Respects EffectsQuiet m) : Respects R m where
  rel hm := hR (h.rel hm)

section EffectsOnly

variable {P : DB → Prop} [h : EffectsOnly P]

instance : Frame (Maintains P) where
  still hw := h.quiet (Frame.still hw)

instance {n : Relation} [Touches n besideEffects] : Indifferent (Maintains P) n where
  writes hw := h.quiet (Indifferent.writes hw)

instance : AgentRows (Maintains P) where
  enqueueStart _ _ _ _ := .of_quiet h.quiet inferInstance
  enqueueStop _ _ _ _ _ := .of_quiet h.quiet inferInstance
  killStarts _ _ := .of_quiet h.quiet inferInstance

instance cancelUnsentStart_maintains {env : Env} {taskId runId : String} :
    Respects (Maintains P) (cancelUnsentStart env taskId runId) :=
  .of_quiet h.quiet inferInstance

end EffectsOnly

end HibikiCore
