import HibikiCore.Safety.Dispatch

/-!
# Effects in the transactions that move them

Each transaction that writes effects or the rows that send them keeps to `Careful`, under what is
known of the row it is about. Two do not: the second pass of a cancellation, and the recording of a
receipt; they only keep the invariant.
-/

namespace HibikiCore

set_option synthInstance.maxSize 100000000
set_option synthInstance.maxHeartbeats 400000

/-- Every row of the outbox but one stays as it is. -/
def RowsBeside (k : String) (s s' : DB) : Prop :=
  ∀ k' row, k' ≠ k → s.outbox.find? k' = some row → s'.outbox.find? k' = some row

namespace RowsBeside

variable {k : String} {s s' : DB}

theorem of_writes (h : Writes besideOutbox s s') : RowsBeside k s s' := by
  have houtbox : s.outbox = s'.outbox := (h .outbox).2 (by decide)
  intro k' row _ hrow
  exact houtbox ▸ hrow

instance : Preord (RowsBeside k) where
  refl _ _ _ _ := id
  trans h h' k' row hk hrow := h' k' row hk (h k' row hk hrow)

instance : Frame (RowsBeside k) where
  still h := of_writes (h.mono fun _ hn ↦ (List.not_mem_nil hn).elim)

instance {n : Relation} [h : Touches n besideOutbox] : Indifferent (RowsBeside k) n where
  writes hw := of_writes (hw.mono fun _ hm ↦ List.mem_singleton.mp hm ▸ h.mem)

instance update {f : OutboxRow → OutboxRow} {hf : ∀ a, SameFixed a (f a)} :
    Respects (RowsBeside k) (Refs.outbox.update k f hf : Core Unit) where
  rel h := by
    obtain rfl := Ref.update_ok.mp h
    intro k' row hk hrow
    exact (Table.find?_modify_of_ne hk _ f).trans hrow

instance : StopRows (RowsBeside k) where
  enqueueStop env taskId runId reason epoch := by
    constructor
    intro s u s' h
    rw [enqueue, Tx.bind_ok] at h
    obtain ⟨k₁, t, hk₁, hadd⟩ := h
    refine Preord.trans (Respects.rel hk₁) ?_
    obtain ⟨hnone, rfl⟩ := Ref.insert_ok.mp hadd
    intro k' row _ hrow
    exact Table.find?_insert_of_some hnone hrow

variable {env : Env} {task : TaskRow} {flushed : DB} {stops notes : List String}
  {r : String × OutboxRow}

instance revokeOutboxRow_respects :
    Respects (RowsBeside r.1) (revokeOutboxRow env task stops r) := by
  rw [revokeOutboxRow]
  split
  · rw [revokeClaimedDispatch, revokeUnsentDispatch]
    infer_instance
  · rw [revokeUncertainStart, revokeUnsentStart]
    infer_instance
  · infer_instance

instance expireRow_respects : Respects (RowsBeside r.1) (expireRow env flushed notes r) := by
  rw [expireRow]
  split
  · rw [expireDispatch, ackOutbox]
    infer_instance
  · rw [fenceClaimedAgentStart]
    infer_instance
  · infer_instance

end RowsBeside

variable {Sent : String → String → Prop} {s s' : DB} {env : Env} {auth : AuthContext}
  {p : Payload} {k e taskId : String} {row : OutboxRow} {payload : DispatchPayload}
  {task : TaskRow} {effect : SideEffectRow}

/-! ## Single statements -/

section Statements

variable {f : OutboxRow → OutboxRow} {g : SideEffectRow → SideEffectRow} {u : Unit}

theorem outbox_update {hf : ∀ a, SameFixed a (f a)}
    (h : (Refs.outbox.update k f hf : Core Unit) s = .ok (u, s')) :
    s'.outbox = s.outbox.modify k f ∧ s'.sideEffects = s.sideEffects := by
  obtain rfl := Ref.update_ok.mp h
  exact ⟨rfl, rfl⟩

theorem effects_update {hg : ∀ a, SameFixed a (g a)}
    (h : (Refs.sideEffects.update e g hg : Core Unit) s = .ok (u, s')) :
    s'.sideEffects = s.sideEffects.modify e g ∧ s'.outbox = s.outbox := by
  obtain rfl := Ref.update_ok.mp h
  exact ⟨rfl, rfl⟩

theorem effects_updateWhere {q : SideEffectRow → Bool} {hg : ∀ a, SameFixed a (g a)}
    (h : (Refs.sideEffects.updateWhere (fun e' a ↦ e' == e && q a) g hg : Core Unit) s
      = .ok (u, s')) :
    s'.sideEffects = s.sideEffects.modify e (fun a ↦ if q a then g a else a) ∧
      s'.outbox = s.outbox := by
  obtain rfl := Ref.updateWhere_ok.mp h
  exact ⟨Table.modifyWhere_key _ _ q _, rfl⟩

end Statements

/-! ## Revoking -/

theorem revokeClaimedDispatch_careful (hrow : s.outbox.find? k = some row)
    (hcommand : row.command = .sideEffectDispatch payload) (hstatus : row.status = .inFlight)
    (h : revokeClaimedDispatch env k payload.effectId s = .ok ((), s')) : Careful Sent s s' := by
  obtain ⟨_, t, hmark, hack⟩ := Tx.bind_ok.mp h
  obtain ⟨heff, hout⟩ := effects_updateWhere hmark
  obtain ⟨hout', heff'⟩ := outbox_update hack
  refine Careful.settle hrow hcommand ?_ ?_ (hout ▸ hout') (heff'.trans heff) (.inr rfl) ?_
  · exact fun _ ↦ rfl
  · intro a
    split <;> rfl
  · intro _ effect _ hfit
    left
    rcases hfit.live (.inr hstatus) with hstate | hrec
    · simp [hstate, SideEffectState.isRecorded, SideEffectState.isFinal]
    · rw [if_neg]
      · exact ⟨hrec, .inl rfl⟩
      · intro hstate
        rw [beq_iff_eq.mp hstate] at hrec
        cases hrec

theorem revokeUnsentDispatch_careful (hrow : s.outbox.find? k = some row)
    (hcommand : row.command = .sideEffectDispatch payload) (hstatus : row.status = .pending)
    (h : revokeUnsentDispatch k payload.effectId task s = .ok ((), s')) : Careful Sent s s' := by
  obtain ⟨_, t, hkill, hmark⟩ := Tx.bind_ok.mp h
  obtain ⟨hout, heff⟩ := outbox_update hkill
  obtain ⟨heff', hout'⟩ := effects_updateWhere hmark
  refine Careful.settle hrow hcommand ?_ ?_ (hout'.trans hout) (heff ▸ heff') (.inl rfl) ?_
  · exact fun _ ↦ rfl
  · intro a
    split <;> rfl
  · intro hinv effect heffect hfit
    rcases hfit.live (.inl hstatus) with hstate | hrec
    · right
      have hsent := hinv.not_sent_of_pending hrow hcommand heffect hstate hstatus
      refine ⟨rfl, hstate, OutboxRow.isLive_iff.mpr (.inl hstatus), hsent, ?_⟩
      cases hcancel : task.cancelIntent <;> simp [hstate]
    · left
      rw [if_neg]
      · exact ⟨hrec, .inl rfl⟩
      · intro hstate
        rw [beq_iff_eq.mp hstate] at hrec
        cases hrec

theorem revokeOutboxRow_careful {stops stops' : List String} {r : String × OutboxRow}
    (hrow : s.outbox.find? r.1 = some r.2) (hlive : r.2.isLive = true)
    (h : revokeOutboxRow env task stops r s = .ok (stops', s')) : Careful Sent s s' := by
  rw [revokeOutboxRow] at h
  cases hcommand : r.2.command with
  | sideEffectDispatch payload =>
    rw [hcommand] at h
    rcases Tx.ite_ok.mp h with ⟨hstatus, h⟩ | ⟨hstatus, h⟩
    · obtain ⟨_, t, hrevoke, hpure⟩ := Tx.bind_ok.mp h
      obtain ⟨-, rfl⟩ := Tx.pure_ok.mp hpure
      exact revokeClaimedDispatch_careful hrow hcommand hstatus hrevoke
    · obtain ⟨_, t, hrevoke, hpure⟩ := Tx.bind_ok.mp h
      obtain ⟨-, rfl⟩ := Tx.pure_ok.mp hpure
      have hpending := (OutboxRow.isLive_iff.mp hlive).resolve_right hstatus
      exact revokeUnsentDispatch_careful hrow hcommand hpending hrevoke
  | agentStart payload =>
    have hagent : AgentRow r.1 s := ⟨r.2, hrow, by rw [hcommand]; rfl⟩
    have hquiet : Respects (QuietAt r.1) (revokeOutboxRow env task stops r) := by
      rw [revokeOutboxRow, hcommand]
      infer_instance
    exact .of_quiet (hquiet.rel h hagent).1
  | agentStop runId reason =>
    rw [hcommand] at h
    obtain ⟨-, rfl⟩ := Tx.pure_ok.mp h
    exact Preord.refl _

/-- Revoking what a task has in the outbox is careful: what was claimed is put in doubt, and only
what waited is set free. -/
instance invalidatePendingOutbox_careful {flushed : DB} :
    Respects (Careful Sent) (invalidatePendingOutbox env flushed taskId) where
  rel h := by
    obtain ⟨task, t, htask, h₁⟩ := Tx.bind_ok.mp h
    rw [Tx.get_bind_ok] at h₁
    obtain ⟨stops, u, hloop, hstops⟩ := Tx.bind_ok.mp h₁
    refine Preord.trans (Respects.rel htask) (Preord.trans ?_ (Respects.rel hstops))
    refine Tx.fold_rows (P := Careful Sent t)
      (H := fun t r ↦ t.outbox.find? r.1 = some r.2) (Table.nodup_select _ _) ?_
      (Preord.refl t) (fun r hr ↦ (Table.mem_select.mp hr).1) hloop
    intro r hr b b' t₁ t₂ hcareful hrow hround
    have hlive : r.2.isLive = true := by
      have hsel := (Table.mem_select.mp hr).2
      simp only [Bool.and_eq_true] at hsel
      exact hsel.1.2
    refine ⟨Preord.trans hcareful (revokeOutboxRow_careful hrow hlive hround), ?_⟩
    have hbeside : RowsBeside r.1 t₁ t₂ := Respects.rel hround
    exact fun r' hne hr' ↦ hbeside r'.1 r'.2 hne hr'

/-! ## Effects before they are sent -/

/-- A new effect is not sent by any row. -/
instance add_effect_careful {row : SideEffectRow} :
    Respects (Careful Sent) (add Refs.sideEffects e row) where
  rel {s _ s'} h hinv := by
    obtain ⟨hnone, rfl⟩ := Ref.insert_ok.mp h
    refine ⟨⟨fun hrow hcommand ↦ ?_, hinv.unique, hinv.known⟩, fun e' effect he' ↦ ?_⟩
    · obtain ⟨effect, heffect, hrest⟩ := hinv.fits hrow hcommand
      exact ⟨effect, Table.find?_insert_of_some hnone heffect, hrest⟩
    · exact ⟨effect, Table.find?_insert_of_some hnone he', .refl _⟩

instance insertEffect_careful {logicalKey : String} {version : Nat} {preauthorized : Bool}
    {action : Action} : Respects (Careful Sent)
      (insertEffect env auth p taskId logicalKey version preauthorized action) := by
  rw [insertEffect]
  infer_instance

/-- An effect that waits for approval has no rows yet. -/
instance applySideEffectApproval_careful {decisionId : String} {decision : DecisionRow} :
    Respects (Careful Sent) (applySideEffectApproval env taskId decisionId decision) where
  rel {s _ s'} h := by
    rw [applySideEffectApproval, Tx.get_bind_ok] at h
    obtain ⟨effect, t₁, hrequire, h₁⟩ := Tx.bind_ok.mp h
    obtain ⟨heffect, rfl⟩ := Tx.require_ok.mp hrequire
    obtain ⟨_, t₂, hcheck, h₂⟩ := Tx.bind_ok.mp h₁
    obtain ⟨-, rfl⟩ := Tx.check_ok.mp hcheck
    obtain ⟨next, t₃, hnext, h₃⟩ := Tx.bind_ok.mp h₂
    obtain ⟨htransition, rfl⟩ := Tx.require_ok.mp hnext
    obtain ⟨_, t₄, hupdate, h₄⟩ := Tx.bind_ok.mp h₃
    refine Preord.trans ?_ (Respects.rel h₄)
    obtain ⟨heff, hout⟩ := effects_update hupdate
    have hwaiting : effect.state = .waitingApproval := by
      cases hstate : effect.state <;> simp [hstate, sideEffectTransitions] at htransition ⊢
    intro hinv
    refine ⟨hinv.change ?_ hout heff ?_, .map heff ?_⟩
    · exact fun _ ↦ rfl
    · intro k row payload effect' _ _ _ heffect' hfit
      obtain rfl := Option.some.inj (heffect.symm.trans heffect')
      exact absurd hwaiting hfit.decided.2
    · intro e' effect' heffect'
      split
      · next heq =>
        subst heq
        obtain rfl := Option.some.inj (heffect.symm.trans heffect')
        exact .of_unsent (by rw [hwaiting]; rfl) (by simp [hwaiting])
      · exact .refl _

/-- A new row for an effect of which no row waits or is under way. -/
theorem DispatchInv.enqueue (h : DispatchInv Sent s)
    (hk : s.outbox.find? k = none) (heffect : s.sideEffects.find? e = some effect)
    (hstate : effect.state = .dispatching)
    (hquiet : ∀ {k row payload}, s.outbox.find? k = some row →
      row.command = .sideEffectDispatch payload → payload.effectId = e → row.isLive = false)
    (hcommand : row.command = .sideEffectDispatch (dispatchPayload e effect))
    (htask : effect.taskId = row.taskId) (hstatus : row.status = .pending)
    (hout : s'.outbox = s.outbox.insert k row) (heff : s'.sideEffects = s.sideEffects) :
    DispatchInv Sent s' := by
  have hfind (k' : String) : s'.outbox.find? k' =
      if k' = k then some row else s.outbox.find? k' := by
    rw [hout, Table.find?_insert hk]
  have hnotSent : ¬Sent k e := fun hsent ↦ by
    obtain ⟨row', payload', hrow', -, -⟩ := h.known hsent
    exact absurd (hk.symm.trans hrow') (by simp)
  refine ⟨fun {k' row' payload'} hrow' hcommand' ↦ ?_, ?_, fun hsent ↦ ?_⟩
  · rw [hfind] at hrow'
    split at hrow'
    · next heq =>
      subst heq
      obtain rfl := Option.some.inj hrow'
      rw [hcommand] at hcommand'
      obtain rfl := OutboxCommand.sideEffectDispatch.inj hcommand'
      refine ⟨effect, heff ▸ heffect, htask, rfl, ?_⟩
      rw [hstatus, hstate]
      exact ⟨fun _ ↦ .inl rfl, by simp, fun hsent ↦ absurd hsent hnotSent, by simp⟩
    · rw [heff]
      exact h.fits hrow' hcommand'
  · intro k₁ k₂ row₁ row₂ payload₁ payload₂ hrow₁ hrow₂ hcommand₁ hcommand₂ he hlive₁ hlive₂
    have hother {k' row' payload'} (hne : k' ≠ k)
        (hrow' : s'.outbox.find? k' = some row')
        (hcommand' : row'.command = .sideEffectDispatch payload') (hlive : row'.isLive = true) :
        payload'.effectId ≠ e := fun heq ↦ by
      rw [hfind, if_neg hne] at hrow'
      rw [hquiet hrow' hcommand' heq] at hlive
      cases hlive
    have hself {k' row' payload'} (heq : k' = k)
        (hrow' : s'.outbox.find? k' = some row')
        (hcommand' : row'.command = .sideEffectDispatch payload') : payload'.effectId = e := by
      rw [hfind, if_pos heq] at hrow'
      obtain rfl := Option.some.inj hrow'
      rw [hcommand] at hcommand'
      obtain rfl := OutboxCommand.sideEffectDispatch.inj hcommand'
      rfl
    by_cases h₁ : k₁ = k <;> by_cases h₂ : k₂ = k
    · exact h₁.trans h₂.symm
    · exact absurd (he ▸ hself h₁ hrow₁ hcommand₁) (hother h₂ hrow₂ hcommand₂ hlive₂)
    · exact absurd (he ▸ hself h₂ hrow₂ hcommand₂) (hother h₁ hrow₁ hcommand₁ hlive₁)
    · have hrow₁' := hfind k₁ ▸ hrow₁
      have hrow₂' := hfind k₂ ▸ hrow₂
      rw [if_neg h₁] at hrow₁'
      rw [if_neg h₂] at hrow₂'
      exact h.unique hrow₁' hrow₂' hcommand₁ hcommand₂ he hlive₁ hlive₂
  · obtain ⟨row', payload', hrow', hcommand', he⟩ := h.known hsent
    exact ⟨row', payload', hout ▸ Table.find?_insert_of_some hk hrow', hcommand', he⟩

/-- All rows of an authorized effect are dead, and it was not sent. -/
theorem DispatchInv.authorized (h : DispatchInv Sent s)
    (heffect : s.sideEffects.find? e = some effect) (hstate : effect.state = .authorized) :
    (∀ {k row payload}, s.outbox.find? k = some row →
      row.command = .sideEffectDispatch payload → payload.effectId = e →
      row.status = .dead) ∧ ∀ k, ¬Sent k e := by
  have hfits {k row payload} (hrow : s.outbox.find? k = some row)
      (hcommand : row.command = .sideEffectDispatch payload) (he : payload.effectId = e) :
      DispatchFits (Sent k e) row.status .authorized := by
    obtain ⟨effect', heffect', -, -, hfit⟩ := h.fits hrow hcommand
    subst he
    obtain rfl := Option.some.inj (heffect.symm.trans heffect')
    exact hstate ▸ hfit
  constructor
  · intro k row payload hrow hcommand he
    have hfit := hfits hrow hcommand he
    cases hstatus : row.status with
    | dead => rfl
    | acked => exact absurd (hfit.acked hstatus) (by simp [SideEffectState.isRecorded])
    | pending => exact absurd (hfit.live (.inl hstatus)) (by simp [SideEffectState.isRecorded])
    | inFlight => exact absurd (hfit.live (.inr hstatus)) (by simp [SideEffectState.isRecorded])
  · intro k hsent
    obtain ⟨row, payload, hrow, hcommand, he⟩ := h.known hsent
    exact absurd ((hfits hrow hcommand he).sent hsent) (by simp [SideEffectState.isRecorded])

/-- An effect is claimed for dispatch: it had no row that might be sent, and gets one. -/
instance dispatchSideEffect_careful :
    Respects (Careful Sent) (dispatchSideEffect env auth p) where
  rel {s _ s'} h hinv := by
    obtain ⟨effectId, effect, task, k, -, heffect, hstate, -, hk, heff, hout⟩ :=
      dispatchSideEffect_ok h
    obtain ⟨hdead, hunsent⟩ := hinv.authorized heffect hstate
    constructor
    · have hclaimed : DispatchInv Sent { s with sideEffects := s'.sideEffects } := by
        refine hinv.change (g := claimEffect) (fun _ ↦ rfl) rfl heff ?_
        intro k row payload _ hrow hcommand he _ _
        rw [hdead hrow hcommand he]
        exact ⟨by simp, by simp, fun hsent ↦ absurd hsent (hunsent k), by simp [claimEffect]⟩
      have hfound : s'.sideEffects.find? effectId = some (claimEffect effect) := by
        rw [heff, Table.find?_modify_self, heffect]
        rfl
      refine hclaimed.enqueue hk hfound rfl ?_ rfl rfl rfl hout rfl
      · intro k' row payload hrow hcommand he
        simp [OutboxRow.isLive, hdead hrow hcommand he]
    · refine EffectsMonotone.map heff fun {e' effect'} heffect' ↦ ?_
      split
      · next heq =>
        subst heq
        obtain rfl := Option.some.inj (heffect.symm.trans heffect')
        exact .of_unsent (by rw [hstate]; rfl) (by simp [hstate])
      · exact .refl _

/-! ## Finding out about effects -/

/-- What is found out of an effect that was claimed. -/
theorem Careful.found {g : SideEffectRow → SideEffectRow}
    (heffect : s.sideEffects.find? e = some effect)
    (hstate : effect.state = .dispatching ∨ effect.state = .unknown)
    (hg : ∀ a, SameFixed a (g a)) (hout : s'.outbox = s.outbox)
    (heff : s'.sideEffects = s.sideEffects.modify e g)
    (hnext : (g effect).state = .unknown ∨ (g effect).state = .succeeded ∨
      (g effect).state = .failedConfirmed) : Careful Sent s s' := by
  have hrec : (g effect).state.isRecorded = true := by
    rcases hnext with h | h | h <;> rw [h] <;> rfl
  intro hinv
  refine ⟨hinv.change hg hout heff ?_, .map heff ?_⟩
  · intro k row payload effect' _ _ _ heffect' _
    obtain rfl := Option.some.inj (heffect.symm.trans heffect')
    exact .of_recorded hrec
  · intro e' effect' heffect'
    split
    · next heq =>
      subst heq
      obtain rfl := Option.some.inj (heffect.symm.trans heffect')
      exact .of_found hstate hnext
    · exact .refl _

theorem reconcileWithoutQuery_careful {result : CommandResult}
    (heffect : s.sideEffects.find? e = some effect)
    (hstate : effect.state = .dispatching ∨ effect.state = .unknown)
    (h : reconcileWithoutQuery env e effect s = .ok (result, s')) : Careful Sent s s' := by
  obtain ⟨_, t, hmark, hrest⟩ := Tx.bind_ok.mp h
  refine Preord.trans ?_ (Respects.rel hrest)
  rcases Tx.when_ok.mp hmark with ⟨-, hset⟩ | ⟨-, rfl⟩
  · obtain ⟨heff, hout⟩ := effects_update hset
    refine Careful.found heffect hstate ?_ hout heff (.inl rfl)
    exact fun _ ↦ rfl
  · exact Preord.refl _

theorem effectUnknown_careful {result : CommandResult}
    (heffect : s.sideEffects.find? e = some effect)
    (hstate : effect.state = .dispatching ∨ effect.state = .unknown)
    (h : effectUnknown e s = .ok (result, s')) : Careful Sent s s' := by
  obtain ⟨_, t, hset, hpure⟩ := Tx.bind_ok.mp h
  obtain ⟨-, rfl⟩ := Tx.pure_ok.mp hpure
  obtain ⟨heff, hout⟩ := effects_update hset
  refine Careful.found heffect hstate ?_ hout heff (.inl rfl)
  exact fun _ ↦ rfl

theorem reconcileWithQuery_careful {answer : Option Receipt} {result : CommandResult}
    (heffect : s.sideEffects.find? e = some effect)
    (hstate : effect.state = .dispatching ∨ effect.state = .unknown)
    (h : reconcileWithQuery e answer s = .ok (result, s')) : Careful Sent s s' := by
  cases answer with
  | none => exact effectUnknown_careful heffect hstate h
  | some receipt =>
    unfold reconcileWithQuery at h
    cases hreceipt : receipt.status with
    | succeeded =>
      simp only [hreceipt] at h
      obtain ⟨_, t, hset, hpure⟩ := Tx.bind_ok.mp h
      obtain ⟨-, rfl⟩ := Tx.pure_ok.mp hpure
      obtain ⟨heff, hout⟩ := effects_update hset
      refine Careful.found heffect hstate ?_ hout heff (.inr (.inl rfl))
      exact fun _ ↦ rfl
    | failed =>
      simp only [hreceipt] at h
      obtain ⟨_, t, hset, hpure⟩ := Tx.bind_ok.mp h
      obtain ⟨-, rfl⟩ := Tx.pure_ok.mp hpure
      obtain ⟨heff, hout⟩ := effects_update hset
      refine Careful.found heffect hstate ?_ hout heff (.inr (.inr rfl))
      exact fun _ ↦ rfl
    | unknown =>
      simp only [hreceipt] at h
      exact effectUnknown_careful heffect hstate h

/-- A query answers for effects that were claimed only. -/
instance reconcileSideEffect_careful :
    Respects (Careful Sent) (reconcileSideEffect env auth p) where
  rel {s result s'} h := by
    obtain ⟨effectId, t₁, hkey, h₁⟩ := Tx.bind_ok.mp h
    obtain ⟨-, rfl⟩ := key_ok.mp hkey
    rw [Tx.get_bind_ok] at h₁
    obtain ⟨effect, t₂, hrequire, h₂⟩ := Tx.bind_ok.mp h₁
    obtain ⟨heffect, rfl⟩ := Tx.require_ok.mp hrequire
    rcases Tx.ite_ok.mp h₂ with ⟨-, hpure⟩ | ⟨hclaimed, h₃⟩
    · obtain ⟨-, rfl⟩ := Tx.pure_ok.mp hpure
      exact Preord.refl _
    · have hstate : effect.state = .dispatching ∨ effect.state = .unknown := by
        by_contra hnot
        exact hclaimed (not_or.mp hnot)
      rcases Tx.ite_ok.mp h₃ with ⟨-, hrun⟩ | ⟨-, hrun⟩
      · exact reconcileWithoutQuery_careful heffect hstate hrun
      · exact reconcileWithQuery_careful heffect hstate hrun

/-! ## Claimed rows that failed or expired -/

theorem parkTask_tables {reason : WaitingReason}
    (h : parkTask env taskId reason s = .ok ((), s')) :
    s'.sideEffects = s.sideEffects ∧ s'.outbox = s.outbox := by
  have hwrites : Writes [.tasks] s s' := Respects.rel h
  exact ⟨((hwrites .sideEffects).2 (by decide)).symm, ((hwrites .outbox).2 (by decide)).symm⟩

/-- A row is acknowledged while its effect is put in doubt. -/
theorem Careful.doubt {c : SideEffectRow → Prop} [DecidablePred c]
    {g : SideEffectRow → SideEffectRow} {error : WaitingReason}
    (hrow : s.outbox.find? k = some row) (hcommand : row.command = .sideEffectDispatch payload)
    (hg : ∀ a, SameFixed a (g a)) (hunknown : ∀ a, (g a).state = .unknown)
    (hfinal : ∀ a, c a → a.state.isFinal = false)
    (hrec : ∀ a, DispatchFits (Sent k payload.effectId) row.status a.state → ¬c a →
      a.state.isRecorded = true)
    (h : (do
      let db ← get
      Tx.withSome (db.sideEffects.find? payload.effectId) fun effect ↦
        Tx.when (c effect) do
          Refs.sideEffects.update payload.effectId g hg
          parkTask env effect.taskId error
      ackOutbox env k false : Core Unit) s = .ok ((), s')) : Careful Sent s s' := by
  rw [Tx.get_bind_ok] at h
  obtain ⟨_, t, hmark, hack⟩ := Tx.bind_ok.mp h
  obtain ⟨hout, heff⟩ := outbox_update hack
  intro hinv
  obtain ⟨effect, heffect, -, -, hfit⟩ := hinv.fits hrow hcommand
  rw [heffect, Tx.withSome_some] at hmark
  rcases Tx.when_ok.mp hmark with ⟨hc, hdoubt⟩ | ⟨hc, rfl⟩
  · obtain ⟨_, u, hset, hpark⟩ := Tx.bind_ok.mp hdoubt
    obtain ⟨heff₁, hout₁⟩ := effects_update hset
    obtain ⟨heff₂, hout₂⟩ := parkTask_tables hpark
    rw [hout₂, hout₁] at hout
    rw [heff₂, heff₁] at heff
    refine Careful.settle hrow hcommand ?_ hg hout heff (.inr rfl) ?_ hinv
    · exact fun _ ↦ rfl
    · intro _ effect' heffect' _
      obtain rfl := Option.some.inj (heffect.symm.trans heffect')
      left
      rw [hunknown]
      exact ⟨rfl, .inr ⟨hfinal effect hc, rfl⟩⟩
  · rw [← Table.modify_id t.sideEffects payload.effectId] at heff
    refine Careful.settle hrow hcommand ?_ (fun _ ↦ rfl) hout heff (.inr rfl) ?_ hinv
    · exact fun _ ↦ rfl
    · intro _ effect' heffect' hfit'
      obtain rfl := Option.some.inj (heffect.symm.trans heffect')
      exact .inl ⟨hrec effect hfit hc, .inl rfl⟩

theorem failDispatch_careful {error : String} (hrow : s.outbox.find? k = some row)
    (hcommand : row.command = .sideEffectDispatch payload)
    (h : failDispatch env k payload.effectId error s = .ok ((), s')) : Careful Sent s s' := by
  rw [failDispatch] at h
  refine Careful.doubt hrow hcommand ?_ ?_ ?_ ?_ h
  · exact fun _ ↦ rfl
  · exact fun _ ↦ rfl
  · rintro a (hstate | hstate) <;> rw [hstate] <;> rfl
  · intro a hfit hnot
    obtain ⟨hdispatching, hauthorized⟩ := not_or.mp hnot
    exact hfit.recorded hdispatching hauthorized

theorem expireDispatch_careful (hrow : s.outbox.find? k = some row)
    (hcommand : row.command = .sideEffectDispatch payload) (hstatus : row.status = .inFlight)
    (h : expireDispatch env k payload.effectId s = .ok ((), s')) : Careful Sent s s' := by
  rw [expireDispatch] at h
  refine Careful.doubt hrow hcommand ?_ ?_ ?_ ?_ h
  · exact fun _ ↦ rfl
  · exact fun _ ↦ rfl
  · rintro a (hstate | hstate) <;> rw [hstate] <;> rfl
  · intro a hfit hnot
    exact (hfit.live (.inr hstatus)).resolve_left fun hstate ↦ hnot (.inl hstate)

/-- Settling an expired claim is careful. -/
theorem expireRow_careful {flushed : DB} {notes notes' : List String} {r : String × OutboxRow}
    (hrow : s.outbox.find? r.1 = some r.2) (hstatus : r.2.status = .inFlight)
    (h : expireRow env flushed notes r s = .ok (notes', s')) : Careful Sent s s' := by
  rw [expireRow] at h
  cases hcommand : r.2.command with
  | sideEffectDispatch payload =>
    rw [hcommand] at h
    obtain ⟨_, t, hexpire, hpure⟩ := Tx.bind_ok.mp h
    obtain ⟨-, rfl⟩ := Tx.pure_ok.mp hpure
    exact expireDispatch_careful hrow hcommand hstatus hexpire
  | agentStart payload =>
    have hagent : AgentRow r.1 s := ⟨r.2, hrow, by rw [hcommand]; rfl⟩
    rw [hcommand] at h
    obtain ⟨_, t, hfence, hpure⟩ := Tx.bind_ok.mp h
    obtain ⟨-, rfl⟩ := Tx.pure_ok.mp hpure
    have hquiet : QuietAt r.1 s s' := Respects.rel hfence
    exact .of_quiet (hquiet hagent).1
  | agentStop runId reason =>
    have hagent : AgentRow r.1 s := ⟨r.2, hrow, by rw [hcommand]; rfl⟩
    rw [hcommand] at h
    obtain ⟨_, t, hretry, hpure⟩ := Tx.bind_ok.mp h
    obtain ⟨-, rfl⟩ := Tx.pure_ok.mp hpure
    have hquiet : QuietAt r.1 s s' := Respects.rel hretry
    exact .of_quiet (hquiet hagent).1

instance reconcile_careful : Respects (Careful Sent) (reconcile env) where
  rel {s notes s'} h := by
    rw [reconcile, Tx.get_bind_ok] at h
    obtain ⟨notes₁, t, hexpire, hrest⟩ := Tx.bind_ok.mp h
    refine Preord.trans ?_ (Respects.rel hrest)
    refine Tx.fold_rows (P := Careful Sent s)
      (H := fun t r ↦ t.outbox.find? r.1 = some r.2) (Table.nodup_select _ _) ?_
      (Preord.refl s) (fun r hr ↦ (Table.mem_select.mp hr).1) hexpire
    intro r hr b b' t₁ t₂ hcareful hrow hround
    have hstatus : r.2.status = .inFlight := by
      have hsel := (Table.mem_select.mp hr).2
      simp only [Bool.and_eq_true, beq_iff_eq] at hsel
      exact hsel.1
    refine ⟨Preord.trans hcareful (expireRow_careful hrow hstatus hround), ?_⟩
    have hbeside : RowsBeside r.1 t₁ t₂ := Respects.rel hround
    exact fun r' hne hr' ↦ hbeside r'.1 r'.2 hne hr'

/-- Recording that a claimed row could not be handled is careful. -/
instance failOutbox_careful {error : String} :
    Respects (Careful Sent) (failOutbox env k error) where
  rel {s _ s'} h := by
    rw [failOutbox, Tx.get_bind_ok, Tx.withSome_ok] at h
    rcases h with ⟨row, hrow, hfail⟩ | ⟨-, rfl⟩
    · rw [failRow] at hfail
      cases hcommand : row.command with
      | sideEffectDispatch payload =>
        rw [hcommand] at hfail
        exact failDispatch_careful hrow hcommand hfail
      | agentStart payload =>
        have hagent : AgentRow k s := ⟨row, hrow, by rw [hcommand]; rfl⟩
        rw [hcommand] at hfail
        have hquiet : QuietAt k s s' := Respects.rel hfail
        exact .of_quiet (hquiet hagent).1
      | agentStop runId reason =>
        have hagent : AgentRow k s := ⟨row, hrow, by rw [hcommand]; rfl⟩
        rw [hcommand] at hfail
        have hquiet : QuietAt k s s' := Respects.rel hfail
        exact .of_quiet (hquiet hagent).1
    · exact Preord.refl _

/-! ## Claiming and checking -/

/-- What a dispatch that was not sent does to its effect. -/
theorem Careful.unsent {c : Prop} [Decidable c] {next : SideEffectState} {t : DB}
    (hrow : s.outbox.find? k = some row) (hcommand : row.command = .sideEffectDispatch payload)
    (hsent : DispatchInv Sent s → effect.state = .dispatching → ¬Sent k payload.effectId)
    (hdead : row.status ≠ .dead) (heffect : s.sideEffects.find? payload.effectId = some effect)
    (hc : c ↔ effect.state = .dispatching) (hnext : next = .authorized ∨ next = .cancelled)
    (hkill : killOutbox k s = .ok ((), t))
    (hset : Tx.when c (setEffectState payload.effectId next) t = .ok ((), s')) :
    Careful Sent s s' := by
  obtain ⟨hout, heff⟩ := outbox_update hkill
  rcases Tx.when_ok.mp hset with ⟨hstate, hmove⟩ | ⟨hstate, rfl⟩
  · obtain ⟨heff₁, hout₁⟩ := effects_update hmove
    replace hout := hout₁.trans hout
    rw [heff] at heff₁
    refine Careful.settle hrow hcommand ?_ ?_ hout heff₁ (.inl rfl) ?_
    · exact fun _ ↦ rfl
    · exact fun _ ↦ rfl
    · intro hinv effect' heffect' hfit
      obtain rfl := Option.some.inj (heffect.symm.trans heffect')
      right
      have hdispatching := hc.mp hstate
      refine ⟨rfl, hdispatching, OutboxRow.isLive_iff.mpr ?_, hsent hinv hdispatching, hnext⟩
      cases hstatus : row.status with
      | pending => exact .inl rfl
      | inFlight => exact .inr rfl
      | dead => exact absurd hstatus hdead
      | acked =>
        have hrec := hfit.acked hstatus
        rw [hdispatching] at hrec
        cases hrec
  · rw [← Table.modify_id s.sideEffects payload.effectId] at heff
    refine Careful.settle hrow hcommand ?_ (fun _ ↦ rfl) hout heff (.inl rfl) ?_
    · exact fun _ ↦ rfl
    · intro _ effect' heffect' hfit
      obtain rfl := Option.some.inj (heffect.symm.trans heffect')
      refine .inl ⟨?_, .inl rfl⟩
      have hnot : effect.state ≠ .dispatching := fun heq ↦ hstate (hc.mpr heq)
      cases hstatus : row.status with
      | pending => exact (hfit.live (.inl hstatus)).resolve_left hnot
      | inFlight => exact (hfit.live (.inr hstatus)).resolve_left hnot
      | acked => exact hfit.acked hstatus
      | dead => exact absurd hstatus hdead

section Claim

variable {item : Option OutboxItem}

theorem leaseOutbox_careful (hrow : s.outbox.find? k = some row) (hpending : row.status = .pending)
    (h : leaseOutbox env k row s = .ok (item, s')) : Careful Sent s s' := by
  obtain ⟨-, rfl⟩ := leaseOutbox_ok h
  intro hinv
  refine ⟨hinv.claim hrow hpending ?_ rfl rfl rfl, .of_same rfl⟩
  exact fun _ ↦ rfl

theorem releaseUnsentEffect_careful {t : DB} (hrow : s.outbox.find? k = some row)
    (hcommand : row.command = .sideEffectDispatch payload) (hpending : row.status = .pending)
    (heffect : s.sideEffects.find? payload.effectId = some effect)
    (hkill : killOutbox k s = .ok ((), t))
    (h : releaseUnsentEffect payload.effectId effect task t = .ok ((), s')) :
    Careful Sent s s' := by
  intro hinv
  have hset : Tx.when (effect.state = .dispatching) (setEffectState payload.effectId
      (if task.isCancelling then .cancelled else .authorized)) t = .ok ((), s') := by
    rw [Tx.when_ok]
    rcases Tx.ite_ok.mp h with hmove | ⟨hstate, hrest⟩
    · exact .inl hmove
    · rcases Tx.when_ok.mp hrest with ⟨⟨hauthorized, -⟩, -⟩ | ⟨-, rfl⟩
      · have hdead := (hinv.authorized heffect hauthorized).1 hrow hcommand rfl
        rw [hpending] at hdead
        cases hdead
      · exact .inr ⟨hstate, rfl⟩
  refine Careful.unsent hrow hcommand ?_ (by simp [hpending]) heffect Iff.rfl ?_ hkill hset hinv
  · exact fun hinv hstate ↦ hinv.not_sent_of_pending hrow hcommand heffect hstate hpending
  · cases task.isCancelling <;> simp

theorem claimDispatch_careful (hrow : s.outbox.find? k = some row)
    (hcommand : row.command = .sideEffectDispatch payload) (hpending : row.status = .pending)
    (h : claimDispatch env k row payload.effectId task s = .ok (item, s')) :
    Careful Sent s s' := by
  intro hinv
  obtain ⟨effect, heffect, -, -, hfit⟩ := hinv.fits hrow hcommand
  rw [claimDispatch, Tx.get_bind_ok, heffect] at h
  obtain ⟨refusal, t, heligible, hrest⟩ := Tx.bind_ok.mp h
  obtain rfl : s = t := Respects.rel (R := Eq) heligible
  rcases Tx.ite_ok.mp hrest with ⟨-, hrefused⟩ | ⟨-, hrest₁⟩
  · obtain ⟨_, t₁, hkill, hrelease⟩ := Tx.bind_ok.mp hrefused
    obtain ⟨_, t₂, hset, hpure⟩ := Tx.bind_ok.mp hrelease
    obtain ⟨-, rfl⟩ := Tx.pure_ok.mp hpure
    exact releaseUnsentEffect_careful hrow hcommand hpending heffect hkill hset hinv
  · rcases Tx.ite_ok.mp hrest₁ with ⟨-, hrevoked⟩ | ⟨-, hclaim⟩
    · obtain ⟨_, t₁, hrevoke, hpure⟩ := Tx.bind_ok.mp hrevoked
      obtain ⟨-, rfl⟩ := Tx.pure_ok.mp hpure
      obtain ⟨_, t₂, hkill, hset⟩ := Tx.bind_ok.mp hrevoke
      refine Careful.unsent hrow hcommand ?_ (by simp [hpending]) heffect Iff.rfl ?_ hkill hset hinv
      · exact fun hinv hstate ↦ hinv.not_sent_of_pending hrow hcommand heffect hstate hpending
      · cases task.cancelIntent <;> simp
    · obtain ⟨_, t₁, hset, hlease⟩ := Tx.bind_ok.mp hclaim
      rcases Tx.when_ok.mp hset with ⟨hauthorized, -⟩ | ⟨-, rfl⟩
      · have hdead := (hinv.authorized heffect hauthorized).1 hrow hcommand rfl
        rw [hpending] at hdead
        cases hdead
      · exact leaseOutbox_careful hrow hpending hlease hinv

theorem claimRow_careful (hrow : s.outbox.find? k = some row) (hpending : row.status = .pending)
    (h : claimRow env k row s = .ok (item, s')) : Careful Sent s s' := by
  rw [claimRow, Tx.get_bind_ok] at h
  cases hcommand : row.command with
  | agentStart payload =>
    rw [hcommand] at h
    have hagent : AgentRow k s := ⟨row, hrow, by rw [hcommand]; rfl⟩
    have hquiet : QuietAt k s s' := Respects.rel h
    exact .of_quiet (hquiet hagent).1
  | agentStop runId reason =>
    rw [hcommand] at h
    exact leaseOutbox_careful hrow hpending h
  | sideEffectDispatch payload =>
    rw [hcommand] at h
    cases htask : s.tasks.find? row.taskId with
    | none =>
      simp only [htask] at h
      exact leaseOutbox_careful hrow hpending h
    | some task =>
      simp only [htask] at h
      exact claimDispatch_careful hrow hcommand hpending h

instance claimOneOutbox_careful : Respects (Careful Sent) (claimOneOutbox env) where
  rel {s item s'} h := by
    rw [claimOneOutbox, Tx.get_bind_ok] at h
    cases hclaimable : claimableOutbox env s with
    | none =>
      rw [hclaimable] at h
      obtain ⟨-, rfl⟩ := Tx.pure_ok.mp h
      exact Preord.refl _
    | some r =>
      rw [hclaimable] at h
      obtain ⟨hrow, hpending, -⟩ := claimableOutbox_some hclaimable
      exact claimRow_careful hrow hpending h

end Claim

/-- A row that was not sent is taken out of the outbox. -/
theorem Careful.kill (hrow : s.outbox.find? k = some row)
    (hcommand : row.command = .sideEffectDispatch payload) (hsent : ¬Sent k payload.effectId)
    (h : killOutbox k s = .ok ((), s')) : Careful Sent s s' := by
  obtain ⟨hout, heff⟩ := outbox_update h
  intro hinv
  refine ⟨hinv.map (g := fun _ a ↦ a) (fun k' a ↦ ?_) (fun _ _ ↦ SameFixed.refl _) hout ?_ ?_ ?_,
    .of_same heff⟩
  · split <;> rfl
  · rw [heff, Table.mapRows_id]
  · intro k' row' payload' effect' hrow' hcommand' _ hfit
    by_cases hk : k' = k
    · subst hk
      obtain rfl := Option.some.inj (hrow.symm.trans hrow')
      obtain rfl := OutboxCommand.sideEffectDispatch.inj (hcommand.symm.trans hcommand')
      rw [if_pos rfl]
      exact ⟨by simp, by simp, fun hs ↦ absurd hs hsent, hfit.decided⟩
    · rw [if_neg hk]
      exact hfit
  · intro k' row' payload' hrow' _ hlive
    by_cases hk : k' = k
    · simp [hk, OutboxRow.isLive] at hlive
    · rwa [if_neg hk] at hlive

/-- A dispatch that fails its last check is set free, since its thread has not sent it yet. -/
theorem precheck_careful {item : OutboxItem} {b : Bool}
    (hitem : ∀ row, s.outbox.find? item.outboxId = some row →
      row.command = .sideEffectDispatch payload)
    (hsent : ¬Sent item.outboxId payload.effectId)
    (h : precheck env item payload.effectId s = .ok (b, s')) : Careful Sent s s' := by
  have hsame {b : Bool} (h : (pure b : Core Bool) s = .ok (b, s')) : Careful Sent s s' := by
    obtain ⟨-, rfl⟩ := Tx.pure_ok.mp h
    exact Preord.refl _
  rw [precheck, Tx.get_bind_ok] at h
  cases hrow : s.outbox.find? item.outboxId with
  | none =>
    simp only [hrow] at h
    obtain ⟨-, rfl⟩ := Tx.pure_ok.mp h
    exact Preord.refl _
  | some row =>
    have hcommand := hitem row hrow
    cases heffect : s.sideEffects.find? payload.effectId with
    | none =>
      simp only [hrow, heffect] at h
      obtain ⟨-, rfl⟩ := Tx.pure_ok.mp h
      exact Preord.refl _
    | some effect =>
      simp only [hrow, heffect] at h
      cases htask : (s.tasks.find? item.taskId).map (item.taskId, ·)
        <|> (s.tasks.find? effect.taskId).map (effect.taskId, ·) with
      | none =>
        simp only [htask] at h
        obtain ⟨_, t, hkill, hpure⟩ := Tx.bind_ok.mp h
        obtain ⟨-, rfl⟩ := Tx.pure_ok.mp hpure
        exact Careful.kill hrow hcommand hsent hkill
      | some r =>
        simp only [htask] at h
        rcases Tx.ite_ok.mp h with ⟨-, hpure⟩ | ⟨hdead, hcheck⟩
        · obtain ⟨-, rfl⟩ := Tx.pure_ok.mp hpure
          exact Preord.refl _
        · obtain ⟨refusal, t, heligible, hrest⟩ := Tx.bind_ok.mp hcheck
          obtain rfl : s = t := Respects.rel (R := Eq) heligible
          rcases Tx.ite_ok.mp hrest with ⟨-, hrefused⟩ | ⟨-, hpure⟩
          · obtain ⟨_, t₁, hrelease, hpure⟩ := Tx.bind_ok.mp hrefused
            obtain ⟨-, rfl⟩ := Tx.pure_ok.mp hpure
            obtain ⟨_, t₂, hkill, hset⟩ := Tx.bind_ok.mp hrelease
            refine Careful.unsent hrow hcommand (fun _ _ ↦ hsent) hdead heffect Iff.rfl ?_ hkill
              hset
            cases r.2.isCancelling <;> simp
          · obtain ⟨-, rfl⟩ := Tx.pure_ok.mp hpure
            exact Preord.refl _

/-! ## Where only the invariant is kept -/

/-- Something is recorded of an effect, whatever it was before. -/
theorem record_maintains {g : SideEffectRow → SideEffectRow} {hg : ∀ a, SameFixed a (g a)}
    (hrec : ∀ a, (g a).state.isRecorded = true) :
    Respects (Maintains (DispatchInv Sent)) (Refs.sideEffects.update e g hg : Core Unit) where
  rel h hinv := by
    obtain ⟨heff, hout⟩ := effects_update h
    exact hinv.change hg hout heff fun _ _ _ _ _ ↦ .of_recorded (hrec _)

/-- The second pass of a cancellation. -/
instance cancelEffect_maintains {flushed : DB} :
    Respects (Maintains (DispatchInv Sent)) (cancelEffect flushed taskId e) := by
  have hcancel : Respects (Maintains (DispatchInv Sent))
      (Refs.sideEffects.update e fun e ↦ { e with state := .cancelled } : Core Unit) :=
    record_maintains fun _ ↦ rfl
  rw [cancelEffect]
  infer_instance

/-- The state that an answer of the external system asks for. -/
def ReceiptStatus.state : ReceiptStatus → SideEffectState
  | .succeeded => .succeeded
  | .failed => .failedConfirmed
  | .unknown => .unknown

theorem recordReceipt_ok {receipt : Receipt}
    (h : recordReceipt env e taskId receipt s = .ok ((), s')) :
    ∃ g : SideEffectRow → SideEffectRow, s'.sideEffects = s.sideEffects.modify e g ∧
      s'.outbox = s.outbox ∧ ∀ a, SameFixed a (g a) ∧ (g a).state = receipt.status.state := by
  unfold recordReceipt at h
  cases hreceipt : receipt.status with
  | succeeded =>
    simp only [hreceipt] at h
    obtain ⟨heff, hout⟩ := effects_update h
    exact ⟨_, heff, hout, fun _ ↦ ⟨rfl, rfl⟩⟩
  | failed =>
    simp only [hreceipt] at h
    obtain ⟨heff, hout⟩ := effects_update h
    exact ⟨_, heff, hout, fun _ ↦ ⟨rfl, rfl⟩⟩
  | unknown =>
    simp only [hreceipt] at h
    obtain ⟨_, t, hset, hpark⟩ := Tx.bind_ok.mp h
    obtain ⟨heff, hout⟩ := effects_update hset
    obtain ⟨heff₁, hout₁⟩ := parkTask_tables hpark
    exact ⟨_, heff₁.trans heff, hout₁.trans hout, fun _ ↦ ⟨rfl, rfl⟩⟩

/-- What recording an answer changes. -/
theorem applyReceipt_ok {receipt : Receipt}
    (heffect : s.sideEffects.find? e = some effect)
    (h : applyReceipt env k e receipt s = .ok ((), s')) :
    ∃ (f : OutboxRow → OutboxRow) (g : SideEffectRow → SideEffectRow),
      s'.outbox = s.outbox.modify k f ∧ s'.sideEffects = s.sideEffects.modify e g ∧
      (∀ a, SameFixed a (f a) ∧ (f a).status = .acked) ∧
      ∀ a, SameFixed a (g a) ∧ (g a).state = receipt.status.state := by
  rw [applyReceipt, Tx.get_bind_ok] at h
  obtain ⟨_, t, hack, hrecord⟩ := Tx.bind_ok.mp h
  obtain ⟨hout, heff⟩ := outbox_update hack
  rw [heffect, Tx.withSome_some] at hrecord
  obtain ⟨g, heff₁, hout₁, hg⟩ := recordReceipt_ok hrecord
  rw [heff] at heff₁
  exact ⟨_, g, hout₁.trans hout, heff₁, fun _ ↦ ⟨rfl, rfl⟩, hg⟩

/-- An answer is recorded whatever was recorded before. -/
theorem applyReceipt_maintains {receipt : Receipt} (hrow : s.outbox.find? k = some row)
    (hcommand : row.command = .sideEffectDispatch payload)
    (h : applyReceipt env k payload.effectId receipt s = .ok ((), s')) :
    Maintains (DispatchInv Sent) s s' := by
  intro hinv
  obtain ⟨effect, heffect, -, -, -⟩ := hinv.fits hrow hcommand
  obtain ⟨f, g, hout, heff, hf, hg⟩ := applyReceipt_ok heffect h
  refine hinv.settle hrow hcommand heffect (fun a ↦ (hf a).1) (fun a ↦ (hg a).1) hout heff
    (.inr (hf row).2) (.inl ?_)
  rw [(hg effect).2]
  cases receipt.status <;> rfl

/-! ## All commands -/

theorem Respects.maintains {α : Type} {m : Core α} (h : Respects (Careful Sent) m) :
    Respects (Maintains (DispatchInv Sent)) m where
  rel hm hinv := (h.rel hm hinv).1

/-- Every command but a cancellation is careful. -/
theorem handler_careful {operation : Operation} (h : operation ≠ .cancelTask) :
    Respects (Careful Sent) (handler env auth p operation) := by
  cases operation with
  | cancelTask => exact absurd rfl h
  | _ =>
    dsimp only [handler]
    infer_instance

theorem handler_maintains {operation : Operation} :
    Respects (Maintains (DispatchInv Sent)) (handler env auth p operation) := by
  by_cases h : operation = .cancelTask
  · subst h
    have hrevoke (env : Env) (flushed : DB) (taskId : String) :
        Respects (Maintains (DispatchInv Sent)) (invalidatePendingOutbox env flushed taskId) :=
      Respects.maintains inferInstance
    exact cancelTask_respects
  · exact (handler_careful h).maintains

end HibikiCore
