import HibikiCore.Safety.Claims

/-!
# Effects that may have been sent

An effect is sent through a row of the outbox. `DispatchInv` says how the state of the effect and
the status of the row go together; which rows may have been sent already is a parameter, since the
database does not know it.

`StateMonotone` is the order in which states of effects are meant to change. The transactions keep
to it one by one; two of them do so only under a condition, and are left out here.
-/

namespace HibikiCore

set_option synthInstance.maxSize 100000000
set_option synthInstance.maxHeartbeats 400000

/-- What became of an effect is recorded. -/
def SideEffectState.isRecorded : SideEffectState → Bool
  | .succeeded | .failedConfirmed | .unknown | .cancelled => true
  | _ => false

/-- What became of an effect is known for good. -/
def SideEffectState.isFinal : SideEffectState → Bool
  | .succeeded | .failedConfirmed | .cancelled => true
  | _ => false

/-- A final state is kept, an effect in doubt is only found out about, and an effect that may have
been sent is not taken back. -/
structure StateMonotone (sent : Prop) (a b : SideEffectState) : Prop where
  final : a.isFinal = true → b = a
  unknown : a = .unknown → b = .unknown ∨ b = .succeeded ∨ b = .failedConfirmed
  sent : sent → a = .dispatching →
    b = .dispatching ∨ b = .unknown ∨ b = .succeeded ∨ b = .failedConfirmed

namespace StateMonotone

variable {sent : Prop} {a b c : SideEffectState}

theorem refl (a : SideEffectState) : StateMonotone sent a a := ⟨fun _ ↦ rfl, .inl, fun _ ↦ .inl⟩

theorem trans (h : StateMonotone sent a b) (h' : StateMonotone sent b c) :
    StateMonotone sent a c where
  final ha := by
    obtain rfl := h.final ha
    exact h'.final ha
  unknown ha := by
    rcases h.unknown ha with hb | hb | hb
    · exact h'.unknown hb
    · exact .inr (.inl (by rw [h'.final (by rw [hb]; rfl), hb]))
    · exact .inr (.inr (by rw [h'.final (by rw [hb]; rfl), hb]))
  sent hsent ha := by
    rcases h.sent hsent ha with hb | hb | hb | hb
    · exact h'.sent hsent hb
    · exact .inr (h'.unknown hb)
    · exact .inr (.inr (.inl (by rw [h'.final (by rw [hb]; rfl), hb])))
    · exact .inr (.inr (.inr (by rw [h'.final (by rw [hb]; rfl), hb])))

/-- Nothing is asked of an effect that was not sent and of which nothing is recorded. -/
theorem of_unsent (ha : a.isRecorded = false) (hsent : a = .dispatching → ¬sent) :
    StateMonotone sent a b where
  final h := by cases a <;> simp_all [SideEffectState.isFinal, SideEffectState.isRecorded]
  unknown h := by simp_all [SideEffectState.isRecorded]
  sent h h' := (hsent h' h).elim

/-- What is found out about an effect that was claimed. -/
theorem of_found (ha : a = .dispatching ∨ a = .unknown)
    (hb : b = .unknown ∨ b = .succeeded ∨ b = .failedConfirmed) : StateMonotone sent a b where
  final h := by rcases ha with rfl | rfl <;> simp [SideEffectState.isFinal] at h
  unknown _ := hb
  sent _ _ := .inr hb

/-- An effect of which nothing is known for good may always be put in doubt. -/
theorem doubt (ha : a.isFinal = false) : StateMonotone sent a .unknown where
  final h := by simp [ha] at h
  unknown _ := .inl rfl
  sent _ _ := .inr (.inl rfl)

end StateMonotone

/-- The status of a row next to the state of the effect it sends. -/
structure DispatchFits (sent : Prop) (status : OutboxStatus) (state : SideEffectState) : Prop where
  live : status = .pending ∨ status = .inFlight → state = .dispatching ∨ state.isRecorded = true
  acked : status = .acked → state.isRecorded = true
  sent : sent → state.isRecorded = true ∨ state = .dispatching ∧ status = .inFlight
  decided : state ≠ .proposed ∧ state ≠ .waitingApproval

/-- Once something is recorded of an effect, its rows do not matter. -/
theorem DispatchFits.of_recorded {sent : Prop} {status : OutboxStatus} {state : SideEffectState}
    (h : state.isRecorded = true) : DispatchFits sent status state where
  live _ := .inr h
  acked _ := h
  sent _ := .inl h
  decided := by constructor <;> rintro rfl <;> cases h

/-- An effect that has a row is under way, set free again, or something is recorded of it. -/
theorem DispatchFits.recorded {sent : Prop} {status : OutboxStatus} {state : SideEffectState}
    (h : DispatchFits sent status state) (hdispatching : state ≠ .dispatching)
    (hauthorized : state ≠ .authorized) : state.isRecorded = true := by
  obtain ⟨hproposed, hwaiting⟩ := h.decided
  cases state <;> simp_all [SideEffectState.isRecorded]

/-- The rows that send effects, when `Sent` are the rows and effects that may have been sent. -/
structure DispatchInv (Sent : String → String → Prop) (s : DB) : Prop where
  fits : ∀ {k row payload}, s.outbox.find? k = some row →
    row.command = .sideEffectDispatch payload →
      ∃ effect, s.sideEffects.find? payload.effectId = some effect ∧
        effect.taskId = row.taskId ∧ payload = dispatchPayload payload.effectId effect ∧
        DispatchFits (Sent k payload.effectId) row.status effect.state
  /-- At most one row of an effect waits or is under way. -/
  unique : ∀ {k k' row row' payload payload'}, s.outbox.find? k = some row →
    s.outbox.find? k' = some row' → row.command = .sideEffectDispatch payload →
    row'.command = .sideEffectDispatch payload' → payload.effectId = payload'.effectId →
    row.isLive = true → row'.isLive = true → k = k'
  known : ∀ {k e}, Sent k e → ∃ row payload, s.outbox.find? k = some row ∧
    row.command = .sideEffectDispatch payload ∧ payload.effectId = e

/-- States of effects change monotonically. -/
def EffectsMonotone (Sent : String → String → Prop) (s s' : DB) : Prop :=
  ∀ e effect, s.sideEffects.find? e = some effect →
    ∃ effect', s'.sideEffects.find? e = some effect' ∧
      StateMonotone (∃ k, Sent k e) effect.state effect'.state

/-- The invariant is kept, and from it on states change monotonically. -/
def Careful (Sent : String → String → Prop) (s s' : DB) : Prop :=
  DispatchInv Sent s → DispatchInv Sent s' ∧ EffectsMonotone Sent s s'

variable {Sent : String → String → Prop} {s s' : DB}

theorem OutboxRow.isLive_iff {row : OutboxRow} :
    row.isLive = true ↔ row.status = .pending ∨ row.status = .inFlight := by
  simp [OutboxRow.isLive]

theorem EffectsMonotone.of_same (h : s'.sideEffects = s.sideEffects) :
    EffectsMonotone Sent s s' :=
  fun _ effect he ↦ ⟨effect, h ▸ he, StateMonotone.refl _⟩

theorem EffectsMonotone.trans {s'' : DB} (h : EffectsMonotone Sent s s')
    (h' : EffectsMonotone Sent s' s'') : EffectsMonotone Sent s s'' := by
  intro e effect he
  obtain ⟨effect₁, he₁, hmono₁⟩ := h e effect he
  obtain ⟨effect₂, he₂, hmono₂⟩ := h' e effect₁ he₁
  exact ⟨effect₂, he₂, hmono₁.trans hmono₂⟩

/-- The invariant looks at effects and at the rows that send them. -/
theorem DispatchInv.of_quiet (hquiet : EffectsQuiet s s') (h : DispatchInv Sent s) :
    DispatchInv Sent s' where
  fits hrow hcommand := by
    rw [hquiet.effects]
    exact h.fits ((hquiet.rows hcommand).mp hrow) hcommand
  unique hrow hrow' hcommand hcommand' :=
    h.unique ((hquiet.rows hcommand).mp hrow) ((hquiet.rows hcommand').mp hrow') hcommand hcommand'
  known hsent := by
    obtain ⟨row, payload, hrow, hcommand, he⟩ := h.known hsent
    exact ⟨row, payload, (hquiet.rows hcommand).mpr hrow, hcommand, he⟩

instance : EffectsOnly (DispatchInv Sent) := ⟨DispatchInv.of_quiet⟩

theorem Careful.of_quiet (h : EffectsQuiet s s') : Careful Sent s s' :=
  fun hinv ↦ ⟨hinv.of_quiet h, .of_same h.effects⟩

namespace Careful

instance : Preord (Careful Sent) where
  refl _ h := ⟨h, .of_same rfl⟩
  trans h h' hinv :=
    have h₁ := h hinv
    have h₂ := h' h₁.1
    ⟨h₂.1, h₁.2.trans h₂.2⟩

instance : Frame (Careful Sent) where
  still h := of_quiet (Frame.still h)

instance {n : Relation} [Touches n besideEffects] : Indifferent (Careful Sent) n where
  writes h := of_quiet (Indifferent.writes h)

instance : AgentRows (Careful Sent) where
  enqueueStart _ _ _ _ := .of_quiet of_quiet inferInstance
  enqueueStop _ _ _ _ _ := .of_quiet of_quiet inferInstance
  killStarts _ _ := .of_quiet of_quiet inferInstance

instance cancelUnsentStart_careful {env : Env} {taskId runId : String} :
    Respects (Careful Sent) (cancelUnsentStart env taskId runId) :=
  .of_quiet of_quiet inferInstance

end Careful

/-! ## Moving rows and effects -/

/-- An effect is sent with its immutable columns. -/
theorem dispatchPayload_of_sameFixed {a b : SideEffectRow} (h : SameFixed a b) (e : String) :
    dispatchPayload e b = dispatchPayload e a := by
  have hkey : b.externalIdempotencyKey = a.externalIdempotencyKey :=
    congrArg EffectTerms.externalIdempotencyKey h
  have hparameters : b.parameters = a.parameters := congrArg EffectTerms.parameters h
  have htarget : b.targetRef = a.targetRef := congrArg EffectTerms.targetRef h
  have haction : b.actionType = a.actionType := congrArg EffectTerms.actionType h
  have hquery : b.supportsIdempotentQuery = a.supportsIdempotentQuery :=
    congrArg EffectTerms.supportsIdempotentQuery h
  rw [dispatchPayload, dispatchPayload, hkey, hparameters, htarget, haction, hquery]

/-- Rows and effects change together, each row with the effect it sends. -/
theorem DispatchInv.map {f : String → OutboxRow → OutboxRow}
    {g : String → SideEffectRow → SideEffectRow} (h : DispatchInv Sent s)
    (hf : ∀ k a, SameFixed a (f k a)) (hg : ∀ e a, SameFixed a (g e a))
    (hout : s'.outbox = s.outbox.mapRows f) (heff : s'.sideEffects = s.sideEffects.mapRows g)
    (hfits : ∀ {k row payload effect}, s.outbox.find? k = some row →
      row.command = .sideEffectDispatch payload →
      s.sideEffects.find? payload.effectId = some effect →
      DispatchFits (Sent k payload.effectId) row.status effect.state →
      DispatchFits (Sent k payload.effectId) (f k row).status
        (g payload.effectId effect).state)
    (hlive : ∀ {k row payload}, s.outbox.find? k = some row →
      row.command = .sideEffectDispatch payload → (f k row).isLive = true →
      row.isLive = true) : DispatchInv Sent s' := by
  have hback {k row' payload} (hrow' : s'.outbox.find? k = some row')
      (hcommand : row'.command = .sideEffectDispatch payload) :
      ∃ row, s.outbox.find? k = some row ∧ f k row = row' ∧
        row.command = .sideEffectDispatch payload := by
    rw [hout, Table.find?_mapRows, Option.map_eq_some_iff] at hrow'
    obtain ⟨row, hrow, rfl⟩ := hrow'
    have hsame : (f k row).command = row.command := congrArg (·.2.1) (hf k row)
    exact ⟨row, hrow, rfl, hsame ▸ hcommand⟩
  refine ⟨?_, ?_, ?_⟩
  · intro k row' payload hrow' hcommand'
    obtain ⟨row, hrow, rfl, hcommand⟩ := hback hrow' hcommand'
    obtain ⟨effect, heffect, htask, hpayload, hfit⟩ := h.fits hrow hcommand
    have hsame := hg payload.effectId effect
    refine ⟨g payload.effectId effect, ?_, ?_, ?_, hfits hrow hcommand heffect hfit⟩
    · rw [heff, Table.find?_mapRows, heffect]
      rfl
    · have hrowTask : (f k row).taskId = row.taskId := congrArg (·.1) (hf k row)
      have heffectTask : (g payload.effectId effect).taskId = effect.taskId :=
        congrArg EffectTerms.taskId hsame
      rw [heffectTask, hrowTask, htask]
    · rw [dispatchPayload_of_sameFixed hsame]
      exact hpayload
  · intro k k' row row' payload payload' hrow hrow' hcommand hcommand' he hl hl'
    obtain ⟨old, hold, rfl, hc⟩ := hback hrow hcommand
    obtain ⟨old', hold', rfl, hc'⟩ := hback hrow' hcommand'
    exact h.unique hold hold' hc hc' he (hlive hold hc hl) (hlive hold' hc' hl')
  · intro k e hsent
    obtain ⟨row, payload, hrow, hcommand, he⟩ := h.known hsent
    refine ⟨f k row, payload, ?_, ?_, he⟩
    · rw [hout, Table.find?_mapRows, hrow]
      rfl
    · exact (congrArg (·.2.1) (hf k row)).trans hcommand

/-- States change as the function on effects says. -/
theorem EffectsMonotone.map {g : String → SideEffectRow → SideEffectRow}
    (heff : s'.sideEffects = s.sideEffects.mapRows g)
    (hmono : ∀ {e effect}, s.sideEffects.find? e = some effect →
      StateMonotone (∃ k, Sent k e) effect.state (g e effect).state) :
    EffectsMonotone Sent s s' := by
  intro e effect he
  refine ⟨g e effect, ?_, hmono he⟩
  rw [heff, Table.find?_mapRows, he]
  rfl

/-- One effect changes, and what it was decided to be still fits its rows. -/
theorem DispatchInv.change {e : String} {g : SideEffectRow → SideEffectRow} (h : DispatchInv Sent s)
    (hg : ∀ a, SameFixed a (g a)) (hout : s'.outbox = s.outbox)
    (heff : s'.sideEffects = s.sideEffects.modify e g)
    (hfits : ∀ {k row payload effect}, s.outbox.find? k = some row →
      row.command = .sideEffectDispatch payload → payload.effectId = e →
      s.sideEffects.find? e = some effect → DispatchFits (Sent k e) row.status effect.state →
      DispatchFits (Sent k e) row.status (g effect).state) : DispatchInv Sent s' := by
  refine h.map (f := fun _ a ↦ a) (fun _ _ ↦ SameFixed.refl _) (fun e a ↦ ?_) ?_ heff ?_
    fun _ _ hl ↦ hl
  · split
    · exact hg a
    · exact SameFixed.refl a
  · rw [hout, Table.mapRows_id]
  · intro k row payload effect hrow hcommand heffect hfit
    by_cases he : payload.effectId = e
    · subst he
      rw [if_pos rfl]
      exact hfits hrow hcommand rfl heffect hfit
    · rw [if_neg he]
      exact hfit

section Moves

variable {k e : String} {row : OutboxRow} {payload : DispatchPayload} {effect : SideEffectRow}

/-- The effect of a row that was not sent, while another row of it is not recorded, was not sent
through any row. -/
theorem DispatchInv.unsent (h : DispatchInv Sent s) (hrow : s.outbox.find? k = some row)
    (hcommand : row.command = .sideEffectDispatch payload)
    (heffect : s.sideEffects.find? payload.effectId = some effect)
    (hstate : effect.state = .dispatching) (hlive : row.isLive = true)
    (hsent : ¬Sent k payload.effectId) (k' : String) : ¬Sent k' payload.effectId := by
  intro hsent'
  obtain ⟨row', payload', hrow', hcommand', he⟩ := h.known hsent'
  obtain ⟨effect', heffect', -, -, hfit⟩ := h.fits hrow' hcommand'
  rw [he, heffect, Option.some_inj] at heffect'
  subst heffect'
  rw [he] at hfit
  rcases hfit.sent hsent' with hrec | ⟨-, hflight⟩
  · rw [hstate] at hrec
    cases hrec
  · have hlive' : row'.isLive = true := OutboxRow.isLive_iff.mpr (.inr hflight)
    obtain rfl := h.unique hrow' hrow hcommand' hcommand he hlive' hlive
    exact hsent hsent'

/-- A row that waits was not sent, as long as its effect is not recorded. -/
theorem DispatchInv.not_sent_of_pending (h : DispatchInv Sent s)
    (hrow : s.outbox.find? k = some row) (hcommand : row.command = .sideEffectDispatch payload)
    (heffect : s.sideEffects.find? payload.effectId = some effect)
    (hstate : effect.state = .dispatching) (hpending : row.status = .pending) :
    ¬Sent k payload.effectId := by
  intro hsent
  obtain ⟨effect', heffect', -, -, hfit⟩ := h.fits hrow hcommand
  obtain rfl := Option.some.inj (heffect.symm.trans heffect')
  rcases hfit.sent hsent with hrec | ⟨-, hflight⟩
  · rw [hstate] at hrec
    cases hrec
  · rw [hpending] at hflight
    cases hflight

variable {f : OutboxRow → OutboxRow} {g : SideEffectRow → SideEffectRow}

/-- The condition under which a row can be settled: something is recorded of its effect, or it was
not sent and its effect is set free. -/
theorem DispatchInv.settle (h : DispatchInv Sent s) (hrow : s.outbox.find? k = some row)
    (hcommand : row.command = .sideEffectDispatch payload)
    (heffect : s.sideEffects.find? payload.effectId = some effect)
    (hf : ∀ a, SameFixed a (f a)) (hg : ∀ a, SameFixed a (g a))
    (hout : s'.outbox = s.outbox.modify k f)
    (heff : s'.sideEffects = s.sideEffects.modify payload.effectId g)
    (hstatus : (f row).status = .dead ∨ (f row).status = .acked)
    (hstate : (g effect).state.isRecorded = true ∨ ((f row).status = .dead ∧
      effect.state = .dispatching ∧ row.isLive = true ∧ ¬Sent k payload.effectId ∧
      (g effect).state = .authorized)) : DispatchInv Sent s' := by
  refine h.map (fun k' a ↦ ?_) (fun e a ↦ ?_) hout heff ?_ ?_
  · split
    · exact hf a
    · exact SameFixed.refl a
  · split
    · exact hg a
    · exact SameFixed.refl a
  · intro k' row' payload' effect' hrow' hcommand' heffect' hfit
    by_cases he : payload'.effectId = payload.effectId
    · rw [he] at heffect' hfit
      obtain rfl := Option.some.inj (heffect.symm.trans heffect')
      rw [he, if_pos rfl]
      rcases hstate with hrec | ⟨hdead, hdispatching, hlive, hsent, hauthorized⟩
      · exact .of_recorded hrec
      · have hnot := h.unsent hrow hcommand heffect hdispatching hlive hsent
        have hnrec : effect.state.isRecorded = false := by rw [hdispatching]; rfl
        have hdead' : (if k' = k then f row' else row').status = .dead := by
          by_cases hk : k' = k
          · subst hk
            obtain rfl := Option.some.inj (hrow.symm.trans hrow')
            rw [if_pos rfl, hdead]
          · rw [if_neg hk]
            cases hst : row'.status with
            | dead => rfl
            | acked => exact absurd (hfit.acked hst) (by simp [hnrec])
            | pending =>
              have hl : row'.isLive = true := OutboxRow.isLive_iff.mpr (.inl hst)
              exact absurd (h.unique hrow' hrow hcommand' hcommand he hl hlive) hk
            | inFlight =>
              have hl : row'.isLive = true := OutboxRow.isLive_iff.mpr (.inr hst)
              exact absurd (h.unique hrow' hrow hcommand' hcommand he hl hlive) hk
        rw [hdead', hauthorized]
        exact ⟨by simp, by simp, fun hs ↦ absurd hs (hnot k'), by simp⟩
    · rw [if_neg he]
      by_cases hk : k' = k
      · subst hk
        obtain rfl := Option.some.inj (hrow.symm.trans hrow')
        rw [hcommand] at hcommand'
        cases hcommand'
        exact absurd rfl he
      · rw [if_neg hk]
        exact hfit
  · intro k' row' payload' hrow' _ hlive
    by_cases hk : k' = k
    · subst hk
      obtain rfl := Option.some.inj (hrow.symm.trans hrow')
      rw [if_pos rfl, OutboxRow.isLive_iff] at hlive
      rcases hstatus with hst | hst <;> simp [hst] at hlive
    · rwa [if_neg hk] at hlive

/-- A settled row changes its effect as little as what is known of it allows. -/
theorem Careful.settle (hrow : s.outbox.find? k = some row)
    (hcommand : row.command = .sideEffectDispatch payload)
    (hf : ∀ a, SameFixed a (f a)) (hg : ∀ a, SameFixed a (g a))
    (hout : s'.outbox = s.outbox.modify k f)
    (heff : s'.sideEffects = s.sideEffects.modify payload.effectId g)
    (hstatus : (f row).status = .dead ∨ (f row).status = .acked)
    (hstate : DispatchInv Sent s → ∀ effect,
      s.sideEffects.find? payload.effectId = some effect →
      DispatchFits (Sent k payload.effectId) row.status effect.state →
      ((g effect).state.isRecorded = true ∧
        ((g effect).state = effect.state ∨
          effect.state.isFinal = false ∧ (g effect).state = .unknown)) ∨
      ((f row).status = .dead ∧ effect.state = .dispatching ∧ row.isLive = true ∧
        ¬Sent k payload.effectId ∧ ((g effect).state = .authorized ∨
          (g effect).state = .cancelled))) : Careful Sent s s' := by
  intro h
  obtain ⟨effect, heffect, -, -, hfit⟩ := h.fits hrow hcommand
  have hcase := hstate h effect heffect hfit
  constructor
  · refine h.settle hrow hcommand heffect hf hg hout heff hstatus ?_
    rcases hcase with ⟨hrec, -⟩ | ⟨hdead, hdispatching, hlive, hsent, hnext | hnext⟩
    · exact .inl hrec
    · exact .inr ⟨hdead, hdispatching, hlive, hsent, hnext⟩
    · exact .inl (by rw [hnext]; rfl)
  · refine .map heff fun {e other} hother ↦ ?_
    by_cases he : e = payload.effectId
    · subst he
      obtain rfl := Option.some.inj (heffect.symm.trans hother)
      rw [if_pos rfl]
      rcases hcase with ⟨-, hsame | ⟨hfinal, hunknown⟩⟩ | ⟨-, hdispatching, hlive, hsent, -⟩
      · rw [hsame]
        exact .refl _
      · rw [hunknown]
        exact .doubt hfinal
      · refine .of_unsent (by rw [hdispatching]; rfl) fun _ ⟨k', hk'⟩ ↦ ?_
        exact h.unsent hrow hcommand heffect hdispatching hlive hsent k' hk'
    · rw [if_neg he]
      exact .refl _

/-- A row that waits is claimed. -/
theorem DispatchInv.claim (h : DispatchInv Sent s) (hrow : s.outbox.find? k = some row)
    (hpending : row.status = .pending) (hf : ∀ a, SameFixed a (f a))
    (hout : s'.outbox = s.outbox.modify k f) (heff : s'.sideEffects = s.sideEffects)
    (hstatus : (f row).status = .inFlight) : DispatchInv Sent s' := by
  refine h.map (g := fun _ a ↦ a) (fun k' a ↦ ?_) (fun _ _ ↦ SameFixed.refl _) hout ?_ ?_ ?_
  · split
    · exact hf a
    · exact SameFixed.refl a
  · rw [heff, Table.mapRows_id]
  · intro k' row' payload' effect' hrow' _ _ hfit
    by_cases hk : k' = k
    · subst hk
      obtain rfl := Option.some.inj (hrow.symm.trans hrow')
      rw [if_pos rfl, hstatus]
      refine ⟨fun _ ↦ hfit.live (.inl hpending), by simp, fun hs ↦ ?_, hfit.decided⟩
      rcases hfit.sent hs with hrec | ⟨-, hflight⟩
      · exact .inl hrec
      · rw [hpending] at hflight
        cases hflight
    · rw [if_neg hk]
      exact hfit
  · intro k' row' payload' hrow' _ hlive
    by_cases hk : k' = k
    · subst hk
      obtain rfl := Option.some.inj (hrow.symm.trans hrow')
      exact OutboxRow.isLive_iff.mpr (.inl hpending)
    · rwa [if_neg hk] at hlive

end Moves

end HibikiCore
