import HibikiCore.Safety.AtMostOnce

/-!
# Effects that are settled

What the transactions record of effects is monotone, with two exceptions. The second pass of a
cancellation takes back effects by the state they had when it began, and the answer to a call is
recorded whatever was found out in the meantime. An effect of which something is recorded is no
concern of the first, and where no call for it is under way there is no answer to come. So it is
settled for good: it may still be found out what became of an effect in doubt, and that is all.
-/

namespace HibikiCore

set_option synthInstance.maxSize 100000000
set_option synthInstance.maxHeartbeats 400000

/-! ## States -/

/-- What may become of a state that is recorded: it stays, or an effect in doubt is found out
about. -/
def SideEffectState.Settles (a b : SideEffectState) : Prop :=
  b = a ∨ a = .unknown ∧ (b = .succeeded ∨ b = .failedConfirmed)

namespace SideEffectState

variable {a b c : SideEffectState} {sent : Prop}

theorem Settles.recorded (h : a.Settles b) (ha : a.isRecorded = true) : b.isRecorded = true := by
  rcases h with rfl | ⟨-, rfl | rfl⟩
  · exact ha
  · rfl
  · rfl

theorem Settles.trans (h : a.Settles b) (h' : b.Settles c) : a.Settles c := by
  rcases h with rfl | ⟨rfl, hb⟩
  · exact h'
  · rcases h' with rfl | ⟨rfl, -⟩
    · exact .inr ⟨rfl, hb⟩
    · rcases hb with hb | hb <;> cases hb

/-- A monotone change of a state that is recorded settles it. -/
theorem Settles.of_monotone (h : StateMonotone sent a b) (ha : a.isRecorded = true) :
    a.Settles b := by
  cases a with
  | unknown =>
    rcases h.unknown rfl with rfl | hfound
    · exact .inl rfl
    · exact .inr ⟨rfl, hfound⟩
  | succeeded | failedConfirmed | cancelled => exact .inl (h.final rfl)
  | proposed | waitingApproval | authorized | dispatching => cases ha

/-- A cancellation does not look at what is recorded. -/
theorem not_cancellable (ha : a.isRecorded = true) : a.isCancellable = false := by
  cases a <;> first | rfl | cases ha

end SideEffectState

/-- Of an effect something like the recorded state is recorded. -/
def SettledAs (a : SideEffectState) (e : String) (s : DB) : Prop :=
  ∃ effect, s.sideEffects.find? e = some effect ∧ a.Settles effect.state

namespace SettledAs

variable {a : SideEffectState} {e : String} {s s' : DB} {Sent : String → String → Prop}

theorem of_same (h : SettledAs a e s) (hsame : s'.sideEffects.find? e = s.sideEffects.find? e) :
    SettledAs a e s' := by
  obtain ⟨effect, heffect, hsettles⟩ := h
  exact ⟨effect, hsame ▸ heffect, hsettles⟩

theorem of_writes {W : List Relation} (h : SettledAs a e s) (hw : Writes W s s')
    (hW : Relation.sideEffects ∉ W) : SettledAs a e s' := by
  have hsame : s.sideEffects = s'.sideEffects := (hw .sideEffects).2 hW
  exact h.of_same (by rw [hsame])

theorem of_quiet (h : SettledAs a e s) (hquiet : EffectsQuiet s s') : SettledAs a e s' :=
  h.of_same (by rw [hquiet.effects])

theorem of_monotone (h : SettledAs a e s) (ha : a.isRecorded = true)
    (hmono : EffectsMonotone Sent s s') : SettledAs a e s' := by
  obtain ⟨effect, heffect, hsettles⟩ := h
  obtain ⟨effect', heffect', hstep⟩ := hmono e effect heffect
  exact ⟨effect', heffect', hsettles.trans (.of_monotone hstep (hsettles.recorded ha))⟩

end SettledAs

/-! ## Transactions -/

section Transactions

variable {a : SideEffectState} {e taskId : String} {s s' : DB} {Sent : String → String → Prop}
  {env : Env} {auth : AuthContext} {p : Payload} {result : CommandResult} {w : World}

/-- The second pass leaves other effects as they are. -/
theorem cancelEffect_other {flushed : DB} {effectId : String} (hne : e ≠ effectId)
    (h : cancelEffect flushed taskId effectId s = .ok ((), s')) :
    s'.sideEffects.find? e = s.sideEffects.find? e := by
  have hcancel {t : DB} (hupdate : (Refs.sideEffects.update effectId
      (fun e ↦ { e with state := .cancelled }) : Core Unit) s = .ok ((), t)) :
      t.sideEffects.find? e = s.sideEffects.find? e := by
    obtain ⟨heff, -⟩ := effects_update hupdate
    rw [heff, Table.find?_modify_of_ne hne]
  rw [cancelEffect, Tx.get_bind_ok, Tx.withSome_ok] at h
  rcases h with ⟨effect, -, h⟩ | ⟨-, rfl⟩
  · rcases Tx.ite_ok.mp h with ⟨-, h⟩ | ⟨-, h⟩
    · rcases Tx.when_ok.mp h with ⟨-, h⟩ | ⟨-, rfl⟩
      · exact hcancel h
      · rfl
    · exact hcancel h
  · rfl

/-- A cancellation leaves settled effects as they are: its second pass walks the effects that were
under way, or on the way, when it began. -/
theorem cancelTask_settled (hinv : DispatchInv Sent s) (ha : a.isRecorded = true)
    (hsettled : SettledAs a e s) (h : cancelTask env auth p s = .ok (result, s')) :
    SettledAs a e s' := by
  rw [cancelTask, Tx.get_bind_ok] at h
  obtain ⟨taskId, t₁, hkey, h₁⟩ := Tx.bind_ok.mp h
  obtain ⟨task, t₂, htask, h₂⟩ := Tx.bind_ok.mp h₁
  obtain ⟨_, t₃, hintent, h₃⟩ := Tx.bind_ok.mp h₂
  obtain ⟨_, t₄, hstate, h₄⟩ := Tx.bind_ok.mp h₃
  obtain ⟨_, t₅, hrevoke, h₅⟩ := Tx.bind_ok.mp h₄
  obtain ⟨_, t₆, hloop, h₆⟩ := Tx.bind_ok.mp h₅
  have hquiet₁ : EffectsQuiet s t₁ := Respects.rel hkey
  have hquiet₂ : EffectsQuiet t₁ t₂ := Respects.rel htask
  have hquiet₃ : EffectsQuiet t₂ t₃ := Respects.rel hintent
  have hquiet₄ : EffectsQuiet t₃ t₄ := Respects.rel hstate
  have hquiet : EffectsQuiet s t₄ :=
    Preord.trans hquiet₁ (Preord.trans hquiet₂ (Preord.trans hquiet₃ hquiet₄))
  have hcareful : Careful Sent t₄ t₅ := Respects.rel hrevoke
  have hmono := (hcareful (hinv.of_quiet hquiet)).2
  have hsettled₅ : SettledAs a e t₅ := (hsettled.of_quiet hquiet).of_monotone ha hmono
  have hsettled₆ : SettledAs a e t₆ := by
    refine Tx.each_induct (P := SettledAs a e) (fun effectId hmem t t' ht hround ↦ ?_)
      hsettled₅ hloop
    refine ht.of_same (cancelEffect_other ?_ hround)
    rintro rfl
    obtain ⟨effect, heffect, hsettles⟩ := hsettled
    obtain ⟨r, hr, rfl⟩ := List.mem_map.mp hmem
    obtain ⟨hfind, hcancellable⟩ := Table.mem_select.mp hr
    obtain rfl := Option.some.inj (heffect.symm.trans hfind)
    rw [Bool.and_eq_true, SideEffectState.not_cancellable (hsettles.recorded ha)] at hcancellable
    exact Bool.false_ne_true hcancellable.2
  have hrest : EffectsQuiet t₆ s' := Respects.rel h₆
  exact hsettled₆.of_quiet hrest

theorem execute_settled {r : Request} (hinv : DispatchInv Sent s) (ha : a.isRecorded = true)
    (hsettled : SettledAs a e s) (h : execute env r s = .ok (result, s')) : SettledAs a e s' := by
  rcases execute_ok h with hrecords | ⟨t, t', hran, hrecords⟩
  · exact hsettled.of_writes hrecords (by decide)
  · refine SettledAs.of_writes ?_ hrecords (by decide)
    obtain ⟨n, hstart⟩ := hran.start
    have hdrawn : EffectsQuiet s t := by
      rw [hstart]
      exact ⟨rfl, fun _ ↦ Iff.rfl⟩
    have hinv' := hinv.of_quiet hdrawn
    have hsettled' := hsettled.of_quiet hdrawn
    have hrun := hran.run
    by_cases hcancel : r.operation = .cancelTask
    · rw [hcancel] at hrun
      exact cancelTask_settled hinv' ha hsettled' hrun
    · exact hsettled'.of_monotone ha ((handler_careful hcancel).rel hrun hinv').2

/-- Recording an answer leaves effects as they are that were not asked about. -/
theorem record_settled {id : Nat} {item : OutboxItem} {reply : Reply} {db : DB} (ht : ThreadInv w)
    (hinv : DispatchInv Sent w.db)
    (hthread : w.threads.find? id = some ⟨item, .answered reply⟩)
    (hother : item.command.dispatchEffect ≠ some e) (hsettled : SettledAs a e w.db)
    (hrun : World.record env item reply w.db = .ok ((), db)) : SettledAs a e db := by
  have hagent (hnone : item.command.dispatchEffect = none)
      (hquiet : QuietAt item.outboxId w.db db) : SettledAs a e db :=
    hsettled.of_quiet (hquiet (ht.agentRow hthread hnone)).1
  have hsame (hpure : (pure () : Core Unit) w.db = .ok ((), db)) : SettledAs a e db := by
    obtain ⟨-, rfl⟩ := Tx.pure_ok.mp hpure
    exact hsettled
  cases hcommand : item.command with
  | agentStart payload =>
    cases reply with
    | started revoked =>
      simp only [World.record, hcommand] at hrun
      exact hagent (by rw [hcommand]; rfl) (Respects.rel hrun)
    | stopped result | receipt receipt =>
      simp only [World.record, hcommand] at hrun
      exact hsame hrun
  | agentStop runId reason =>
    cases reply with
    | stopped result =>
      simp only [World.record, hcommand] at hrun
      exact hagent (by rw [hcommand]; rfl) (Respects.rel hrun)
    | started revoked | receipt receipt =>
      simp only [World.record, hcommand] at hrun
      exact hsame hrun
  | sideEffectDispatch payload =>
    cases reply with
    | receipt receipt =>
      simp only [World.record, hcommand] at hrun
      obtain ⟨row, hrow⟩ := ht.row hthread
      obtain ⟨effect, heffect, -⟩ := hinv.fits hrow.found (hrow.sameCommand.trans hcommand)
      obtain ⟨f, g, -, heff, -⟩ := applyReceipt_ok heffect hrun
      refine hsettled.of_same ?_
      rw [heff, Table.find?_modify_of_ne]
      rintro rfl
      exact hother (by rw [hcommand]; rfl)
    | started revoked | stopped result =>
      simp only [World.record, hcommand] at hrun
      exact hsame hrun

end Transactions

/-! ## Steps -/

/-- Whether a thread may still call the adapter, or record what it answered. -/
def Phase.mayRecord : Phase → Bool
  | .cleared _ _ | .answered _ => true
  | _ => false

/-- No call for an effect is under way, or about to be made. -/
def CallsDone (w : World) (e : String) : Prop :=
  ∀ id t, w.threads.find? id = some t → t.item.command.dispatchEffect = some e →
    t.phase.mayRecord = false

/-- What stays true of an effect once it is settled. -/
structure SettledIn (a : SideEffectState) (e : String) (sends : List Send) (w : World) : Prop where
  settled : SettledAs a e w.db
  done : CallsDone w e
  /-- It is not sent again. -/
  unsent : ∀ c ∈ w.sends, c.payload.effectId = e → c ∈ sends

section Steps

variable {a : SideEffectState} {e : String} {sends : List Send} {w w' : World} {l : Label}

theorem CallsDone.setPhase {id : Nat} {phase : Phase} (h : CallsDone w e)
    (hphase : phase.mayRecord = false ∨ ∀ t, w.threads.find? id = some t →
      t.item.command.dispatchEffect ≠ some e) : CallsDone (w.setPhase id phase) e := by
  intro id' t' hthread hitem
  rw [World.find?_setPhase] at hthread
  split at hthread
  · next heq =>
    obtain ⟨t, ht, rfl⟩ := Option.map_eq_some_iff.mp hthread
    rcases hphase with hphase | hother
    · exact hphase
    · exact absurd hitem (hother t (heq ▸ ht))
  · exact h id' t' hthread hitem

theorem CallsDone.endThread {id : Nat} (h : CallsDone w e) : CallsDone (w.endThread id) e := by
  intro id' t hthread hitem
  rw [World.find?_endThread] at hthread
  split at hthread
  · cases hthread
  · exact h id' t hthread hitem

/-- A thread that is cleared or was answered is about another effect. -/
theorem CallsDone.other {id : Nat} {t : Thread} (h : CallsDone w e)
    (hthread : w.threads.find? id = some t) (hphase : t.phase.mayRecord = true) :
    t.item.command.dispatchEffect ≠ some e := by
  intro hitem
  rw [h id t hthread hitem] at hphase
  cases hphase

/-- A settled effect is not sent: it is not cleared for dispatch. -/
theorem SettledAs.not_cleared {env : Env} {item : OutboxItem} {db : DB} (ha : a.isRecorded = true)
    (h : SettledAs a e w.db) (hrun : World.lastCheck env item w.db = .ok (true, db)) :
    item.command.dispatchEffect ≠ some e := by
  intro hitem
  cases hcommand : item.command with
  | agentStart payload | agentStop runId reason =>
    rw [hcommand] at hitem
    cases hitem
  | sideEffectDispatch payload =>
    rw [World.lastCheck, hcommand] at hrun
    obtain ⟨-, taskId, row, effect, task, hcheck⟩ := precheck_true hrun
    obtain ⟨effect', heffect', hsettles⟩ := h
    rw [hcommand] at hitem
    obtain rfl : payload.effectId = e := Option.some.inj hitem
    obtain rfl := Option.some.inj (hcheck.found.symm.trans heffect')
    have hrecorded := hsettles.recorded ha
    rw [List.mem_singleton.mp hcheck.sendable.state] at hrecorded
    cases hrecorded

/-- A settled effect is settled after every step. -/
theorem SettledIn.step (ht : ThreadInv w) (hsend : SendInv w) (ha : a.isRecorded = true)
    (h : SettledIn a e sends w) (hstep : World.Step w l w') : SettledIn a e sends w' := by
  have hinv := hsend.dispatch
  have hmono {db : DB} (hcareful : Careful (Engaged w) w.db db) : SettledAs a e db :=
    h.settled.of_monotone ha (hcareful hinv).2
  cases hstep with
  | command hrun => exact ⟨execute_settled hinv ha h.settled hrun, h.done, h.unsent⟩
  | @claimed env id item db hnew hrun =>
    refine ⟨hmono (claimOneOutbox_careful.rel hrun), fun id' t hthread hitem ↦ ?_, h.unsent⟩
    rw [Table.find?_insert hnew] at hthread
    split at hthread
    · rw [← Option.some.inj hthread]
      rfl
    · exact h.done id' t hthread hitem
  | unclaimed hrun => exact ⟨hmono (claimOneOutbox_careful.rel hrun), h.done, h.unsent⟩
  | cleared hthread hrun =>
    refine ⟨hmono (lastCheck_careful ht hthread hrun), ?_, h.unsent⟩
    refine CallsDone.setPhase (w := { w with db := _ }) h.done (.inr fun t hfind ↦ ?_)
    obtain rfl := Option.some.inj (hthread.symm.trans hfind)
    exact h.settled.not_cleared ha hrun
  | refused hthread hrun =>
    exact ⟨hmono (lastCheck_careful ht hthread hrun), CallsDone.endThread h.done, h.unsent⟩
  | started hthread =>
    refine ⟨h.settled, CallsDone.setPhase h.done (.inr fun t hfind ↦ ?_), h.unsent⟩
    obtain rfl := Option.some.inj (hthread.symm.trans hfind)
    exact h.done.other hthread rfl
  | stopped hthread =>
    refine ⟨h.settled, CallsDone.setPhase h.done (.inr fun t hfind ↦ ?_), h.unsent⟩
    obtain rfl := Option.some.inj (hthread.symm.trans hfind)
    exact h.done.other hthread rfl
  | sent hthread hcommand =>
    have hother := h.done.other hthread rfl
    refine ⟨h.settled, CallsDone.setPhase h.done (.inr fun t hfind ↦ ?_), fun c hc he ↦ ?_⟩
    · obtain rfl := Option.some.inj (hthread.symm.trans hfind)
      exact hother
    · rcases List.mem_cons.mp hc with rfl | hc
      · refine absurd ?_ hother
        dsimp only at hcommand he ⊢
        rw [hcommand, ← he]
        rfl
      · exact h.unsent c hc he
  | settled hthread hrun =>
    refine ⟨?_, CallsDone.setPhase h.done (.inl rfl), h.unsent⟩
    exact record_settled ht hinv hthread (h.done.other hthread rfl) h.settled hrun
  | raised => exact ⟨h.settled, CallsDone.setPhase h.done (.inl rfl), h.unsent⟩
  | failed _ hrun =>
    exact ⟨hmono (failOutbox_careful.rel hrun), CallsDone.endThread h.done, h.unsent⟩
  | ended => exact ⟨h.settled, h.done.endThread, h.unsent⟩
  | reconciled hrun => exact ⟨hmono (reconcile_careful.rel hrun), h.done, h.unsent⟩
  | crashed =>
    refine ⟨h.settled, fun id t hthread ↦ ?_, h.unsent⟩
    cases hthread
  | tool hrun =>
    rw [World.recordTool] at hrun
    have hquiet : EffectsQuiet w.db _ := Respects.rel hrun
    exact ⟨h.settled.of_quiet hquiet, h.done, h.unsent⟩
  | toolOutcome hrun =>
    rw [World.recordToolOutcome] at hrun
    have hquiet : EffectsQuiet w.db _ := Respects.rel hrun
    exact ⟨h.settled.of_quiet hquiet, h.done, h.unsent⟩
  | exited => exact ⟨h.settled, h.done, h.unsent⟩
  | idle => exact h

end Steps

/-- Once it is recorded what became of an effect, and no call for it is under way, this stays so in
every run, whatever is executed, claimed, answered, lost or reconciled: the effect keeps its state,
or is found out about if it was in doubt, and it is not sent any more. -/
theorem effects_settle {ok : World → Label → Prop} {w w' : World} {e : String}
    {effect : SideEffectRow} (hreach : system.Reachable w)
    (heffect : w.db.sideEffects.find? e = some effect)
    (hrecorded : effect.state.isRecorded = true) (hdone : CallsDone w e)
    (hrun : system.Run ok w w') :
    CallsDone w' e ∧ (∀ c ∈ w'.sends, c.payload.effectId = e → c ∈ w.sends) ∧
      ∃ effect', w'.db.sideEffects.find? e = some effect' ∧
        (effect'.state = effect.state ∨ effect.state = .unknown ∧
          (effect'.state = .succeeded ∨ effect'.state = .failedConfirmed)) := by
  have hstart : SettledIn effect.state e w.sends w :=
    ⟨⟨effect, heffect, .inl rfl⟩, hdone, fun _ hc _ ↦ hc⟩
  obtain ⟨-, hsettled⟩ := hrun.induct
    (P := fun t ↦ system.Reachable t ∧ SettledIn effect.state e w.sends t) ⟨hreach, hstart⟩
    fun t l u ht _ hstep ↦ by
      obtain ⟨hthread, hsend⟩ := (sendInv_invariant fun _ _ ↦ True).of_reachable ht.1
      exact ⟨ht.1.step trivial hstep,
        ht.2.step hthread hsend hrecorded (World.step_cases hstep)⟩
  exact ⟨hsettled.done, hsettled.unsent, hsettled.settled⟩

/-- No thread is cleared or was answered. -/
theorem CallsDone.of_select {w : World} {e : String}
    (h : (w.threads.select fun _ t ↦ t.phase.mayRecord).isEmpty = true) : CallsDone w e := by
  intro id t hthread _
  by_contra hphase
  rw [Bool.not_eq_false] at hphase
  have hmem : (id, t) ∈ w.threads.select fun _ t ↦ t.phase.mayRecord :=
    Table.mem_select.mpr ⟨hthread, hphase⟩
  rw [List.isEmpty_iff.mp h] at hmem
  cases hmem

/-- The effect was carried out, and the system has recorded it. -/
def sampleSettled : List Label :=
  sampleClaimed ++
    [.check .silent 0, .call 0 (.dispatch (.ok { status := .succeeded })), .settle .silent 0]

/-- The task is cancelled afterwards, and the process restarted. -/
def sampleRestarted : List Label :=
  [.ask (.ofHuman "owner") .cancelTask { taskId := some "task_i" }, .crash, .reconcile .silent]

theorem effects_settle_sampleSettled :
    ∃ w w' effect', system.exec system.init sampleSettled = some w ∧
      system.exec w sampleRestarted = some w' ∧
      w'.db.sideEffects.find? "eff_iiiiiiii" = some effect' ∧ effect'.state = .succeeded := by
  have hview : ((system.exec system.init sampleSettled).bind fun w ↦
      (system.exec w sampleRestarted).map fun _ ↦
        ((w.db.sideEffects.find? "eff_iiiiiiii").map (·.state),
          (w.threads.select fun _ t ↦ t.phase.mayRecord).isEmpty)) =
      some (some .succeeded, true) := by
    decide +kernel
  obtain ⟨w, hw, hrest⟩ := Option.bind_eq_some_iff.mp hview
  obtain ⟨w', hw', hpair⟩ := Option.map_eq_some_iff.mp hrest
  obtain ⟨hfind, hdone⟩ := Prod.mk.inj hpair
  obtain ⟨effect, heffect, hstate⟩ := Option.map_eq_some_iff.mp hfind
  obtain ⟨-, -, effect', heffect', hkept⟩ := effects_settle (.of_exec hw) heffect
    (by rw [hstate]; rfl) (.of_select hdone) (.of_exec hw')
  refine ⟨w, w', effect', hw, hw', heffect', ?_⟩
  rcases hkept with hsame | ⟨hunknown, -⟩
  · exact hsame.trans hstate
  · rw [hstate] at hunknown
    cases hunknown

/-! ## Considerate runs -/

/-- The adapter was asked to carry out an effect through a row. -/
def SentThrough (w : World) (k e : String) : Prop :=
  ∃ c ∈ w.sends, c.outboxId = k ∧ c.payload.effectId = e

/-- A step that cancels no task of which an effect was sent and is still under way, and that records
no answer over another final state. -/
def Considerate (w : World) : Label → Prop
  | .command _ r => r.operation = .cancelTask → ∀ e effect,
      w.db.sideEffects.find? e = some effect → r.payload.taskId = some effect.taskId →
      effect.state = .dispatching → ∀ k, ¬SentThrough w k e
  | .settle _ id => ∀ item receipt payload effect,
      w.threads.find? id = some ⟨item, .answered (.receipt receipt)⟩ →
      item.command = .sideEffectDispatch payload →
      w.db.sideEffects.find? payload.effectId = some effect → effect.state.isFinal = true →
      receipt.status.state = effect.state
  | _ => True

theorem StateMonotone.mono {sent sent' : Prop} {a b : SideEffectState}
    (h : StateMonotone sent a b) (hsub : sent' → sent) : StateMonotone sent' a b :=
  ⟨h.final, h.unknown, fun hsent ↦ h.sent (hsub hsent)⟩

section Monotone

variable {Sent Sent' : String → String → Prop} {s s' : DB} {env : Env} {auth : AuthContext}
  {p : Payload} {result : CommandResult} {w w' : World} {l : Label}

theorem EffectsMonotone.mono (h : EffectsMonotone Sent s s')
    (hsub : ∀ k e, Sent' k e → Sent k e) : EffectsMonotone Sent' s s' := by
  intro e effect heffect
  obtain ⟨effect', heffect', hmono⟩ := h e effect heffect
  exact ⟨effect', heffect', hmono.mono fun ⟨k, hk⟩ ↦ ⟨k, hsub k e hk⟩⟩

/-- A cancellation takes back what was not sent; nothing is asked of that. -/
theorem cancelTask_monotone (hinv : DispatchInv Sent s) (hsub : ∀ k e, Sent' k e → Sent k e)
    (hunsent : ∀ e effect, s.sideEffects.find? e = some effect →
      p.taskId = some effect.taskId → effect.state = .dispatching → ∀ k, ¬Sent' k e)
    (h : cancelTask env auth p s = .ok (result, s')) : EffectsMonotone Sent' s s' := by
  have hpersist : Persists s s' := Respects.rel h
  rw [cancelTask, Tx.get_bind_ok] at h
  obtain ⟨taskId, t₁, hkey, h₁⟩ := Tx.bind_ok.mp h
  obtain ⟨hid, rfl⟩ := key_ok.mp hkey
  obtain ⟨task, t₂, htask, h₂⟩ := Tx.bind_ok.mp h₁
  obtain ⟨_, t₃, hintent, h₃⟩ := Tx.bind_ok.mp h₂
  obtain ⟨_, t₄, hstate, h₄⟩ := Tx.bind_ok.mp h₃
  obtain ⟨_, t₅, hrevoke, h₅⟩ := Tx.bind_ok.mp h₄
  obtain ⟨_, t₆, hloop, h₆⟩ := Tx.bind_ok.mp h₅
  have hquiet₂ : EffectsQuiet t₁ t₂ := Respects.rel htask
  have hquiet₃ : EffectsQuiet t₂ t₃ := Respects.rel hintent
  have hquiet₄ : EffectsQuiet t₃ t₄ := Respects.rel hstate
  have hquiet : EffectsQuiet t₁ t₄ := Preord.trans hquiet₂ (Preord.trans hquiet₃ hquiet₄)
  have hcareful : Careful Sent t₄ t₅ := Respects.rel hrevoke
  have hrevoked : EffectsMonotone Sent t₁ t₅ :=
    (EffectsMonotone.of_same hquiet.effects).trans (hcareful (hinv.of_quiet hquiet)).2
  have hrest : EffectsQuiet t₆ s' := Respects.rel h₆
  intro e effect heffect
  by_cases hwalked : e ∈ cancellableEffects t₁ taskId
  · obtain ⟨r, hr, rfl⟩ := List.mem_map.mp hwalked
    obtain ⟨hfind, hp⟩ := Table.mem_select.mp hr
    obtain rfl := Option.some.inj (heffect.symm.trans hfind)
    obtain ⟨howner, hcancellable⟩ := Bool.and_eq_true_iff.mp hp
    have hid' : p.taskId = some r.2.taskId := by rw [hid, eq_of_beq howner]
    have hopen : r.2.state.isRecorded = false := by
      by_contra hrecorded
      rw [SideEffectState.not_cancellable (by simpa using hrecorded)] at hcancellable
      cases hcancellable
    obtain ⟨effect', heffect', -⟩ := (hpersist .sideEffects).1 _ _ heffect
    exact ⟨effect', heffect', .of_unsent hopen fun hdispatching ⟨k, hk⟩ ↦
      hunsent _ _ heffect hid' hdispatching k hk⟩
  · have hsame : t₆.sideEffects.find? e = t₅.sideEffects.find? e := by
      refine Tx.each_induct (P := fun t ↦ t.sideEffects.find? e = t₅.sideEffects.find? e)
        (fun effectId hmem t t' ht hround ↦ ?_) rfl hloop
      refine (cancelEffect_other ?_ hround).trans ht
      rintro rfl
      exact hwalked hmem
    obtain ⟨effect', heffect', hmono⟩ := hrevoked.mono hsub e effect heffect
    exact ⟨effect', by rw [hrest.effects, hsame, heffect'], hmono⟩

theorem execute_monotone {r : Request} (hinv : DispatchInv Sent s)
    (hsub : ∀ k e, Sent' k e → Sent k e)
    (hunsent : r.operation = .cancelTask → ∀ e effect, s.sideEffects.find? e = some effect →
      r.payload.taskId = some effect.taskId → effect.state = .dispatching → ∀ k, ¬Sent' k e)
    (h : execute env r s = .ok (result, s')) : EffectsMonotone Sent' s s' := by
  rcases execute_ok h with hrecords | ⟨t, t', hran, hrecords⟩
  · exact .of_same ((hrecords .sideEffects).2 (by decide)).symm
  · obtain ⟨n, rfl⟩ := hran.start
    have hdrawn : EffectsQuiet s { s with drawn := n } := ⟨rfl, fun _ ↦ Iff.rfl⟩
    have hinv' := hinv.of_quiet hdrawn
    have hafter : EffectsMonotone Sent' t' s' :=
      .of_same ((hrecords .sideEffects).2 (by decide)).symm
    have hrun := hran.run
    have hhandled : EffectsMonotone Sent' { s with drawn := n } t' := by
      by_cases hcancel : r.operation = .cancelTask
      · rw [hcancel] at hrun
        exact cancelTask_monotone hinv' hsub (hunsent hcancel) hrun
      · exact ((handler_careful hcancel).rel hrun hinv').2.mono hsub
    exact ((EffectsMonotone.of_same hdrawn.effects).trans hhandled).trans hafter

/-- An answer is found out about an effect that is under way or in doubt. -/
theorem record_monotone {id : Nat} {item : OutboxItem} {reply : Reply} {db : DB} (ht : ThreadInv w)
    (hinv : DispatchInv (Engaged w) w.db)
    (hthread : w.threads.find? id = some ⟨item, .answered reply⟩)
    (hok : Considerate w (.settle env id))
    (hrun : World.record env item reply w.db = .ok ((), db)) :
    EffectsMonotone Sent w.db db := by
  have hagent (hnone : item.command.dispatchEffect = none)
      (hquiet : QuietAt item.outboxId w.db db) : EffectsMonotone Sent w.db db :=
    .of_same (hquiet (ht.agentRow hthread hnone)).1.effects
  have hsame (hpure : (pure () : Core Unit) w.db = .ok ((), db)) :
      EffectsMonotone Sent w.db db := by
    obtain ⟨-, rfl⟩ := Tx.pure_ok.mp hpure
    exact .of_same rfl
  cases hcommand : item.command with
  | agentStart payload =>
    cases reply with
    | started revoked =>
      simp only [World.record, hcommand] at hrun
      exact hagent (by rw [hcommand]; rfl) (Respects.rel hrun)
    | stopped result | receipt receipt =>
      simp only [World.record, hcommand] at hrun
      exact hsame hrun
  | agentStop runId reason =>
    cases reply with
    | stopped result =>
      simp only [World.record, hcommand] at hrun
      exact hagent (by rw [hcommand]; rfl) (Respects.rel hrun)
    | started revoked | receipt receipt =>
      simp only [World.record, hcommand] at hrun
      exact hsame hrun
  | sideEffectDispatch payload =>
    cases reply with
    | receipt receipt =>
      simp only [World.record, hcommand] at hrun
      obtain ⟨row, hrow⟩ := ht.row hthread
      obtain ⟨effect, heffect, -⟩ := hinv.fits hrow.found (hrow.sameCommand.trans hcommand)
      obtain ⟨f, g, -, heff, -, hg⟩ := applyReceipt_ok heffect hrun
      intro e effect' heffect'
      by_cases he : e = payload.effectId
      · subst he
        obtain rfl := Option.some.inj (heffect.symm.trans heffect')
        have hanswer : (g effect).state = receipt.status.state := (hg effect).2
        refine ⟨g effect, by rw [heff, Table.find?_modify_self, heffect]; rfl, ?_⟩
        rw [hanswer]
        have hfound : receipt.status.state = .unknown ∨ receipt.status.state = .succeeded ∨
            receipt.status.state = .failedConfirmed := by
          cases receipt.status <;> simp [ReceiptStatus.state]
        exact ⟨hok item receipt payload effect hthread hcommand heffect, fun _ ↦ hfound,
          fun _ _ ↦ .inr hfound⟩
      · exact ⟨effect', by rw [heff, Table.find?_modify_of_ne he, heffect'], .refl _⟩
    | started revoked | stopped result =>
      simp only [World.record, hcommand] at hrun
      exact hsame hrun

theorem step_monotone (hreach : system.Reachable w) (hok : Considerate w l)
    (hstep : system.step w l = some w') : EffectsMonotone (SentThrough w) w.db w'.db := by
  obtain ⟨ht, hsend⟩ := (sendInv_invariant fun _ _ ↦ True).of_reachable hreach
  have hinv := hsend.dispatch
  have hsub : ∀ k e, SentThrough w k e → Engaged w k e := fun _ _ hsent ↦ .inl hsent
  have hmono {db : DB} (hcareful : Careful (Engaged w) w.db db) :
      EffectsMonotone (SentThrough w) w.db db := (hcareful hinv).2.mono hsub
  have hquiet {db : DB} (hq : EffectsQuiet w.db db) : EffectsMonotone (SentThrough w) w.db db :=
    .of_same hq.effects
  have hcases : World.Step w l w' := World.step_cases hstep
  cases hcases with
  | command hrun => exact execute_monotone hinv hsub hok hrun
  | claimed _ hrun => exact hmono (claimOneOutbox_careful.rel hrun)
  | unclaimed hrun => exact hmono (claimOneOutbox_careful.rel hrun)
  | cleared hthread hrun => exact hmono (lastCheck_careful ht hthread hrun)
  | refused hthread hrun => exact hmono (lastCheck_careful ht hthread hrun)
  | settled hthread hrun => exact record_monotone ht hinv hthread hok hrun
  | failed _ hrun => exact hmono (failOutbox_careful.rel hrun)
  | reconciled hrun => exact hmono (reconcile_careful.rel hrun)
  | tool hrun =>
    rw [World.recordTool] at hrun
    exact hquiet (Respects.rel hrun)
  | toolOutcome hrun =>
    rw [World.recordToolOutcome] at hrun
    exact hquiet (Respects.rel hrun)
  | started | stopped | sent | raised | ended | crashed | exited | idle => exact .of_same rfl

end Monotone

/-- In every run of considerate steps the states of effects are monotone: an effect that was carried
out, has failed or was cancelled keeps its state, one in doubt is only found out about, and no step
takes back an effect that is under way once the adapter was asked to carry it out. -/
theorem effect_states_monotone {w w' : World} (hreach : system.Reachable w)
    (hrun : system.Run Considerate w w') :
    (∀ l u, Considerate w' l → system.step w' l = some u →
      EffectsMonotone (SentThrough w') w'.db u.db) ∧
    ∀ e effect, w.db.sideEffects.find? e = some effect →
      ∃ effect', w'.db.sideEffects.find? e = some effect' ∧
        (effect.state.isFinal = true → effect'.state = effect.state) ∧
        (effect.state = .unknown → effect'.state = .unknown ∨ effect'.state = .succeeded ∨
          effect'.state = .failedConfirmed) := by
  obtain ⟨hreach', hmono⟩ := hrun.induct
    (P := fun t ↦ system.Reachable t ∧ EffectsMonotone (fun _ _ ↦ False) w.db t.db)
    ⟨hreach, .of_same rfl⟩ fun t l u ht hok hstep ↦
      ⟨ht.1.step trivial hstep, ht.2.trans ((step_monotone ht.1 hok hstep).mono
        fun _ _ hfalse ↦ hfalse.elim)⟩
  refine ⟨fun l u hok hstep ↦ step_monotone hreach' hok hstep, fun e effect heffect ↦ ?_⟩
  obtain ⟨effect', heffect', hstate⟩ := hmono e effect heffect
  exact ⟨effect', heffect', hstate.final, hstate.unknown⟩

theorem effect_states_monotone_sampleSettled :
    ∃ w w' effect', system.exec system.init sampleSettled = some w ∧
      system.exec w [.crash, .reconcile .silent] = some w' ∧
      w'.db.sideEffects.find? "eff_iiiiiiii" = some effect' ∧ effect'.state = .succeeded := by
  have hview : ((system.exec system.init sampleSettled).bind fun w ↦
      (system.step w .crash).bind fun w₁ ↦ (system.step w₁ (.reconcile .silent)).map fun _ ↦
        (w.db.sideEffects.find? "eff_iiiiiiii").map (·.state)) = some (some .succeeded) := by
    decide +kernel
  obtain ⟨w, hw, hrest⟩ := Option.bind_eq_some_iff.mp hview
  obtain ⟨w₁, hcrash, hrest₁⟩ := Option.bind_eq_some_iff.mp hrest
  obtain ⟨w', hreconcile, hfind⟩ := Option.map_eq_some_iff.mp hrest₁
  obtain ⟨effect, heffect, hstate⟩ := Option.map_eq_some_iff.mp hfind
  have hcrashes : Considerate w .crash := trivial
  have hreconciles : Considerate w₁ (.reconcile .silent) := trivial
  have hrun : system.Run Considerate w w' :=
    (Machine.Run.refl.step hcrashes hcrash).step hreconciles hreconcile
  obtain ⟨-, hkept⟩ := effect_states_monotone (.of_exec hw) hrun
  obtain ⟨effect', heffect', hfinal, -⟩ := hkept _ effect heffect
  refine ⟨w, w', effect', hw, ?_, heffect', (hfinal (by rw [hstate]; rfl)).trans hstate⟩
  rw [Machine.exec, hcrash, Option.bind_some, Machine.exec, hreconcile, Option.bind_some,
    Machine.exec]

/-- The adapter has carried out the effect, and its answer is not recorded yet. -/
def sampleAnswered : List Label :=
  sampleClaimed ++ [.check .silent 0, .call 0 (.dispatch (.ok { status := .succeeded }))]

/-- A cancellation takes back the effect that was sent, and then the answer brings it back. -/
theorem sampleAnswered_takenBack :
    ∃ w w₁ w₂ l l₁, system.Reachable w ∧ system.step w l = some w₁ ∧
      system.step w₁ l₁ = some w₂ ∧ ¬EffectsMonotone (SentThrough w) w.db w₁.db ∧
      ¬EffectsMonotone (SentThrough w₁) w₁.db w₂.db := by
  have hview : ((system.exec system.init sampleAnswered).bind fun w ↦
      (system.step w (.ask (.ofHuman "owner") .cancelTask { taskId := some "task_i" })).bind
        fun w₁ ↦ (system.step w₁ (.settle .silent 0)).map fun w₂ ↦
          (w.sends.map fun c ↦ c.payload.effectId,
            (w.db.sideEffects.find? "eff_iiiiiiii").map (·.state),
            (w₁.db.sideEffects.find? "eff_iiiiiiii").map (·.state),
            (w₂.db.sideEffects.find? "eff_iiiiiiii").map (·.state))) =
      some (["eff_iiiiiiii"], some .dispatching, some .cancelled, some .succeeded) := by
    decide +kernel
  obtain ⟨w, hw, hrest⟩ := Option.bind_eq_some_iff.mp hview
  obtain ⟨w₁, hcancel, hrest₁⟩ := Option.bind_eq_some_iff.mp hrest
  obtain ⟨w₂, hsettle, hseen⟩ := Option.map_eq_some_iff.mp hrest₁
  simp only [Prod.mk.injEq, Option.map_eq_some_iff] at hseen
  obtain ⟨hsends, ⟨effect, heffect, hbefore⟩, ⟨effect₁, heffect₁, hafter⟩, effect₂, heffect₂,
    hlast⟩ := hseen
  refine ⟨w, w₁, w₂, _, _, .of_exec hw, hcancel, hsettle, fun hmono ↦ ?_, fun hmono ↦ ?_⟩
  · obtain ⟨c, hc, he⟩ : ∃ c ∈ w.sends, c.payload.effectId = "eff_iiiiiiii" := by
      have hmem : "eff_iiiiiiii" ∈ w.sends.map fun c ↦ c.payload.effectId := by
        rw [hsends]
        exact List.mem_singleton.mpr rfl
      exact List.mem_map.mp hmem
    obtain ⟨effect', heffect', hstate⟩ := hmono _ effect heffect
    obtain rfl := Option.some.inj (heffect₁.symm.trans heffect')
    have hkept := hstate.sent ⟨_, c, hc, rfl, he⟩ hbefore
    simp [hafter] at hkept
  · obtain ⟨effect', heffect', hstate⟩ := hmono _ effect₁ heffect₁
    obtain rfl := Option.some.inj (heffect₂.symm.trans heffect')
    have hkept := hstate.final (by rw [hafter]; rfl)
    rw [hlast, hafter] at hkept
    cases hkept

end HibikiCore
