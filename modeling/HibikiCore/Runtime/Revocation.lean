import HibikiCore.Runtime.Adapters

/-!
# Revoked runs are not started

An adapter that adds the id of a run to those it has revoked before a stop returns, and that looks at
them in the section in which it creates a process, keeps what the service relies on in every
interleaving. The routing adapter does so as well where a stop is asked for a run that is known: of
an unknown run neither of its adapters is told.
-/

namespace HibikiCore

open Method

variable {A : AgentAdapter} {known revoked : A.State → String → Prop} {s t : A.State}
  {runId reason : String} {spec : RunSpec}

/-! ## What a section may do -/

/-- What one section, and so any number of them, may do to an adapter: a process is created only for
a run that is neither known nor revoked, and the run is known from then on. -/
structure Progress (A : AgentAdapter) (known revoked : A.State → String → Prop) (s t : A.State) :
    Prop where
  stays : ∀ runId, known s runId → known t runId
  fenced : ∀ runId, revoked s runId → revoked t runId
  created : ∀ runId, (A.processes t).count runId = (A.processes s).count runId ∨
    ¬known s runId ∧ ¬revoked s runId ∧ known t runId ∧
      (A.processes t).count runId = (A.processes s).count runId + 1

/-- A section that has nothing to do with the start of a run. -/
structure Quiet (A : AgentAdapter) (known : A.State → String → Prop) (runId : String)
    (s t : A.State) : Prop where
  created : (A.processes t).count runId = (A.processes s).count runId
  known : known t runId → known s runId

/-- A section of a call. -/
structure Acts (A : AgentAdapter) (known revoked : A.State → String → Prop) (i : AgentCall)
    (s t : A.State) : Prop where
  progress : Progress A known revoked s t
  quiet : ∀ runId, i.starts ≠ some runId → Quiet A known runId s t

theorem Quiet.trans {u : A.State} (h : Quiet A known runId s t) (h' : Quiet A known runId t u) :
    Quiet A known runId s u :=
  ⟨h'.created.trans h.created, fun hknown ↦ h.known (h'.known hknown)⟩

namespace Progress

theorem trans {u : A.State} (h : Progress A known revoked s t)
    (h' : Progress A known revoked t u) : Progress A known revoked s u where
  stays runId hknown := h'.stays runId (h.stays runId hknown)
  fenced runId hrevoked := h'.fenced runId (h.fenced runId hrevoked)
  created runId := by
    rcases h.created runId with hsame | ⟨hknown, hrevoked, hnow, hcount⟩
    · rcases h'.created runId with hsame' | ⟨hknown', hrevoked', hnow', hcount'⟩
      · exact .inl (hsame'.trans hsame)
      · exact .inr ⟨fun hs ↦ hknown' (h.stays runId hs), fun hs ↦ hrevoked' (h.fenced runId hs),
          hnow', by rw [hcount', hsame]⟩
    · rcases h'.created runId with hsame' | ⟨hknown', -⟩
      · exact .inr ⟨hknown, hrevoked, h'.stays runId hnow, hsame'.trans hcount⟩
      · exact absurd hnow hknown'

end Progress

/-- An adapter that looks at the revoked ids where it has to. -/
structure Lawful (A : AgentAdapter) (known revoked : A.State → String → Prop) : Prop where
  fresh : A.processes A.init = [] ∧ ∀ runId, ¬known A.init runId
  knows : ∀ s runId, A.knows s runId = true ↔ known s runId
  drift : ∀ d s, Progress A known revoked s (A.drift d s) ∧
    ∀ runId, Quiet A known runId s (A.drift d s)
  start : ∀ spec, Meets (Progress A known revoked) (Acts A known revoked (.start spec))
    (fun _ _ ↦ True) (fun _ ↦ True) (A.start spec)
  stop : ∀ runId reason, Meets (Progress A known revoked) (Acts A known revoked (.stop runId reason))
    (fun answer s ↦ revoked s runId ∧ (known s runId ∨ answer = .ok (revokedReply runId)))
    (fun _ ↦ True) (A.stop runId reason)
  /-- An answer has a status if the run was known at first, and only if it is known by now. -/
  inspect : ∀ runId (b : Prop), Meets (Progress A known revoked) (Acts A known revoked
      (.inspect runId))
    (fun answer s ↦ ∃ reply, answer = .ok reply ∧ (reply.status.isSome → known s runId) ∧
      (b → reply.status.isSome))
    (fun s ↦ b → known s runId) (A.inspect runId)

/-! ## Every interleaving -/

/-- What is relied on, if the calls keep a discipline that speaks of known and revoked runs. -/
theorem honours_of_discipline {rely : A.State → A.State → Prop}
    {guar : AgentCall → A.State → A.State → Prop} {pre : AgentCall → A.State → Prop}
    {post : AgentCall → Except String AgentReply → A.State → Prop}
    (D : Shared.Discipline A.shared rely guar pre post)
    (hfresh : A.processes A.init = [] ∧ ∀ runId, ¬known A.init runId)
    (hrely : ∀ s t, rely s t → Progress A known revoked s t)
    (hguar : ∀ i s t, guar i s t → ∀ runId, i.starts ≠ some runId → Quiet A known runId s t)
    (hdrift : ∀ d s runId, Quiet A known runId s (A.drift d s))
    (hstop : ∀ runId reason answer s, post (.stop runId reason) answer s →
      revoked s runId ∧ (known s runId ∨ answer = .ok (revokedReply runId))) :
    A.HonoursRevoke (Shared.Asks pre) := by
  -- what any turn does to the state
  have hturn {p q : A.Threads} (h : A.shared.Turned guar post p q) :
      q.state = p.state ∨ Progress A known revoked p.state q.state := by
    cases h with
    | called i state => exact .inl state
    | moved i asked moves => exact .inr (hrely _ _ (D.relies i _ _ moves))
    | returned i a answer state => exact .inl state
    | drifted d state => exact .inr (state ▸ hrely _ _ (D.drift d _))
  have hreach {P : A.Threads → Prop} {p : A.Threads}
      (hP : ∀ p q, P p → A.shared.Turned guar post p q → P q)
      (hinit : P A.shared.pool.init) (h : A.shared.pool.ReachableBy (Shared.Asks pre) p) : P p :=
    D.invariant hP .refl hinit h
  constructor
  · intro p hp runId
    have hinv : (A.processes p.state).count runId ≤ 1 ∧
        ((A.processes p.state).count runId = 1 → known p.state runId) := by
      refine hreach (P := fun p ↦ (A.processes p.state).count runId ≤ 1 ∧
        ((A.processes p.state).count runId = 1 → known p.state runId))
        (fun p q ⟨hle, hknown⟩ h ↦ ?_) ?_ hp
      · rcases hturn h with hsame | hprogress
        · rw [hsame]
          exact ⟨hle, hknown⟩
        · rcases hprogress.created runId with hcount | ⟨hnot, -, hnow, hcount⟩
          · rw [hcount]
            exact ⟨hle, fun hone ↦ hprogress.stays runId (hknown hone)⟩
          · have hzero : (A.processes p.state).count runId ≠ 1 := fun hone ↦ hnot (hknown hone)
            exact ⟨by omega, fun _ ↦ hnow⟩
      · change (A.processes A.init).count runId ≤ 1 ∧ _
        rw [show A.processes A.shared.pool.init.state = [] from hfresh.1, hfresh.1]
        exact ⟨Nat.zero_le 1, nofun⟩
    exact hinv.1
  · intro p q runId hp hstopped hrun
    have hrevoked : A.Stopped p runId → revoked p.state runId := by
      refine hreach (P := fun p ↦ A.Stopped p runId → revoked p.state runId)
        (fun p q ih h ↦ ?_) (fun ⟨_, _, hmem⟩ ↦ nomatch hmem) hp
      rintro ⟨reason, answer, hmem⟩
      have hkeep (hmem : .returned (.stop runId reason) answer ∈ p.log) : revoked q.state runId := by
        have hp := ih ⟨reason, answer, hmem⟩
        rcases hturn h with hsame | hprogress
        · rwa [hsame]
        · exact hprogress.fenced runId hp
      cases h with
      | called i state log =>
        rw [log] at hmem
        exact hkeep (by simpa using hmem)
      | moved i asked moves log => exact hkeep (log ▸ hmem)
      | drifted d state log => exact hkeep (log ▸ hmem)
      | returned i a hanswer state log =>
        rw [log, List.mem_cons] at hmem
        rcases hmem with heq | hmem
        · obtain ⟨rfl, rfl⟩ := Note.returned.inj heq
          rw [state]
          exact (hstop _ _ _ _ hanswer).1
        · exact hkeep hmem
    -- from then on the id is revoked and nothing is created for it
    have hboth : revoked q.state runId ∧
        (A.processes q.state).count runId = (A.processes p.state).count runId := by
      refine D.invariant (P := fun q ↦ revoked q.state runId ∧
        (A.processes q.state).count runId = (A.processes p.state).count runId)
        (fun q q' ⟨hq, hcount⟩ h ↦ ?_) hp ⟨hrevoked hstopped, rfl⟩ hrun
      rcases hturn h with hsame | hprogress
      · rw [hsame]
        exact ⟨hq, hcount⟩
      · rcases hprogress.created runId with hsame | ⟨-, hnot, -⟩
        · exact ⟨hprogress.fenced runId hq, hsame.trans hcount⟩
        · exact absurd hq hnot
    exact hboth.2
  · intro p runId reason answer hp hmem hnever
    -- without a start the run stays unknown
    have hinv : (∀ spec, spec.runId = runId → .called (.start spec) ∉ p.log) →
        ¬known p.state runId ∧ (.returned (.stop runId reason) answer ∈ p.log →
          answer = .ok (revokedReply runId)) := by
      refine hreach (P := fun p ↦ (∀ spec, spec.runId = runId → .called (.start spec) ∉ p.log) →
        ¬known p.state runId ∧ (.returned (.stop runId reason) answer ∈ p.log →
          answer = .ok (revokedReply runId))) (fun p q ih h hnever ↦ ?_)
        (fun _ ↦ ⟨hfresh.2 runId, fun hmem ↦ nomatch hmem⟩) hp
      have hlog : ∀ n ∈ p.log, n ∈ q.log := by
        cases h with
        | called i state log => exact fun n hn ↦ log ▸ List.mem_cons_of_mem _ hn
        | moved i asked moves log => exact fun n hn ↦ log ▸ hn
        | drifted d state log => exact fun n hn ↦ log ▸ hn
        | returned i a hanswer state log => exact fun n hn ↦ log ▸ List.mem_cons_of_mem _ hn
      have hnever' (spec : RunSpec) (hspec : spec.runId = runId) :
          .called (.start spec) ∉ p.log := fun hmem ↦ hnever spec hspec (hlog _ hmem)
      obtain ⟨hunknown, hanswered⟩ := ih hnever'
      cases h with
      | called i state log =>
        rw [state, log]
        exact ⟨hunknown, fun hmem ↦ hanswered (by simpa using hmem)⟩
      | moved i asked moves log =>
        refine ⟨fun hknown ↦ hunknown ((hguar i _ _ moves runId ?_).known hknown), log ▸ hanswered⟩
        rintro hstarts
        cases i with
        | start spec => exact hnever' spec (Option.some.inj hstarts) asked
        | stop | inspect => cases hstarts
      | drifted d state log =>
        rw [state, log]
        exact ⟨fun hknown ↦ hunknown ((hdrift d _ runId).known hknown), hanswered⟩
      | returned i a hanswer state log =>
        rw [state, log]
        refine ⟨hunknown, fun hmem ↦ ?_⟩
        rcases List.mem_cons.mp hmem with heq | hmem
        · obtain ⟨rfl, rfl⟩ := Note.returned.inj heq
          exact (hstop _ _ _ _ hanswer).2.resolve_left hunknown
        · exact hanswered hmem
    exact ⟨revokedReply runId, (hinv hnever).2 hmem, rfl⟩

theorem AgentAdapter.HonoursRevoke.of_imp
    {ok ok' : A.Threads → Turn A.Choice A.Drift AgentCall → Prop} (h : A.HonoursRevoke ok)
    (himp : ∀ p l, ok' p l → ok p l) : A.HonoursRevoke ok' where
  once p hp := h.once p (hp.mono himp)
  fenced p q runId hp hstopped hrun := h.fenced p q runId (hp.mono himp) hstopped (hrun.mono himp)
  confirmed p runId reason answer hp := h.confirmed p runId reason answer (hp.mono himp)

/-- A lawful adapter is relied on in every interleaving. -/
theorem Lawful.honours (L : Lawful A known revoked) : A.HonoursRevoke fun _ _ ↦ True := by
  let post : AgentCall → Except String AgentReply → A.State → Prop
    | .stop runId _, answer, s =>
      revoked s runId ∧ (known s runId ∨ answer = .ok (revokedReply runId))
    | _, _, _ => True
  have D : Shared.Discipline A.shared (Progress A known revoked) (Acts A known revoked)
      (fun _ _ ↦ True) post :=
    { relies := fun _ _ _ h ↦ h.progress
      drift := fun d s ↦ (L.drift d s).1
      stable := fun _ _ _ _ _ ↦ trivial
      meets := fun i ↦ by
        cases i with
        | start spec => exact L.start spec
        | stop runId reason => exact L.stop runId reason
        | inspect runId =>
          exact ((L.inspect runId False).weaken fun _ _ ↦ False.elim).mono (fun _ _ h ↦ h)
            fun _ _ _ ↦ trivial }
  have h := honours_of_discipline D L.fresh (fun _ _ ↦ id) (fun _ _ _ h ↦ h.quiet)
    (fun d s ↦ (L.drift d s).2) fun _ _ _ _ h ↦ h
  refine h.of_imp fun p l _ ↦ ?_
  cases l <;> trivial

/-! ## Sections of one adapter -/

namespace Acts

variable {i : AgentCall}

/-- Nothing is created and no run becomes known. -/
theorem idle (hknown : ∀ runId, known t runId ↔ known s runId)
    (hrevoked : ∀ runId, revoked s runId → revoked t runId)
    (hprocesses : A.processes t = A.processes s) : Acts A known revoked i s t where
  progress := ⟨fun runId ↦ (hknown runId).mpr, hrevoked, fun runId ↦ .inl (by rw [hprocesses])⟩
  quiet runId _ := ⟨by rw [hprocesses], (hknown runId).mp⟩

/-- A run becomes known, and a process is created for it only if it was neither known nor
revoked. -/
theorem learns (hstarts : i.starts = some runId)
    (hknown : ∀ k, known t k ↔ known s k ∨ k = runId)
    (hrevoked : ∀ k, revoked s k → revoked t k)
    (hprocesses : A.processes t = A.processes s ∨ A.processes t = A.processes s ++ [runId] ∧
      ¬known s runId ∧ ¬revoked s runId) : Acts A known revoked i s t where
  progress := by
    refine ⟨fun k hk ↦ (hknown k).mpr (.inl hk), hrevoked, fun k ↦ ?_⟩
    rcases hprocesses with hsame | ⟨hadded, hunknown, hunrevoked⟩
    · exact .inl (by rw [hsame])
    · by_cases hk : k = runId
      · subst hk
        refine .inr ⟨hunknown, hunrevoked, (hknown k).mpr (.inr rfl), ?_⟩
        rw [hadded, List.count_append, List.count_singleton_self]
      · left
        rw [hadded, List.count_append, List.count_singleton, if_neg (by simpa using Ne.symm hk),
          Nat.add_zero]
  quiet k hk := by
    have hne : k ≠ runId := by
      rintro rfl
      exact hk hstarts
    refine ⟨?_, fun hnow ↦ ((hknown k).mp hnow).resolve_right hne⟩
    rcases hprocesses with hsame | ⟨hadded, -⟩
    · rw [hsame]
    · rw [hadded, List.count_append, List.count_singleton, if_neg (by simpa using Ne.symm hne),
        Nat.add_zero]

end Acts

theorem isSome_modify {ρ : Type} {t : Table String ρ} {k k' : String} {f : ρ → ρ} :
    ((t.modify k f).find? k').isSome = (t.find? k').isSome := by
  rw [Table.find?_modify]
  split <;> simp

theorem isSome_insert {ρ : Type} {t : Table String ρ} {k k' : String} {a : ρ}
    (h : t.find? k = none) :
    ((t.insert k a).find? k').isSome = true ↔ (t.find? k').isSome = true ∨ k' = k := by
  rw [Table.find?_insert h]
  split <;> simp_all

/-! ## The fake adapter -/

namespace FakeState

/-- There is a record of a run. -/
def Known (s : FakeState) (runId : String) : Prop := (s.runs.find? runId).isSome = true

/-- A run is not to be started any more. -/
def Revoked (s : FakeState) (runId : String) : Prop := runId ∈ s.revokedIds

abbrev ActsAs (i : AgentCall) (s t : FakeState) : Prop :=
  Acts fakeAgentAdapter Known Revoked i s t

theorem revokedStartResult_acts (s : FakeState) (spec : RunSpec) :
    ActsAs (.start spec) s (revokedStartResult spec.runId spec s).2 := by
  rw [revokedStartResult]
  cases hfind : s.runs.find? spec.runId with
  | some r => exact .idle (fun _ ↦ by rw [Known, isSome_modify, Known]) (fun _ ↦ id) rfl
  | none => exact .learns rfl (fun _ ↦ isSome_insert hfind) (fun _ ↦ id) (.inl rfl)

theorem start_acts (s : FakeState) (spec : RunSpec) :
    ActsAs (.start spec) s (start spec s).2 := by
  rw [start]
  split
  · exact revokedStartResult_acts s spec
  next hrevoked =>
    dsimp only
    have hmore (k : String) (hk : k ∈ s.revokedIds) :
        k ∈ s.startAfterRevokeCheckHook ++ s.revokedIds := List.mem_append_right _ hk
    split
    · have h := revokedStartResult_acts
        { s with revokedIds := s.startAfterRevokeCheckHook ++ s.revokedIds } spec
      have hhook : ActsAs (.start spec) s
          { s with revokedIds := s.startAfterRevokeCheckHook ++ s.revokedIds } :=
        .idle (fun _ ↦ Iff.rfl) hmore rfl
      exact ⟨hhook.progress.trans h.progress,
        fun k hk ↦ (hhook.quiet k hk).trans (h.quiet k hk)⟩
    · split
      · exact .idle (fun _ ↦ Iff.rfl) hmore rfl
      · next hfind =>
        split
        · exact .idle (fun _ ↦ Iff.rfl) hmore rfl
        · refine .learns rfl (fun _ ↦ isSome_insert hfind) hmore (.inr ⟨rfl, ?_, hrevoked⟩)
          simp [Known, hfind]

theorem stop_acts (s : FakeState) (runId reason : String) :
    ActsAs (.stop runId reason) s (stop runId reason s).2 := by
  have hmore (k : String) (hk : k ∈ s.revokedIds) : k ∈ s.revokedIds.insert runId :=
    List.mem_insert_of_mem hk
  rw [stop]
  dsimp only
  split
  · exact .idle (fun _ ↦ Iff.rfl) hmore rfl
  · split <;> exact .idle (fun _ ↦ by rw [Known, isSome_modify, Known]) hmore rfl

/-- A stop revokes the run, and it reports that a run is gone that it does not know. -/
theorem stop_answer (s : FakeState) (runId reason : String) :
    Revoked (stop runId reason s).2 runId ∧ (Known (stop runId reason s).2 runId ∨
      (stop runId reason s).1 = .ok (revokedReply runId)) := by
  have hmem : runId ∈ s.revokedIds.insert runId := List.mem_insert_self
  rw [stop]
  dsimp only
  split
  · exact ⟨hmem, .inr rfl⟩
  · next hfind =>
    split <;> refine ⟨hmem, .inl ?_⟩ <;> rw [Known, isSome_modify, hfind] <;> rfl

theorem inspect_acts (s : FakeState) (runId : String) :
    ActsAs (.inspect runId) s (inspect runId s).2 := by
  rw [inspect]
  split <;> exact .idle (fun _ ↦ Iff.rfl) (fun _ ↦ id) rfl

theorem inspect_answer (s : FakeState) (runId : String) : (inspect runId s).2 = s ∧
    ∃ reply, (inspect runId s).1 = .ok reply ∧ (reply.status.isSome ↔ Known s runId) := by
  rw [inspect]
  split
  · next hfind => exact ⟨rfl, _, rfl, by simp [missingReply, Known, hfind]⟩
  · next hfind => exact ⟨rfl, _, rfl, by simp [Known, hfind]⟩

end FakeState

theorem fakeAgentAdapter_lawful : Lawful fakeAgentAdapter FakeState.Known FakeState.Revoked where
  fresh := ⟨rfl, fun _ h ↦ nomatch h⟩
  knows _ _ := Iff.rfl
  drift d s := by
    have h : FakeState.ActsAs (.inspect "") s (d.apply s) := by
      cases d with
      | markDead runId =>
        exact .idle (fun _ ↦ by rw [FakeState.Known, FakeDrift.apply, FakeState.markDead,
          isSome_modify, FakeState.Known]) (fun _ ↦ id) rfl
      | revoke runId => exact .idle (fun _ ↦ Iff.rfl) (fun _ ↦ List.mem_insert_of_mem) rfl
      | set => exact .idle (fun _ ↦ Iff.rfl) (fun _ ↦ id) rfl
    exact ⟨h.progress, fun runId ↦ h.quiet runId nofun⟩
  start spec := .atomic (fun s _ ↦ s.start_acts spec) (fun _ _ _ _ ↦ trivial) Progress.trans
  stop runId reason := by
    refine .atomic (fun s _ ↦ s.stop_acts runId reason) (fun s t _ hlater ↦ ?_) Progress.trans
    obtain ⟨hrevoked, hanswer⟩ := s.stop_answer runId reason
    rcases hlater with rfl | hlater
    · exact ⟨hrevoked, hanswer⟩
    · exact ⟨hlater.fenced _ hrevoked, hanswer.imp (hlater.stays _) id⟩
  inspect runId b := by
    refine .atomic (fun s _ ↦ s.inspect_acts runId) (fun s t hb hlater ↦ ?_) Progress.trans
    obtain ⟨hsame, reply, hreply, hstatus⟩ := s.inspect_answer runId
    refine ⟨reply, hreply, fun h ↦ ?_, fun h ↦ hstatus.mpr (hb h)⟩
    rw [hsame] at hlater
    rcases hlater with rfl | hlater
    · exact hstatus.mp h
    · exact hlater.stays _ (hstatus.mp h)

/-! ## The adapter with a thread for each run -/

namespace ApiState

/-- There is a record of a run. -/
def Known (s : ApiState) (runId : String) : Prop := (s.runs.find? runId).isSome = true

/-- A run is not to be started any more. -/
def Revoked (s : ApiState) (runId : String) : Prop := runId ∈ s.revokedIds

abbrev ActsAs (i : AgentCall) (s t : ApiState) : Prop :=
  Acts apiAgentAdapter Known Revoked i s t

theorem revokedStartResult_acts (s : ApiState) (spec : RunSpec) :
    ActsAs (.start spec) s (revokedStartResult spec.runId spec s).2 := by
  rw [revokedStartResult]
  cases hfind : s.runs.find? spec.runId with
  | some r => exact .idle (fun _ ↦ by rw [Known, isSome_modify, Known]) (fun _ ↦ id) rfl
  | none => exact .learns rfl (fun _ ↦ isSome_insert hfind) (fun _ ↦ id) (.inl rfl)

theorem start_acts (s : ApiState) (spec : RunSpec) :
    ActsAs (.start spec) s (start spec s).2 := by
  rw [start]
  split
  · exact revokedStartResult_acts s spec
  · next hrevoked =>
    split
    · exact .idle (fun _ ↦ Iff.rfl) (fun _ ↦ id) rfl
    · next hfind =>
      refine .learns rfl (fun _ ↦ isSome_insert hfind) (fun _ ↦ id) (.inr ⟨rfl, ?_, hrevoked⟩)
      simp [Known, hfind]

theorem requestStop_acts (s : ApiState) (runId reason : String) (ownThread : Bool) :
    ActsAs (.stop runId reason) s (requestStop runId reason ownThread s) :=
  .idle (fun _ ↦ by rw [Known, requestStop, isSome_modify, Known])
    (fun _ ↦ List.mem_insert_of_mem) rfl

theorem finishStop_acts (s : ApiState) (runId reason : String) (alive : Bool) :
    ActsAs (.stop runId reason) s (finishStop runId alive s).2 := by
  rw [finishStop]
  dsimp only
  split
  · exact .idle (fun _ ↦ Iff.rfl) (fun _ ↦ id) rfl
  · exact .idle (fun _ ↦ by rw [Known, isSome_modify, Known]) (fun _ ↦ id) rfl

theorem inspect_acts (s : ApiState) (runId : String) :
    ActsAs (.inspect runId) s (inspect runId s).2 := by
  rw [inspect]
  split <;> exact .idle (fun _ ↦ Iff.rfl) (fun _ ↦ id) rfl

theorem inspect_answer (s : ApiState) (runId : String) : (inspect runId s).2 = s ∧
    ∃ reply, (inspect runId s).1 = .ok reply ∧ (reply.status.isSome ↔ Known s runId) := by
  rw [inspect]
  split
  · next hfind => exact ⟨rfl, _, rfl, by simp [missingReply, Known, hfind]⟩
  · next r hfind =>
    refine ⟨rfl, _, rfl, ?_⟩
    rw [ApiRecord.reply]
    split <;> simp [Known, hfind]

/-- The id is revoked in the first section of a stop, and whether the run is known is decided there
as well. -/
theorem stop_meets (runId reason : String) :
    Meets (Progress apiAgentAdapter Known Revoked)
      (Acts apiAgentAdapter Known Revoked (.stop runId reason))
      (fun answer s ↦ Revoked s runId ∧ (Known s runId ∨ answer = .ok (revokedReply runId)))
      (fun _ ↦ True) (stop runId reason) := by
  -- between the sections the run stays revoked, and known if it was
  let B (s : ApiState) (t : ApiState) : Prop :=
    Revoked t runId ∧ ((s.runs.find? runId).isSome = true → Known t runId)
  have hstable (s : ApiState) : Stable (Progress apiAgentAdapter Known Revoked) (B s) :=
    fun t u ht htu ↦ ⟨htu.fenced _ ht.1, fun h ↦ htu.stays _ (ht.2 h)⟩
  refine .act (fun _ s t ↦ B s t) (fun x s _ ↦ requestStop_acts s runId reason x)
    (fun x s _ ↦ ⟨List.mem_insert_self, fun h ↦ ?_⟩) (fun _ s _ ↦ hstable s) fun x s _ ↦ ?_
  · rw [Known, requestStop, isSome_modify]
    exact h
  cases hfind : s.runs.find? runId with
  | none => exact .done fun t ht ↦ ⟨ht.1, .inr rfl⟩
  | some r =>
    have hknown {t : ApiState} (ht : B s t) : Known t runId := ht.2 (by rw [hfind]; rfl)
    dsimp only
    split
    · exact .done fun t ht ↦ ⟨ht.1, .inl (hknown ht)⟩
    split
    · exact .done fun t ht ↦ ⟨ht.1, .inl (hknown ht)⟩
    · refine .act (fun _ _ t ↦ B s t) (fun _ _ _ ↦ ?_) (fun _ _ ht ↦ ht) (fun _ _ _ ↦ hstable s)
        fun _ u _ ↦ ?_
      · exact .idle (fun _ ↦ Iff.rfl) (fun _ ↦ id) rfl
      · refine .atomic (fun t _ ↦ finishStop_acts t runId reason _) (fun t t' ht hlater ↦ ?_)
          Progress.trans
        have hacts := (finishStop_acts t runId reason
          ((u.runs.find? runId).bind (·.thread) == some true)).progress
        have hprogress : Progress apiAgentAdapter Known Revoked t t' := by
          rcases hlater with rfl | hlater
          · exact hacts
          · exact hacts.trans hlater
        exact ⟨hprogress.fenced _ ht.1, .inl (hprogress.stays _ (hknown ht))⟩

end ApiState

theorem apiAgentAdapter_lawful : Lawful apiAgentAdapter ApiState.Known ApiState.Revoked where
  fresh := ⟨rfl, fun _ h ↦ nomatch h⟩
  knows _ _ := Iff.rfl
  drift d s := by
    have h : ApiState.ActsAs (.inspect "") s { s with runs := s.runs.modify d.runId d.work } :=
      .idle (fun _ ↦ by rw [ApiState.Known, isSome_modify, ApiState.Known]) (fun _ ↦ id) rfl
    exact ⟨h.progress, fun runId ↦ h.quiet runId nofun⟩
  start spec := .atomic (fun s _ ↦ s.start_acts spec) (fun _ _ _ _ ↦ trivial) Progress.trans
  stop := ApiState.stop_meets
  inspect runId b := by
    refine .atomic (fun s _ ↦ s.inspect_acts runId) (fun s t hb hlater ↦ ?_) Progress.trans
    obtain ⟨hsame, reply, hreply, hstatus⟩ := s.inspect_answer runId
    refine ⟨reply, hreply, fun h ↦ ?_, fun h ↦ hstatus.mpr (hb h)⟩
    rw [hsame] at hlater
    rcases hlater with rfl | hlater
    · exact hstatus.mp h
    · exact hlater.stays _ (hstatus.mp h)

/-! ## Routing -/

section Routing

variable {planner worker : AgentAdapter} {knownP revokedP : planner.State → String → Prop}
  {knownW revokedW : worker.State → String → Prop} {kind : String → AssignmentKind}

/-- A run is known to the adapter to which runs of its kind go. -/
def RoutedKnown (kind : String → AssignmentKind) (knownP : planner.State → String → Prop)
    (knownW : worker.State → String → Prop) (s : worker.State × planner.State) (runId : String) :
    Prop :=
  if kind runId = .plan then knownP s.2 runId else knownW s.1 runId

/-- What other threads do to the two adapters: an adapter learns only of runs of its kinds. -/
structure Routes (kind : String → AssignmentKind) (knownP revokedP : planner.State → String → Prop)
    (knownW revokedW : worker.State → String → Prop) (s t : worker.State × planner.State) :
    Prop where
  worker : Progress worker knownW revokedW s.1 t.1
  planner : Progress planner knownP revokedP s.2 t.2
  plan : ∀ runId, kind runId = .plan → Quiet _ knownW runId s.1 t.1
  other : ∀ runId, kind runId ≠ .plan → Quiet _ knownP runId s.2 t.2

/-- A section of a call of the routing adapter. -/
structure RoutedActs (kind : String → AssignmentKind)
    (knownP revokedP : planner.State → String → Prop)
    (knownW revokedW : worker.State → String → Prop) (i : AgentCall)
    (s t : worker.State × planner.State) : Prop where
  routes : Routes kind knownP revokedP knownW revokedW s t
  quiet : ∀ runId, i.starts ≠ some runId →
    Quiet worker knownW runId s.1 t.1 ∧ Quiet planner knownP runId s.2 t.2

/-- A run is revoked by the adapter to which runs of its kind go. -/
def RoutedRevoked (kind : String → AssignmentKind) (revokedP : planner.State → String → Prop)
    (revokedW : worker.State → String → Prop) (s : worker.State × planner.State) (runId : String) :
    Prop :=
  if kind runId = .plan then revokedP s.2 runId else revokedW s.1 runId

theorem Quiet.refl (s : A.State) : Quiet A known runId s s := ⟨rfl, id⟩

theorem Progress.refl (s : A.State) : Progress A known revoked s s :=
  ⟨fun _ ↦ id, fun _ ↦ id, fun _ ↦ .inl rfl⟩

/-- A call of the planner, for a run of its kind if it is a start. -/
theorem planner_meets (kind : String → AssignmentKind)
    (knownW revokedW : worker.State → String → Prop) (i : AgentCall)
    (F : worker.State × planner.State → Prop)
    {post : Except String AgentReply → planner.State → Prop} {B : planner.State → Prop}
    {c : AgentMethod planner.State planner.Choice} (hi : ∀ k, i.starts = some k → kind k = .plan)
    (hF : Stable (Routes kind knownP revokedP knownW revokedW) F)
    (h : Meets (Progress planner knownP revokedP) (Acts planner knownP revokedP i) post B c) :
    Meets (Routes kind knownP revokedP knownW revokedW)
      (RoutedActs kind knownP revokedP knownW revokedW i) (fun a t ↦ F t ∧ post a t.2)
      (fun t ↦ F t ∧ B t.2)
      ((c.choosing (Prod.snd : worker.Choice × planner.Choice → _)).within Prod.snd
        fun p s ↦ (s.1, p)) := by
  refine h.choosing.within (fun _ _ ↦ rfl) (fun p t ht hacts ↦ ?_) (fun _ _ h ↦ h.planner) hF
  have hroutes : Routes kind knownP revokedP knownW revokedW t (t.1, p) :=
    ⟨.refl _, hacts.progress, fun _ _ ↦ .refl _,
      fun k hk ↦ hacts.quiet k fun hstarts ↦ hk (hi k hstarts)⟩
  exact ⟨⟨hroutes, fun k hk ↦ ⟨.refl _, hacts.quiet k hk⟩⟩, hF _ _ ht hroutes⟩

/-- A call of the worker, for a run of another kind if it is a start. -/
theorem worker_meets (kind : String → AssignmentKind)
    (knownP revokedP : planner.State → String → Prop) (i : AgentCall)
    (F : worker.State × planner.State → Prop)
    {post : Except String AgentReply → worker.State → Prop} {B : worker.State → Prop}
    {c : AgentMethod worker.State worker.Choice} (hi : ∀ k, i.starts = some k → kind k ≠ .plan)
    (hF : Stable (Routes kind knownP revokedP knownW revokedW) F)
    (h : Meets (Progress worker knownW revokedW) (Acts worker knownW revokedW i) post B c) :
    Meets (Routes kind knownP revokedP knownW revokedW)
      (RoutedActs kind knownP revokedP knownW revokedW i) (fun a t ↦ F t ∧ post a t.1)
      (fun t ↦ F t ∧ B t.1)
      ((c.choosing (Prod.fst : worker.Choice × planner.Choice → _)).within Prod.fst
        fun w s ↦ (w, s.2)) := by
  refine h.choosing.within (fun _ _ ↦ rfl) (fun w t ht hacts ↦ ?_) (fun _ _ h ↦ h.worker) hF
  have hroutes : Routes kind knownP revokedP knownW revokedW t (w, t.2) :=
    ⟨hacts.progress, .refl _, fun k hk ↦ hacts.quiet k fun hstarts ↦ hi k hstarts hk,
      fun _ _ ↦ .refl _⟩
  exact ⟨⟨hroutes, fun k hk ↦ ⟨hacts.quiet k hk, .refl _⟩⟩, hF _ _ ht hroutes⟩

/-- What a call of the routing adapter begins with: starts are of the kind of their run, and a run
that is to be stopped is known where runs of its kind go, and only there. -/
def RoutedPre (kind : String → AssignmentKind) (knownP : planner.State → String → Prop)
    (knownW : worker.State → String → Prop) : AgentCall → worker.State × planner.State → Prop
  | .start spec, _ => spec.assignmentKind = some .plan ↔ kind spec.runId = .plan
  | .stop runId _, s =>
    (kind runId = .plan → knownP s.2 runId ∧ ¬knownW s.1 runId) ∧
      (kind runId ≠ .plan → knownW s.1 runId)
  | .inspect _, _ => True

theorem routedPre_stable (kind : String → AssignmentKind)
    (knownP revokedP : planner.State → String → Prop)
    (knownW revokedW : worker.State → String → Prop) (i : AgentCall) :
    Stable (Routes kind knownP revokedP knownW revokedW) (RoutedPre kind knownP knownW i) := by
  intro s t hs hroutes
  cases i with
  | start spec => exact hs
  | inspect runId => trivial
  | stop runId reason =>
    refine ⟨fun hplan ↦ ?_, fun hother ↦ hroutes.worker.stays _ (hs.2 hother)⟩
    obtain ⟨hknown, hunknown⟩ := hs.1 hplan
    exact ⟨hroutes.planner.stays _ hknown,
      fun hnow ↦ hunknown ((hroutes.plan runId hplan).known hnow)⟩

/-- An inspection may stand in any call that is no start. -/
theorem RoutedActs.of_inspect {i : AgentCall} {s t : worker.State × planner.State}
    (h : RoutedActs kind knownP revokedP knownW revokedW (.inspect runId) s t) :
    RoutedActs kind knownP revokedP knownW revokedW i s t :=
  ⟨h.routes, fun k _ ↦ h.quiet k nofun⟩

theorem routed_start (LP : Lawful planner knownP revokedP) (LW : Lawful worker knownW revokedW)
    (spec : RunSpec) :
    Meets (Routes kind knownP revokedP knownW revokedW)
      (RoutedActs kind knownP revokedP knownW revokedW (.start spec)) (fun _ _ ↦ True)
      (RoutedPre kind knownP knownW (.start spec))
      ((assignmentRoutingAdapter planner worker).start spec) := by
  dsimp only [assignmentRoutingAdapter]
  split
  · next hkind =>
    by_cases hplan : kind spec.runId = .plan
    · have h := planner_meets kind knownW revokedW (.start spec) (fun _ ↦ True)
        (fun k hk ↦ Option.some.inj hk ▸ hplan) (fun _ _ _ _ ↦ trivial) (LP.start spec)
      exact (h.mono (fun _ _ ↦ id) fun _ _ _ ↦ trivial).weaken fun _ _ ↦ ⟨trivial, trivial⟩
    · exact .of_false fun s hs ↦ hplan (hs.mp hkind)
  · next hkind =>
    by_cases hplan : kind spec.runId = .plan
    · exact .of_false fun s hs ↦ hkind (hs.mpr hplan)
    · have h := worker_meets kind knownP revokedP (.start spec) (fun _ ↦ True)
        (fun k hk ↦ Option.some.inj hk ▸ hplan) (fun _ _ _ _ ↦ trivial) (LW.start spec)
      exact (h.mono (fun _ _ ↦ id) fun _ _ _ ↦ trivial).weaken fun _ _ ↦ ⟨trivial, trivial⟩

/-- The stop of a run goes to the adapter that knows it. -/
theorem routed_stop (LP : Lawful planner knownP revokedP) (LW : Lawful worker knownW revokedW)
    (runId reason : String) :
    Meets (Routes kind knownP revokedP knownW revokedW)
      (RoutedActs kind knownP revokedP knownW revokedW (.stop runId reason))
      (fun answer s ↦ RoutedRevoked kind revokedP revokedW s runId ∧
        (RoutedKnown kind knownP knownW s runId ∨ answer = .ok (revokedReply runId)))
      (RoutedPre kind knownP knownW (.stop runId reason))
      ((assignmentRoutingAdapter planner worker).stop runId reason) := by
  have hstable := routedPre_stable kind knownP revokedP knownW revokedW (.stop runId reason)
  -- the worker is asked first, and it knows the run if its runs are of this kind
  have hworker := (worker_meets kind knownP revokedP (.inspect runId) _ (fun _ h ↦ nomatch h)
    hstable (LW.inspect runId (kind runId ≠ .plan))).mono
      (fun _ _ h ↦ RoutedActs.of_inspect (i := .stop runId reason) h) fun _ _ ↦ id
  have hplanner := (planner_meets kind knownW revokedW (.inspect runId) _ (fun _ h ↦ nomatch h)
    hstable (LP.inspect runId (kind runId = .plan))).mono
      (fun _ _ h ↦ RoutedActs.of_inspect (i := .stop runId reason) h) fun _ _ ↦ id
  refine (hworker.weaken fun s hs ↦ ⟨hs, hs.2⟩).andThen fun answer ↦ ?_
  cases answer with
  | error e => exact .of_false fun s ⟨_, _, hreply, _⟩ ↦ nomatch hreply
  | ok insp =>
    dsimp only
    split
    · next hsome =>
      by_cases hplan : kind runId = .plan
      · refine .of_false fun s ⟨hpre, reply, hreply, hknown, _⟩ ↦ ?_
        obtain rfl := Except.ok.inj hreply
        exact (hpre.1 hplan).2 (hknown hsome)
      · have h := worker_meets kind knownP revokedP (.stop runId reason) _ (fun _ h ↦ nomatch h)
          hstable (LW.stop runId reason)
        refine (h.mono (fun _ _ ↦ id) fun a s ⟨hpre, hrevoked, _⟩ ↦ ⟨?_, .inl ?_⟩).weaken
          fun s hs ↦ ⟨hs.1, trivial⟩
        · rwa [RoutedRevoked, if_neg hplan]
        · rw [RoutedKnown, if_neg hplan]
          exact hpre.2 hplan
    · next hnone =>
      by_cases hplan : kind runId = .plan
      · refine (hplanner.weaken fun s hs ↦ ⟨hs.1, fun h ↦ (hs.1.1 h).1⟩).andThen fun answer ↦ ?_
        cases answer with
        | error e => exact .of_false fun s ⟨_, _, hreply, _⟩ ↦ nomatch hreply
        | ok insp' =>
          dsimp only
          split
          · have h := planner_meets kind knownW revokedW (.stop runId reason) _
              (fun _ h ↦ nomatch h) hstable (LP.stop runId reason)
            refine (h.mono (fun _ _ ↦ id) fun a s ⟨hpre, hrevoked, _⟩ ↦ ⟨?_, .inl ?_⟩).weaken
              fun s hs ↦ ⟨hs.1, trivial⟩
            · rwa [RoutedRevoked, if_pos hplan]
            · rw [RoutedKnown, if_pos hplan]
              exact (hpre.1 hplan).1
          · next hnone' =>
            refine .of_false fun s ⟨_, reply, hreply, _, hstatus⟩ ↦ ?_
            obtain rfl := Except.ok.inj hreply
            exact hnone' (hstatus hplan)
      · refine .of_false fun s ⟨_, reply, hreply, _, hstatus⟩ ↦ ?_
        obtain rfl := Except.ok.inj hreply
        exact hnone (hstatus hplan)

theorem routed_inspect (LP : Lawful planner knownP revokedP) (LW : Lawful worker knownW revokedW)
    (runId : String) :
    Meets (Routes kind knownP revokedP knownW revokedW)
      (RoutedActs kind knownP revokedP knownW revokedW (.inspect runId)) (fun _ _ ↦ True)
      (fun _ ↦ True) ((assignmentRoutingAdapter planner worker).inspect runId) := by
  have hworker := worker_meets kind knownP revokedP (.inspect runId) (fun _ ↦ True)
    (fun _ h ↦ nomatch h) (fun _ _ _ _ ↦ trivial) (LW.inspect runId False)
  have hplanner := planner_meets kind knownW revokedW (.inspect runId) (fun _ ↦ True)
    (fun _ h ↦ nomatch h) (fun _ _ _ _ ↦ trivial) (LP.inspect runId False)
  refine (hworker.weaken fun _ _ ↦ ⟨trivial, False.elim⟩).andThen fun answer ↦ ?_
  cases answer with
  | error e => exact .done fun _ _ ↦ trivial
  | ok insp =>
    dsimp only
    split
    · exact .done fun _ _ ↦ trivial
    · refine (hplanner.weaken fun _ _ ↦ ⟨trivial, False.elim⟩).andThen fun answer ↦ ?_
      cases answer with
      | error e => exact .done fun _ _ ↦ trivial
      | ok insp' =>
        dsimp only
        split <;> exact .done fun _ _ ↦ trivial

/-- The calls that the routing adapter is made for: the starts of a run are all of the kind of the
run, and a stop is asked for a run that one of the adapters knows. -/
def RoutedCalls (kind : String → AssignmentKind) (A : AgentAdapter) (p : A.Threads) :
    Turn A.Choice A.Drift AgentCall → Prop
  | .call _ (.start spec) => spec.assignmentKind = some .plan ↔ kind spec.runId = .plan
  | .call _ (.stop runId _) => A.knows p.state runId = true
  | _ => True

/-- No adapter knows a run of a kind of the other. -/
def KeptApart (kind : String → AssignmentKind) (knownP : planner.State → String → Prop)
    (knownW : worker.State → String → Prop) (s : worker.State × planner.State) : Prop :=
  ∀ runId, (kind runId = .plan → ¬knownW s.1 runId) ∧ (kind runId ≠ .plan → ¬knownP s.2 runId)

theorem Routes.keptApart {s t : worker.State × planner.State}
    (h : Routes kind knownP revokedP knownW revokedW s t) (hs : KeptApart kind knownP knownW s) :
    KeptApart kind knownP knownW t := fun runId ↦
  ⟨fun hplan hnow ↦ (hs runId).1 hplan ((h.plan runId hplan).known hnow),
    fun hother hnow ↦ (hs runId).2 hother ((h.other runId hother).known hnow)⟩

/-- The two adapters together do what one adapter may do. -/
theorem Routes.progress {s t : worker.State × planner.State}
    (h : Routes kind knownP revokedP knownW revokedW s t) :
    Progress (assignmentRoutingAdapter planner worker) (RoutedKnown kind knownP knownW)
      (RoutedRevoked kind revokedP revokedW) s t where
  stays runId hs := by
    rw [RoutedKnown] at hs ⊢
    split at hs
    · next hplan =>
      rw [if_pos hplan]
      exact h.planner.stays _ hs
    · next hplan =>
      rw [if_neg hplan]
      exact h.worker.stays _ hs
  fenced runId hs := by
    rw [RoutedRevoked] at hs ⊢
    split at hs
    · next hplan =>
      rw [if_pos hplan]
      exact h.planner.fenced _ hs
    · next hplan =>
      rw [if_neg hplan]
      exact h.worker.fenced _ hs
  created runId := by
    simp only [List.count_append, RoutedKnown, RoutedRevoked]
    by_cases hplan : kind runId = .plan
    · simp only [if_pos hplan, (h.plan runId hplan).created]
      rcases h.planner.created runId with hsame | ⟨hunknown, hunrevoked, hnow, hcount⟩
      · exact .inl (by rw [hsame])
      · exact .inr ⟨hunknown, hunrevoked, hnow, by rw [hcount, Nat.add_assoc]⟩
    · simp only [if_neg hplan, (h.other runId hplan).created]
      rcases h.worker.created runId with hsame | ⟨hunknown, hunrevoked, hnow, hcount⟩
      · exact .inl (by rw [hsame])
      · exact .inr ⟨hunknown, hunrevoked, hnow, by rw [hcount]; omega⟩

/-- What is quiet in both adapters is quiet. -/
theorem Quiet.routed {s t : worker.State × planner.State} (hW : Quiet worker knownW runId s.1 t.1)
    (hP : Quiet planner knownP runId s.2 t.2) :
    Quiet (assignmentRoutingAdapter planner worker) (RoutedKnown kind knownP knownW) runId s t where
  created := by
    simp only [List.count_append, hW.created, hP.created]
  known hnow := by
    rw [RoutedKnown] at hnow ⊢
    split at hnow
    · next hplan =>
      rw [if_pos hplan]
      exact hP.known hnow
    · next hplan =>
      rw [if_neg hplan]
      exact hW.known hnow

/-- The routing adapter is relied on in every interleaving of calls that it is made for. -/
theorem routed_honours (kind : String → AssignmentKind) (LP : Lawful planner knownP revokedP)
    (LW : Lawful worker knownW revokedW) :
    (assignmentRoutingAdapter planner worker).HonoursRevoke (RoutedCalls kind _) := by
  let R := assignmentRoutingAdapter planner worker
  let post : AgentCall → Except String AgentReply → R.State → Prop
    | .stop runId _, answer, s => RoutedRevoked kind revokedP revokedW s runId ∧
      (RoutedKnown kind knownP knownW s runId ∨ answer = .ok (revokedReply runId))
    | _, _, _ => True
  have hdrift (d : R.Drift) (s : R.State) :
      Routes kind knownP revokedP knownW revokedW s (R.drift d s) ∧ ∀ k,
        Quiet worker knownW k s.1 (R.drift d s).1 ∧ Quiet planner knownP k s.2 (R.drift d s).2 := by
    cases d with
    | inl d =>
      obtain ⟨hprogress, hquiet⟩ := LW.drift d s.1
      exact ⟨⟨hprogress, .refl _, fun k _ ↦ hquiet k, fun _ _ ↦ .refl _⟩,
        fun k ↦ ⟨hquiet k, .refl _⟩⟩
    | inr d =>
      obtain ⟨hprogress, hquiet⟩ := LP.drift d s.2
      exact ⟨⟨.refl _, hprogress, fun _ _ ↦ .refl _, fun k _ ↦ hquiet k⟩,
        fun k ↦ ⟨.refl _, hquiet k⟩⟩
  have D : Shared.Discipline R.shared (Routes kind knownP revokedP knownW revokedW)
      (RoutedActs kind knownP revokedP knownW revokedW) (RoutedPre kind knownP knownW) post :=
    { relies := fun _ _ _ h ↦ h.routes
      drift := fun d s ↦ (hdrift d s).1
      stable := routedPre_stable kind knownP revokedP knownW revokedW
      meets := fun i ↦ by
        cases i with
        | start spec => exact routed_start LP LW spec
        | stop runId reason => exact routed_stop LP LW runId reason
        | inspect runId => exact routed_inspect LP LW runId }
  have hfresh : R.processes R.init = [] ∧ ∀ runId, ¬RoutedKnown kind knownP knownW R.init runId := by
    refine ⟨?_, fun runId hknown ↦ ?_⟩
    · change worker.processes worker.init ++ planner.processes planner.init = []
      rw [LW.fresh.1, LP.fresh.1]
      rfl
    · rw [RoutedKnown] at hknown
      split at hknown
      · exact LP.fresh.2 runId hknown
      · exact LW.fresh.2 runId hknown
  have h : R.HonoursRevoke (Shared.Asks (RoutedPre kind knownP knownW)) :=
    honours_of_discipline D hfresh (fun _ _ ↦ Routes.progress)
      (fun _ _ _ h k hk ↦ .routed (h.quiet k hk).1 (h.quiet k hk).2)
      (fun d s k ↦ .routed ((hdrift d s).2 k).1 ((hdrift d s).2 k).2) fun _ _ _ _ h ↦ h
  -- in a run of the calls that it is made for the adapters are kept apart
  have hasks {p q : R.Threads} (hp : R.shared.pool.ReachableBy (Shared.Asks
        (RoutedPre kind knownP knownW)) p) (hapart : KeptApart kind knownP knownW p.state)
      (hrun : R.shared.pool.Run (RoutedCalls kind R) p q) :
      R.shared.pool.Run (Shared.Asks (RoutedPre kind knownP knownW)) p q ∧
        KeptApart kind knownP knownW q.state := by
    induction hrun with
    | refl => exact ⟨.refl, hapart⟩
    | @step u v l _ hok hstep ih =>
      obtain ⟨hrun, hapart⟩ := ih
      have hpre : Shared.Asks (RoutedPre kind knownP knownW) u l := by
        cases l with
        | run | drift => trivial
        | call k i =>
          cases i with
          | inspect runId => trivial
          | start spec => exact hok
          | stop runId reason =>
            obtain ⟨hplan, hother⟩ := hapart runId
            have hknows : (worker.knows u.state.1 runId || planner.knows u.state.2 runId) = true :=
              hok
            rw [Bool.or_eq_true, LW.knows, LP.knows] at hknows
            refine ⟨fun hk ↦ ⟨hknows.resolve_left (hplan hk), hplan hk⟩, fun hk ↦ ?_⟩
            exact hknows.resolve_right (hother hk)
      refine ⟨hrun.step hpre hstep, ?_⟩
      cases (D.turn (D.settled (hp.trans hrun)) hpre hstep).1 with
      | called i state => rwa [state]
      | moved i asked moves => exact moves.routes.keptApart hapart
      | returned i a answer state => rwa [state]
      | drifted d state =>
        rw [state]
        exact (hdrift d _).1.keptApart hapart
  have hinit : KeptApart kind knownP knownW R.shared.pool.init.state :=
    fun runId ↦ ⟨fun _ ↦ LW.fresh.2 runId, fun _ ↦ LP.fresh.2 runId⟩
  constructor
  · exact fun p hp ↦ h.once p (hasks .refl hinit hp).1
  · intro p q runId hp hstopped hrun
    obtain ⟨hp', hapart⟩ := hasks .refl hinit hp
    exact h.fenced p q runId hp' hstopped (hasks hp' hapart hrun).1
  · exact fun p runId reason answer hp ↦ h.confirmed p runId reason answer (hasks .refl hinit hp).1

end Routing

/-! ## The adapters of the repository -/

/-- The adapters that the routing adapter is built over. -/
inductive LocalAdapter
  | fake | api

def LocalAdapter.adapter : LocalAdapter → AgentAdapter
  | .fake => fakeAgentAdapter
  | .api => apiAgentAdapter

/-- Both local adapters are relied on in every interleaving of calls, and the routing adapter over
any two of them in every one in which a run keeps its kind and a stop is asked for a known run. -/
theorem adapters_honour_revoke (kind : String → AssignmentKind) :
    (∀ a : LocalAdapter, a.adapter.HonoursRevoke fun _ _ ↦ True) ∧
      ∀ planner worker : LocalAdapter,
        (assignmentRoutingAdapter planner.adapter worker.adapter).HonoursRevoke
          (RoutedCalls kind _) := by
  have hfake := fakeAgentAdapter_lawful
  have hapi := apiAgentAdapter_lawful
  constructor
  · rintro (_ | _)
    · exact hfake.honours
    · exact hapi.honours
  · rintro (_ | _) (_ | _)
    · exact routed_honours kind hfake hfake
    · exact routed_honours kind hfake hapi
    · exact routed_honours kind hapi hfake
    · exact routed_honours kind hapi hapi

/-- The routing adapter over two fake ones. -/
abbrev sampleRouting : AgentAdapter := assignmentRoutingAdapter fakeAgentAdapter fakeAgentAdapter

/-- A stop of a run that no adapter knows returns; it has looked at both adapters. -/
def sampleStop : List (Turn sampleRouting.Choice sampleRouting.Drift AgentCall) :=
  [.call 0 (.stop "run" "cancelled"), .run 0 ((), ()), .run 0 ((), ()), .run 0 ((), ())]

/-- The run is started after the stop. -/
def sampleDelayedStart : List (Turn sampleRouting.Choice sampleRouting.Drift AgentCall) :=
  [.call 0 (.start { runId := "run", assignmentKind := some .execute }), .run 0 ((), ()),
    .run 0 ((), ())]

theorem sampleDelayedStart_view :
    (sampleRouting.shared.pool.exec sampleRouting.shared.pool.init sampleStop).bind (fun p ↦
      (sampleRouting.shared.pool.exec p sampleDelayedStart).map fun q ↦
        (p.log, sampleRouting.processes p.state, sampleRouting.processes q.state)) =
      some ([.returned (.stop "run" "cancelled") (.ok (missingReply "run")),
        .called (.stop "run" "cancelled")], [], ["run"]) := by
  decide

/-- The routing adapter forgets the stop of a run that it does not know: what it answers does not
confirm the stop, and a start that comes later creates a process. -/
theorem sampleRouting_not_honours :
    ¬sampleRouting.HonoursRevoke (fun _ _ ↦ True) ∧
    ∃ p q, sampleRouting.shared.pool.Reachable p ∧
      .returned (.stop "run" "cancelled") (.ok (missingReply "run")) ∈ p.log ∧
      (missingReply "run").toStopResult.stopped = false ∧
      sampleRouting.shared.pool.Run (fun _ _ ↦ True) p q ∧
      sampleRouting.processes p.state = [] ∧ sampleRouting.processes q.state = ["run"] := by
  obtain ⟨p, hp, hrest⟩ := Option.bind_eq_some_iff.mp sampleDelayedStart_view
  obtain ⟨q, hq, hview⟩ := Option.map_eq_some_iff.mp hrest
  obtain ⟨hlog, hbefore, hafter⟩ : p.log = _ ∧ _ ∧ _ := by simpa only [Prod.mk.injEq] using hview
  have hreach : sampleRouting.shared.pool.Reachable p := .of_exec hp
  have hstopped : .returned (.stop "run" "cancelled") (.ok (missingReply "run")) ∈ p.log := by
    rw [hlog]
    exact List.mem_cons_self
  refine ⟨fun h ↦ ?_, p, q, hreach, hstopped, rfl, .of_exec hq, hbefore, hafter⟩
  have hcount := h.fenced p q "run" hreach ⟨_, _, hstopped⟩ (.of_exec hq)
  have hnone : sampleRouting.processes p.state = [] := hbefore
  have hone : sampleRouting.processes q.state = ["run"] := hafter
  rw [hnone, hone] at hcount
  exact absurd hcount (by decide)

/-- Whether a stop of the run of the samples has returned. -/
def sampleStopped (log : List (Note AgentCall (Except String AgentReply))) : Bool :=
  log.any fun
    | .returned (.stop runId _) _ => runId == "run"
    | _ => false

/-- The run is started and stopped, and a start that comes after the stop creates no process. -/
theorem adapters_honour_revoke_sampleRestarted :
    ∃ p q, sampleRouting.shared.pool.ReachableBy (RoutedCalls (fun _ ↦ .execute) sampleRouting) p ∧
      sampleRouting.Stopped p "run" ∧ sampleRouting.processes p.state = ["run"] ∧
      sampleRouting.shared.pool.exec p sampleDelayedStart = some q ∧
      (sampleRouting.processes q.state).count "run" = 1 := by
  have hview : (sampleRouting.shared.pool.exec sampleRouting.shared.pool.init
      sampleDelayedStart).bind (fun p ↦
        (sampleRouting.shared.pool.exec p (sampleStop.take 1)).bind fun p₁ ↦
          (sampleRouting.shared.pool.exec p₁ (sampleStop.drop 1)).bind fun p₂ ↦
            (sampleRouting.shared.pool.exec p₂ sampleDelayedStart).map fun _ ↦
              (sampleRouting.knows p.state "run", sampleStopped p₂.log,
                sampleRouting.processes p₂.state)) =
      some (true, true, ["run"]) := by
    decide
  obtain ⟨p, hstart, hview₁⟩ := Option.bind_eq_some_iff.mp hview
  obtain ⟨p₁, hstop, hview₂⟩ := Option.bind_eq_some_iff.mp hview₁
  obtain ⟨p₂, hreturn, hview₃⟩ := Option.bind_eq_some_iff.mp hview₂
  obtain ⟨q, hrestart, hfacts⟩ := Option.map_eq_some_iff.mp hview₃
  obtain ⟨hknown, hrest⟩ := Prod.mk.inj hfacts
  obtain ⟨hreturned, hone⟩ := Prod.mk.inj hrest
  have hstarts (u : sampleRouting.Threads) : ∀ l ∈ sampleDelayedStart,
      RoutedCalls (fun _ ↦ .execute) sampleRouting u l := by
    simp [sampleDelayedStart, RoutedCalls]
  have hstarted : sampleRouting.shared.pool.Run (RoutedCalls (fun _ ↦ .execute) sampleRouting)
      sampleRouting.shared.pool.init p := .of_exec_ok (fun l hl u ↦ hstarts u l hl) hstart
  have hasked : sampleRouting.shared.pool.Run (RoutedCalls (fun _ ↦ .execute) sampleRouting) p
      p₁ := by
    obtain ⟨v, hstep, hlast⟩ := Option.bind_eq_some_iff.mp hstop
    obtain rfl := Option.some.inj hlast
    have hok : RoutedCalls (fun _ ↦ .execute) sampleRouting p (.call 0 (.stop "run" "cancelled")) :=
      hknown
    exact Machine.Run.refl.step hok hstep
  have hstopped : sampleRouting.shared.pool.Run (RoutedCalls (fun _ ↦ .execute) sampleRouting) p₁
      p₂ := .of_exec_ok (fun l hl u ↦ by
        obtain rfl : l = .run 0 ((), ()) := by simpa [sampleStop] using hl
        trivial) hreturn
  have hrestarted : sampleRouting.shared.pool.Run (RoutedCalls (fun _ ↦ .execute) sampleRouting) p₂
      q := .of_exec_ok (fun l hl u ↦ hstarts u l hl) hrestart
  have hlogged : sampleRouting.Stopped p₂ "run" := by
    obtain ⟨note, hnote, hstop⟩ := List.any_eq_true.mp hreturned
    split at hstop
    · obtain rfl := beq_iff_eq.mp hstop
      exact ⟨_, _, hnote⟩
    · cases hstop
  have hreach := (hstarted.trans hasked).trans hstopped
  have hhonours : sampleRouting.HonoursRevoke (RoutedCalls (fun _ ↦ .execute) sampleRouting) :=
    (adapters_honour_revoke fun _ ↦ .execute).2 .fake .fake
  have hcount := hhonours.fenced p₂ q "run" hreach hlogged hrestarted
  rw [hone] at hcount
  exact ⟨p₂, q, hreach, hlogged, hone, hrestart, hcount⟩

end HibikiCore
