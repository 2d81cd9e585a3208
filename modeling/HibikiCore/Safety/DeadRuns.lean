import HibikiCore.Safety.Acceptances

/-!
# Runs that were stopped or lost

The credential of a run stays valid when the run is cancelled or lost. What is refused then is up
to each command: a result that comes late is only noted and a heartbeat touches nothing but the
row of the run, but the other commands of runs do not ask whether the run is over, or ask less than
that. This module says for each of them when it is fenced, that is, when nothing changes but the
row of the run and the records of what was asked.
-/

namespace HibikiCore

set_option synthInstance.maxSize 100000000
set_option synthInstance.maxHeartbeats 400000

variable {env : Env} {auth : AuthContext} {p : Payload} {run : AgentRunRow} {runId : String}
  {s s' t : DB} {w w' : World} {result : CommandResult}

/-! ## Credentials and fences -/

/-- The operations that are bound to a run. -/
def runBoundOperations : List Operation :=
  [.submitResult, .heartbeat, .publishArtifact, .contextAppend, .recordModelUsage, .setWriterAlive,
    .registerSandboxIdentity]

/-- The credential that a run was given. -/
structure RunCredential (s : DB) (auth : AuthContext) (runId : String) (run : AgentRunRow) :
    Prop where
  stored : s.agentRuns.find? runId = some run
  internal : auth.actorType = .internal
  boundTask : auth.boundTaskId = some run.taskId
  boundRun : auth.boundRunId = some runId
  fencing : auth.boundFencingEpoch = some run.fencingEpoch
  grant : auth.boundGrantEpoch = some run.grantEpoch
  actor : auth.actorId = run.agentInstanceId

/-- A run was cancelled, or it is lost. -/
def AgentRunRow.IsDead (run : AgentRunRow) : Prop := run.status = .cancelled ∨ run.status = .lost

theorem AgentRunRow.IsDead.isTerminal (h : run.IsDead) : run.status.isTerminal = true := by
  rcases h with h | h <;> rw [h] <;> rfl

/-- The tables that a fenced command may write. -/
abbrev fencedTables : List Relation := [.agentRuns, .events, .inbox, .idempotencyKeys]

/-- Nothing changes but the row of a run and the records of what was asked. -/
structure Fenced (runId : String) (s s' : DB) : Prop where
  tables : Writes fencedTables s s'
  others : ∀ k, k ≠ runId → s'.agentRuns.find? k = s.agentRuns.find? k

namespace Fenced

instance : Preord (Fenced runId) where
  refl s := ⟨Preord.refl s, fun _ _ ↦ rfl⟩
  trans h h' := ⟨Preord.trans h.tables h'.tables,
    fun k hk ↦ (h'.others k hk).trans (h.others k hk)⟩

theorem of_records (h : Writes [.events, .inbox, .idempotencyKeys] s s') : Fenced runId s s' where
  tables := h.mono (by decide)
  others k _ := congrArg (·.find? k) ((h .agentRuns).2 (by decide)).symm

instance : Frame (Fenced runId) where
  still h := of_records (h.mono fun _ hn ↦ (List.not_mem_nil hn).elim)

instance {n : Relation} [h : Touches n [.events, .inbox, .idempotencyKeys]] :
    Indifferent (Fenced runId) n where
  writes hw := of_records (hw.mono fun _ hm ↦ List.mem_singleton.mp hm ▸ h.mem)

instance {f : AgentRunRow → AgentRunRow} {hf : ∀ a, SameFixed a (f a)} :
    Respects (Fenced runId) (Refs.agentRuns.update runId f hf : Core Unit) where
  rel h := by
    refine ⟨Respects.rel h, fun k hk ↦ ?_⟩
    obtain rfl := Ref.update_ok.mp h
    exact Table.find?_modify_of_ne hk _ _

theorem sameRegion_symm {n : Relation} (h : Regions.same n s s') : Regions.same n s' s := by
  cases n <;> exact Eq.symm h

/-- The records of requests and the identifiers that were drawn do not matter. -/
theorem iff_of_records {n : Nat} (hkept : Persists { s with drawn := n } t)
    (hrecords : Writes requestRecords t s') :
    Fenced runId s s' ↔ Fenced runId { s with drawn := n } t := by
  have hdrawn : Fenced runId s { s with drawn := n } := Frame.still (writes_drawn s n)
  have hafter : Fenced runId t s' := of_records (hrecords.mono (by decide))
  refine ⟨fun h ↦ ⟨fun m ↦ ⟨(hkept m).1, fun hm ↦ ?_⟩, fun k hk ↦ ?_⟩,
    fun h ↦ Preord.trans hdrawn (Preord.trans h hafter)⟩
  · have hbefore : Regions.same m { s with drawn := n } s := by cases m <;> rfl
    have hsame : Regions.same m s' t := sameRegion_symm ((hafter.tables m).2 hm)
    exact Regions.same_trans hbefore (Regions.same_trans ((h.tables m).2 hm) hsame)
  · exact (hafter.others k hk).symm.trans (h.others k hk)

/-- When the workspaces are all that was written besides, they are as they were. -/
theorem workspaces_iff {u : Table String WorkspaceRow} (h : Fenced runId s t) :
    Fenced runId s { t with workspaces := u } ↔ u = s.workspaces := by
  have hsame : s.workspaces = t.workspaces := (h.tables .workspaces).2 (by decide)
  constructor
  · intro h'
    exact ((h'.tables .workspaces).2 (by decide)).symm
  · rintro rfl
    rw [hsame]
    exact h

end Fenced

theorem assertRunWriteBinding_bound {t r : Option String} {epoch : Option Nat} {fencing : Bool}
    (h : assertRunWriteBinding auth runId run t r epoch fencing s = .ok ((), s')) :
    s' = s ∧ auth.boundRunId = some runId := by
  rw [assertRunWriteBinding] at h
  obtain ⟨_, t₁, hget, h₁⟩ := Tx.bind_ok.mp h
  obtain ⟨-, rfl⟩ := getTask_ok.mp hget
  obtain ⟨_, t₂, hcheck₂, h₂⟩ := Tx.bind_ok.mp h₁
  obtain ⟨-, rfl⟩ := Tx.check_ok.mp hcheck₂
  obtain ⟨_, t₃, hfencing, h₃⟩ := Tx.bind_ok.mp h₂
  obtain rfl : t₂ = t₃ := Respects.rel (R := Eq) hfencing
  obtain ⟨_, t₄, hcheck₄, h₄⟩ := Tx.bind_ok.mp h₃
  obtain ⟨-, rfl⟩ := Tx.check_ok.mp hcheck₄
  obtain ⟨_, t₅, hcheck₅, h₅⟩ := Tx.bind_ok.mp h₄
  obtain ⟨-, rfl⟩ := Tx.check_ok.mp hcheck₅
  obtain ⟨hbound, rfl⟩ := Tx.check_ok.mp h₅
  exact ⟨rfl, hbound.2.1⟩

namespace RunCredential

variable {run' : AgentRunRow} {runId' : String} {a b : Option String} {epoch : Option Nat}
  {fencing : Bool}

/-- The run that a command acts for is the one of the credential. -/
theorem same_run (hcred : RunCredential s auth runId run)
    (hstored : s.agentRuns.find? runId' = some run')
    (h : assertRunWriteBinding auth runId' run' a b epoch fencing s = .ok ((), s')) :
    s' = s ∧ runId' = runId ∧ run' = run := by
  obtain ⟨rfl, hbound⟩ := assertRunWriteBinding_bound h
  obtain rfl : runId = runId' := Option.some.inj (hcred.boundRun.symm.trans hbound)
  exact ⟨rfl, rfl, Option.some.inj (hstored.symm.trans hcred.stored)⟩

end RunCredential

/-! ## Commands that are fenced -/

/-- The result of a run that has ended is a late fact. -/
theorem submitResult_fenced (hcred : RunCredential s auth runId run) (hdead : run.IsDead)
    (h : submitResult env auth p s = .ok (result, s')) : Fenced runId s s' := by
  rw [submitResult] at h
  obtain ⟨runId', t₁, hkey, h₁⟩ := Tx.bind_ok.mp h
  obtain ⟨-, rfl⟩ := key_ok.mp hkey
  obtain ⟨run', t₂, hget, h₂⟩ := Tx.bind_ok.mp h₁
  obtain ⟨hrun', rfl⟩ := getRun_ok.mp hget
  obtain ⟨_, t₃, htask, h₃⟩ := Tx.bind_ok.mp h₂
  obtain ⟨-, rfl⟩ := getTask_ok.mp htask
  rw [Tx.get_bind_ok] at h₃
  rcases Tx.ite_ok.mp h₃ with ⟨hstopped, hlate⟩ | ⟨hnot, h₄⟩
  · have hbound : auth.boundRunId = some runId' := by
      rw [isStoppedRunResult] at hstopped
      simp only [Bool.and_eq_true, beq_iff_eq] at hstopped
      exact hstopped.1.1.2
    obtain rfl : runId = runId' := Option.some.inj (hcred.boundRun.symm.trans hbound)
    rw [recordLateResult] at hlate
    exact Respects.rel hlate
  · obtain ⟨_, t₄, hbinding, -⟩ := Tx.bind_ok.mp h₄
    obtain ⟨-, rfl, rfl⟩ := hcred.same_run hrun' hbinding
    -- the credential and the status of the run are what the first branch asks for
    have hstopped : isStoppedRunResult auth runId' run' = true := by
      rw [isStoppedRunResult]
      simp [hcred.internal, hcred.boundTask, hcred.boundRun, hcred.actor, hdead.isTerminal]
    exact absurd hstopped hnot

/-- A heartbeat touches the row of its run. -/
theorem heartbeat_fenced (hcred : RunCredential s auth runId run)
    (h : heartbeat env auth p s = .ok (result, s')) : Fenced runId s s' := by
  rw [heartbeat] at h
  obtain ⟨runId', t₁, hkey, h₁⟩ := Tx.bind_ok.mp h
  obtain ⟨-, rfl⟩ := key_ok.mp hkey
  obtain ⟨run', t₂, hget, h₂⟩ := Tx.bind_ok.mp h₁
  obtain ⟨hrun', rfl⟩ := getRun_ok.mp hget
  obtain ⟨_, t₃, hbinding, h₃⟩ := Tx.bind_ok.mp h₂
  obtain ⟨rfl, rfl, rfl⟩ := hcred.same_run hrun' hbinding
  exact Respects.rel h₃

/-! ## Commands that are not -/

/-- The model calls that a task may make. -/
def modelCallLimit (s : DB) (taskId : String) (task : TaskRow) : Int :=
  let contractLimit := intOr (contractAndLimits s taskId task).2.maxModelCalls task.modelCallLimit
  if contractLimit = 0 then task.modelCallLimit
  else if task.modelCallLimit = 0 then contractLimit
  else min task.modelCallLimit contractLimit

/-- The budget of the task of a run is spent but for less than the calls that are reported. -/
def BudgetSpent (s : DB) (run : AgentRunRow) (p : Payload) : Prop :=
  ∃ task, s.tasks.find? run.taskId = some task ∧ 0 < modelCallLimit s run.taskId task ∧
    modelCallLimit s run.taskId task < task.modelCallsUsed + (p.calls.filter (· ≠ 0)).getD 1

theorem recordModelUsage_fenced_iff (hcred : RunCredential s auth runId run)
    (h : recordModelUsage env auth p s = .ok (result, s')) :
    Fenced runId s s' ↔ BudgetSpent s run p := by
  rw [recordModelUsage] at h
  obtain ⟨runId', t₁, hkey, h₁⟩ := Tx.bind_ok.mp h
  obtain ⟨-, rfl⟩ := key_ok.mp hkey
  obtain ⟨run', t₂, hget, h₂⟩ := Tx.bind_ok.mp h₁
  obtain ⟨hrun', rfl⟩ := getRun_ok.mp hget
  obtain ⟨_, t₃, hbinding, h₃⟩ := Tx.bind_ok.mp h₂
  obtain ⟨rfl, rfl, rfl⟩ := hcred.same_run hrun' hbinding
  obtain ⟨task, t₄, htask, h₄⟩ := Tx.bind_ok.mp h₃
  obtain ⟨hfound, rfl⟩ := getTask_ok.mp htask
  rw [Tx.get_bind_ok] at h₄
  obtain ⟨_, t₅, hcheck, h₅⟩ := Tx.bind_ok.mp h₄
  obtain ⟨hcalls, rfl⟩ := Tx.check_ok.mp hcheck
  rcases Tx.ite_ok.mp h₅ with ⟨hspent, hpure⟩ | ⟨hleft, h₆⟩
  · obtain ⟨-, rfl⟩ := Tx.pure_ok.mp hpure
    exact ⟨fun _ ↦ ⟨task, hfound, hspent⟩, fun _ ↦ Preord.refl _⟩
  · obtain ⟨_, t₆, hupdate, hpure⟩ := Tx.bind_ok.mp h₆
    obtain ⟨-, rfl⟩ := Tx.pure_ok.mp hpure
    obtain rfl := Ref.update_ok.mp hupdate
    constructor
    · -- the number of calls of the task has grown
      intro hfenced
      have htable : t₅.tasks.modify run'.taskId (fun t ↦
          { t with modelCallsUsed := task.modelCallsUsed + (p.calls.filter (· ≠ 0)).getD 1 }) =
          t₅.tasks := ((hfenced.tables .tasks).2 (by decide)).symm
      have hused := congrArg TaskRow.modelCallsUsed (Table.modify_eq_self_iff.mp htable task hfound)
      dsimp only at hused
      omega
    · rintro ⟨task', hfound', hspent⟩
      obtain rfl := Option.some.inj (hfound.symm.trans hfound')
      exact absurd hspent hleft

theorem readWorkspaceBytes_reads {path wsId : String} {maxBytes : Option Nat} :
    Respects Eq (readWorkspaceBytes env runId run path wsId maxBytes) := by
  have haccess : Respects Eq (assertWorkspaceAccessibleByRun runId run wsId) := by
    rw [assertWorkspaceAccessibleByRun]
    infer_instance
  rw [readWorkspaceBytes]
  infer_instance

theorem readAppendedRef_reads {ref : String} {maxBytes : Option Nat} :
    Respects Eq (readAppendedRef env runId run ref maxBytes) := by
  have hread (wsId : String) : Respects Eq (readWorkspaceBytes env runId run ref wsId maxBytes) :=
    readWorkspaceBytes_reads
  rw [readAppendedRef]
  infer_instance

/-- An append to the context adds a row. -/
theorem contextAppend_unfenced (h : contextAppend env auth p s = .ok (result, s')) :
    ¬Fenced runId s s' := by
  rw [contextAppend] at h
  obtain ⟨_, t₁, hkey, h₁⟩ := Tx.bind_ok.mp h
  obtain ⟨-, rfl⟩ := key_ok.mp hkey
  obtain ⟨run', t₂, hget, h₂⟩ := Tx.bind_ok.mp h₁
  obtain ⟨-, rfl⟩ := getRun_ok.mp hget
  obtain ⟨_, t₃, hbinding, h₃⟩ := Tx.bind_ok.mp h₂
  obtain ⟨rfl, -⟩ := assertRunWriteBinding_bound hbinding
  obtain ⟨_, t₄, htask, h₄⟩ := Tx.bind_ok.mp h₃
  obtain ⟨-, rfl⟩ := getTask_ok.mp htask
  obtain ⟨_, t₅, hcheck₅, h₅⟩ := Tx.bind_ok.mp h₄
  obtain ⟨-, rfl⟩ := Tx.check_ok.mp hcheck₅
  obtain ⟨_, t₆, hreason, h₆⟩ := Tx.bind_ok.mp h₅
  obtain ⟨-, rfl⟩ := Tx.require_ok.mp hreason
  obtain ⟨_, t₇, href, h₇⟩ := Tx.bind_ok.mp h₆
  obtain ⟨-, rfl⟩ := Tx.require_ok.mp href
  obtain ⟨_, t₈, hread, h₈⟩ := Tx.bind_ok.mp h₇
  obtain rfl : t₇ = t₈ := readAppendedRef_reads.rel hread
  obtain ⟨_, t₉, hcheck₉, h₉⟩ := Tx.bind_ok.mp h₈
  obtain ⟨-, rfl⟩ := Tx.check_ok.mp hcheck₉
  rw [Tx.get_bind_ok] at h₉
  obtain ⟨appendId, u₁, hid, h₁₀⟩ := Tx.bind_ok.mp h₉
  obtain ⟨rfl, rfl⟩ := newId_ok.mp hid
  obtain ⟨_, u₂, hadd, h₁₁⟩ := Tx.bind_ok.mp h₁₀
  obtain ⟨hnone, rfl⟩ := Ref.insert_ok.mp hadd
  have hafter : Persists _ s' := Respects.rel h₁₁
  intro hfenced
  obtain ⟨row, hrow, -⟩ := (hafter .contextAppends).1 _ _
    ((Table.find?_insert hnone _ _).trans (if_pos rfl))
  rw [show s'.contextAppends = t₉.contextAppends from
    ((hfenced.tables .contextAppends).2 (by decide)).symm] at hrow
  exact absurd (hnone.symm.trans hrow) nofun

/-- The file that a command names is published already, with the same size and from the same
place. -/
def Republished (env : Env) (s : DB) (runId : String) (run : AgentRunRow) (p : Payload) : Prop :=
  ∃ wsId path content row,
    (s.runInputs.find? runId).bind (fun i ↦ truthy i.workspaceId) = some wsId ∧
    truthy p.path = some path ∧ env.readWorkspace wsId path none = .ok content ∧
    s.artifacts.find? (run.taskId, content.digest) = some row ∧
    row.artifactUri = some ("artifact://" ++ content.digest) ∧ row.sizeBytes = some content.size ∧
    row.sourcePath = some path

theorem readWorkspaceBytes_ok {path wsId : String} {maxBytes : Option Nat} {content : FileContent}
    (h : readWorkspaceBytes env runId run path wsId maxBytes s = .ok (content, s')) :
    s' = s ∧ env.readWorkspace wsId path maxBytes = .ok content ∧ run.status ≠ .cancelled := by
  obtain rfl : s = s' := readWorkspaceBytes_reads.rel h
  rw [readWorkspaceBytes] at h
  obtain ⟨_, t₁, haccess, h₁⟩ := Tx.bind_ok.mp h
  rw [assertWorkspaceAccessibleByRun, Tx.get_bind_ok] at haccess
  obtain ⟨_, t₂, hrequire, h₂⟩ := Tx.bind_ok.mp haccess
  obtain ⟨-, rfl⟩ := Tx.require_ok.mp hrequire
  obtain ⟨_, t₃, howner, hcheck⟩ := Tx.bind_ok.mp h₂
  obtain ⟨-, rfl⟩ := Tx.check_ok.mp howner
  obtain ⟨hstatus, rfl⟩ := Tx.check_ok.mp hcheck
  obtain ⟨_, t₄, hroot, hlift⟩ := Tx.bind_ok.mp h₁
  obtain ⟨-, rfl⟩ := Tx.check_ok.mp hroot
  exact ⟨rfl, (Tx.lift_ok.mp hlift).1, hstatus⟩

theorem publishArtifact_fenced_iff (hcred : RunCredential s auth runId run)
    (h : publishArtifact env auth p s = .ok (result, s')) :
    Fenced runId s s' ↔ Republished env s runId run p := by
  rw [publishArtifact] at h
  obtain ⟨runId', t₁, hkey, h₁⟩ := Tx.bind_ok.mp h
  obtain ⟨-, rfl⟩ := key_ok.mp hkey
  obtain ⟨run', t₂, hget, h₂⟩ := Tx.bind_ok.mp h₁
  obtain ⟨hrun', rfl⟩ := getRun_ok.mp hget
  obtain ⟨_, t₃, hbinding, h₃⟩ := Tx.bind_ok.mp h₂
  obtain ⟨rfl, rfl, rfl⟩ := hcred.same_run hrun' hbinding
  obtain ⟨_, t₄, htask, h₄⟩ := Tx.bind_ok.mp h₃
  obtain ⟨-, rfl⟩ := getTask_ok.mp htask
  obtain ⟨_, t₅, hcheck₅, h₅⟩ := Tx.bind_ok.mp h₄
  obtain ⟨-, rfl⟩ := Tx.check_ok.mp hcheck₅
  rw [Tx.get_bind_ok] at h₅
  obtain ⟨wsId, t₆, hworkspace, h₆⟩ := Tx.bind_ok.mp h₅
  obtain ⟨hwsId, rfl⟩ := Tx.require_ok.mp hworkspace
  obtain ⟨path, t₇, hrequire, h₇⟩ := Tx.bind_ok.mp h₆
  obtain ⟨hpath, rfl⟩ := Tx.require_ok.mp hrequire
  obtain ⟨content, t₈, hread, h₈⟩ := Tx.bind_ok.mp h₇
  obtain ⟨rfl, hcontent, -⟩ := readWorkspaceBytes_ok hread
  obtain ⟨_, t₉, hcheck₉, h₉⟩ := Tx.bind_ok.mp h₈
  obtain ⟨-, rfl⟩ := Tx.check_ok.mp hcheck₉
  obtain ⟨_, t₁₀, hcheck₁₀, h₁₀⟩ := Tx.bind_ok.mp h₉
  obtain ⟨-, rfl⟩ := Tx.check_ok.mp hcheck₁₀
  obtain ⟨_, u₁, hadd, h₁₁⟩ := Tx.bind_ok.mp h₁₀
  obtain ⟨_, u₂, hupdate, h₁₂⟩ := Tx.bind_ok.mp h₁₁
  obtain rfl := Ref.update_ok.mp hupdate
  have hevents : Fenced runId' _ s' := Respects.rel h₁₂
  obtain ⟨row, hrow, hcreated⟩ : ∃ row, u₁.artifacts.find? (run'.taskId, content.digest) = some row ∧
      ((t₁₀.artifacts.find? (run'.taskId, content.digest)).isSome = true → u₁ = t₁₀) := by
    rcases Tx.when_ok.mp hadd with ⟨hnone, hinsert⟩ | ⟨hsome, rfl⟩
    · obtain ⟨hfree, rfl⟩ := Ref.insert_ok.mp hinsert
      refine ⟨_, (Table.find?_insert hfree _ _).trans (if_pos rfl), fun hsome ↦ ?_⟩
      rw [show t₁₀.artifacts.find? _ = none from hfree] at hsome
      cases hsome
    · obtain ⟨row, hrow⟩ := Option.ne_none_iff_exists'.mp (by simpa using hsome)
      exact ⟨row, hrow, fun _ ↦ rfl⟩
  constructor
  · intro hfenced
    have hartifacts : t₁₀.artifacts = u₁.artifacts.modify (run'.taskId, content.digest) fun a ↦
        { a with
          artifactUri := some ("artifact://" ++ content.digest)
          sizeBytes := some content.size
          sourcePath := some path } :=
      ((hfenced.tables .artifacts).2 (by decide)).trans
        ((hevents.tables .artifacts).2 (by decide)).symm
    have hfound := Table.find?_modify_self u₁.artifacts (run'.taskId, content.digest) fun a ↦
      { a with
        artifactUri := some ("artifact://" ++ content.digest)
        sizeBytes := some content.size
        sourcePath := some path }
    rw [← hartifacts, hrow] at hfound
    exact ⟨wsId, path, content, _, hwsId, hpath, hcontent, hfound, rfl, rfl, rfl⟩
  · rintro ⟨wsId', path', content', row', hwsId', hpath', hcontent', hrow', huri, hsize, hsource⟩
    obtain rfl := Option.some.inj (hwsId.symm.trans hwsId')
    obtain rfl := Option.some.inj (hpath.symm.trans hpath')
    obtain rfl := Except.ok.inj (hcontent.symm.trans hcontent')
    obtain rfl := hcreated (Option.isSome_iff_exists.mpr ⟨row', hrow'⟩)
    have hsame : u₁.artifacts.modify (run'.taskId, content.digest) (fun a ↦
        { a with
          artifactUri := some ("artifact://" ++ content.digest)
          sizeBytes := some content.size
          sourcePath := some path }) = u₁.artifacts := by
      refine Table.modify_eq_self_iff.mpr fun a ha ↦ ?_
      obtain rfl := Option.some.inj (hrow'.symm.trans ha)
      rw [← huri, ← hsize, ← hsource]
    rw [show Refs.artifacts.write _ u₁ = u₁ from congrArg (Refs.artifacts.write · u₁) hsame]
      at hevents
    exact hevents

/-- A workspace is as a command reports it. -/
def AsReported (s : DB) (p : Payload) : Prop :=
  ∃ wsId ws, p.workspaceId = some wsId ∧ s.workspaces.find? wsId = some ws ∧
    ws.writerAlive = p.alive.getD true ∧ (p.quarantine = true → ws.state = .quarantined)

theorem setWriterAlive_fenced_iff (h : setWriterAlive env auth p s = .ok (result, s')) :
    Fenced runId s s' ↔ AsReported s p := by
  rw [setWriterAlive] at h
  obtain ⟨wsId, t₁, hkey, h₁⟩ := Tx.bind_ok.mp h
  obtain ⟨hwsId, rfl⟩ := key_ok.mp hkey
  rw [Tx.get_bind_ok] at h₁
  obtain ⟨ws, t₂, hrequire, h₂⟩ := Tx.bind_ok.mp h₁
  obtain ⟨hws, rfl⟩ := Tx.require_ok.mp hrequire
  obtain ⟨_, t₃, hrequire₃, h₃⟩ := Tx.bind_ok.mp h₂
  obtain ⟨-, rfl⟩ := Tx.require_ok.mp hrequire₃
  obtain ⟨_, t₄, hget, h₄⟩ := Tx.bind_ok.mp h₃
  obtain ⟨-, rfl⟩ := getRun_ok.mp hget
  obtain ⟨_, t₅, hcheck, h₅⟩ := Tx.bind_ok.mp h₄
  obtain ⟨-, rfl⟩ := Tx.check_ok.mp hcheck
  obtain ⟨_, t₆, hbinding, h₆⟩ := Tx.bind_ok.mp h₅
  obtain ⟨rfl, -⟩ := assertRunWriteBinding_bound hbinding
  obtain ⟨_, u₁, halive, h₇⟩ := Tx.bind_ok.mp h₆
  obtain rfl := Ref.update_ok.mp halive
  obtain ⟨_, u₂, hquarantine, hpure⟩ := Tx.bind_ok.mp h₇
  obtain ⟨-, rfl⟩ := Tx.pure_ok.mp hpure
  have hwritten : s' = { t₆ with workspaces := t₆.workspaces.modify wsId fun w ↦
      { w with
        writerAlive := p.alive.getD true
        state := if p.quarantine then .quarantined else w.state } } := by
    rcases Tx.when_ok.mp hquarantine with ⟨hp, hupdate⟩ | ⟨hp, rfl⟩
    · obtain rfl := Ref.update_ok.mp hupdate
      simp only [hp, if_true]
      exact congrArg (fun t ↦ ({ t₆ with workspaces := t } : DB)) (Table.modify_modify _ _ _ _)
    · simp only [hp]
      rfl
  rw [hwritten, Fenced.workspaces_iff (Preord.refl t₆), Table.modify_eq_self_iff]
  constructor
  · intro hsame
    have hrow := hsame ws hws
    refine ⟨wsId, ws, hwsId, hws, (congrArg WorkspaceRow.writerAlive hrow).symm, fun hp ↦ ?_⟩
    have hstate := congrArg WorkspaceRow.state hrow
    rw [hp] at hstate
    exact hstate.symm
  · rintro ⟨wsId', ws', hwsId', hws', halive, hstate⟩ a ha
    obtain rfl := Option.some.inj (hwsId.symm.trans hwsId')
    obtain rfl := Option.some.inj (hws'.symm.trans ha)
    cases hp : p.quarantine with
    | true => rw [← halive, ← hstate hp]; rfl
    | false => rw [← halive]; rfl

/-- What is reported of the exit of a container changes no workspace: an exit that is confirmed
releases the workspace of the run, and of one that is not confirmed the writer is alive. -/
def ExitKnown (s : DB) (runId : String) (run : AgentRunRow) (p : Payload) : Prop :=
  ∀ wsId ws, run.workspaceId = some wsId → s.workspaces.find? wsId = some ws →
    (p.exitConfirmed = some true → ws.ownerRunId ≠ some runId) ∧
    (p.exitConfirmed = some false → ws.writerAlive = true)

/-- A run that has ended releases the workspace that it owns. -/
theorem releaseWorkspaceAfterConfirmedExit_fenced_iff (hfenced : Fenced runId s t)
    (hrun : t.agentRuns.find? runId = some run) (hterminal : run.status.isTerminal = true)
    (h : releaseWorkspaceAfterConfirmedExit runId t = .ok ((), s')) :
    Fenced runId s s' ↔ ∀ wsId ws, run.workspaceId = some wsId →
      s.workspaces.find? wsId = some ws → ws.ownerRunId ≠ some runId := by
  rw [releaseWorkspaceAfterConfirmedExit] at h
  obtain ⟨run', t₁, hget, hrest⟩ := Tx.bind_ok.mp h
  obtain ⟨hrun', rfl⟩ := getRun_ok.mp hget
  obtain rfl := Option.some.inj (hrun.symm.trans hrun')
  have hrelease := (Tx.when_ok.mp hrest).resolve_right fun hnot ↦ hnot.1 hterminal
  rcases Tx.withSome_ok.mp hrelease.2 with ⟨wsId, hwsId, hupdate⟩ | ⟨hnone, rfl⟩
  · obtain rfl := Ref.updateWhere_ok.mp hupdate
    have hworkspaces : s.workspaces = t₁.workspaces := (hfenced.tables .workspaces).2 (by decide)
    refine (Fenced.workspaces_iff hfenced).trans ?_
    rw [hworkspaces]
    refine (Table.modifyWhere_key t₁.workspaces wsId (fun ws ↦ ws.ownerRunId == some runId)
      fun ws ↦ { ws with writerAlive := false, state := .ready, ownerRunId := none }) ▸
      Table.modify_eq_self_iff.trans ⟨fun hsame wsId' ws hwsId' hws howner ↦ ?_,
        fun hother ws hws ↦ ?_⟩
    · obtain rfl := Option.some.inj (hwsId.symm.trans hwsId')
      have hrow := congrArg WorkspaceRow.ownerRunId (hsame ws hws)
      rw [if_pos (by simp [howner]), howner] at hrow
      cases hrow
    · exact if_neg (by simpa using hother wsId ws hwsId hws)
  · refine ⟨fun _ wsId ws hwsId ↦ ?_, fun _ ↦ hfenced⟩
    rw [hnone] at hwsId
    cases hwsId

theorem registerSandboxIdentity_fenced_iff (hcred : RunCredential s auth runId run)
    (hdead : run.IsDead) (h : registerSandboxIdentity env auth p s = .ok (result, s')) :
    Fenced runId s s' ↔ ExitKnown s runId run p := by
  rw [registerSandboxIdentity] at h
  obtain ⟨runId', t₁, hkey, h₁⟩ := Tx.bind_ok.mp h
  obtain ⟨-, rfl⟩ := key_ok.mp hkey
  obtain ⟨run', t₂, hget, h₂⟩ := Tx.bind_ok.mp h₁
  obtain ⟨hrun', rfl⟩ := getRun_ok.mp hget
  obtain ⟨_, t₃, hbinding, h₃⟩ := Tx.bind_ok.mp h₂
  obtain ⟨rfl, rfl, rfl⟩ := hcred.same_run hrun' hbinding
  obtain ⟨_, u₁, hcontainer, h₄⟩ := Tx.bind_ok.mp h₃
  obtain ⟨_, u₂, hexit, h₅⟩ := Tx.bind_ok.mp h₄
  obtain ⟨_, u₃, hget', hpure⟩ := Tx.bind_ok.mp h₅
  obtain ⟨-, rfl⟩ := getRun_ok.mp hget'
  obtain ⟨-, rfl⟩ := Tx.pure_ok.mp hpure
  have hfirst : Fenced runId' t₃ u₁ := Respects.rel hcontainer
  rcases Tx.withSome_ok.mp hexit with ⟨confirmed, hconfirmed, hrest⟩ | ⟨hnone, rfl⟩
  · obtain ⟨_, u₄, hupdate, hlast⟩ := Tx.bind_ok.mp hrest
    have hfenced : Fenced runId' t₃ u₄ := Preord.trans hfirst (Respects.rel hupdate)
    cases confirmed with
    | true =>
      have hends : RunsEnd t₃ u₁ := by
        rcases Tx.withSome_ok.mp hcontainer with ⟨_, -, hset⟩ | ⟨-, rfl⟩
        · exact Moves.of_update (fun _ _ ↦ by exact .inl rfl) hset
        · exact Preord.refl _
      have hends' : RunsEnd u₁ u₄ := Moves.of_update (fun _ _ ↦ by exact .inl rfl) hupdate
      obtain ⟨run, hrun, hmoved⟩ := (Preord.trans hends hends' : RunsEnd t₃ u₄) runId' run' hrun'
      have hterminal : run.status.isTerminal = true :=
        hmoved.moves.terminal hdead.isTerminal ▸ hdead.isTerminal
      have hpersists : Persists t₃ u₄ :=
        Preord.trans (Respects.rel hcontainer) (Respects.rel hupdate)
      have hworkspace : run.workspaceId = run'.workspaceId := by
        obtain ⟨run'', hrun'', hfixed⟩ := (hpersists .agentRuns).1 runId' run' hrun'
        obtain rfl := Option.some.inj (hrun.symm.trans hrun'')
        exact congrArg RunAssignment.workspaceId hfixed
      refine (releaseWorkspaceAfterConfirmedExit_fenced_iff hfenced hrun hterminal hlast).trans ?_
      rw [hworkspace]
      refine ⟨fun hother wsId ws hwsId hws ↦ ⟨fun _ ↦ hother wsId ws hwsId hws, fun hfalse ↦ ?_⟩,
        fun hknown wsId ws hwsId hws ↦ (hknown wsId ws hwsId hws).1 hconfirmed⟩
      rw [hconfirmed] at hfalse
      cases hfalse
    | false =>
      have hworkspaces : t₃.workspaces = u₄.workspaces :=
        (hfenced.tables .workspaces).2 (by decide)
      rcases Tx.withSome_ok.mp hlast with ⟨wsId, hwsId, halive⟩ | ⟨hnone, rfl⟩
      · obtain rfl := Ref.update_ok.mp halive
        refine (Fenced.workspaces_iff hfenced).trans ?_
        rw [hworkspaces]
        refine Table.modify_eq_self_iff.trans ⟨fun hsame wsId' ws hwsId' hws ↦
          ⟨fun htrue ↦ ?_, fun _ ↦ ?_⟩, fun hknown ws hws ↦ ?_⟩
        · rw [hconfirmed] at htrue
          cases htrue
        · obtain rfl := Option.some.inj (hwsId.symm.trans hwsId')
          have hws' : u₄.workspaces.find? wsId = some ws := hworkspaces ▸ hws
          exact (congrArg WorkspaceRow.writerAlive (hsame ws hws')).symm
        · have hws' : t₃.workspaces.find? wsId = some ws := hworkspaces ▸ hws
          rw [← (hknown wsId ws hwsId hws').2 hconfirmed]
      · refine ⟨fun _ wsId ws hwsId ↦ ?_, fun _ ↦ hfenced⟩
        rw [hnone] at hwsId
        cases hwsId
  · refine ⟨fun _ wsId ws _ _ ↦ ⟨fun htrue ↦ ?_, fun hfalse ↦ ?_⟩, fun _ ↦ hfirst⟩
    · rw [hnone] at htrue
      cases htrue
    · rw [hnone] at hfalse
      cases hfalse

/-! ## All of them -/

/-- What a command of a run that has ended finds, so that there is nothing for it to change. -/
def Harmless (env : Env) (operation : Operation) (p : Payload) (s : DB) (runId : String)
    (run : AgentRunRow) : Prop :=
  match operation with
  | .recordModelUsage => BudgetSpent s run p
  | .contextAppend => False
  | .publishArtifact => Republished env s runId run p
  | .setWriterAlive => AsReported s p
  | .registerSandboxIdentity => ExitKnown s runId run p
  | _ => True

theorem handler_fenced_iff {operation : Operation} (hcred : RunCredential s auth runId run)
    (hdead : run.IsDead) (hbound : operation ∈ runBoundOperations)
    (h : handler env auth p operation s = .ok (result, s')) :
    Fenced runId s s' ↔ Harmless env operation p s runId run := by
  cases operation
  case submitResult => exact iff_true_intro (submitResult_fenced hcred hdead h)
  case heartbeat => exact iff_true_intro (heartbeat_fenced hcred h)
  case recordModelUsage =>
    change recordModelUsage env auth p s = _ at h
    exact recordModelUsage_fenced_iff hcred h
  case contextAppend => exact iff_false_intro (contextAppend_unfenced h)
  case publishArtifact => exact publishArtifact_fenced_iff hcred h
  case setWriterAlive =>
    change setWriterAlive env auth p s = _ at h
    exact setWriterAlive_fenced_iff h
  case registerSandboxIdentity =>
    change registerSandboxIdentity env auth p s = _ at h
    exact registerSandboxIdentity_fenced_iff hcred hdead h
  all_goals simp [runBoundOperations] at hbound

/-- A command that is bound to a run which was cancelled or lost changes nothing but the row of the
run and the records of what was asked if and only if it is not carried out or is harmless. -/
theorem dead_run_fenced_iff {w w' : World} {env : Env} {r : Request} {runId : String}
    {run : AgentRunRow} (hcred : RunCredential w.db r.auth runId run) (hdead : run.IsDead)
    (hbound : r.operation ∈ runBoundOperations)
    (hstep : system.step w (.command env r) = some w') :
    Fenced runId w.db w'.db ↔
      (CarriedOut env r w.db w'.db → Harmless env r.operation r.payload w.db runId run) := by
  have hcarried : CarriedOut env r w.db w'.db →
      (Fenced runId w.db w'.db ↔ Harmless env r.operation r.payload w.db runId run) := by
    rintro ⟨t, t', result, hran, hrecords⟩
    obtain ⟨n, rfl⟩ := hran.start
    have hcred' : RunCredential { w.db with drawn := n } r.auth runId run :=
      ⟨hcred.stored, hcred.internal, hcred.boundTask, hcred.boundRun, hcred.fencing, hcred.grant,
        hcred.actor⟩
    exact (Fenced.iff_of_records (Respects.rel hran.run) hrecords).trans
      (handler_fenced_iff hcred' hdead hbound hran.run)
  refine ⟨fun hfenced hran ↦ (hcarried hran).mp hfenced, fun hharmless ↦ ?_⟩
  rcases step_command hstep with hrecords | hran
  · exact .of_records (hrecords.mono (by decide))
  · exact (hcarried hran).mpr (hharmless hran)

/-- The run of the sample is cancelled with its task before it was started. -/
def sampleCancelled : List Label :=
  sampleDispatched ++ [.ask (.ofHuman "owner") .cancelTask { taskId := some "task_i" }]

/-- The run reports a model call. -/
def sampleUsage : Label :=
  .ask sampleRuntime .recordModelUsage { runId := some "run_iiiiiiiiii" }

/-- The run reports that it is alive. -/
def sampleHeartbeat : Label :=
  .ask sampleRuntime .heartbeat { runId := some "run_iiiiiiiiii", fencingEpoch := some 1 }

/-- What the credential of the run of the sample is compared with, its status, and the model calls
of its task. -/
def sampleSpent (w : World) :
    Option (String × Nat × Nat × String × AgentRunStatus) × Option Int :=
  ((w.db.agentRuns.find? "run_iiiiiiiiii").map fun r ↦
      (r.taskId, r.fencingEpoch, r.grantEpoch, r.agentInstanceId, r.status),
    (w.db.tasks.find? "task_i").map TaskRow.modelCallsUsed)

theorem sampleCancelled_view :
    (system.exec system.init sampleCancelled).bind (fun w ↦
      (system.step w sampleUsage).bind fun w₁ ↦
        (system.step w sampleHeartbeat).map fun w₂ ↦
          (sampleSpent w, (sampleSpent w₁).2, w₂.executed == w.executed)) =
      some ((some ("task_i", 1, 0, "local:run_iiiiiiiiii", .cancelled), some 0), some 1, false) := by
  decide +kernel

theorem sampleSpent_credential {used : Option Int}
    (h : sampleSpent w = (some ("task_i", 1, 0, "local:run_iiiiiiiiii", .cancelled), used)) :
    ∃ run, RunCredential w.db sampleRuntime "run_iiiiiiiiii" run ∧ run.IsDead := by
  simp only [sampleSpent, Prod.mk.injEq, Option.map_eq_some_iff] at h
  obtain ⟨⟨run, hrun, htask, hfencing, hgrant, hactor, hstatus⟩, -⟩ := h
  refine ⟨run, ⟨hrun, rfl, ?_, rfl, ?_, ?_, ?_⟩, .inl hstatus⟩
  · rw [htask]
    rfl
  · rw [hfencing]
    rfl
  · rw [hgrant]
    rfl
  · rw [hactor]
    rfl

/-- The run of the sample is cancelled, and with its credential a model call of its task is
spent. -/
theorem sampleCancelled_spends :
    ∃ w w' run, system.Reachable w ∧ RunCredential w.db sampleRuntime "run_iiiiiiiiii" run ∧
      run.status = .cancelled ∧ system.step w sampleUsage = some w' ∧
      (w.db.tasks.find? "task_i").map TaskRow.modelCallsUsed = some 0 ∧
      (w'.db.tasks.find? "task_i").map TaskRow.modelCallsUsed = some 1 ∧
      ¬Fenced "run_iiiiiiiiii" w.db w'.db := by
  obtain ⟨w, hexec, hrest⟩ := Option.bind_eq_some_iff.mp sampleCancelled_view
  obtain ⟨w', hstep, hrest'⟩ := Option.bind_eq_some_iff.mp hrest
  obtain ⟨w₂, -, hview⟩ := Option.map_eq_some_iff.mp hrest'
  simp only [Prod.mk.injEq] at hview
  obtain ⟨hspent, hused', -⟩ := hview
  obtain ⟨run, hcred, -⟩ := sampleSpent_credential hspent
  simp only [sampleSpent, Prod.mk.injEq, hcred.stored, Option.map_some, Option.some.injEq]
    at hspent hused'
  obtain ⟨⟨-, -, -, -, hstatus⟩, hused⟩ := hspent
  refine ⟨w, w', run, .of_exec hexec, hcred, hstatus, hstep, hused, hused', fun hfenced ↦ ?_⟩
  have htasks : w.db.tasks = w'.db.tasks := (hfenced.tables .tasks).2 (by decide)
  rw [← htasks, hused] at hused'
  cases hused'

/-- A heartbeat of the run of the sample is fenced. -/
theorem dead_run_fenced_iff_sampleCancelled :
    ∃ w w', system.exec system.init sampleCancelled = some w ∧
      system.step w sampleHeartbeat = some w' ∧ w'.executed ≠ w.executed ∧
      Fenced "run_iiiiiiiiii" w.db w'.db := by
  obtain ⟨w, hexec, hrest⟩ := Option.bind_eq_some_iff.mp sampleCancelled_view
  obtain ⟨_, -, hrest'⟩ := Option.bind_eq_some_iff.mp hrest
  obtain ⟨w', hstep, hview⟩ := Option.map_eq_some_iff.mp hrest'
  simp only [Prod.mk.injEq] at hview
  obtain ⟨hspent, -, hexecuted⟩ := hview
  obtain ⟨run, hcred, hdead⟩ := sampleSpent_credential hspent
  refine ⟨w, w', hexec, hstep, by simpa using hexecuted, ?_⟩
  exact (dead_run_fenced_iff hcred hdead (by decide) hstep).mpr fun _ ↦ trivial

end HibikiCore
