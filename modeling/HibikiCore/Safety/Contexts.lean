import Mathlib
import HibikiCore.Application.Materializing
import HibikiCore.Application.Totality
import HibikiCore.Safety.DeadRuns

/-!
# What a run was given to read

An append records the hash of what the service read, and a materialization reads the reference once
more and compares. The first reading may be limited, the second one is not; and for a file of the
workspace the caller may name the hash that is compared. `contextAppend_agrees_iff` says which
appends can be materialized: those of artifacts, and those of files that the limit does not cut and
for which the caller names no other hash.
-/

namespace HibikiCore

set_option synthInstance.maxSize 100000000
set_option synthInstance.maxHeartbeats 400000

variable {codec : Codec} {files : Storage} {env : Env} {auth : AuthContext} {p : Payload}
  {runId ref : String} {run : AgentRunRow} {s s' t : DB} {result : CommandResult}
  {row : ContextAppendRow} {whole bytes : List UInt8}

/-! ## References -/

/-- What a reference of a run holds: an artifact of its task, or a file of its workspace. -/
inductive RefersTo (codec : Codec) (files : Storage) (env : Env) (s : DB) (runId : String)
    (run : AgentRunRow) (ref : String) (whole : List UInt8) : Prop
  | artifact (named : ref.startsWith "artifact://" = true)
      (held : ArtifactHeld codec files s run.taskId (ref.drop 11).toString whole)
  | file (named : ref.startsWith "artifact://" = false) (relative : looksLikeRelativePath ref = true)
      {wsId : String}
      (workspace : (s.runInputs.find? runId).bind (fun i ↦ truthy i.workspaceId) = some wsId)
      (accessible : WorkspaceAccessible s runId run wsId) (root : env.workspaceRoot.isSome = true)
      (file : files.file wsId ref = .ok whole)

/-- A reference holds one content. -/
theorem RefersTo.unique (h : RefersTo codec files env s runId run ref whole)
    (h' : RefersTo codec files env s runId run ref bytes) : whole = bytes := by
  cases h with
  | artifact named held =>
    cases h' with
    | artifact _ held' => exact Except.ok.inj (held.stored.symm.trans held'.stored)
    | file named' =>
      rw [named] at named'
      cases named'
  | file named _ workspace _ _ file =>
    cases h' with
    | artifact named' =>
      rw [named] at named'
      cases named'
    | file _ _ workspace' _ _ file' =>
      rw [workspace] at workspace'
      cases workspace'
      exact Except.ok.inj (file.symm.trans file')

/-- Reading the reference of an append, and only this, is left alone by what records it. -/
theorem RefersTo.of_writes (hw : Writes [.contextAppends, .events] s s') :
    RefersTo codec files env s' runId run ref whole ↔
      RefersTo codec files env s runId run ref whole := by
  have hartifacts : s'.artifacts = s.artifacts := ((hw .artifacts).2 (by decide)).symm
  have hinputs : s'.runInputs = s.runInputs := ((hw .runInputs).2 (by decide)).symm
  have hworkspaces : s'.workspaces = s.workspaces := ((hw .workspaces).2 (by decide)).symm
  constructor
  · rintro (⟨named, held⟩ | ⟨named, relative, workspace, accessible, root, file⟩)
    · exact .artifact named ⟨hartifacts ▸ held.registered, held.stored, held.hash⟩
    · exact .file named relative (hinputs ▸ workspace)
        ⟨hworkspaces ▸ accessible.found, accessible.live⟩ root file
  · rintro (⟨named, held⟩ | ⟨named, relative, workspace, accessible, root, file⟩)
    · exact .artifact named ⟨hartifacts.symm ▸ held.registered, held.stored, held.hash⟩
    · exact .file named relative (hinputs.symm ▸ workspace)
        ⟨hworkspaces.symm ▸ accessible.found, accessible.live⟩ root file

/-- What an append reads of a content: the limit is one for files only. -/
def readUnder (ref : String) (maxBytes : Option Nat) (whole : List UInt8) : List UInt8 :=
  if ref.startsWith "artifact://" then whole else limited maxBytes whole

/-- An append reads the hash and the size of what its reference holds. -/
theorem readAppendedRef_reading {maxBytes : Option Nat}
    (href : RefersTo codec files env s runId run ref whole) :
    readAppendedRef (env.reading codec files) runId run ref maxBytes s =
      .ok (some (codec.content (readUnder ref maxBytes whole)), s) := by
  rw [readAppendedRef, Tx.get_bind_ok]
  cases href with
  | artifact named held =>
    rw [if_pos named, readUnder, if_pos named]
    have hread : readTaskArtifactBytes (env.reading codec files) s run.taskId
        (ref.drop 11).toString = .ok (codec.content whole) := by
      rw [readTaskArtifactBytes_reading, readTaskArtifactContent_ok.mpr ⟨whole, rfl, held⟩]
      rfl
    exact Tx.bind_ok.mpr ⟨_, s, Tx.mapError_ok.mpr (Tx.lift_ok.mpr ⟨hread, rfl⟩),
      Tx.pure_ok.mpr ⟨rfl, rfl⟩⟩
  | @file named relative wsId workspace accessible root file =>
    have hnot : ¬ref.startsWith "artifact://" = true := by
      rw [named]
      exact Bool.false_ne_true
    have hinput : (s.runInputs.find? runId).isSome = true := by
      cases hrow : s.runInputs.find? runId with
      | none =>
        rw [hrow] at workspace
        cases workspace
      | some input => rfl
    rw [if_neg hnot, if_pos (by rw [hinput, relative]; rfl), readUnder, if_neg hnot]
    have hread : readWorkspaceBytes (env.reading codec files) runId run ref wsId maxBytes s =
        .ok (codec.content (limited maxBytes whole), s) :=
      readWorkspaceBytes_reading.mpr ⟨_, readWorkspaceContent_ok.mpr
        ⟨accessible, root, ⟨whole, file, rfl⟩, rfl⟩, rfl⟩
    exact Tx.bind_ok.mpr ⟨wsId, s, Tx.require_ok.mpr ⟨workspace, rfl⟩, Tx.bind_ok.mpr
      ⟨_, s, Tx.mapError_ok.mpr hread, Tx.pure_ok.mpr ⟨rfl, rfl⟩⟩⟩

/-! ## Materializing -/

/-- A runtime that is bound to a run, as it is checked without an epoch in the payload. -/
theorem assertRunWriteBinding_unfenced {task : TaskRow} {t r : Option String} {epoch : Option Nat}
    (htask : s.tasks.find? run.taskId = some task)
    (hbound : RunBound auth runId run task t r epoch) :
    assertRunWriteBinding auth runId run none (some runId) none false s = .ok ((), s) := by
  rw [assertRunWriteBinding, Tx.bind_of_ok (getTask_ok.mpr ⟨htask, rfl⟩),
    Tx.bind_of_ok (Tx.check_ok (u := ()).mpr ⟨hbound.principal, rfl⟩)]
  refine Tx.bind_ok.mpr ⟨(), s, Tx.when_ok.mpr (.inr ⟨by decide, rfl⟩), ?_⟩
  refine Tx.bind_ok.mpr ⟨(), s, Tx.check_ok.mpr ⟨rfl, rfl⟩, ?_⟩
  refine Tx.bind_ok.mpr ⟨(), s, Tx.check_ok.mpr ⟨by simp, rfl⟩, ?_⟩
  exact Tx.check_ok.mpr ⟨hbound.runtime, rfl⟩

/-- The hash that a materialization compares with. -/
def ContextAppendRow.expectedHash (row : ContextAppendRow) : Option String :=
  truthy row.materializedHash <|> truthy row.contentHash

/-- A runtime may materialize appends of its run. -/
def MayMaterialize (auth : AuthContext) (s : DB) (runId : String) (run : AgentRunRow) : Prop :=
  s.agentRuns.find? runId = some run ∧
    assertRunWriteBinding auth runId run none (some runId) none false s = .ok ((), s)

/-- What is materialized is the content of the reference, if its hash is the recorded one. -/
theorem materializeContextAppend_ok {m : Materialized} (hmay : MayMaterialize auth s runId run)
    (hkind : row.authorizedRef.startsWith "artifact://" = true ∨
      looksLikeRelativePath row.authorizedRef = true) :
    materializeContextAppend codec files env auth runId row s = .ok (m, s') ↔
      s' = s ∧ ∃ whole, RefersTo codec files env s runId run row.authorizedRef whole ∧
        m = judgeContent codec row.authorizedRef row.expectedHash (whole, codec.sha256 whole) := by
  rw [materializeContextAppend, Tx.bind_of_ok (getRun_ok.mpr ⟨hmay.1, rfl⟩),
    Tx.bind_of_ok hmay.2, Tx.get_bind_ok]
  by_cases hart : row.authorizedRef.startsWith "artifact://" = true
  · rw [if_pos hart]
    constructor
    · intro h
      obtain ⟨read, t₁, hlift, hpure⟩ := Tx.bind_ok.mp h
      obtain ⟨hread, rfl⟩ := Tx.lift_ok.mp hlift
      obtain ⟨hm, rfl⟩ := Tx.pure_ok.mp hpure
      obtain ⟨whole, rfl, held⟩ := readTaskArtifactContent_ok.mp hread
      refine ⟨rfl, whole, .artifact hart held, ?_⟩
      rw [hm, held.hash]
      rfl
    · rintro ⟨rfl, whole, hrefers, rfl⟩
      cases hrefers with
      | artifact _ held =>
        refine Tx.bind_ok.mpr ⟨_, _, Tx.lift_ok.mpr
          ⟨readTaskArtifactContent_ok.mpr ⟨whole, rfl, held⟩, rfl⟩, Tx.pure_ok.mpr ⟨?_, rfl⟩⟩
        rw [held.hash]
        rfl
      | file named =>
        rw [hart] at named
        cases named
  · have hrelative := hkind.resolve_left hart
    rw [if_neg hart, if_pos hrelative]
    constructor
    · intro h
      obtain ⟨wsId, t₁, hrequire, h₁⟩ := Tx.bind_ok.mp h
      obtain ⟨hws, rfl⟩ := Tx.require_ok.mp hrequire
      obtain ⟨read, t₂, hread, hpure⟩ := Tx.bind_ok.mp h₁
      obtain ⟨hm, rfl⟩ := Tx.pure_ok.mp hpure
      obtain ⟨haccess, hroot, ⟨whole, hwhole, rfl⟩, rfl⟩ := readWorkspaceContent_ok.mp hread
      exact ⟨rfl, whole, .file (by simpa using hart) hrelative hws haccess hroot hwhole, hm⟩
    · rintro ⟨rfl, whole, hrefers, rfl⟩
      cases hrefers with
      | artifact named => exact absurd named hart
      | file _ _ workspace accessible root file =>
        exact Tx.bind_ok.mpr ⟨_, _, Tx.require_ok.mpr ⟨workspace, rfl⟩, Tx.bind_ok.mpr
          ⟨_, _, readWorkspaceContent_ok.mpr ⟨accessible, root, ⟨whole, file, rfl⟩, rfl⟩,
            Tx.pure_ok.mpr ⟨rfl, rfl⟩⟩⟩

theorem judgeContent_eq_content {expected : Option String} {read : List UInt8 × String}
    {hash text : String} :
    judgeContent codec ref expected read = .content ref hash text ↔
      (∀ e ∈ expected, e = read.2) ∧ hash = read.2 ∧ text = codec.decode read.1 := by
  rw [judgeContent]
  cases hexpected : expected.filter (· ≠ read.2) with
  | some e =>
    obtain ⟨hmem, hne⟩ := Option.filter_eq_some_iff.mp hexpected
    refine ⟨fun h ↦ (nomatch h), fun h ↦ ?_⟩
    exact absurd (h.1 e hmem) (by simpa using hne)
  | none =>
    have hall : ∀ e ∈ expected, e = read.2 := by
      intro e he
      simpa using Option.filter_eq_none_iff.mp hexpected e he
    simp only [Materialized.content.injEq, true_and]
    constructor
    · rintro ⟨rfl, rfl⟩
      exact ⟨hall, rfl, rfl⟩
    · rintro ⟨-, rfl, rfl⟩
      exact ⟨rfl, rfl⟩

/-! ## Appends -/

/-- The row that an append has recorded. -/
def Appended (s s' : DB) (row : ContextAppendRow) : Prop :=
  ∃ k, s.contextAppends.find? k = none ∧ s'.contextAppends.find? k = some row

/-- What is recorded of a reference whose bytes the service has read. -/
structure Records (p : Payload) (ref : String) (content : FileContent) (row : ContextAppendRow) :
    Prop where
  named : row.authorizedRef = ref
  contentHash : row.contentHash = some content.digest
  materializedHash : row.materializedHash =
    if ref.startsWith "artifact://" then some content.digest
    else truthy p.materializedHash <|> some content.digest

/-- What an append was checked for, and the row that it added. -/
structure AppendStages (env : Env) (auth : AuthContext) (p : Payload) (s s' : DB)
    (runId ref : String) (run : AgentRunRow) (content : Option FileContent)
    (row : ContextAppendRow) : Prop where
  bound : ∃ task, s.tasks.find? run.taskId = some task ∧
    RunBound auth runId run task p.taskId p.runId p.fencingEpoch
  read : readAppendedRef env runId run ref p.maxBytes s = .ok (content, s)
  records : ∀ c, content = some c → Records p ref c row
  appended : ∀ row', Appended s s' row' ↔ row' = row
  writes : Writes [.contextAppends, .events] s s'

theorem contextAppend_stages (h : contextAppend env auth p s = .ok (result, s'))
    (hnamed : p.runId = some runId) (hfound : s.agentRuns.find? runId = some run)
    (href : p.appendedRef = some ref) :
    ∃ content row, AppendStages env auth p s s' runId ref run content row := by
  rw [contextAppend] at h
  obtain ⟨_, t₁, hkey, h₁⟩ := Tx.bind_ok.mp h
  obtain ⟨hnamed', rfl⟩ := key_ok.mp hkey
  rw [hnamed] at hnamed'
  cases hnamed'
  obtain ⟨_, t₂, hget, h₂⟩ := Tx.bind_ok.mp h₁
  obtain ⟨hfound', rfl⟩ := getRun_ok.mp hget
  rw [hfound] at hfound'
  cases hfound'
  obtain ⟨_, t₃, hbinding, h₃⟩ := Tx.bind_ok.mp h₂
  obtain ⟨rfl, task, htask, hbound⟩ := assertRunWriteBinding_ok.mp hbinding
  obtain ⟨_, t₄, hgetTask, h₄⟩ := Tx.bind_ok.mp h₃
  obtain ⟨-, rfl⟩ := getTask_ok.mp hgetTask
  obtain ⟨_, t₅, hcheck₅, h₅⟩ := Tx.bind_ok.mp h₄
  obtain ⟨-, rfl⟩ := Tx.check_ok.mp hcheck₅
  obtain ⟨_, t₆, hreason, h₆⟩ := Tx.bind_ok.mp h₅
  obtain ⟨-, rfl⟩ := Tx.require_ok.mp hreason
  obtain ⟨_, t₇, hrequire, h₇⟩ := Tx.bind_ok.mp h₆
  obtain ⟨href', rfl⟩ := Tx.require_ok.mp hrequire
  rw [href] at href'
  cases href'
  obtain ⟨content, t₈, hread, h₈⟩ := Tx.bind_ok.mp h₇
  obtain rfl : t₇ = t₈ := readAppendedRef_reads.rel hread
  obtain ⟨_, t₉, hcheck₉, h₉⟩ := Tx.bind_ok.mp h₈
  obtain ⟨-, rfl⟩ := Tx.check_ok.mp hcheck₉
  rw [Tx.get_bind_ok] at h₉
  obtain ⟨appendId, u₁, hid, h₁₀⟩ := Tx.bind_ok.mp h₉
  obtain ⟨-, rfl⟩ := newId_ok.mp hid
  obtain ⟨_, u₂, hinserts, h₁₁⟩ := Tx.bind_ok.mp h₁₀
  obtain ⟨row, hrecords, hadd⟩ : ∃ row, (∀ c, content = some c → Records p ref c row) ∧
      add Refs.contextAppends appendId row _ = .ok ((), u₂) :=
    ⟨_, by rintro c rfl; exact ⟨rfl, rfl, rfl⟩, hinserts⟩
  obtain ⟨hnone, hinsert⟩ := Ref.insert_ok.mp hadd
  have hafter : Writes [.events] u₂ s' := Respects.rel h₁₁
  have hrows : s'.contextAppends = u₂.contextAppends :=
    ((hafter .contextAppends).2 (by decide)).symm
  have hnone' : t₉.contextAppends.find? appendId = none := hnone
  have hfind := Table.find?_insert hnone'
  have hbefore : Writes [.contextAppends] t₉ u₂ := by
    have hadds : Writes [.contextAppends] { t₉ with drawn := t₉.drawn + 1 } u₂ :=
      Respects.rel hadd
    exact Preord.trans (writes_drawn _ _) hadds
  refine ⟨content, row, ⟨task, htask, hbound⟩, hread, hrecords, ?_,
    Preord.trans (hbefore.mono (by decide)) (hafter.mono (by decide))⟩
  intro row'
  rw [Appended, hrows, hinsert]
  constructor
  · rintro ⟨k, hk, hrow'⟩
    have hrow'' := (hfind row k).symm.trans hrow'
    by_cases hsame : k = appendId
    · rw [if_pos hsame] at hrow''
      exact (Option.some.inj hrow'').symm
    · rw [if_neg hsame] at hrow''
      rw [hrow''] at hk
      cases hk
  · rintro rfl
    exact ⟨appendId, hnone', (hfind row' appendId).trans (if_pos rfl)⟩

/-- Who has appended may materialize. -/
theorem AppendStages.mayMaterialize {content : Option FileContent}
    (hstages : AppendStages env auth p s s' runId ref run content row)
    (hfound : s.agentRuns.find? runId = some run) : MayMaterialize auth s' runId run := by
  obtain ⟨task, htask, hbound⟩ := hstages.bound
  have htasks : s'.tasks = s.tasks := ((hstages.writes .tasks).2 (by decide)).symm
  have hruns : s'.agentRuns = s.agentRuns := ((hstages.writes .agentRuns).2 (by decide)).symm
  exact ⟨hruns ▸ hfound, assertRunWriteBinding_unfenced (htasks ▸ htask) hbound⟩

/-! ## Agreement -/

/-- What was recorded of a reference agrees with what was read of it: the recorded hashes are those
of the bytes that were read, their text is materialized as long as the reference holds the same
content, and nothing is once it holds none with that hash. -/
structure AppendAgrees (codec : Codec) (env : Env) (auth : AuthContext) (s' : DB)
    (runId ref : String) (run : AgentRunRow) (whole bytes : List UInt8) (row : ContextAppendRow) :
    Prop where
  contentHash : row.contentHash = some (codec.sha256 bytes)
  materializedHash : row.materializedHash = some (codec.sha256 bytes)
  unchanged : ∀ files, RefersTo codec files env s' runId run ref whole →
    materializeContextAppend codec files env auth runId row s' =
      .ok (.content ref (codec.sha256 bytes) (codec.decode bytes), s')
  changed : ∀ files, (∀ whole', RefersTo codec files env s' runId run ref whole' →
      codec.sha256 whole' ≠ codec.sha256 bytes) →
    ∀ hash text t, materializeContextAppend codec files env auth runId row s' ≠
      .ok (.content ref hash text, t)

/-- Bytes that the service cannot tell apart once they are hashed and decoded. -/
def SameText (codec : Codec) (a b : List UInt8) : Prop :=
  codec.sha256 a = codec.sha256 b ∧ codec.decode a = codec.decode b

/-- An append that has recorded the hash of what it read agrees if this is the text of the whole
content. -/
theorem appendAgrees_iff_sameText (hmay : MayMaterialize auth s' runId run)
    (hnamed : row.authorizedRef = ref)
    (hkind : ref.startsWith "artifact://" = true ∨ looksLikeRelativePath ref = true)
    (hrefers : RefersTo codec files env s' runId run ref whole)
    (hcontent : row.contentHash = some (codec.sha256 bytes))
    (hmaterialized : row.materializedHash = some (codec.sha256 bytes)) :
    AppendAgrees codec env auth s' runId ref run whole bytes row ↔ SameText codec bytes whole := by
  have hexpected : row.expectedHash = some (codec.sha256 bytes) := by
    rw [ContextAppendRow.expectedHash, hmaterialized,
      truthy_eq_some.mpr ⟨rfl, codec.sha256_ne bytes⟩]
    rfl
  have hread (files : Storage) (m : Materialized) (t : DB) :
      materializeContextAppend codec files env auth runId row s' = .ok (m, t) ↔
        t = s' ∧ ∃ whole, RefersTo codec files env s' runId run ref whole ∧
          m = judgeContent codec ref (some (codec.sha256 bytes)) (whole, codec.sha256 whole) := by
    rw [← hexpected, ← hnamed]
    exact materializeContextAppend_ok hmay (hnamed ▸ hkind)
  constructor
  · intro hagrees
    obtain ⟨-, whole', hwhole', hjudged⟩ := (hread files _ _).mp (hagrees.unchanged files hrefers)
    obtain rfl := hrefers.unique hwhole'
    obtain ⟨-, hhash, htext⟩ := judgeContent_eq_content.mp hjudged.symm
    exact ⟨hhash, htext⟩
  · rintro ⟨hhash, htext⟩
    refine ⟨hcontent, hmaterialized, fun files' hrefers' ↦ ?_,
      fun files' hchanged hash text t h ↦ ?_⟩
    · refine (hread files' _ _).mpr ⟨rfl, whole, hrefers', (judgeContent_eq_content.mpr ?_).symm⟩
      exact ⟨fun e he ↦ (Option.some.inj he).symm.trans hhash, hhash, htext⟩
    · obtain ⟨-, whole', hwhole', hjudged⟩ := (hread files' _ _).mp h
      obtain ⟨hsame, -⟩ := judgeContent_eq_content.mp hjudged.symm
      exact hchanged whole' hwhole' (hsame _ rfl).symm

/-- An append agrees exactly when it is one of an artifact, or the caller names no other hash and
what the limit leaves of the file cannot be told apart from all of it. -/
theorem contextAppend_agrees_iff (codec : Codec) (files : Storage) (env : Env) (auth : AuthContext)
    (p : Payload) {s s' : DB} {result : CommandResult} {runId ref : String} {run : AgentRunRow}
    {whole : List UInt8} (h : contextAppend (env.reading codec files) auth p s = .ok (result, s'))
    (hnamed : p.runId = some runId) (hfound : s.agentRuns.find? runId = some run)
    (href : p.appendedRef = some ref)
    (hrefers : RefersTo codec files env s runId run ref whole) :
    ∃ row, (∀ row', Appended s s' row' ↔ row' = row) ∧
      (AppendAgrees codec env auth s' runId ref run whole (readUnder ref p.maxBytes whole) row ↔
        ref.startsWith "artifact://" = true ∨
          (∀ hash ∈ truthy p.materializedHash,
            hash = codec.sha256 (limited p.maxBytes whole)) ∧
          SameText codec (limited p.maxBytes whole) whole) := by
  obtain ⟨content, row, hstages⟩ := contextAppend_stages h hnamed hfound href
  refine ⟨row, hstages.appended, ?_⟩
  have hcontent := hstages.read.symm.trans (readAppendedRef_reading hrefers)
  have hrecords := hstages.records _ (Prod.mk.inj (Except.ok.inj hcontent)).1
  have hrefers' := (RefersTo.of_writes hstages.writes).mpr hrefers
  have hkind : ref.startsWith "artifact://" = true ∨ looksLikeRelativePath ref = true := by
    cases hrefers with
    | artifact named => exact .inl named
    | file _ relative => exact .inr relative
  have hagrees := appendAgrees_iff_sameText (hstages.mayMaterialize hfound) hrecords.named hkind
    hrefers' hrecords.contentHash
  by_cases hart : ref.startsWith "artifact://" = true
  · have hall : readUnder ref p.maxBytes whole = whole := if_pos hart
    have hmaterialized := hrecords.materializedHash
    rw [if_pos hart] at hmaterialized
    refine iff_of_true ((hagrees hmaterialized).mpr ?_) (.inl hart)
    rw [hall]
    exact ⟨rfl, rfl⟩
  · have hlimited : readUnder ref p.maxBytes whole = limited p.maxBytes whole := if_neg hart
    have hmaterialized : row.materializedHash =
        (truthy p.materializedHash <|> some (codec.sha256 (limited p.maxBytes whole))) := by
      rw [hrecords.materializedHash, if_neg hart, hlimited]
      rfl
    rw [hlimited] at hagrees ⊢
    constructor
    · intro h
      refine .inr ⟨fun hash hhash ↦ ?_, (hagrees h.materializedHash).mp h⟩
      have hrecorded := h.materializedHash
      rw [hmaterialized, Option.mem_def.mp hhash] at hrecorded
      exact Option.some.inj hrecorded
    · rintro (h | ⟨hcaller, hsame⟩)
      · exact absurd h hart
      · refine (hagrees ?_).mpr hsame
        rw [hmaterialized]
        cases hhash : truthy p.materializedHash with
        | none => rfl
        | some hash => exact congrArg some (hcaller hash hhash)

/-! ### A note of two letters -/

/-- An append is recorded if it is admitted and its reference can be read. -/
theorem contextAppend_runs {task : TaskRow} {reason : String} {content : Option FileContent}
    (hnamed : p.runId = some runId) (hfound : s.agentRuns.find? runId = some run)
    (htask : s.tasks.find? run.taskId = some task)
    (hbound : RunBound auth runId run task p.taskId p.runId p.fencingEpoch)
    (hstate : task.state ≠ .cancelling ∧ task.state.isTerminal = false)
    (hreason : truthy (p.reason.map stripText) = some reason)
    (href : p.appendedRef = some ref)
    (hread : readAppendedRef env runId run ref p.maxBytes s = .ok (content, s))
    (hhash : (content.all fun c ↦ p.contentHash.all (· = c.digest)) = true)
    (hfresh : s.contextAppends.find? ("ctxapp_" ++ env.uuid s.drawn) = none) :
    ∃ result s', contextAppend env auth p s = .ok (result, s') := by
  have hyields : (contextAppend env auth p).Yields s fun _ ↦ True := by
    rw [contextAppend]
    refine .bind (key_ok.mpr ⟨hnamed, rfl⟩) (.bind (getRun_ok.mpr ⟨hfound, rfl⟩) ?_)
    refine .bind (a := ()) (assertRunWriteBinding_ok.mpr ⟨rfl, task, htask, hbound⟩) ?_
    refine .bind (getTask_ok.mpr ⟨htask, rfl⟩) (.bind (a := ()) (Tx.check_ok.mpr ⟨hstate, rfl⟩) ?_)
    refine .bind (Tx.require_ok.mpr ⟨hreason, rfl⟩) (.bind (Tx.require_ok.mpr ⟨href, rfl⟩) ?_)
    refine .bind hread (.bind (a := ()) (Tx.check_ok.mpr ⟨hhash, rfl⟩) ?_)
    refine .bind (Tx.get_ok.mpr ⟨rfl, rfl⟩) (.bind (newId_ok.mpr ⟨rfl, rfl⟩) ?_)
    refine .bind (a := ()) (Ref.insert_ok.mpr ⟨hfresh, rfl⟩) ?_
    exact .seq appendEvent_yields fun _ _ _ _ ↦ .of_ok (Tx.pure_ok.mpr ⟨rfl, rfl⟩)
  obtain ⟨result, s', hruns, -⟩ := hyields
  exact ⟨result, s', hruns⟩

/-- The hashes of two short texts. -/
def sampleCodec : Codec where
  sha256 bytes :=
    if bytes = [97] then "ca978112ca1bbdcafac231b39a23dc4da786eff8147c4e72b9807785afee48bb"
    else "fb8e20fc2e4c3f248c60c39bd652f3c1347298bb977b8b4d5903b85055620603"
  decode bytes := String.ofList (bytes.map fun b ↦ Char.ofNat b.toNat)
  sha256_ne bytes := by split <;> decide

/-- A file with two letters in the workspace of a unit. -/
def sampleNotes : Storage where
  file wsId path :=
    if wsId = "ws_unit" ∧ path = "notes" then .ok [97, 98] else .error (.notFound "" "")
  stored _ := .error (.notFound "" "")

def sampleRoot : Env := { Env.silent with workspaceRoot := some "/workspaces" }

/-- The file is appended, read under a limit. -/
def sampleNote (maxBytes : Option Nat) : Payload :=
  { runId := some "run_iiiiiiiiii", fencingEpoch := some 1, reason := some "notes"
    authorizedRef := some "notes", maxBytes }

theorem sampleNote_ref (maxBytes : Option Nat) :
    (sampleNote maxBytes).appendedRef = some "notes" := by
  refine truthy_eq_some.mpr ⟨congrArg some ?_, by decide⟩
  cbv

/-- A run that was started has appended the file. -/
theorem sampleNote_appended (maxBytes : Option Nat) :
    ∃ w run result s', system.Reachable w ∧ w.db.agentRuns.find? "run_iiiiiiiiii" = some run ∧
      contextAppend (sampleRoot.reading sampleCodec sampleNotes) sampleRuntime
        (sampleNote maxBytes) w.db = .ok (result, s') ∧
      RefersTo sampleCodec sampleNotes sampleRoot w.db "run_iiiiiiiiii" run "notes" [97, 98] := by
  have hview : (system.exec system.init sampleStarted).map (fun w ↦
      ((w.db.agentRuns.find? "run_iiiiiiiiii").map fun run ↦
          (run.taskId, run.agentInstanceId, run.fencingEpoch, run.grantEpoch, run.status),
        (w.db.tasks.find? "task_i").map fun task ↦ (task.principalId, task.state),
        (w.db.runInputs.find? "run_iiiiiiiiii").bind fun i ↦ truthy i.workspaceId,
        (w.db.workspaces.find? "ws_unit").map (·.ownerRunId),
        (w.db.contextAppends.find? ("ctxapp_" ++ sampleRoot.uuid w.db.drawn)).isNone)) =
      some (some ("task_i", "local:run_iiiiiiiiii", 1, 0, .running), some ("owner", .executing),
        some "ws_unit", some (some "run_iiiiiiiiii"), true) := by
    decide +kernel
  obtain ⟨w, hw, hseen⟩ := Option.map_eq_some_iff.mp hview
  simp only [Prod.mk.injEq, Option.map_eq_some_iff, Option.isNone_iff_eq_none] at hseen
  obtain ⟨⟨run, hrun, htaskId, hinstance, hfencing, hgrant, hstatus⟩,
    ⟨task, htask, hprincipal, hstate⟩, hinput, ⟨ws, hws, howner⟩, hfresh⟩ := hseen
  have hrefers : RefersTo sampleCodec sampleNotes sampleRoot w.db "run_iiiiiiiiii" run "notes"
      [97, 98] := by
    refine .file (by decide +kernel) (by decide +kernel) hinput ⟨⟨ws, hws, ?_⟩, ?_⟩ rfl rfl
    · rw [howner]
      rfl
    · rw [hstatus]
      nofun
  have hbound : RunBound sampleRuntime "run_iiiiiiiiii" run task none (some "run_iiiiiiiiii")
      (some 1) := by
    refine ⟨hprincipal.symm, by rw [hfencing], rfl, by decide, ?_⟩
    rw [htaskId, hinstance, hfencing, hgrant]
    exact ⟨rfl, rfl, rfl, rfl, rfl⟩
  obtain ⟨result, s', happend⟩ := contextAppend_runs (p := sampleNote maxBytes) rfl hrun
    (htaskId ▸ htask) hbound (by rw [hstate]; decide)
    (truthy_eq_some.mpr ⟨congrArg some (by cbv), by decide⟩) (sampleNote_ref maxBytes)
    (readAppendedRef_reading hrefers) rfl hfresh
  exact ⟨w, run, result, s', .of_exec hw, hrun, happend, hrefers⟩

theorem contextAppend_agrees_iff_sampleNote :
    ∃ w run result s' row, system.Reachable w ∧
      contextAppend (sampleRoot.reading sampleCodec sampleNotes) sampleRuntime (sampleNote none)
        w.db = .ok (result, s') ∧ Appended w.db s' row ∧
      AppendAgrees sampleCodec sampleRoot sampleRuntime s' "run_iiiiiiiiii" "notes" run [97, 98]
        [97, 98] row := by
  obtain ⟨w, run, result, s', hw, hrun, happend, hrefers⟩ := sampleNote_appended none
  obtain ⟨row, hrow, hagrees⟩ := contextAppend_agrees_iff sampleCodec sampleNotes sampleRoot
    sampleRuntime (sampleNote none) happend rfl hrun (sampleNote_ref none) hrefers
  have hfile : "notes".startsWith "artifact://" = false := by decide +kernel
  have hread : readUnder "notes" (sampleNote none).maxBytes [97, 98] = [97, 98] := by
    rw [readUnder, hfile]
    rfl
  rw [hread] at hagrees
  exact ⟨w, run, result, s', row, hw, happend, (hrow row).mpr rfl,
    hagrees.mpr (.inr ⟨nofun, rfl, rfl⟩)⟩

/-- Of the two letters only one was read, so that what was recorded is not the hash of the file and
the file is not materialized. -/
theorem contextAppend_sampleNote :
    ∃ w run result s' row, system.Reachable w ∧
      contextAppend (sampleRoot.reading sampleCodec sampleNotes) sampleRuntime (sampleNote (some 1))
        w.db = .ok (result, s') ∧ Appended w.db s' row ∧
      RefersTo sampleCodec sampleNotes sampleRoot s' "run_iiiiiiiiii" run "notes" [97, 98] ∧
      materializeContextAppend sampleCodec sampleNotes sampleRoot sampleRuntime "run_iiiiiiiiii" row
        s' = .ok (.hashMismatch "notes" (sampleCodec.sha256 [97]) (sampleCodec.sha256 [97, 98]), s')
      ∧ ¬AppendAgrees sampleCodec sampleRoot sampleRuntime s' "run_iiiiiiiiii" "notes" run [97, 98]
        [97] row := by
  obtain ⟨w, run, result, s', hw, hrun, happend, hrefers⟩ := sampleNote_appended (some 1)
  obtain ⟨content, row, hstages⟩ := contextAppend_stages happend rfl hrun (sampleNote_ref (some 1))
  have hfile : "notes".startsWith "artifact://" = false := by decide +kernel
  have hcontent := hstages.read.symm.trans (readAppendedRef_reading hrefers)
  have hrecords := hstages.records _ (Prod.mk.inj (Except.ok.inj hcontent)).1
  have hread : readUnder "notes" (sampleNote (some 1)).maxBytes [97, 98] = [97] := by
    rw [readUnder, hfile]
    rfl
  have hmaterialized := hrecords.materializedHash
  rw [hread, hfile] at hmaterialized
  have hexpected : row.expectedHash = some (sampleCodec.sha256 [97]) := by
    rw [ContextAppendRow.expectedHash, hmaterialized]
    rfl
  have hrefers' := (RefersTo.of_writes hstages.writes).mpr hrefers
  have hmismatch : materializeContextAppend sampleCodec sampleNotes sampleRoot sampleRuntime
      "run_iiiiiiiiii" row s' =
        .ok (.hashMismatch "notes" (sampleCodec.sha256 [97]) (sampleCodec.sha256 [97, 98]), s') := by
    refine (materializeContextAppend_ok (hstages.mayMaterialize hrun) ?_).mpr ⟨rfl, [97, 98], ?_, ?_⟩
    · rw [hrecords.named]
      exact .inr (by decide +kernel)
    · rw [hrecords.named]
      exact hrefers'
    · rw [hrecords.named, hexpected]
      rfl
  refine ⟨w, run, result, s', row, hw, happend, (hstages.appended row).mpr rfl, hrefers', hmismatch,
    fun hagrees ↦ ?_⟩
  have hanswer := hmismatch.symm.trans (hagrees.unchanged sampleNotes hrefers')
  cases hanswer

end HibikiCore
