import HibikiCore.Application.Results

/-!
# Materializing what was appended

An append to the context of a run names what was read and keeps its hash. When the run is to be
given the text, the reference is read again, and the text is refused if its hash is not the one that
was recorded.

The hash function, the decoding of bytes and the files are parameters. `Env.reading` gives the
service an environment that reads them.
-/

namespace HibikiCore

/-- What is computed of bytes: SHA-256, in hexadecimal digits, and UTF-8 decoding that replaces what
it cannot decode. -/
structure Codec where
  sha256 : List UInt8 → String
  decode : List UInt8 → String
  sha256_ne : ∀ bytes, sha256 bytes ≠ ""

/-- The files that the service may read. -/
structure Storage where
  /-- A file in a workspace, by workspace and path. -/
  file : String → String → Except Error (List UInt8)
  /-- A stored object, by digest. -/
  stored : String → Except Error (List UInt8)

/-- What is read of a file under a limit. -/
def limited (maxBytes : Option Nat) (bytes : List UInt8) : List UInt8 :=
  match maxBytes with
  | none => bytes
  | some n => bytes.take n

def Codec.content (codec : Codec) (bytes : List UInt8) : FileContent :=
  ⟨codec.sha256 bytes, bytes.length⟩

/-- An environment that reads these files. -/
def Env.reading (env : Env) (codec : Codec) (files : Storage) : Env :=
  { env with
    readWorkspace := fun wsId path maxBytes ↦
      (files.file wsId path).map fun bytes ↦ codec.content (limited maxBytes bytes)
    readStore := fun digest ↦ (files.stored digest).map codec.content }

variable (codec : Codec) (files : Storage)

/-- `_read_workspace_bytes`: a file in the workspace of a run, and its hash -/
def readWorkspaceContent (env : Env) (runId : String) (run : AgentRunRow) (path wsId : String)
    (maxBytes : Option Nat) : Core (List UInt8 × String) := do
  assertWorkspaceAccessibleByRun runId run wsId
  Tx.check (env.workspaceRoot.isSome = true)
    (.precondition "workspace_missing" "workspace root not configured")
  let bytes ← Tx.lift (files.file wsId path)
  return (limited maxBytes bytes, codec.sha256 (limited maxBytes bytes))

/-- `_read_task_artifact_bytes`: the bytes of an artifact of the task, and their hash -/
def readTaskArtifactContent (db : DB) (taskId digest : String) :
    Except Error (List UInt8 × String) := do
  let uri ← match (db.artifacts.find? (taskId, digest)).bind fun a ↦ truthy a.artifactUri with
    | some uri => .ok uri
    | none => .error (.notFound "artifact_not_owned" "artifact not registered for this task")
  if uri ≠ "artifact://" ++ digest then
    .error (.precondition "artifact_uri_mismatch" "registered artifact uri does not match digest")
  let bytes ← files.stored digest
  if codec.sha256 bytes ≠ digest then
    .error (.conflict "artifact_hash_mismatch" "artifact content hash mismatch")
  return (bytes, digest)

/-- What a materialization answers. -/
inductive Materialized
  | unsupportedRef (authorizedRef : String)
  | hashMismatch (authorizedRef expectedHash actualHash : String)
  | content (authorizedRef materializedHash text : String)
  deriving DecidableEq, Repr

/-- The bytes are decoded, unless another hash was recorded. -/
def judgeContent (ref : String) (expected : Option String) (read : List UInt8 × String) :
    Materialized :=
  match expected.filter (· ≠ read.2) with
  | some hash => .hashMismatch ref hash read.2
  | none => .content ref read.2 (codec.decode read.1)

def materializeContextAppend (env : Env) (auth : AuthContext) (runId : String)
    (append : ContextAppendRow) : Core Materialized := do
  let run ← getRun runId
  assertRunWriteBinding auth runId run none (some runId) none false
  let ref := append.authorizedRef
  let expected := truthy append.materializedHash <|> truthy append.contentHash
  let db ← get
  if ref.startsWith "artifact://" then do
    let read ← Tx.lift (readTaskArtifactContent codec files db run.taskId (ref.drop 11).toString)
    return judgeContent codec ref expected read
  else if looksLikeRelativePath ref then do
    let wsId ← Tx.require ((db.runInputs.find? runId).bind fun i ↦ truthy i.workspaceId)
      (.precondition "workspace_missing" "run has no workspace")
    let read ← readWorkspaceContent codec files env runId run ref wsId none
    return judgeContent codec ref expected read
  else return .unsupportedRef ref

/-! ## What is read -/

variable {codec files} {env : Env} {auth : AuthContext} {runId path wsId taskId digest : String}
  {run : AgentRunRow} {maxBytes : Option Nat} {s s' : DB}

/-- A workspace that a run may touch. -/
structure WorkspaceAccessible (s : DB) (runId : String) (run : AgentRunRow) (wsId : String) :
    Prop where
  found : ∃ ws, s.workspaces.find? wsId = some ws ∧ ws.ownerRunId.all (· = runId) = true
  live : run.status ≠ .cancelled

theorem assertWorkspaceAccessibleByRun_ok :
    assertWorkspaceAccessibleByRun runId run wsId s = .ok ((), s') ↔
      WorkspaceAccessible s runId run wsId ∧ s' = s := by
  rw [assertWorkspaceAccessibleByRun, Tx.get_bind_ok]
  constructor
  · intro h
    obtain ⟨ws, t₁, hrequire, h₁⟩ := Tx.bind_ok.mp h
    obtain ⟨hws, rfl⟩ := Tx.require_ok.mp hrequire
    obtain ⟨_, t₂, hcheck₁, hcheck⟩ := Tx.bind_ok.mp h₁
    obtain ⟨howner, rfl⟩ := Tx.check_ok.mp hcheck₁
    obtain ⟨hlive, rfl⟩ := Tx.check_ok.mp hcheck
    exact ⟨⟨⟨ws, hws, howner⟩, hlive⟩, rfl⟩
  · rintro ⟨⟨⟨ws, hws, howner⟩, hlive⟩, rfl⟩
    exact Tx.bind_ok.mpr ⟨ws, _, Tx.require_ok.mpr ⟨hws, rfl⟩, Tx.bind_ok.mpr
      ⟨(), _, Tx.check_ok.mpr ⟨howner, rfl⟩, Tx.check_ok.mpr ⟨hlive, rfl⟩⟩⟩

theorem readWorkspaceContent_ok {read : List UInt8 × String} :
    readWorkspaceContent codec files env runId run path wsId maxBytes s = .ok (read, s') ↔
      WorkspaceAccessible s runId run wsId ∧ env.workspaceRoot.isSome = true ∧
        (∃ bytes, files.file wsId path = .ok bytes ∧
          read = (limited maxBytes bytes, codec.sha256 (limited maxBytes bytes))) ∧ s' = s := by
  rw [readWorkspaceContent]
  constructor
  · intro h
    obtain ⟨_, t₁, hassert, h₁⟩ := Tx.bind_ok.mp h
    obtain ⟨haccess, rfl⟩ := assertWorkspaceAccessibleByRun_ok.mp hassert
    obtain ⟨_, t₂, hcheck, h₂⟩ := Tx.bind_ok.mp h₁
    obtain ⟨hroot, rfl⟩ := Tx.check_ok.mp hcheck
    obtain ⟨bytes, t₃, hlift, hpure⟩ := Tx.bind_ok.mp h₂
    obtain ⟨hbytes, rfl⟩ := Tx.lift_ok.mp hlift
    obtain ⟨hread, rfl⟩ := Tx.pure_ok.mp hpure
    exact ⟨haccess, hroot, ⟨bytes, hbytes, hread⟩, rfl⟩
  · rintro ⟨haccess, hroot, ⟨bytes, hbytes, rfl⟩, rfl⟩
    exact Tx.bind_ok.mpr ⟨(), _, assertWorkspaceAccessibleByRun_ok.mpr ⟨haccess, rfl⟩,
      Tx.bind_ok.mpr ⟨(), _, Tx.check_ok.mpr ⟨hroot, rfl⟩, Tx.bind_ok.mpr
        ⟨bytes, _, Tx.lift_ok.mpr ⟨hbytes, rfl⟩, Tx.pure_ok.mpr ⟨rfl, rfl⟩⟩⟩⟩

/-- With these files, an append reads the hash and the size of what a materialization would read
under the same limit. -/
theorem readWorkspaceBytes_reading {content : FileContent} :
    readWorkspaceBytes (env.reading codec files) runId run path wsId maxBytes s =
        .ok (content, s') ↔
      ∃ bytes, readWorkspaceContent codec files env runId run path wsId maxBytes s =
        .ok ((bytes, codec.sha256 bytes), s') ∧ content = codec.content bytes := by
  rw [readWorkspaceBytes]
  constructor
  · intro h
    obtain ⟨_, t₁, hassert, h₁⟩ := Tx.bind_ok.mp h
    obtain ⟨haccess, rfl⟩ := assertWorkspaceAccessibleByRun_ok.mp hassert
    obtain ⟨_, t₂, hcheck, hlift⟩ := Tx.bind_ok.mp h₁
    obtain ⟨hroot, rfl⟩ := Tx.check_ok.mp hcheck
    obtain ⟨hread, rfl⟩ := Tx.lift_ok.mp hlift
    cases hbytes : files.file wsId path with
    | error e => simp [Env.reading, hbytes, Except.map] at hread
    | ok bytes =>
      have hcontent : content = codec.content (limited maxBytes bytes) := by
        simpa [Env.reading, hbytes, Except.map, eq_comm] using hread
      exact ⟨_, readWorkspaceContent_ok.mpr ⟨haccess, hroot, ⟨bytes, hbytes, rfl⟩, rfl⟩, hcontent⟩
  · rintro ⟨bytes, hread, rfl⟩
    obtain ⟨haccess, hroot, ⟨whole, hbytes, hpair⟩, rfl⟩ := readWorkspaceContent_ok.mp hread
    obtain ⟨rfl, -⟩ := Prod.mk.inj hpair
    have hlimited : (env.reading codec files).readWorkspace wsId path maxBytes =
        .ok (codec.content (limited maxBytes whole)) := by
      simp [Env.reading, hbytes, Except.map]
    exact Tx.bind_ok.mpr ⟨(), _, assertWorkspaceAccessibleByRun_ok.mpr ⟨haccess, rfl⟩,
      Tx.bind_ok.mpr ⟨(), _, Tx.check_ok.mpr ⟨hroot, rfl⟩, Tx.lift_ok.mpr ⟨hlimited, rfl⟩⟩⟩

/-- An artifact of the task under its digest, whose bytes have that hash. -/
structure ArtifactHeld (codec : Codec) (files : Storage) (s : DB) (taskId digest : String)
    (bytes : List UInt8) : Prop where
  registered : (s.artifacts.find? (taskId, digest)).bind (fun a ↦ truthy a.artifactUri) =
    some ("artifact://" ++ digest)
  stored : files.stored digest = .ok bytes
  hash : codec.sha256 bytes = digest

theorem readTaskArtifactContent_ok {read : List UInt8 × String} :
    readTaskArtifactContent codec files s taskId digest = .ok read ↔
      ∃ bytes, read = (bytes, digest) ∧ ArtifactHeld codec files s taskId digest bytes := by
  rw [readTaskArtifactContent]
  cases huri : (s.artifacts.find? (taskId, digest)).bind fun a ↦ truthy a.artifactUri with
  | none =>
    refine ⟨fun h ↦ (nomatch h), ?_⟩
    rintro ⟨bytes, -, ⟨hregistered, -, -⟩⟩
    rw [huri] at hregistered
    cases hregistered
  | some uri =>
    by_cases hsame : uri = "artifact://" ++ digest
    · subst hsame
      cases hstored : files.stored digest with
      | error e =>
        simp only [bind, Except.bind, ne_eq, not_true_eq_false, if_false]
        refine ⟨fun h ↦ (nomatch h), ?_⟩
        rintro ⟨bytes, -, ⟨-, hbytes, -⟩⟩
        rw [hstored] at hbytes
        cases hbytes
      | ok bytes =>
        by_cases hhash : codec.sha256 bytes = digest
        · simp only [bind, Except.bind, ne_eq, not_true_eq_false, if_false, hhash]
          constructor
          · intro h
            cases h
            exact ⟨bytes, rfl, huri, hstored, hhash⟩
          · rintro ⟨bytes', rfl, ⟨-, hbytes, -⟩⟩
            rw [hstored] at hbytes
            cases hbytes
            rfl
        · simp only [bind, Except.bind, ne_eq, not_true_eq_false, if_false, hhash,
            not_false_eq_true, if_true]
          refine ⟨fun h ↦ (nomatch h), ?_⟩
          rintro ⟨bytes', -, ⟨-, hbytes, hhash'⟩⟩
          rw [hstored] at hbytes
          cases hbytes
          exact absurd hhash' hhash
    · simp only [bind, Except.bind, ne_eq, hsame, not_false_eq_true, if_true]
      refine ⟨fun h ↦ (nomatch h), ?_⟩
      rintro ⟨bytes, -, ⟨hregistered, -, -⟩⟩
      rw [huri] at hregistered
      exact absurd (Option.some.inj hregistered) hsame

/-- With these files, an append reads the hash and the size of what a materialization would read. -/
theorem readTaskArtifactBytes_reading :
    readTaskArtifactBytes (env.reading codec files) s taskId digest =
      (readTaskArtifactContent codec files s taskId digest).map fun read ↦
        codec.content read.1 := by
  rw [readTaskArtifactBytes, readTaskArtifactContent]
  cases (s.artifacts.find? (taskId, digest)).bind fun a ↦ truthy a.artifactUri with
  | none => rfl
  | some uri =>
    by_cases hsame : uri = "artifact://" ++ digest
    · cases hstored : files.stored digest with
      | error e => simp [hsame, hstored, Env.reading, bind, Except.bind, Except.map]
      | ok bytes =>
        by_cases hhash : codec.sha256 bytes = digest
        · simp [hsame, hstored, hhash, Env.reading, Codec.content, bind, Except.bind, Except.map,
            pure, Except.pure]
        · simp [hsame, hstored, hhash, Env.reading, Codec.content, bind, Except.bind, Except.map]
    · simp [hsame, bind, Except.bind, Except.map]

end HibikiCore
