import HibikiCore.Store.Disk
import HibikiCore.Safety.DeadRuns
import HibikiCore.Safety.LostRuns

/-!
# The artifact store

A publication writes an object under its digest and then commits a row that refers to it. The
object is written as a temporary file and renamed; if there is a file under the digest, it is taken
for the object. Nothing is written back on purpose: what a crash leaves of an object is up to the
system, and the row that refers to it survives.

The service and the store run on one `Host`. A transaction that publishes commits when the store has
the object, and no other one runs meanwhile.
-/

namespace HibikiCore

/-! ## Objects and their addresses -/

abbrev Bytes := List UInt8

/-- `^[0-9a-f]{64}$`. -/
def isSha256Hex (s : String) : Bool :=
  s.toList.length == 64 && s.toList.all fun c ↦ c.isDigit || ('a' ≤ c && c ≤ 'f')

/-- The digest that an address names. -/
def artifactDigest (uri : String) : Option String :=
  (("artifact://".toList.isPrefixOf? uri.toList).map String.ofList).filter isSha256Hex

/-- The files of the store: the object with a digest is under the digest, and what it is written to
first is under the digest with the suffix `.tmp`. -/
inductive ObjectName
  | object (digest : String)
  | temporary (digest : String)
  deriving DecidableEq

def ObjectName.digest : ObjectName → String
  | .object digest => digest
  | .temporary digest => digest

abbrev LocalArtifactStore := Disk ObjectName Bytes

namespace LocalArtifactStore

/-- What is read at an address. -/
def get (store : LocalArtifactStore) (uri : String) : Option Bytes :=
  (artifactDigest uri).bind fun digest ↦ store.read (.object digest)

/-- The file operation a `put` comes to next. -/
inductive Stage
  | lookup
  | create
  | write
  | replace
  | done
  deriving DecidableEq

/-- A call of `put`. -/
structure Put where
  digest : String
  content : Bytes
  stage : Stage

/-- The next file operation of a `put`. -/
def advance (store : LocalArtifactStore) (p : Put) : LocalArtifactStore × Put :=
  match p.stage with
  | .lookup =>
    if (store.entry (.object p.digest)).isSome then (store, { p with stage := .done })
    else (store, { p with stage := .create })
  | .create => (store.create (.temporary p.digest) [], { p with stage := .write })
  | .write => (store.write (.temporary p.digest) p.content, { p with stage := .replace })
  | .replace =>
    (store.rename (.temporary p.digest) (.object p.digest), { p with stage := .done })
  | .done => (store, p)

end LocalArtifactStore

/-! ## The service and its store -/

/-- The file that a command publishes. -/
def Request.publication (r : Request) (env : Env) (s : DB) : Option FileContent :=
  if r.operation = .publishArtifact then do
    let runId ← r.payload.runId
    let wsId ← (s.runInputs.find? runId).bind fun i ↦ truthy i.workspaceId
    let path ← truthy r.payload.path
    (env.readWorkspace wsId path none).toOption
  else none

/-- The digest under which a transaction has the store keep its content. An answer from the records
publishes nothing. -/
def World.staged (w : World) : Label → Option String
  | .command env r =>
    match execute env r w.db with
    | .ok (result, _) =>
      if result.replayed then none else (r.publication env w.db).map FileContent.digest
    | .error _ => none
  | _ => none

structure Host where
  world : World := {}
  store : LocalArtifactStore := .empty []
  /-- What the transaction under way has the store keep. -/
  put : Option LocalArtifactStore.Put := none

namespace Host

inductive Event
  /-- The transaction under way has the store keep a content. -/
  | put (content : Bytes)
  /-- The next file operation. -/
  | advance
  /-- The transaction under way commits. -/
  | commit (l : Label)
  /-- The transaction under way is rolled back. -/
  | rollback
  | flush (file : Nat)
  | sync (name : ObjectName)
  /-- The machine stops and is started again. -/
  | crash (kept : ObjectName → Bool) (remains : Nat → Bytes)

def step (sha256 : Bytes → String) (h : Host) : Event → Option Host
  | .put content =>
    if h.put.isNone ∧ isSha256Hex (sha256 content) = true then
      some { h with put := some ⟨sha256 content, content, .lookup⟩ }
    else none
  | .advance =>
    h.put.map fun p ↦
      { h with store := (h.store.advance p).1, put := some (h.store.advance p).2 }
  | .commit l =>
    if h.world.staged l = h.put.map (·.digest) ∧ h.put.all (·.stage = .done) = true then
      (system.step h.world l).map fun world ↦ { h with world, put := none }
    else none
  | .rollback => some { h with put := none }
  | .flush file => some { h with store := h.store.flush file }
  | .sync name => some { h with store := h.store.sync name }
  | .crash kept remains =>
    some
      { world := { h.world with threads := .empty, alive := [] }
        store := h.store.crash kept remains
        put := none }

/-- A service and a store, by what the store takes for the hash of a content. -/
def machine (sha256 : Bytes → String) : Machine Host Event where
  init := {}
  step := Host.step sha256

/-- Every row with an address refers to a stored object that has the row's hash. -/
def Complete (sha256 : Bytes → String) (h : Host) : Prop :=
  ∀ taskId hash row uri, h.world.db.artifacts.find? (taskId, hash) = some row →
    row.artifactUri = some uri → ∃ content, h.store.get uri = some content ∧ sha256 content = hash

/-- A row refers to the object with a digest. -/
def Registered (h : Host) (digest : String) : Prop :=
  ∃ taskId row, h.world.db.artifacts.find? (taskId, digest) = some row ∧
    row.artifactUri.isSome = true

/-- What is found under a digest is on the disk, and so is the name of an object that a row refers
to. -/
def WrittenBack (h : Host) : Prop :=
  ∀ digest, (∀ file, h.store.entry (.object digest) = some file → h.store.flushed file = true) ∧
    (h.Registered digest → h.store.saved (.object digest) = h.store.entry (.object digest))

/-- A crash comes when the system has written the objects back. -/
def CrashesLate (h : Host) : Event → Prop
  | .crash _ _ => h.WrittenBack
  | _ => True

end Host

end HibikiCore
