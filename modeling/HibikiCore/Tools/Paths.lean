import HibikiCore.Store.SystemCalls

/-!
# Paths in a workspace

A path is cut into its components, and the directories among them are opened one after the other,
each below the one before, without following links. Here is the mode of the service in which
directories have descriptors; a descriptor is the inode it is open on.
-/

namespace HibikiCore

/-- Why a path is refused. -/
inductive PathRefusal
  | nul
  | empty
  | drive (path : String)
  | absolute (path : String)
  | parent (path : String)
  | nothing (path : String)
  /-- A component of a path is a symbolic link. -/
  | linkedComponent (name : String)
  /-- What a path names is a symbolic link. -/
  | linked (name : String)
  | replacesLink (name : String)
  deriving DecidableEq, Repr

inductive PathError
  | safety (refusal : PathRefusal)
  | os (error : OsError)
  deriving DecidableEq, Repr

/-- A method of a workspace: it makes system calls, and it may raise. -/
abbrev PathM := ExceptT PathError (Method Files SysChoice)

namespace WorkspacePaths

open Files

/-! ## Validation -/

/-- Whether `ntpath.splitdrive` finds a drive, or a share, at the beginning of a path. -/
def hasDrive (path : String) : Bool :=
  match path.toList with
  | first :: second :: _ =>
    if first == '/' || first == '\\' then second == '/' || second == '\\' else second == ':'
  | _ => false

/-- `_validate`: the components of a path that may be walked. -/
def validate (relative : String) : Except PathError (List String) :=
  if '\x00' ∈ relative.toList then .error (.safety .nul)
  else if relative = "" then .error (.safety .empty)
  else if isAbsolute relative ∨ hasDrive relative then .error (.safety (.drive relative))
  else if relative.toList.head? = some '/' ∨ relative.toList.head? = some '\\' then
    .error (.safety (.absolute relative))
  else
    let parts := (components relative).filter fun part ↦ part ≠ "" ∧ part ≠ "."
    if ".." ∈ parts then .error (.safety (.parent relative))
    else if parts = [] then .error (.safety (.nothing relative))
    else .ok parts

/-! ## The walk -/

def sys {α : Type} (f : SysChoice → Files → Except OsError α × Files) : PathM α := call .os f

/-- Whether an entry is a symbolic link; if it cannot be looked at, it is none. -/
def isSymlink (parent : Nat) (name : String) : PathM Bool :=
  tryCatchThe PathError (do return (← sys (fstatat parent name)) = .symlink) fun
    | .os _ => return false
    | e => throw e

/-- `_dir_error`: what is raised when a directory could not be opened. -/
def dirError (parent : Nat) (name : String) : PathError → PathM Nat
  | .os .loop | .os .notDirectory => do
    if ← isSymlink parent name then throw (.safety (.linkedComponent name))
    else throw (.os .notDirectory)
  | e => throw e

def dirFlags : OpenFlags := { directory := true, noFollow := true }

def openDir (create : Bool) (parent : Nat) (name : String) : PathM Nat :=
  tryCatchThe PathError (sys (openat parent name dirFlags)) fun
    | .os .noEntry =>
      if create then do
        tryCatchThe PathError (sys (mkdirat parent name)) fun
          | .os .exists => return ()
          | e => throw e
        tryCatchThe PathError (sys (openat parent name dirFlags)) (dirError parent name)
      else throw (.os .noEntry)
    | e => dirError parent name e

/-- A descriptor that is closed when something raises. -/
def guarding {α : Type} (fd : Nat) (m : PathM α) : PathM α :=
  tryCatchThe PathError m fun e ↦ do
    sys (close fd)
    throw e

/-- A descriptor that is closed in any case; if that raises, nothing else counts. -/
def closing {α : Type} (fd : Nat) (m : PathM α) : PathM α := do
  let r ← tryCatchThe PathError (do return .ok (← m)) fun e ↦ return .error e
  sys (close fd)
  (r : Except PathError α)

/-- The directory is closed when the next one is open. -/
def openNext (create : Bool) (fd : Nat) (name : String) : PathM Nat :=
  guarding fd do
    let next ← openDir create fd name
    sys (close fd)
    return next

def walkFrom (create : Bool) : Nat → List String → PathM Nat
  | fd, [] => return fd
  | fd, name :: parts => do
    let next ← openNext create fd name
    walkFrom create next parts

/-- `_walk`: opens every component as a directory; the result is the last one. -/
def walk (create : Bool) (root : Nat) (parts : List String) : PathM Nat := do
  let fd ← sys (dup root)
  walkFrom create fd parts

def openFinal (parent : Nat) (name : String) (flags : OpenFlags) : PathM Nat :=
  tryCatchThe PathError (sys (openat parent name { flags with noFollow := true })) fun
    | .os .loop => throw (.safety (.linked name))
    | .os .notDirectory => do
      if ← isSymlink parent name then throw (.safety (.linked name))
      else throw (.os .notDirectory)
    | e => throw e

/-- `EINVAL`. -/
def invalid : OsError := .other 22

def requireRegular (fd : Nat) : PathM Unit := do
  let kind ← sys (fstat fd)
  if kind = .directory then throw (.os .isDirectory)
  else if kind = .file then return ()
  else throw (.os invalid)

/-! ## Methods -/

def openForRead (root : Nat) (relative : String) : PathM Nat := do
  let parts ← (validate relative : Except PathError (List String))
  let parent ← walk false root parts.dropLast
  let fd ← closing parent (openFinal parent (parts.getLastD "") {})
  guarding fd (requireRegular fd)
  return fd

def readBytes (sha256 : List UInt8 → String) (root : Nat) (relative : String)
    (maxBytes : Option Nat) : PathM (List UInt8 × String) := do
  let fd ← openForRead root relative
  let data ← closing fd (sys (read fd))
  let data := match maxBytes with
    | none => data
    | some n => data.take n
  return (data, sha256 data)

def openForWrite (root : Nat) (relative : String) : PathM Nat := do
  let parts ← (validate relative : Except PathError (List String))
  let parent ← walk false root parts.dropLast
  closing parent (openFinal parent (parts.getLastD "")
    { write := true, create := true, truncate := true })

def listDir (root : Nat) (relative : String) : PathM (List String) := do
  let parts ← (validate relative : Except PathError (List String))
  let parent ← walk false root parts.dropLast
  closing parent do
    let fd ← openFinal parent (parts.getLastD "") { directory := true }
    let names ← closing fd (sys (listdir fd))
    return names.mergeSort fun a b ↦ decide (a ≤ b)

def mkdir (root : Nat) (relative : String) : PathM Unit := do
  let parts ← (validate relative : Except PathError (List String))
  let fd ← walk true root parts
  sys (close fd)

/-- What a temporary file is named by: the process and random digits. -/
structure TempName where
  pid : Nat
  token : List (Fin 16)

def TempName.fileName (t : TempName) : String :=
  ".hibiki-tmp-" ++ toString t.pid ++ "-" ++ String.ofList (t.token.map fun d ↦ d.val.digitChar)

/-- The loop over what is not written yet; every round writes something. -/
def writeRounds (fd : Nat) : Nat → List UInt8 → PathM Unit
  | 0, _ => return ()
  | rounds + 1, content =>
    if content = [] then return ()
    else do
      let n ← sys (write fd content)
      writeRounds fd rounds (content.drop n)

def writeAll (fd : Nat) (content : List UInt8) : PathM Unit :=
  writeRounds fd content.length content

def writeTemporary (parent : Nat) (content : List UInt8) (tmp : TempName) : PathM Unit := do
  let fd ← sys (openat parent tmp.fileName
    { write := true, create := true, exclusive := true, noFollow := true })
  closing fd do
    writeAll fd content
    sys (fsync fd)

/-- Writes a new file in the directory and moves it to the name. -/
def moveFile (parent : Nat) (name : String) (content : List UInt8) (tmp : TempName) :
    PathM Unit := do
  let linked ← isSymlink parent name
  if linked then throw (.safety (.replacesLink name))
  else do
    writeTemporary parent content tmp
    sys (renameat parent tmp.fileName name)

def replaceFile (parent : Nat) (name : String) (content : List UInt8) (tmp : TempName) :
    PathM Unit := do
  moveFile parent name content tmp
  sys (fsync parent)

/-- Whatever raises, the temporary file is taken away; a failure to do so does not matter. -/
def discarding (parent : Nat) (tmp : TempName) (m : PathM Unit) : PathM Unit :=
  tryCatchThe PathError m fun e ↦ do
    tryCatchThe PathError (sys (unlinkat parent tmp.fileName)) fun
      | .os _ => return ()
      | e => throw e
    throw e

def atomicWrite (sha256 : List UInt8 → String) (root : Nat) (relative : String)
    (content : List UInt8) (tmp : TempName) : PathM String := do
  let parts ← (validate relative : Except PathError (List String))
  let parent ← walk false root parts.dropLast
  closing parent (discarding parent tmp (replaceFile parent (parts.getLastD "") content tmp))
  return sha256 content

/-! ## What the walk does -/

variable {root parent fd : Nat} {name relative : String} {parts : List String} {create : Bool}
  {flags : OpenFlags} {A : Files → Prop} {α : Type} {post : α → Files → Prop}

/-- A directory is still held. -/
abbrev HeldIn (root d : Nat) (s : Files) : Prop := s.tree.Held root d

/-- The components of a path that was not refused are plain names. -/
theorem validate_plain (h : validate relative = .ok parts) :
    parts ≠ [] ∧ ∀ part ∈ parts, PlainName part := by
  rw [validate] at h
  split at h
  · cases h
  split at h
  · cases h
  split at h
  · cases h
  split at h
  · cases h
  dsimp only at h
  split at h
  · cases h
  next hup =>
    split at h
    · cases h
    next hne =>
      obtain rfl := Except.ok.inj h
      refine ⟨hne, fun part hpart ↦ ?_⟩
      obtain ⟨hmem, hkept⟩ := List.mem_filter.mp hpart
      have hboth : part ≠ "" ∧ part ≠ "." := of_decide_eq_true hkept
      refine ⟨hboth.1, hboth.2, ?_, noSlash_of_mem_components hmem⟩
      rintro rfl
      exact hup hpart

theorem isSymlink_walks (hname : PlainName name) :
    Walks root (HeldIn root parent) (isSymlink parent name) fun _ _ ↦ True := by
  refine Walks.tryCatch stable_held ?_ fun e ↦ ?_
  · refine Walks.bind (Walks.call (fstatat_sound hname) fun _ _ _ _ _ ↦ trivial) fun kind ↦ ?_
    exact Walks.pure fun _ _ ↦ trivial
  · cases e with
    | os => exact Walks.pure fun _ _ ↦ trivial
    | safety => exact Walks.throw

theorem dirError_walks {post : Nat → Files → Prop} (hname : PlainName name) (e : PathError) :
    Walks root (HeldIn root parent) (dirError parent name e) post := by
  unfold dirError
  split
  · refine Walks.bind (isSymlink_walks hname) fun linked ↦ ?_
    split <;> exact Walks.throw
  · refine Walks.bind (isSymlink_walks hname) fun linked ↦ ?_
    split <;> exact Walks.throw
  · exact Walks.throw

theorem openat_walks (hname : PlainName name) (hflags : flags.noFollow = true) :
    Walks root (HeldIn root parent) (sys (openat parent name flags)) fun fd s ↦
      s.Opened fd ∧ (flags.directory = true → flags.create = false → s.tree.Held root fd) := by
  refine Walks.call (openat_sound hname hflags) fun fd s t hs hsafe ↦ ?_
  exact ⟨stable_opened s t hs.1 hsafe, fun hdir hcreate ↦ hsafe.keeps fd (hs.2 hdir hcreate)⟩

/-- A directory that exists already does not matter. -/
theorem mkdirat_walks (hname : PlainName name) :
    Walks root (HeldIn root parent)
      (tryCatchThe PathError (sys (mkdirat parent name)) fun
        | .os .exists => return ()
        | e => throw e)
      fun _ _ ↦ True := by
  refine Walks.tryCatch stable_held ?_ fun e ↦ ?_
  · exact Walks.call (mkdirat_sound hname) fun _ _ _ _ _ ↦ trivial
  · split
    · exact Walks.pure fun _ _ ↦ trivial
    · exact Walks.throw

/-- What is opened as a component of a path is a directory below the root, or one that is no more. -/
theorem openDir_walks (hname : PlainName name) :
    Walks root (HeldIn root parent) (openDir create parent name) (HeldIn root) := by
  have hopen : Walks root (HeldIn root parent) (sys (openat parent name dirFlags)) (HeldIn root) :=
    (openat_walks hname rfl).consequence fun fd s hs ↦ hs.2 rfl rfl
  refine Walks.tryCatch stable_held hopen fun e ↦ ?_
  split
  · split
    · refine Walks.bind (Walks.keep stable_held (mkdirat_walks hname)) fun _ ↦ ?_
      refine Walks.weaken ?_ fun _ hs ↦ hs.2
      exact Walks.tryCatch stable_held hopen fun e ↦ dirError_walks hname e
    · exact Walks.throw
  · exact dirError_walks hname _

theorem close_walks : Walks root A (sys (close fd)) fun _ _ ↦ True :=
  (Walks.call close_sound fun _ _ _ _ _ ↦ trivial).weaken fun _ _ ↦ trivial

theorem guarding_walks {m : PathM α} (hA : Method.Stable (Safe root) A)
    (h : Walks root A m post) : Walks root A (guarding fd m) post :=
  Walks.tryCatch hA h fun _ ↦ Walks.bind close_walks fun _ ↦ Walks.throw

theorem closing_walks {m : PathM α} (hpost : ∀ a, Method.Stable (Safe root) (post a))
    (h : Walks root A m post) : Walks root A (closing fd m) post := by
  let answered (r : Except PathError α) (s : Files) : Prop := ∀ a, r = .ok a → post a s
  have hanswered (r : Except PathError α) : Method.Stable (Safe root) (answered r) :=
    fun s t hs hsafe a ha ↦ hpost a s t (hs a ha) hsafe
  have hattempt : Walks root A
      (tryCatchThe PathError (do return .ok (← m) : PathM (Except PathError α))
        fun e ↦ return .error e) answered := by
    have hanswer : Walks root A (do return .ok (← m) : PathM (Except PathError α)) answered := by
      refine Walks.bind h fun a ↦ Walks.pure fun s hs b hb ↦ ?_
      obtain rfl := Except.ok.inj hb
      exact hs
    exact Method.Meets.tryCatch hanswer (fun _ _ ↦ id) fun e ↦
      Walks.pure fun _ _ a ha ↦ nomatch ha
  refine Walks.bind hattempt fun r ↦ ?_
  refine Walks.bind (Walks.keep (hanswered r) close_walks) fun _ ↦ ?_
  cases r with
  | ok a => exact Walks.pure fun s hs ↦ hs.2 a rfl
  | error e => exact Walks.throw

theorem openNext_walks (hname : PlainName name) :
    Walks root (HeldIn root fd) (openNext create fd name) (HeldIn root) := by
  refine guarding_walks stable_held ?_
  refine Walks.bind (openDir_walks hname) fun next ↦ ?_
  exact Walks.bind (Walks.keep stable_held close_walks) fun _ ↦ Walks.pure fun _ hs ↦ hs.2

/-- The loop: the descriptor is that of a directory below the root, or of one that is no more. -/
theorem walkFrom_walks (hplain : ∀ part ∈ parts, PlainName part) :
    Walks root (HeldIn root fd) (walkFrom create fd parts) (HeldIn root) := by
  induction parts generalizing fd with
  | nil => exact Walks.pure fun _ ↦ id
  | cons name parts ih =>
    refine Walks.bind (openNext_walks (hplain name List.mem_cons_self)) fun next ↦ ?_
    exact ih fun part hpart ↦ hplain part (List.mem_cons_of_mem _ hpart)

theorem walk_walks (hplain : ∀ part ∈ parts, PlainName part) :
    Walks root (fun _ ↦ True) (walk create root parts) (HeldIn root) := by
  have hdup : Walks root (fun _ ↦ True) (sys (dup root)) fun fd _ ↦ fd = root :=
    Walks.call dup_sound fun _ _ _ h _ ↦ h
  refine Walks.bind hdup fun fd ↦ (walkFrom_walks hplain).weaken fun s hs ↦ ?_
  rw [hs]
  exact .inl .root

/-- What is opened at the end of a path. -/
theorem openFinal_walks (hname : PlainName name) :
    Walks root (HeldIn root parent) (openFinal parent name flags) fun fd s ↦
      s.Opened fd ∧ (flags.directory = true → flags.create = false → s.tree.Held root fd) := by
  refine Walks.tryCatch stable_held (openat_walks hname rfl) fun e ↦ ?_
  split
  · exact Walks.throw
  · refine Walks.bind (isSymlink_walks hname) fun linked ↦ ?_
    split <;> exact Walks.throw
  · exact Walks.throw

/-! ## What the methods do -/

/-- A method that walks to the parent of what its path names, and goes on from there. -/
theorem located_walks {f : List String → Nat → PathM α}
    (h : ∀ parts parent, PlainName (parts.getLastD "") →
      Walks root (HeldIn root parent) (f parts parent) post) :
    Walks root (fun _ ↦ True)
      (do
        let parts ← (validate relative : Except PathError (List String))
        let parent ← walk false root parts.dropLast
        f parts parent : PathM α)
      post := by
  refine Walks.bind_lift fun parts hparts ↦ ?_
  obtain ⟨hne, hplain⟩ := validate_plain hparts
  have hwalk : Walks root (fun _ ↦ True) (walk false root parts.dropLast) (HeldIn root) :=
    walk_walks fun part hpart ↦ hplain part (List.dropLast_subset _ hpart)
  refine Walks.bind hwalk fun parent ↦ h parts parent (hplain _ ?_)
  rw [List.getLastD_eq_getLast?, List.getLast?_eq_some_getLast hne]
  exact List.getLast_mem hne

theorem requireRegular_walks : Walks root A (requireRegular fd) fun _ _ ↦ True := by
  have hstat : Walks root A (sys (fstat fd)) fun _ _ ↦ True :=
    (Walks.call fstat_sound fun _ _ _ _ _ ↦ trivial).weaken fun _ _ ↦ trivial
  refine Walks.bind hstat fun kind ↦ ?_
  split
  · exact Walks.throw
  · split
    · exact Walks.pure fun _ _ ↦ trivial
    · exact Walks.throw

theorem openForRead_walks :
    Walks root (fun _ ↦ True) (openForRead root relative) fun fd s ↦ s.Opened fd := by
  refine located_walks fun parts parent hname ↦ ?_
  have hopen : Walks root (HeldIn root parent) (openFinal parent (parts.getLastD "") {})
      fun fd s ↦ s.Opened fd := (openFinal_walks hname).consequence fun _ _ hs ↦ hs.1
  refine Walks.bind (closing_walks (fun _ ↦ stable_opened) hopen) fun fd ↦ ?_
  have hregular : Walks root (fun s ↦ s.Opened fd) (guarding fd (requireRegular fd))
      fun _ _ ↦ True := guarding_walks stable_opened requireRegular_walks
  refine Walks.bind (Walks.keep stable_opened hregular) fun _ ↦ ?_
  exact Walks.pure fun _ hs ↦ hs.2

theorem readBytes_walks {sha256 : List UInt8 → String} {maxBytes : Option Nat} :
    Walks root (fun _ ↦ True) (readBytes sha256 root relative maxBytes) fun _ _ ↦ True := by
  refine Walks.bind openForRead_walks fun fd ↦ ?_
  have hread : Walks root (fun s ↦ s.Opened fd) (sys (read fd)) fun _ _ ↦ True :=
    Walks.call read_sound fun _ _ _ _ _ ↦ trivial
  refine Walks.bind (closing_walks (fun _ _ _ _ _ ↦ trivial) hread) fun data ↦ ?_
  exact Walks.pure fun _ _ ↦ trivial

theorem openForWrite_walks :
    Walks root (fun _ ↦ True) (openForWrite root relative) fun fd s ↦ s.Opened fd :=
  located_walks fun _ _ hname ↦ closing_walks (fun _ ↦ stable_opened)
    ((openFinal_walks hname).consequence fun _ _ hs ↦ hs.1)

theorem listDir_walks : Walks root (fun _ ↦ True) (listDir root relative) fun _ _ ↦ True := by
  refine located_walks fun parts parent hname ↦ ?_
  have hopen : Walks root (HeldIn root parent)
      (openFinal parent (parts.getLastD "") { directory := true }) (HeldIn root) :=
    (openFinal_walks hname).consequence fun _ _ hs ↦ hs.2 rfl rfl
  refine closing_walks (fun _ _ _ _ _ ↦ trivial) ?_
  refine Walks.bind hopen fun fd ↦ ?_
  have hlist : Walks root (HeldIn root fd) (sys (listdir fd)) fun _ _ ↦ True :=
    Walks.call listdir_sound fun _ _ _ _ _ ↦ trivial
  refine Walks.bind (closing_walks (fun _ _ _ _ _ ↦ trivial) hlist) fun names ↦ ?_
  exact Walks.pure fun _ _ ↦ trivial

theorem mkdir_walks : Walks root (fun _ ↦ True) (mkdir root relative) fun _ _ ↦ True := by
  refine Walks.bind_lift fun parts hparts ↦ ?_
  exact Walks.bind (walk_walks (validate_plain hparts).2) fun _ ↦ close_walks

/-- The name of a temporary file is plain. -/
theorem TempName.plain (t : TempName) : PlainName t.fileName := by
  have hhead : t.fileName.toList.take 2 = ['.', 'h'] := by simp [fileName]
  have hne (name : String) (hname : name.toList.take 2 ≠ ['.', 'h']) : t.fileName ≠ name := by
    rintro rfl
    exact hname hhead
  refine ⟨hne _ (by decide), hne _ (by decide), hne _ (by decide), ?_⟩
  have hpid : NoSlash (toString t.pid) := by
    intro hslash
    have htext : (toString t.pid).toList = Nat.toDigits 10 t.pid := by simp [toString, Nat.repr]
    rw [htext] at hslash
    exact absurd (Nat.isDigit_of_mem_toDigits (by decide) (by decide) hslash) (by decide)
  have htoken : NoSlash (String.ofList (t.token.map fun d ↦ d.val.digitChar)) := by
    rw [NoSlash, String.toList_ofList, List.mem_map]
    rintro ⟨d, -, hslash⟩
    revert hslash
    revert d
    decide
  exact (((show NoSlash ".hibiki-tmp-" by decide).append hpid).append (by decide)).append htoken

theorem fsync_walks : Walks root A (sys (fsync fd)) fun _ _ ↦ True :=
  (Walks.call fsync_sound fun _ _ _ _ _ ↦ trivial).weaken fun _ _ ↦ trivial

theorem writeRounds_walks {rounds : Nat} {content : List UInt8} :
    Walks root (fun s ↦ s.Opened fd) (writeRounds fd rounds content) fun _ _ ↦ True := by
  induction rounds generalizing content with
  | zero => exact Walks.pure fun _ _ ↦ trivial
  | succ rounds ih =>
    rw [writeRounds]
    split
    · exact Walks.pure fun _ _ ↦ trivial
    · have hwrite : Walks root (fun s ↦ s.Opened fd) (sys (write fd content)) fun _ _ ↦ True :=
        Walks.call write_sound fun _ _ _ _ _ ↦ trivial
      exact Walks.bind (Walks.keep stable_opened hwrite) fun n ↦ ih.weaken fun _ hs ↦ hs.2

theorem writeTemporary_walks {content : List UInt8} {tmp : TempName} :
    Walks root (HeldIn root parent) (writeTemporary parent content tmp) fun _ _ ↦ True := by
  have hopen : Walks root (HeldIn root parent) (sys (openat parent tmp.fileName
      { write := true, create := true, exclusive := true, noFollow := true }))
      fun fd s ↦ s.Opened fd := (openat_walks tmp.plain rfl).consequence fun _ _ hs ↦ hs.1
  refine Walks.bind hopen fun fd ↦ closing_walks (fun _ _ _ _ _ ↦ trivial) ?_
  exact Walks.bind writeRounds_walks fun _ ↦ fsync_walks

theorem moveFile_walks {content : List UInt8} {tmp : TempName} (hname : PlainName name) :
    Walks root (HeldIn root parent) (moveFile parent name content tmp) fun _ _ ↦ True := by
  refine Walks.bind (Walks.keep stable_held (isSymlink_walks hname)) fun linked ↦ ?_
  refine Walks.weaken ?_ fun _ hs ↦ hs.2
  split
  · exact Walks.throw
  · refine Walks.bind (Walks.keep stable_held writeTemporary_walks) fun _ ↦ ?_
    refine Walks.weaken ?_ fun _ hs ↦ hs.2
    exact Walks.call (renameat_sound tmp.plain hname) fun _ _ _ _ _ ↦ trivial

theorem discarding_walks {tmp : TempName} {m : PathM Unit}
    (h : Walks root (HeldIn root parent) m fun _ _ ↦ True) :
    Walks root (HeldIn root parent) (discarding parent tmp m) fun _ _ ↦ True := by
  refine Walks.tryCatch stable_held h fun e ↦ Walks.bind (?_ : Walks _ _ _ fun _ _ ↦ True) fun _ ↦
    Walks.throw
  refine Walks.tryCatch stable_held ?_ fun e ↦ ?_
  · exact Walks.call (unlinkat_sound tmp.plain) fun _ _ _ _ _ ↦ trivial
  · split
    · exact Walks.pure fun _ _ ↦ trivial
    · exact Walks.throw

theorem atomicWrite_walks {sha256 : List UInt8 → String} {content : List UInt8} {tmp : TempName} :
    Walks root (fun _ ↦ True) (atomicWrite sha256 root relative content tmp) fun _ _ ↦ True := by
  refine located_walks fun parts parent hname ↦ ?_
  have hreplace : Walks root (HeldIn root parent)
      (replaceFile parent (parts.getLastD "") content tmp) fun _ _ ↦ True :=
    Walks.bind (moveFile_walks hname) fun _ ↦ fsync_walks
  have hclosing : Walks root (HeldIn root parent)
      (closing parent (discarding parent tmp
        (replaceFile parent (parts.getLastD "") content tmp))) fun _ _ ↦ True :=
    closing_walks (fun _ _ _ _ _ ↦ trivial) (discarding_walks hreplace)
  exact Walks.bind hclosing fun _ ↦ Walks.pure fun _ _ ↦ trivial

/-! ## All calls at once -/

/-- A call of a method. -/
inductive Call
  | openForRead (relative : String)
  | readBytes (relative : String) (maxBytes : Option Nat)
  | openForWrite (relative : String)
  | listDir (relative : String)
  | mkdir (relative : String)
  | atomicWrite (relative : String) (content : List UInt8) (tmp : TempName)

inductive Answer
  | descriptor (fd : Nat)
  | bytes (data : List UInt8) (digest : String)
  | names (names : List String)
  | done
  | digest (digest : String)

/-- The path that a call is given. -/
def Call.path : Call → String
  | .openForRead path | .readBytes path _ | .openForWrite path | .listDir path | .mkdir path
  | .atomicWrite path _ _ => path

def Call.method (sha256 : List UInt8 → String) (root : Nat) : Call → PathM Answer
  | .openForRead relative => do return .descriptor (← WorkspacePaths.openForRead root relative)
  | .readBytes relative maxBytes => do
    let (data, digest) ← WorkspacePaths.readBytes sha256 root relative maxBytes
    return .bytes data digest
  | .openForWrite relative => do return .descriptor (← WorkspacePaths.openForWrite root relative)
  | .listDir relative => do return .names (← WorkspacePaths.listDir root relative)
  | .mkdir relative => do
    WorkspacePaths.mkdir root relative
    return .done
  | .atomicWrite relative content tmp => do
    return .digest (← WorkspacePaths.atomicWrite sha256 root relative content tmp)

theorem Call.method_walks {sha256 : List UInt8 → String} (call : Call) :
    Walks root (fun _ ↦ True) (call.method sha256 root) fun _ _ ↦ True := by
  cases call with
  | openForRead => exact Walks.bind openForRead_walks fun _ ↦ Walks.pure fun _ _ ↦ trivial
  | readBytes => exact Walks.bind readBytes_walks fun _ ↦ Walks.pure fun _ _ ↦ trivial
  | openForWrite => exact Walks.bind openForWrite_walks fun _ ↦ Walks.pure fun _ _ ↦ trivial
  | listDir => exact Walks.bind listDir_walks fun _ ↦ Walks.pure fun _ _ ↦ trivial
  | mkdir => exact Walks.bind mkdir_walks fun _ ↦ Walks.pure fun _ _ ↦ trivial
  | atomicWrite => exact Walks.bind atomicWrite_walks fun _ ↦ Walks.pure fun _ _ ↦ trivial

/-- Threads call the methods of a workspace while others rearrange what is below its root. -/
def shared (sha256 : List UInt8 → String) (root : Nat) (tree : FileTree) :
    Shared Files SysChoice FileTree.Change Call (Except PathError Answer) where
  init := { tree }
  call c := c.method sha256 root
  drift c s := { s with tree := c.apply root s.tree }

theorem discipline (sha256 : List UInt8 → String) (root : Nat) (tree : FileTree) :
    (shared sha256 root tree).Discipline (Safe root) (fun _ ↦ Safe root) (fun _ _ ↦ True)
      fun _ _ _ ↦ True where
  relies _ _ _ := id
  drift c _ := change_safe c
  stable _ _ _ _ _ := trivial
  meets c := Method.Meets.mono c.method_walks (fun _ _ ↦ id) fun _ _ _ ↦ trivial

/-- What was opened, read, created or replaced is inside. -/
structure Contained (root : Nat) (s : Files) : Prop where
  accesses : ∀ a ∈ s.accesses, a.Inside root
  touched : ∀ i ∈ s.touched, s.Opened i

theorem Contained.safe {s s' : Files} (h : Contained root s) (hsafe : Safe root s s') :
    Contained root s' where
  accesses a ha := by
    rcases hsafe.inside a ha with hold | hinside
    · exact h.accesses a hold
    · exact hinside
  touched i hi := by
    rcases hsafe.touched i hi with hold | hopened
    · exact stable_opened s s' (h.touched i hold) hsafe
    · exact hopened

theorem contained {sha256 : List UInt8 → String} {tree : FileTree}
    {p : Pool Files SysChoice Call (Except PathError Answer)}
    (h : (shared sha256 root tree).pool.Reachable p) : Contained root p.state := by
  have hinit : Contained root (shared sha256 root tree).pool.init.state :=
    ⟨fun _ ha ↦ (nomatch ha), fun _ hi ↦ (nomatch hi)⟩
  have hstart : (shared sha256 root tree).pool.ReachableBy (Shared.Asks fun _ _ ↦ True)
      (shared sha256 root tree).pool.init := .refl
  have hasked : (shared sha256 root tree).pool.ReachableBy (Shared.Asks fun _ _ ↦ True) p :=
    h.mono fun _ l _ ↦ by cases l <;> exact trivial
  refine (discipline sha256 root tree).invariant (P := fun p ↦ Contained root p.state)
    (fun q q' hq hturn ↦ ?_) hstart hinit hasked
  cases hturn with
  | called i hstate => exact hstate ▸ hq
  | moved i _ hmoves => exact hq.safe hmoves
  | returned i a _ hstate => exact hstate ▸ hq
  | drifted c hstate => exact hstate ▸ hq.safe (change_safe c)

/-! ## Refusals -/

/-- A path that is empty or absolute, goes up, or has a NUL. -/
def Escaping (path : String) : Prop :=
  path = "" ∨ isAbsolute path ∨ ".." ∈ components path ∨ '\x00' ∈ path.toList

theorem validate_escaping {path : String} (h : Escaping path) :
    ∃ refusal, validate path = .error (.safety refusal) := by
  rw [validate]
  split
  · exact ⟨_, rfl⟩
  next hnul =>
    split
    · exact ⟨_, rfl⟩
    next hempty =>
      split
      · exact ⟨_, rfl⟩
      next habsolute =>
        split
        · exact ⟨_, rfl⟩
        · dsimp only
          have hup : ".." ∈ components path := by
            rcases h with h | h | h | h
            · exact absurd h hempty
            · exact absurd (.inl h) habsolute
            · exact h
            · exact absurd h hnul
          rw [if_pos (List.mem_filter.mpr ⟨hup, by decide⟩)]
          exact ⟨_, rfl⟩

/-- A call with such a path ends before its first system call. -/
theorem Call.method_escaping {sha256 : List UInt8 → String} {call : Call}
    (h : Escaping call.path) :
    ∃ refusal, (call.method sha256 root).run = .done (.error (.safety refusal)) := by
  obtain ⟨refusal, hrefusal⟩ := validate_escaping h
  refine ⟨refusal, ?_⟩
  cases call with
  | openForRead path =>
    simp only [Call.path] at hrefusal
    rw [Call.method, WorkspacePaths.openForRead, hrefusal]
    rfl
  | readBytes path n =>
    simp only [Call.path] at hrefusal
    rw [Call.method, WorkspacePaths.readBytes, WorkspacePaths.openForRead, hrefusal]
    rfl
  | openForWrite path =>
    simp only [Call.path] at hrefusal
    rw [Call.method, WorkspacePaths.openForWrite, hrefusal]
    rfl
  | listDir path =>
    simp only [Call.path] at hrefusal
    rw [Call.method, WorkspacePaths.listDir, hrefusal]
    rfl
  | mkdir path =>
    simp only [Call.path] at hrefusal
    rw [Call.method, WorkspacePaths.mkdir, hrefusal]
    rfl
  | atomicWrite path content tmp =>
    simp only [Call.path] at hrefusal
    rw [Call.method, WorkspacePaths.atomicWrite, hrefusal]
    rfl

/-! ## Never outside -/

/-- In every run, whatever a call opens, lists, looks at, creates, replaces or takes away is an entry
of a directory that is reached from the root by real child directories, and reading and writing goes
through what was opened so. A call with a path that is empty or absolute, that goes up or has a NUL,
ends before its first system call. -/
theorem paths_stay_inside {sha256 : List UInt8 → String} {tree : FileTree}
    {p : Pool Files SysChoice Call (Except PathError Answer)}
    (h : (shared sha256 root tree).pool.Reachable p) :
    (∀ a ∈ p.state.accesses, ∃ d name, a.tree.Reached root d ∧
      a.tree.entry d name = some a.node) ∧
    (∀ i ∈ p.state.touched, ∃ a ∈ p.state.accesses, a.node = i) ∧
    ∀ call : Call, call.path = "" ∨ isAbsolute call.path ∨ ".." ∈ components call.path ∨
      '\x00' ∈ call.path.toList →
        ∃ refusal, (call.method sha256 root).run = .done (.error (.safety refusal)) :=
  ⟨(contained h).accesses, (contained h).touched, fun _ hpath ↦ Call.method_escaping hpath⟩

/-- An empty directory, which is the root. -/
def sampleTree : FileTree where
  kind _ := .directory
  entries _ := .empty
  removed _ := false
  next := 1
  allocated _ _ _ h := nomatch h
  bare _ _ := rfl

/-- Others make a directory with a file; the file is read, and the directory becomes a link
meanwhile. -/
def sampleReads : List (Turn SysChoice FileTree.Change Call) :=
  [.drift (.create [] "a" .directory), .drift (.create ["a"] "f" .file),
    .call 0 (.readBytes "a/f" none), .call 1 (.readBytes "../f" none), .run 0 {}, .run 0 {},
    .drift (.move [] "a" [] "b"), .drift (.create [] "a" .symlink), .run 0 {}, .run 0 {},
    .run 0 {}, .run 0 {}, .run 0 { data := [97] }]

/-- The file is read where it is by now, and the way up is refused. -/
theorem paths_stay_inside_sampleReads :
    ∃ p, (shared (fun _ ↦ "digest") 0 sampleTree).pool.Reachable p ∧
      p.state.touched = [2] ∧ (∃ a ∈ p.state.accesses, a.node = 2) ∧
      ∃ refusal, ((Call.readBytes "../f" none).method (fun _ ↦ "digest") 0).run =
        .done (.error (.safety refusal)) := by
  have hview : (((shared (fun _ ↦ "digest") 0 sampleTree).pool.exec
      (shared (fun _ ↦ "digest") 0 sampleTree).pool.init sampleReads).map fun p ↦
        p.state.touched) = some [2] := by decide +kernel
  obtain ⟨p, hexec, hread⟩ := Option.map_eq_some_iff.mp hview
  have hreach : (shared (fun _ ↦ "digest") 0 sampleTree).pool.Reachable p := .of_exec hexec
  obtain ⟨-, htouched, hrefused⟩ := paths_stay_inside hreach
  refine ⟨p, hreach, hread, htouched 2 ?_, hrefused _ (.inr (.inr (.inl (by decide))))⟩
  rw [hread]
  exact List.mem_cons_self

end WorkspacePaths

end HibikiCore
