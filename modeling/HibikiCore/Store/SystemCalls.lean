import HibikiCore.Concurrency.Methods
import HibikiCore.Store.FileTree
import HibikiCore.Store.Paths

/-!
# System calls on directories

The calls that name an entry of a directory that is open. A name that is no entry's, and a symbolic
link that is followed, lead wherever the environment likes; a call may also fail whenever it likes.
What a call opens, reads, creates, replaces or takes away is noted with the tree in which it was
found.

## Staying inside

`Walks` is the specification of calls that touch nothing but entries that are reached from a root by
real child directories, while others rearrange what is below the root. A descriptor of a directory
is good for such a call as long as the directory is held.
-/

namespace HibikiCore

inductive OsError
  | noEntry | exists | notDirectory | isDirectory | loop
  | other (errno : Nat)
  deriving DecidableEq, Repr

structure OpenFlags where
  write : Bool := false
  create : Bool := false
  exclusive : Bool := false
  truncate : Bool := false
  directory : Bool := false
  noFollow : Bool := false
  deriving DecidableEq, Repr

/-- What is not decided by the tree: whether a call fails, where it goes when it leaves the
directory, what is read, and how much of the data is written. -/
structure SysChoice where
  fault : Option OsError := none
  stray : Option Nat := none
  data : List UInt8 := []
  count : Nat := 0

/-- An inode that a call touched, with the tree in which it was found. -/
structure Access where
  tree : FileTree
  node : Nat

/-- The inode is an entry of a directory that is reached by real child directories. -/
def Access.Inside (root : Nat) (a : Access) : Prop :=
  ∃ d name, a.tree.Reached root d ∧ a.tree.entry d name = some a.node

structure Files where
  tree : FileTree
  contents : Nat → List UInt8 := fun _ ↦ []
  /-- What was opened, listed, looked at, created, replaced or taken away, latest first. -/
  accesses : List Access := []
  /-- What was read or written through descriptors, latest first. -/
  touched : List Nat := []

instance (name : String) : Decidable (PlainName name) :=
  decidable_of_iff (name ≠ "" ∧ name ≠ "." ∧ name ≠ ".." ∧ NoSlash name)
    ⟨fun h ↦ ⟨h.1, h.2.1, h.2.2.1, h.2.2.2⟩, fun h ↦ ⟨h.nonempty, h.here, h.up, h.noSlash⟩⟩

namespace Files

variable {s s' u : Files} {t : FileTree} {root d i : Nat} {name : String} {α β ε : Type}

/-! ## Calls -/

/-- The tree becomes another one, and an inode of it is touched. -/
def visit (s : Files) (t : FileTree) (i : Nat) : Files :=
  { s with tree := t, accesses := ⟨t, i⟩ :: s.accesses }

/-- A file gets another content. -/
def store (s : Files) (i : Nat) (content : List UInt8) : Files :=
  { s with contents := fun j ↦ if j = i then content else s.contents j }

/-- A call that has left its directory. -/
def strayed (x : SysChoice) (s : Files) : Except OsError Nat × Files :=
  match x.stray with
  | none => (.error .noEntry, s)
  | some i => (.ok i, s.visit s.tree i)

/-- A call that the environment lets happen. -/
def unlessFault (f : SysChoice → Files → Except OsError α × Files) (x : SysChoice) (s : Files) :
    Except OsError α × Files :=
  match x.fault with
  | some e => (.error e, s)
  | none => f x s

/-- Opens what an entry leads to. -/
def openFound (flags : OpenFlags) (i : Nat) (x : SysChoice) (s : Files) :
    Except OsError Nat × Files :=
  if flags.create && flags.exclusive then (.error .exists, s)
  else if s.tree.kind i = .symlink then
    if flags.noFollow then (.error (if flags.directory then .notDirectory else .loop), s)
    else strayed x s
  else if flags.directory && s.tree.kind i != .directory then (.error .notDirectory, s)
  else if flags.write && s.tree.kind i == .directory then (.error .isDirectory, s)
  else (.ok i, (if flags.truncate then s.store i [] else s).visit s.tree i)

def openat (d : Nat) (name : String) (flags : OpenFlags) :
    SysChoice → Files → Except OsError Nat × Files :=
  unlessFault fun x s ↦
    if PlainName name then
      match s.tree.entry d name with
      | some i => openFound flags i x s
      | none =>
        if flags.create then
          match s.tree.create d name .file with
          | some t => (.ok s.tree.next, (s.store s.tree.next []).visit t s.tree.next)
          | none => (.error .noEntry, s)
        else (.error .noEntry, s)
    else strayed x s

def mkdirat (d : Nat) (name : String) : SysChoice → Files → Except OsError Unit × Files :=
  unlessFault fun x s ↦
    if PlainName name then
      if (s.tree.entry d name).isSome then (.error .exists, s)
      else
        match s.tree.create d name .directory with
        | some t => (.ok (), s.visit t s.tree.next)
        | none => (.error .noEntry, s)
    else ((strayed x s).1.map fun _ ↦ (), (strayed x s).2)

/-- Looks at an entry; a link is not followed. -/
def fstatat (d : Nat) (name : String) : SysChoice → Files → Except OsError FileKind × Files :=
  unlessFault fun x s ↦
    if PlainName name then
      match s.tree.entry d name with
      | some i => (.ok (s.tree.kind i), s.visit s.tree i)
      | none => (.error .noEntry, s)
    else ((strayed x s).1.map s.tree.kind, (strayed x s).2)

def fstat (i : Nat) : SysChoice → Files → Except OsError FileKind × Files :=
  unlessFault fun _ s ↦ (.ok (s.tree.kind i), s)

/-- The names in a directory. -/
def listdir (d : Nat) : SysChoice → Files → Except OsError (List String) × Files :=
  unlessFault fun _ s ↦
    (.ok ((s.tree.entries d).rows.map Prod.fst),
      { s with
        accesses := ((s.tree.entries d).rows.map fun row ↦ ⟨s.tree, row.2⟩) ++ s.accesses })

def read (i : Nat) : SysChoice → Files → Except OsError (List UInt8) × Files :=
  unlessFault fun x s ↦ (.ok x.data, { s with touched := i :: s.touched })

/-- Appends to a file; the result is how much was written, at least one byte of what there is. -/
def write (i : Nat) (data : List UInt8) : SysChoice → Files → Except OsError Nat × Files :=
  unlessFault fun x s ↦
    (.ok (max 1 (min x.count data.length)),
      { s.store i (s.contents i ++ data.take (max 1 (min x.count data.length))) with
        touched := i :: s.touched })

def fsync (_ : Nat) : SysChoice → Files → Except OsError Unit × Files :=
  unlessFault fun _ s ↦ (.ok (), s)

def dup (i : Nat) : SysChoice → Files → Except OsError Nat × Files :=
  unlessFault fun _ s ↦ (.ok i, s)

def close (_ : Nat) : SysChoice → Files → Except OsError Unit × Files :=
  unlessFault fun _ s ↦ (.ok (), s)

/-- Moves an entry of a directory to another name in it. -/
def renameat (d : Nat) (name name' : String) : SysChoice → Files → Except OsError Unit × Files :=
  unlessFault fun x s ↦
    if PlainName name ∧ PlainName name' then
      match s.tree.entry d name with
      | none => (.error .noEntry, s)
      | some i =>
        match s.tree.rename d name d name' with
        | none => (.error .isDirectory, s)
        | some t =>
          match s.tree.entry d name' with
          | none => (.ok (), s.visit t i)
          | some j => (.ok (), (s.visit s.tree j).visit t i)
    else ((strayed x s).1.map fun _ ↦ (), (strayed x s).2)

/-- Takes away the entry of a file. -/
def unlinkat (d : Nat) (name : String) : SysChoice → Files → Except OsError Unit × Files :=
  unlessFault fun x s ↦
    if PlainName name then
      match s.tree.entry d name with
      | none => (.error .noEntry, s)
      | some i =>
        if s.tree.kind i = .directory then (.error .isDirectory, s)
        else
          match s.tree.unlink d name with
          | none => (.error .noEntry, s)
          | some t => (.ok (), { s.visit s.tree i with tree := t })
    else ((strayed x s).1.map fun _ ↦ (), (strayed x s).2)

/-- A call of a program whose exceptions include the errors of the system. -/
def call (wrap : OsError → ε) (f : SysChoice → Files → Except OsError α × Files) :
    ExceptT ε (Method Files SysChoice) α :=
  Method.attempt fun x s ↦ ((f x s).1.mapError wrap, (f x s).2)

/-! ## Staying inside -/

/-- An inode that was touched before. -/
def Opened (s : Files) (i : Nat) : Prop := ∃ a ∈ s.accesses, a.node = i

/-- Directories stay held, and what is new among the accesses is inside. -/
structure Safe (root : Nat) (s s' : Files) : Prop where
  keeps : FileTree.Keeps root s.tree s'.tree
  grows : ∀ a ∈ s.accesses, a ∈ s'.accesses
  inside : ∀ a ∈ s'.accesses, a ∈ s.accesses ∨ a.Inside root
  touched : ∀ i ∈ s'.touched, i ∈ s.touched ∨ s'.Opened i

theorem Safe.refl (s : Files) : Safe root s s :=
  ⟨FileTree.Keeps.refl _, fun _ ↦ id, fun _ ↦ .inl, fun _ ↦ .inl⟩

theorem Safe.visit (hkeeps : FileTree.Keeps root s.tree t)
    (hinside : Access.Inside root ⟨t, i⟩) : Safe root s (s.visit t i) where
  keeps := hkeeps
  grows _ := List.mem_cons_of_mem _
  inside a ha := by
    rcases List.mem_cons.mp ha with rfl | ha
    · exact .inr hinside
    · exact .inl ha
  touched _ := .inl

/-- What is in the files does not matter. -/
theorem Safe.of_store {j : Nat} {content : List UInt8} (h : Safe root s (s.visit t i)) :
    Safe root s ((s.store j content).visit t i) :=
  ⟨h.keeps, h.grows, h.inside, h.touched⟩

theorem stable_held : Method.Stable (Safe root) fun s ↦ s.tree.Held root d :=
  fun _ _ h hsafe ↦ hsafe.keeps d h

theorem stable_opened : Method.Stable (Safe root) (Opened · i) := by
  rintro s s' ⟨a, ha, hnode⟩ hsafe
  exact ⟨a, hsafe.grows a ha, hnode⟩

/-- What an entry leads to is inside if its directory is held. -/
theorem inside_of_entry (hd : t.Held root d) (hi : t.entry d name = some i) :
    Access.Inside root ⟨t, i⟩ :=
  ⟨d, name, hd.reached (FileTree.removed_eq_false hi), hi⟩

/-- A call that begins under an assertion is safe, and what it returns satisfies another one. -/
def Sound (root : Nat) (A : Files → Prop) (f : SysChoice → Files → Except OsError α × Files)
    (post : α → Files → Prop) : Prop :=
  ∀ x s, A s → Safe root s (f x s).2 ∧ ∀ a, (f x s).1 = .ok a → post a (f x s).2

theorem Sound.unlessFault {A : Files → Prop} {post : α → Files → Prop}
    {f : SysChoice → Files → Except OsError α × Files} (h : Sound root A f post) :
    Sound root A (unlessFault f) post := by
  intro x s hs
  rw [Files.unlessFault]
  split
  · exact ⟨Safe.refl s, fun _ herror ↦ nomatch herror⟩
  · exact h x s hs

/-- A new entry is inside, and leads to the inode. -/
theorem create_inside {k : FileKind} (hd : s.tree.Held root d)
    (h : s.tree.create d name k = some t) : Access.Inside root ⟨t, s.tree.next⟩ := by
  obtain ⟨-, hremoved, -, hgone, hentry⟩ := FileTree.addEntry_some h
  have hkept : t.Held root d := FileTree.create_keeps h d hd
  refine ⟨d, name, hkept.reached (hgone ▸ hremoved), ?_⟩
  rw [hentry, if_pos ⟨rfl, rfl⟩]

theorem openFound_sound {flags : OpenFlags} (hflags : flags.noFollow = true)
    {x : SysChoice} (hd : s.tree.Held root d) (hi : s.tree.entry d name = some i) :
    Safe root s (openFound flags i x s).2 ∧ ∀ j, (openFound flags i x s).1 = .ok j →
      (openFound flags i x s).2.Opened j ∧
        (flags.directory = true → (openFound flags i x s).2.tree.Held root j) := by
  have hinside : Access.Inside root ⟨s.tree, i⟩ := inside_of_entry hd hi
  rw [openFound]
  split
  · exact ⟨Safe.refl s, fun _ h ↦ nomatch h⟩
  split
  · exact ⟨Safe.refl s, fun _ h ↦ nomatch h⟩
  split
  · exact ⟨Safe.refl s, fun _ h ↦ nomatch h⟩
  · next hdirectory =>
    split
    · exact ⟨Safe.refl s, fun _ h ↦ nomatch h⟩
    · refine ⟨?_, fun j hj ↦ ?_⟩
      · split
        · exact (Safe.visit (FileTree.Keeps.refl _) hinside).of_store
        · exact Safe.visit (FileTree.Keeps.refl _) hinside
      obtain rfl := Except.ok.inj hj
      refine ⟨⟨_, List.mem_cons_self, rfl⟩, fun hflag ↦ .inl ?_⟩
      obtain ⟨d, name, hreached, hentry⟩ := hinside
      have hkind : s.tree.kind i = .directory := by simpa [hflag] using hdirectory
      exact hreached.child name hentry hkind

/-- What is opened by a plain name, without following a link, is an entry of the directory; if it has
to be a directory, it is held. -/
theorem openat_sound {flags : OpenFlags} (hname : PlainName name)
    (hflags : flags.noFollow = true) :
    Sound root (fun s ↦ s.tree.Held root d) (openat d name flags)
      fun i s ↦ s.Opened i ∧ (flags.directory = true → flags.create = false →
        s.tree.Held root i) := by
  refine Sound.unlessFault fun x s hd ↦ ?_
  rw [if_pos hname]
  split
  · next i hi =>
    obtain ⟨hsafe, hfound⟩ := openFound_sound (x := x) hflags hd hi
    exact ⟨hsafe, fun j hj ↦ ⟨(hfound j hj).1, fun h _ ↦ (hfound j hj).2 h⟩⟩
  · split
    · next hcreate =>
      split
      · next t ht =>
        refine ⟨(Safe.visit (FileTree.create_keeps ht) (create_inside hd ht)).of_store,
          fun j hj ↦ ?_⟩
        obtain rfl := Except.ok.inj hj
        refine ⟨⟨_, List.mem_cons_self, rfl⟩, fun _ hno ↦ ?_⟩
        rw [hcreate] at hno
        cases hno
      · exact ⟨Safe.refl s, fun _ h ↦ nomatch h⟩
    · exact ⟨Safe.refl s, fun _ h ↦ nomatch h⟩

theorem mkdirat_sound (hname : PlainName name) :
    Sound root (fun s ↦ s.tree.Held root d) (mkdirat d name) fun _ _ ↦ True := by
  refine Sound.unlessFault fun x s hd ↦ ⟨?_, fun _ _ ↦ trivial⟩
  rw [if_pos hname]
  split
  · exact Safe.refl s
  · split
    · next t ht => exact Safe.visit (FileTree.create_keeps ht) (create_inside hd ht)
    · exact Safe.refl s

theorem fstatat_sound (hname : PlainName name) :
    Sound root (fun s ↦ s.tree.Held root d) (fstatat d name) fun _ _ ↦ True := by
  refine Sound.unlessFault fun x s hd ↦ ⟨?_, fun _ _ ↦ trivial⟩
  rw [if_pos hname]
  split
  · next i hi => exact Safe.visit (FileTree.Keeps.refl _) (inside_of_entry hd hi)
  · exact Safe.refl s

theorem fstat_sound : Sound root (fun _ ↦ True) (fstat i) fun _ _ ↦ True :=
  Sound.unlessFault fun _ s _ ↦ ⟨Safe.refl s, fun _ _ ↦ trivial⟩

theorem fsync_sound : Sound root (fun _ ↦ True) (fsync i) fun _ _ ↦ True :=
  Sound.unlessFault fun _ s _ ↦ ⟨Safe.refl s, fun _ _ ↦ trivial⟩

theorem dup_sound : Sound root (fun _ ↦ True) (dup i) fun j _ ↦ j = i := by
  refine Sound.unlessFault fun _ s _ ↦ ⟨Safe.refl s, fun j hj ↦ ?_⟩
  exact (Except.ok.inj hj).symm

theorem close_sound : Sound root (fun _ ↦ True) (close i) fun _ _ ↦ True :=
  Sound.unlessFault fun _ s _ ↦ ⟨Safe.refl s, fun _ _ ↦ trivial⟩

theorem listdir_sound :
    Sound root (fun s ↦ s.tree.Held root d) (listdir d) fun _ _ ↦ True := by
  refine Sound.unlessFault fun x s hd ↦ ⟨⟨FileTree.Keeps.refl _, fun a ha ↦ ?_, fun a ha ↦ ?_,
    fun _ ↦ .inl⟩, fun _ _ ↦ trivial⟩
  · exact List.mem_append_right _ ha
  · rcases List.mem_append.mp ha with hnew | hold
    · obtain ⟨⟨name, i⟩, hrow, rfl⟩ := List.mem_map.mp hnew
      exact .inr (inside_of_entry hd (Table.find?_eq_some_iff.mpr hrow))
    · exact .inl hold

theorem touch_safe (h : s.Opened i) : Safe root s { s with touched := i :: s.touched } := by
  refine ⟨FileTree.Keeps.refl _, fun _ ↦ id, fun _ ↦ .inl, fun j hj ↦ ?_⟩
  rcases List.mem_cons.mp hj with rfl | hj
  · exact .inr h
  · exact .inl hj

theorem read_sound : Sound root (Opened · i) (read i) fun _ _ ↦ True :=
  Sound.unlessFault fun _ _ hi ↦ ⟨touch_safe hi, fun _ _ ↦ trivial⟩

theorem write_sound {data : List UInt8} :
    Sound root (Opened · i) (write i data) fun _ _ ↦ True := by
  refine Sound.unlessFault fun _ s hi ↦ ⟨?_, fun _ _ ↦ trivial⟩
  have htouched : Safe root s { s with touched := i :: s.touched } := touch_safe hi
  exact ⟨htouched.keeps, htouched.grows, htouched.inside, htouched.touched⟩

theorem renameat_sound {name' : String} (hname : PlainName name) (hname' : PlainName name') :
    Sound root (fun s ↦ s.tree.Held root d) (renameat d name name') fun _ _ ↦ True := by
  refine Sound.unlessFault fun x s hd ↦ ⟨?_, fun _ _ ↦ trivial⟩
  rw [if_pos ⟨hname, hname'⟩]
  split
  · exact Safe.refl s
  · next i hi =>
    split
    · exact Safe.refl s
    · next t ht =>
      have hkeeps : FileTree.Keeps root s.tree t := FileTree.rename_keeps ht id
      have hmoved : Access.Inside root ⟨t, i⟩ :=
        inside_of_entry (hkeeps d hd) (FileTree.rename_entry ht hi)
      split
      · exact Safe.visit hkeeps hmoved
      · next j hj =>
        have hreplaced : Access.Inside root ⟨s.tree, j⟩ := inside_of_entry hd hj
        refine ⟨hkeeps, fun a ha ↦ ?_, fun a ha ↦ ?_, fun _ ↦ .inl⟩
        · exact List.mem_cons_of_mem _ (List.mem_cons_of_mem _ ha)
        · rcases List.mem_cons.mp ha with rfl | ha
          · exact .inr hmoved
          · rcases List.mem_cons.mp ha with rfl | ha
            · exact .inr hreplaced
            · exact .inl ha

theorem unlinkat_sound (hname : PlainName name) :
    Sound root (fun s ↦ s.tree.Held root d) (unlinkat d name) fun _ _ ↦ True := by
  refine Sound.unlessFault fun x s hd ↦ ⟨?_, fun _ _ ↦ trivial⟩
  rw [if_pos hname]
  split
  · exact Safe.refl s
  · next i hi =>
    split
    · exact Safe.refl s
    · split
      · exact Safe.refl s
      · next t ht =>
        have hseen : Safe root s (s.visit s.tree i) :=
          Safe.visit (FileTree.Keeps.refl _) (inside_of_entry hd hi)
        exact ⟨FileTree.unlink_keeps ht, hseen.grows, hseen.inside, hseen.touched⟩

/-- What others do below the root is safe. -/
theorem change_safe (c : FileTree.Change) :
    Safe root s { s with tree := c.apply root s.tree } :=
  ⟨c.apply_keeps, fun _ ↦ id, fun _ ↦ .inl, fun _ ↦ .inl⟩

/-! ## Programs -/

variable {A B : Files → Prop} {post : α → Files → Prop} {post' : β → Files → Prop}
  {m : ExceptT ε (Method Files SysChoice) α}

/-- Under an assertion a program is safe, also while others rearrange the tree, and what it returns
satisfies another one. -/
def Walks (root : Nat) (A : Files → Prop) (m : ExceptT ε (Method Files SysChoice) α)
    (post : α → Files → Prop) : Prop :=
  Method.Meets (Safe root) (Safe root) (fun r s ↦ ∀ a, r = .ok a → post a s) A m

namespace Walks

theorem call {wrap : OsError → ε} {f : SysChoice → Files → Except OsError α × Files}
    (h : Sound root A f post) (hstable : ∀ a, Method.Stable (Safe root) (post a)) :
    Walks root A (call wrap f) post := by
  refine Method.Meets.attempt (fun x s hs ↦ (h x s hs).1) (fun x s hs a ha ↦ ?_) ?_
  · refine (h x s hs).2 a ?_
    dsimp only at ha
    cases hf : (f x s).1 with
    | error e =>
      rw [hf] at ha
      cases ha
    | ok b =>
      rw [hf] at ha
      obtain rfl := Except.ok.inj ha
      rfl
  · exact fun r s t hr hsafe a ha ↦ hstable a s t (hr a ha) hsafe

theorem pure {a : α} (h : ∀ s, A s → post a s) :
    Walks root A (Pure.pure a : ExceptT ε (Method Files SysChoice) α) post := by
  refine .done fun s hs b hb ↦ ?_
  obtain rfl := Except.ok.inj hb
  exact h s hs

theorem throw {e : ε} : Walks root A (throwThe ε e : ExceptT ε (Method Files SysChoice) α) post :=
  .done fun _ _ _ h ↦ nomatch h

theorem bind {f : α → ExceptT ε (Method Files SysChoice) β} (h : Walks root A m post)
    (hf : ∀ a, Walks root (post a) (f a) post') :
    Walks root A (m >>= f : ExceptT ε (Method Files SysChoice) β) post' := by
  refine Method.Meets.bind h (fun a ↦ ?_) fun e s _ b hb ↦ nomatch hb
  exact (hf a).weaken fun s hs ↦ hs a rfl

/-- What is computed without a system call goes before. -/
theorem bind_lift {r : Except ε α} {f : α → ExceptT ε (Method Files SysChoice) β}
    (h : ∀ a, r = .ok a → Walks root A (f a) post') :
    Walks root A (liftM r >>= f : ExceptT ε (Method Files SysChoice) β) post' := by
  cases r with
  | ok a => exact h a rfl
  | error e => exact .done fun _ _ _ hb ↦ nomatch hb

/-- What every safe change keeps stays. -/
theorem frame (hB : Method.Stable (Safe root) B) (h : Walks root A m post) :
    Walks root (fun s ↦ A s ∧ B s) m fun a s ↦ post a s ∧ B s := by
  refine (Method.Meets.frame hB hB h).mono (fun _ _ ↦ id) fun r s hr a ha ↦ ?_
  exact ⟨hr.1 a ha, hr.2⟩

theorem keep (hA : Method.Stable (Safe root) A) (h : Walks root A m post) :
    Walks root A m fun a s ↦ post a s ∧ A s :=
  Method.Meets.weaken (h.frame hA) fun _ hs ↦ ⟨hs, hs⟩

theorem weaken (h : Walks root A m post) (hA : ∀ s, B s → A s) : Walks root B m post :=
  Method.Meets.weaken h hA

theorem consequence {post₂ : α → Files → Prop} (h : Walks root A m post)
    (hpost : ∀ a s, post a s → post₂ a s) : Walks root A m post₂ :=
  Method.Meets.mono h (fun _ _ ↦ id) fun _ s hr a ha ↦ hpost a s (hr a ha)

/-- A handler runs under what every safe change keeps. -/
theorem tryCatch {g : ε → ExceptT ε (Method Files SysChoice) α}
    (hA : Method.Stable (Safe root) A) (h : Walks root A m post)
    (hg : ∀ e, Walks root A (g e) post) :
    Walks root A (tryCatchThe ε m g : ExceptT ε (Method Files SysChoice) α) post := by
  have hframed := (Method.Meets.frame hA hA h).weaken fun s hs ↦ ⟨hs, hs⟩
  exact Method.Meets.tryCatch hframed (fun _ _ ha ↦ ha.1) fun e ↦ (hg e).weaken fun _ hs ↦ hs.2

end Walks

end Files

end HibikiCore
