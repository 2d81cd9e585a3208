import Mathlib.Logic.Function.Basic

/-!
# A disk behind a cache

A directory of files as the processes see it, and what of it is on the disk. What a process does is
seen at once; it reaches the disk when the system writes it back, the content of a file and the
entry of a name each by itself. A crash leaves, of every name, the entry that was seen or the one
that was on the disk, and anything at all in a file whose content was not written back.

A name is *durable* when its entry and the content of its file are on the disk. A crash changes
nothing under such a name.
-/

namespace HibikiCore

/-- A directory behind a cache; its files are numbered. -/
structure Disk (ν β : Type) where
  /-- The file under a name, as the processes see it. -/
  entry : ν → Option Nat
  /-- The file under a name, as it is on the disk. -/
  saved : ν → Option Nat
  /-- What a file holds, as the processes see it. -/
  content : Nat → β
  /-- What a file holds is on the disk. -/
  flushed : Nat → Bool
  /-- The number of the next file. -/
  fresh : Nat

namespace Disk

variable {ν β : Type}

/-- No name has a file. -/
def empty (nothing : β) : Disk ν β where
  entry _ := none
  saved _ := none
  content _ := nothing
  flushed _ := true
  fresh := 0

/-! ## What processes do -/

/-- What is read under a name. -/
def read (d : Disk ν β) (n : ν) : Option β := (d.entry n).map d.content

/-- Puts new content into a file. -/
def fill (d : Disk ν β) (file : Nat) (b : β) : Disk ν β :=
  { d with
    content := Function.update d.content file b
    flushed := Function.update d.flushed file false }

/-- Gives a name a new file. -/
def add [DecidableEq ν] (d : Disk ν β) (n : ν) : Disk ν β :=
  { d with
    entry := Function.update d.entry n (some d.fresh)
    fresh := d.fresh + 1 }

/-- Opens a name for writing: its file is emptied, or the name gets a file. -/
def create [DecidableEq ν] (d : Disk ν β) (n : ν) (nothing : β) : Disk ν β :=
  match d.entry n with
  | some file => d.fill file nothing
  | none => (d.add n).fill d.fresh nothing

/-- Writes the file under a name, if there is one. -/
def write (d : Disk ν β) (n : ν) (b : β) : Disk ν β :=
  match d.entry n with
  | some file => d.fill file b
  | none => d

/-- Gives the file under a name to another name. -/
def rename [DecidableEq ν] (d : Disk ν β) (source target : ν) : Disk ν β :=
  { d with
    entry := Function.update (Function.update d.entry target (d.entry source)) source none }

/-! ## What the system does -/

/-- Writes the content of a file back. -/
def flush (d : Disk ν β) (file : Nat) : Disk ν β :=
  { d with flushed := Function.update d.flushed file true }

/-- Writes the entry of a name back. -/
def sync [DecidableEq ν] (d : Disk ν β) (n : ν) : Disk ν β :=
  { d with saved := Function.update d.saved n (d.entry n) }

/-- What is there after a crash: `kept` are the names whose entry reached the disk, and `remains` is
what is found in the files that were not written back. -/
def crash (d : Disk ν β) (kept : ν → Bool) (remains : Nat → β) : Disk ν β where
  entry n := if kept n then d.entry n else d.saved n
  saved n := if kept n then d.entry n else d.saved n
  content file := if d.flushed file then d.content file else remains file
  flushed _ := true
  fresh := d.fresh

/-! ## What they leave alone -/

/-- A name has a file, as the processes see it or on the disk. -/
def Holds (d : Disk ν β) (n : ν) (file : Nat) : Prop :=
  d.entry n = some file ∨ d.saved n = some file

/-- What is under a name is on the disk. -/
structure Durable (d : Disk ν β) (n : ν) : Prop where
  entry : d.saved n = d.entry n
  content : ∀ file, d.entry n = some file → d.flushed file = true

variable {d : Disk ν β} {n m : ν} {file other : Nat} {b : β}

@[simp] theorem entry_fill : (d.fill file b).entry = d.entry := rfl

@[simp] theorem saved_fill : (d.fill file b).saved = d.saved := rfl

@[simp] theorem fresh_fill : (d.fill file b).fresh = d.fresh := rfl

@[simp] theorem content_fill_self : (d.fill file b).content file = b := Function.update_self ..

theorem content_fill_of_ne (h : other ≠ file) : (d.fill file b).content other = d.content other :=
  Function.update_of_ne h ..

theorem entry_add [DecidableEq ν] :
    (d.add n).entry m = if m = n then some d.fresh else d.entry m :=
  Function.update_apply ..

/-- The file a name gets is new. -/
theorem holds_add [DecidableEq ν] (h : (d.add n).Holds m file) :
    d.Holds m file ∨ m = n ∧ file = d.fresh := by
  rcases h with h | h
  · rw [entry_add] at h
    split at h
    · next hm => exact .inr ⟨hm, (Option.some.inj h).symm⟩
    · exact .inl (.inl h)
  · exact .inl (.inr h)

theorem entry_create_of_ne [DecidableEq ν] (h : m ≠ n) :
    (d.create n b).entry m = d.entry m := by
  rw [create]
  cases d.entry n with
  | none => exact entry_add.trans (if_neg h)
  | some file => rfl

/-- A name that is opened for writing has a file. -/
theorem entry_create_self [DecidableEq ν] : ((d.create n b).entry n).isSome = true := by
  rw [create]
  cases hfile : d.entry n with
  | none =>
    rw [entry_fill, entry_add, if_pos rfl]
    rfl
  | some file =>
    rw [entry_fill, hfile]
    rfl

@[simp] theorem entry_write : (d.write n b).entry = d.entry := by
  rw [write]
  cases d.entry n <;> rfl

/-- What was written under a name is read there. -/
theorem read_write (h : (d.entry n).isSome = true) : (d.write n b).read n = some b := by
  obtain ⟨file, hfile⟩ := Option.isSome_iff_exists.mp h
  rw [write, hfile, read, entry_fill, hfile]
  exact congrArg some content_fill_self

@[simp] theorem entry_flush : (d.flush file).entry = d.entry := rfl

@[simp] theorem saved_flush : (d.flush file).saved = d.saved := rfl

@[simp] theorem content_flush : (d.flush file).content = d.content := rfl

@[simp] theorem entry_sync [DecidableEq ν] : (d.sync n).entry = d.entry := rfl

@[simp] theorem content_sync [DecidableEq ν] : (d.sync n).content = d.content := rfl

theorem saved_sync [DecidableEq ν] : (d.sync n).saved m = if m = n then d.entry n else d.saved m :=
  Function.update_apply ..

theorem holds_sync [DecidableEq ν] (h : (d.sync n).Holds m file) : d.Holds m file := by
  rcases h with h | h
  · exact .inl h
  · rw [saved_sync] at h
    split at h
    · next hm => exact .inl (hm ▸ h)
    · exact .inr h

theorem entry_rename [DecidableEq ν] {k : ν} :
    (d.rename n m).entry k = if k = n then none else if k = m then d.entry n else d.entry k := by
  simp only [rename, Function.update_apply]

/-- A rename gives the new name the file that the old one had. -/
theorem holds_rename [DecidableEq ν] {k : ν} (h : (d.rename n m).Holds k file) :
    d.Holds k file ∨ k = m ∧ d.entry n = some file := by
  rcases h with h | h
  · rw [entry_rename] at h
    split at h
    · cases h
    · split at h
      · next hk => exact .inr ⟨hk, h⟩
      · exact .inl (.inl h)
  · exact .inl (.inr h)

/-- A crash gives no name a file that it did not have. -/
theorem holds_crash {kept : ν → Bool} {remains : Nat → β}
    (h : (d.crash kept remains).Holds n file) : d.Holds n file := by
  have hentry : (if kept n then d.entry n else d.saved n) = some file := h.elim id id
  split at hentry
  · exact .inl hentry
  · exact .inr hentry

theorem content_crash {kept : ν → Bool} {remains : Nat → β} (h : d.flushed file = true) :
    (d.crash kept remains).content file = d.content file := by
  simp [crash, h]

end Disk

end HibikiCore
