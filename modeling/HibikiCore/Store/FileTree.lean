import HibikiCore.Store.Table

/-!
# File trees

Inodes, and the entries of those that are directories. An entry may lead to a symbolic link; nothing
here follows it. A directory whose entry was taken away is empty and stays empty, also for those who
still hold it.

What matters is where a process can be that holds a directory and is led from one real child
directory to the next while others rearrange the tree: below its root, or in a directory that is no
more.
-/

namespace HibikiCore

inductive FileKind
  | directory | file | symlink | special
  deriving DecidableEq, Repr

structure FileTree where
  kind : Nat → FileKind
  entries : Nat → Table String Nat
  /-- The directories that were taken away. -/
  removed : Nat → Bool
  /-- The first inode that is not in use. -/
  next : Nat
  allocated : ∀ d name i, (entries d).find? name = some i → i < next
  bare : ∀ d, removed d = true ∨ next ≤ d → (entries d).rows = []

namespace FileTree

variable {t u v : FileTree} {root d d' i z : Nat} {name name' : String} {k : FileKind}

/-- The inode that an entry of a directory leads to. -/
def entry (t : FileTree) (d : Nat) (name : String) : Option Nat := (t.entries d).find? name

theorem entry_of_bare (h : (t.entries d).rows = []) : t.entry d name = none := by
  rw [entry, Table.find?, h]
  rfl

theorem removed_eq_false (h : t.entry d name = some i) : t.removed d = false := by
  by_contra hremoved
  rw [entry_of_bare (t.bare d (.inl (by simpa using hremoved)))] at h
  cases h

/-- What is reached from a directory by real child directories. -/
inductive Reached (t : FileTree) (root : Nat) : Nat → Prop
  | root : Reached t root root
  | child {d i : Nat} (name : String) (parent : Reached t root d)
      (entry : t.entry d name = some i) (kind : t.kind i = .directory) : Reached t root i

/-- A directory that is below the root, or that is no more. -/
def Held (t : FileTree) (root d : Nat) : Prop := t.Reached root d ∨ t.removed d = true

theorem Held.reached (h : t.Held root d) (hremoved : t.removed d = false) : t.Reached root d := by
  rcases h with h | h
  · exact h
  · rw [hremoved] at h
    cases h

/-- Whoever holds a directory still does. -/
def Keeps (root : Nat) (t u : FileTree) : Prop := ∀ d, t.Held root d → u.Held root d

theorem Keeps.refl (t : FileTree) : Keeps root t t := fun _ h ↦ h

theorem Keeps.trans (h : Keeps root t u) (h' : Keeps root u v) : Keeps root t v :=
  fun d hd ↦ h' d (h d hd)

/-- It is enough to look at the directories that are reached, from the root on: the parent of each
one is still reached when its turn comes. -/
theorem keeps_of_edges (hremoved : ∀ d, t.removed d = true → u.removed d = true)
    (hbare : ∀ d, u.removed d = true → (t.entries d).rows = [])
    (hedge : ∀ d name i, u.Reached root d → t.entry d name = some i → t.kind i = .directory →
      u.Held root i) : Keeps root t u := by
  have hreached (z : Nat) (h : t.Reached root z) : u.Held root z := by
    induction h with
    | root => exact .inl .root
    | @child d i name _ hentry hkind ih =>
      refine hedge d name i (ih.reached ?_) hentry hkind
      by_contra hgone
      rw [entry_of_bare (hbare d (by simpa using hgone))] at hentry
      cases hentry
  intro d hd
  rcases hd with h | h
  · exact hreached d h
  · exact .inr (hremoved d h)

/-! ## Changes -/

/-- A new inode. -/
def grow (t : FileTree) (k : FileKind) : FileTree where
  kind i := if i = t.next then k else t.kind i
  entries := t.entries
  removed := t.removed
  next := t.next + 1
  allocated d name i h := Nat.lt_succ_of_lt (t.allocated d name i h)
  bare d h := t.bare d (h.imp id Nat.le_of_succ_le)

theorem grow_keeps : Keeps root t (t.grow k) := by
  refine keeps_of_edges (fun _ ↦ id) (fun d hd ↦ t.bare d (.inl hd)) fun d name i hd hentry hkind ↦ ?_
  have hne : i ≠ t.next := Nat.ne_of_lt (t.allocated d name i hentry)
  refine .inl (hd.child name hentry ?_)
  change (if i = t.next then k else t.kind i) = .directory
  rwa [if_neg hne]

/-- A new entry of a directory. -/
def addEntry (t : FileTree) (d : Nat) (name : String) (i : Nat) : Option FileTree :=
  if h : t.removed d = false ∧ d < t.next ∧ i < t.next ∧ t.entry d name = none then
    some
      { t with
        entries := fun x ↦ if x = d then (t.entries d).insert name i else t.entries x
        allocated := fun x n j hj ↦ by
          split at hj
          · rw [Table.find?_insert h.2.2.2] at hj
            split at hj
            · exact Option.some.inj hj ▸ h.2.2.1
            · exact t.allocated d n j hj
          · exact t.allocated x n j hj
        bare := fun x hx ↦ by
          have hne : x ≠ d := by
            rintro rfl
            rcases hx with hx | hx
            · exact Bool.false_ne_true (h.1.symm.trans hx)
            · exact absurd h.2.1 (Nat.not_lt.mpr hx)
          rw [if_neg hne]
          exact t.bare x hx }
  else none

theorem addEntry_some (h : t.addEntry d name i = some u) :
    t.entry d name = none ∧ t.removed d = false ∧ u.kind = t.kind ∧ u.removed = t.removed ∧
      ∀ x n, u.entry x n = if x = d ∧ n = name then some i else t.entry x n := by
  rw [addEntry] at h
  split at h
  · next hnew =>
    obtain rfl := Option.some.inj h
    refine ⟨hnew.2.2.2, hnew.1, rfl, rfl, fun x n ↦ ?_⟩
    by_cases hx : x = d
    · subst hx
      simp only [entry, if_true, true_and]
      exact Table.find?_insert hnew.2.2.2 i n
    · simp [entry, hx]
  · cases h

/-- An entry is taken away. -/
def dropEntry (t : FileTree) (d : Nat) (name : String) : FileTree where
  kind := t.kind
  entries x := if x = d then (t.entries d).erase name else t.entries x
  removed := t.removed
  next := t.next
  allocated x n j hj := by
    split at hj
    · rw [Table.find?_erase] at hj
      split at hj
      · cases hj
      · exact t.allocated d n j hj
    · exact t.allocated x n j hj
  bare x hx := by
    split
    · next hd =>
      subst hd
      simp [Table.erase, t.bare x hx]
    · exact t.bare x hx

theorem entry_dropEntry (t : FileTree) (d : Nat) (name : String) (x : Nat) (n : String) :
    (t.dropEntry d name).entry x n = if x = d ∧ n = name then none else t.entry x n := by
  by_cases hx : x = d
  · subst hx
    simp only [dropEntry, entry, if_true, true_and]
    exact Table.find?_erase _ _ _
  · simp [dropEntry, entry, hx]

/-- An empty directory is no more. -/
def retire (t : FileTree) (i : Nat) (h : (t.entries i).rows = []) : FileTree :=
  { t with
    removed := fun x ↦ t.removed x || x == i
    bare := fun x hx ↦ by
      rw [Bool.or_eq_true, beq_iff_eq, or_assoc] at hx
      rcases hx with hx | rfl | hx
      · exact t.bare x (.inl hx)
      · exact h
      · exact t.bare x (.inr hx) }

/-! ## Operations -/

/-- An entry for a new inode. -/
def create (t : FileTree) (d : Nat) (name : String) (k : FileKind) : Option FileTree :=
  (t.grow k).addEntry d name t.next

/-- Another entry for an inode that is no directory. -/
def link (t : FileTree) (d : Nat) (name : String) (i : Nat) : Option FileTree :=
  if t.kind i = .directory then none else t.addEntry d name i

/-- Takes an entry away; a directory has to be empty. -/
def unlink (t : FileTree) (d : Nat) (name : String) : Option FileTree :=
  match t.entry d name with
  | none => none
  | some i =>
    if t.kind i = .directory then
      if h : (t.entries i).rows = [] then some ((t.retire i h).dropEntry d name) else none
    else some (t.dropEntry d name)

/-- Moves an entry, to a name that may be taken: by the same inode, or by one that can be taken
away for it. -/
def rename (t : FileTree) (d : Nat) (name : String) (d' : Nat) (name' : String) :
    Option FileTree :=
  match t.entry d name with
  | none => none
  | some i =>
    match t.entry d' name' with
    | none => (t.addEntry d' name' i).map (·.dropEntry d name)
    | some j =>
      if i = j then some t
      else if (t.kind i = .directory) ↔ (t.kind j = .directory) then
        (t.unlink d' name').bind fun u ↦ (u.addEntry d' name' i).map (·.dropEntry d name)
      else none

theorem addEntry_keeps (h : t.addEntry d name i = some u) : Keeps root t u := by
  obtain ⟨hnone, -, hkind, hremoved, hentry⟩ := addEntry_some h
  refine keeps_of_edges (fun x hx ↦ hremoved ▸ hx) (fun x hx ↦ t.bare x (.inl (hremoved ▸ hx)))
    fun x n j hx hj hk ↦ .inl (hx.child n ?_ (hkind ▸ hk))
  rw [hentry, if_neg]
  · exact hj
  · rintro ⟨rfl, rfl⟩
    rw [hnone] at hj
    cases hj

theorem create_keeps (h : t.create d name k = some u) : Keeps root t u :=
  grow_keeps.trans (addEntry_keeps h)

theorem link_keeps (h : t.link d name i = some u) : Keeps root t u := by
  rw [link] at h
  split at h
  · cases h
  · exact addEntry_keeps h

/-- An entry is taken away whose inode is reached otherwise, if it is a directory. -/
theorem dropEntry_keeps (hi : t.entry d name = some i)
    (hother : t.kind i = .directory → (t.dropEntry d name).Reached root d →
      (t.dropEntry d name).Reached root i) : Keeps root t (t.dropEntry d name) := by
  refine keeps_of_edges (fun _ ↦ id) (fun x hx ↦ t.bare x (.inl hx)) fun x n j hx hj hk ↦ .inl ?_
  by_cases hsame : x = d ∧ n = name
  · obtain ⟨rfl, rfl⟩ := hsame
    obtain rfl := Option.some.inj (hi.symm.trans hj)
    exact hother hk hx
  · refine hx.child n ?_ hk
    rwa [entry_dropEntry, if_neg hsame]

theorem unlink_some (h : t.unlink d name = some u) :
    u.kind = t.kind ∧ ∀ x n, u.entry x n = if x = d ∧ n = name then none else t.entry x n := by
  rw [unlink] at h
  split at h
  · cases h
  · next i hi =>
    split at h
    · split at h
      · next hempty =>
        obtain rfl := Option.some.inj h
        exact ⟨rfl, fun x n ↦ entry_dropEntry _ d name x n⟩
      · cases h
    · obtain rfl := Option.some.inj h
      exact ⟨rfl, fun x n ↦ entry_dropEntry _ d name x n⟩

theorem unlink_keeps (h : t.unlink d name = some u) : Keeps root t u := by
  rw [unlink] at h
  split at h
  · cases h
  · next i hi =>
    split at h
    · split at h
      · next hempty =>
        obtain rfl := Option.some.inj h
        have hgone (x : Nat) : (t.retire i hempty).removed x = true ↔ t.removed x = true ∨ x = i := by
          simp [retire]
        refine keeps_of_edges (fun x hx ↦ (hgone x).mpr (.inl hx)) (fun x hx ↦ ?_) ?_
        · rcases (hgone x).mp hx with hx | rfl
          · exact t.bare x (.inl hx)
          · exact hempty
        · intro x n j hx hj hk
          by_cases hsame : x = d ∧ n = name
          · obtain ⟨rfl, rfl⟩ := hsame
            exact .inr ((hgone j).mpr (.inr (Option.some.inj (hj.symm.trans hi))))
          · refine .inl (hx.child n ?_ hk)
            rw [entry_dropEntry, if_neg hsame]
            exact hj
      · cases h
    · next hkind =>
      obtain rfl := Option.some.inj h
      exact dropEntry_keeps hi fun hk ↦ absurd hk hkind

/-- An inode gets another entry, and then the old one is taken away. -/
theorem move_keeps (hi : t.entry d name = some i) (h : t.addEntry d' name' i = some u)
    (hdst : t.kind i = .directory → (u.dropEntry d name).Reached root d →
      (u.dropEntry d name).Reached root d') : Keeps root t (u.dropEntry d name) := by
  obtain ⟨hnone, -, hkind, -, hentry⟩ := addEntry_some h
  have hne : ¬(d' = d ∧ name' = name) := by
    rintro ⟨rfl, rfl⟩
    rw [hnone] at hi
    cases hi
  have hold : u.entry d name = some i := by
    rw [hentry, if_neg fun hsame ↦ hne ⟨hsame.1.symm, hsame.2.symm⟩]
    exact hi
  refine (addEntry_keeps h).trans (dropEntry_keeps hold fun hk hd ↦ ?_)
  refine (hdst (hkind ▸ hk) hd).child name' ?_ hk
  rw [entry_dropEntry, if_neg hne, hentry, if_pos ⟨rfl, rfl⟩]

/-- Whoever holds a directory holds it after a move, if the directory that is moved to is still
reached. -/
theorem rename_keeps (h : t.rename d name d' name' = some v)
    (hdst : v.Reached root d → v.Reached root d') : Keeps root t v := by
  rw [rename] at h
  split at h
  · cases h
  · next i hi =>
    split at h
    · obtain ⟨u, hadd, rfl⟩ := Option.map_eq_some_iff.mp h
      exact move_keeps hi hadd fun _ ↦ hdst
    · next j hj =>
      split at h
      · obtain rfl := Option.some.inj h
        exact Keeps.refl t
      · next hne =>
        split at h
        · obtain ⟨u₁, hunlink, hrest⟩ := Option.bind_eq_some_iff.mp h
          obtain ⟨u, hadd, rfl⟩ := Option.map_eq_some_iff.mp hrest
          obtain ⟨-, hentry⟩ := unlink_some hunlink
          refine (unlink_keeps hunlink).trans (move_keeps ?_ hadd fun _ ↦ hdst)
          rw [hentry, if_neg]
          · exact hi
          · rintro ⟨rfl, rfl⟩
            exact hne (Option.some.inj (hi.symm.trans hj))
        · cases h

/-- A new inode has a new entry. -/
theorem create_some (h : t.create d name k = some u) :
    t.entry d name = none ∧ (u.kind = fun i ↦ if i = t.next then k else t.kind i) ∧
      ∀ x n, u.entry x n = if x = d ∧ n = name then some t.next else t.entry x n := by
  obtain ⟨hnone, -, hkind, -, hentry⟩ := addEntry_some h
  exact ⟨hnone, hkind, hentry⟩

/-- An inode gets another entry, and then the old one is taken away. -/
theorem move_some (h : t.addEntry d' name' i = some u) :
    u.kind = t.kind ∧ ∀ x n, (u.dropEntry d name).entry x n =
      if x = d ∧ n = name then none else if x = d' ∧ n = name' then some i else t.entry x n := by
  obtain ⟨-, -, hkind, -, hentry⟩ := addEntry_some h
  refine ⟨hkind, fun x n ↦ ?_⟩
  rw [entry_dropEntry, hentry]

/-- A move does nothing if the inode is there already. Otherwise its old entry is gone and the new
one leads to it, in the place of nothing or of something of its kind. -/
theorem rename_some (h : t.rename d name d' name' = some v) (hi : t.entry d name = some i) :
    t.entry d' name' = some i ∧ v = t ∨
      t.entry d' name' ≠ some i ∧ v.kind = t.kind ∧
        (∀ j, t.entry d' name' = some j → (t.kind i = .directory ↔ t.kind j = .directory)) ∧
        ∀ x n, v.entry x n =
          if x = d ∧ n = name then none else if x = d' ∧ n = name' then some i
          else t.entry x n := by
  rw [rename, hi] at h
  dsimp only at h
  split at h
  · next hnone =>
    obtain ⟨u, hadd, rfl⟩ := Option.map_eq_some_iff.mp h
    obtain ⟨hkind, hentry⟩ := move_some hadd
    refine .inr ⟨fun hsome ↦ (nomatch hnone.symm.trans hsome), hkind, fun j hj ↦ ?_, hentry⟩
    cases hnone.symm.trans hj
  · next j hj =>
    split at h
    · next hsame =>
      obtain rfl := Option.some.inj h
      exact .inl ⟨hsame ▸ hj, rfl⟩
    · next hne =>
      split at h
      · next hkinds =>
        obtain ⟨u₁, hunlink, hrest⟩ := Option.bind_eq_some_iff.mp h
        obtain ⟨u, hadd, rfl⟩ := Option.map_eq_some_iff.mp hrest
        obtain ⟨hkind₁, hentry₁⟩ := unlink_some hunlink
        obtain ⟨hkind, hentry⟩ := move_some hadd
        refine .inr ⟨fun hsome ↦ hne (Option.some.inj (hsome.symm.trans hj)), hkind.trans hkind₁,
          fun j' hj' ↦ ?_, fun x n ↦ ?_⟩
        · obtain rfl := Option.some.inj (hj.symm.trans hj')
          exact hkinds
        · rw [hentry, hentry₁]
          split
          · rfl
          · split
            · rfl
            · rfl
      · cases h

/-- The name that an inode is moved to leads to it. -/
theorem rename_entry (h : t.rename d name d' name' = some v) (hi : t.entry d name = some i) :
    v.entry d' name' = some i := by
  rcases rename_some h hi with ⟨hsame, rfl⟩ | ⟨hne, -, -, hentry⟩
  · exact hsame
  · rw [hentry, if_neg, if_pos ⟨rfl, rfl⟩]
    rintro ⟨rfl, rfl⟩
    exact hne hi

/-! ## Changes below a root -/

/-- Walks through real child directories that are not to be avoided. -/
def descend (t : FileTree) (avoid : Option Nat) : Nat → List String → Option Nat
  | d, [] => some d
  | d, name :: names =>
    match t.entry d name with
    | some i => if t.kind i = .directory ∧ some i ≠ avoid then t.descend avoid i names else none
    | none => none

/-- What is walked to stays reached if the edges of the walk stay. -/
theorem descend_reached {avoid : Option Nat} {names : List String}
    (hkind : u.kind = t.kind)
    (hedge : ∀ x n j, t.entry x n = some j → some j ≠ avoid → u.entry x n = some j)
    (h : t.descend avoid d names = some z) (hd : u.Reached root d) : u.Reached root z := by
  induction names generalizing d with
  | nil =>
    obtain rfl := Option.some.inj h
    exact hd
  | cons name names ih =>
    rw [descend] at h
    split at h
    · next i hi =>
      split at h
      · next hdir => exact ih h (hd.child name (hedge d name i hi hdir.2) (hkind ▸ hdir.1))
      · cases h
    · cases h

/-- A walk comes to the same directory if the entries that lead to directories stay. -/
theorem descend_some {names : List String} (hedge : ∀ x n j, t.entry x n = some j →
      t.kind j = .directory → u.entry x n = some j ∧ u.kind j = .directory)
    (h : t.descend none d names = some z) : u.descend none d names = some z := by
  induction names generalizing d with
  | nil => exact h
  | cons name names ih =>
    rw [descend] at h ⊢
    split at h
    · next i hi =>
      split at h
      · next hdir =>
        obtain ⟨hi', hkind⟩ := hedge d name i hi hdir.1
        rw [hi']
        dsimp only
        rw [if_pos ⟨hkind, hdir.2⟩]
        exact ih h
      · cases h
    · cases h

/-- What can be done to the tree below a root by someone who names directories by the way to them. To
replace an entry is to take it away and to make another one. -/
inductive Change
  | create (dir : List String) (name : String) (kind : FileKind)
  | link (dir : List String) (name : String) (i : Nat)
  | unlink (dir : List String) (name : String)
  /-- A directory is not moved below itself. -/
  | move (dir : List String) (name : String) (dir' : List String) (name' : String)

/-- A change that is possible. -/
def Change.attempt (root : Nat) (t : FileTree) : Change → Option FileTree
  | .create dir name kind => do t.create (← t.descend none root dir) name kind
  | .link dir name i => do t.link (← t.descend none root dir) name i
  | .unlink dir name => do t.unlink (← t.descend none root dir) name
  | .move dir name dir' name' => do
    let d ← t.descend none root dir
    let i ← t.entry d name
    let d' ← t.descend (some i) root dir'
    if t.entry d' name' = none then t.rename d name d' name' else none

def Change.apply (root : Nat) (c : Change) (t : FileTree) : FileTree := (c.attempt root t).getD t

theorem Change.apply_keeps (c : Change) : Keeps root t (c.apply root t) := by
  rw [Change.apply]
  cases h : c.attempt root t with
  | none => exact Keeps.refl t
  | some v =>
    rw [Option.getD_some]
    cases c with
    | create dir name kind =>
      obtain ⟨d, -, hcreate⟩ := Option.bind_eq_some_iff.mp h
      exact create_keeps hcreate
    | link dir name i =>
      obtain ⟨d, -, hlink⟩ := Option.bind_eq_some_iff.mp h
      exact link_keeps hlink
    | unlink dir name =>
      obtain ⟨d, -, hunlink⟩ := Option.bind_eq_some_iff.mp h
      exact unlink_keeps hunlink
    | move dir name dir' name' =>
      obtain ⟨d, -, h₁⟩ := Option.bind_eq_some_iff.mp h
      obtain ⟨i, hi, h₂⟩ := Option.bind_eq_some_iff.mp h₁
      obtain ⟨d', hd', h₃⟩ := Option.bind_eq_some_iff.mp h₂
      split at h₃
      · next hnone =>
        refine rename_keeps h₃ fun _ ↦ ?_
        rw [rename, hi] at h₃
        simp only [hnone] at h₃
        obtain ⟨u, hadd, rfl⟩ := Option.map_eq_some_iff.mp h₃
        obtain ⟨-, -, hkind, -, hentry⟩ := addEntry_some hadd
        -- the walk to the new parent does not pass through what is moved
        refine descend_reached hkind (fun x n j hj hne ↦ ?_) hd' .root
        rw [entry_dropEntry, if_neg, hentry, if_neg]
        · exact hj
        · rintro ⟨rfl, rfl⟩
          rw [hnone] at hj
          cases hj
        · rintro ⟨rfl, rfl⟩
          exact hne (hj.symm.trans hi)
      · cases h₃

end FileTree

end HibikiCore
