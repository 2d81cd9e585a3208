import HibikiCore.Tools.Paths

/-!
# Writing a file in one step

A file is replaced by writing a temporary one beside it and moving that to the name. Here nobody
interrupts the call, but every system call may fail, and a write may write less than it was given.
What a call may fail at is in the choices of the environment; the way to the directory, and what
happens there before the temporary file has its new name, are programs of their own, so that one can
ask of the choices what goes wrong when.
-/

namespace HibikiCore

namespace WorkspacePaths

open Files Method

variable {root parent fd d i : Nat} {name relative : String} {parts : List String}
  {content : List UInt8} {tmp : TempName} {xs ys zs : List SysChoice} {s s' t u : Files} {α β : Type}
  {r : Except PathError α}

/-! ## What stays -/

/-- The tree and what is in the files are the same. -/
structure Same (s t : Files) : Prop where
  tree : t.tree = s.tree
  contents : t.contents = s.contents

theorem Same.refl (s : Files) : Same s s := ⟨rfl, rfl⟩

theorem Same.trans (h : Same s t) (h' : Same t u) : Same s u :=
  ⟨h'.tree.trans h.tree, h'.contents.trans h.contents⟩

/-- A program that changes nothing. -/
structure Quiet (m : PathM α) : Prop where
  same : ∀ {xs s r t ys}, Yields m xs s r t ys → Same s t

/-- A system call takes one choice. -/
theorem sys_yields {f : SysChoice → Files → Except OsError α × Files} :
    Yields (sys f) xs s r t ys ↔
      ∃ x, xs = x :: ys ∧ r = (f x s).1.mapError .os ∧ t = (f x s).2 := Yields.attempt

theorem Quiet.pure (a : α) : Quiet (Pure.pure a : PathM α) where
  same h := by
    obtain ⟨-, rfl, -⟩ := Yields.pure.mp h
    exact .refl _

theorem Quiet.throw (e : PathError) : Quiet (throwThe PathError e : PathM α) where
  same h := by
    obtain ⟨-, rfl, -⟩ := Yields.throw.mp h
    exact .refl _

theorem Quiet.bind {m : PathM α} {f : α → PathM β} (h : Quiet m) (hf : ∀ a, Quiet (f a)) :
    Quiet (m >>= f : PathM β) where
  same hrun := by
    rcases Yields.bind.mp hrun with ⟨e, -, hm⟩ | ⟨a, u, zs, hm, hrest⟩
    · exact h.same hm
    · exact (h.same hm).trans ((hf a).same hrest)

theorem Quiet.tryCatch {m : PathM α} {g : PathError → PathM α} (h : Quiet m)
    (hg : ∀ e, Quiet (g e)) : Quiet (tryCatchThe PathError m g : PathM α) where
  same hrun := by
    rcases Yields.tryCatch.mp hrun with ⟨a, -, hm⟩ | ⟨e, u, zs, hm, hrest⟩
    · exact h.same hm
    · exact (h.same hm).trans ((hg e).same hrest)

theorem Quiet.sys {f : SysChoice → Files → Except OsError α × Files}
    (h : ∀ x s, Same s (f x s).2) : Quiet (sys f) where
  same hrun := by
    obtain ⟨x, -, -, rfl⟩ := sys_yields.mp hrun
    exact h x _

theorem Quiet.unlessFault {f : SysChoice → Files → Except OsError α × Files}
    (h : ∀ x s, Same s (f x s).2) : Quiet (WorkspacePaths.sys (unlessFault f)) := by
  refine .sys fun x s ↦ ?_
  rw [Files.unlessFault]
  split
  · exact .refl s
  · exact h x s

theorem strayed_same {x : SysChoice} : Same s (strayed x s).2 := by
  rw [strayed]
  split <;> exact ⟨rfl, rfl⟩

theorem close_quiet : Quiet (sys (close fd)) := .unlessFault fun _ s ↦ .refl s

theorem fsync_quiet : Quiet (sys (fsync fd)) := .unlessFault fun _ s ↦ .refl s

theorem dup_quiet : Quiet (sys (dup fd)) := .unlessFault fun _ s ↦ .refl s

theorem fstatat_quiet : Quiet (sys (fstatat parent name)) := by
  refine .unlessFault fun x s ↦ ?_
  split
  · split <;> exact ⟨rfl, rfl⟩
  · exact strayed_same

theorem openat_quiet {flags : OpenFlags} (hcreate : flags.create = false)
    (htruncate : flags.truncate = false) : Quiet (sys (openat parent name flags)) := by
  refine .unlessFault fun x s ↦ ?_
  split
  · split
    · rw [openFound, hcreate, htruncate]
      split
      · exact .refl s
      split
      · split
        · exact .refl s
        · exact strayed_same
      split
      · exact .refl s
      split
      · exact .refl s
      · exact ⟨rfl, rfl⟩
    · rw [hcreate]
      exact .refl s
  · exact strayed_same

theorem isSymlink_quiet : Quiet (isSymlink parent name) := by
  refine .tryCatch (fstatat_quiet.bind fun _ ↦ .pure _) fun e ↦ ?_
  cases e with
  | os => exact .pure _
  | safety => exact .throw _

theorem dirError_quiet (e : PathError) : Quiet (dirError parent name e) := by
  unfold dirError
  split
  · refine isSymlink_quiet.bind fun linked ↦ ?_
    split <;> exact .throw _
  · refine isSymlink_quiet.bind fun linked ↦ ?_
    split <;> exact .throw _
  · exact .throw _

/-! ## The way to the directory -/

theorem openDir_quiet : Quiet (openDir false parent name) := by
  refine .tryCatch (openat_quiet rfl rfl) fun e ↦ ?_
  split
  · exact .throw _
  · exact dirError_quiet _

theorem openNext_quiet : Quiet (openNext false fd name) :=
  .tryCatch (openDir_quiet.bind fun _ ↦ close_quiet.bind fun _ ↦ .pure _)
    fun _ ↦ close_quiet.bind fun _ ↦ .throw _

theorem walkFrom_quiet : Quiet (walkFrom false fd parts) := by
  induction parts generalizing fd with
  | nil => exact .pure _
  | cons name parts ih => exact openNext_quiet.bind fun _ ↦ ih

theorem walk_quiet : Quiet (walk false root parts) := dup_quiet.bind fun _ ↦ walkFrom_quiet

theorem openat_directory (hname : PlainName name)
    (h : Yields (sys (openat parent name dirFlags)) xs s (.ok i) t ys) :
    s.tree.entry parent name = some i ∧ s.tree.kind i = .directory := by
  obtain ⟨x, -, hr, -⟩ := sys_yields.mp h
  rw [openat, Files.unlessFault] at hr
  cases hfault : x.fault with
  | some e => simp [hfault, Except.mapError] at hr
  | none =>
    simp only [hfault, if_pos hname] at hr
    cases hentry : s.tree.entry parent name with
    | none => simp [hentry, dirFlags, Except.mapError] at hr
    | some j =>
      by_cases hlink : s.tree.kind j = .symlink
      · simp [hentry, openFound, dirFlags, hlink, Except.mapError] at hr
      · by_cases hdir : s.tree.kind j = .directory
        · simp only [hentry, openFound, dirFlags, hdir, Except.mapError] at hr
          obtain rfl : i = j := by simpa using hr
          exact ⟨rfl, hdir⟩
        · simp [hentry, openFound, dirFlags, hlink, hdir, Except.mapError] at hr

theorem throw_not_ok {e : PathError} {a : α} :
    ¬Yields (throwThe PathError e : PathM α) xs s (.ok a) t ys :=
  fun h ↦ nomatch (Yields.throw.mp h).1

theorem dirError_not_ok {e : PathError} : ¬Yields (dirError parent name e) xs s (.ok i) t ys := by
  have hlinked {e₁ e₂ : PathError} : ¬Yields (do
      if ← isSymlink parent name then throw e₁ else throw e₂ : PathM Nat) xs s (.ok i) t ys := by
    intro h
    rcases Yields.bind.mp h with ⟨_, h, -⟩ | ⟨linked, u, zs, -, h⟩
    · cases h
    · cases linked <;> exact throw_not_ok h
  unfold dirError
  split
  · exact hlinked
  · exact hlinked
  · exact throw_not_ok

/-- What a component is opened as is the child directory of this name. -/
theorem openNext_ok (hname : PlainName name)
    (h : Yields (openNext false fd name) xs s (.ok i) t ys) :
    s.tree.entry fd name = some i ∧ s.tree.kind i = .directory := by
  rcases Yields.tryCatch.mp h with ⟨_, hj, hm⟩ | ⟨_, _, _, -, hcatch⟩
  · obtain rfl := Except.ok.inj hj
    rcases Yields.bind.mp hm with ⟨_, hj, -⟩ | ⟨j, u, zs, hopen, hrest⟩
    · cases hj
    rcases Yields.bind.mp hrest with ⟨_, hj, -⟩ | ⟨_, _, _, -, hpure⟩
    · cases hj
    obtain rfl := Except.ok.inj (Yields.pure.mp hpure).1
    rcases Yields.tryCatch.mp hopen with ⟨_, hj, hm⟩ | ⟨_, _, _, -, hcatch⟩
    · obtain rfl := Except.ok.inj hj
      exact openat_directory hname hm
    · split at hcatch
      · exact absurd hcatch throw_not_ok
      · exact absurd hcatch dirError_not_ok
  · rcases Yields.bind.mp hcatch with ⟨_, hj, -⟩ | ⟨_, _, _, -, hthrow⟩
    · cases hj
    · exact absurd hthrow throw_not_ok

theorem walkFrom_ok (hplain : ∀ part ∈ parts, PlainName part)
    (h : Yields (walkFrom false fd parts) xs s (.ok d) t ys) :
    s.tree.descend none fd parts = some d := by
  induction parts generalizing fd xs s with
  | nil =>
    obtain rfl := Except.ok.inj (Yields.pure.mp h).1
    rfl
  | cons name parts ih =>
    rcases Yields.bind.mp h with ⟨_, hd, -⟩ | ⟨next, u, zs, hnext, hrest⟩
    · cases hd
    obtain ⟨hentry, hkind⟩ := openNext_ok (hplain name List.mem_cons_self) hnext
    have hlater := ih (fun part hpart ↦ hplain part (List.mem_cons_of_mem _ hpart)) hrest
    rw [(openNext_quiet.same hnext).tree] at hlater
    rw [FileTree.descend, hentry]
    dsimp only
    rw [if_pos ⟨hkind, by simp⟩]
    exact hlater

/-- A walk that does not raise comes to where the real child directories lead. -/
theorem walk_ok (hplain : ∀ part ∈ parts, PlainName part)
    (h : Yields (walk false root parts) xs s (.ok d) t ys) :
    s.tree.descend none root parts = some d := by
  rcases Yields.bind.mp h with ⟨_, hd, -⟩ | ⟨fd, u, zs, hdup, hrest⟩
  · cases hd
  obtain ⟨x, -, hr, -⟩ := sys_yields.mp hdup
  have hfd : fd = root := by
    rw [dup, Files.unlessFault] at hr
    cases hfault : x.fault <;> simp [hfault, Except.mapError] at hr
    exact hr
  have hlater := walkFrom_ok hplain hrest
  rwa [(dup_quiet.same hdup).tree, hfd] at hlater

/-! ## The temporary file -/

/-- What is at an entry. -/
def look (s : Files) (d : Nat) (name : String) : Option (FileKind × List UInt8) :=
  (s.tree.entry d name).map fun i ↦ (s.tree.kind i, s.contents i)

/-- Nothing but some entries of a directory has changed, and no inode that was in use. -/
structure Confined (d : Nat) (names : List String) (s t : Files) : Prop where
  entry : ∀ x n, ¬(x = d ∧ n ∈ names) → t.tree.entry x n = s.tree.entry x n
  kind : ∀ i < s.tree.next, t.tree.kind i = s.tree.kind i
  contents : ∀ i < s.tree.next, t.contents i = s.contents i

theorem Same.confined {names : List String} (h : Same s t) : Confined d names s t :=
  ⟨fun _ _ _ ↦ by rw [h.tree], fun _ _ ↦ by rw [h.tree], fun _ _ ↦ by rw [h.contents]⟩

theorem Confined.mono {names names' : List String} (h : Confined d names s t)
    (hsub : ∀ n ∈ names, n ∈ names') : Confined d names' s t :=
  ⟨fun x n hne ↦ h.entry x n fun hmem ↦ hne ⟨hmem.1, hsub n hmem.2⟩, h.kind, h.contents⟩

theorem Confined.same {names : List String} (h : Confined d names s t) (hsame : Same t u) :
    Confined d names s u where
  entry x n hne := by rw [hsame.tree, h.entry x n hne]
  kind i hi := by rw [hsame.tree, h.kind i hi]
  contents i hi := by rw [hsame.contents, h.contents i hi]

theorem Confined.after {names : List String} (h : Confined d names t u) (hsame : Same s t) :
    Confined d names s u where
  entry x n hne := by rw [h.entry x n hne, hsame.tree]
  kind i hi := by rw [h.kind i (hsame.tree ▸ hi), hsame.tree]
  contents i hi := by rw [h.contents i (hsame.tree ▸ hi), hsame.contents]

theorem Confined.trans {names : List String} (h : Confined d names s t) (h' : Confined d names t u)
    (hnext : s.tree.next ≤ t.tree.next) : Confined d names s u where
  entry x n hne := by rw [h'.entry x n hne, h.entry x n hne]
  kind i hi := by rw [h'.kind i (Nat.lt_of_lt_of_le hi hnext), h.kind i hi]
  contents i hi := by rw [h'.contents i (Nat.lt_of_lt_of_le hi hnext), h.contents i hi]

/-- The other entries look the same. -/
theorem Confined.look_eq {names : List String} (h : Confined d names s t) {x : Nat} {n : String}
    (hne : ¬(x = d ∧ n ∈ names)) : look t x n = look s x n := by
  rw [look, look, h.entry x n hne]
  cases hentry : s.tree.entry x n with
  | none => rfl
  | some i =>
    have hi := s.tree.allocated x n i hentry
    simp only [Option.map_some]
    rw [h.kind i hi, h.contents i hi]

/-- A temporary file is in the directory that was not there before. -/
structure Created (parent : Nat) (tmp : TempName) (s t : Files) : Prop where
  free : s.tree.entry parent tmp.fileName = none
  confined : Confined parent [tmp.fileName] s t
  entry : t.tree.entry parent tmp.fileName = some s.tree.next
  kind : t.tree.kind s.tree.next = .file

theorem Created.same (h : Created parent tmp s t) (hsame : Same t u) : Created parent tmp s u where
  free := h.free
  confined := h.confined.same hsame
  entry := by rw [hsame.tree, h.entry]
  kind := by rw [hsame.tree, h.kind]

theorem Created.after (h : Created parent tmp t u) (hsame : Same s t) :
    Created parent tmp s u where
  free := by rw [← hsame.tree, h.free]
  confined := h.confined.after hsame
  entry := by rw [← hsame.tree, h.entry]
  kind := by rw [← hsame.tree, h.kind]

/-- Only the content of one file may have changed. -/
structure Filled (fd : Nat) (s t : Files) : Prop where
  tree : t.tree = s.tree
  contents : ∀ i, i ≠ fd → t.contents i = s.contents i

theorem Created.filled (h : Created parent tmp s t) (hfilled : Filled s.tree.next t u) :
    Created parent tmp s u where
  free := h.free
  confined :=
    { entry := fun x n hne ↦ by rw [hfilled.tree, h.confined.entry x n hne]
      kind := fun i hi ↦ by rw [hfilled.tree, h.confined.kind i hi]
      contents := fun i hi ↦ by
        rw [hfilled.contents i (Nat.ne_of_lt hi), h.confined.contents i hi] }
  entry := by rw [hfilled.tree, h.entry]
  kind := by rw [hfilled.tree, h.kind]

/-- A write appends a part that is not empty. -/
theorem write_yields {r : Except PathError Nat} (h : Yields (sys (write fd content)) xs s r t ys) :
    Filled fd s t ∧ ∀ n, r = .ok n → 1 ≤ n ∧ t.contents fd = s.contents fd ++ content.take n := by
  obtain ⟨x, -, rfl, rfl⟩ := sys_yields.mp h
  rw [write, Files.unlessFault]
  cases x.fault with
  | some e => exact ⟨⟨rfl, fun _ _ ↦ rfl⟩, fun n hn ↦ by cases hn⟩
  | none =>
    refine ⟨⟨rfl, fun i hi ↦ if_neg hi⟩, fun n hn ↦ ?_⟩
    obtain rfl := Except.ok.inj hn
    exact ⟨Nat.le_max_left _ _, if_pos rfl⟩

/-- The rounds that are not interrupted write everything, if there are enough of them. -/
theorem writeRounds_yields {rounds : Nat} {r : Except PathError Unit}
    (h : Yields (writeRounds fd rounds content) xs s r t ys) :
    Filled fd s t ∧ (r = .ok () → content.length ≤ rounds →
      t.contents fd = s.contents fd ++ content) := by
  induction rounds generalizing content xs s with
  | zero =>
    obtain ⟨-, rfl, -⟩ := Yields.pure.mp h
    refine ⟨⟨rfl, fun _ _ ↦ rfl⟩, fun _ hlength ↦ ?_⟩
    rw [List.eq_nil_of_length_eq_zero (Nat.le_zero.mp hlength), List.append_nil]
  | succ rounds ih =>
    rw [writeRounds] at h
    split at h
    · next hempty =>
      obtain ⟨-, rfl, -⟩ := Yields.pure.mp h
      exact ⟨⟨rfl, fun _ _ ↦ rfl⟩, fun _ _ ↦ by rw [hempty, List.append_nil]⟩
    · rcases Yields.bind.mp h with ⟨e, rfl, hwrite⟩ | ⟨n, u, zs, hwrite, hrest⟩
      · exact ⟨(write_yields hwrite).1, fun hr ↦ by cases hr⟩
      · obtain ⟨hfirst, hpart⟩ := write_yields hwrite
        obtain ⟨hlater, hall⟩ := ih hrest
        obtain ⟨hn, hcontents⟩ := hpart n rfl
        refine ⟨⟨hlater.tree.trans hfirst.tree, fun i hi ↦ ?_⟩, fun hr hlength ↦ ?_⟩
        · rw [hlater.contents i hi, hfirst.contents i hi]
        · have hdrop : (content.drop n).length ≤ rounds := by
            rw [List.length_drop]
            omega
          rw [hall hr hdrop, hcontents, List.append_assoc, List.take_append_drop]

/-- A closed descriptor changes nothing; if the closing raises, nothing else counts. -/
theorem closing_yields {m : PathM α} (h : Yields (closing fd m) xs s r s' zs) :
    ∃ r₀ t x, Yields m xs s r₀ t (x :: zs) ∧ Same t s' ∧
      (x.fault = none ∧ r = r₀ ∨ ∃ e, x.fault = some e ∧ r = .error (.os e)) := by
  have hclose {t : Files} {xs ys : List SysChoice} {r : Except PathError Unit}
      (h : Yields (sys (close fd)) xs t r s' ys) :
      ∃ x, xs = x :: ys ∧ (x.fault = none ∧ r = .ok () ∨ ∃ e, x.fault = some e ∧
        r = .error (.os e)) := by
    obtain ⟨x, hxs, hr, -⟩ := sys_yields.mp h
    refine ⟨x, hxs, ?_⟩
    rw [close, Files.unlessFault] at hr
    cases hfault : x.fault with
    | none =>
      rw [hfault] at hr
      exact .inl ⟨rfl, hr⟩
    | some e =>
      rw [hfault] at hr
      exact .inr ⟨e, rfl, hr⟩
  rcases Yields.bind.mp h with ⟨e, -, hattempt⟩ | ⟨r₀, t, ys, hattempt, hrest⟩
  · -- what is raised in between is caught
    rcases Yields.tryCatch.mp hattempt with ⟨_, hr, -⟩ | ⟨_, _, _, -, hpure⟩
    · cases hr
    · cases (Yields.pure.mp hpure).1
  · have hm : Yields m xs s r₀ t ys := by
      rcases Yields.tryCatch.mp hattempt with ⟨_, hr, hm⟩ | ⟨e, _, _, hm, hpure⟩
      · obtain rfl := Except.ok.inj hr
        rcases Yields.bind.mp hm with ⟨_, hr, -⟩ | ⟨a, _, _, hm', hpure⟩
        · cases hr
        · obtain ⟨hr, rfl, rfl⟩ := Yields.pure.mp hpure
          obtain rfl := Except.ok.inj hr
          exact hm'
      · rcases Yields.bind.mp hm with ⟨e', he, hm'⟩ | ⟨_, _, _, -, hpure'⟩
        · obtain rfl := Except.error.inj he
          obtain ⟨hr, rfl, rfl⟩ := Yields.pure.mp hpure
          obtain rfl := Except.ok.inj hr
          exact hm'
        · cases (Yields.pure.mp hpure').1
    rcases Yields.bind.mp hrest with ⟨e, rfl, hclosed⟩ | ⟨_, u, ys', hclosed, hlift⟩
    · obtain ⟨x, rfl, ⟨-, hr⟩ | ⟨e', hfault, hr⟩⟩ := hclose hclosed
      · cases hr
      · obtain rfl := Except.error.inj hr
        exact ⟨r₀, t, x, hm, close_quiet.same hclosed, .inr ⟨e', hfault, rfl⟩⟩
    · obtain ⟨rfl, rfl, rfl⟩ := Yields.lift.mp hlift
      obtain ⟨x, rfl, ⟨hfault, -⟩ | ⟨e', -, hr⟩⟩ := hclose hclosed
      · exact ⟨r, t, x, hm, close_quiet.same hclosed, .inl ⟨hfault, rfl⟩⟩
      · cases hr

/-- The temporary file is created, and empty; or nothing is. -/
theorem create_yields {r : Except PathError Nat}
    (h : Yields (sys (openat parent tmp.fileName
      { write := true, create := true, exclusive := true, noFollow := true })) xs s r t ys) :
    (∃ e, r = .error e) ∧ Same s t ∨
      r = .ok s.tree.next ∧ Created parent tmp s t ∧ t.contents s.tree.next = [] := by
  obtain ⟨x, -, rfl, rfl⟩ := sys_yields.mp h
  rw [openat, Files.unlessFault]
  cases x.fault with
  | some e => exact .inl ⟨⟨_, rfl⟩, .refl s⟩
  | none =>
    simp only [if_pos tmp.plain]
    cases hentry : s.tree.entry parent tmp.fileName with
    | some i => exact .inl ⟨⟨_, rfl⟩, .refl s⟩
    | none =>
      cases hcreate : s.tree.create parent tmp.fileName .file with
      | none => exact .inl ⟨⟨_, rfl⟩, .refl s⟩
      | some v =>
        obtain ⟨-, hkind, hentries⟩ := FileTree.create_some hcreate
        refine .inr ?_
        refine ⟨rfl, ⟨hentry, ⟨fun y n hne ↦ ?_, fun i hi ↦ ?_, fun i hi ↦ ?_⟩, ?_, ?_⟩, if_pos rfl⟩
        · change v.entry y n = _
          rw [hentries, if_neg fun h ↦ hne ⟨h.1, List.mem_singleton.mpr h.2⟩]
        · change v.kind i = _
          rw [hkind]
          exact if_neg (Nat.ne_of_lt hi)
        · exact if_neg (Nat.ne_of_lt hi)
        · change v.entry parent tmp.fileName = _
          rw [hentries, if_pos ⟨rfl, rfl⟩]
        · change v.kind s.tree.next = _
          rw [hkind]
          exact if_pos rfl

/-- The temporary file is written, or it is there in some state, or it is not. -/
theorem writeTemporary_yields {r : Except PathError Unit}
    (h : Yields (writeTemporary parent content tmp) xs s r t ys) :
    (∃ e, r = .error e) ∧ Same s t ∨
      Created parent tmp s t ∧ (r = .ok () → t.contents s.tree.next = content) := by
  rcases Yields.bind.mp h with ⟨e, rfl, hcreate⟩ | ⟨fd, u, zs, hcreate, hrest⟩
  · rcases create_yields hcreate with ⟨-, hsame⟩ | ⟨hr, -, -⟩
    · exact .inl ⟨⟨e, rfl⟩, hsame⟩
    · cases hr
  · rcases create_yields hcreate with ⟨⟨e, hr⟩, -⟩ | ⟨hr, hcreated, hempty⟩
    · cases hr
    · obtain rfl := Except.ok.inj hr
      obtain ⟨r₀, v, x, hbody, hsame, hr⟩ := closing_yields hrest
      have hbody' : Filled s.tree.next u v ∧
          (r₀ = .ok () → v.contents s.tree.next = u.contents s.tree.next ++ content) := by
        rcases Yields.bind.mp hbody with ⟨e, rfl, hwrite⟩ | ⟨_, w, ws, hwrite, hsync⟩
        · exact ⟨(writeRounds_yields hwrite).1, fun hr ↦ nomatch hr⟩
        · obtain ⟨hfilled, hall⟩ := writeRounds_yields hwrite
          have hquiet := fsync_quiet.same hsync
          refine ⟨⟨hquiet.tree.trans hfilled.tree, fun i hi ↦ ?_⟩, fun _ ↦ ?_⟩
          · rw [hquiet.contents, hfilled.contents i hi]
          · rw [hquiet.contents, hall rfl (Nat.le_refl _)]
      refine .inr ⟨(hcreated.filled hbody'.1).same hsame, fun hok ↦ ?_⟩
      rcases hr with ⟨-, rfl⟩ | ⟨e, -, rfl⟩
      · rw [hsame.contents, hbody'.2 hok, hempty, List.nil_append]
      · cases hok

/-! ## The move -/

/-- The file has got its name, in the place of nothing or of something that is no directory. -/
structure Moved (parent : Nat) (name : String) (content : List UInt8) (tmp : TempName)
    (s t : Files) : Prop where
  free : s.tree.entry parent tmp.fileName = none
  confined : Confined parent [tmp.fileName, name] s t
  entry : t.tree.entry parent name = some s.tree.next
  found : look t parent name = some (.file, content)
  gone : name ≠ tmp.fileName → t.tree.entry parent tmp.fileName = none
  replaced : ∀ i, s.tree.entry parent name = some i → s.tree.kind i ≠ .directory

theorem moved_of_rename {v : FileTree} (hcreated : Created parent tmp s t)
    (hcontent : t.contents s.tree.next = content)
    (hrename : t.tree.rename parent tmp.fileName parent name = some v) (htree : u.tree = v)
    (hcontents : u.contents = t.contents) : Moved parent name content tmp s u := by
  have hold (n : String) (hn : n ≠ tmp.fileName) :
      t.tree.entry parent n = s.tree.entry parent n :=
    hcreated.confined.entry parent n fun h ↦ hn (List.mem_singleton.mp h.2)
  have hfresh {n : String} {i : Nat} (h : s.tree.entry parent n = some i) : i ≠ s.tree.next :=
    Nat.ne_of_lt (s.tree.allocated parent n i h)
  rcases FileTree.rename_some hrename hcreated.entry with ⟨hsame, rfl⟩ | ⟨hne, hkind, hkinds, hentry⟩
  · -- the name is that of the temporary file
    have hname : name = tmp.fileName := by
      by_contra hother
      rw [hold name hother] at hsame
      exact hfresh hsame rfl
    have hstays : Created parent tmp s u := hcreated.same ⟨htree, hcontents⟩
    refine ⟨hstays.free, hstays.confined.mono fun n hn ↦ ?_, hname ▸ hstays.entry, ?_,
      fun hother ↦ absurd hname hother, fun i hi ↦ ?_⟩
    · exact List.mem_cons.mpr (.inl (List.mem_singleton.mp hn))
    · rw [look, hname, hstays.entry, Option.map_some, hstays.kind, hcontents, hcontent]
    · rw [hname, hstays.free] at hi
      cases hi
  · have hname : name ≠ tmp.fileName := by
      rintro rfl
      exact hne hcreated.entry
    refine ⟨hcreated.free, ⟨fun y n hother ↦ ?_, fun i hi ↦ ?_, fun i hi ↦ ?_⟩, ?_, ?_, fun _ ↦ ?_,
      fun i hi hdir ↦ ?_⟩
    · rw [htree, hentry, if_neg, if_neg, hcreated.confined.entry]
      · exact fun h ↦ hother ⟨h.1, List.mem_cons.mpr (.inl (List.mem_singleton.mp h.2))⟩
      · exact fun h ↦ hother ⟨h.1, by simp [h.2]⟩
      · exact fun h ↦ hother ⟨h.1, by simp [h.2]⟩
    · rw [htree, hkind, hcreated.confined.kind i hi]
    · rw [hcontents, hcreated.confined.contents i hi]
    · rw [htree, hentry, if_neg fun h ↦ hname h.2, if_pos ⟨rfl, rfl⟩]
    · rw [look, htree, hentry, if_neg fun h ↦ hname h.2, if_pos ⟨rfl, rfl⟩, Option.map_some, hkind,
        hcreated.kind, hcontents, hcontent]
    · rw [htree, hentry, if_pos ⟨rfl, rfl⟩]
    · have hboth := (hkinds i ((hold name hname).trans hi)).mpr
        ((hcreated.confined.kind i (s.tree.allocated parent name i hi)).trans hdir)
      rw [hcreated.kind] at hboth
      cases hboth

theorem rename_yields {r : Except PathError Unit} (hname : PlainName name)
    (hcreated : Created parent tmp s t) (hcontent : t.contents s.tree.next = content)
    (h : Yields (sys (renameat parent tmp.fileName name)) xs t r u ys) :
    (∃ e, r = .error e) ∧ Same t u ∨ r = .ok () ∧ Moved parent name content tmp s u := by
  obtain ⟨x, -, rfl, rfl⟩ := sys_yields.mp h
  rw [renameat, Files.unlessFault]
  cases x.fault with
  | some e => exact .inl ⟨⟨_, rfl⟩, .refl t⟩
  | none =>
    simp only [if_pos (And.intro tmp.plain hname), hcreated.entry]
    cases hrename : t.tree.rename parent tmp.fileName parent name with
    | none => exact .inl ⟨⟨_, rfl⟩, .refl t⟩
    | some v =>
      cases t.tree.entry parent name <;>
        exact .inr ⟨rfl, moved_of_rename hcreated hcontent hrename rfl rfl⟩

/-- The file is moved to its name. Otherwise nothing has changed but for a temporary file, which may
be there. -/
theorem moveFile_yields {r : Except PathError Unit} (hname : PlainName name)
    (h : Yields (moveFile parent name content tmp) xs s r t ys) :
    (∃ e, r = .error e) ∧ (Same s t ∨ Created parent tmp s t) ∨
      r = .ok () ∧ Moved parent name content tmp s t := by
  rcases Yields.bind.mp h with ⟨e, rfl, hlinked⟩ | ⟨linked, u, zs, hlinked, hrest⟩
  · exact .inl ⟨⟨e, rfl⟩, .inl (isSymlink_quiet.same hlinked)⟩
  have hsame := isSymlink_quiet.same hlinked
  split at hrest
  · obtain ⟨rfl, rfl, -⟩ := Yields.throw.mp hrest
    exact .inl ⟨⟨_, rfl⟩, .inl hsame⟩
  rcases Yields.bind.mp hrest with ⟨e, rfl, hwrite⟩ | ⟨_, v, ws, hwrite, hmove⟩
  · rcases writeTemporary_yields hwrite with ⟨-, hsame'⟩ | ⟨hcreated, -⟩
    · exact .inl ⟨⟨e, rfl⟩, .inl (hsame.trans hsame')⟩
    · exact .inl ⟨⟨e, rfl⟩, .inr (hcreated.after hsame)⟩
  · rcases writeTemporary_yields hwrite with ⟨⟨e, hr⟩, -⟩ | ⟨hcreated, hcontent⟩
    · cases hr
    have hcontent' : v.contents s.tree.next = content := by
      rw [← hsame.tree]
      exact hcontent rfl
    rcases rename_yields hname (hcreated.after hsame) hcontent' hmove with
      ⟨hr, hsame'⟩ | ⟨hr, hmoved⟩
    · exact .inl ⟨hr, .inr ((hcreated.after hsame).same hsame')⟩
    · exact .inr ⟨hr, hmoved⟩

/-! ## The clean-up -/

/-- The temporary name leads to nothing, or to a directory that was there. -/
structure Discarded (parent : Nat) (tmp : TempName) (s t : Files) : Prop where
  confined : Confined parent [tmp.fileName] s t
  kept : ∀ i, s.tree.entry parent tmp.fileName = some i → s.tree.kind i = .directory →
    t.tree.entry parent tmp.fileName = some i
  gone : (∀ i, s.tree.entry parent tmp.fileName = some i → s.tree.kind i ≠ .directory) →
    t.tree.entry parent tmp.fileName = none

theorem unlinkat_discarded {x : SysChoice} (hfault : x.fault = none) :
    Discarded parent tmp s (unlinkat parent tmp.fileName x s).2 := by
  rw [unlinkat, Files.unlessFault, hfault]
  simp only [if_pos tmp.plain]
  cases hentry : s.tree.entry parent tmp.fileName with
  | none => exact ⟨(Same.refl s).confined, fun i hi _ ↦ hi, fun _ ↦ hentry⟩
  | some i =>
    by_cases hdir : s.tree.kind i = .directory
    · simp only [if_pos hdir]
      exact ⟨(Same.refl s).confined, fun i hi _ ↦ hi, fun h ↦ absurd hdir (h i hentry)⟩
    · have hunlink : s.tree.unlink parent tmp.fileName =
          some (s.tree.dropEntry parent tmp.fileName) := by
        rw [FileTree.unlink, hentry]
        exact if_neg hdir
      simp only [if_neg hdir, hunlink]
      refine ⟨⟨fun y n hne ↦ ?_, fun _ _ ↦ rfl, fun _ _ ↦ rfl⟩, fun j hj hdir' ↦ ?_, fun _ ↦ ?_⟩
      · change (s.tree.dropEntry _ _).entry y n = _
        rw [FileTree.entry_dropEntry, if_neg fun h ↦ hne ⟨h.1, List.mem_singleton.mpr h.2⟩]
      · obtain rfl := Option.some.inj (hentry.symm.trans hj)
        exact absurd hdir' hdir
      · change (s.tree.dropEntry _ _).entry _ _ = none
        rw [FileTree.entry_dropEntry, if_pos ⟨rfl, rfl⟩]

/-- What raises is raised again, after the temporary file was taken away. -/
theorem discarding_yields {m : PathM Unit} {r : Except PathError Unit}
    (h : Yields (discarding parent tmp m) xs s r s' zs) :
    r = .ok () ∧ Yields m xs s (.ok ()) s' zs ∨ ∃ e t x, r = .error e ∧
      Yields m xs s (.error e) t (x :: zs) ∧ (x.fault = none → Discarded parent tmp t s') := by
  rcases Yields.tryCatch.mp h with ⟨_, rfl, hm⟩ | ⟨e, t, ys, hm, hcatch⟩
  · exact .inl ⟨rfl, hm⟩
  refine .inr ⟨e, t, ?_⟩
  -- the call is made in any case, and what it raises is dropped
  have hunlink : ∃ x, ys = x :: zs ∧ s' = (unlinkat parent tmp.fileName x t).2 ∧ r = .error e := by
    rcases Yields.bind.mp hcatch with ⟨e', rfl, hdiscard⟩ | ⟨_, u, ws, hdiscard, hthrow⟩
    · rcases Yields.tryCatch.mp hdiscard with ⟨_, hr, -⟩ | ⟨e'', u, ws, hcall, hswallow⟩
      · cases hr
      · obtain ⟨x, -, hr, -⟩ := sys_yields.mp hcall
        cases e'' with
        | os => cases (Yields.pure.mp hswallow).1
        | safety => cases h : (unlinkat parent tmp.fileName x t).1 <;> simp [h, Except.mapError] at hr
    · obtain ⟨hr, rfl, rfl⟩ := Yields.throw.mp hthrow
      rcases Yields.tryCatch.mp hdiscard with ⟨_, -, hcall⟩ | ⟨e'', v, vs, hcall, hswallow⟩
      · obtain ⟨x, hys, -, hs⟩ := sys_yields.mp hcall
        exact ⟨x, hys, hs, hr⟩
      · obtain ⟨x, hys, -, hs⟩ := sys_yields.mp hcall
        cases e'' with
        | os =>
          obtain ⟨-, rfl, rfl⟩ := Yields.pure.mp hswallow
          exact ⟨x, hys, hs, hr⟩
        | safety => cases (Yields.throw.mp hswallow).1
  obtain ⟨x, rfl, rfl, rfl⟩ := hunlink
  exact ⟨x, rfl, hm, unlinkat_discarded⟩

/-! ## All or nothing -/

/-- What a path leads to. -/
def target (root : Nat) (relative : String) (s : Files) : Option (FileKind × List UInt8) :=
  match validate relative with
  | .error _ => none
  | .ok parts => (s.tree.descend none root parts.dropLast).bind fun d ↦
      look s d (parts.getLastD "")

/-- The entry that a path leads to. -/
def Names (root : Nat) (relative : String) (s : Files) (d : Nat) (name : String) : Prop :=
  ∃ parts, validate relative = .ok parts ∧
    s.tree.descend none root parts.dropLast = some d ∧ parts.getLastD "" = name

/-- If a call raises, its target is as before, and no entry is new but that of the target; if it
returns, the target is a file with the given content. -/
def AllOrNothing (root : Nat) (relative : String) (content : List UInt8) (s s' : Files) :
    Except PathError String → Prop
  | .error _ => target root relative s' = target root relative s ∧
      ∀ d name i, s'.tree.entry d name = some i →
        s.tree.entry d name = some i ∨ Names root relative s d name
  | .ok _ => target root relative s' = some (.file, content)

/-- A call comes to the directory of its target, and there are choices left. -/
def Arrives (root : Nat) (relative : String) (xs : List SysChoice) (s : Files) (parent : Nat)
    (name : String) (t : Files) (ys : List SysChoice) : Prop :=
  ∃ parts, validate relative = .ok parts ∧ parts.getLastD "" = name ∧
    Yields (walk false root parts.dropLast) xs s (.ok parent) t ys

/-- The temporary file can be taken away when something has raised. -/
def CleansUp (root : Nat) (relative : String) (content : List UInt8) (tmp : TempName)
    (xs : List SysChoice) (s : Files) : Prop :=
  ∀ parent name t ys e u x zs, Arrives root relative xs s parent name t ys →
    Yields (replaceFile parent name content tmp) ys t (.error e) u (x :: zs) → x.fault = none

/-- The target does not have the temporary name, if it is there and no directory; and when the new
file has its name, the directory is synchronized and closed without a failure, unless the new file
is like the old one. -/
structure Timely (root : Nat) (relative : String) (content : List UInt8) (tmp : TempName)
    (xs : List SysChoice) (s : Files) : Prop where
  unnamed : ∀ parent t ys, Arrives root relative xs s parent tmp.fileName t ys →
    ∀ kind old, look t parent tmp.fileName = some (kind, old) → kind = .directory
  settled : ∀ parent name t ys u x y zs, Arrives root relative xs s parent name t ys →
    Yields (moveFile parent name content tmp) ys t (.ok ()) u (x :: y :: zs) →
    (x.fault ≠ none ∧ name ≠ tmp.fileName ∨ x.fault = none ∧ y.fault ≠ none) →
    look t parent name = some (.file, content)

theorem Arrives.unique {name name' : String} {parent' : Nat} {t' : Files} {ys' : List SysChoice}
    (h : Arrives root relative xs s parent name t ys)
    (h' : Arrives root relative xs s parent' name' t' ys') :
    parent' = parent ∧ name' = name ∧ t' = t ∧ ys' = ys := by
  obtain ⟨parts, hparts, rfl, hwalk⟩ := h
  obtain ⟨parts', hparts', rfl, hwalk'⟩ := h'
  obtain rfl := Except.ok.inj (hparts.symm.trans hparts')
  obtain ⟨hparent, rfl, rfl⟩ := hwalk.unique hwalk'
  exact ⟨(Except.ok.inj hparent).symm, rfl, rfl, rfl⟩

/-! ## How a call ends -/

/-- What has happened when a call that came to its directory is over; it may still have raised when
it closed the directory. -/
inductive Ended (parent : Nat) (name : String) (content : List UInt8) (tmp : TempName)
    (ys : List SysChoice) (s s' : Files) : Except PathError Unit → Prop
  /-- The file was not moved, and was discarded. -/
  | refused {e e' : PathError} {u : Files} {zs : List SysChoice}
      (moving : Yields (moveFile parent name content tmp) ys s (.error e) u zs)
      (left : Same s u ∨ Created parent tmp s u) (discarded : Discarded parent tmp u s') :
      Ended parent name content tmp ys s s' (.error e')
  /-- The directory could not be synchronized, and what has the temporary name was discarded. -/
  | unsynced {e : PathError} {u : Files} {x y : SysChoice} {zs : List SysChoice}
      (moving : Yields (moveFile parent name content tmp) ys s (.ok ()) u (x :: y :: zs))
      (moved : Moved parent name content tmp s u) (fault : x.fault ≠ none)
      (discarded : Discarded parent tmp u s') : Ended parent name content tmp ys s s' (.error e)
  /-- The directory was synchronized, and could or could not be closed. -/
  | synced {r : Except PathError Unit} {u : Files} {x y : SysChoice} {zs : List SysChoice}
      (moving : Yields (moveFile parent name content tmp) ys s (.ok ()) u (x :: y :: zs))
      (moved : Moved parent name content tmp s u) (fault : x.fault = none)
      (same : Same u s') (closed : y.fault = none ↔ r = .ok ()) :
      Ended parent name content tmp ys s s' r

theorem Discarded.same (h : Discarded parent tmp s t) (hsame : Same t u) :
    Discarded parent tmp s u where
  confined := h.confined.same hsame
  kept i hi hdir := by rw [hsame.tree, h.kept i hi hdir]
  gone hno := by rw [hsame.tree, h.gone hno]

theorem Discarded.after (h : Discarded parent tmp t u) (hsame : Same s t) :
    Discarded parent tmp s u where
  confined := h.confined.after hsame
  kept i hi hdir := h.kept i (hsame.tree ▸ hi) (hsame.tree ▸ hdir)
  gone hno := h.gone (by rwa [hsame.tree])

/-- A failure of the synchronization is the only way to raise after the move. -/
theorem replaceFile_yields {r : Except PathError Unit} (hname : PlainName name)
    (h : Yields (replaceFile parent name content tmp) ys s r t zs) :
    (∃ e, r = .error e ∧ Yields (moveFile parent name content tmp) ys s (.error e) t zs ∧
        (Same s t ∨ Created parent tmp s t)) ∨
      ∃ u x, Yields (moveFile parent name content tmp) ys s (.ok ()) u (x :: zs) ∧
        Moved parent name content tmp s u ∧ Same u t ∧ (x.fault = none ↔ r = .ok ()) := by
  rcases Yields.bind.mp h with ⟨e, rfl, hmove⟩ | ⟨_, u, ws, hmove, hsync⟩
  · rcases moveFile_yields hname hmove with ⟨-, hleft⟩ | ⟨hr, -⟩
    · exact .inl ⟨e, rfl, hmove, hleft⟩
    · cases hr
  · rcases moveFile_yields hname hmove with ⟨⟨e, hr⟩, -⟩ | ⟨-, hmoved⟩
    · cases hr
    obtain ⟨x, rfl, hr, -⟩ := sys_yields.mp hsync
    refine .inr ⟨u, x, hmove, hmoved, fsync_quiet.same hsync, ?_⟩
    rw [fsync, Files.unlessFault] at hr
    cases hfault : x.fault with
    | none =>
      rw [hfault] at hr
      simp [hr, Except.mapError]
    | some e =>
      rw [hfault] at hr
      simp [hr, Except.mapError]

theorem closing_replaceFile {r : Except PathError Unit} (hname : PlainName name)
    (hclean : ∀ e u x zs, Yields (replaceFile parent name content tmp) ys s (.error e) u (x :: zs) →
      x.fault = none)
    (h : Yields (closing parent (discarding parent tmp (replaceFile parent name content tmp)))
      ys s r s' zs) : Ended parent name content tmp ys s s' r := by
  obtain ⟨r₀, t, z, hbody, hsame, hr⟩ := closing_yields h
  rcases discarding_yields hbody with ⟨rfl, hreplace⟩ | ⟨e, u, y, rfl, hreplace, hdiscarded⟩
  · rcases replaceFile_yields hname hreplace with ⟨e, hr', -⟩ | ⟨u, x, hmove, hmoved, hquiet, hx⟩
    · cases hr'
    refine .synced hmove hmoved (hx.mpr rfl) (hquiet.trans hsame) ?_
    rcases hr with ⟨hz, rfl⟩ | ⟨e, hz, rfl⟩ <;> simp [hz]
  · have hgone := (hdiscarded (hclean e u y _ hreplace)).same hsame
    obtain ⟨e', rfl⟩ : ∃ e', r = .error e' := by
      rcases hr with ⟨-, rfl⟩ | ⟨e', -, rfl⟩ <;> exact ⟨_, rfl⟩
    rcases replaceFile_yields hname hreplace with
      ⟨e₁, he, hmove, hleft⟩ | ⟨v, x, hmove, hmoved, hquiet, hx⟩
    · exact .refused hmove hleft hgone
    · exact .unsynced hmove hmoved (fun hfault ↦ nomatch hx.mp hfault) (hgone.after hquiet)

/-! ### What is there at the end -/

theorem lt_next {x : Nat} (h : t.tree.entry x name = some s.tree.next) :
    s.tree.next ≤ t.tree.next := Nat.le_of_lt (t.tree.allocated x name _ h)

theorem Created.discarded (h : Created parent tmp s t) (h' : Discarded parent tmp t u) :
    Discarded parent tmp s u where
  confined := h.confined.trans h'.confined (lt_next h.entry)
  kept i hi _ := nomatch h.free.symm.trans hi
  gone _ := h'.gone fun i hi hdir ↦ by
    obtain rfl := Option.some.inj (h.entry.symm.trans hi)
    cases h.kind.symm.trans hdir

/-- What was moved to the temporary name is discarded. -/
theorem Moved.discarded (h : Moved parent tmp.fileName content tmp s t)
    (h' : Discarded parent tmp t u) : Discarded parent tmp s u where
  confined := (h.confined.mono fun n hn ↦ by simpa using hn).trans h'.confined (lt_next h.entry)
  kept i hi _ := nomatch h.free.symm.trans hi
  gone _ := h'.gone fun i hi hdir ↦ by
    have hlook := h.found
    rw [look, hi, Option.map_some, hdir] at hlook
    cases hlook

/-- What was moved to another name stays when the temporary name is cleaned up. -/
theorem Moved.kept (h : Moved parent name content tmp s t) (hname : name ≠ tmp.fileName)
    (h' : Discarded parent tmp t u) : Moved parent name content tmp s u where
  free := h.free
  confined := h.confined.trans (h'.confined.mono fun n hn ↦ by simp [List.mem_singleton.mp hn])
    (lt_next h.entry)
  entry := by rw [h'.confined.entry parent name (by simpa using hname), h.entry]
  found := by rw [h'.confined.look_eq (by simpa using hname), h.found]
  gone _ := h'.gone fun i hi ↦ nomatch (h.gone hname).symm.trans hi
  replaced := h.replaced

theorem Moved.same (h : Moved parent name content tmp s t) (hsame : Same t u) :
    Moved parent name content tmp s u where
  free := h.free
  confined := h.confined.same hsame
  entry := by rw [hsame.tree, h.entry]
  found := by rw [look, hsame.tree, hsame.contents, ← look, h.found]
  gone hname := by rw [hsame.tree, h.gone hname]
  replaced := h.replaced

/-- The way to the directory is the same, if the entries that lead to directories are kept. -/
theorem Confined.target {names : List String} (h : Confined d names s t)
    (hkept : ∀ n ∈ names, ∀ i, s.tree.entry d n = some i → s.tree.kind i = .directory →
      t.tree.entry d n = some i)
    (hparts : validate relative = .ok parts)
    (hd : s.tree.descend none root parts.dropLast = some d) :
    target root relative t = look t d (parts.getLastD "") := by
  have hd' : t.tree.descend none root parts.dropLast = some d := by
    refine FileTree.descend_some (fun x n i hi hdir ↦ ⟨?_, ?_⟩) hd
    · by_cases hn : x = d ∧ n ∈ names
      · obtain ⟨rfl, hn⟩ := hn
        exact hkept n hn i hi hdir
      · rw [h.entry x n hn, hi]
    · rw [h.kind i (s.tree.allocated x n i hi), hdir]
  rw [WorkspacePaths.target, hparts]
  simp only [hd', Option.bind_some]

/-- After the temporary name was cleaned up everything is as before, unless the target had it. -/
theorem Discarded.allOrNothing {e : PathError} (hparts : validate relative = .ok parts)
    (hparent : s.tree.descend none root parts.dropLast = some parent)
    (h : Discarded parent tmp s s') :
    AllOrNothing root relative content s s' (.error e) ↔
      (parts.getLastD "" = tmp.fileName → ∀ kind old,
        look s parent tmp.fileName = some (kind, old) → kind = .directory) := by
  have htarget : target root relative s' = look s' parent (parts.getLastD "") :=
    h.confined.target (fun n hn i hi hdir ↦ by
      obtain rfl := List.mem_singleton.mp hn
      exact h.kept i hi hdir) hparts hparent
  have htarget₀ : target root relative s = look s parent (parts.getLastD "") :=
    Confined.target ((Same.refl s).confined : Confined parent [] s s)
      (fun _ hn ↦ (nomatch hn)) hparts hparent
  have hentries (x : Nat) (n : String) (i : Nat) (hi : s'.tree.entry x n = some i) :
      s.tree.entry x n = some i := by
    by_cases hn : x = parent ∧ n ∈ [tmp.fileName]
    · obtain ⟨rfl, hn⟩ := hn
      obtain rfl := List.mem_singleton.mp hn
      by_cases hdir : ∃ j, s.tree.entry x tmp.fileName = some j ∧ s.tree.kind j = .directory
      · obtain ⟨j, hj, hdir⟩ := hdir
        rw [hj, ← hi, h.kept j hj hdir]
      · rw [h.gone fun j hj hd ↦ hdir ⟨j, hj, hd⟩] at hi
        cases hi
    · rwa [h.confined.entry x n hn] at hi
  rw [AllOrNothing, htarget, htarget₀]
  constructor
  · rintro ⟨hsame, -⟩ hname kind old hlook
    rw [hname] at hsame
    by_contra hkind
    rw [hlook, look, h.gone] at hsame
    · cases hsame
    · rintro i hi hdir
      rw [look, hi, Option.map_some] at hlook
      exact hkind ((congrArg Prod.fst (Option.some.inj hlook)).symm.trans hdir)
  · intro hdirs
    refine ⟨?_, fun x n i hi ↦ .inl (hentries x n i hi)⟩
    by_cases hname : parts.getLastD "" = tmp.fileName
    · rw [hname]
      cases hentry : s.tree.entry parent tmp.fileName with
      | none =>
        rw [look, look, hentry, h.gone]
        · rfl
        · exact fun i hi ↦ nomatch hentry.symm.trans hi
      | some i =>
        have hdir : s.tree.kind i = .directory :=
          hdirs hname _ (s.contents i) (by rw [look, hentry]; rfl)
        have hi := s.tree.allocated parent tmp.fileName i hentry
        rw [look, look, hentry, h.kept i hentry hdir, Option.map_some, Option.map_some,
          h.confined.kind i hi, h.confined.contents i hi]
    · exact h.confined.look_eq fun hn ↦ hname (List.mem_singleton.mp hn.2)

/-- After the move the target is the new file, and nothing else is new. -/
theorem Moved.allOrNothing {e : PathError} (hparts : validate relative = .ok parts)
    (hparent : s.tree.descend none root parts.dropLast = some parent)
    (h : Moved parent (parts.getLastD "") content tmp s s') :
    target root relative s' = some (.file, content) ∧
      (AllOrNothing root relative content s s' (.error e) ↔
        look s parent (parts.getLastD "") = some (.file, content)) := by
  have htarget : target root relative s' = look s' parent (parts.getLastD "") :=
    h.confined.target (fun n hn i hi hdir ↦ by
      rcases List.mem_cons.mp hn with rfl | hn
      · cases h.free.symm.trans hi
      · obtain rfl := List.mem_singleton.mp hn
        exact absurd hdir (h.replaced i hi)) hparts hparent
  have htarget₀ : target root relative s = look s parent (parts.getLastD "") :=
    Confined.target ((Same.refl s).confined : Confined parent [] s s)
      (fun _ hn ↦ (nomatch hn)) hparts hparent
  refine ⟨htarget.trans h.found, ?_⟩
  rw [AllOrNothing, htarget, htarget₀, h.found]
  constructor
  · rintro ⟨hsame, -⟩
    exact hsame.symm
  · intro hsame
    refine ⟨hsame.symm, fun x n i hi ↦ ?_⟩
    by_cases hn : x = parent ∧ n = parts.getLastD ""
    · exact .inr ⟨parts, hparts, hn.1 ▸ hparent, hn.2.symm⟩
    · refine .inl ?_
      by_cases htmp : x = parent ∧ n = tmp.fileName
      · obtain ⟨rfl, rfl⟩ := htmp
        rw [h.gone fun heq ↦ hn ⟨rfl, heq.symm⟩] at hi
        cases hi
      · rwa [h.confined.entry x n fun hmem ↦ ?_] at hi
        rcases List.mem_cons.mp hmem.2 with heq | heq
        · exact htmp ⟨hmem.1, heq⟩
        · exact hn ⟨hmem.1, List.mem_singleton.mp heq⟩

/-! ### The whole call -/

theorem Same.target (h : Same s t) : target root relative t = target root relative s := by
  rw [WorkspacePaths.target, WorkspacePaths.target]
  cases validate relative with
  | error e => rfl
  | ok parts => simp only [look, h.tree, h.contents]

theorem Same.allOrNothing {r : Except PathError String} (h : Same s t) :
    AllOrNothing root relative content s s' r ↔ AllOrNothing root relative content t s' r := by
  cases r with
  | error e => simp only [AllOrNothing, Names, h.target, h.tree]
  | ok digest => rfl

/-- A call that did not come to its directory has changed nothing. -/
theorem Same.untouched {e : PathError} (h : Same s s') :
    AllOrNothing root relative content s s' (.error e) :=
  ⟨h.target, fun _ _ _ hi ↦ .inl (by rwa [h.tree] at hi)⟩

/-- The end of a call that came to its directory is all or nothing exactly if its choices are
timely. -/
theorem Ended.allOrNothing {r : Except PathError Unit} {r' : Except PathError String}
    (hr : ∀ e, r = .error e ↔ r' = .error e) (hparts : validate relative = .ok parts)
    (hsame : Same s t) (hparent : t.tree.descend none root parts.dropLast = some parent)
    (harrives : Arrives root relative xs s parent (parts.getLastD "") t ys)
    (h : Ended parent (parts.getLastD "") content tmp ys t s' r) :
    AllOrNothing root relative content s s' r' ↔ Timely root relative content tmp xs s := by
  rw [hsame.allOrNothing]
  have htimely : Timely root relative content tmp xs s ↔
      (parts.getLastD "" = tmp.fileName → ∀ kind old,
        look t parent tmp.fileName = some (kind, old) → kind = .directory) ∧
      ∀ u x y zs, Yields (moveFile parent (parts.getLastD "") content tmp) ys t (.ok ()) u
          (x :: y :: zs) →
        (x.fault ≠ none ∧ parts.getLastD "" ≠ tmp.fileName ∨ x.fault = none ∧ y.fault ≠ none) →
        look t parent (parts.getLastD "") = some (.file, content) := by
    constructor
    · intro htimely
      refine ⟨fun hname ↦ htimely.unnamed parent t ys (hname ▸ harrives), ?_⟩
      exact fun u x y zs ↦ htimely.settled parent _ t ys u x y zs harrives
    · rintro ⟨hunnamed, hsettled⟩
      constructor
      · intro parent' t' ys' harrives'
        obtain ⟨rfl, hname, rfl, rfl⟩ := harrives.unique harrives'
        exact hunnamed hname.symm
      · intro parent' name' t' ys' u x y zs harrives'
        obtain ⟨rfl, rfl, rfl, rfl⟩ := harrives.unique harrives'
        exact hsettled u x y zs
  rw [htimely]
  cases h with
  | @refused e e' u zs hmove hleft hdiscarded =>
    obtain rfl := (hr e').mp rfl
    have hdone : Discarded parent tmp t s' := by
      rcases hleft with hquiet | hcreated
      · exact hdiscarded.after hquiet
      · exact hcreated.discarded hdiscarded
    rw [hdone.allOrNothing hparts hparent]
    constructor
    · refine fun hdirs ↦ ⟨hdirs, fun u' x y zs' hmove' ↦ ?_⟩
      cases (hmove.unique hmove').1
    · exact And.left
  | @unsynced e u x y zs hmove hmoved hfault hdiscarded =>
    obtain rfl := (hr e).mp rfl
    by_cases hname : parts.getLastD "" = tmp.fileName
    · have hdone : Discarded parent tmp t s' := (hname ▸ hmoved).discarded hdiscarded
      rw [hdone.allOrNothing hparts hparent]
      constructor
      · refine fun hdirs ↦ ⟨hdirs, fun u' x' y' zs' hmove' hlate ↦ ?_⟩
        obtain ⟨-, -, heq⟩ := hmove.unique hmove'
        obtain ⟨rfl, -⟩ := List.cons.inj heq
        rcases hlate with ⟨-, hother⟩ | ⟨hnone, -⟩
        · exact absurd hname hother
        · exact absurd hnone hfault
      · exact And.left
    · have hdone := hmoved.kept hname hdiscarded
      rw [(hdone.allOrNothing hparts hparent).2]
      constructor
      · exact fun hlook ↦ ⟨fun heq ↦ absurd heq hname, fun _ _ _ _ _ _ ↦ hlook⟩
      · exact fun h ↦ h.2 u x y zs hmove (.inl ⟨hfault, hname⟩)
  | @synced r u x y zs hmove hmoved hfault hquiet hclosed =>
    have hdone := hmoved.same hquiet
    cases r' with
    | error e =>
      obtain rfl := (hr e).mpr rfl
      have hy : y.fault ≠ none := fun hy ↦ nomatch hclosed.mp hy
      rw [(hdone.allOrNothing hparts hparent).2]
      constructor
      · refine fun hlook ↦ ⟨fun hname kind old hold ↦ ?_, fun _ _ _ _ _ _ ↦ hlook⟩
        -- nothing had the temporary name when the file was created
        rw [look, hmoved.free] at hold
        cases hold
      · exact fun h ↦ h.2 u x y zs hmove (.inr ⟨hfault, hy⟩)
    | ok digest =>
      have hok : r = .ok () := by
        cases r with
        | ok => rfl
        | error e => cases (hr e).mp rfl
      have hy : y.fault = none := hclosed.mpr hok
      refine iff_of_true (hdone.allOrNothing (e := .os .noEntry) hparts hparent).1
        ⟨fun _ kind old hold ↦ ?_, fun u' x' y' zs' hmove' hlate ↦ ?_⟩
      · rw [look, hmoved.free] at hold
        cases hold
      · obtain ⟨-, -, heq⟩ := hmove.unique hmove'
        obtain ⟨rfl, hrest⟩ := List.cons.inj heq
        obtain ⟨rfl, -⟩ := List.cons.inj hrest
        rcases hlate with ⟨hx, -⟩ | ⟨-, hy'⟩
        · exact absurd hfault hx
        · exact absurd hy hy'

/-- A call is all or nothing exactly if nothing fails after the new file has its name, where the
environment may let any other system calls fail, and write as little at a time as it likes. -/
theorem atomicWrite_all_or_nothing_iff {sha256 : List UInt8 → String} {r : Except PathError String}
    (hrun : Yields (atomicWrite sha256 root relative content tmp) xs s r s' zs)
    (hclean : CleansUp root relative content tmp xs s) :
    AllOrNothing root relative content s s' r ↔ Timely root relative content tmp xs s := by
  rcases Yields.bind.mp hrun with ⟨e, rfl, hlift⟩ | ⟨parts, s₁, xs₁, hlift, hrest⟩
  · obtain ⟨hvalidate, rfl, -⟩ := Yields.lift.mp hlift
    have hnever {parent name t ys} : ¬Arrives root relative xs s' parent name t ys := by
      rintro ⟨parts, hparts, -, -⟩
      cases hvalidate.trans hparts
    exact iff_of_true (Same.refl s').untouched
      ⟨fun _ _ _ h ↦ (hnever h).elim, fun _ _ _ _ _ _ _ _ h ↦ (hnever h).elim⟩
  obtain ⟨hparts, rfl, rfl⟩ := Yields.lift.mp hlift
  obtain ⟨hne, hplain⟩ := validate_plain hparts.symm
  rcases Yields.bind.mp hrest with ⟨e, rfl, hwalk⟩ | ⟨parent, t, ys, hwalk, hrest₁⟩
  · have hnever {parent name t ys} : ¬Arrives root relative xs₁ s₁ parent name t ys := by
      rintro ⟨parts', hparts', -, hwalk'⟩
      obtain rfl := Except.ok.inj (hparts.trans hparts')
      cases (hwalk.unique hwalk').1
    exact iff_of_true (walk_quiet.same hwalk).untouched
      ⟨fun _ _ _ h ↦ (hnever h).elim, fun _ _ _ _ _ _ _ _ h ↦ (hnever h).elim⟩
  have harrives : Arrives root relative xs₁ s₁ parent (parts.getLastD "") t ys :=
    ⟨parts, hparts.symm, rfl, hwalk⟩
  have hsame := walk_quiet.same hwalk
  have hparent : t.tree.descend none root parts.dropLast = some parent := by
    rw [hsame.tree]
    exact walk_ok (fun part hpart ↦ hplain part (List.dropLast_subset _ hpart)) hwalk
  have hname : PlainName (parts.getLastD "") := by
    refine hplain _ ?_
    rw [List.getLastD_eq_getLast?, List.getLast?_eq_some_getLast hne]
    exact List.getLast_mem hne
  have hends {r : Except PathError Unit} {u : Files} {ws : List SysChoice}
      (h : Yields (closing parent (discarding parent tmp
        (replaceFile parent (parts.getLastD "") content tmp))) ys t r u ws) :
      Ended parent (parts.getLastD "") content tmp ys t u r :=
    closing_replaceFile hname (fun e u x zs ↦ hclean parent _ t ys e u x zs harrives) h
  rcases Yields.bind.mp hrest₁ with ⟨e, rfl, hclosing⟩ | ⟨_, u, ws, hclosing, hpure⟩
  · refine (hends hclosing).allOrNothing (fun e' ↦ ?_) hparts.symm hsame hparent harrives
    exact ⟨fun h ↦ Except.error.inj h ▸ rfl, fun h ↦ Except.error.inj h ▸ rfl⟩
  · obtain ⟨rfl, rfl, rfl⟩ := Yields.pure.mp hpure
    refine (hends hclosing).allOrNothing (fun e ↦ ⟨fun h ↦ ?_, fun h ↦ ?_⟩) hparts.symm hsame hparent
      harrives
    · cases h
    · cases h

/-- Nothing is left to choose for a call but that the clean-up does not fail. -/
theorem cleansUp_of_alone (hparts : validate relative = .ok parts)
    (h : (Method.alone (do
        let parent ← walk false root parts.dropLast
        replaceFile parent (parts.getLastD "") content tmp : PathM Unit) xs s).map
      (fun a ↦ (a.2.2.map SysChoice.fault).head?) = some (some none)) :
    CleansUp root relative content tmp xs s := by
  rintro parent name t ys e u x zs ⟨parts', hparts', rfl, hwalk⟩ hreplace
  obtain rfl := Except.ok.inj (hparts.symm.trans hparts')
  have hboth : Yields (do
      let parent ← walk false root parts.dropLast
      replaceFile parent (parts.getLastD "") content tmp : PathM Unit) xs s (.error e) u (x :: zs) :=
    Yields.bind.mpr (.inr ⟨parent, t, ys, hwalk, hreplace⟩)
  obtain ⟨a, ha, hhead⟩ := Option.map_eq_some_iff.mp h
  obtain rfl := Option.some.inj (ha.symm.trans hboth)
  simpa using hhead

theorem sampleParts : validate "f" = .ok ["f"] := by decide +kernel

/-- The choices for a call in the root: the descriptor, the look at the target, the temporary file,
two short writes, and what comes after them. -/
def sampleChoices (synced : Option OsError) : List SysChoice :=
  [{}, {}, {}, { count := 1 }, { count := 1 }, {}, {}, {}, { fault := synced }, {}, {}]

/-- What is there after a call with these choices, and whether it has raised. -/
def sampleWrite (synced : Option OsError) :
    Option ((Except PathError String) × Files × List SysChoice) :=
  Method.alone (atomicWrite (fun _ ↦ "digest") 0 "f" [97, 98] ⟨1, [0, 1]⟩) (sampleChoices synced)
    { tree := sampleTree }

theorem atomicWrite_all_or_nothing_iff_sampleWrite :
    ∃ s' zs, sampleWrite none = some (.ok "digest", s', zs) ∧
      (AllOrNothing 0 "f" [97, 98] { tree := sampleTree } s' (.ok "digest") ↔
        Timely 0 "f" [97, 98] ⟨1, [0, 1]⟩ (sampleChoices none) { tree := sampleTree }) ∧
      target 0 "f" s' = some (.file, [97, 98]) := by
  have hview : (sampleWrite none).map (fun a ↦ (a.1.toOption, target 0 "f" a.2.1)) =
      some (some "digest", some (.file, [97, 98])) := by decide +kernel
  obtain ⟨⟨r, s', zs⟩, hrun, hr⟩ := Option.map_eq_some_iff.mp hview
  obtain ⟨hdigest, htarget⟩ := Prod.ext_iff.mp hr
  cases r with
  | error e => cases hdigest
  | ok digest =>
    obtain rfl := Option.some.inj hdigest
    refine ⟨s', zs, hrun, atomicWrite_all_or_nothing_iff hrun ?_, htarget⟩
    exact cleansUp_of_alone sampleParts (by decide +kernel)

/-- The directory cannot be synchronized: the call raises, and the new file is in place. -/
theorem unsynced_write_not_undone :
    ∃ e s' zs, sampleWrite (some (.other 5)) = some (.error e, s', zs) ∧
      CleansUp 0 "f" [97, 98] ⟨1, [0, 1]⟩ (sampleChoices (some (.other 5)))
        { tree := sampleTree } ∧
      target 0 "f" { tree := sampleTree } = none ∧ target 0 "f" s' = some (.file, [97, 98]) ∧
      ¬AllOrNothing 0 "f" [97, 98] { tree := sampleTree } s' (.error e) := by
  have hview : (sampleWrite (some (.other 5))).map (fun a ↦
      (a.1.toOption, target 0 "f" a.2.1, target 0 "f" { tree := sampleTree })) =
      some (none, some (.file, [97, 98]), none) := by decide +kernel
  obtain ⟨⟨r, s', zs⟩, hrun, hr⟩ := Option.map_eq_some_iff.mp hview
  obtain ⟨hraised, htargets⟩ := Prod.ext_iff.mp hr
  obtain ⟨hnew, hold⟩ := Prod.ext_iff.mp htargets
  cases r with
  | ok digest => cases hraised
  | error e =>
    refine ⟨e, s', zs, hrun, ?_, hold, hnew, fun h ↦ ?_⟩
    · exact cleansUp_of_alone sampleParts (by decide +kernel)
    · cases (hnew.symm.trans h.1).trans hold

end WorkspacePaths

end HibikiCore
