import HibikiCore.Runtime.Artifacts
import HibikiCore.Safety.Selections

/-!
# Publications that survive a crash

A row gets an address in the transaction that publishes it, and the store has the object by then.
What is found under a digest keeps its content from then on: only temporary files are written, and a
temporary file never is the file of an object. So a row can lose its object in a crash only, and
then because the object had not been written back.
-/

namespace HibikiCore

set_option synthInstance.maxSize 100000000
set_option synthInstance.maxHeartbeats 400000

variable {env : Env} {auth : AuthContext} {p : Payload} {s s' : DB} {w w' : World} {l : Label}
variable {uri : String}

/-! ## Rows with an address -/

/-- No row gets an address. -/
abbrev Unaddressed (uri : String) : DB → DB → Prop :=
  Enters Refs.artifacts (fun a ↦ a.artifactUri = some uri) fun _ ↦ False

instance registerArtifact_unaddressed {taskId runId : String} {run : AgentRunRow} {hash : String} :
    Respects (Unaddressed uri) (registerArtifact env taskId runId run hash) := by
  have hadd (row : ArtifactRow) (hnone : row.artifactUri = none) (k : String × String)
      (c : Prop) [Decidable c] :
      Respects (Unaddressed uri) (Tx.when c (add Refs.artifacts k row)) := by
    have : Respects (Unaddressed uri) (add Refs.artifacts k row) :=
      Enters.insert (by rw [hnone]; exact nofun)
    infer_instance
  rw [registerArtifact]
  exact .seq inferInstance fun _ ↦ hadd _ rfl _ _

theorem handler_unaddressed {operation : Operation} (h : operation ≠ .publishArtifact) :
    Respects (Unaddressed uri) (handler env auth p operation) := by
  cases operation
  case publishArtifact => exact (h rfl).elim
  all_goals (dsimp only [handler]; infer_instance)

instance background_unaddressed : Background (Unaddressed uri) := inferInstance

/-- A publication reads a file and gives its row the address of what it has read. -/
theorem publishArtifact_ok {result : CommandResult}
    (h : publishArtifact env auth p s = .ok (result, s')) :
    ∃ runId wsId path content taskId, p.runId = some runId ∧
      (s.runInputs.find? runId).bind (fun i ↦ truthy i.workspaceId) = some wsId ∧
      truthy p.path = some path ∧ env.readWorkspace wsId path none = .ok content ∧
      result.replayed = false ∧
      ∀ uri, Enters Refs.artifacts (fun a ↦ a.artifactUri = some uri)
        (fun k ↦ k = (taskId, content.digest) ∧ uri = "artifact://" ++ content.digest) s s' := by
  rw [publishArtifact] at h
  obtain ⟨runId, t₁, hkey, h₁⟩ := Tx.bind_ok.mp h
  obtain ⟨hrunId, rfl⟩ := key_ok.mp hkey
  obtain ⟨run, t₂, hget, h₂⟩ := Tx.bind_ok.mp h₁
  obtain ⟨-, rfl⟩ := getRun_ok.mp hget
  obtain ⟨_, t₃, hbinding, h₃⟩ := Tx.bind_ok.mp h₂
  obtain ⟨rfl, -⟩ := assertRunWriteBinding_bound hbinding
  obtain ⟨_, t₄, htask, h₄⟩ := Tx.bind_ok.mp h₃
  obtain ⟨-, rfl⟩ := getTask_ok.mp htask
  obtain ⟨_, t₅, hcheck₅, h₅⟩ := Tx.bind_ok.mp h₄
  obtain ⟨-, rfl⟩ := Tx.check_ok.mp hcheck₅
  rw [Tx.get_bind_ok] at h₅
  obtain ⟨wsId, t₆, hworkspace, h₆⟩ := Tx.bind_ok.mp h₅
  obtain ⟨hwsId, rfl⟩ := Tx.require_ok.mp hworkspace
  obtain ⟨path, t₇, hrequire, h₇⟩ := Tx.bind_ok.mp h₆
  obtain ⟨hpath, rfl⟩ := Tx.require_ok.mp hrequire
  obtain ⟨content, t₈, hread, h₈⟩ := Tx.bind_ok.mp h₇
  obtain ⟨rfl, hcontent, -⟩ := readWorkspaceBytes_ok hread
  obtain ⟨_, t₉, hcheck₉, h₉⟩ := Tx.bind_ok.mp h₈
  obtain ⟨-, rfl⟩ := Tx.check_ok.mp hcheck₉
  obtain ⟨_, t₁₀, hcheck₁₀, h₁₀⟩ := Tx.bind_ok.mp h₉
  obtain ⟨-, rfl⟩ := Tx.check_ok.mp hcheck₁₀
  obtain ⟨_, u₁, hadd, h₁₁⟩ := Tx.bind_ok.mp h₁₀
  obtain ⟨_, u₂, hupdate, h₁₂⟩ := Tx.bind_ok.mp h₁₁
  obtain ⟨_, u₃, hevent, hpure⟩ := Tx.bind_ok.mp h₁₂
  obtain ⟨hresult, hlast⟩ := Tx.pure_ok.mp hpure
  refine ⟨runId, wsId, path, content, run.taskId, hrunId, hwsId, hpath, hcontent,
    hresult ▸ rfl, fun uri ↦ ?_⟩
  have hnew : Unaddressed uri t₁₀ u₁ := by
    rcases Tx.when_ok.mp hadd with ⟨-, hinsert⟩ | ⟨-, rfl⟩
    · exact (Enters.insert (by simp)).rel hinsert
    · exact Preord.refl _
  have hlater : Unaddressed uri u₂ s' := hlast ▸ Respects.rel hevent
  refine Preord.trans (hnew.mono fun _ ↦ False.elim)
    (Preord.trans ?_ (hlater.mono fun _ ↦ False.elim))
  refine Enters.of_update (fun a _ huri ↦ .inr ⟨rfl, ?_⟩) hupdate
  exact (Option.some.inj huri).symm

/-- A row has an address from before, or the step publishes what it refers to. -/
theorem step_addressed (hstep : system.step w l = some w') {k : String × String} {row : ArtifactRow}
    (hrow : w'.db.artifacts.find? k = some row) (huri : row.artifactUri = some uri) :
    (∃ row', w.db.artifacts.find? k = some row' ∧ row'.artifactUri = some uri) ∨
      w.staged l = some k.2 ∧ uri = "artifact://" ++ k.2 := by
  have hkept (h : Unaddressed uri w.db w'.db) :
      ∃ row', w.db.artifacts.find? k = some row' ∧ row'.artifactUri = some uri :=
    (h k row hrow huri).resolve_right id
  cases l
  case command env r =>
    have hcases : World.Step w (.command env r) w' := World.step_cases hstep
    cases hcases with
    | raised | ended | idle => exact .inl ⟨row, hrow, huri⟩
    | @command _ _ result db hrun => ?_
    rcases execute_cases hrun with ⟨-, hrecords⟩ | ⟨t, t', hran, hrecords⟩
    · exact .inl (hkept (Enters.of_read ((hrecords .artifacts).2 (by decide))))
    obtain ⟨n, rfl⟩ := hran.start
    have hafter : Unaddressed uri t' db := Enters.of_read ((hrecords .artifacts).2 (by decide))
    by_cases hpublish : r.operation = .publishArtifact
    · have hpublished := hran.run
      rw [hpublish] at hpublished
      change publishArtifact env r.auth r.payload _ = _ at hpublished
      obtain ⟨runId, wsId, path, content, taskId, hrunId, hwsId, hpath, hcontent, hfresh,
        henters⟩ := publishArtifact_ok hpublished
      have hstaged : w.staged (.command env r) = some content.digest := by
        have hpublication : r.publication env w.db = some content := by
          rw [Request.publication, if_pos hpublish, hrunId]
          simp [hwsId, hpath, hcontent, Except.toOption]
        rw [World.staged, hrun]
        simp [hfresh, hpublication]
      rcases hafter k row hrow huri with ⟨mid, hmid, haddress⟩ | hfalse
      · rcases henters uri k mid hmid haddress with hold | ⟨rfl, hname⟩
        · exact .inl hold
        · exact .inr ⟨hstaged, hname⟩
      · exact hfalse.elim
    · have hrespects : Respects (Unaddressed uri)
          (handler env r.auth r.payload r.operation) := handler_unaddressed hpublish
      have hhandled : Unaddressed uri { w.db with drawn := n } t' := hrespects.rel hran.run
      exact .inl (hkept (Preord.trans hhandled hafter))
  all_goals exact .inl (hkept (step_background Preord.refl rfl hstep))

/-! ## The store -/

namespace LocalArtifactStore

variable {sha256 : Bytes → String} {store : LocalArtifactStore} {put : Put}

/-- Objects have the hash they are found under, and no two names of different digests share a
file. -/
structure Sound (sha256 : Bytes → String) (store : LocalArtifactStore) : Prop where
  hashed : ∀ digest file, store.entry (.object digest) = some file →
    sha256 (store.content file) = digest
  seen : ∀ digest file, store.saved (.object digest) = some file →
    store.entry (.object digest) = some file
  apart : ∀ n m file, store.Holds n file → store.Holds m file → n.digest = m.digest
  numbered : ∀ n file, store.Holds n file → file < store.fresh

/-- What a `put` has come to. From the lookup on there is no object, until it is given its name. -/
structure Put.Sound (sha256 : Bytes → String) (store : LocalArtifactStore) (put : Put) : Prop where
  hash : sha256 put.content = put.digest
  hex : isSha256Hex put.digest = true
  reached : match put.stage with
    | .lookup => True
    | .create => store.entry (.object put.digest) = none
    | .write => store.entry (.object put.digest) = none ∧
        (store.entry (.temporary put.digest)).isSome = true
    | .replace => store.entry (.object put.digest) = none ∧
        store.read (.temporary put.digest) = some put.content
    | .done => (store.entry (.object put.digest)).isSome = true

namespace Sound

/-- A file that is no object may be written. -/
theorem fill (h : Sound sha256 store) {file : Nat} {b : Bytes}
    (hfree : ∀ digest, store.entry (.object digest) ≠ some file) :
    Sound sha256 (store.fill file b) where
  hashed digest other hother := by
    have hne : other ≠ file := by
      rintro rfl
      exact hfree digest hother
    rw [Disk.content_fill_of_ne hne]
    exact h.hashed digest other hother
  seen := h.seen
  apart := h.apart
  numbered := h.numbered

/-- The temporary file of a digest without an object is no object. -/
theorem temporary_free (h : Sound sha256 store) {digest : String} {file : Nat}
    (hnone : store.entry (.object digest) = none)
    (hfile : store.entry (.temporary digest) = some file) (other : String) :
    store.entry (.object other) ≠ some file := by
  intro hother
  have hsame : digest = other := h.apart (.temporary digest) (.object other) file (.inl hfile)
    (.inl hother)
  rw [← hsame, hnone] at hother
  cases hother

theorem write (h : Sound sha256 store) {digest : String} {b : Bytes}
    (hnone : store.entry (.object digest) = none) :
    Sound sha256 (store.write (.temporary digest) b) := by
  rw [Disk.write]
  cases hfile : store.entry (.temporary digest) with
  | none => exact h
  | some file => exact h.fill (h.temporary_free hnone hfile)

theorem create (h : Sound sha256 store) {digest : String}
    (hnone : store.entry (.object digest) = none) :
    Sound sha256 (store.create (.temporary digest) []) := by
  rw [Disk.create]
  cases hfile : store.entry (.temporary digest) with
  | some file => exact h.fill (h.temporary_free hnone hfile)
  | none =>
    have hadd : Sound sha256 (store.add (.temporary digest)) := by
      refine ⟨?_, ?_, ?_, ?_⟩
      · intro other file hother
        rw [Disk.entry_add, if_neg (by simp)] at hother
        exact h.hashed other file hother
      · intro other file hother
        rw [Disk.entry_add, if_neg (by simp)]
        exact h.seen other file hother
      · intro n m file hn hm
        rcases Disk.holds_add hn with hn | ⟨rfl, rfl⟩
        · rcases Disk.holds_add hm with hm | ⟨rfl, rfl⟩
          · exact h.apart n m file hn hm
          · exact absurd (h.numbered n _ hn) (Nat.lt_irrefl _)
        · rcases Disk.holds_add hm with hm | ⟨rfl, -⟩
          · exact absurd (h.numbered m _ hm) (Nat.lt_irrefl _)
          · rfl
      · intro n file hn
        rcases Disk.holds_add hn with hn | ⟨-, rfl⟩
        · exact Nat.lt_succ_of_lt (h.numbered n file hn)
        · exact Nat.lt_succ_self _
    refine hadd.fill fun other hother ↦ ?_
    rw [Disk.entry_add, if_neg (by simp)] at hother
    exact absurd (h.numbered _ _ (.inl hother)) (Nat.lt_irrefl _)

/-- An object that is whole is given its name. -/
theorem rename (h : Sound sha256 store) {digest : String} {b : Bytes}
    (hnone : store.entry (.object digest) = none)
    (hwhole : store.read (.temporary digest) = some b) (hhash : sha256 b = digest) :
    Sound sha256 (store.rename (.temporary digest) (.object digest)) where
  hashed other file hother := by
    rw [Disk.entry_rename, if_neg (by simp)] at hother
    split at hother
    · next hname =>
      obtain rfl : other = digest := ObjectName.object.inj hname
      rw [Disk.read, hother] at hwhole
      exact (congrArg sha256 (Option.some.inj hwhole)).trans hhash
    · exact h.hashed other file hother
  seen other file hother := by
    have hseen := h.seen other file hother
    rw [Disk.entry_rename, if_neg (by simp), if_neg, hseen]
    intro hname
    rw [hname, hnone] at hseen
    cases hseen
  apart n m file hn hm := by
    rcases Disk.holds_rename hn with hn | ⟨rfl, hold⟩
    · rcases Disk.holds_rename hm with hm | ⟨rfl, hold⟩
      · exact h.apart n m file hn hm
      · exact h.apart n (.temporary digest) file hn (.inl hold)
    · rcases Disk.holds_rename hm with hm | ⟨rfl, -⟩
      · exact h.apart (.temporary digest) m file (.inl hold) hm
      · rfl
  numbered n file hn := by
    rcases Disk.holds_rename hn with hn | ⟨-, hn⟩
    · exact h.numbered n file hn
    · exact h.numbered _ file (.inl hn)

theorem sync (h : Sound sha256 store) (name : ObjectName) : Sound sha256 (store.sync name) where
  hashed := h.hashed
  seen digest file hfile := by
    rw [Disk.saved_sync] at hfile
    split at hfile
    · next hname => exact hname ▸ hfile
    · exact h.seen digest file hfile
  apart n m file hn hm := h.apart n m file (Disk.holds_sync hn) (Disk.holds_sync hm)
  numbered n file hn := h.numbered n file (Disk.holds_sync hn)

/-- After a crash there is no object that was not there before. -/
theorem entry_crash (h : Sound sha256 store) {kept : ObjectName → Bool} {remains : Nat → Bytes}
    {digest : String} {file : Nat}
    (hfile : (store.crash kept remains).entry (.object digest) = some file) :
    store.entry (.object digest) = some file :=
  (Disk.holds_crash (.inl hfile)).elim id (h.seen digest file)

theorem crash (h : Sound sha256 store) {kept : ObjectName → Bool} {remains : Nat → Bytes}
    (hflushed : ∀ digest file, store.entry (.object digest) = some file →
      store.flushed file = true) : Sound sha256 (store.crash kept remains) where
  hashed digest file hfile := by
    have hbefore := h.entry_crash hfile
    rw [Disk.content_crash (hflushed digest file hbefore)]
    exact h.hashed digest file hbefore
  seen _ _ hfile := hfile
  apart n m file hn hm := h.apart n m file (Disk.holds_crash hn) (Disk.holds_crash hm)
  numbered n file hn := h.numbered n file (Disk.holds_crash hn)

theorem empty : Sound sha256 (.empty []) where
  hashed _ _ hfile := nomatch hfile
  seen _ _ hfile := nomatch hfile
  apart _ _ _ hfile := (hfile.elim nofun nofun)
  numbered _ _ hfile := (hfile.elim nofun nofun)

/-- A file operation of a `put` keeps the store sound, and the objects that are there. -/
theorem advance (h : Sound sha256 store) (hput : put.Sound sha256 store) :
    Sound sha256 (store.advance put).1 ∧ (store.advance put).2.Sound sha256 (store.advance put).1 ∧
      ∀ digest, (store.entry (.object digest)).isSome = true →
        ((store.advance put).1.entry (.object digest)).isSome = true := by
  obtain ⟨digest, content, stage⟩ := put
  obtain ⟨hhash, hhex, hreached⟩ := hput
  cases stage with
  | lookup =>
    cases hfile : store.entry (.object digest) with
    | none =>
      have hadvance : store.advance ⟨digest, content, .lookup⟩ =
          (store, ⟨digest, content, .create⟩) := by
        simp [LocalArtifactStore.advance, hfile]
      rw [hadvance]
      exact ⟨h, ⟨hhash, hhex, hfile⟩, fun _ hfound ↦ hfound⟩
    | some file =>
      have hadvance : store.advance ⟨digest, content, .lookup⟩ =
          (store, ⟨digest, content, .done⟩) := by
        simp [LocalArtifactStore.advance, hfile]
      rw [hadvance]
      exact ⟨h, ⟨hhash, hhex, Option.isSome_iff_exists.mpr ⟨file, hfile⟩⟩, fun _ hfound ↦ hfound⟩
  | create =>
    have hentry (other : String) : (store.create (.temporary digest) []).entry (.object other) =
        store.entry (.object other) := Disk.entry_create_of_ne (by simp)
    refine ⟨h.create hreached, ⟨hhash, hhex, ?_, Disk.entry_create_self⟩, fun other hfound ↦ ?_⟩
    · exact (hentry digest).trans hreached
    · exact (congrArg Option.isSome (hentry other)).trans hfound
  | write =>
    obtain ⟨hnone, hopen⟩ := hreached
    have hentry : (store.write (.temporary digest) content).entry = store.entry :=
      Disk.entry_write
    refine ⟨h.write hnone, ⟨hhash, hhex, ?_, Disk.read_write hopen⟩, fun other hfound ↦ ?_⟩
    · exact (congrFun hentry _).trans hnone
    · exact (congrArg Option.isSome (congrFun hentry _)).trans hfound
  | replace =>
    obtain ⟨hnone, hwhole⟩ := hreached
    have hentry (other : String) :
        (store.rename (.temporary digest) (.object digest)).entry (.object other) =
          if other = digest then store.entry (.temporary digest)
          else store.entry (.object other) := by
      rw [Disk.entry_rename, if_neg (by simp)]
      simp
    have hfile : (store.entry (.temporary digest)).isSome = true := by
      obtain ⟨file, hfile, -⟩ := Option.map_eq_some_iff.mp hwhole
      exact Option.isSome_iff_exists.mpr ⟨file, hfile⟩
    refine ⟨h.rename hnone hwhole hhash, ⟨hhash, hhex, ?_⟩, fun other hfound ↦ ?_⟩
    · exact (congrArg Option.isSome ((hentry digest).trans (if_pos rfl))).trans hfile
    · refine (congrArg Option.isSome (hentry other)).trans ?_
      split
      · exact hfile
      · exact hfound
  | done => exact ⟨h, ⟨hhash, hhex, hreached⟩, fun _ hfound ↦ hfound⟩

end Sound

end LocalArtifactStore

/-! ## The service and its store -/

theorem artifactDigest_append {hash : String} (h : isSha256Hex hash = true) :
    artifactDigest ("artifact://" ++ hash) = some hash := by
  have hrest : "artifact://".toList.isPrefixOf? ("artifact://" ++ hash).toList =
      some hash.toList := by
    rw [String.toList_append]
    rfl
  rw [artifactDigest, hrest, Option.map_some, String.ofList_toList]
  simp [h]

namespace Host

variable {sha256 : Bytes → String} {h h' : Host} {event : Event}

/-- The store is sound, the `put` under way has come to where it says, and the rows with an address
refer to objects that are there. -/
structure Sound (sha256 : Bytes → String) (h : Host) : Prop where
  store : h.store.Sound sha256
  putting : ∀ put, h.put = some put → put.Sound sha256 h.store
  rows : ∀ k row uri, h.world.db.artifacts.find? k = some row → row.artifactUri = some uri →
    uri = "artifact://" ++ k.2 ∧ isSha256Hex k.2 = true ∧
      (h.store.entry (.object k.2)).isSome = true

theorem Sound.complete (h : Sound sha256 host) : host.Complete sha256 := by
  intro taskId hash row uri hrow huri
  obtain ⟨rfl, hhex, hfound⟩ := h.rows (taskId, hash) row uri hrow huri
  obtain ⟨file, hfile⟩ := Option.isSome_iff_exists.mp hfound
  refine ⟨host.store.content file, ?_, h.store.hashed hash file hfile⟩
  rw [LocalArtifactStore.get, artifactDigest_append hhex, Option.bind_some, Disk.read,
    hfile]
  rfl

/-- What the system writes back changes nothing that a process sees. -/
theorem Sound.of_seen {store : LocalArtifactStore} (h : Sound sha256 host)
    (hsound : store.Sound sha256) (hentry : store.entry = host.store.entry)
    (hcontent : store.content = host.store.content) : Sound sha256 { host with store } where
  store := hsound
  putting put hput := by
    obtain ⟨hhash, hhex, hreached⟩ := h.putting put hput
    have hread : store.read = host.store.read := by
      funext name
      rw [Disk.read, Disk.read, hentry, hcontent]
    refine ⟨hhash, hhex, ?_⟩
    rw [hentry, hread]
    exact hreached
  rows k row uri hrow huri := by
    rw [hentry]
    exact h.rows k row uri hrow huri

/-- The transaction under way has had its object kept. -/
theorem Sound.commit (h : Sound sha256 host) (hstep : system.step host.world l = some w')
    (hstaged : host.world.staged l = host.put.map (·.digest))
    (hdone : host.put.all (·.stage = .done) = true) :
    Sound sha256 { host with world := w', put := none } where
  store := h.store
  putting _ hput := nomatch hput
  rows k row uri hrow huri := by
    rcases step_addressed hstep hrow huri with ⟨row', hrow', huri'⟩ | ⟨hkey, hname⟩
    · exact h.rows k row' uri hrow' huri'
    · obtain ⟨put, hput, hdigest⟩ := Option.map_eq_some_iff.mp (hstaged.symm.trans hkey)
      obtain ⟨hhash, hhex, hreached⟩ := h.putting put hput
      rw [hput] at hdone
      have hstage : put.stage = .done := by simpa using hdone
      rw [hstage] at hreached
      exact ⟨hname, hdigest ▸ hhex, hdigest ▸ hreached⟩

theorem Sound.step (h : Sound sha256 host) (hok : host.CrashesLate event)
    (hstep : Host.step sha256 host event = some h') : Sound sha256 h' := by
  cases event with
  | put content =>
    obtain ⟨⟨-, hhex⟩, hstep⟩ := Option.ite_none_right_eq_some.mp hstep
    obtain rfl := Option.some.inj hstep
    refine ⟨h.store, fun put hput ↦ ?_, h.rows⟩
    obtain rfl := Option.some.inj hput
    exact ⟨rfl, hhex, trivial⟩
  | advance =>
    obtain ⟨put, hput, rfl⟩ := Option.map_eq_some_iff.mp hstep
    obtain ⟨hstore, hnext, hkept⟩ := h.store.advance (h.putting put hput)
    refine ⟨hstore, fun put' hput' ↦ ?_, fun k row uri hrow huri ↦ ?_⟩
    · obtain rfl := Option.some.inj hput'
      exact hnext
    · obtain ⟨hname, hhex, hfound⟩ := h.rows k row uri hrow huri
      exact ⟨hname, hhex, hkept k.2 hfound⟩
  | commit l =>
    obtain ⟨⟨hstaged, hdone⟩, hstep⟩ := Option.ite_none_right_eq_some.mp hstep
    obtain ⟨w', hworld, rfl⟩ := Option.map_eq_some_iff.mp hstep
    exact h.commit hworld hstaged hdone
  | rollback =>
    obtain rfl := Option.some.inj hstep
    exact ⟨h.store, (fun _ hput ↦ nomatch hput), h.rows⟩
  | flush file =>
    obtain rfl := Option.some.inj hstep
    exact h.of_seen ⟨h.store.hashed, h.store.seen, h.store.apart, h.store.numbered⟩ rfl rfl
  | sync name =>
    obtain rfl := Option.some.inj hstep
    exact h.of_seen (h.store.sync name) rfl rfl
  | crash kept remains =>
    obtain rfl := Option.some.inj hstep
    have hok : host.WrittenBack := hok
    refine ⟨h.store.crash fun digest ↦ (hok digest).1, (fun _ hput ↦ nomatch hput),
      fun k row uri hrow huri ↦ ?_⟩
    obtain ⟨hname, hhex, hfound⟩ := h.rows k row uri hrow huri
    have hsaved : host.store.saved (.object k.2) = host.store.entry (.object k.2) :=
      (hok k.2).2 ⟨k.1, row, hrow, by rw [huri]; rfl⟩
    refine ⟨hname, hhex, ?_⟩
    rw [Disk.crash]
    simpa only [hsaved, ite_self] using hfound

theorem sound_invariant : (machine sha256).Invariant CrashesLate (Sound sha256) where
  init := ⟨.empty, (fun _ hput ↦ nomatch hput), fun _ _ _ hrow ↦ nomatch hrow⟩
  step _ _ _ h hok hstep := h.step hok hstep

end Host

/-! ## Samples -/

/-- The digest of the content of the samples. -/
def sampleDigest : String := "ca978112ca1bbdcafac231b39a23dc4da786eff8147c4f72b9807785afee48bb"

/-- The hash of nothing, and that of the content of the samples. -/
def sampleSha256 (content : Bytes) : String :=
  if content = [] then "e3b0c44298fc1c149afbf4c8996fb92427ae41e4649b934ca495991b7852b855"
  else sampleDigest

/-- The file of the sample is read, kept and registered. -/
def samplePublish (operations : Nat) : List Host.Event :=
  .put [97] :: List.replicate operations .advance ++
    [.commit (.command
      { Env.silent with
        workspaceRoot := some "/workspaces"
        readWorkspace := fun _ _ _ ↦ .ok ⟨sampleDigest, 1⟩
        artifactStore := true }
      { operation := .publishArtifact
        auth := sampleRuntime
        payload :=
          { taskId := some "task_i", runId := some "run_iiiiiiiiii", fencingEpoch := some 1
            path := some "out" } })]

/-- A run publishes a file, and some of it is written back. -/
def samplePublished (written : List Host.Event) : List Host.Event :=
  sampleStarted.map .commit ++ samplePublish 4 ++ written

/-- The machine stops; the names are kept, and what was not written back is empty. -/
def sampleCrash : Host.Event := .crash (fun _ ↦ true) fun _ ↦ []

/-- What the row of the sample refers to, and what is stored there. -/
def sampleObject (h : Host) : Option (Option String) × Option Bytes :=
  ((h.world.db.artifacts.find? ("task_i", sampleDigest)).map ArtifactRow.artifactUri,
    h.store.get ("artifact://" ++ sampleDigest))

theorem sampleLost_view :
    ((Host.machine sampleSha256).exec (Host.machine sampleSha256).init 
        (samplePublished [] ++ [sampleCrash])).bind
      (fun h ↦ ((Host.machine sampleSha256).exec h (samplePublish 1)).map fun h' ↦
        (sampleObject h, sampleObject h', h'.world.executed.length - h.world.executed.length)) =
      some ((some (some ("artifact://" ++ sampleDigest)), some []),
        (some (some ("artifact://" ++ sampleDigest)), some []), 1) := by
  decide +kernel

theorem sampleKept_view :
    ((Host.machine sampleSha256).exec (Host.machine sampleSha256).init
      (samplePublished [.flush 0, .sync (.object sampleDigest)])).bind (fun h ↦
        ((Host.machine sampleSha256).step h sampleCrash).map fun h' ↦
          ((h.store.fresh, h.store.content 0, h.store.flushed 0,
            h.store.entry (.object sampleDigest), h.store.saved (.object sampleDigest)),
            sampleObject h')) =
      some ((1, [97], true, some 0, some 0),
        (some (some ("artifact://" ++ sampleDigest)), some [97])) := by
  decide +kernel

/-- In every run whose crashes come when the objects are written back, every row with an address
refers to a stored object that has the row's hash. -/
theorem published_objects_survive (sha256 : Bytes → String) {h : Host}
    (hreach : (Host.machine sha256).ReachableBy Host.CrashesLate h) : h.Complete sha256 :=
  (Host.sound_invariant.of_reachable hreach).complete

/-- The object of the sample is written back before the machine stops. -/
theorem published_objects_survive_sampleKept :
    ∃ h, (Host.machine sampleSha256).ReachableBy Host.CrashesLate h ∧
      h.Complete sampleSha256 ∧
      sampleObject h = (some (some ("artifact://" ++ sampleDigest)), some [97]) := by
  obtain ⟨h, hexec, hrest⟩ := Option.bind_eq_some_iff.mp sampleKept_view
  obtain ⟨h', hcrash, hview⟩ := Option.map_eq_some_iff.mp hrest
  simp only [Prod.mk.injEq] at hview
  obtain ⟨⟨hfresh, hcontent, hflushed, hentry, hsaved⟩, hobject⟩ := hview
  have hreach : (Host.machine sampleSha256).ReachableBy Host.CrashesLate h := by
    refine .of_exec_ok (fun event hevent u ↦ ?_) hexec
    cases event with
    | crash kept remains => simp [samplePublished, samplePublish] at hevent
    | _ => trivial
  have hsound : h.Sound sampleSha256 := Host.sound_invariant.of_reachable hreach
  have hone (digest : String) (file : Nat) (hfile : h.store.entry (.object digest) = some file) :
      file = 0 ∧ digest = sampleDigest := by
    have hlt : file < h.store.fresh := hsound.store.numbered _ _ (.inl hfile)
    rw [hfresh] at hlt
    obtain rfl : file = 0 := by omega
    have hhash := hsound.store.hashed digest 0 hfile
    rw [hcontent] at hhash
    exact ⟨rfl, hhash.symm⟩
  have hwritten : h.WrittenBack := by
    intro digest
    refine ⟨fun file hfile ↦ (hone digest file hfile).1 ▸ hflushed, ?_⟩
    rintro ⟨taskId, row, hrow, huri⟩
    obtain ⟨uri, huri⟩ := Option.isSome_iff_exists.mp huri
    obtain ⟨-, -, hfound⟩ := hsound.rows (taskId, digest) row uri hrow huri
    obtain ⟨file, hfile⟩ := Option.isSome_iff_exists.mp hfound
    obtain ⟨-, rfl⟩ := hone digest file hfile
    rw [hsaved, hentry]
  have hafter : (Host.machine sampleSha256).ReachableBy Host.CrashesLate h' :=
    hreach.step (l := sampleCrash) hwritten hcrash
  exact ⟨h', hafter, published_objects_survive sampleSha256 hafter, hobject⟩

/-- A row whose object is not the one that was published is not complete. -/
theorem sampleObject_not_complete {h : Host} {content : Bytes}
    (hview : sampleObject h = (some (some ("artifact://" ++ sampleDigest)), some content))
    (hcontent : sampleSha256 content ≠ sampleDigest) : ¬h.Complete sampleSha256 := by
  intro hcomplete
  obtain ⟨hrow, hget⟩ := Prod.mk.inj hview
  obtain ⟨row, hfound, huri⟩ := Option.map_eq_some_iff.mp hrow
  obtain ⟨content', hget', hhash⟩ := hcomplete _ _ row _ hfound huri
  obtain rfl := Option.some.inj (hget.symm.trans hget')
  exact hcontent hhash

/-- The machine stops when the row of a publication is committed and its object is not written back:
the object is empty then, and stays so when the file is published again. -/
theorem sampleLost_not_complete :
    ∃ h h', (Host.machine sampleSha256).Reachable h ∧ ¬h.Complete sampleSha256 ∧
      (Host.machine sampleSha256).exec h (samplePublish 1) = some h' ∧
      h'.world.executed.length = h.world.executed.length + 1 ∧ ¬h'.Complete sampleSha256 := by
  obtain ⟨h, hexec, hrest⟩ := Option.bind_eq_some_iff.mp sampleLost_view
  obtain ⟨h', hagain, hview⟩ := Option.map_eq_some_iff.mp hrest
  simp only [Prod.mk.injEq] at hview
  obtain ⟨hbefore, hafter, hexecuted⟩ := hview
  have hempty : sampleSha256 [] ≠ sampleDigest := by decide
  exact ⟨h, h', .of_exec hexec, sampleObject_not_complete hbefore hempty, hagain, by omega,
    sampleObject_not_complete hafter hempty⟩

end HibikiCore
