import Mathlib.Data.List.DropRight
import HibikiCore.Domain.Errors
import HibikiCore.Store.Links
import HibikiCore.Text.Pattern

/-!
# The sandbox

A sandbox is a container that sees a few directories of the host. Its specification is checked when
it is made: a container that holds the socket of the Docker daemon escapes every other restriction,
and so no mounted path may be that socket, through whatever links it is named.

The check compares places, while a mount shows everything below a place.
`runArgs_keepsSocketOut_iff` says which accepted specifications keep the socket out of the
container: those that mount no directory above it.
-/

namespace HibikiCore

/-! ## Specifications -/

/-- A whole number above zero. -/
abbrev Positive := {n : Nat // 0 < n}

/-- The limits that the command line of a container names; the number of processors need not be
whole, and is given as text. -/
structure SandboxLimits where
  memoryMb : Positive
  memorySwapMb : Positive
  cpus : String
  pids : Positive
  stopGraceS : Positive
  nofile : Positive

structure SandboxSpec where
  image : String
  workspaceHostPath : String
  readonlyHostPaths : List (String × String)
  limits : SandboxLimits
  env : List (String × String)

inductive SpecError
  | image
  | credentialKey (key : String)
  | relativeHost (label path : String)
  | daemonSocket (label path : String)
  | relativeContainer
  | shadowsWorkspace
  deriving DecidableEq, Repr

/-- The text of an error; `repr` writes down a text as the interpreter does. -/
def SpecError.message (repr : String → String) : SpecError → String
  | image => "image must be a non-empty string"
  | credentialKey key =>
    "refusing credential-like env key " ++ repr key ++ ": credentials never enter a sandbox"
  | relativeHost label path => label ++ " must be an absolute host path, got " ++ repr path
  | daemonSocket label path => label ++ " may not be the Docker daemon socket: " ++ repr path
  | relativeContainer => "readonly_host_paths container paths must be absolute"
  | shadowsWorkspace => "readonly_host_paths may not shadow /workspace"

def workspaceMount : String := "/workspace"

def containerUser : String := "65534:65534"

/-- What makes the name of a variable look like that of a credential. -/
def credentialKeys : Pattern :=
  .oneOf (["key", "token", "secret", "password", "credential"].map anyCase)

/-- The paths under which the daemon listens. -/
def daemonPaths : List String := ["/var/run/docker.sock", "/run/docker.sock"]

def dockerSocketPaths (tree : HostTree) : List String := daemonPaths.map tree.realpath

def checkMountPath (tree : HostTree) (path label : String) : Except SpecError Unit :=
  if isAbsolute path = false then .error (.relativeHost label path)
  else if tree.realpath path ∈ dockerSocketPaths tree then .error (.daemonSocket label path)
  else .ok ()

/-- The pattern for credentials asks for no word boundary, and so no character needs to count as
part of a word. -/
def checkEnvKey (entry : String × String) : Except SpecError Unit :=
  if credentialKeys.search (fun _ ↦ false) entry.1.toList then .error (.credentialKey entry.1)
  else .ok ()

def checkReadonlyPath (tree : HostTree) (mount : String × String) : Except SpecError Unit := do
  checkMountPath tree mount.1 "readonly_host_paths host path"
  if isAbsolute mount.2 = false then .error .relativeContainer
  else if mount.2.toList.rdropWhile (· == '/') = workspaceMount.toList then
    .error .shadowsWorkspace
  else .ok ()

/-- `SandboxSpec.__post_init__` -/
def SandboxSpec.postInit (tree : HostTree) (spec : SandboxSpec) : Except SpecError Unit := do
  if spec.image = "" then .error .image else .ok ()
  spec.env.forM checkEnvKey
  checkMountPath tree spec.workspaceHostPath "workspace_host_path"
  spec.readonlyHostPaths.forM (checkReadonlyPath tree)

/-! ## The command line -/

/-- A command as it was validated, without its input and its own time limit. -/
structure SandboxCommand where
  argv : List String
  cwd : String

/-- An option and its value in one word. -/
def assigned (name value : String) : String := name ++ "=" ++ value

/-- What `-v` is given for a mount. -/
def volume (host container mode : String) : String := host ++ ":" ++ container ++ ":" ++ mode

/-- `DockerSandboxAdapter._run_args` -/
def runArgs (dockerBin : String) (cmd : SandboxCommand) (spec : SandboxSpec) (cidfile : String) :
    List String :=
  [dockerBin, "run", "--cidfile", cidfile, "--rm", "--init", "--read-only", "--tmpfs", "/tmp",
    "--user", containerUser, assigned "--cap-drop" "ALL",
    assigned "--security-opt" "no-new-privileges", assigned "--network" "none",
    assigned "--pids-limit" (toString spec.limits.pids.1),
    assigned "--memory" (toString spec.limits.memoryMb.1 ++ "m"),
    assigned "--memory-swap" (toString spec.limits.memorySwapMb.1 ++ "m"),
    assigned "--cpus" spec.limits.cpus, "--ulimit",
    assigned "nofile" (toString spec.limits.nofile.1),
    assigned "--stop-timeout" (toString spec.limits.stopGraceS.1), "--workdir", cmd.cwd, "-v",
    volume spec.workspaceHostPath workspaceMount "rw"] ++
    (spec.readonlyHostPaths.flatMap fun (host, container) ↦ ["-v", volume host container "ro"]) ++
    (spec.env.flatMap fun (key, value) ↦ ["--env", assigned key value]) ++
    spec.image :: cmd.argv

/-! ## How Docker reads it -/

/-- Options that stand alone. -/
def plainOptions : List String := ["--rm", "--init", "--read-only"]

/-- Options that have their value in the same word. -/
def assignedOptions : List String :=
  ["--cap-drop", "--security-opt", "--network", "--pids-limit", "--memory", "--memory-swap",
    "--cpus", "--stop-timeout"]

/-- Options that have their value in the next word. -/
def valueOptions : List String :=
  ["--cidfile", "--tmpfs", "--user", "--ulimit", "--workdir", "--env"]

/-- The host path that a value of `-v` mounts, if it names one; a value with more than three parts
is refused. -/
def hostOf (value : String) : Option (Option String) :=
  match value.toList.splitOn ':' with
  | [_] => some none
  | [host, _] | [host, _, _] =>
    some (if host.head? = some '/' then some (String.ofList host) else none)
  | _ => none

/-- The host paths that a list of options and an image mount, unless it is refused. The image is the
first word that is no option. What Docker makes of the options that `runArgs` never writes is a
parameter. -/
def mounted (other : List String → Option (List String)) : List String → Option (List String)
  | [] => none
  | word :: rest =>
    if word ∈ plainOptions then mounted other rest
    else if ∃ name ∈ assignedOptions, (name ++ "=").toList <+: word.toList then mounted other rest
    else if word ∈ valueOptions ∨ word = "-v" then
      match rest with
      | [] => none
      | value :: rest =>
        if word = "-v" then
          (hostOf value).bind fun host ↦ (mounted other rest).map (host.toList ++ ·)
        else mounted other rest
    else if word.toList.head? = some '-' then other (word :: rest)
    else some []

/-- The host paths that a command line mounts. -/
def bindMounts (other : List String → Option (List String)) : List String → Option (List String)
  | _ :: "run" :: options => mounted other options
  | _ => none

/-! ## The socket -/

/-- A path leads to the socket of the daemon, or to a directory with the socket somewhere below. -/
def Exposes (tree : HostTree) (host : String) : Prop :=
  ∃ place socket, tree.LeadsTo host place ∧ (∃ path ∈ daemonPaths, tree.LeadsTo path socket) ∧
    place <+: socket

/-- A path leads to a directory with the socket somewhere below. -/
def AboveSocket (tree : HostTree) (host : String) : Prop :=
  ∃ place socket, tree.LeadsTo host place ∧ (∃ path ∈ daemonPaths, tree.LeadsTo path socket) ∧
    place <+: socket ∧ place ≠ socket

/-- Nothing that a command line mounts shows the socket. -/
def KeepsSocketOut (tree : HostTree) (other : List String → Option (List String))
    (line : List String) : Prop :=
  ∀ hosts, bindMounts other line = some hosts → ∀ host ∈ hosts, ¬Exposes tree host

/-! ## What is mounted -/

theorem length_splitOn {α : Type*} [DecidableEq α] (a : α) (l : List α) :
    (l.splitOn a).length = l.count a + 1 := by
  induction l with
  | nil => simp
  | cons x l ih =>
    rw [List.splitOn_cons_eq_if_modifyHead, List.count_cons]
    split
    · rw [List.length_cons, ih]
    · rw [List.length_modifyHead, ih]

theorem toList_volume (host container mode : String) :
    (volume host container mode).toList =
      host.toList ++ ':' :: (container.toList ++ ':' :: mode.toList) := by
  simp [volume]

/-- Paths that Docker can tell apart in a value of `-v`. -/
def Separable (mount : String × String) : Prop := ':' ∉ mount.1.toList ∧ ':' ∉ mount.2.toList

instance (mount : String × String) : Decidable (Separable mount) :=
  inferInstanceAs (Decidable (_ ∧ _))

theorem hostOf_volume {host container mode : String} (hhost : isAbsolute host = true)
    (hmode : ':' ∉ mode.toList) :
    hostOf (volume host container mode) =
      if Separable (host, container) then some (some host) else none := by
  have hslash : host.toList.head? = some '/' := by simpa [isAbsolute] using hhost
  rw [hostOf, toList_volume]
  by_cases h : Separable (host, container)
  · rw [if_pos h, List.splitOn_append_cons_self_of_not_mem h.1,
      List.splitOn_append_cons_self_of_not_mem h.2, List.splitOn_eq_singleton hmode]
    dsimp only
    rw [if_pos hslash, String.ofList_toList]
  · rw [if_neg h]
    have hcolon : 0 < host.toList.count ':' + container.toList.count ':' := by
      by_contra hzero
      obtain ⟨hleft, hright⟩ := Nat.add_eq_zero_iff.mp (Nat.le_zero.mp (Nat.not_lt.mp hzero))
      exact h ⟨List.count_eq_zero.mp hleft, List.count_eq_zero.mp hright⟩
    have hlength :=
      length_splitOn ':' (host.toList ++ ':' :: (container.toList ++ ':' :: mode.toList))
    simp only [List.count_append, List.count_cons_self] at hlength
    split
    · next heq =>
      rw [heq, List.length_singleton] at hlength
      omega
    · next heq =>
      rw [heq] at hlength
      simp only [List.length_cons, List.length_nil] at hlength
      omega
    · next heq =>
      rw [heq] at hlength
      simp only [List.length_cons, List.length_nil] at hlength
      omega
    · rfl

section Mounted

variable {other : List String → Option (List String)} {word value name : String}
  {rest : List String}

theorem mounted_cons :
    mounted other (word :: rest) =
      if word ∈ plainOptions then mounted other rest
      else if ∃ name ∈ assignedOptions, (name ++ "=").toList <+: word.toList then
        mounted other rest
      else if word ∈ valueOptions ∨ word = "-v" then
        match rest with
        | [] => none
        | value :: rest =>
          if word = "-v" then
            (hostOf value).bind fun host ↦ (mounted other rest).map (host.toList ++ ·)
          else mounted other rest
      else if word.toList.head? = some '-' then other (word :: rest)
      else some [] := by
  rw [mounted.eq_def]

theorem mounted_plain (h : word ∈ plainOptions) :
    mounted other (word :: rest) = mounted other rest := by
  rw [mounted_cons, if_pos h]

theorem mounted_assigned (h : name ∈ assignedOptions) :
    mounted other (assigned name value :: rest) = mounted other rest := by
  have hprefix : (name ++ "=").toList <+: (assigned name value).toList := by
    have happend : (assigned name value).toList = (name ++ "=").toList ++ value.toList := by
      rw [assigned, String.toList_append]
    exact happend ▸ List.prefix_append _ _
  rw [mounted_cons]
  split
  · rfl
  · exact if_pos ⟨name, h, hprefix⟩

/-- No option is written in two ways. -/
theorem valueOptions_apart : ∀ word ∈ "-v" :: valueOptions, word ∉ plainOptions ∧
    ¬∃ name ∈ assignedOptions, (name ++ "=").toList <+: word.toList := by
  decide +kernel

theorem mounted_value (h : word ∈ valueOptions) :
    mounted other (word :: value :: rest) = mounted other rest := by
  obtain ⟨hplain, hassigned⟩ := valueOptions_apart word (List.mem_cons_of_mem _ h)
  have hvolume : word ≠ "-v" := by
    rintro rfl
    exact absurd h (by decide)
  rw [mounted_cons, if_neg hplain, if_neg hassigned, if_pos (.inl h)]
  exact if_neg hvolume

theorem mounted_volume {host container mode : String} (hhost : isAbsolute host = true)
    (hmode : ':' ∉ mode.toList) :
    mounted other ("-v" :: volume host container mode :: rest) =
      if Separable (host, container) then (mounted other rest).map (host :: ·) else none := by
  obtain ⟨hplain, hassigned⟩ := valueOptions_apart "-v" List.mem_cons_self
  rw [mounted_cons, if_neg hplain, if_neg hassigned, if_pos (.inr rfl)]
  dsimp only
  rw [if_pos rfl, hostOf_volume hhost hmode]
  split <;> rfl

theorem mounted_image (h : word.toList.head? ≠ some '-') :
    mounted other (word :: rest) = some [] := by
  have hplain : word ∉ plainOptions := by
    intro hmem
    have hdash : ∀ w ∈ plainOptions, w.toList.head? = some '-' := by decide +kernel
    exact h (hdash _ hmem)
  have hassigned : ¬∃ name ∈ assignedOptions, (name ++ "=").toList <+: word.toList := by
    rintro ⟨name, hname, after, hafter⟩
    have hdash : ∀ n ∈ assignedOptions, (n ++ "=").toList.head? = some '-' := by decide +kernel
    rw [← hafter, List.head?_append, hdash _ hname] at h
    exact h rfl
  have hvalue : ¬(word ∈ valueOptions ∨ word = "-v") := by
    intro hmem
    have hdash : ∀ w ∈ "-v" :: valueOptions, w.toList.head? = some '-' := by decide +kernel
    exact h (hdash _ (List.mem_cons.mpr hmem.symm))
  rw [mounted_cons, if_neg hplain, if_neg hassigned, if_neg hvalue, if_neg h]

theorem mounted_env (env : List (String × String)) :
    mounted other ((env.flatMap fun (key, value) ↦ ["--env", assigned key value]) ++ rest) =
      mounted other rest := by
  induction env with
  | nil => rfl
  | cons entry env ih =>
    rw [List.flatMap_cons, List.append_assoc]
    exact (mounted_value (by decide)).trans ih

/-- The mounts are read in order, if all of them can be. -/
theorem mounted_readonly {mounts : List (String × String)}
    (habsolute : ∀ m ∈ mounts, isAbsolute m.1 = true) :
    mounted other ((mounts.flatMap fun (host, container) ↦ ["-v", volume host container "ro"]) ++
        rest) =
      if ∀ m ∈ mounts, Separable m then (mounted other rest).map (mounts.map (·.1) ++ ·)
      else none := by
  induction mounts with
  | nil => simp
  | cons m mounts ih =>
    obtain ⟨hm, hmounts⟩ := List.forall_mem_cons.mp habsolute
    rw [List.flatMap_cons, List.append_assoc]
    refine (mounted_volume hm (by decide)).trans ?_
    rw [List.append_eq, List.nil_append, ih hmounts]
    by_cases hhead : Separable m
    · rw [if_pos hhead]
      by_cases htail : ∀ m ∈ mounts, Separable m
      · rw [if_pos htail, if_pos (List.forall_mem_cons.mpr ⟨hhead, htail⟩), Option.map_map]
        rfl
      · rw [if_neg htail, if_neg fun h ↦ htail (List.forall_mem_cons.mp h).2]
        rfl
    · rw [if_neg hhead, if_neg fun h ↦ hhead (List.forall_mem_cons.mp h).1]

end Mounted

namespace SandboxSpec

variable {spec : SandboxSpec}

/-- The mounts of a specification, each a host path and the path in the container. -/
def mounts (spec : SandboxSpec) : List (String × String) :=
  (spec.workspaceHostPath, workspaceMount) :: spec.readonlyHostPaths

/-- A command line mounts the paths of its specification, and what the words from the image on
mount, unless Docker refuses it. -/
theorem bindMounts_runArgs {other : List String → Option (List String)} {dockerBin cidfile : String}
    {cmd : SandboxCommand} (habsolute : ∀ m ∈ spec.mounts, isAbsolute m.1 = true) :
    bindMounts other (runArgs dockerBin cmd spec cidfile) =
      if ∀ m ∈ spec.mounts, Separable m then
        (mounted other (spec.image :: cmd.argv)).map (spec.mounts.map (·.1) ++ ·)
      else none := by
  obtain ⟨hworkspace, hreadonly⟩ := List.forall_mem_cons.mp habsolute
  have hline : bindMounts other (runArgs dockerBin cmd spec cidfile) =
      mounted other ("-v" :: volume spec.workspaceHostPath workspaceMount "rw" ::
        ((spec.readonlyHostPaths.flatMap fun (host, container) ↦
          ["-v", volume host container "ro"]) ++
        ((spec.env.flatMap fun (key, value) ↦ ["--env", assigned key value]) ++
          spec.image :: cmd.argv))) := by
    rw [runArgs, List.append_assoc, List.append_assoc]
    simp only [List.cons_append, List.nil_append, bindMounts]
    rw [mounted_value (by decide), mounted_plain (by decide), mounted_plain (by decide),
      mounted_plain (by decide), mounted_value (by decide), mounted_value (by decide),
      mounted_assigned (by decide), mounted_assigned (by decide), mounted_assigned (by decide),
      mounted_assigned (by decide), mounted_assigned (by decide), mounted_assigned (by decide),
      mounted_assigned (by decide), mounted_value (by decide), mounted_assigned (by decide),
      mounted_value (by decide)]
  rw [hline, mounted_volume hworkspace (by decide), mounted_readonly hreadonly, mounted_env, mounts]
  by_cases hhead : Separable (spec.workspaceHostPath, workspaceMount)
  · rw [if_pos hhead]
    by_cases htail : ∀ m ∈ spec.readonlyHostPaths, Separable m
    · rw [if_pos htail, if_pos (List.forall_mem_cons.mpr ⟨hhead, htail⟩), Option.map_map]
      rfl
    · rw [if_neg htail, if_neg fun h ↦ htail (List.forall_mem_cons.mp h).2]
      rfl
  · rw [if_neg hhead, if_neg fun h ↦ hhead (List.forall_mem_cons.mp h).1]

/-! ## What is accepted -/

variable {tree : HostTree}

theorem checkMountPath_ok {path label : String} (h : checkMountPath tree path label = .ok ()) :
    isAbsolute path = true ∧ tree.realpath path ∉ dockerSocketPaths tree := by
  rw [checkMountPath] at h
  split at h
  · cases h
  · next habsolute =>
    split at h
    · cases h
    · next hsocket => exact ⟨by simpa using habsolute, hsocket⟩

/-- Every mounted path was checked. -/
theorem checked_of_postInit (h : spec.postInit tree = .ok ()) :
    ∀ m ∈ spec.mounts, isAbsolute m.1 = true ∧ tree.realpath m.1 ∉ dockerSocketPaths tree := by
  rw [postInit] at h
  by_cases himage : spec.image = ""
  · rw [if_pos himage] at h
    cases h
  rw [if_neg himage] at h
  cases henv : spec.env.forM checkEnvKey with
  | error e =>
    rw [henv] at h
    cases h
  | ok u =>
    rw [henv] at h
    cases hworkspace : checkMountPath tree spec.workspaceHostPath "workspace_host_path" with
    | error e =>
      rw [hworkspace] at h
      cases h
    | ok u =>
      rw [hworkspace] at h
      refine List.forall_mem_cons.mpr ⟨checkMountPath_ok hworkspace, fun m hm ↦ ?_⟩
      have hcheck : checkReadonlyPath tree m = .ok () := by
        rcases forM_cases (checkReadonlyPath tree) spec.readonlyHostPaths with
          ⟨-, hall⟩ | ⟨e, herror, -⟩
        · exact hall m hm
        · exact absurd (herror.symm.trans h) (fun h ↦ nomatch h)
      rw [checkReadonlyPath] at hcheck
      cases hhost : checkMountPath tree m.1 "readonly_host_paths host path" with
      | error e =>
        rw [hhost] at hcheck
        cases hcheck
      | ok u => exact checkMountPath_ok hhost

/-- A checked path shows the socket only from above. -/
theorem exposes_iff {host : String} (h : tree.realpath host ∉ dockerSocketPaths tree) :
    Exposes tree host ↔ AboveSocket tree host := by
  constructor
  · rintro ⟨place, socket, hplace, ⟨path, hpath, hsocket⟩, hprefix⟩
    refine ⟨place, socket, hplace, ⟨path, hpath, hsocket⟩, hprefix, ?_⟩
    rintro rfl
    refine h (List.mem_map.mpr ⟨path, hpath, ?_⟩)
    rw [tree.realpath_of_leadsTo hplace, tree.realpath_of_leadsTo hsocket]
  · rintro ⟨place, socket, hplace, hsocket, hprefix, -⟩
    exact ⟨place, socket, hplace, hsocket, hprefix⟩

/-- The command line of an accepted specification keeps the socket out of the container, exactly
when Docker refuses it, or no mounted path leads to a directory above the socket and the words from
the image on mount nothing that shows it. -/
theorem runArgs_keepsSocketOut_iff (tree : HostTree) (other : List String → Option (List String))
    (spec : SandboxSpec) (dockerBin cidfile : String) (cmd : SandboxCommand)
    (hspec : spec.postInit tree = .ok ()) :
    KeepsSocketOut tree other (runArgs dockerBin cmd spec cidfile) ↔
      ((∀ m ∈ spec.mounts, Separable m) → ∀ more,
        mounted other (spec.image :: cmd.argv) = some more →
          (∀ m ∈ spec.mounts, ¬AboveSocket tree m.1) ∧ ∀ host ∈ more, ¬Exposes tree host) := by
  have hchecked := checked_of_postInit hspec
  rw [KeepsSocketOut, bindMounts_runArgs fun m hm ↦ (hchecked m hm).1]
  constructor
  · intro h hseparable more hmore
    rw [if_pos hseparable, hmore] at h
    have hall := h _ rfl
    refine ⟨fun m hm habove ↦ ?_, fun host hhost ↦ hall host (List.mem_append_right _ hhost)⟩
    exact hall m.1 (List.mem_append_left _ (List.mem_map_of_mem hm))
      ((exposes_iff (hchecked m hm).2).mpr habove)
  · intro h hosts hhosts host hhost
    by_cases hseparable : ∀ m ∈ spec.mounts, Separable m
    · rw [if_pos hseparable] at hhosts
      obtain ⟨more, hmore, rfl⟩ := Option.map_eq_some_iff.mp hhosts
      obtain ⟨hmounts, hothers⟩ := h hseparable more hmore
      rcases List.mem_append.mp hhost with hhost | hhost
      · obtain ⟨m, hm, rfl⟩ := List.mem_map.mp hhost
        exact fun hexposes ↦ hmounts m hm ((exposes_iff (hchecked m hm).2).mp hexposes)
      · exact hothers host hhost
    · rw [if_neg hseparable] at hhosts
      cases hhosts

/-! ### Two specifications -/

def sampleLimits : SandboxLimits where
  memoryMb := ⟨512, by decide⟩
  memorySwapMb := ⟨512, by decide⟩
  cpus := "1.0"
  pids := ⟨128, by decide⟩
  stopGraceS := ⟨5, by decide⟩
  nofile := ⟨256, by decide⟩

/-- A container for a workspace. -/
def sampleSpec (workspace : String) : SandboxSpec :=
  ⟨"python:3.12-slim", workspace, [], sampleLimits, []⟩

/-- A command without anything behind the name of the program. -/
def sampleProgram : SandboxCommand := ⟨["true"], "/workspace"⟩

/-- A host on which `/var/run` is a link, as it is on most. -/
def sampleHost : HostTree := ⟨[(["var", "run"], "/run")]⟩

/-- On a host whose only link is that of `/var/run`, everything is found at depth two. -/
theorem sampleHost_leadsTo {path : String} {place place' : List String}
    (h : sampleHost.LeadsTo path place) (h' : sampleHost.follow 2 [] path = some place') :
    place = place' := by
  obtain ⟨depth, hdepth⟩ := h
  exact HostTree.follow_unique hdepth h'

theorem runArgs_keepsSocketOut_iff_sampleSpec :
    KeepsSocketOut sampleHost (fun _ ↦ none)
      (runArgs "docker" sampleProgram (sampleSpec "/srv/unit") "/tmp/cid") := by
  refine (runArgs_keepsSocketOut_iff sampleHost (fun _ ↦ none) (sampleSpec "/srv/unit") "docker"
    "/tmp/cid" sampleProgram (by decide +kernel)).mpr fun _ more hmore ↦ ?_
  rw [mounted_image (by decide)] at hmore
  cases hmore
  refine ⟨fun m hm ↦ ?_, nofun⟩
  obtain rfl : m = ("/srv/unit", workspaceMount) := List.mem_singleton.mp hm
  rintro ⟨place, socket, hplace, ⟨path, hpath, hsocket⟩, hprefix, -⟩
  obtain rfl : place = ["srv", "unit"] := sampleHost_leadsTo hplace (by decide +kernel)
  have hrun : ∀ path ∈ daemonPaths, sampleHost.follow 2 [] path = some ["run", "docker.sock"] := by
    decide +kernel
  obtain rfl := sampleHost_leadsTo hsocket (hrun path hpath)
  exact absurd hprefix (by decide)

/-- A specification that mounts the directory of the socket is accepted. -/
theorem runArgs_run :
    (sampleSpec "/run").postInit sampleHost = .ok () ∧
      ¬KeepsSocketOut sampleHost (fun _ ↦ none)
        (runArgs "docker" sampleProgram (sampleSpec "/run") "/tmp/cid") := by
  have hmounts : bindMounts (fun _ ↦ none)
      (runArgs "docker" sampleProgram (sampleSpec "/run") "/tmp/cid") = some ["/run"] := by
    rw [bindMounts_runArgs (by decide), if_pos (by decide), sampleSpec, sampleProgram,
      mounted_image (by decide)]
    rfl
  refine ⟨by decide +kernel, fun h ↦ h _ hmounts "/run" List.mem_cons_self ?_⟩
  exact ⟨["run"], ["run", "docker.sock"], ⟨2, by decide +kernel⟩,
    ⟨"/run/docker.sock", by decide, 2, by decide +kernel⟩, by decide⟩

end SandboxSpec

end HibikiCore
