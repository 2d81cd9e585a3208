import Mathlib.Data.Nat.Find
import HibikiCore.Store.Paths

/-!
# Symbolic links

A tree of files with symbolic links, as far as paths are concerned: a link stands at a place, given
by the names that lead to it from the root, and holds a text. `HostTree.follow` is what a path leads
to: a link in it is replaced by what the text of the link leads to, from the directory of the link.
Names that do not exist are taken as they are.

`realpath` is the algorithm of the standard library, which remembers the links it has met. It ends
on every path (`joinRealpath_links`), also on one that leads around in a circle, and finds what any
other path leads to (`realpath_of_leadsTo`).
-/

namespace HibikiCore

structure HostTree where
  /-- The symbolic links, each with its text. -/
  links : List (List String × String)

namespace HostTree

variable (tree : HostTree)

/-- `os.readlink`, or nothing where no link stands -/
def readlink (location : List String) : Option String :=
  (tree.links.find? (·.1 == location)).map (·.2)

/-- The directory that a text is read from. -/
def startOf (dir : List String) (path : String) : List String :=
  if isAbsolute path then [] else dir

/-! ## What a path leads to -/

/-- The names of a path one after the other; `link` says what a link in a directory leads to. -/
def along (link : List String → String → Option (List String)) :
    List String → List String → Option (List String)
  | dir, [] => some dir
  | dir, name :: rest =>
    if name = "" ∨ name = "." ∨ name = ".." then along link (enter dir name) rest
    else
      match tree.readlink (dir ++ [name]) with
      | none => along link (dir ++ [name]) rest
      | some target => (link dir target).bind fun dir' ↦ along link dir' rest

/-- What a path leads to from a directory, when links in texts of links are followed `depth` times
at most. -/
def follow : Nat → List String → String → Option (List String)
  | 0, _, _ => none
  | depth + 1, dir, path => tree.along (follow depth) (startOf dir path) (components path)

/-- A path leads to a place. -/
def LeadsTo (path : String) (place : List String) : Prop :=
  ∃ depth, tree.follow depth [] path = some place

/-! ## The algorithm -/

/-- What is known of the links met so far: where a link leads to, or that it is being followed. -/
abbrev Seen := List (List String × Option (List String))

def Seen.get (seen : Seen) (location : List String) : Option (Option (List String)) :=
  (seen.find? (·.1 == location)).map (·.2)

inductive Real
  | resolved (path : List String) (seen : Seen)
  /-- A link was met while it was being followed; the text is what is left. -/
  | looped (path : String)

/-- The text of a place. -/
def render (place : List String) : String := "/" ++ "/".intercalate place

/-- `os.path.join` -/
def joinPath (path rest : String) : String :=
  if isAbsolute rest then rest else if path.endsWith "/" then path ++ rest else path ++ "/" ++ rest

/-- The names of a path one after the other; `link` says what a link in a directory leads to. -/
def walk (link : List String → String → Seen → Real) :
    List String → List String → Seen → Real
  | path, [], seen => .resolved path seen
  | path, name :: rest, seen =>
    if name = "" ∨ name = "." ∨ name = ".." then walk link (enter path name) rest seen
    else
      match tree.readlink (path ++ [name]) with
      | none => walk link (path ++ [name]) rest seen
      | some target =>
        match seen.get (path ++ [name]) with
        | some (some path') => walk link path' rest seen
        | some none => .looped (joinPath (render (path ++ [name])) ("/".intercalate rest))
        | none =>
          match link path target ((path ++ [name], none) :: seen) with
          | .resolved path' seen' => walk link path' rest ((path ++ [name], some path') :: seen')
          | .looped path' => .looped (joinPath path' ("/".intercalate rest))

/-- `_joinrealpath`, for paths that begin at the root -/
def joinRealpath : Nat → List String → String → Seen → Real
  | 0, _, _, _ => .looped ""
  | fuel + 1, path, rest, seen =>
    tree.walk (joinRealpath fuel) (startOf path rest) (components rest) seen

/-- `os.path.abspath`, for paths that begin at the root -/
def abspath (path : String) : String :=
  (if "//".toList <+: path.toList ∧ ¬"///".toList <+: path.toList then "/" else "") ++
    render (resolve [] path)

/-- `os.path.realpath`, for paths that begin at the root -/
def realpath (path : String) : String :=
  match tree.joinRealpath (tree.links.length + 1) [] path [] with
  | .resolved place _ => abspath (render place)
  | .looped rest => abspath rest

section Follow

variable {tree} {link link' : List String → String → Option (List String)}

theorem along_mono
    (hlink : ∀ dir target place, link dir target = some place → link' dir target = some place)
    {names : List String} : ∀ {dir place : List String},
      tree.along link dir names = some place → tree.along link' dir names = some place := by
  induction names with
  | nil =>
    intro dir place h
    exact h
  | cons name rest ih =>
    intro dir place h
    rw [along] at h ⊢
    by_cases hname : name = "" ∨ name = "." ∨ name = ".."
    · rw [if_pos hname] at h ⊢
      exact ih h
    · rw [if_neg hname] at h ⊢
      cases htarget : tree.readlink (dir ++ [name]) with
      | none =>
        rw [htarget] at h
        exact ih h
      | some target =>
        rw [htarget] at h
        obtain ⟨dir', hdir', hrest⟩ := Option.bind_eq_some_iff.mp h
        exact Option.bind_eq_some_iff.mpr ⟨dir', hlink _ _ _ hdir', ih hrest⟩

/-- What is found at some depth is found at every greater depth. -/
theorem follow_succ {depth : Nat} : ∀ {dir place : List String} {path : String},
    tree.follow depth dir path = some place → tree.follow (depth + 1) dir path = some place := by
  induction depth with
  | zero =>
    intro dir place path h
    cases h
  | succ depth ih =>
    intro dir place path h
    exact along_mono (fun _ _ _ ↦ ih) h

theorem follow_mono {depth depth' : Nat} (hle : depth ≤ depth') {dir place : List String}
    {path : String} (h : tree.follow depth dir path = some place) :
    tree.follow depth' dir path = some place := by
  induction hle with
  | refl => exact h
  | step _ ih => exact follow_succ ih

/-- A path leads to one place only. -/
theorem follow_unique {depth depth' : Nat} {dir place place' : List String} {path : String}
    (h : tree.follow depth dir path = some place)
    (h' : tree.follow depth' dir path = some place') : place = place' := by
  have hmax := follow_mono (Nat.le_max_left depth depth') h
  rw [follow_mono (Nat.le_max_right depth depth') h'] at hmax
  exact (Option.some.inj hmax).symm

end Follow

section Seen

@[simp] theorem Seen.get_cons_self (seen : Seen) (location : List String)
    (known : Option (List String)) :
    Seen.get ((location, known) :: seen) location = some known := by
  simp [Seen.get]

theorem Seen.get_cons_of_ne {seen : Seen} {location other : List String}
    {known : Option (List String)} (h : other ≠ location) :
    Seen.get ((location, known) :: seen) other = seen.get other := by
  simp [Seen.get, h.symm]

/-- The links that were not met so far. -/
def unseen (seen : Seen) : Nat := (tree.links.filter fun l ↦ (seen.get l.1).isNone).length

/-- Every link that was met in a first state was met in a second one. -/
def Seen.Grows (seen seen' : Seen) : Prop :=
  ∀ location, seen.get location ≠ none → seen'.get location ≠ none

theorem Seen.Grows.cons (seen : Seen) (location : List String) (known : Option (List String)) :
    seen.Grows ((location, known) :: seen) := by
  intro other h
  by_cases hother : other = location
  · subst hother
    simp
  · rwa [get_cons_of_ne hother]

theorem Seen.Grows.trans {a b c : Seen} (hab : a.Grows b) (hbc : b.Grows c) : a.Grows c :=
  fun location h ↦ hbc location (hab location h)

variable {tree}

theorem unseen_le {seen seen' : Seen} (h : seen.Grows seen') :
    tree.unseen seen' ≤ tree.unseen seen := by
  refine (List.monotone_filter_right tree.links fun l hl ↦ ?_).length_le
  rw [Option.isNone_iff_eq_none] at hl ⊢
  by_contra hseen
  exact h l.1 hseen hl

theorem unseen_cons_lt {seen : Seen} {location : List String} {target : String}
    (known : Option (List String)) (htarget : tree.readlink location = some target)
    (hnew : seen.get location = none) :
    tree.unseen ((location, known) :: seen) < tree.unseen seen := by
  obtain ⟨l, hl, -⟩ := Option.map_eq_some_iff.mp htarget
  have hlocation : l.1 = location := by simpa using List.find?_some hl
  refine Nat.lt_of_le_of_ne (unseen_le (.cons seen location known)) fun heq ↦ ?_
  have hsub := List.monotone_filter_right tree.links
    (p := fun l ↦ (Seen.get ((location, known) :: seen) l.1).isNone)
    (q := fun l ↦ (seen.get l.1).isNone) fun l hl ↦ by
      rw [Option.isNone_iff_eq_none] at hl ⊢
      by_contra hseen
      exact Seen.Grows.cons seen location known l.1 hseen hl
  have hmem : l ∈ tree.links.filter fun l ↦ (seen.get l.1).isNone := by
    rw [List.mem_filter, hlocation, hnew]
    exact ⟨List.mem_of_find?_eq_some hl, rfl⟩
  rw [← hsub.eq_of_length heq, List.mem_filter, hlocation, Seen.get_cons_self] at hmem
  exact absurd hmem.2 (by simp)

end Seen

/-! ## The recursion ends -/

section Fuel

variable {tree}

/-- Walks that follow links alike end alike. -/
theorem walk_congr {follow follow' : List String → String → Seen → Real} {fuel : Nat}
    (hgrows : ∀ dir target seen place seen', follow dir target seen = .resolved place seen' →
      seen.Grows seen')
    (hfollow : ∀ dir name target seen, tree.readlink (dir ++ [name]) = some target →
      seen.get (dir ++ [name]) = none → tree.unseen seen ≤ fuel →
      follow dir target ((dir ++ [name], none) :: seen) =
        follow' dir target ((dir ++ [name], none) :: seen))
    {names : List String} : ∀ {dir : List String} {seen : Seen}, tree.unseen seen ≤ fuel →
      tree.walk follow dir names seen = tree.walk follow' dir names seen := by
  induction names with
  | nil =>
    intro dir seen _
    rfl
  | cons name rest ih =>
    intro dir seen hfuel
    rw [walk, walk]
    by_cases hname : name = "" ∨ name = "." ∨ name = ".."
    · rw [if_pos hname, if_pos hname]
      exact ih hfuel
    · rw [if_neg hname, if_neg hname]
      cases htarget : tree.readlink (dir ++ [name]) with
      | none => exact ih hfuel
      | some target =>
        cases hseen : seen.get (dir ++ [name]) with
        | some known =>
          cases known with
          | some path => exact ih hfuel
          | none => rfl
        | none =>
          dsimp only
          rw [← hfollow dir name target seen htarget hseen hfuel]
          cases hreal : follow dir target ((dir ++ [name], none) :: seen) with
          | looped path => rfl
          | resolved path seen' =>
            have hseen' := ((Seen.Grows.cons seen _ none).trans (hgrows _ _ _ _ _ hreal)).trans
              (.cons _ (dir ++ [name]) (some path))
            exact ih (Nat.le_trans (unseen_le hseen') hfuel)

theorem walk_grows {follow : List String → String → Seen → Real}
    (hfollow : ∀ dir target seen place seen', follow dir target seen = .resolved place seen' →
      seen.Grows seen')
    {names : List String} : ∀ {dir place : List String} {seen seen' : Seen},
      tree.walk follow dir names seen = .resolved place seen' → seen.Grows seen' := by
  induction names with
  | nil =>
    intro dir place seen seen' h
    cases h
    exact fun _ h ↦ h
  | cons name rest ih =>
    intro dir place seen seen' h
    rw [walk] at h
    by_cases hname : name = "" ∨ name = "." ∨ name = ".."
    · rw [if_pos hname] at h
      exact ih h
    · rw [if_neg hname] at h
      cases htarget : tree.readlink (dir ++ [name]) with
      | none =>
        rw [htarget] at h
        exact ih h
      | some target =>
        rw [htarget] at h
        cases hseen : seen.get (dir ++ [name]) with
        | some known =>
          rw [hseen] at h
          cases known with
          | some path => exact ih h
          | none => cases h
        | none =>
          rw [hseen] at h
          dsimp only at h
          cases hreal : follow dir target ((dir ++ [name], none) :: seen) with
          | looped path =>
            rw [hreal] at h
            cases h
          | resolved path seen₁ =>
            rw [hreal] at h
            have hseen₁ := (Seen.Grows.cons seen _ none).trans (hfollow _ _ _ _ _ hreal)
            exact (hseen₁.trans (.cons _ _ _)).trans (ih h)

theorem joinRealpath_grows {fuel : Nat} : ∀ {dir place : List String} {path : String}
    {seen seen' : Seen}, tree.joinRealpath fuel dir path seen = .resolved place seen' →
      seen.Grows seen' := by
  induction fuel with
  | zero =>
    intro dir place path seen seen' h
    cases h
  | succ fuel ih =>
    intro dir place path seen seen' h
    exact walk_grows (fun _ _ _ _ _ ↦ ih) h

/-- The algorithm follows no more links than the tree has, one inside the other: what it does is
the same however deep it may go. -/
theorem joinRealpath_fuel {fuel : Nat} : ∀ {fuel' : Nat} {dir : List String} {path : String}
    {seen : Seen}, tree.unseen seen ≤ fuel → fuel ≤ fuel' →
      tree.joinRealpath (fuel + 1) dir path seen = tree.joinRealpath (fuel' + 1) dir path seen := by
  induction fuel with
  | zero =>
    intro fuel' dir path seen hseen _
    refine walk_congr (fun _ _ _ _ _ ↦ joinRealpath_grows) ?_ hseen
    intro dir name target seen htarget hnew hfuel
    have := unseen_cons_lt none htarget hnew
    omega
  | succ fuel ih =>
    intro fuel' dir path seen hseen hle
    obtain ⟨fuel', rfl⟩ : ∃ k, fuel' = k + 1 := Nat.exists_eq_add_one_of_ne_zero (by omega)
    refine walk_congr (fun _ _ _ _ _ ↦ joinRealpath_grows) ?_ hseen
    intro dir name target seen htarget hnew hfuel
    have := unseen_cons_lt none htarget hnew
    exact ih (by omega) (by omega)

/-- Deeper recursion changes nothing. -/
theorem joinRealpath_links (fuel : Nat) (path : String) (h : tree.links.length ≤ fuel) :
    tree.joinRealpath (tree.links.length + 1) [] path [] =
      tree.joinRealpath (fuel + 1) [] path [] :=
  joinRealpath_fuel (List.length_filter_le _ _) h

end Fuel

/-! ## What the algorithm finds -/

section Completeness

variable {tree}

/-- What is known of a link is where it leads to. -/
def Seen.Sound (tree : HostTree) (seen : Seen) : Prop :=
  ∀ dir name target place, tree.readlink (dir ++ [name]) = some target →
    seen.get (dir ++ [name]) = some (some place) →
      ∃ depth, tree.follow depth dir target = some place

/-- A link that is being followed leads nowhere within a depth. -/
def Seen.Pending (tree : HostTree) (depth : Nat) (seen : Seen) : Prop :=
  ∀ dir name target, tree.readlink (dir ++ [name]) = some target →
    seen.get (dir ++ [name]) = some none → tree.follow depth dir target = none

/-- What a finished walk leaves: nothing is forgotten, and no more links are being followed. -/
structure Seen.Later (tree : HostTree) (seen seen' : Seen) : Prop where
  sound : seen'.Sound tree
  grows : seen.Grows seen'
  pending : ∀ location, seen'.get location = some none → seen.get location = some none

/-- Where every link that can be followed is followed to its end, names that lead to a place are
walked to that place. -/
theorem walk_of_along {follow : List String → String → Seen → Real} {depth fuel : Nat}
    (hfollow : ∀ {dir : List String} {name target : String} {place : List String} {seen : Seen},
      tree.readlink (dir ++ [name]) = some target → tree.follow depth dir target = some place →
      seen.get (dir ++ [name]) = none → seen.Sound tree → seen.Pending tree depth →
      tree.unseen seen ≤ fuel →
      ∃ seen', follow dir target ((dir ++ [name], none) :: seen) = .resolved place seen' ∧
        Seen.Later tree ((dir ++ [name], none) :: seen) seen')
    {names : List String} : ∀ {dir place : List String} {seen : Seen},
      tree.along (tree.follow depth) dir names = some place → seen.Sound tree →
      seen.Pending tree depth → tree.unseen seen ≤ fuel →
      ∃ seen', tree.walk follow dir names seen = .resolved place seen' ∧
        seen.Later tree seen' := by
  induction names with
  | nil =>
    intro dir place seen h hsound hpending hfuel
    obtain rfl := Option.some.inj h
    exact ⟨seen, rfl, hsound, fun _ h ↦ h, fun _ h ↦ h⟩
  | cons name rest ih =>
    intro dir place seen h hsound hpending hfuel
    rw [along] at h
    rw [walk]
    by_cases hname : name = "" ∨ name = "." ∨ name = ".."
    · rw [if_pos hname] at h ⊢
      exact ih h hsound hpending hfuel
    · rw [if_neg hname] at h ⊢
      cases htarget : tree.readlink (dir ++ [name]) with
      | none =>
        rw [htarget] at h
        exact ih h hsound hpending hfuel
      | some target =>
        rw [htarget] at h
        obtain ⟨dir', hdir', hrest⟩ := Option.bind_eq_some_iff.mp h
        cases hseen : seen.get (dir ++ [name]) with
        | some known =>
          cases known with
          | some path =>
            obtain ⟨depth', hdepth'⟩ := hsound _ _ _ _ htarget hseen
            obtain rfl := follow_unique hdir' hdepth'
            exact ih hrest hsound hpending hfuel
          | none =>
            rw [hpending _ _ _ htarget hseen] at hdir'
            cases hdir'
        | none =>
          obtain ⟨seen₁, hwalk, hlater⟩ := hfollow htarget hdir' hseen hsound hpending hfuel
          -- the link is known now, and everything that is still being followed was before
          have hgrows : seen.Grows ((dir ++ [name], some dir') :: seen₁) :=
            ((Seen.Grows.cons _ _ none).trans hlater.grows).trans (.cons _ _ _)
          have hopen : ∀ location,
              Seen.get ((dir ++ [name], some dir') :: seen₁) location = some none →
                seen.get location = some none := by
            intro location hlocation
            by_cases hsame : location = dir ++ [name]
            · subst hsame
              simp at hlocation
            · rw [Seen.get_cons_of_ne hsame] at hlocation
              have hbefore := hlater.pending _ hlocation
              rwa [Seen.get_cons_of_ne hsame] at hbefore
          have hsound' : Seen.Sound tree ((dir ++ [name], some dir') :: seen₁) := by
            intro base last target' place' htarget' hplace'
            by_cases hsame : base ++ [last] = dir ++ [name]
            · obtain ⟨rfl, hlast⟩ := List.append_inj' hsame rfl
              obtain rfl : last = name := by simpa using hlast
              rw [Seen.get_cons_self] at hplace'
              cases hplace'
              rw [htarget] at htarget'
              cases htarget'
              exact ⟨depth, hdir'⟩
            · rw [Seen.get_cons_of_ne hsame] at hplace'
              exact hlater.sound _ _ _ _ htarget' hplace'
          obtain ⟨seen₂, hwalk₂, hlater₂⟩ := ih hrest hsound'
            (fun base last target' htarget' hnone ↦
              hpending _ _ _ htarget' (hopen _ hnone)) (Nat.le_trans (unseen_le hgrows) hfuel)
          refine ⟨seen₂, ?_, hlater₂.sound, hgrows.trans hlater₂.grows,
            fun location h ↦ hopen _ (hlater₂.pending _ h)⟩
          dsimp only
          rw [hwalk]
          exact hwalk₂

/-- The links that are met again before their end are those that lead nowhere: what a text leads to
from a directory is found. -/
theorem joinRealpath_of_follow {depth : Nat} : ∀ {fuel : Nat} {dir place : List String}
    {path : String} {seen : Seen}, tree.follow (depth + 1) dir path = some place →
      seen.Sound tree → seen.Pending tree depth → tree.unseen seen ≤ fuel →
      ∃ seen', tree.joinRealpath (fuel + 1) dir path seen = .resolved place seen' ∧
        seen.Later tree seen' := by
  induction depth using Nat.strongRecOn with
  | ind depth ih =>
    intro fuel dir place path seen h hsound hpending hfuel
    refine walk_of_along ?_ h hsound hpending hfuel
    intro dir name target place seen htarget hplace hnew hsound hpending hfuel
    -- at the least depth at which the link is followed to its end, it is not met again
    have hex : ∃ d, tree.follow d dir target = some place := ⟨depth, hplace⟩
    obtain ⟨fuel, rfl⟩ : ∃ fuel', fuel = fuel' + 1 :=
      Nat.exists_eq_add_one_of_ne_zero fun hzero ↦ by
        have := unseen_cons_lt none htarget hnew
        omega
    classical
    obtain ⟨least, hleast⟩ : ∃ least, Nat.find hex = least + 1 :=
      Nat.exists_eq_add_one_of_ne_zero fun hzero ↦ by
        have hfind := Nat.find_spec hex
        rw [hzero] at hfind
        cases hfind
    have hlt : least < depth := by
      have := Nat.find_min' hex hplace
      omega
    have hfind := Nat.find_spec hex
    rw [hleast] at hfind
    have hnot : ∀ p, tree.follow least dir target ≠ some p := by
      intro p hp
      obtain rfl := follow_unique hp hplace
      exact Nat.find_min hex (by omega) hp
    refine ih least hlt hfind ?_ ?_ ?_
    · intro base last target' place' htarget' hplace'
      by_cases hsame : base ++ [last] = dir ++ [name]
      · rw [hsame, Seen.get_cons_self] at hplace'
        cases hplace'
      · rw [Seen.get_cons_of_ne hsame] at hplace'
        exact hsound _ _ _ _ htarget' hplace'
    · intro base last target' htarget' hnone
      refine Option.eq_none_iff_forall_ne_some.mpr ?_
      by_cases hsame : base ++ [last] = dir ++ [name]
      · obtain ⟨rfl, hlast⟩ := List.append_inj' hsame rfl
        obtain rfl : last = name := by simpa using hlast
        rw [htarget] at htarget'
        cases htarget'
        exact hnot
      · rw [Seen.get_cons_of_ne hsame] at hnone
        intro p hp
        have hpend := hpending _ _ _ htarget' hnone
        rw [follow_mono (Nat.le_of_lt hlt) hp] at hpend
        cases hpend
    · have := unseen_cons_lt none htarget hnew
      omega

end Completeness

/-- The algorithm finds what a path leads to. -/
theorem realpath_of_leadsTo {path : String} {place : List String} (h : tree.LeadsTo path place) :
    tree.realpath path = abspath (render place) := by
  obtain ⟨depth, hdepth⟩ := h
  have hsound : Seen.Sound tree [] := fun _ _ _ _ _ h ↦ nomatch h
  obtain ⟨seen, hreal, -⟩ := joinRealpath_of_follow (follow_succ hdepth) hsound
    (fun _ _ _ _ h ↦ nomatch h) (List.length_filter_le _ _)
  rw [realpath, hreal]

end HostTree

end HibikiCore
