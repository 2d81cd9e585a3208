import Mathlib.Data.List.Basic

/-!
# Paths

A path is cut at its slashes. Resolving it walks from a directory, given by the names that lead to it
from the root of the file system: an empty component or a dot stays, two dots go up, and every other
component goes down. Symbolic links are not followed.
-/

namespace HibikiCore

/-- The text between the slashes of another one. -/
def splitSlash : List Char → List (List Char)
  | [] => [[]]
  | c :: cs =>
    if c = '/' then [] :: splitSlash cs
    else
      match splitSlash cs with
      | [] => [[c]]
      | part :: parts => (c :: part) :: parts

theorem splitSlash_ne_nil (cs : List Char) : splitSlash cs ≠ [] := by
  cases cs with
  | nil => exact List.cons_ne_nil _ _
  | cons c cs =>
    rw [splitSlash]
    split
    · exact List.cons_ne_nil _ _
    · split <;> exact List.cons_ne_nil _ _

theorem splitSlash_append (cs ds : List Char) :
    splitSlash (cs ++ '/' :: ds) = splitSlash cs ++ splitSlash ds := by
  induction cs with
  | nil => simp [splitSlash]
  | cons c cs ih =>
    by_cases hc : c = '/'
    · simp [splitSlash, hc, ih]
    · obtain ⟨part, parts, hparts⟩ := List.exists_cons_of_ne_nil (splitSlash_ne_nil cs)
      simp [splitSlash, hc, ih, hparts]

theorem splitSlash_of_not_mem {cs : List Char} (h : '/' ∉ cs) : splitSlash cs = [cs] := by
  induction cs with
  | nil => rfl
  | cons c cs ih =>
    rw [List.mem_cons, not_or] at h
    rw [splitSlash, if_neg (Ne.symm h.1), ih h.2]

/-- No part has a slash. -/
theorem not_mem_of_mem_splitSlash {cs part : List Char} (h : part ∈ splitSlash cs) :
    '/' ∉ part := by
  induction cs generalizing part with
  | nil =>
    obtain rfl := List.mem_singleton.mp h
    exact List.not_mem_nil
  | cons c cs ih =>
    rw [splitSlash] at h
    split at h
    · rcases List.mem_cons.mp h with rfl | h
      · exact List.not_mem_nil
      · exact ih h
    · next hc =>
      split at h
      · next hnil => exact absurd hnil (splitSlash_ne_nil cs)
      · next first parts hparts =>
        rcases List.mem_cons.mp h with rfl | h
        · have hfirst : '/' ∉ first := ih (hparts ▸ List.mem_cons_self)
          rw [List.mem_cons, not_or]
          exact ⟨Ne.symm hc, hfirst⟩
        · exact ih (hparts ▸ List.mem_cons_of_mem _ h)

/-- `path.split("/")`. -/
def components (path : String) : List String := (splitSlash path.toList).map String.ofList

/-- A text without a slash. -/
def NoSlash (s : String) : Prop := '/' ∉ s.toList

instance (s : String) : Decidable (NoSlash s) := inferInstanceAs (Decidable (¬_))

theorem NoSlash.append {a b : String} (ha : NoSlash a) (hb : NoSlash b) : NoSlash (a ++ b) := by
  rw [NoSlash, String.toList_append, List.mem_append, not_or]
  exact ⟨ha, hb⟩

theorem components_append (a b : String) :
    components (a ++ "/" ++ b) = components a ++ components b := by
  have hpath : (a ++ "/" ++ b).toList = a.toList ++ '/' :: b.toList := by simp
  rw [components, hpath, splitSlash_append, List.map_append]
  rfl

theorem components_of_noSlash {name : String} (h : NoSlash name) : components name = [name] := by
  rw [components, splitSlash_of_not_mem h]
  simp

theorem noSlash_of_mem_components {path name : String} (h : name ∈ components path) :
    NoSlash name := by
  obtain ⟨part, hpart, rfl⟩ := List.mem_map.mp h
  rw [NoSlash, String.toList_ofList]
  exact not_mem_of_mem_splitSlash hpart

/-! ## Resolving -/

/-- One component of a path. -/
def enter (dir : List String) (name : String) : List String :=
  if name = "" ∨ name = "." then dir else if name = ".." then dir.dropLast else dir ++ [name]

def isAbsolute (path : String) : Bool := path.toList.head? == some '/'

/-- The directory a path leads to. -/
def resolve (cwd : List String) (path : String) : List String :=
  (components path).foldl enter (if isAbsolute path then [] else cwd)

/-- A name that leads to a child of every directory. -/
structure PlainName (name : String) : Prop where
  nonempty : name ≠ ""
  here : name ≠ "."
  up : name ≠ ".."
  noSlash : NoSlash name

theorem PlainName.enter {name : String} (h : PlainName name) (dir : List String) :
    enter dir name = dir ++ [name] := by
  rw [HibikiCore.enter, if_neg (not_or.mpr ⟨h.nonempty, h.here⟩), if_neg h.up]

theorem isAbsolute_append {path : String} (h : path ≠ "") (rest : String) :
    isAbsolute (path ++ rest) = isAbsolute path := by
  cases hchars : path.toList with
  | nil => exact absurd (String.toList_eq_nil_iff.mp hchars) h
  | cons c cs => simp [isAbsolute, hchars]

/-- What a path leads to is resolved further from there. -/
theorem resolve_append {path : String} (h : path ≠ "") (cwd : List String) (rest : String) :
    resolve cwd (path ++ "/" ++ rest) = (components rest).foldl enter (resolve cwd path) := by
  rw [resolve, resolve, components_append, List.foldl_append, String.append_assoc,
    isAbsolute_append h]

/-- A plain name below a path leads to a child of what the path leads to. -/
theorem PlainName.resolve {name path : String} (h : PlainName name) (hpath : path ≠ "")
    (cwd : List String) :
    resolve cwd (path ++ "/" ++ name) = HibikiCore.resolve cwd path ++ [name] := by
  rw [resolve_append hpath, components_of_noSlash h.noSlash]
  exact h.enter _

/-- Slashes at the end of a path are of no account. -/
theorem resolve_append_slashes {path : String} (h : path ≠ "") (cwd : List String) (n : Nat) :
    resolve cwd (path ++ String.ofList (List.replicate n '/')) = resolve cwd path := by
  induction n with
  | zero => simp
  | succ n ih =>
    have hpath : path ++ String.ofList (List.replicate (n + 1) '/') =
        path ++ String.ofList (List.replicate n '/') ++ "/" ++ "" := by
      rw [List.replicate_succ', String.ofList_append, ← String.append_assoc, String.append_empty]
    have hnonempty : path ++ String.ofList (List.replicate n '/') ≠ "" := by
      simp [String.append_eq_empty_iff, h]
    rw [hpath, resolve_append hnonempty, ih]
    rfl

/-- `root.rstrip("/")` leads to the same children as the root. -/
theorem PlainName.resolve_rstrip {name root : String} (h : PlainName name) (hroot : root ≠ "")
    (cwd : List String) :
    HibikiCore.resolve cwd ((root.dropEndWhile '/').toString ++ "/" ++ name) =
      HibikiCore.resolve cwd root ++ [name] := by
  have happend : (root.dropEndWhile '/').toString ++ (root.takeEndWhile '/').toString = root := by
    exact String.dropEndWhile_append_takeEndWhile
  have hslashes : (root.takeEndWhile '/').toString =
      String.ofList (List.replicate (root.takeEndWhile '/').copy.toList.length '/') := by
    have hall : (root.takeEndWhile '/').revAll '/' = true := String.revAll_takeEndWhile
    rw [← String.Slice.revAll_char_iff.mp hall, String.ofList_toList]
    rfl
  generalize (root.dropEndWhile '/').toString = stem at happend ⊢
  generalize (root.takeEndWhile '/').copy.toList.length = n at hslashes
  rw [hslashes] at happend
  by_cases hstem : stem = ""
  · subst hstem
    cases n with
    | zero => exact absurd happend.symm hroot
    | succ n =>
      have hroot' : HibikiCore.resolve cwd root = [] := by
        have hsplit : root = "/" ++ String.ofList (List.replicate n '/') := by
          rw [← happend, List.replicate_succ, ← List.singleton_append, String.ofList_append,
            String.empty_append]
        rw [hsplit, resolve_append_slashes (by decide)]
        rfl
      rw [hroot', String.empty_append, HibikiCore.resolve, isAbsolute_append (by decide)]
      have hparts : components ("/" ++ name) = "" :: [name] := by
        have hempty := components_append "" name
        rw [String.empty_append, components_of_noSlash h.noSlash] at hempty
        exact hempty
      rw [hparts]
      exact h.enter []
  · rw [h.resolve hstem, ← happend, resolve_append_slashes hstem]

end HibikiCore
