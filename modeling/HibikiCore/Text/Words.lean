import HibikiCore.Text.Basic

/-!
# Words and replacement

Splitting a sequence at what separates words, joining words again, and replacing a text wherever it
is met from the left. Splitting is stated for sequences of anything: a template with holes is split
like a text, and the two agree when every hole is filled with something that holds no separator.
-/

namespace HibikiCore

/-! ## Splitting and joining -/

section Words

variable {α β : Type*}

/-- The word that is being read, if it has begun, in front of the words behind it. -/
def flush (s : List α × List (List α)) : List (List α) := if s.1.isEmpty then s.2 else s.1 :: s.2

/-- Read from the right, a separator ends the word behind it; anything else is added to it. -/
def splitStep (separates : α → Bool) (a : α) (s : List α × List (List α)) :
    List α × List (List α) :=
  if separates a then ([], flush s) else (a :: s.1, s.2)

/-- `text.split()` -/
def split (separates : α → Bool) (l : List α) : List (List α) :=
  flush (l.foldr (splitStep separates) ([], []))

/-- `" ".join(text.split())` -/
def collapse (separates : α → Bool) (separator : α) (l : List α) : List α :=
  [separator].intercalate (split separates l)

theorem intercalate_flatMap (f : α → List β) (separator : α) (words : List (List α)) :
    ([separator].intercalate words).flatMap f =
      (f separator).intercalate (words.map (List.flatMap f)) := by
  induction words with
  | nil => rfl
  | cons w words ih =>
    cases words with
    | nil => simp [List.intercalate_singleton]
    | cons w' words =>
      rw [List.intercalate_cons_cons, List.map_cons, List.map_cons, List.intercalate_cons_cons,
        List.flatMap_append, List.flatMap_append, ih, List.flatMap_singleton, List.map_cons]

/-- A translation that keeps what separates words apart from what does not. -/
structure KeepsWords (separates : α → Bool) (separates' : β → Bool) (f : α → List β) : Prop where
  separator : ∀ a, separates a = true → ∃ b, f a = [b] ∧ separates' b = true
  word : ∀ a, separates a = false → f a ≠ [] ∧ ∀ b ∈ f a, separates' b = false

variable {separates : α → Bool} {separates' : β → Bool} {f : α → List β}

/-- Text without a separator is added to the word that is being read. -/
theorem foldr_splitStep_word {w : List β} (hw : ∀ b ∈ w, separates' b = false)
    (s : List β × List (List β)) : w.foldr (splitStep separates') s = (w ++ s.1, s.2) := by
  induction w with
  | nil => rfl
  | cons b w ih =>
    rw [List.foldr_cons, ih fun b' hb' ↦ hw b' (List.mem_cons_of_mem _ hb'), splitStep,
      if_neg (by simp [hw b List.mem_cons_self])]
    rfl

theorem KeepsWords.flatMap_isEmpty (h : KeepsWords separates separates' f) {w : List α}
    (hw : ∀ a ∈ w, separates a = false) : (w.flatMap f).isEmpty = w.isEmpty := by
  cases w with
  | nil => rfl
  | cons a w =>
    have hne := (h.word a (hw a List.mem_cons_self)).1
    simp [hne]

/-- The word that is being read holds no separator. -/
theorem foldr_splitStep_current (separates : α → Bool) (l : List α) :
    ∀ a ∈ (l.foldr (splitStep separates) ([], [])).1, separates a = false := by
  induction l with
  | nil => exact nofun
  | cons x l ih =>
    rw [List.foldr_cons, splitStep]
    by_cases hx : separates x = true
    · rw [if_pos hx]
      exact nofun
    · rw [if_neg hx]
      exact List.forall_mem_cons.mpr ⟨by simpa using hx, ih⟩

/-- Splitting a translation is translating the words. -/
theorem split_flatMap (h : KeepsWords separates separates' f) (l : List α) :
    split separates' (l.flatMap f) = (split separates l).map (List.flatMap f) := by
  have hflush : ∀ s : List α × List (List α), (∀ a ∈ s.1, separates a = false) →
      flush (s.1.flatMap f, s.2.map (List.flatMap f)) = (flush s).map (List.flatMap f) := by
    intro s hs
    rw [flush, flush, h.flatMap_isEmpty hs]
    split <;> rfl
  have hstate : (l.flatMap f).foldr (splitStep separates') ([], []) =
      ((l.foldr (splitStep separates) ([], [])).1.flatMap f,
        (l.foldr (splitStep separates) ([], [])).2.map (List.flatMap f)) := by
    induction l with
    | nil => rfl
    | cons a l ih =>
      rw [List.flatMap_cons, List.foldr_append, ih, List.foldr_cons]
      by_cases ha : separates a = true
      · obtain ⟨b, hb, hseparates⟩ := h.separator a ha
        have hcurrent := foldr_splitStep_current separates l
        rw [hb, List.foldr_cons, List.foldr_nil, splitStep, if_pos hseparates,
          hflush _ hcurrent, splitStep, if_pos ha]
        rfl
      · rw [Bool.not_eq_true] at ha
        rw [foldr_splitStep_word (h.word a ha).2, splitStep, if_neg (by simp [ha]),
          List.flatMap_cons]
  rw [split, hstate, hflush _ (foldr_splitStep_current separates l), split]

theorem collapse_flatMap (h : KeepsWords separates separates' f) {separator : α} {separator' : β}
    (hseparator : f separator = [separator']) (l : List α) :
    collapse separates' separator' (l.flatMap f) =
      (collapse separates separator l).flatMap f := by
  rw [collapse, collapse, split_flatMap h, intercalate_flatMap, hseparator]

end Words

/-! ## Replacement -/

section Replacement

variable {α : Type*} [DecidableEq α]

/-- Replacing from the left; `skipped` elements still belong to what was replaced last. -/
def replaceFrom (old new : List α) : Nat → List α → List α
  | _, [] => []
  | skipped + 1, _ :: rest => replaceFrom old new skipped rest
  | 0, a :: rest =>
    if old.isPrefixOf (a :: rest) then new ++ replaceFrom old new (old.length - 1) rest
    else a :: replaceFrom old new 0 rest

/-- `text.replace(old, new)`, for an `old` that is not empty -/
def replace (old new text : List α) : List α := replaceFrom old new 0 text

variable {old new : List α}

theorem replaceFrom_skip (u rest : List α) :
    replaceFrom old new u.length (u ++ rest) = replaceFrom old new 0 rest := by
  induction u with
  | nil => rfl
  | cons a u ih => exact ih

/-- What is replaced at the front. -/
theorem replace_old_append (hold : old ≠ []) (rest : List α) :
    replace old new (old ++ rest) = new ++ replace old new rest := by
  obtain ⟨a, old', rfl⟩ := List.exists_cons_of_ne_nil hold
  have hprefix : (a :: old').isPrefixOf (a :: old' ++ rest) = true := by
    rw [List.isPrefixOf_iff_prefix]
    exact List.prefix_append _ _
  rw [replace, List.cons_append, replaceFrom, ← List.cons_append, if_pos hprefix]
  congr 1
  exact replaceFrom_skip old' rest

/-- What is kept at the front. -/
theorem replace_cons {a : α} {rest : List α} (h : ¬old <+: a :: rest) :
    replace old new (a :: rest) = a :: replace old new rest := by
  rw [replace, replaceFrom, if_neg (by rwa [List.isPrefixOf_iff_prefix])]
  rfl

/-- Text in which nothing is met stays as it is. -/
theorem replace_eq_self {text : List α} (h : ∀ u, u <:+ text → ¬old <+: u) :
    replace old new text = text := by
  induction text with
  | nil => rfl
  | cons a rest ih =>
    rw [replace_cons (h _ (List.suffix_refl _)),
      ih fun u hu ↦ h u (hu.trans (List.suffix_cons a rest))]

end Replacement

end HibikiCore
