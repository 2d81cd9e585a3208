import Mathlib.Data.List.Nodup
import Mathlib.Data.List.Perm.Subperm

/-!
# Keyed tables

A table is a list of rows with pairwise different primary keys. The key stands outside the row, so
an update of a row cannot change it and uniqueness survives every operation by construction.

Rows keep their order of insertion. A query without an `ORDER BY` clause reads them in that order,
which is why the finite maps of the library, whose insertions reorder the entries, are not used.

## The lookup normal form

Every operation is described by what `find?` answers afterwards; statements about tables elsewhere
speak of `find?` only, and the list is used for enumeration through `select`.
-/

namespace HibikiCore

/-- Rows with pairwise different keys, in order of insertion. -/
structure Table (κ α : Type) [DecidableEq κ] where
  /-- The rows, oldest first. -/
  rows : List (κ × α)
  /-- Primary keys are unique. -/
  nodup : (rows.map Prod.fst).Nodup

namespace Table

variable {κ α : Type} [DecidableEq κ]

/-! ## Operations -/

/-- The table without rows. -/
def empty : Table κ α := ⟨[], List.nodup_nil⟩

/-- The row stored under a key. -/
def find? (t : Table κ α) (k : κ) : Option α := t.rows.lookup k

/-- Rewrites every row, keys fixed. -/
def mapRows (f : κ → α → α) (t : Table κ α) : Table κ α :=
  ⟨t.rows.map fun r ↦ (r.1, f r.1 r.2), by simpa [Function.comp_def] using t.nodup⟩

/-- Rewrites the row under one key, if there is one. -/
def modify (k : κ) (f : α → α) (t : Table κ α) : Table κ α :=
  t.mapRows fun k' a ↦ if k' = k then f a else a

/-- Rewrites the rows that satisfy a condition. -/
def modifyWhere (p : κ → α → Bool) (f : α → α) (t : Table κ α) : Table κ α :=
  t.mapRows fun k a ↦ if p k a then f a else a

/-- Removes the row under a key. -/
def erase (k : κ) (t : Table κ α) : Table κ α :=
  ⟨t.rows.filter fun r ↦ decide (r.1 ≠ k),
    t.nodup.sublist (List.filter_sublist.map Prod.fst)⟩

/-- The rows that satisfy a condition, oldest first. -/
def select (p : κ → α → Bool) (t : Table κ α) : List (κ × α) := t.rows.filter fun r ↦ p r.1 r.2

theorem lookup_eq_some_iff {l : List (κ × α)} (hl : (l.map Prod.fst).Nodup) {k : κ} {a : α} :
    l.lookup k = some a ↔ (k, a) ∈ l := by
  induction l with
  | nil => simp
  | cons r l ih =>
    rw [List.map_cons, List.nodup_cons] at hl
    rw [List.lookup_cons, List.mem_cons]
    by_cases hk : k = r.1
    · subst hk
      have hnot : (r.1, a) ∉ l := fun h ↦ hl.1 (List.mem_map.mpr ⟨_, h, rfl⟩)
      simp [hnot, Prod.ext_iff, eq_comm]
    · have hne : (k, a) ≠ r := fun h ↦ hk (congrArg Prod.fst h)
      rw [beq_false_of_ne hk]
      simp [ih hl.2, hne]

theorem find?_eq_some_iff {t : Table κ α} {k : κ} {a : α} :
    t.find? k = some a ↔ (k, a) ∈ t.rows := lookup_eq_some_iff t.nodup

theorem find?_eq_none_iff {t : Table κ α} {k : κ} :
    t.find? k = none ↔ k ∉ t.rows.map Prod.fst := by
  rw [Option.eq_none_iff_forall_not_mem]
  constructor
  · intro h hk
    obtain ⟨r, hr, rfl⟩ := List.mem_map.mp hk
    exact h r.2 (find?_eq_some_iff.mpr hr)
  · intro h a ha
    exact h (List.mem_map.mpr ⟨_, find?_eq_some_iff.mp ha, rfl⟩)

/-- Adds a row under a fresh key; a table that has the key is left as it is. -/
def insert (k : κ) (a : α) (t : Table κ α) : Table κ α :=
  if h : t.find? k = none then
    ⟨t.rows ++ [(k, a)], by
      rw [List.map_append, List.nodup_append]
      refine ⟨t.nodup, by simp, ?_⟩
      rintro x hx y hy rfl
      rw [List.map_singleton, List.mem_singleton] at hy
      exact find?_eq_none_iff.mp h (by simpa [hy] using hx)⟩
  else t

/-! ## What a lookup answers -/

@[simp] theorem find?_empty (k : κ) : (empty : Table κ α).find? k = none := rfl

@[simp] theorem find?_mapRows (f : κ → α → α) (t : Table κ α) (k : κ) :
    (t.mapRows f).find? k = (t.find? k).map (f k) := by
  change (t.rows.map fun r ↦ (r.1, f r.1 r.2)).lookup k = (t.rows.lookup k).map (f k)
  induction t.rows with
  | nil => rfl
  | cons r l ih =>
    rw [List.map_cons, List.lookup_cons, List.lookup_cons, ih]
    by_cases hk : k = r.1
    · subst hk
      simp
    · rw [beq_false_of_ne hk]

@[simp] theorem mapRows_id (t : Table κ α) : t.mapRows (fun _ a ↦ a) = t := by
  cases t
  simp [mapRows]

theorem find?_modify (t : Table κ α) (k k' : κ) (f : α → α) :
    (t.modify k f).find? k' = if k' = k then (t.find? k').map f else t.find? k' := by
  rw [modify, find?_mapRows]
  split <;> simp

@[simp] theorem find?_modify_self (t : Table κ α) (k : κ) (f : α → α) :
    (t.modify k f).find? k = (t.find? k).map f := by rw [find?_modify, if_pos rfl]

theorem find?_modify_of_ne {k k' : κ} (h : k' ≠ k) (t : Table κ α) (f : α → α) :
    (t.modify k f).find? k' = t.find? k' := by rw [find?_modify, if_neg h]

@[simp] theorem find?_modifyWhere (t : Table κ α) (p : κ → α → Bool) (f : α → α) (k : κ) :
    (t.modifyWhere p f).find? k = (t.find? k).map fun a ↦ if p k a then f a else a :=
  find?_mapRows _ _ _

theorem modify_id (t : Table κ α) (k : κ) : t.modify k (fun a ↦ a) = t := by
  simp [modify]

/-- Rewriting leaves a table as it is if and only if it leaves every row as it is. -/
theorem modify_eq_self_iff {t : Table κ α} {k : κ} {f : α → α} :
    t.modify k f = t ↔ ∀ a, t.find? k = some a → f a = a := by
  constructor
  · intro h a ha
    have hrow := find?_modify_self t k f
    rw [h, ha] at hrow
    exact (Option.some.inj hrow).symm
  · intro h
    have hrows : t.rows.map (fun r ↦ (r.1, if r.1 = k then f r.2 else r.2)) = t.rows := by
      refine (List.map_congr_left fun r hr ↦ ?_).trans (List.map_id _)
      split
      · next hk => rw [h r.2 (hk ▸ find?_eq_some_iff.mpr hr), id]
      · rfl
    cases t
    simpa [modify, mapRows] using hrows

theorem modify_modify (t : Table κ α) (k : κ) (f g : α → α) :
    (t.modify k f).modify k g = t.modify k fun a ↦ g (f a) := by
  simp only [modify, mapRows, List.map_map, mk.injEq]
  refine List.map_congr_left fun r _ ↦ ?_
  by_cases hk : r.1 = k <;> simp [hk]

theorem modifyWhere_key (t : Table κ α) (k : κ) (p : α → Bool) (f : α → α) :
    t.modifyWhere (fun k' a ↦ k' == k && p a) f = t.modify k fun a ↦ if p a then f a else a := by
  rw [modifyWhere, modify]
  congr
  funext k' a
  by_cases hk : k' = k <;> simp [hk]

theorem find?_erase (t : Table κ α) (k k' : κ) :
    (t.erase k).find? k' = if k' = k then none else t.find? k' := by
  by_cases hk : k' = k
  · subst hk
    rw [if_pos rfl, find?_eq_none_iff]
    simp [erase]
  · rw [if_neg hk]
    refine Option.ext fun a ↦ ?_
    rw [find?_eq_some_iff, find?_eq_some_iff, erase, List.mem_filter]
    simp [hk]

theorem find?_insert {t : Table κ α} {k : κ} (h : t.find? k = none) (a : α) (k' : κ) :
    (t.insert k a).find? k' = if k' = k then some a else t.find? k' := by
  refine Option.ext fun b ↦ ?_
  rw [find?_eq_some_iff, insert, dif_pos h, List.mem_append, List.mem_singleton, Prod.mk.injEq]
  by_cases hk : k' = k
  · subst hk
    have hnot : (k', b) ∉ t.rows := fun hb ↦ by
      rw [← find?_eq_some_iff, h] at hb
      cases hb
    simp [hnot, eq_comm]
  · simp [hk, find?_eq_some_iff]

theorem find?_insert_of_some {t : Table κ α} {k k' : κ} (h : t.find? k = none) {a b : α}
    (h' : t.find? k' = some b) : (t.insert k a).find? k' = some b := by
  rw [find?_insert h, if_neg, h']
  rintro rfl
  exact absurd (h.symm.trans h') (by simp)

theorem mem_select {t : Table κ α} {p : κ → α → Bool} {r : κ × α} :
    r ∈ t.select p ↔ t.find? r.1 = some r.2 ∧ p r.1 r.2 = true := by
  rw [select, List.mem_filter, find?_eq_some_iff]

theorem nodup_select (t : Table κ α) (p : κ → α → Bool) :
    ((t.select p).map Prod.fst).Nodup :=
  t.nodup.sublist (List.filter_sublist.map Prod.fst)

theorem select_isEmpty_eq_false {t : Table κ α} {p : κ → α → Bool} :
    (t.select p).isEmpty = false ↔ ∃ k a, t.find? k = some a ∧ p k a = true := by
  rw [List.isEmpty_eq_false_iff_exists_mem]
  constructor
  · rintro ⟨⟨k, a⟩, hmem⟩
    exact ⟨k, a, mem_select.mp hmem⟩
  · rintro ⟨k, a, hmem⟩
    exact ⟨(k, a), mem_select.mpr hmem⟩

theorem select_eq_nil_iff {t : Table κ α} {p : κ → α → Bool} :
    t.select p = [] ↔ ∀ k a, t.find? k = some a → p k a = false := by
  rw [List.eq_nil_iff_forall_not_mem]
  constructor
  · intro h k a ha
    by_contra hp
    exact h (k, a) (mem_select.mpr ⟨ha, by simpa using hp⟩)
  · rintro h ⟨k, a⟩ hr
    rw [mem_select] at hr
    rw [h k a hr.1] at hr
    cases hr.2

/-! ## Counting -/

/-- There are no more rows of a kind than of another if each of them has the key of one. -/
theorem length_select_le {p q : κ → α → Bool} {t t' : Table κ α}
    (h : ∀ k b, t'.find? k = some b → q k b = true →
      ∃ a, t.find? k = some a ∧ p k a = true) :
    (t'.select q).length ≤ (t.select p).length := by
  have hsub : (t'.select q).map Prod.fst ⊆ (t.select p).map Prod.fst := by
    intro k hk
    obtain ⟨r, hr, rfl⟩ := List.mem_map.mp hk
    obtain ⟨hfind, hq⟩ := mem_select.mp hr
    obtain ⟨a, ha, hp⟩ := h r.1 r.2 hfind hq
    exact List.mem_map.mpr ⟨(r.1, a), mem_select.mpr ⟨ha, hp⟩, rfl⟩
  have hle := ((nodup_select t' q).subperm hsub).length_le
  rwa [List.length_map, List.length_map] at hle

/-- A new row counts if it is of the kind. -/
theorem length_select_insert {p : κ → α → Bool} {t : Table κ α} {k : κ} (h : t.find? k = none)
    (a : α) : ((t.insert k a).select p).length =
      (t.select p).length + if p k a then 1 else 0 := by
  rw [select, insert, dif_pos h, List.filter_append, List.length_append, select]
  congr 1
  cases hp : p k a <;> simp [hp]

/-! ## Growth

A table grows along a relation on rows when every key keeps a row and the rows move along the
relation. Tables that are only inserted into and updated grow; tables with deletions do not. -/

/-- Every row persists, moved along `le`. -/
def Grows (le : α → α → Prop) (t t' : Table κ α) : Prop :=
  ∀ k a, t.find? k = some a → ∃ a', t'.find? k = some a' ∧ le a a'

section Grows

variable {le : α → α → Prop}

theorem Grows.refl (hle : ∀ a, le a a) (t : Table κ α) : t.Grows le t :=
  fun _ a ha ↦ ⟨a, ha, hle a⟩

theorem Grows.trans (hle : ∀ a b c, le a b → le b c → le a c) {t t' t'' : Table κ α}
    (h : t.Grows le t') (h' : t'.Grows le t'') : t.Grows le t'' := by
  intro k a ha
  obtain ⟨b, hb, hab⟩ := h k a ha
  obtain ⟨c, hc, hbc⟩ := h' k b hb
  exact ⟨c, hc, hle a b c hab hbc⟩

theorem grows_mapRows {f : κ → α → α} (h : ∀ k a, le a (f k a)) (t : Table κ α) :
    t.Grows le (t.mapRows f) :=
  fun k a ha ↦ ⟨f k a, by rw [find?_mapRows, ha]; rfl, h k a⟩

theorem grows_modify (hle : ∀ a, le a a) {f : α → α} (h : ∀ a, le a (f a)) (k : κ)
    (t : Table κ α) : t.Grows le (t.modify k f) :=
  grows_mapRows (fun k' a ↦ by split; exacts [h a, hle a]) t

theorem grows_modifyWhere (hle : ∀ a, le a a) {f : α → α} (h : ∀ a, le a (f a))
    (p : κ → α → Bool) (t : Table κ α) : t.Grows le (t.modifyWhere p f) :=
  grows_mapRows (fun k a ↦ by split; exacts [h a, hle a]) t

theorem grows_insert (hle : ∀ a, le a a) {k : κ} {t : Table κ α} (h : t.find? k = none) (a : α) :
    t.Grows le (t.insert k a) := by
  intro k' b hb
  refine ⟨b, ?_, hle b⟩
  rw [find?_insert h, if_neg, hb]
  rintro rfl
  rw [h] at hb
  cases hb

end Grows

end Table

end HibikiCore
