import HibikiCore.Store.Footprint

/-!
# Numbered logs

A table that is keyed by an owner and a number holds one log for each owner: its entries, in the
order in which they were added. A log is *numbered* if its entries carry the numbers from 1 on in
this order. An entry that is added under the number after the largest one keeps it so, and leaves
what is before it alone.
-/

namespace HibikiCore

namespace Table

variable {κ α : Type} [DecidableEq κ] {t : Table (κ × Nat) α} {k k' : κ} {a : α} {n : Nat}

/-- The entries of an owner with their numbers, oldest first. -/
def entries (t : Table (κ × Nat) α) (k : κ) : List (Nat × α) :=
  (t.select fun k' _ ↦ k'.1 == k).map fun r ↦ (r.1.2, r.2)

/-- The entries of an owner carry the numbers from 1 on, in the order in which they were added. -/
def Numbered (t : Table (κ × Nat) α) (k : κ) : Prop :=
  (t.entries k).map Prod.fst = List.range' 1 (t.entries k).length

theorem mem_entries : (n, a) ∈ t.entries k ↔ t.find? (k, n) = some a := by
  rw [entries, List.mem_map]
  constructor
  · rintro ⟨r, hr, heq⟩
    obtain ⟨hfind, hkey⟩ := mem_select.mp hr
    obtain ⟨rfl, rfl⟩ := Prod.ext_iff.mp heq
    rwa [← beq_iff_eq.mp hkey]
  · intro hfind
    exact ⟨((k, n), a), mem_select.mpr ⟨hfind, beq_iff_eq.mpr rfl⟩, rfl⟩

theorem numbered_empty (k : κ) : (empty : Table (κ × Nat) α).Numbered k := rfl

/-- The largest number of an owner, or zero. -/
def lastNumber (t : Table (κ × Nat) α) (k : κ) : Nat :=
  ((t.select fun k' _ ↦ k'.1 == k).map fun r ↦ r.1.2).foldl max 0

theorem foldl_max_range' (n : Nat) : (List.range' 1 n).foldl max 0 = n := by
  induction n with
  | zero => rfl
  | succ n ih =>
    rw [List.range'_1_concat, List.foldl_append, ih]
    simp [Nat.add_comm]

/-- The largest number of a numbered log is its length. -/
theorem Numbered.lastNumber (h : t.Numbered k) : t.lastNumber k = (t.entries k).length := by
  have hnumbers : ((t.select fun k' _ ↦ k'.1 == k).map fun r ↦ r.1.2) =
      (t.entries k).map Prod.fst := by
    rw [entries, List.map_map]
    rfl
  rw [Table.lastNumber, hnumbers, h, foldl_max_range']

theorem entries_insert (h : t.find? (k, n) = none) (a : α) (k' : κ) :
    (t.insert (k, n) a).entries k' =
      t.entries k' ++ if k = k' then [(n, a)] else [] := by
  have hrows : (t.insert (k, n) a).rows = t.rows ++ [((k, n), a)] := by rw [insert, dif_pos h]
  rw [entries, select, hrows, List.filter_append, List.map_append]
  congr 1
  by_cases hk : k = k' <;> simp [hk]

/-- The next entry of a numbered log. -/
theorem Numbered.insert (h : t.Numbered k) (hfresh : t.find? (k, t.lastNumber k + 1) = none)
    (a : α) : (t.insert (k, t.lastNumber k + 1) a).Numbered k := by
  rw [Numbered, entries_insert hfresh, if_pos rfl, List.map_append, List.length_append, h,
    h.lastNumber, List.length_singleton, List.range'_1_concat, Nat.add_comm 1]
  rfl

end Table

/-! ## Logs that grow -/

section Appends

variable {σ ε κ ρ ν : Type} [DecidableEq κ] [Columns ρ] [Regions ν σ]

/-- The logs of a table stay numbered, and what is in them stays where it is. -/
def Appends (r : Ref σ (κ × Nat) ρ) (s s' : σ) : Prop :=
  ∀ k, (r.read s).Numbered k →
    (r.read s').Numbered k ∧ (r.read s).entries k <+: (r.read s').entries k

namespace Appends

variable {r : Ref σ (κ × Nat) ρ} {s s' : σ}

theorem of_read (h : r.read s = r.read s') : Appends r s s' :=
  fun _ hk ↦ ⟨h ▸ hk, h ▸ List.prefix_rfl⟩

instance : Preord (Appends r) where
  refl _ := of_read rfl
  trans h h' k hk :=
    have hmid := h k hk
    have hlast := h' k hmid.1
    ⟨hlast.1, hmid.2.trans hlast.2⟩

instance [Faithful r] : Frame (Appends r) where
  still h := of_read (Faithful.read_same ((h r.name).2 List.not_mem_nil))

instance {n : ν} [Faithful r] [h : Beside r n] : Indifferent (Appends r) n where
  writes hw := of_read (Faithful.read_same ((hw r.name).2 (by simpa using h.ne)))

/-- A new entry goes to the end of the log of its owner. -/
theorem of_insert {e : ε} {k : κ} {a : ρ}
    (h : r.insert e (k, (r.read s).lastNumber k + 1) a s = .ok ((), s')) : Appends r s s' := by
  obtain ⟨hfresh, rfl⟩ := Ref.insert_ok.mp h
  intro k' hk'
  rw [r.read_write]
  refine ⟨?_, ?_⟩
  · by_cases hkk : k = k'
    · subst hkk
      exact hk'.insert hfresh a
    · rw [Table.Numbered, Table.entries_insert hfresh, if_neg hkk, List.append_nil]
      exact hk'
  · rw [Table.entries_insert hfresh]
    exact List.prefix_append _ _

end Appends

end Appends

end HibikiCore
