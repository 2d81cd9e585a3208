import HibikiCore.Store.Transaction

/-!
# Tables inside a store, and footprints

A store is a record with one table for each name. `Ref` is a table of the store together with the
two facts that make it an independent component: what was written is what is read, and writing it
leaves every other table alone.

## Updates keep the immutable columns

A row has columns that no statement of a program updates. `Columns` names them, and an update is
accepted only with a proof that it keeps them, so that every program written with these operations
keeps them as well. A table *grows* when its rows persist with their immutable columns.

## Footprints

`Writes W` is the relation a transaction respects when it touches no table outside `W`: the tables
of `W` grow and the others stay the same.
-/

namespace HibikiCore

/-- The columns of a row that no update changes. -/
class Columns (ρ : Type) where
  /-- The type of the immutable columns. -/
  Fixed : Type
  /-- The immutable columns of a row. -/
  fixed : ρ → Fixed

/-- Two rows agree on the immutable columns. -/
abbrev SameFixed {ρ : Type} [Columns ρ] (a b : ρ) : Prop := Columns.fixed b = Columns.fixed a

theorem SameFixed.of_eq {ρ : Type} [Columns ρ] {a b : ρ}
    (h : Columns.fixed b = Columns.fixed a) : SameFixed a b := h

theorem SameFixed.refl {ρ : Type} [Columns ρ] (a : ρ) : SameFixed a a := rfl

theorem SameFixed.trans {ρ : Type} [Columns ρ] {a b c : ρ} (h : SameFixed a b)
    (h' : SameFixed b c) : SameFixed a c := Eq.trans h' h

/-- A store divided into named regions. -/
class Regions (ν : outParam Type) (σ : Type) where
  /-- A region did not change. -/
  same : ν → σ → σ → Prop
  /-- The rows of a region persist with their immutable columns. -/
  grows : ν → σ → σ → Prop
  same_refl : ∀ n s, same n s s
  same_trans : ∀ {n s t u}, same n s t → same n t u → same n s u
  grows_of_same : ∀ {n s t}, same n s t → grows n s t
  grows_trans : ∀ {n s t u}, grows n s t → grows n t u → grows n s u

/-- A table of a store. -/
structure Ref (σ κ ρ : Type) {ν : Type} [DecidableEq κ] [Columns ρ] [Regions ν σ] where
  /-- The region the table is. -/
  name : ν
  /-- Reads the table. -/
  read : σ → Table κ ρ
  /-- Replaces the table. -/
  write : Table κ ρ → σ → σ
  read_write : ∀ t s, read (write t s) = t
  same_write : ∀ n t s, n ≠ name → Regions.same n s (write t s)
  grows_write : ∀ t s, (read s).Grows SameFixed t → Regions.grows name s (write t s)

/-- A table whose rows a program may delete: nothing is said about their persistence. -/
class Volatile {σ κ ρ ν : Type} [DecidableEq κ] [Columns ρ] [Regions ν σ] (r : Ref σ κ ρ) :
    Prop where
  grows_any : ∀ t s, Regions.grows r.name s (r.write t s)

namespace Ref

variable {σ ε κ ρ ν : Type} [DecidableEq κ] [Columns ρ] [Regions ν σ]

/-! ## Statements -/

/-- Adds a row; a key that is taken is an integrity error. -/
def insert (r : Ref σ κ ρ) (e : ε) (k : κ) (a : ρ) : Tx σ ε Unit := do
  let s ← get
  Tx.check ((r.read s).find? k = none) e
  modify fun s ↦ r.write ((r.read s).insert k a) s

/-- Updates the row under a key, if there is one. -/
def update (r : Ref σ κ ρ) (k : κ) (f : ρ → ρ)
    (_ : ∀ a, SameFixed a (f a) := by exact SameFixed.refl) : Tx σ ε Unit :=
  modify fun s ↦ r.write ((r.read s).modify k f) s

/-- Updates the rows that satisfy a condition. -/
def updateWhere (r : Ref σ κ ρ) (p : κ → ρ → Bool) (f : ρ → ρ)
    (_ : ∀ a, SameFixed a (f a) := by exact SameFixed.refl) : Tx σ ε Unit :=
  modify fun s ↦ r.write ((r.read s).modifyWhere p f) s

/-- Deletes the row under a key, if there is one. -/
def delete (r : Ref σ κ ρ) (k : κ) : Tx σ ε Unit :=
  modify fun s ↦ r.write ((r.read s).erase k) s

variable {r : Ref σ κ ρ} {s s' : σ} {u : Unit}

@[simp] theorem insert_ok {e : ε} {k : κ} {a : ρ} :
    r.insert e k a s = .ok (u, s') ↔
      (r.read s).find? k = none ∧ s' = r.write ((r.read s).insert k a) s := by
  rw [insert, Tx.bind_ok]
  simp

@[simp] theorem update_ok {k : κ} {f : ρ → ρ} {h : ∀ a, SameFixed a (f a)} :
    (r.update k f h : Tx σ ε Unit) s = .ok (u, s') ↔ s' = r.write ((r.read s).modify k f) s :=
  Tx.modify_ok

/-- What is read after an update. -/
theorem read_of_update {k : κ} {f : ρ → ρ} {h : ∀ a, SameFixed a (f a)}
    (hrun : (r.update k f h : Tx σ ε Unit) s = .ok (u, s')) :
    r.read s' = (r.read s).modify k f := by
  rw [update_ok.mp hrun, r.read_write]

@[simp] theorem updateWhere_ok {p : κ → ρ → Bool} {f : ρ → ρ} {h : ∀ a, SameFixed a (f a)} :
    (r.updateWhere p f h : Tx σ ε Unit) s = .ok (u, s') ↔
      s' = r.write ((r.read s).modifyWhere p f) s :=
  Tx.modify_ok

@[simp] theorem delete_ok {k : κ} :
    (r.delete k : Tx σ ε Unit) s = .ok (u, s') ↔ s' = r.write ((r.read s).erase k) s :=
  Tx.modify_ok

end Ref

/-! ## Footprints -/

/-- The tables of `W` grow and every other table stays the same. -/
def Writes {ν σ : Type} [Regions ν σ] (W : List ν) (s s' : σ) : Prop :=
  ∀ n, Regions.grows n s s' ∧ (n ∉ W → Regions.same n s s')

/-- A region belongs to a footprint. -/
class Touches {ν : Type} (n : ν) (W : List ν) : Prop where
  mem : n ∈ W

namespace Touches

variable {ν : Type} {n m : ν} {W : List ν}

instance head : Touches n (n :: W) := ⟨List.mem_cons_self⟩

instance tail [h : Touches n W] : Touches n (m :: W) := ⟨List.mem_cons_of_mem m h.mem⟩

end Touches

namespace Writes

variable {σ ε κ ρ ν : Type} [DecidableEq κ] [Columns ρ] [Regions ν σ] {W : List ν}

instance : Preord (Writes W : σ → σ → Prop) where
  refl s n := ⟨Regions.grows_of_same (Regions.same_refl n s), fun _ ↦ Regions.same_refl n s⟩
  trans h h' n := ⟨Regions.grows_trans (h n).1 (h' n).1,
    fun hn ↦ Regions.same_trans ((h n).2 hn) ((h' n).2 hn)⟩

theorem mono {V : List ν} (hVW : ∀ n ∈ V, n ∈ W) {s s' : σ} (h : Writes V s s') : Writes W s s' :=
  fun n ↦ ⟨(h n).1, fun hn ↦ (h n).2 fun hV ↦ hn (hVW n hV)⟩

/-- Replacing a table of the footprint is within the footprint, if the table grows by it. -/
theorem of_write {r : Ref σ κ ρ} (h : r.name ∈ W) {t : Table κ ρ} {s : σ}
    (ht : Regions.grows r.name s (r.write t s)) : Writes W s (r.write t s) := by
  intro n
  by_cases hn : n = r.name
  · subst hn
    exact ⟨ht, fun hW ↦ (hW h).elim⟩
  · exact ⟨Regions.grows_of_same (r.same_write n t s hn), fun _ ↦ r.same_write n t s hn⟩

end Writes

/-! ## Relations that do not look at a region

A relation is indifferent to a region if whatever happens there is within it. The statements on
the region's table then respect it, whatever they write. -/

section Indifferent

variable {σ ε κ ρ ν : Type} [DecidableEq κ] [Columns ρ] [Regions ν σ]

/-- A relation that looks at nothing but the regions. -/
class Frame (R : σ → σ → Prop) : Prop extends Preord R where
  still : ∀ {s s' : σ}, Writes ([] : List ν) s s' → R s s'

/-- A relation that does not look at a region. -/
class Indifferent (R : σ → σ → Prop) (n : ν) : Prop where
  writes : ∀ {s s' : σ}, Writes [n] s s' → R s s'

instance {W : List ν} : Frame (Writes W : σ → σ → Prop) where
  still h := h.mono fun _ hn ↦ (List.not_mem_nil hn).elim

instance {W : List ν} {n : ν} [h : Touches n W] : Indifferent (Writes W : σ → σ → Prop) n where
  writes hw := hw.mono fun _ hm ↦ List.mem_singleton.mp hm ▸ h.mem

/-- A relation that puts up with new rows of a table. -/
class Inserts (R : σ → σ → Prop) (r : Ref σ κ ρ) : Prop where
  insert : ∀ {ε : Type} (e : ε) (k : κ) (a : ρ), Respects R (r.insert e k a)

/-- A relation that puts up with updates of a table. -/
class Updates (R : σ → σ → Prop) (r : Ref σ κ ρ) : Prop where
  update : ∀ {ε : Type} (k : κ) (f : ρ → ρ) (hf : ∀ a, SameFixed a (f a)),
    Respects R (r.update k f hf : Tx σ ε Unit)
  updateWhere : ∀ {ε : Type} (p : κ → ρ → Bool) (f : ρ → ρ) (hf : ∀ a, SameFixed a (f a)),
    Respects R (r.updateWhere p f hf : Tx σ ε Unit)

/-- A relation that puts up with deletions from a table. -/
class Deletes (R : σ → σ → Prop) (r : Ref σ κ ρ) : Prop where
  delete : ∀ {ε : Type} (k : κ), Respects R (r.delete k : Tx σ ε Unit)

attribute [instance] Inserts.insert Updates.update Updates.updateWhere Deletes.delete

variable {R : σ → σ → Prop} {r : Ref σ κ ρ} [Indifferent R r.name]

instance : Inserts R r where
  insert e k a := by
    constructor
    intro s _ s' h
    obtain ⟨hnone, rfl⟩ := Ref.insert_ok.mp h
    refine Indifferent.writes (Writes.of_write List.mem_cons_self ?_)
    exact r.grows_write _ _ (Table.grows_insert SameFixed.refl hnone a)

instance : Updates R r where
  update k f hf := by
    constructor
    intro s _ s' h
    obtain rfl := Ref.update_ok.mp h
    refine Indifferent.writes (Writes.of_write List.mem_cons_self ?_)
    exact r.grows_write _ _ (Table.grows_modify SameFixed.refl hf k _)
  updateWhere p f hf := by
    constructor
    intro s _ s' h
    obtain rfl := Ref.updateWhere_ok.mp h
    refine Indifferent.writes (Writes.of_write List.mem_cons_self ?_)
    exact r.grows_write _ _ (Table.grows_modifyWhere SameFixed.refl hf p _)

instance [Volatile r] : Deletes R r where
  delete k := by
    constructor
    intro s _ s' h
    obtain rfl := Ref.delete_ok.mp h
    exact Indifferent.writes (Writes.of_write List.mem_cons_self (Volatile.grows_any _ _))

end Indifferent

/-! ## Rows that move along a relation

What the updates of a table may do to a row is stated for rows; a transaction moves the table along
it if each of its statements on that table does. -/

section Moves

variable {σ ε κ ρ ν : Type} [DecidableEq κ] [Columns ρ] [Regions ν σ]

/-- The rows of a table persist, and each moves along a relation. -/
def Moves (r : Ref σ κ ρ) (le : ρ → ρ → Prop) (s s' : σ) : Prop :=
  (r.read s).Grows le (r.read s')

/-- A table that is all there is to its region. -/
class Faithful (r : Ref σ κ ρ) : Prop where
  read_same : ∀ {s s' : σ}, Regions.same r.name s s' → r.read s = r.read s'

/-- A region is another one than that of a table. -/
class Beside (r : Ref σ κ ρ) (n : ν) : Prop where
  ne : r.name ≠ n

namespace Moves

variable {r : Ref σ κ ρ} {le : ρ → ρ → Prop} [Preord le] {s s' : σ}

instance : Preord (Moves r le) where
  refl s := Table.Grows.refl Preord.refl (r.read s)
  trans h h' := Table.Grows.trans (fun _ _ _ ↦ Preord.trans) h h'

theorem of_read (h : r.read s = r.read s') : Moves r le s s' := by
  rw [Moves, h]
  exact Table.Grows.refl Preord.refl _

instance [Faithful r] : Frame (Moves r le) where
  still h := of_read (Faithful.read_same ((h r.name).2 List.not_mem_nil))

instance {n : ν} [Faithful r] [h : Beside r n] : Indifferent (Moves r le) n where
  writes hw := of_read (Faithful.read_same ((hw r.name).2 (by simpa using h.ne)))

instance : Inserts (Moves r le) r where
  insert e k a := by
    constructor
    intro s _ s' h
    obtain ⟨hnone, rfl⟩ := Ref.insert_ok.mp h
    rw [Moves, r.read_write]
    exact Table.grows_insert Preord.refl hnone a

/-- An update moves the table if it moves the row it finds. -/
theorem of_update {k : κ} {f : ρ → ρ} {hf : ∀ a, SameFixed a (f a)}
    (hle : ∀ a, (r.read s).find? k = some a → le a (f a))
    (h : (r.update k f hf : Tx σ ε Unit) s = .ok ((), s')) : Moves r le s s' := by
  obtain rfl := Ref.update_ok.mp h
  intro k' a ha
  rw [r.read_write, Table.find?_modify]
  by_cases hk : k' = k
  · subst hk
    exact ⟨f a, by rw [if_pos rfl, ha]; rfl, hle a ha⟩
  · exact ⟨a, by rw [if_neg hk, ha], Preord.refl a⟩

theorem update {k : κ} {f : ρ → ρ} {hf : ∀ a, SameFixed a (f a)} (hle : ∀ a, le a (f a)) :
    Respects (Moves r le) (r.update k f hf : Tx σ ε Unit) where
  rel h := of_update (fun a _ ↦ hle a) h

/-- An update under a condition moves the table if it moves the rows that meet the condition. -/
theorem updateWhere {p : κ → ρ → Bool} {f : ρ → ρ} {hf : ∀ a, SameFixed a (f a)}
    (hle : ∀ k a, p k a = true → le a (f a)) :
    Respects (Moves r le) (r.updateWhere p f hf : Tx σ ε Unit) where
  rel {s _ s'} h := by
    obtain rfl := Ref.updateWhere_ok.mp h
    rw [Moves, r.read_write]
    refine Table.grows_mapRows (fun k a ↦ ?_) _
    split
    · next hp => exact hle k a hp
    · exact Preord.refl a

end Moves

end Moves

/-! ## Rows that arrive

The other direction: what a table has afterwards it had before, up to updates, or it is new, and
then its immutable columns are of a kind. -/

section Arrivals

variable {σ ε κ ρ ν : Type} [DecidableEq κ] [Columns ρ] [Regions ν σ]

/-- The rows that are new in a table have immutable columns of a kind. -/
def Arrivals (r : Ref σ κ ρ) (P : κ → Columns.Fixed ρ → Prop) (s s' : σ) : Prop :=
  ∀ k a', (r.read s').find? k = some a' →
    (∃ a, (r.read s).find? k = some a ∧ SameFixed a a') ∨ P k (Columns.fixed a')

namespace Arrivals

variable {r : Ref σ κ ρ} {P Q : κ → Columns.Fixed ρ → Prop} {s s' : σ}

theorem of_read (h : r.read s = r.read s') : Arrivals r P s s' :=
  fun _ a ha ↦ .inl ⟨a, h ▸ ha, SameFixed.refl a⟩

instance : Preord (Arrivals r P) where
  refl _ := of_read rfl
  trans h h' k c hc := by
    rcases h' k c hc with ⟨b, hb, hbc⟩ | hc
    · rcases h k b hb with ⟨a, ha, hab⟩ | hb
      · exact .inl ⟨a, ha, hab.trans hbc⟩
      · exact .inr (hbc.symm ▸ hb)
    · exact .inr hc

theorem mono (hPQ : ∀ k a, P k a → Q k a) (h : Arrivals r P s s') : Arrivals r Q s s' :=
  fun k a ha ↦ (h k a ha).imp id (hPQ k _)

instance [Faithful r] : Frame (Arrivals r P) where
  still h := of_read (Faithful.read_same ((h r.name).2 List.not_mem_nil))

instance {n : ν} [Faithful r] [h : Beside r n] : Indifferent (Arrivals r P) n where
  writes hw := of_read (Faithful.read_same ((hw r.name).2 (by simpa using h.ne)))

instance : Updates (Arrivals r P) r where
  update k f hf := by
    constructor
    intro s _ s' h k' b hb
    obtain rfl := Ref.update_ok.mp h
    rw [r.read_write, Table.find?_modify] at hb
    split at hb
    · obtain ⟨a, ha, rfl⟩ := Option.map_eq_some_iff.mp hb
      exact .inl ⟨a, ha, hf a⟩
    · exact .inl ⟨b, hb, SameFixed.refl b⟩
  updateWhere p f hf := by
    constructor
    intro s _ s' h k b hb
    obtain rfl := Ref.updateWhere_ok.mp h
    rw [r.read_write, Table.find?_modifyWhere] at hb
    obtain ⟨a, ha, rfl⟩ := Option.map_eq_some_iff.mp hb
    refine .inl ⟨a, ha, ?_⟩
    split
    · exact hf a
    · exact SameFixed.refl a

instance : Deletes (Arrivals r P) r where
  delete k := by
    constructor
    intro s _ s' h k' b hb
    obtain rfl := Ref.delete_ok.mp h
    rw [r.read_write, Table.find?_erase] at hb
    split at hb
    · cases hb
    · exact .inl ⟨b, hb, SameFixed.refl b⟩

theorem insert {e : ε} {k : κ} {a : ρ} (hP : P k (Columns.fixed a)) :
    Respects (Arrivals r P) (r.insert e k a) where
  rel {s _ s'} h := by
    obtain ⟨hnone, rfl⟩ := Ref.insert_ok.mp h
    intro k' b hb
    rw [r.read_write, Table.find?_insert hnone] at hb
    split at hb
    · next hk =>
      obtain rfl := Option.some.inj hb
      exact .inr (hk ▸ hP)
    · exact .inl ⟨b, hb, SameFixed.refl b⟩

end Arrivals

end Arrivals

/-! ## Rows that are kept under some keys -/

section Retains

variable {σ ε κ ρ ν : Type} [DecidableEq κ] [Columns ρ] [Regions ν σ]

/-- The rows under some keys persist with their immutable columns. -/
def Retains (r : Ref σ κ ρ) (T : κ → Prop) (s s' : σ) : Prop :=
  ∀ k a, T k → (r.read s).find? k = some a → ∃ b, (r.read s').find? k = some b ∧ SameFixed a b

namespace Retains

variable {r : Ref σ κ ρ} {T : κ → Prop} {s s' : σ}

theorem of_read (h : r.read s = r.read s') : Retains r T s s' :=
  fun _ a _ ha ↦ ⟨a, h ▸ ha, SameFixed.refl a⟩

instance : Preord (Retains r T) where
  refl _ := of_read rfl
  trans h h' k a hk ha := by
    obtain ⟨b, hb, hab⟩ := h k a hk ha
    obtain ⟨c, hc, hbc⟩ := h' k b hk hb
    exact ⟨c, hc, hab.trans hbc⟩

instance [Faithful r] : Frame (Retains r T) where
  still h := of_read (Faithful.read_same ((h r.name).2 List.not_mem_nil))

instance {n : ν} [Faithful r] [h : Beside r n] : Indifferent (Retains r T) n where
  writes hw := of_read (Faithful.read_same ((hw r.name).2 (by simpa using h.ne)))

instance : Inserts (Retains r T) r where
  insert e k a := by
    constructor
    intro s _ s' h k' b _ hb
    obtain ⟨hnone, rfl⟩ := Ref.insert_ok.mp h
    refine ⟨b, ?_, SameFixed.refl b⟩
    rw [r.read_write]
    exact Table.find?_insert_of_some hnone hb

/-- A row may be deleted under a key that is none of them. -/
theorem delete {k : κ} (hk : ¬T k) : Respects (Retains r T) (r.delete k : Tx σ ε Unit) where
  rel {s _ s'} h k' b hk' hb := by
    obtain rfl := Ref.delete_ok.mp h
    refine ⟨b, ?_, SameFixed.refl b⟩
    rw [r.read_write, Table.find?_erase, if_neg, hb]
    rintro rfl
    exact hk hk'

end Retains

end Retains

/-! ## Rows that stem from others -/

/-- An update leaves what is read of a row. -/
class Leaves {ρ α : Type} (g : ρ → α) (f : ρ → ρ) : Prop where
  same : ∀ a, g (f a) = g a

section Stems

variable {σ ε κ ρ ν : Type} [DecidableEq κ] [Columns ρ] [Regions ν σ]

/-- Each row of a kind was a row of this kind before, and has moved along `le`. -/
def Stems (r : Ref σ κ ρ) (P : ρ → Prop) (le : ρ → ρ → Prop) (s s' : σ) : Prop :=
  ∀ k b, (r.read s').find? k = some b → P b → ∃ a, (r.read s).find? k = some a ∧ P a ∧ le a b

namespace Stems

variable {r : Ref σ κ ρ} {P : ρ → Prop} {le : ρ → ρ → Prop} [Preord le] {s s' : σ}

theorem of_read (h : r.read s = r.read s') : Stems r P le s s' :=
  fun _ b hb hP ↦ ⟨b, h ▸ hb, hP, Preord.refl b⟩

instance : Preord (Stems r P le) where
  refl _ := of_read rfl
  trans h h' k c hc hP := by
    obtain ⟨b, hb, hPb, hbc⟩ := h' k c hc hP
    obtain ⟨a, ha, hPa, hab⟩ := h k b hb hPb
    exact ⟨a, ha, hPa, Preord.trans hab hbc⟩

instance [Faithful r] : Frame (Stems r P le) where
  still h := of_read (Faithful.read_same ((h r.name).2 List.not_mem_nil))

instance {n : ν} [Faithful r] [h : Beside r n] : Indifferent (Stems r P le) n where
  writes hw := of_read (Faithful.read_same ((hw r.name).2 (by simpa using h.ne)))

theorem update {k : κ} {f : ρ → ρ} {hf : ∀ a, SameFixed a (f a)}
    (hle : ∀ a, P (f a) → P a ∧ le a (f a)) :
    Respects (Stems r P le) (r.update k f hf : Tx σ ε Unit) where
  rel {s _ s'} h k' b hb hP := by
    obtain rfl := Ref.update_ok.mp h
    rw [r.read_write, Table.find?_modify] at hb
    split at hb
    · obtain ⟨a, ha, rfl⟩ := Option.map_eq_some_iff.mp hb
      exact ⟨a, ha, hle a hP⟩
    · exact ⟨b, hb, hP, Preord.refl b⟩

theorem updateWhere {p : κ → ρ → Bool} {f : ρ → ρ} {hf : ∀ a, SameFixed a (f a)}
    (hle : ∀ a, P (f a) → P a ∧ le a (f a)) :
    Respects (Stems r P le) (r.updateWhere p f hf : Tx σ ε Unit) where
  rel {s _ s'} h k b hb hP := by
    obtain rfl := Ref.updateWhere_ok.mp h
    rw [r.read_write, Table.find?_modifyWhere] at hb
    obtain ⟨a, ha, rfl⟩ := Option.map_eq_some_iff.mp hb
    refine ⟨a, ha, ?_⟩
    split
    · next hp =>
      rw [if_pos hp] at hP
      exact hle a hP
    · next hp =>
      rw [if_neg hp] at hP
      exact ⟨hP, Preord.refl a⟩

theorem insert {e : ε} {k : κ} {a : ρ} (hP : ¬P a) :
    Respects (Stems r P le) (r.insert e k a) where
  rel {s _ s'} h k' b hb hPb := by
    obtain ⟨hnone, rfl⟩ := Ref.insert_ok.mp h
    rw [r.read_write, Table.find?_insert hnone] at hb
    split at hb
    · obtain rfl := Option.some.inj hb
      exact absurd hPb hP
    · exact ⟨b, hb, hPb, Preord.refl b⟩

end Stems

end Stems

/-! ## Rows that come to be of a kind -/

section Enters

variable {σ ε κ ρ ν : Type} [DecidableEq κ] [Columns ρ] [Regions ν σ]

/-- The rows of a kind were of this kind before, but for the rows under some keys. -/
def Enters (r : Ref σ κ ρ) (P : ρ → Prop) (T : κ → Prop) (s s' : σ) : Prop :=
  ∀ k b, (r.read s').find? k = some b → P b → (∃ a, (r.read s).find? k = some a ∧ P a) ∨ T k

namespace Enters

variable {r : Ref σ κ ρ} {P : ρ → Prop} {T T' : κ → Prop} {s s' : σ}

theorem of_read (h : r.read s = r.read s') : Enters r P T s s' :=
  fun _ b hb hP ↦ .inl ⟨b, h ▸ hb, hP⟩

theorem mono (hT : ∀ k, T k → T' k) (h : Enters r P T s s') : Enters r P T' s s' :=
  fun k b hb hP ↦ (h k b hb hP).imp id (hT k)

instance : Preord (Enters r P T) where
  refl _ := of_read rfl
  trans h h' k c hc hP := by
    rcases h' k c hc hP with ⟨b, hb, hPb⟩ | hk
    · exact h k b hb hPb
    · exact .inr hk

instance [Faithful r] : Frame (Enters r P T) where
  still h := of_read (Faithful.read_same ((h r.name).2 List.not_mem_nil))

instance {n : ν} [Faithful r] [h : Beside r n] : Indifferent (Enters r P T) n where
  writes hw := of_read (Faithful.read_same ((hw r.name).2 (by simpa using h.ne)))

/-- Only the row that an update finds may come to be of the kind. -/
theorem of_update {k : κ} {f : ρ → ρ} {hf : ∀ a, SameFixed a (f a)}
    (hP : ∀ a, (r.read s).find? k = some a → P (f a) → P a ∨ T k)
    (h : (r.update k f hf : Tx σ ε Unit) s = .ok ((), s')) : Enters r P T s s' := by
  obtain rfl := Ref.update_ok.mp h
  intro k' b hb hPb
  rw [r.read_write, Table.find?_modify] at hb
  split at hb
  · next hk =>
    obtain ⟨a, ha, rfl⟩ := Option.map_eq_some_iff.mp hb
    subst hk
    exact (hP a ha hPb).imp (fun hPa ↦ ⟨a, ha, hPa⟩) id
  · exact .inl ⟨b, hb, hPb⟩

theorem update {k : κ} {f : ρ → ρ} {hf : ∀ a, SameFixed a (f a)} (hP : ∀ a, P (f a) → P a ∨ T k) :
    Respects (Enters r P T) (r.update k f hf : Tx σ ε Unit) where
  rel h := of_update (fun a _ ↦ hP a) h

/-- Only the rows that meet the condition may come to be of the kind. -/
theorem of_updateWhere {p : κ → ρ → Bool} {f : ρ → ρ} {hf : ∀ a, SameFixed a (f a)}
    (hP : ∀ k a, (r.read s).find? k = some a → p k a = true → P (f a) → P a ∨ T k)
    (h : (r.updateWhere p f hf : Tx σ ε Unit) s = .ok ((), s')) : Enters r P T s s' := by
  obtain rfl := Ref.updateWhere_ok.mp h
  intro k b hb hPb
  rw [r.read_write, Table.find?_modifyWhere] at hb
  obtain ⟨a, ha, rfl⟩ := Option.map_eq_some_iff.mp hb
  by_cases hp : p k a = true
  · rw [if_pos hp] at hPb
    exact (hP k a ha hp hPb).imp (fun hPa ↦ ⟨a, ha, hPa⟩) id
  · rw [if_neg hp] at hPb
    exact .inl ⟨a, ha, hPb⟩

theorem updateWhere {p : κ → ρ → Bool} {f : ρ → ρ} {hf : ∀ a, SameFixed a (f a)}
    (hP : ∀ k a, p k a = true → P (f a) → P a ∨ T k) :
    Respects (Enters r P T) (r.updateWhere p f hf : Tx σ ε Unit) where
  rel h := of_updateWhere (fun k a _ ↦ hP k a) h

theorem insert {e : ε} {k : κ} {a : ρ} (hP : ¬P a) :
    Respects (Enters r P T) (r.insert e k a) where
  rel {s _ s'} h k' b hb hPb := by
    obtain ⟨hnone, rfl⟩ := Ref.insert_ok.mp h
    rw [r.read_write, Table.find?_insert hnone] at hb
    split at hb
    · obtain rfl := Option.some.inj hb
      exact absurd hPb hP
    · exact .inl ⟨b, hb, hPb⟩

end Enters

end Enters

/-! ## Rows that stay of a kind -/

section Stays

variable {σ ε κ ρ ν : Type} [DecidableEq κ] [Columns ρ] [Regions ν σ]

/-- The rows of a kind persist and stay of this kind, but for the rows under some keys. -/
def Stays (r : Ref σ κ ρ) (P : ρ → Prop) (T : κ → Prop) (s s' : σ) : Prop :=
  ∀ k a, (r.read s).find? k = some a → P a → (∃ b, (r.read s').find? k = some b ∧ P b) ∨ T k

namespace Stays

variable {r : Ref σ κ ρ} {P : ρ → Prop} {T : κ → Prop} {s s' : σ}

theorem of_read (h : r.read s = r.read s') : Stays r P T s s' :=
  fun _ a ha hP ↦ .inl ⟨a, h ▸ ha, hP⟩

instance : Preord (Stays r P T) where
  refl _ := of_read rfl
  trans h h' k a ha hP := by
    rcases h k a ha hP with ⟨b, hb, hPb⟩ | hk
    · exact h' k b hb hPb
    · exact .inr hk

instance [Faithful r] : Frame (Stays r P T) where
  still h := of_read (Faithful.read_same ((h r.name).2 List.not_mem_nil))

instance {n : ν} [Faithful r] [h : Beside r n] : Indifferent (Stays r P T) n where
  writes hw := of_read (Faithful.read_same ((hw r.name).2 (by simpa using h.ne)))

instance : Inserts (Stays r P T) r where
  insert e k a := by
    constructor
    intro s _ s' h k' b hb hPb
    obtain ⟨hnone, rfl⟩ := Ref.insert_ok.mp h
    refine .inl ⟨b, ?_, hPb⟩
    rw [r.read_write]
    exact Table.find?_insert_of_some hnone hb

/-- Only the row that an update finds may cease to be of the kind. -/
theorem of_update {k : κ} {f : ρ → ρ} {hf : ∀ a, SameFixed a (f a)}
    (hP : ∀ a, (r.read s).find? k = some a → P a → P (f a) ∨ T k)
    (h : (r.update k f hf : Tx σ ε Unit) s = .ok ((), s')) : Stays r P T s s' := by
  obtain rfl := Ref.update_ok.mp h
  intro k' a ha hPa
  rw [r.read_write, Table.find?_modify]
  by_cases hk : k' = k
  · subst hk
    rw [if_pos rfl, ha]
    exact (hP a ha hPa).imp (fun hPfa ↦ ⟨f a, rfl, hPfa⟩) id
  · rw [if_neg hk]
    exact .inl ⟨a, ha, hPa⟩

end Stays

end Stays

/-! ## Columns that are kept -/

section KeepsColumn

variable {σ ε κ ρ ν α : Type} [DecidableEq κ] [Columns ρ] [Regions ν σ]

/-- The rows of a table persist with what they have in a column, and every new row has the same
value there. -/
structure KeepsColumn (r : Ref σ κ ρ) (g : ρ → α) (new : α) (s s' : σ) : Prop where
  kept : ∀ k a, (r.read s).find? k = some a → ∃ b, (r.read s').find? k = some b ∧ g b = g a
  came : ∀ k b, (r.read s').find? k = some b → (r.read s).find? k = none → g b = new

namespace KeepsColumn

variable {r : Ref σ κ ρ} {g : ρ → α} {new : α} {s s' : σ}

theorem of_read (h : r.read s = r.read s') : KeepsColumn r g new s s' where
  kept k a ha := ⟨a, h ▸ ha, rfl⟩
  came k b hb hnone := by
    rw [h, hb] at hnone
    cases hnone

instance : Preord (KeepsColumn r g new) where
  refl _ := of_read rfl
  trans {s t u} h h' := by
    refine ⟨fun k a ha ↦ ?_, fun k c hc hnone ↦ ?_⟩
    · obtain ⟨b, hb, hab⟩ := h.kept k a ha
      obtain ⟨c, hc, hbc⟩ := h'.kept k b hb
      exact ⟨c, hc, hbc.trans hab⟩
    · cases hb : (r.read t).find? k with
      | none => exact h'.came k c hc hb
      | some b =>
        obtain ⟨c', hc', hbc⟩ := h'.kept k b hb
        obtain rfl := Option.some.inj (hc.symm.trans hc')
        exact hbc.trans (h.came k b hb hnone)

instance [Faithful r] : Frame (KeepsColumn r g new) where
  still h := of_read (Faithful.read_same ((h r.name).2 List.not_mem_nil))

instance {n : ν} [Faithful r] [h : Beside r n] : Indifferent (KeepsColumn r g new) n where
  writes hw := of_read (Faithful.read_same ((hw r.name).2 (by simpa using h.ne)))

/-- An update keeps a column if it keeps it in the row it finds. -/
theorem of_update {k : κ} {f : ρ → ρ} {hf : ∀ a, SameFixed a (f a)}
    (hg : ∀ a, (r.read s).find? k = some a → g (f a) = g a)
    (h : (r.update k f hf : Tx σ ε Unit) s = .ok ((), s')) : KeepsColumn r g new s s' := by
  obtain rfl := Ref.update_ok.mp h
  refine ⟨fun k' a ha ↦ ?_, fun k' b hb hnone ↦ ?_⟩
  · rw [r.read_write, Table.find?_modify]
    split
    · next hk => exact ⟨f a, by rw [ha]; rfl, hg a (hk ▸ ha)⟩
    · exact ⟨a, ha, rfl⟩
  · rw [r.read_write, Table.find?_modify, hnone] at hb
    simp at hb

instance update {k : κ} {f : ρ → ρ} {hf : ∀ a, SameFixed a (f a)} [hg : Leaves g f] :
    Respects (KeepsColumn r g new) (r.update k f hf : Tx σ ε Unit) where
  rel h := of_update (fun a _ ↦ hg.same a) h

instance updateWhere {p : κ → ρ → Bool} {f : ρ → ρ} {hf : ∀ a, SameFixed a (f a)}
    [hg : Leaves g f] : Respects (KeepsColumn r g new) (r.updateWhere p f hf : Tx σ ε Unit) where
  rel {s _ s'} h := by
    obtain rfl := Ref.updateWhere_ok.mp h
    refine ⟨fun k a ha ↦ ?_, fun k b hb hnone ↦ ?_⟩
    · rw [r.read_write, Table.find?_modifyWhere, ha]
      refine ⟨_, rfl, ?_⟩
      dsimp only
      split
      · exact hg.same a
      · rfl
    · rw [r.read_write, Table.find?_modifyWhere, hnone] at hb
      cases hb

theorem insert {e : ε} {k : κ} {a : ρ} (hnew : g a = new) :
    Respects (KeepsColumn r g new) (r.insert e k a) where
  rel {s _ s'} h := by
    obtain ⟨hnone, rfl⟩ := Ref.insert_ok.mp h
    refine ⟨fun k' a' ha' ↦ ⟨a', ?_, rfl⟩, fun k' b hb hnone' ↦ ?_⟩
    · rw [r.read_write]
      exact Table.find?_insert_of_some hnone ha'
    · rw [r.read_write, Table.find?_insert hnone] at hb
      split at hb
      · obtain rfl := Option.some.inj hb
        exact hnew
      · rw [hnone'] at hb
        cases hb

/-- Every row afterwards was there before with the same value, or is new. -/
theorem origin (h : KeepsColumn r g new s s') {k : κ} {b : ρ} (hb : (r.read s').find? k = some b) :
    (∃ a, (r.read s).find? k = some a ∧ g b = g a) ∨
      (r.read s).find? k = none ∧ g b = new := by
  cases ha : (r.read s).find? k with
  | none => exact .inr ⟨rfl, h.came k b hb ha⟩
  | some a =>
    obtain ⟨b', hb', hg⟩ := h.kept k a ha
    obtain rfl := Option.some.inj (hb.symm.trans hb')
    exact .inl ⟨a, rfl, hg⟩

end KeepsColumn

end KeepsColumn

/-! ## Columns that are set -/

section SetsColumn

variable {σ ε κ ρ ν α : Type} [DecidableEq κ] [Columns ρ] [Regions ν σ]

/-- The rows of a table persist; what a new row has in a column, or one whose value there has
changed, is a value that may be set under its key. -/
structure SetsColumn (r : Ref σ κ ρ) (g : ρ → α) (P : κ → α → Prop) (s s' : σ) : Prop where
  kept : ∀ k a, (r.read s).find? k = some a →
    ∃ b, (r.read s').find? k = some b ∧ (g b = g a ∨ P k (g b))
  came : ∀ k b, (r.read s').find? k = some b → (r.read s).find? k = none → P k (g b)

namespace SetsColumn

variable {r : Ref σ κ ρ} {g : ρ → α} {P Q : κ → α → Prop} {s s' : σ}

theorem of_read (h : r.read s = r.read s') : SetsColumn r g P s s' where
  kept k a ha := ⟨a, h ▸ ha, .inl rfl⟩
  came k b hb hnone := by
    rw [h, hb] at hnone
    cases hnone

theorem mono (hPQ : ∀ k a, P k a → Q k a) (h : SetsColumn r g P s s') : SetsColumn r g Q s s' where
  kept k a ha := by
    obtain ⟨b, hb, hset⟩ := h.kept k a ha
    exact ⟨b, hb, hset.imp_right (hPQ k _)⟩
  came k b hb hnone := hPQ k _ (h.came k b hb hnone)

instance : Preord (SetsColumn r g P) where
  refl _ := of_read rfl
  trans {s t u} h h' := by
    refine ⟨fun k a ha ↦ ?_, fun k c hc hnone ↦ ?_⟩
    · obtain ⟨b, hb, hab⟩ := h.kept k a ha
      obtain ⟨c, hc, hbc⟩ := h'.kept k b hb
      refine ⟨c, hc, ?_⟩
      rcases hbc with hsame | hset
      · rw [hsame]
        exact hab
      · exact .inr hset
    · cases hb : (r.read t).find? k with
      | none => exact h'.came k c hc hb
      | some b =>
        obtain ⟨c', hc', hbc⟩ := h'.kept k b hb
        obtain rfl := Option.some.inj (hc.symm.trans hc')
        rcases hbc with hsame | hset
        · rw [hsame]
          exact h.came k b hb hnone
        · exact hset

instance [Faithful r] : Frame (SetsColumn r g P) where
  still h := of_read (Faithful.read_same ((h r.name).2 List.not_mem_nil))

instance {n : ν} [Faithful r] [h : Beside r n] : Indifferent (SetsColumn r g P) n where
  writes hw := of_read (Faithful.read_same ((hw r.name).2 (by simpa using h.ne)))

theorem update {k : κ} {f : ρ → ρ} {hf : ∀ a, SameFixed a (f a)}
    (hg : ∀ a, g (f a) = g a ∨ P k (g (f a))) :
    Respects (SetsColumn r g P) (r.update k f hf : Tx σ ε Unit) where
  rel {s _ s'} h := by
    obtain rfl := Ref.update_ok.mp h
    refine ⟨fun k' a ha ↦ ?_, fun k' b hb hnone ↦ ?_⟩
    · rw [r.read_write, Table.find?_modify]
      split
      · next hk => exact ⟨f a, by rw [ha]; rfl, hk ▸ hg a⟩
      · exact ⟨a, ha, .inl rfl⟩
    · rw [r.read_write, Table.find?_modify, hnone] at hb
      simp at hb

instance update_leaves {k : κ} {f : ρ → ρ} {hf : ∀ a, SameFixed a (f a)} [hg : Leaves g f] :
    Respects (SetsColumn r g P) (r.update k f hf : Tx σ ε Unit) :=
  update fun a ↦ .inl (hg.same a)

instance updateWhere {p : κ → ρ → Bool} {f : ρ → ρ} {hf : ∀ a, SameFixed a (f a)}
    [hg : Leaves g f] : Respects (SetsColumn r g P) (r.updateWhere p f hf : Tx σ ε Unit) where
  rel {s _ s'} h := by
    obtain rfl := Ref.updateWhere_ok.mp h
    refine ⟨fun k a ha ↦ ?_, fun k b hb hnone ↦ ?_⟩
    · rw [r.read_write, Table.find?_modifyWhere, ha]
      refine ⟨_, rfl, .inl ?_⟩
      dsimp only
      split
      · exact hg.same a
      · rfl
    · rw [r.read_write, Table.find?_modifyWhere, hnone] at hb
      cases hb

theorem insert {e : ε} {k : κ} {a : ρ} (hP : P k (g a)) :
    Respects (SetsColumn r g P) (r.insert e k a) where
  rel {s _ s'} h := by
    obtain ⟨hnone, rfl⟩ := Ref.insert_ok.mp h
    refine ⟨fun k' a' ha' ↦ ⟨a', ?_, .inl rfl⟩, fun k' b hb hnone' ↦ ?_⟩
    · rw [r.read_write]
      exact Table.find?_insert_of_some hnone ha'
    · rw [r.read_write, Table.find?_insert hnone] at hb
      split at hb
      · next hk =>
        obtain rfl := Option.some.inj hb
        exact hk ▸ hP
      · rw [hnone'] at hb
        cases hb

/-- Every row afterwards was there before, with the same value if it was not set, or is new. -/
theorem origin (h : SetsColumn r g P s s') {k : κ} {b : ρ} (hb : (r.read s').find? k = some b) :
    (∃ a, (r.read s).find? k = some a ∧ (g b = g a ∨ P k (g b))) ∨
      (r.read s).find? k = none ∧ P k (g b) := by
  cases ha : (r.read s).find? k with
  | none => exact .inr ⟨rfl, h.came k b hb ha⟩
  | some a =>
    obtain ⟨b', hb', hg⟩ := h.kept k a ha
    obtain rfl := Option.some.inj (hb.symm.trans hb')
    exact .inl ⟨a, rfl, hg⟩

end SetsColumn

end SetsColumn

end HibikiCore
