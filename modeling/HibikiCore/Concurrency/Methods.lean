import HibikiCore.Store.Machine
import HibikiCore.Store.Table

/-!
# Methods of a shared object

An object has a state and answers calls. A call is cut into the sections that no other call can
interrupt, for example what is done while a lock is held; between two sections every other thread
may take its turn, and what is not the object's to decide in a section is a choice of the
environment.

## Assertions under interference

`Meets rely guar post A c` says of a call that is about to be continued while `A` holds: each of its
sections moves the state along `guar`, and its answer satisfies `post`. The assertions between two
sections have to survive what other threads do, which is `rely`. A pool of threads whose calls all
meet such a specification keeps every assertion, so that the specification of a call holds in every
interleaving.
-/

namespace HibikiCore

/-- A call, cut into its sections; a section depends on a choice of the environment. -/
inductive Method (σ χ α : Type)
  | done (a : α)
  | act (update : χ → σ → σ) (next : χ → σ → Method σ χ α)

namespace Method

variable {σ χ α β : Type}

/-- A call of one section. -/
def atomic (f : σ → α × σ) : Method σ χ α := .act (fun _ s ↦ (f s).2) fun _ s ↦ .done (f s).1

/-- Continues a call with its answer. -/
def andThen : Method σ χ α → (α → Method σ χ β) → Method σ χ β
  | .done a, f => f a
  | .act u n, f => .act u fun x s ↦ (n x s).andThen f

instance : Monad (Method σ χ) where
  pure := .done
  bind := .andThen

/-- A call of one section, which may raise. -/
def attempt {ε : Type} (f : χ → σ → Except ε α × σ) : ExceptT ε (Method σ χ) α :=
  .mk (.act (fun x s ↦ (f x s).2) fun x s ↦ .done (f x s).1)

/-- A call of a part of a larger object. -/
def within {τ : Type} (get : τ → σ) (set : σ → τ → τ) : Method σ χ α → Method τ χ α
  | .done a => .done a
  | .act u n => .act (fun x t ↦ set (u x (get t)) t) fun x t ↦ (n x (get t)).within get set

/-- The choices of one call are among those of a larger environment. -/
def choosing {ξ : Type} (g : ξ → χ) : Method σ χ α → Method σ ξ α
  | .done a => .done a
  | .act u n => .act (fun x ↦ u (g x)) fun x s ↦ (n (g x) s).choosing g

/-- An assertion that survives the steps of others. -/
def Stable (rely : σ → σ → Prop) (A : σ → Prop) : Prop := ∀ s t, A s → rely s t → A t

/-- What a call does that is continued while an assertion holds. -/
inductive Meets (rely guar : σ → σ → Prop) (post : α → σ → Prop) :
    (σ → Prop) → Method σ χ α → Prop
  | done {A : σ → Prop} {a : α} (answer : ∀ s, A s → post a s) : Meets rely guar post A (.done a)
  | act {A : σ → Prop} {u : χ → σ → σ} {n : χ → σ → Method σ χ α} (B : χ → σ → σ → Prop)
      (moves : ∀ x s, A s → guar s (u x s)) (holds : ∀ x s, A s → B x s (u x s))
      (stable : ∀ x s, A s → Stable rely (B x s))
      (next : ∀ x s, A s → Meets rely guar post (B x s) (n x s)) : Meets rely guar post A (.act u n)

namespace Meets

variable {rely guar : σ → σ → Prop} {post : α → σ → Prop} {A A' : σ → Prop} {c : Method σ χ α}

theorem weaken (h : Meets rely guar post A c) (hA : ∀ s, A' s → A s) :
    Meets rely guar post A' c := by
  cases h with
  | done answer => exact .done fun s hs ↦ answer s (hA s hs)
  | act B moves holds stable next =>
    exact .act B (fun x s hs ↦ moves x s (hA s hs)) (fun x s hs ↦ holds x s (hA s hs))
      (fun x s hs ↦ stable x s (hA s hs)) fun x s hs ↦ next x s (hA s hs)

/-- Nothing is said of a call that cannot be reached. -/
theorem of_false (hA : ∀ s, ¬A s) : Meets rely guar post A c := by
  cases c with
  | done a => exact .done fun s hs ↦ (hA s hs).elim
  | act u n =>
    exact .act (fun _ _ _ ↦ False) (fun _ s hs ↦ (hA s hs).elim) (fun _ s hs ↦ (hA s hs).elim)
      (fun _ s hs ↦ (hA s hs).elim) fun _ s hs ↦ (hA s hs).elim

/-- A call of one section. -/
theorem atomic {f : σ → α × σ} (hguar : ∀ s, A s → guar s (f s).2)
    (hpost : ∀ s t, A s → (t = (f s).2 ∨ rely (f s).2 t) → post (f s).1 t)
    (hrely : ∀ {s t u}, rely s t → rely t u → rely s u) :
    Meets rely guar post A (Method.atomic f : Method σ χ α) := by
  refine .act (fun _ s t ↦ t = (f s).2 ∨ rely (f s).2 t) (fun _ s hs ↦ hguar s hs)
    (fun _ _ _ ↦ .inl rfl) (fun _ s _ t t' ht htt' ↦ ?_) fun _ s hs ↦ .done (hpost s · hs)
  rcases ht with rfl | ht
  · exact .inr htt'
  · exact .inr (hrely ht htt')

theorem andThen {post' : β → σ → Prop} {f : α → Method σ χ β} (h : Meets rely guar post A c)
    (hf : ∀ a, Meets rely guar post' (post a) (f a)) :
    Meets rely guar post' A (c.andThen f) := by
  induction h with
  | done answer => exact (hf _).weaken answer
  | act B moves holds stable _ ih => exact .act B moves holds stable ih

/-- A call of a part of an object, while an assertion about the rest is kept. -/
theorem within {τ : Type} {get : τ → σ} {set : σ → τ → τ} {rely' guar' : τ → τ → Prop}
    {F : τ → Prop} (hget : ∀ s t, get (set s t) = s)
    (hguar : ∀ s t, F t → guar (get t) s → guar' t (set s t) ∧ F (set s t))
    (hrely : ∀ t t', rely' t t' → rely (get t) (get t')) (hF : Stable rely' F)
    (h : Meets rely guar post A c) :
    Meets rely' guar' (fun a t ↦ F t ∧ post a (get t)) (fun t ↦ F t ∧ A (get t))
      (c.within get set) := by
  induction h with
  | done answer => exact .done fun t ht ↦ ⟨ht.1, answer _ ht.2⟩
  | @act A u n B moves holds stable _ ih =>
    refine .act (fun x t t' ↦ F t' ∧ B x (get t) (get t')) (fun x t ht ↦ ?_) (fun x t ht ↦ ?_)
      (fun x t ht t₁ t₂ h₁ h₁₂ ↦ ?_) fun x t ht ↦ ih x (get t) ht.2
    · exact (hguar _ t ht.1 (moves x _ ht.2)).1
    · rw [hget]
      exact ⟨(hguar _ t ht.1 (moves x _ ht.2)).2, holds x _ ht.2⟩
    · exact ⟨hF _ _ h₁.1 h₁₂, stable x _ ht.2 _ _ h₁.2 (hrely _ _ h₁₂)⟩

theorem choosing {ξ : Type} {g : ξ → χ} (h : Meets rely guar post A c) :
    Meets rely guar post A (c.choosing g) := by
  induction h with
  | done answer => exact .done answer
  | act B moves holds stable _ ih =>
    exact .act (fun x ↦ B (g x)) (fun x ↦ moves (g x)) (fun x ↦ holds (g x))
      (fun x ↦ stable (g x)) fun x ↦ ih (g x)

/-- The guarantee and the answer may be weakened. -/
theorem mono {guar' : σ → σ → Prop} {post' : α → σ → Prop} (h : Meets rely guar post A c)
    (hguar : ∀ s t, guar s t → guar' s t) (hpost : ∀ a s, post a s → post' a s) :
    Meets rely guar' post' A c := by
  induction h with
  | done answer => exact .done fun s hs ↦ hpost _ s (answer s hs)
  | act B moves holds stable _ ih =>
    exact .act B (fun x s hs ↦ hguar _ _ (moves x s hs)) holds stable ih

/-- What survives the sections of a call and those of others stays beside what the call does. -/
theorem frame {F : σ → Prop} (hrely : Stable rely F) (hguar : Stable guar F)
    (h : Meets rely guar post A c) :
    Meets rely guar (fun a s ↦ post a s ∧ F s) (fun s ↦ A s ∧ F s) c := by
  induction h with
  | done answer => exact .done fun s hs ↦ ⟨answer s hs.1, hs.2⟩
  | act B moves holds stable _ ih =>
    refine .act (fun x s t ↦ B x s t ∧ F t) (fun x s hs ↦ moves x s hs.1) (fun x s hs ↦ ?_)
      (fun x s hs t t' ht htt' ↦ ?_) fun x s hs ↦ ih x s hs.1
    · exact ⟨holds x s hs.1, hguar s _ hs.2 (moves x s hs.1)⟩
    · exact ⟨stable x s hs.1 t t' ht.1 htt', hrely t t' ht.2 htt'⟩

/-! ### Calls that may raise -/

section Raises

variable {ε : Type} {posts : Except ε α → σ → Prop} {posts' : Except ε β → σ → Prop}
  {m : ExceptT ε (Method σ χ) α}

theorem attempt {f : χ → σ → Except ε α × σ} (hguar : ∀ x s, A s → guar s (f x s).2)
    (hpost : ∀ x s, A s → posts (f x s).1 (f x s).2) (hstable : ∀ r, Stable rely (posts r)) :
    Meets rely guar posts A (Method.attempt f) :=
  .act (fun x s t ↦ posts (f x s).1 t) hguar hpost (fun _ _ _ ↦ hstable _)
    fun _ _ _ ↦ .done fun _ ↦ id

/-- The rest of a call is reached where its beginning does not raise. -/
theorem bind {f : α → ExceptT ε (Method σ χ) β} (h : Meets rely guar posts A m)
    (hf : ∀ a, Meets rely guar posts' (posts (.ok a)) (f a))
    (herror : ∀ e s, posts (.error e) s → posts' (.error e) s) :
    Meets rely guar posts' A (m >>= f : ExceptT ε (Method σ χ) β) := by
  refine Meets.andThen h fun r ↦ ?_
  cases r with
  | ok a => exact hf a
  | error e => exact .done (herror e)

theorem tryCatch {g : ε → ExceptT ε (Method σ χ) α} {posts₂ : Except ε α → σ → Prop}
    (h : Meets rely guar posts A m) (hok : ∀ a s, posts (.ok a) s → posts₂ (.ok a) s)
    (hg : ∀ e, Meets rely guar posts₂ (posts (.error e)) (g e)) :
    Meets rely guar posts₂ A (tryCatchThe ε m g : ExceptT ε (Method σ χ) α) := by
  refine Meets.andThen h fun r ↦ ?_
  cases r with
  | ok a => exact .done (hok a)
  | error e => exact hg e

end Raises

end Meets

/-! ### Calls that nobody interrupts -/

/-- What a call answers that nobody interrupts, what it leaves behind, and which choices of the
environment are left; there may be too few of them. -/
def alone : Method σ χ α → List χ → σ → Option (α × σ × List χ)
  | .done a, xs, s => some (a, s, xs)
  | .act _ _, [], _ => none
  | .act u n, x :: xs, s => (n x s).alone xs (u x s)

/-- A call that nobody interrupts answers. -/
def Yields (c : Method σ χ α) (xs : List χ) (s : σ) (a : α) (s' : σ) (ys : List χ) : Prop :=
  c.alone xs s = some (a, s', ys)

namespace Yields

variable {ε : Type} {c : Method σ χ α} {m : ExceptT ε (Method σ χ) α} {xs ys zs ys' : List χ}
  {s s' t t' : σ} {a a' : α} {b : β}

theorem unique (h : c.Yields xs s a t ys) (h' : c.Yields xs s a' t' ys') :
    a = a' ∧ t = t' ∧ ys = ys' := by
  have heq := Option.some.inj (h.symm.trans h')
  exact ⟨congrArg Prod.fst heq, congrArg (·.2.1) heq, congrArg (·.2.2) heq⟩

theorem done : (Method.done a : Method σ χ α).Yields xs s a' t ys ↔ a' = a ∧ t = s ∧ ys = xs := by
  simp only [Yields, alone, Option.some.injEq, Prod.mk.injEq]
  constructor <;> rintro ⟨rfl, rfl, rfl⟩ <;> exact ⟨rfl, rfl, rfl⟩

theorem andThen {f : α → Method σ χ β} :
    (c.andThen f).Yields xs s b s' zs ↔
      ∃ a t ys, c.Yields xs s a t ys ∧ (f a).Yields ys t b s' zs := by
  induction c generalizing xs s with
  | done a =>
    simp only [done, Method.andThen]
    constructor
    · exact fun h ↦ ⟨a, s, xs, ⟨rfl, rfl, rfl⟩, h⟩
    · rintro ⟨a, t, ys, ⟨rfl, rfl, rfl⟩, h⟩
      exact h
  | act u n ih =>
    cases xs with
    | nil => simp [Yields, alone, Method.andThen]
    | cons x xs => exact ih x s

section Raises

variable {r : Except ε α} {r' : Except ε β}

theorem pure : (Pure.pure a : ExceptT ε (Method σ χ) α).Yields xs s r t ys ↔
    r = .ok a ∧ t = s ∧ ys = xs := done

theorem throw {e : ε} : (throwThe ε e : ExceptT ε (Method σ χ) α).Yields xs s r t ys ↔
    r = .error e ∧ t = s ∧ ys = xs := done

theorem lift {r₀ : Except ε α} : (liftM r₀ : ExceptT ε (Method σ χ) α).Yields xs s r t ys ↔
    r = r₀ ∧ t = s ∧ ys = xs := by
  cases r₀ with
  | ok a => exact done
  | error e => exact done

theorem attempt {f : χ → σ → Except ε α × σ} :
    (Method.attempt f : ExceptT ε (Method σ χ) α).Yields xs s r t ys ↔
      ∃ x, xs = x :: ys ∧ r = (f x s).1 ∧ t = (f x s).2 := by
  cases xs with
  | nil =>
    constructor
    · exact fun h ↦ nomatch h
    · rintro ⟨x, h, -⟩
      cases h
  | cons x xs =>
    change (Method.done (f x s).1 : Method σ χ (Except ε α)).Yields xs (f x s).2 r t ys ↔ _
    rw [done]
    constructor
    · rintro ⟨rfl, rfl, rfl⟩
      exact ⟨x, rfl, rfl, rfl⟩
    · rintro ⟨x', h, rfl, rfl⟩
      obtain ⟨rfl, rfl⟩ := List.cons.inj h
      exact ⟨rfl, rfl, rfl⟩

/-- Either the beginning raises, or the rest is reached. -/
theorem bind {f : α → ExceptT ε (Method σ χ) β} :
    (m >>= f : ExceptT ε (Method σ χ) β).Yields xs s r' s' zs ↔
      (∃ e, r' = .error e ∧ Yields m xs s (.error e) s' zs) ∨
      ∃ a t ys, Yields m xs s (.ok a) t ys ∧ Yields (f a) ys t r' s' zs := by
  have hbind : (m >>= f : ExceptT ε (Method σ χ) β).Yields xs s r' s' zs ↔ _ :=
    andThen (c := m.run) (f := ExceptT.bindCont f)
  rw [hbind]
  constructor
  · rintro ⟨r, t, ys, hm, hrest⟩
    cases r with
    | ok a => exact .inr ⟨a, t, ys, hm, hrest⟩
    | error e =>
      obtain ⟨rfl, rfl, rfl⟩ := done.mp hrest
      exact .inl ⟨e, rfl, hm⟩
  · rintro (⟨e, rfl, hm⟩ | ⟨a, t, ys, hm, hrest⟩)
    · exact ⟨.error e, s', zs, hm, done.mpr ⟨rfl, rfl, rfl⟩⟩
    · exact ⟨.ok a, t, ys, hm, hrest⟩

/-- Either nothing is caught, or the handler takes over. -/
theorem tryCatch {g : ε → ExceptT ε (Method σ χ) α} :
    (tryCatchThe ε m g : ExceptT ε (Method σ χ) α).Yields xs s r s' zs ↔
      (∃ a, r = .ok a ∧ Yields m xs s (.ok a) s' zs) ∨
      ∃ e t ys, Yields m xs s (.error e) t ys ∧ Yields (g e) ys t r s' zs := by
  have hcatch : (tryCatchThe ε m g : ExceptT ε (Method σ χ) α).Yields xs s r s' zs ↔ _ :=
    andThen (c := m.run)
  rw [hcatch]
  constructor
  · rintro ⟨r₀, t, ys, hm, hrest⟩
    cases r₀ with
    | ok a =>
      obtain ⟨rfl, rfl, rfl⟩ := done.mp hrest
      exact .inl ⟨a, rfl, hm⟩
    | error e => exact .inr ⟨e, t, ys, hm, hrest⟩
  · rintro (⟨a, rfl, hm⟩ | ⟨e, t, ys, hm, hrest⟩)
    · exact ⟨.ok a, s', zs, hm, done.mpr ⟨rfl, rfl, rfl⟩⟩
    · exact ⟨.error e, t, ys, hm, hrest⟩

end Raises

end Yields

end Method

/-! ## Pools of threads -/

/-- An object: what a call of it is, and what may happen to it without a call. -/
structure Shared (σ χ δ ι α : Type) where
  init : σ
  call : ι → Method σ χ α
  drift : δ → σ → σ

/-- Something that a client of an object sees. -/
inductive Note (ι α : Type)
  | called (i : ι)
  | returned (i : ι) (a : α)
  deriving DecidableEq

/-- An object, the calls that are under way, and what its clients have seen, latest first. -/
structure Pool (σ χ ι α : Type) where
  state : σ
  pending : Table Nat (ι × Method σ χ α)
  log : List (Note ι α)

/-- A turn: a call begins, a call is continued, or the object changes by itself. -/
inductive Turn (χ δ ι : Type)
  | call (k : Nat) (i : ι)
  | run (k : Nat) (x : χ)
  | drift (d : δ)

namespace Shared

variable {σ χ δ ι α : Type}

/-- The turns that the threads of a pool take. -/
def pool (O : Shared σ χ δ ι α) : Machine (Pool σ χ ι α) (Turn χ δ ι) where
  init := { state := O.init, pending := .empty, log := [] }
  step p
    | .call k i =>
      if p.pending.find? k = none then
        some { p with pending := p.pending.insert k (i, O.call i), log := .called i :: p.log }
      else none
    | .run k x =>
      match p.pending.find? k with
      | some (i, .act u n) =>
        some { p with
          state := u x p.state, pending := p.pending.modify k fun _ ↦ (i, n x p.state) }
      | some (i, .done a) =>
        some { p with pending := p.pending.erase k, log := .returned i a :: p.log }
      | none => none
    | .drift d => some { p with state := O.drift d p.state }

/-- What the calls of an object do, which assertions they begin with, and what an answer says.
Whatever one call does in a section the other calls can rely on. -/
structure Discipline (O : Shared σ χ δ ι α) (rely : σ → σ → Prop) (guar : ι → σ → σ → Prop)
    (pre : ι → σ → Prop) (post : ι → α → σ → Prop) : Prop where
  relies : ∀ i s t, guar i s t → rely s t
  drift : ∀ d s, rely s (O.drift d s)
  stable : ∀ i, Method.Stable rely (pre i)
  meets : ∀ i, Method.Meets rely (guar i) (post i) (pre i) (O.call i)

/-- The calls that are made satisfy their preconditions. -/
def Asks (pre : ι → σ → Prop) (p : Pool σ χ ι α) : Turn χ δ ι → Prop
  | .call _ i => pre i p.state
  | _ => True

/-- What a turn does to an object and to what its clients see. -/
inductive Turned (O : Shared σ χ δ ι α) (guar : ι → σ → σ → Prop) (post : ι → α → σ → Prop)
    (p p' : Pool σ χ ι α) : Prop
  | called (i : ι) (state : p'.state = p.state) (log : p'.log = .called i :: p.log)
  | moved (i : ι) (asked : .called i ∈ p.log) (moves : guar i p.state p'.state)
      (log : p'.log = p.log)
  | returned (i : ι) (a : α) (answer : post i a p.state) (state : p'.state = p.state)
      (log : p'.log = .returned i a :: p.log)
  | drifted (d : δ) (state : p'.state = O.drift d p.state) (log : p'.log = p.log)

namespace Discipline

variable {O : Shared σ χ δ ι α} {rely : σ → σ → Prop} {guar : ι → σ → σ → Prop}
  {pre : ι → σ → Prop} {post : ι → α → σ → Prop} {p p' : Pool σ χ ι α}

/-- Each call that is under way was asked for, and can be continued as it is specified. -/
def Settled (_ : Discipline O rely guar pre post) (p : Pool σ χ ι α) : Prop :=
  ∀ k i c, p.pending.find? k = some (i, c) → .called i ∈ p.log ∧
    ∃ A, Method.Stable rely A ∧ A p.state ∧ Method.Meets rely (guar i) (post i) A c

/-- Calls that stay under way survive what others do. -/
theorem Settled.keep {D : Discipline O rely guar pre post} (h : D.Settled p)
    {s : σ} {ns : List (Note ι α)} (hrely : s = p.state ∨ rely p.state s)
    (hlog : ∀ n ∈ p.log, n ∈ ns) {k : Nat} {i : ι} {c : Method σ χ α}
    (hk : p.pending.find? k = some (i, c)) : .called i ∈ ns ∧
      ∃ A, Method.Stable rely A ∧ A s ∧ Method.Meets rely (guar i) (post i) A c := by
  obtain ⟨hasked, A, hA, hstate, hmeets⟩ := h k i c hk
  refine ⟨hlog _ hasked, A, hA, ?_, hmeets⟩
  rcases hrely with hsame | hmoved
  · rwa [hsame]
  · exact hA _ _ hstate hmoved

/-- A turn is as it is specified, and leaves the calls under way so. -/
theorem turn (D : Discipline O rely guar pre post) {l : Turn χ δ ι} (h : D.Settled p)
    (hok : Asks pre p l) (hstep : O.pool.step p l = some p') :
    Turned O guar post p p' ∧ D.Settled p' := by
  cases l with
  | call k i =>
    simp only [pool, Option.ite_none_right_eq_some, Option.some.injEq] at hstep
    obtain ⟨hfree, rfl⟩ := hstep
    refine ⟨.called i rfl rfl, fun k' i' c hk ↦ ?_⟩
    dsimp only at hk ⊢
    rw [Table.find?_insert hfree] at hk
    split at hk
    · obtain ⟨rfl, rfl⟩ := Prod.mk.inj (Option.some.inj hk)
      exact ⟨List.mem_cons_self, pre i, D.stable i, hok, D.meets i⟩
    · exact h.keep (.inl rfl) (fun _ hn ↦ List.mem_cons_of_mem _ hn) hk
  | drift d =>
    obtain rfl := Option.some.inj hstep
    exact ⟨.drifted d rfl rfl, fun _ _ _ hk ↦ h.keep (.inr (D.drift d _)) (fun _ ↦ id) hk⟩
  | run k x =>
    simp only [pool] at hstep
    split at hstep
    · next i u n hk =>
      obtain rfl := Option.some.inj hstep
      obtain ⟨hasked, A, hA, hstate, hmeets⟩ := h k i _ hk
      cases hmeets with
      | act B moves holds stable next =>
        have hmoves := moves x _ hstate
        refine ⟨.moved i hasked hmoves rfl, fun k' i' c hk' ↦ ?_⟩
        dsimp only at hk'
        rw [Table.find?_modify] at hk'
        split at hk'
        · next heq =>
          subst heq
          rw [hk, Option.map_some] at hk'
          obtain ⟨rfl, rfl⟩ := Prod.mk.inj (Option.some.inj hk')
          exact ⟨hasked, _, stable x _ hstate, holds x _ hstate, next x _ hstate⟩
        · exact h.keep (.inr (D.relies i _ _ hmoves)) (fun _ ↦ id) hk'
    · next i a hk =>
      obtain rfl := Option.some.inj hstep
      obtain ⟨hasked, A, hA, hstate, hmeets⟩ := h k i _ hk
      cases hmeets with
      | done answer =>
        refine ⟨.returned i a (answer _ hstate) rfl rfl, fun k' i' c hk' ↦ ?_⟩
        dsimp only at hk'
        rw [Table.find?_erase] at hk'
        split at hk'
        · cases hk'
        · exact h.keep (.inl rfl) (fun _ hn ↦ List.mem_cons_of_mem _ hn) hk'
    · cases hstep

theorem settled (D : Discipline O rely guar pre post) (h : O.pool.ReachableBy (Asks pre) p) :
    D.Settled p := by
  refine Machine.Run.induct h (fun _ _ _ hk ↦ nomatch hk) fun t l u hs hok hstep ↦ ?_
  exact (D.turn hs hok hstep).2

/-- What every turn that is as specified keeps is kept by every run. -/
theorem invariant (D : Discipline O rely guar pre post) {P : Pool σ χ ι α → Prop}
    (hP : ∀ p p', P p → Turned O guar post p p' → P p') {q : Pool σ χ ι α}
    (hreach : O.pool.ReachableBy (Asks pre) p) (hp : P p) (hrun : O.pool.Run (Asks pre) p q) :
    P q := by
  have hboth : D.Settled q ∧ P q :=
    hrun.induct (P := fun q ↦ D.Settled q ∧ P q) ⟨D.settled hreach, hp⟩
      fun t l u ht hok hstep ↦
        ⟨(D.turn ht.1 hok hstep).2, hP t u ht.2 (D.turn ht.1 hok hstep).1⟩
  exact hboth.2

end Discipline

end Shared

end HibikiCore
