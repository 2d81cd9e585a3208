import HibikiCore.Concurrency.Methods

/-!
# An activity and what others do

A thread runs one call of an object, section by section. Between two sections others change the
object. What the thread's sections and the steps of others keep, every interleaving keeps.

## Logs

An object may note what is done to it. `Extends follows` grows a log by entries each of which may
follow what is below it, so that a log that began empty is `Orderly` at any time: whatever it holds,
it came in an order that the rule allows.
-/

namespace HibikiCore

/-! ## Logs -/

section Logs

variable {δ : Type} {follows : δ → List δ → Prop} {log log' log'' : List δ} {d : δ}

/-- A log, latest first, each of whose entries may follow what is below it. -/
inductive Orderly (follows : δ → List δ → Prop) : List δ → Prop
  | nil : Orderly follows []
  | cons {d : δ} {log : List δ} (entry : follows d log) (rest : Orderly follows log) :
      Orderly follows (d :: log)

theorem Orderly.tail (h : Orderly follows (d :: log)) : Orderly follows log := by
  cases h with
  | cons _ rest => exact rest

theorem Orderly.head (h : Orderly follows (d :: log)) : follows d log := by
  cases h with
  | cons entry _ => exact entry

/-- What an entry was added to. -/
theorem Orderly.split (h : Orderly follows (log' ++ d :: log)) :
    follows d log ∧ Orderly follows log := by
  induction log' with
  | nil => exact ⟨h.head, h.tail⟩
  | cons _ log' ih => exact ih h.tail

/-- A log grows by entries that may follow. -/
inductive Extends (follows : δ → List δ → Prop) (log : List δ) : List δ → Prop
  | refl : Extends follows log log
  | cons {d : δ} {log' : List δ} (entry : follows d log') (rest : Extends follows log log') :
      Extends follows log (d :: log')

theorem Extends.single (h : follows d log) : Extends follows log (d :: log) := .cons h .refl

theorem Extends.trans (h : Extends follows log log') (h' : Extends follows log' log'') :
    Extends follows log log'' := by
  induction h' with
  | refl => exact h
  | cons entry _ ih => exact .cons entry ih

theorem Extends.orderly (h : Extends follows log log') (hlog : Orderly follows log) :
    Orderly follows log' := by
  induction h with
  | refl => exact hlog
  | cons entry _ ih => exact .cons entry ih

theorem Extends.suffix (h : Extends follows log log') : log <:+ log' := by
  induction h with
  | refl => exact List.suffix_rfl
  | cons _ _ ih => exact ih.trans (List.suffix_cons _ _)

end Logs

/-! ## Sections that answer -/

namespace Method

variable {σ χ α β ε : Type} {rely guar : σ → σ → Prop} {A : σ → Prop}

/-- The assertion behind a section, and what the section does, are shown together. -/
theorem Meets.section {posts : Except ε α → σ → Prop} {f : χ → σ → Except ε α × σ}
    (h : ∀ x s, A s → guar s (f x s).2 ∧ posts (f x s).1 (f x s).2)
    (hstable : ∀ r, Stable rely (posts r)) : Meets rely guar posts A (Method.attempt f) :=
  .attempt (fun x s hs ↦ (h x s hs).1) (fun x s hs ↦ (h x s hs).2) hstable

/-- A call that does nothing. -/
theorem Meets.pure {posts : Except ε α → σ → Prop} {a : α} (h : ∀ s, A s → posts (.ok a) s) :
    Meets rely guar posts A (Pure.pure a : ExceptT ε (Method σ χ) α) := .done h

end Method

/-! ## Activities -/

/-- An object, the call that a thread runs on it, and what others may do in between. -/
structure Activity (σ χ δ α : Type) where
  init : σ
  body : Method σ χ α
  others : δ → σ → σ

namespace Activity

variable {σ χ δ α : Type}

/-- The object, and what is left of the call. -/
abbrev Moment (σ χ α : Type) := σ × Method σ χ α

/-- A turn is the thread's, with a choice of the environment, or another's. -/
def machine (T : Activity σ χ δ α) : Machine (Moment σ χ α) (χ ⊕ δ) where
  init := (T.init, T.body)
  step
    | (s, .act u n), .inl x => some (u x s, n x s)
    | (_, .done _), .inl _ => none
    | (s, c), .inr d => some (T.others d s, c)

variable {T : Activity σ χ δ α} {rely guar : σ → σ → Prop} {pre : σ → Prop} {post : α → σ → Prop}

/-- The call meets its specification, and others do what it relies on. -/
structure Guarded (T : Activity σ χ δ α) (rely guar : σ → σ → Prop) (pre : σ → Prop)
    (post : α → σ → Prop) : Prop where
  init : pre T.init
  stable : Method.Stable rely pre
  others : ∀ d s, rely s (T.others d s)
  meets : Method.Meets rely guar post pre T.body

/-- What is left of a call goes on as it is specified. -/
def Goes (rely guar : σ → σ → Prop) (post : α → σ → Prop) (m : Moment σ χ α) : Prop :=
  ∃ A, Method.Stable rely A ∧ A m.1 ∧ Method.Meets rely guar post A m.2

theorem Guarded.goes_init (h : T.Guarded rely guar pre post) : Goes rely guar post T.machine.init :=
  ⟨pre, h.stable, h.init, h.meets⟩

/-- A turn moves the object as the thread guarantees, or as it relies on, and the call goes on. -/
theorem Guarded.turn (h : T.Guarded rely guar pre post) {m m' : Moment σ χ α} {l : χ ⊕ δ}
    (hgoes : Goes rely guar post m) (hstep : T.machine.step m l = some m') :
    (guar m.1 m'.1 ∨ rely m.1 m'.1) ∧ Goes rely guar post m' := by
  obtain ⟨A, hA, hstate, hmeets⟩ := hgoes
  obtain ⟨s, c⟩ := m
  cases l with
  | inr d =>
    have hrely := h.others d s
    cases c <;>
    · obtain rfl := Option.some.inj hstep
      exact ⟨.inr hrely, A, hA, hA _ _ hstate hrely, hmeets⟩
  | inl x =>
    cases hmeets with
    | done answer => cases hstep
    | act B moves holds stable next =>
      obtain rfl := Option.some.inj hstep
      exact ⟨.inl (moves x s hstate), _, stable x s hstate, holds x s hstate, next x s hstate⟩

/-- What the sections of the thread and the steps of others keep holds at every moment. -/
theorem Guarded.invariant (h : T.Guarded rely guar pre post) {P : σ → Prop} (hinit : P T.init)
    (hguar : ∀ s t, P s → guar s t → P t) (hrely : ∀ s t, P s → rely s t → P t) :
    T.machine.Invariant (fun _ _ ↦ True) fun m ↦ P m.1 ∧ Goes rely guar post m where
  init := ⟨hinit, h.goes_init⟩
  step m l m' hm _ hstep := by
    obtain ⟨hmoves, hgoes⟩ := h.turn hm.2 hstep
    refine ⟨?_, hgoes⟩
    rcases hmoves with hguar' | hrely'
    · exact hguar _ _ hm.1 hguar'
    · exact hrely _ _ hm.1 hrely'

/-- When the call has ended, what it answers is as specified. -/
theorem Goes.answer {s : σ} {a : α} (h : Goes rely guar post (s, (.done a : Method σ χ α))) :
    post a s := by
  obtain ⟨A, -, hstate, hmeets⟩ := h
  cases hmeets with
  | done answer => exact answer s hstate

end Activity

end HibikiCore
