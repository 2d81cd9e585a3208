import Mathlib.Init

/-!
# Labelled machines

A machine has an initial state and a step for each label, which may not be enabled. A run is a
path of steps; a property of steps may be asked of all of them, so that a statement about the runs
that avoid a certain step is a statement about runs as well.
-/

namespace HibikiCore

/-- A deterministic machine: all choices are in the labels. -/
structure Machine (σ ι : Type) where
  init : σ
  step : σ → ι → Option σ

namespace Machine

variable {σ ι : Type} (M : Machine σ ι)

/-- The runs from a state whose steps all satisfy a condition. -/
inductive Run (ok : σ → ι → Prop) (s : σ) : σ → Prop
  | refl : Run ok s s
  | step {t u : σ} {l : ι} : Run ok s t → ok t l → M.step t l = some u → Run ok s u

/-- What some run leads to. -/
def Reachable (s : σ) : Prop := M.Run (fun _ _ ↦ True) M.init s

/-- What some run leads to whose steps all satisfy a condition. -/
def ReachableBy (ok : σ → ι → Prop) (s : σ) : Prop := M.Run ok M.init s

variable {M} {ok ok' : σ → ι → Prop} {s t u : σ}

theorem Run.trans (h : M.Run ok s t) (h' : M.Run ok t u) : M.Run ok s u := by
  induction h' with
  | refl => exact h
  | step _ hok hstep ih => exact ih.step hok hstep

theorem Run.mono (himp : ∀ s l, ok s l → ok' s l) (h : M.Run ok s t) : M.Run ok' s t := by
  induction h with
  | refl => exact .refl
  | step _ hok hstep ih => exact ih.step (himp _ _ hok) hstep

/-- Takes the steps of a list of labels, as long as they are enabled. -/
def exec (M : Machine σ ι) (s : σ) : List ι → Option σ
  | [] => some s
  | l :: ls => (M.step s l).bind fun t ↦ M.exec t ls

/-- A list of labels that is enabled is a run. -/
theorem Run.of_exec_ok {ls : List ι} (hok : ∀ l ∈ ls, ∀ u, ok u l)
    (h : M.exec s ls = some t) : M.Run ok s t := by
  induction ls generalizing s with
  | nil =>
    obtain rfl := Option.some.inj h
    exact .refl
  | cons l ls ih =>
    obtain ⟨u, hstep, hrest⟩ := Option.bind_eq_some_iff.mp h
    have hfirst : M.Run ok s u := Run.refl.step (hok l List.mem_cons_self s) hstep
    exact hfirst.trans (ih (fun l hl ↦ hok l (List.mem_cons_of_mem _ hl)) hrest)

theorem Run.of_exec {ls : List ι} (h : M.exec s ls = some t) :
    M.Run (fun _ _ ↦ True) s t :=
  .of_exec_ok (fun _ _ _ ↦ trivial) h

/-- What a run makes true, one of its steps makes true. -/
theorem Run.turn {P : σ → Prop} (h : M.Run ok s t) (hs : ¬P s) (ht : P t) :
    ∃ u l v, M.Run ok s u ∧ M.step u l = some v ∧ ¬P u ∧ P v ∧ M.Run ok v t := by
  induction h with
  | refl => exact absurd ht hs
  | @step t' t l hrun hok hstep ih =>
    by_cases ht' : P t'
    · obtain ⟨u, l', v, hu, hstep', hnot, hv, hrest⟩ := ih ht'
      exact ⟨u, l', v, hu, hstep', hnot, hv, hrest.step hok hstep⟩
    · exact ⟨t', l, t, hrun, hstep, ht', ht, .refl⟩

/-- What every step keeps is kept by every run. -/
theorem Run.induct {P : σ → Prop} (h : M.Run ok s t) (hs : P s)
    (hP : ∀ t l u, P t → ok t l → M.step t l = some u → P u) : P t := by
  induction h with
  | refl => exact hs
  | step _ hok hstep ih => exact hP _ _ _ ih hok hstep

/-- An invariant: it holds at first, and every step keeps it. -/
structure Invariant (M : Machine σ ι) (ok : σ → ι → Prop) (P : σ → Prop) : Prop where
  init : P M.init
  step : ∀ s l t, P s → ok s l → M.step s l = some t → P t

theorem Invariant.of_reachable {P : σ → Prop} (hP : M.Invariant ok P)
    (h : M.ReachableBy ok s) : P s :=
  h.induct hP.init hP.step

/-- An invariant may be shown with the help of another. -/
theorem Invariant.strengthen {P Q : σ → Prop} (hP : M.Invariant ok P) (hinit : Q M.init)
    (hstep : ∀ s l t, P s → P t → Q s → ok s l → M.step s l = some t → Q t) :
    M.Invariant ok fun s ↦ P s ∧ Q s where
  init := ⟨hP.init, hinit⟩
  step s l t h hok hst :=
    have ht := hP.step s l t h.1 hok hst
    ⟨ht, hstep s l t h.1 ht h.2 hok hst⟩

end Machine

end HibikiCore
