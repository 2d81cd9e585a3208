import HibikiCore.Store.Table

/-!
# Transactions over a store

A transaction is a state transformer that may refuse. A refusal carries no state, so that whoever
runs the transaction keeps the state from before it: rolling back is not an operation here, it is
the absence of a result.

## Reading a successful run backwards

Each combinator has one lemma, named `…_ok`, that says what a successful run of it was. Together
they form a simp set that takes a run of a transaction apart into the guards that passed and the
writes that happened, in order.

## Relations that every run respects

`Respects R m` says that each successful run of `m` moves the state along `R`. It is a class: the
instances follow the combinators, so that for a transaction written with them the property is
found by its syntax, and only the writes themselves need an argument.
-/

namespace HibikiCore

/-- A transaction on a store `σ`: a result and a new state, or a refusal. -/
abbrev Tx (σ ε α : Type) := StateT σ (Except ε) α

namespace Tx

variable {σ ε α β : Type}

/-! ## Combinators -/

/-- The value of an option, or a refusal. -/
def require (o : Option α) (e : ε) : Tx σ ε α :=
  match o with
  | some a => pure a
  | none => throw e

/-- The result of a computation that may fail, or a refusal. -/
def lift : Except ε α → Tx σ ε α
  | .ok a => pure a
  | .error e => throw e

/-- Runs a transaction, its refusals rewritten. -/
def mapError (f : ε → ε) (m : Tx σ ε α) : Tx σ ε α := fun s ↦ (m s).mapError f

/-- Refuses unless a condition holds. -/
def check (c : Prop) [Decidable c] (e : ε) : Tx σ ε Unit := if c then pure () else throw e

/-- Runs a transaction when a condition holds. -/
def when (c : Prop) [Decidable c] (m : Tx σ ε Unit) : Tx σ ε Unit := if c then m else pure ()

/-- Runs a transaction on the value of an option, if there is one. -/
def withSome (o : Option α) (f : α → Tx σ ε Unit) : Tx σ ε Unit :=
  match o with
  | some a => f a
  | none => pure ()

/-- Runs a transaction for every element of a list, in order. -/
def each : List α → (α → Tx σ ε Unit) → Tx σ ε Unit
  | [], _ => pure ()
  | a :: l, f => do f a; each l f

/-- Runs a transaction for every element of a list, in order, handing a value along. -/
def fold (f : β → α → Tx σ ε β) : β → List α → Tx σ ε β
  | b, [] => pure b
  | b, a :: l => do fold f (← f b a) l

/-! ## What a successful run was -/

@[simp] theorem pure_ok {a b : α} {s s' : σ} :
    (pure a : Tx σ ε α) s = .ok (b, s') ↔ b = a ∧ s' = s := by
  constructor
  · intro h
    cases h
    exact ⟨rfl, rfl⟩
  · rintro ⟨rfl, rfl⟩
    rfl

@[simp] theorem throw_ok {e : ε} {b : α} {s s' : σ} :
    (throw e : Tx σ ε α) s = .ok (b, s') ↔ False := by
  constructor
  · intro h
    cases h
  · exact False.elim

@[simp] theorem bind_ok {m : Tx σ ε α} {f : α → Tx σ ε β} {b : β} {s s' : σ} :
    (m >>= f) s = .ok (b, s') ↔ ∃ a s₁, m s = .ok (a, s₁) ∧ f a s₁ = .ok (b, s') := by
  change (m s >>= fun p ↦ f p.1 p.2) = .ok (b, s') ↔ _
  cases hm : m s with
  | error e => simp [Bind.bind, Except.bind]
  | ok p => simp [Bind.bind, Except.bind, Prod.ext_iff]

@[simp] theorem map_ok {m : Tx σ ε α} {f : α → β} {b : β} {s s' : σ} :
    (f <$> m) s = .ok (b, s') ↔ ∃ a, m s = .ok (a, s') ∧ b = f a := by
  rw [← bind_pure_comp, bind_ok]
  constructor
  · rintro ⟨a, s₁, hm, hf⟩
    obtain ⟨rfl, rfl⟩ := pure_ok.mp hf
    exact ⟨a, hm, rfl⟩
  · rintro ⟨a, hm, rfl⟩
    exact ⟨a, s', hm, pure_ok.mpr ⟨rfl, rfl⟩⟩

@[simp] theorem get_ok {a s s' : σ} :
    (get : Tx σ ε σ) s = .ok (a, s') ↔ a = s ∧ s' = s := by
  constructor
  · intro h
    cases h
    exact ⟨rfl, rfl⟩
  · rintro ⟨rfl, rfl⟩
    rfl

@[simp] theorem get_bind_ok {f : σ → Tx σ ε β} {b : β} {s s' : σ} :
    ((get : Tx σ ε σ) >>= f) s = .ok (b, s') ↔ f s s = .ok (b, s') := Iff.rfl

@[simp] theorem modify_ok {f : σ → σ} {u : Unit} {s s' : σ} :
    (modify f : Tx σ ε Unit) s = .ok (u, s') ↔ s' = f s := by
  constructor
  · intro h
    cases h
    rfl
  · rintro rfl
    rfl

@[simp] theorem require_ok {o : Option α} {e : ε} {a : α} {s s' : σ} :
    (require o e : Tx σ ε α) s = .ok (a, s') ↔ o = some a ∧ s' = s := by
  cases o with
  | none => simp [require]
  | some b =>
    rw [require, Option.some_inj, @eq_comm _ b a]
    exact pure_ok

@[simp] theorem lift_ok {x : Except ε α} {a : α} {s s' : σ} :
    (lift x : Tx σ ε α) s = .ok (a, s') ↔ x = .ok a ∧ s' = s := by
  cases x with
  | error e => simp [lift]
  | ok b =>
    rw [lift, Except.ok.injEq, @eq_comm _ b a]
    exact pure_ok

@[simp] theorem mapError_ok {f : ε → ε} {m : Tx σ ε α} {a : α} {s s' : σ} :
    (mapError f m) s = .ok (a, s') ↔ m s = .ok (a, s') := by
  rw [mapError]
  cases m s <;> simp [Except.mapError]

@[simp] theorem check_ok {c : Prop} [Decidable c] {e : ε} {u : Unit} {s s' : σ} :
    (check c e : Tx σ ε Unit) s = .ok (u, s') ↔ c ∧ s' = s := by
  by_cases hc : c <;> simp [check, hc]

@[simp] theorem ite_ok {c : Prop} [Decidable c] {m n : Tx σ ε α} {a : α} {s s' : σ} :
    (if c then m else n) s = .ok (a, s') ↔
      (c ∧ m s = .ok (a, s')) ∨ (¬c ∧ n s = .ok (a, s')) := by
  by_cases hc : c <;> simp [hc]

@[simp] theorem when_ok {c : Prop} [Decidable c] {m : Tx σ ε Unit} {u : Unit} {s s' : σ} :
    (when c m) s = .ok (u, s') ↔ (c ∧ m s = .ok (u, s')) ∨ (¬c ∧ s' = s) := by
  by_cases hc : c <;> simp [when, hc]

@[simp] theorem withSome_none {f : α → Tx σ ε Unit} :
    withSome (none : Option α) f = pure () := rfl

@[simp] theorem withSome_some {f : α → Tx σ ε Unit} {a : α} : withSome (some a) f = f a := rfl

theorem withSome_ok {o : Option α} {f : α → Tx σ ε Unit} {u : Unit} {s s' : σ} :
    (withSome o f) s = .ok (u, s') ↔
      (∃ a, o = some a ∧ f a s = .ok (u, s')) ∨ (o = none ∧ s' = s) := by
  cases o <;> simp

@[simp] theorem each_nil {f : α → Tx σ ε Unit} : each [] f = pure () := rfl

@[simp] theorem each_cons {f : α → Tx σ ε Unit} {a : α} {l : List α} :
    each (a :: l) f = (do f a; each l f) := rfl

@[simp] theorem fold_nil {f : β → α → Tx σ ε β} {b : β} : fold f b [] = pure b := rfl

@[simp] theorem fold_cons {f : β → α → Tx σ ε β} {b : β} {a : α} {l : List α} :
    fold f b (a :: l) = (do fold f (← f b a) l) := rfl

/-- An invariant of one round of a loop is an invariant of the loop. -/
theorem each_induct {P : σ → Prop} {f : α → Tx σ ε Unit} {l : List α}
    (hf : ∀ a ∈ l, ∀ s s', P s → f a s = .ok ((), s') → P s') {s s' : σ} (hs : P s)
    (h : each l f s = .ok ((), s')) : P s' := by
  induction l generalizing s with
  | nil =>
    obtain ⟨-, rfl⟩ := pure_ok.mp h
    exact hs
  | cons a l ih =>
    obtain ⟨⟨⟩, s₁, ha, hl⟩ := bind_ok.mp h
    exact ih (fun b hb ↦ hf b (List.mem_cons_of_mem a hb)) (hf a List.mem_cons_self s s₁ hs ha) hl

/-- What one round establishes and every later round keeps holds after the loop. -/
theorem each_mem {I P : σ → Prop} {f : α → Tx σ ε Unit} {l : List α} {a : α} (ha : a ∈ l)
    (hI : ∀ b ∈ l, ∀ s s', I s → f b s = .ok ((), s') → I s')
    (hP : ∀ s s', I s → f a s = .ok ((), s') → P s')
    (hkeep : ∀ b ∈ l, ∀ s s', I s → P s → f b s = .ok ((), s') → P s') {s s' : σ} (hs : I s)
    (h : each l f s = .ok ((), s')) : P s' := by
  induction l generalizing s with
  | nil => cases ha
  | cons b l ih =>
    obtain ⟨⟨⟩, s₁, hb, hl⟩ := bind_ok.mp h
    have hI₁ := hI b List.mem_cons_self s s₁ hs hb
    have hI' := fun c hc ↦ hI c (List.mem_cons_of_mem b hc)
    have hkeep' := fun c hc ↦ hkeep c (List.mem_cons_of_mem b hc)
    rcases List.mem_cons.mp ha with rfl | ha
    · have hboth := each_induct (P := fun t ↦ I t ∧ P t)
        (fun c hc t t' ht hf ↦ ⟨hI' c hc t t' ht.1 hf, hkeep' c hc t t' ht.1 ht.2 hf⟩)
        ⟨hI₁, hP s s₁ hs hb⟩ hl
      exact hboth.2
    · exact ih ha hI' hkeep' hI₁ hl

/-- A loop over different keys: each round finds its own key as it was, as long as the rounds leave
each other's keys alone. -/
theorem each_keys {κ : Type} {P : σ → Prop} {H : σ → κ → Prop} {f : κ → Tx σ ε Unit}
    {l : List κ} (hl : l.Nodup)
    (hf : ∀ k ∈ l, ∀ s s', P s → H s k → f k s = .ok ((), s') →
      P s' ∧ ∀ k', k' ≠ k → H s k' → H s' k')
    {s s' : σ} (hs : P s) (hkeys : ∀ k ∈ l, H s k) (h : each l f s = .ok ((), s')) : P s' := by
  induction l generalizing s with
  | nil =>
    obtain ⟨-, rfl⟩ := pure_ok.mp h
    exact hs
  | cons k l ih =>
    obtain ⟨⟨⟩, s₁, hk, hrest⟩ := bind_ok.mp h
    rw [List.nodup_cons] at hl
    obtain ⟨hP, hkeep⟩ := hf k List.mem_cons_self s s₁ hs (hkeys k List.mem_cons_self) hk
    refine ih hl.2 (fun k' hk' ↦ hf k' (List.mem_cons_of_mem k hk')) hP (fun k' hk' ↦ ?_) hrest
    refine hkeep k' (fun heq ↦ hl.1 ?_) (hkeys k' (List.mem_cons_of_mem k hk'))
    exact heq ▸ hk'

/-- An invariant of the value and the state is one of a loop that hands the value along. -/
theorem fold_invariant {P : β → σ → Prop} {f : β → α → Tx σ ε β} {l : List α}
    (hf : ∀ a ∈ l, ∀ b b' s s', P b s → f b a s = .ok (b', s') → P b' s') {b b' : β} {s s' : σ}
    (hs : P b s) (h : fold f b l s = .ok (b', s')) : P b' s' := by
  induction l generalizing b s with
  | nil =>
    obtain ⟨rfl, rfl⟩ := pure_ok.mp h
    exact hs
  | cons a l ih =>
    obtain ⟨b₁, s₁, ha, hl⟩ := bind_ok.mp h
    refine ih (fun c hc ↦ hf c (List.mem_cons_of_mem a hc)) ?_ hl
    exact hf a List.mem_cons_self b b₁ s s₁ hs ha

/-- An invariant of one round of a loop that hands a value along is an invariant of the loop. -/
theorem fold_induct {P : σ → Prop} {f : β → α → Tx σ ε β} {l : List α}
    (hf : ∀ a ∈ l, ∀ b b' s s', P s → f b a s = .ok (b', s') → P s') {b b' : β} {s s' : σ}
    (hs : P s) (h : fold f b l s = .ok (b', s')) : P s' :=
  fold_invariant (P := fun _ ↦ P) hf hs h

/-- What one round establishes and every later round keeps holds after a loop that hands a value
along. -/
theorem fold_mem {I P : σ → Prop} {f : β → α → Tx σ ε β} {l : List α} {a : α} (ha : a ∈ l)
    (hI : ∀ c ∈ l, ∀ b b' s s', I s → f b c s = .ok (b', s') → I s')
    (hP : ∀ b b' s s', I s → f b a s = .ok (b', s') → P s')
    (hkeep : ∀ c ∈ l, ∀ b b' s s', I s → P s → f b c s = .ok (b', s') → P s') {b b' : β}
    {s s' : σ} (hs : I s) (h : fold f b l s = .ok (b', s')) : P s' := by
  induction l generalizing b s with
  | nil => cases ha
  | cons c l ih =>
    obtain ⟨b₁, s₁, hc, hl⟩ := bind_ok.mp h
    have hI₁ := hI c List.mem_cons_self b b₁ s s₁ hs hc
    have hI' := fun d hd ↦ hI d (List.mem_cons_of_mem c hd)
    have hkeep' := fun d hd ↦ hkeep d (List.mem_cons_of_mem c hd)
    rcases List.mem_cons.mp ha with rfl | ha
    · have hboth := fold_induct (P := fun t ↦ I t ∧ P t)
        (fun d hd b b' t t' ht hf ↦
          ⟨hI' d hd b b' t t' ht.1 hf, hkeep' d hd b b' t t' ht.1 ht.2 hf⟩)
        ⟨hI₁, hP b b₁ s s₁ hs hc⟩ hl
      exact hboth.2
    · exact ih ha hI' hkeep' hI₁ hl

/-- A round of a loop that hands a value along, in the middle of the loop. -/
structure Round (f : β → α → Tx σ ε β) (l : List α) (b : β) (s : σ) (a : α) (c c' : β) (t t' : σ) :
    Prop where
  before : ∃ pre post, l = pre ++ a :: post ∧ fold f b pre s = .ok (c, t)
  round : f c a t = .ok (c', t')

theorem Round.mem {f : β → α → Tx σ ε β} {l : List α} {b c c' : β} {s t t' : σ} {a : α}
    (h : Round f l b s a c c' t t') : a ∈ l := by
  obtain ⟨pre, post, rfl, -⟩ := h.before
  exact List.mem_append_right pre List.mem_cons_self

/-- What comes to hold in a loop comes to hold in one of its rounds. -/
theorem fold_round {Q : σ → Prop} {f : β → α → Tx σ ε β} {l : List α} {b b' : β} {s s' : σ}
    (h : fold f b l s = .ok (b', s')) (hs : ¬Q s) (hs' : Q s') :
    ∃ a c c' t t', Round f l b s a c c' t t' ∧ (∃ post, fold f c' post t' = .ok (b', s') ∧
      ∀ d ∈ post, d ∈ l) ∧ ¬Q t ∧ Q t' := by
  induction l generalizing b s with
  | nil =>
    obtain ⟨-, rfl⟩ := pure_ok.mp h
    exact absurd hs' hs
  | cons a l ih =>
    obtain ⟨b₁, s₁, ha, hl⟩ := bind_ok.mp h
    by_cases hQ : Q s₁
    · exact ⟨a, b, b₁, s, s₁, ⟨⟨[], l, rfl, pure_ok.mpr ⟨rfl, rfl⟩⟩, ha⟩,
        ⟨l, hl, fun _ ↦ List.mem_cons_of_mem a⟩, hs, hQ⟩
    · obtain ⟨d, c, c', t, t', ⟨⟨pre, post, rfl, hpre⟩, hround⟩, ⟨rest, hrest, hmem⟩, ht, ht'⟩ :=
        ih hl hQ
      refine ⟨d, c, c', t, t', ⟨⟨a :: pre, post, rfl, ?_⟩, hround⟩,
        ⟨rest, hrest, fun e he ↦ List.mem_cons_of_mem a (hmem e he)⟩, ht, ht'⟩
      exact bind_ok.mpr ⟨b₁, s₁, ha, hpre⟩

/-- A loop over rows that were read before it: each round finds its own row as it was read, as long
as the rounds leave each other's rows alone. -/
theorem fold_rows {κ ρ : Type} {P : σ → Prop} {H : σ → κ × ρ → Prop}
    {f : β → κ × ρ → Tx σ ε β} {l : List (κ × ρ)} (hl : (l.map Prod.fst).Nodup)
    (hf : ∀ r ∈ l, ∀ b b' s s', P s → H s r → f b r s = .ok (b', s') →
      P s' ∧ ∀ r', r'.1 ≠ r.1 → H s r' → H s' r')
    {b b' : β} {s s' : σ} (hs : P s) (hrows : ∀ r ∈ l, H s r)
    (h : fold f b l s = .ok (b', s')) : P s' := by
  induction l generalizing b s with
  | nil =>
    obtain ⟨-, rfl⟩ := pure_ok.mp h
    exact hs
  | cons r l ih =>
    obtain ⟨b₁, s₁, hr, hrest⟩ := bind_ok.mp h
    rw [List.map_cons, List.nodup_cons] at hl
    obtain ⟨hP, hkeep⟩ := hf r List.mem_cons_self b b₁ s s₁ hs (hrows r List.mem_cons_self) hr
    refine ih hl.2 (fun r' hr' ↦ hf r' (List.mem_cons_of_mem r hr')) hP (fun r' hr' ↦ ?_) hrest
    refine hkeep r' (fun heq ↦ hl.1 ?_) (hrows r' (List.mem_cons_of_mem r hr'))
    exact List.mem_map.mpr ⟨r', hr', heq⟩

/-! ## Transactions that succeed -/

/-- A transaction succeeds on a store, and its result is of a kind. -/
def Yields (m : Tx σ ε α) (s : σ) (P : α → Prop) : Prop := ∃ a s', m s = .ok (a, s') ∧ P a

namespace Yields

variable {m : Tx σ ε α} {f : α → Tx σ ε β} {s s₁ : σ} {P : α → Prop} {Q : β → Prop} {a : α}

theorem pure (h : P a) : (Pure.pure a : Tx σ ε α).Yields s P := ⟨a, s, pure_ok.mpr ⟨rfl, rfl⟩, h⟩

theorem of_ok (hm : m s = .ok (a, s₁)) : m.Yields s fun _ ↦ True := ⟨a, s₁, hm, trivial⟩

/-- After a first part whose result is known. -/
theorem bind (hm : m s = .ok (a, s₁)) (hf : (f a).Yields s₁ Q) : (m >>= f).Yields s Q := by
  obtain ⟨b, s₂, hf, hb⟩ := hf
  exact ⟨b, s₂, bind_ok.mpr ⟨a, s₁, hm, hf⟩, hb⟩

/-- After a first part that succeeds in whatever way. -/
theorem seq (hm : m.Yields s P) (hf : ∀ a s₁, m s = .ok (a, s₁) → P a → (f a).Yields s₁ Q) :
    (m >>= f).Yields s Q := by
  obtain ⟨a, s₁, hm, ha⟩ := hm
  exact bind hm (hf a s₁ hm ha)

theorem when {c : Prop} [Decidable c] {m : Tx σ ε Unit} (h : c → m.Yields s fun _ ↦ True) :
    (Tx.when c m).Yields s fun _ ↦ True := by
  by_cases hc : c
  · rw [Tx.when, if_pos hc]
    exact h hc
  · rw [Tx.when, if_neg hc]
    exact pure trivial

theorem withSome {o : Option α} {f : α → Tx σ ε Unit}
    (h : ∀ a, o = some a → (f a).Yields s fun _ ↦ True) :
    (Tx.withSome o f).Yields s fun _ ↦ True := by
  cases o with
  | none => exact pure trivial
  | some a => exact h a rfl

/-- A loop of which no round fails, as long as every round leaves the next ones what they need. -/
theorem each_of {I : σ → Prop} {l : List α} {f : α → Tx σ ε Unit}
    (hround : ∀ a ∈ l, ∀ s, I s → (f a).Yields s fun _ ↦ True)
    (hkeep : ∀ a ∈ l, ∀ s s', I s → f a s = .ok ((), s') → I s') (hs : I s) :
    (Tx.each l f).Yields s fun _ ↦ True := by
  induction l generalizing s with
  | nil => exact pure trivial
  | cons a l ih =>
    refine seq (hround a List.mem_cons_self s hs) fun _ t hstep _ ↦ ?_
    exact ih (fun b hb ↦ hround b (List.mem_cons_of_mem a hb))
      (fun b hb ↦ hkeep b (List.mem_cons_of_mem a hb)) (hkeep a List.mem_cons_self s t hs hstep)

theorem each {l : List α} {f : α → Tx σ ε Unit} (h : ∀ a ∈ l, ∀ s, (f a).Yields s fun _ ↦ True) :
    (Tx.each l f).Yields s fun _ ↦ True :=
  each_of (I := fun _ ↦ True) (fun a ha s _ ↦ h a ha s) (fun _ _ _ _ _ _ ↦ trivial) trivial

end Yields

/-! ## Transactions that fail -/

section Bind

variable {m : Tx σ ε α} {f : α → Tx σ ε β} {s s₁ : σ}

theorem bind_of_ok {a : α} (h : m s = .ok (a, s₁)) : (m >>= f) s = f a s₁ := by
  change (m s >>= fun p ↦ f p.1 p.2) = _
  rw [h]
  rfl

theorem bind_of_error {e : ε} (h : m s = .error e) : (m >>= f) s = .error e := by
  change (m s >>= fun p ↦ f p.1 p.2) = _
  rw [h]
  rfl

end Bind

/-- A transaction that fails on a store fails with an error of a kind. -/
def Blames (m : Tx σ ε α) (s : σ) (P : ε → Prop) : Prop := ∀ e, m s = .error e → P e

namespace Blames

variable {m : Tx σ ε α} {f : α → Tx σ ε β} {s s₁ : σ} {P : ε → Prop} {a : α}

theorem of_ok (hm : m s = .ok (a, s₁)) : m.Blames s P := by
  intro e he
  rw [hm] at he
  cases he

theorem pure : (Pure.pure a : Tx σ ε α).Blames s P := of_ok (pure_ok.mpr ⟨rfl, rfl⟩)

/-- A sequence fails in its first part, or in the rest after it. -/
theorem seq (hm : m.Blames s P) (hf : ∀ a s₁, m s = .ok (a, s₁) → (f a).Blames s₁ P) :
    (m >>= f).Blames s P := by
  intro e he
  cases hrun : m s with
  | error e' =>
    rw [bind_of_error hrun] at he
    obtain rfl := Except.error.inj he
    exact hm _ hrun
  | ok p =>
    rw [bind_of_ok hrun] at he
    exact hf p.1 p.2 hrun e he

/-- After a first part whose result is known. -/
theorem bind (hm : m s = .ok (a, s₁)) (hf : (f a).Blames s₁ P) : (m >>= f).Blames s P := by
  refine seq (of_ok hm) fun b s₂ hm' ↦ ?_
  obtain ⟨rfl, rfl⟩ := Prod.mk.inj (Except.ok.inj (hm.symm.trans hm'))
  exact hf

theorem throw {e : ε} (h : P e) : (throw e : Tx σ ε α).Blames s P := by
  intro e' he
  obtain rfl := Except.error.inj he
  exact h

theorem require {o : Option α} {e : ε} (h : P e) : (Tx.require o e : Tx σ ε α).Blames s P := by
  cases o with
  | none => exact throw h
  | some a => exact pure

theorem check {c : Prop} [Decidable c] {e : ε} (h : P e) :
    (Tx.check c e : Tx σ ε Unit).Blames s P := by
  by_cases hc : c
  · rw [Tx.check, if_pos hc]
    exact pure
  · rw [Tx.check, if_neg hc]
    exact throw h

theorem ite {c : Prop} [Decidable c] {m' : Tx σ ε α} (h : c → m.Blames s P)
    (h' : ¬c → m'.Blames s P) : (if c then m else m').Blames s P := by
  by_cases hc : c
  · rw [if_pos hc]
    exact h hc
  · rw [if_neg hc]
    exact h' hc

theorem each {l : List α} {g : α → Tx σ ε Unit} (h : ∀ a ∈ l, ∀ s, (g a).Blames s P) :
    (Tx.each l g).Blames s P := by
  induction l generalizing s with
  | nil => exact pure
  | cons a l ih =>
    refine seq (h a List.mem_cons_self s) fun _ _ _ ↦ ih fun b hb ↦ ?_
    exact h b (List.mem_cons_of_mem a hb)

theorem fold {g : β → α → Tx σ ε β} {b : β} {l : List α} (h : ∀ a ∈ l, ∀ b s, (g b a).Blames s P) :
    (Tx.fold g b l).Blames s P := by
  induction l generalizing b s with
  | nil => exact pure
  | cons a l ih =>
    refine seq (h a List.mem_cons_self b s) fun _ _ _ ↦ ih fun c hc ↦ ?_
    exact h c (List.mem_cons_of_mem a hc)

end Blames

end Tx

/-! ## Relations that every run respects -/

/-- A relation that a sequence of steps can be measured by. -/
class Preord {σ : Type} (R : σ → σ → Prop) : Prop where
  refl : ∀ s, R s s
  trans : ∀ {s t u}, R s t → R t u → R s u

/-- Every successful run moves the state along `R`. -/
class Respects {σ ε α : Type} (R : σ → σ → Prop) (m : Tx σ ε α) : Prop where
  rel : ∀ {s : σ} {a : α} {s' : σ}, m s = .ok (a, s') → R s s'

/-- A property of states that is kept. -/
def Maintains {σ : Type} (P : σ → Prop) (s s' : σ) : Prop := P s → P s'

instance {σ : Type} {P : σ → Prop} : Preord (Maintains P) where
  refl _ := id
  trans h h' := h' ∘ h

/-- A transaction that only reads respects equality. -/
instance {σ : Type} : Preord (@Eq σ) where
  refl _ := rfl
  trans := Eq.trans

namespace Respects

/-- A run that moves the state along a relation moves it along a coarser one. -/
theorem mono {σ ε α : Type} {R R' : σ → σ → Prop} {m : Tx σ ε α} (h : Respects R m)
    (hsub : ∀ {s s'}, R s s' → R' s s') : Respects R' m :=
  ⟨fun hrun ↦ hsub (h.rel hrun)⟩

variable {σ ε α β : Type} {R : σ → σ → Prop} [Preord R]

instance pure (a : α) : Respects R (pure a : Tx σ ε α) where
  rel h := by
    obtain ⟨-, rfl⟩ := Tx.pure_ok.mp h
    exact Preord.refl _

instance throw (e : ε) : Respects R (throw e : Tx σ ε α) where
  rel h := (Tx.throw_ok.mp h).elim

instance get : Respects R (get : Tx σ ε σ) where
  rel h := by
    obtain ⟨-, rfl⟩ := Tx.get_ok.mp h
    exact Preord.refl _

instance bind {m : Tx σ ε α} {f : α → Tx σ ε β} [Respects R m] [∀ a, Respects R (f a)] :
    Respects R (m >>= f) where
  rel h := by
    obtain ⟨a, s₁, hm, hf⟩ := Tx.bind_ok.mp h
    exact Preord.trans (rel hm) (rel hf)

/-- The instance `bind` for a continuation that ignores the result. Without it the search solves the
continuation for every result, and once more for this one. -/
instance next {m : Tx σ ε α} {m' : Tx σ ε β} [Respects R m] [Respects R m'] :
    Respects R (m >>= fun _ ↦ m') :=
  bind

/-- The instance `bind` for a continuation that is taken apart by hand. -/
theorem seq {m : Tx σ ε α} {f : α → Tx σ ε β} (hm : Respects R m) (hf : ∀ a, Respects R (f a)) :
    Respects R (m >>= f) :=
  bind

instance require (o : Option α) (e : ε) : Respects R (Tx.require o e : Tx σ ε α) where
  rel h := by
    obtain ⟨-, rfl⟩ := Tx.require_ok.mp h
    exact Preord.refl _

instance lift (x : Except ε α) : Respects R (Tx.lift x : Tx σ ε α) where
  rel h := by
    obtain ⟨-, rfl⟩ := Tx.lift_ok.mp h
    exact Preord.refl _

instance mapError {f : ε → ε} {m : Tx σ ε α} [Respects R m] : Respects R (Tx.mapError f m) where
  rel h := rel (Tx.mapError_ok.mp h)

instance check (c : Prop) [Decidable c] (e : ε) : Respects R (Tx.check c e : Tx σ ε Unit) where
  rel h := by
    obtain ⟨-, rfl⟩ := Tx.check_ok.mp h
    exact Preord.refl _

instance ite {c : Prop} [Decidable c] {m n : Tx σ ε α} [Respects R m] [Respects R n] :
    Respects R (if c then m else n) := by
  split <;> infer_instance

instance when {c : Prop} [Decidable c] {m : Tx σ ε Unit} [Respects R m] :
    Respects R (Tx.when c m) := by
  rw [Tx.when]
  infer_instance

instance withSome {o : Option α} {f : α → Tx σ ε Unit} [∀ a, Respects R (f a)] :
    Respects R (Tx.withSome o f) := by
  cases o with
  | none => exact Respects.pure ()
  | some a => exact inferInstanceAs (Respects R (f a))

instance each {l : List α} {f : α → Tx σ ε Unit} [∀ a, Respects R (f a)] :
    Respects R (Tx.each l f) := by
  induction l with
  | nil => exact Respects.pure ()
  | cons a l ih =>
    rw [Tx.each_cons]
    infer_instance

instance fold {f : β → α → Tx σ ε β} [∀ b a, Respects R (f b a)] {b : β} {l : List α} :
    Respects R (Tx.fold f b l) := by
  induction l generalizing b with
  | nil => exact Respects.pure b
  | cons a l ih =>
    rw [Tx.fold_cons]
    infer_instance

end Respects

end HibikiCore
