import Mathlib.Data.List.Forall2
import HibikiCore.Text.Basic

/-!
# Patterns

The part of regular expressions that is needed to search a text: characters of a class, repetition
of a class between two bounds, word boundaries, sequence and alternative. Which characters are part
of a word is a parameter.

`Pattern.Fits` says what a pattern means: the text it matches, between the text before it and the
text behind it, since a boundary looks at both. `Pattern.ends` computes every match that starts at
a place; it finds exactly those that fit.
-/

namespace HibikiCore

inductive Pattern
  /-- Nothing at all; it matches everywhere. -/
  | empty
  /-- What matches nowhere. -/
  | never
  | one (p : Char → Bool)
  /-- Characters of a class, at least `low` of them, and at most `high` if that is given. -/
  | many (p : Char → Bool) (low : Nat) (high : Option Nat)
  | boundary
  | seq (first second : Pattern)
  | alt (left right : Pattern)

namespace Pattern

/-- One text after the other, each matched by its pattern. -/
def sequence (patterns : List Pattern) : Pattern := patterns.foldr seq empty

/-- One of several patterns. -/
def oneOf (patterns : List Pattern) : Pattern := patterns.foldr alt never

def optional (r : Pattern) : Pattern := alt r empty

variable (isWord : Char → Bool)

/-- Between a character of a word and one that is none, or an end of the text. -/
def isBoundary (before after : Text) : Bool :=
  before.getLast?.any isWord != after.head?.any isWord

/-! ## What a pattern means -/

/-- A pattern matches `text`, which stands between `before` and `after`. -/
def Fits : Pattern → (before text after : Text) → Prop
  | empty, _, text, _ => text = []
  | never, _, _, _ => False
  | one p, _, text, _ => ∃ c, text = [c] ∧ p c = true
  | many p low high, _, text, _ =>
    (∀ c ∈ text, p c = true) ∧ low ≤ text.length ∧ ∀ n ∈ high, text.length ≤ n
  | boundary, before, text, after => text = [] ∧ isBoundary isWord before after = true
  | seq r s, before, text, after =>
    ∃ u v, text = u ++ v ∧ r.Fits before u (v ++ after) ∧ s.Fits (before ++ u) v after
  | alt r s, before, text, after => r.Fits before text after ∨ s.Fits before text after

/-! ## Matching -/

/-- The matches of a repetition, each with the text behind it. -/
def manyEnds (p : Char → Bool) : Nat → Option Nat → Text → List (Text × Text)
  | low, _, [] => if low = 0 then [([], [])] else []
  | low, high, c :: rest =>
    (if low = 0 then [([], c :: rest)] else []) ++
      if p c = true ∧ high ≠ some 0 then
        (manyEnds p (low - 1) (high.map (· - 1)) rest).map fun m ↦ (c :: m.1, m.2)
      else []

/-- The matches of a pattern that start between `before` and `rest`, each with the text behind
it. -/
def ends : Pattern → (before rest : Text) → List (Text × Text)
  | empty, _, rest => [([], rest)]
  | never, _, _ => []
  | one p, _, rest =>
    match rest with
    | [] => []
    | c :: rest => if p c then [([c], rest)] else []
  | many p low high, _, rest => manyEnds p low high rest
  | boundary, before, rest => if isBoundary isWord before rest then [([], rest)] else []
  | seq r s, before, rest =>
    (r.ends before rest).flatMap fun m ↦
      (s.ends (before ++ m.1) m.2).map fun m' ↦ (m.1 ++ m'.1, m'.2)
  | alt r s, before, rest => r.ends before rest ++ s.ends before rest

/-- Whether a pattern matches somewhere in `rest`. -/
def searchFrom (r : Pattern) (before : Text) : Text → Bool
  | [] => !(r.ends isWord before []).isEmpty
  | c :: rest =>
    !(r.ends isWord before (c :: rest)).isEmpty || searchFrom r (before ++ [c]) rest

/-- `re.search` -/
def search (r : Pattern) (text : Text) : Bool := r.searchFrom isWord [] text

/-! ## The matches are those that fit -/

theorem mem_manyEnds {p : Char → Bool} {rest m a : Text} :
    ∀ {low : Nat} {high : Option Nat},
      (m, a) ∈ manyEnds p low high rest ↔
        rest = m ++ a ∧ (∀ c ∈ m, p c = true) ∧ low ≤ m.length ∧ ∀ n ∈ high, m.length ≤ n := by
  induction rest generalizing m with
  | nil =>
    intro low high
    rw [manyEnds]
    by_cases hlow : low = 0
    · rw [if_pos hlow, List.mem_singleton, Prod.mk.injEq]
      constructor
      · rintro ⟨rfl, rfl⟩
        simp [hlow]
      · rintro ⟨hnil, -⟩
        exact List.append_eq_nil_iff.mp hnil.symm
    · rw [if_neg hlow]
      constructor
      · intro h
        cases h
      · rintro ⟨hnil, -, hle, -⟩
        obtain ⟨rfl, -⟩ := List.append_eq_nil_iff.mp hnil.symm
        exact absurd (Nat.le_zero.mp hle) hlow
  | cons c rest ih =>
    intro low high
    rw [manyEnds, List.mem_append]
    cases m with
    | nil =>
      have hnot : ([], a) ∉ (if p c = true ∧ high ≠ some 0 then
          (manyEnds p (low - 1) (high.map (· - 1)) rest).map fun m ↦ (c :: m.1, m.2) else []) := by
        split <;> simp
      rw [or_iff_left hnot]
      by_cases hlow : low = 0
      · rw [if_pos hlow, List.mem_singleton, Prod.mk.injEq, List.nil_append]
        simp [hlow, @eq_comm _ a]
      · simp [hlow]
    | cons x m =>
      have hnot : (x :: m, a) ∉ (if low = 0 then [(([] : Text), c :: rest)] else []) := by
        split <;> simp
      rw [or_iff_right hnot]
      by_cases hp : p c = true ∧ high ≠ some 0
      · rw [if_pos hp, List.mem_map]
        constructor
        · rintro ⟨⟨m', a'⟩, hmem, heq⟩
          obtain ⟨⟨rfl, rfl⟩, rfl⟩ : (c = x ∧ m' = m) ∧ a' = a := by simpa using heq
          obtain ⟨rfl, hall, hlow, hhigh⟩ := ih.mp hmem
          refine ⟨rfl, ?_, ?_, ?_⟩
          · exact List.forall_mem_cons.mpr ⟨hp.1, hall⟩
          · rw [List.length_cons]
            omega
          · intro n hn
            have hpos : n ≠ 0 := fun h0 ↦ hp.2 (h0 ▸ hn)
            have := hhigh (n - 1) (by rw [Option.mem_def.mp hn]; rfl)
            rw [List.length_cons]
            omega
        · rintro ⟨heq, hall, hlow, hhigh⟩
          obtain ⟨rfl, rfl⟩ := List.cons.inj heq
          refine ⟨(m, a), ih.mpr ⟨rfl, ?_, ?_, ?_⟩, rfl⟩
          · exact fun c' hc' ↦ hall c' (List.mem_cons_of_mem _ hc')
          · rw [List.length_cons] at hlow
            omega
          · intro n hn
            obtain ⟨k, hk, rfl⟩ := Option.map_eq_some_iff.mp hn
            have := hhigh k hk
            rw [List.length_cons] at this
            omega
      · rw [if_neg hp]
        constructor
        · intro h
          cases h
        · rintro ⟨heq, hall, -, hhigh⟩
          obtain ⟨rfl, rfl⟩ := List.cons.inj heq
          refine absurd ⟨hall c List.mem_cons_self, ?_⟩ hp
          rintro rfl
          have := hhigh 0 rfl
          simp at this

/-- A match is computed exactly when it fits. -/
theorem mem_ends {r : Pattern} {before rest m a : Text} :
    (m, a) ∈ r.ends isWord before rest ↔ rest = m ++ a ∧ r.Fits isWord before m a := by
  induction r generalizing before rest m a with
  | empty =>
    simp only [ends, Fits, List.mem_singleton, Prod.mk.injEq]
    constructor
    · rintro ⟨rfl, rfl⟩
      exact ⟨rfl, rfl⟩
    · rintro ⟨rfl, rfl⟩
      exact ⟨rfl, rfl⟩
  | never => simp [ends, Fits]
  | one p =>
    cases rest with
    | nil =>
      simp only [ends, Fits, List.not_mem_nil, false_iff]
      rintro ⟨hnil, c, rfl, -⟩
      cases hnil
    | cons c rest =>
      simp only [ends, Fits]
      constructor
      · intro h
        split at h
        · next hc =>
          obtain ⟨rfl, rfl⟩ : m = [c] ∧ a = rest := by simpa using h
          exact ⟨rfl, c, rfl, hc⟩
        · cases h
      · rintro ⟨heq, c', rfl, hc⟩
        obtain ⟨rfl, rfl⟩ := List.cons.inj heq
        simp [hc]
  | many p low high => exact mem_manyEnds
  | boundary =>
    simp only [ends, Fits]
    constructor
    · intro h
      split at h
      · next hb =>
        obtain ⟨rfl, rfl⟩ : m = [] ∧ a = rest := by simpa using h
        exact ⟨rfl, rfl, hb⟩
      · cases h
    · rintro ⟨rfl, rfl, hb⟩
      rw [List.nil_append, if_pos hb]
      exact List.mem_singleton.mpr rfl
  | seq r s ihr ihs =>
    simp only [ends, Fits, List.mem_flatMap, List.mem_map]
    constructor
    · rintro ⟨⟨u, rest'⟩, hu, ⟨v, a'⟩, hv, heq⟩
      obtain ⟨rfl, rfl⟩ : u ++ v = m ∧ a' = a := by simpa using heq
      obtain ⟨rfl, hr⟩ := ihr.mp hu
      obtain ⟨hrest, hs⟩ := ihs.mp hv
      dsimp only at hrest hs
      subst hrest
      exact ⟨by simp, u, v, rfl, hr, hs⟩
    · rintro ⟨rfl, u, v, rfl, hr, hs⟩
      refine ⟨(u, v ++ a), ihr.mpr ⟨by simp, hr⟩, (v, a), ihs.mpr ⟨rfl, hs⟩, rfl⟩
  | alt r s ihr ihs =>
    simp only [ends, Fits, List.mem_append, ihr, ihs]
    exact and_or_left.symm

theorem searchFrom_iff {r : Pattern} {rest : Text} :
    ∀ {before : Text}, r.searchFrom isWord before rest = true ↔
      ∃ skipped m a, rest = skipped ++ m ++ a ∧ r.Fits isWord (before ++ skipped) m a := by
  have hends : ∀ {before rest : Text}, (!(r.ends isWord before rest).isEmpty) = true ↔
      ∃ m a, rest = m ++ a ∧ r.Fits isWord before m a := by
    intro before rest
    rw [Bool.not_eq_true', List.isEmpty_eq_false_iff_exists_mem]
    constructor
    · rintro ⟨⟨m, a⟩, h⟩
      exact ⟨m, a, (mem_ends isWord).mp h⟩
    · rintro ⟨m, a, h⟩
      exact ⟨(m, a), (mem_ends isWord).mpr h⟩
  induction rest with
  | nil =>
    intro before
    rw [searchFrom, hends]
    constructor
    · rintro ⟨m, a, heq, hfits⟩
      exact ⟨[], m, a, heq, by rwa [List.append_nil]⟩
    · rintro ⟨skipped, m, a, heq, hfits⟩
      have hnil : skipped = [] ∧ m = [] ∧ a = [] := by simpa using heq.symm
      obtain ⟨rfl, rfl, rfl⟩ := hnil
      exact ⟨[], [], rfl, by rwa [List.append_nil] at hfits⟩
  | cons c rest ih =>
    intro before
    rw [searchFrom, Bool.or_eq_true, hends, ih]
    constructor
    · rintro (⟨m, a, heq, hfits⟩ | ⟨skipped, m, a, rfl, hfits⟩)
      · exact ⟨[], m, a, heq, by rwa [List.append_nil]⟩
      · exact ⟨c :: skipped, m, a, rfl, by simpa using hfits⟩
    · rintro ⟨skipped, m, a, heq, hfits⟩
      cases skipped with
      | nil => exact .inl ⟨m, a, heq, by rwa [List.append_nil] at hfits⟩
      | cons x skipped =>
        obtain ⟨rfl, rfl⟩ := List.cons.inj heq
        exact .inr ⟨skipped, m, a, rfl, by simpa using hfits⟩

/-- A search succeeds exactly when some part of the text fits. -/
theorem search_iff {r : Pattern} {text : Text} :
    r.search isWord text = true ↔
      ∃ before m after, text = before ++ m ++ after ∧ r.Fits isWord before m after := by
  rw [search, searchFrom_iff]
  simp only [List.nil_append]

/-! ## Sequences and alternatives -/

variable {isWord} {before text after : Text}

end Pattern

/-! ## Words -/

/-- A word, in capitals or not. -/
def anyCase (word : String) : Pattern :=
  .sequence (word.toList.map fun letter ↦ .one (sameLetter letter))

section Words

variable {isWord : Char → Bool}

/-- A text is a word, in capitals or not. -/
def IsWord (word : String) (text : Text) : Prop := List.Forall₂ (sameLetter · ·) word.toList text

/-- One of several words, in capitals or not. -/
def IsOneOf (words : List String) (text : Text) : Prop := ∃ word ∈ words, IsWord word text

end Words

end HibikiCore
