import Mathlib.Algebra.GroupWithZero.Nat
import HibikiCore.Text.Words

/-!
# The key in error texts

The client of the model never shows its key: what a provider answers to a failed request is
shortened, then every mention of the key is replaced, and the rest becomes part of an error.

The law is about two runs with the same answer and different keys. An answer is a template whose
holes are filled with the key. Shortening comes first, so a hole that the limit cuts leaves the
first characters of the key, which replacing no longer finds. Apart from mentions of the key that
begin outside the holes, this is the only way in which two runs can differ.
-/

namespace HibikiCore

/-! ## The client -/

structure ModelClientError where
  kind : String
  message : Text
  retryable : Bool
  status : Option Nat
  deriving DecidableEq, Repr

def classifyStatus (status : Nat) : String × Bool :=
  if status = 429 then ("rate_limit", true)
  else if status = 401 ∨ status = 403 then ("auth", false)
  else if 500 ≤ status ∧ status ≤ 599 then ("server", true)
  else if 400 ≤ status ∧ status ≤ 499 then ("bad_request", false)
  else ("protocol", false)

/-- What came of a request. -/
inductive Exchange
  | timedOut
  | transport (exception : Text)
  | failed (exception : Text)
  | answered (status : Nat) (body : Text)
  deriving DecidableEq, Repr

def shortLimit : Nat := 400

/-- `_short` -/
def short (text : Text) : Text :=
  let collapsed := collapse isSpace ' ' text
  if collapsed.length ≤ shortLimit then collapsed else collapsed.take shortLimit ++ "...".toList

def stars : Text := "***".toList

/-- `_redact` -/
def redact (apiKey text : Text) : Text :=
  if apiKey ≠ [] ∧ Text.occurrences apiKey text ≠ [] then replace apiKey stars text else text

def connectionError (what exception : Text) : ModelClientError where
  kind := "connection"
  message := what ++ " (".toList ++ exception ++ ")".toList
  retryable := true
  status := none

/-- An answer of a failed request becomes an error; any other is left to be read. -/
def attempt (apiKey : Text) : Exchange → Except ModelClientError Text
  | .timedOut => .error ⟨"timeout", "model request timed out".toList, true, none⟩
  | .transport exception => .error (connectionError "model connection failed".toList exception)
  | .failed exception => .error (connectionError "model transport failed".toList exception)
  | .answered status body =>
    if 400 ≤ status then
      let (kind, retryable) := classifyStatus status
      let detail := redact apiKey (short body)
      .error ⟨kind, "model request failed with status ".toList ++ (toString status).toList ++
        ": ".toList ++ detail, retryable, some status⟩
    else .ok body

/-! ## Templates -/

/-- A key of the client: not empty, and without spaces. -/
structure ApiKey where
  text : Text
  nonempty : text ≠ []
  noSpace : ∀ c ∈ text, isSpace c = false

/-- A text with holes. -/
abbrev Template := List (Option Char)

namespace Template

/-- A hole is filled with a text. -/
def part (filling : Text) : Option Char → Text
  | none => filling
  | some c => [c]

def fill (t : Template) (filling : Text) : Text := t.flatMap (part filling)

/-- A hole is no space. -/
def separates : Option Char → Bool
  | none => false
  | some c => isSpace c

/-- The length of a template, filled with a text of `n` characters. -/
def filledLength (n : Nat) (t : Template) : Nat :=
  (t.map fun | none => n | some _ => 1).sum

/-- The first `limit` characters of a filled template: the part of the template that they hold
entirely, and how many characters of a further hole there are. -/
def cut (n : Nat) : Template → Nat → Template × Nat
  | [], _ => ([], 0)
  | _, 0 => ([], 0)
  | some c :: t, limit + 1 => let rest := cut n t limit; (some c :: rest.1, rest.2)
  | none :: t, limit + 1 =>
    if n ≤ limit + 1 then
      let rest := cut n t (limit + 1 - n)
      (none :: rest.1, rest.2)
    else ([], limit + 1)

variable {t : Template} {filling : Text}

@[simp] theorem fill_nil : fill [] filling = [] := rfl

@[simp] theorem fill_some (c : Char) : fill (some c :: t) filling = c :: fill t filling := rfl

@[simp] theorem fill_none : fill (none :: t) filling = filling ++ fill t filling := rfl

theorem length_fill : (fill t filling).length = filledLength filling.length t := by
  induction t with
  | nil => rfl
  | cons a t ih =>
    cases a with
    | none =>
      rw [fill_none, List.length_append, ih]
      rfl
    | some c =>
      rw [fill_some, List.length_cons, ih, Nat.add_comm]
      rfl

theorem take_fill : ∀ {limit : Nat}, (fill t filling).take limit =
    fill (cut filling.length t limit).1 filling ++
      filling.take (cut filling.length t limit).2 := by
  induction t with
  | nil => simp [cut]
  | cons a t ih =>
    intro limit
    cases limit with
    | zero => simp [cut]
    | succ limit =>
      cases a with
      | some c =>
        rw [fill_some, List.take_succ_cons, ih]
        rfl
      | none =>
        rw [fill_none, cut]
        by_cases hfits : filling.length ≤ limit + 1
        · rw [if_pos hfits, List.take_append, List.take_of_length_le hfits, ih]
          simp
        · rw [if_neg hfits, List.take_append_of_le_length (by omega)]
          rfl

/-- The template of the collapsed text. -/
def collapsed (t : Template) : Template := collapse separates (some ' ') t

theorem collapse_fill (key : ApiKey) :
    collapse isSpace ' ' (fill t key.text) = fill (collapsed t) key.text := by
  have hkeeps : KeepsWords separates isSpace (part key.text) := by
    constructor
    · intro a ha
      cases a with
      | none => cases ha
      | some c => exact ⟨c, rfl, ha⟩
    · intro a ha
      cases a with
      | none => exact ⟨key.nonempty, key.noSpace⟩
      | some c => exact ⟨List.cons_ne_nil _ _, fun b hb ↦ List.mem_singleton.mp hb ▸ ha⟩
  exact collapse_flatMap hkeeps rfl t

/-- What is shown of a filled template: a template, some characters of a hole that the limit cuts,
and an ending. -/
structure Shown where
  template : Template
  cutHole : Nat
  ending : Text
  deriving DecidableEq, Repr

def shown (n : Nat) (t : Template) : Shown :=
  if filledLength n (collapsed t) ≤ shortLimit then ⟨collapsed t, 0, []⟩
  else ⟨(cut n (collapsed t) shortLimit).1, (cut n (collapsed t) shortLimit).2, "...".toList⟩

/-- What stands behind the template that is shown. -/
def Shown.rest (s : Shown) (key : ApiKey) : Text := key.text.take s.cutHole ++ s.ending

theorem short_fill (key : ApiKey) :
    short (fill t key.text) =
      fill (shown key.text.length t).template key.text ++ (shown key.text.length t).rest key := by
  rw [short, collapse_fill, length_fill, shown]
  split
  · simp [Shown.rest]
  · rw [take_fill, Shown.rest, List.append_assoc]

/-- Replacing a key in a text looks for it at every character outside the holes and behind the
template; it is not met there. -/
structure Shown.MetInHolesOnly (s : Shown) (key : ApiKey) : Prop where
  outside : ∀ before c behind, s.template = before ++ some c :: behind →
    ¬key.text <+: fill (some c :: behind) key.text ++ s.rest key
  behind : ∀ u, u <:+ s.rest key → ¬key.text <+: u

/-- With stars in the holes, and what remains of a hole that was cut. -/
theorem replace_fill (key : ApiKey) {rest : Text} (hrest : ∀ u, u <:+ rest → ¬key.text <+: u) :
    (∀ before c behind, t = before ++ some c :: behind →
      ¬key.text <+: fill (some c :: behind) key.text ++ rest) →
      replace key.text stars (fill t key.text ++ rest) = fill t stars ++ rest := by
  induction t with
  | nil => exact fun _ ↦ replace_eq_self hrest
  | cons a t ih =>
    intro hmet
    have htail := ih fun before c behind h ↦ hmet (a :: before) c behind (by rw [h]; rfl)
    cases a with
    | none =>
      rw [fill_none, fill_none, List.append_assoc, replace_old_append key.nonempty, htail,
        List.append_assoc]
    | some c =>
      have hfirst := hmet [] c t rfl
      rw [fill_some, List.cons_append] at hfirst
      rw [fill_some, fill_some, List.cons_append, replace_cons hfirst, htail, List.cons_append]

theorem redact_eq_replace (key : ApiKey) (text : Text) :
    redact key.text text = replace key.text stars text := by
  rw [redact]
  split
  · rfl
  · next h =>
    have hnone : Text.occurrences key.text text = [] := by
      by_contra hne
      exact h ⟨key.nonempty, hne⟩
    refine (replace_eq_self ?_).symm
    rintro u ⟨before, rfl⟩ ⟨after, rfl⟩
    have hmem : before.length ∈ Text.occurrences key.text (before ++ (key.text ++ after)) :=
      Text.mem_occurrences.mpr ⟨before, after, by simp, rfl⟩
    rw [hnone] at hmem
    cases hmem

/-- What a failed request shows of a template. -/
theorem redact_short_fill {key : ApiKey}
    (h : (shown key.text.length t).MetInHolesOnly key) :
    redact key.text (short (fill t key.text)) =
      fill (shown key.text.length t).template stars ++ (shown key.text.length t).rest key := by
  rw [redact_eq_replace, short_fill, replace_fill key h.behind h.outside]

end Template

/-! ## Two runs -/

/-- The error of a request whose answer is a template, filled with the key of the client. -/
def errorOf (key : ApiKey) (status : Nat) (t : Template) : Except ModelClientError Text :=
  attempt key.text (.answered status (t.fill key.text))

theorem errorOf_eq_iff {key₁ key₂ : ApiKey} {status : Nat} {t : Template} (hstatus : 400 ≤ status) :
    errorOf key₁ status t = errorOf key₂ status t ↔
      redact key₁.text (short (t.fill key₁.text)) =
        redact key₂.text (short (t.fill key₂.text)) := by
  rw [errorOf, errorOf, attempt, attempt, if_pos hstatus, if_pos hstatus]
  simp

/-- Neither key is met outside the holes, and what the limit leaves of a hole is the same for
both. -/
structure Hidden (key₁ key₂ : ApiKey) (s : Template.Shown) : Prop where
  met₁ : s.MetInHolesOnly key₁
  met₂ : s.MetInHolesOnly key₂
  cut : key₁.text.take s.cutHole = key₂.text.take s.cutHole

/-- A key that does not begin like what it is replaced by, and does not hold what ends a shortened
text. -/
structure ApiKey.Plain (key : ApiKey) : Prop where
  noStar : key.text.head? ≠ some '*'
  noPeriod : '.' ∉ key.text

namespace Template

section Determined

variable {key₁ key₂ : ApiKey} {s : Shown}

/-- Two keys that begin alike fill a template alike, as far as the beginning goes. -/
theorem take_fill_congr (hlength : key₁.text.length = key₂.text.length) {t : Template} :
    ∀ {m : Nat}, key₁.text.take m = key₂.text.take m →
      (fill t key₁.text ++ s.rest key₁).take m = (fill t key₂.text ++ s.rest key₂).take m := by
  induction t with
  | nil =>
    intro m hm
    have hcut : (key₁.text.take s.cutHole).take m = (key₂.text.take s.cutHole).take m := by
      rw [List.take_take, List.take_take, Nat.min_comm, ← List.take_take, hm, List.take_take]
    rw [fill_nil, fill_nil, List.nil_append, List.nil_append, Shown.rest, Shown.rest,
      List.take_append, List.take_append, hcut, List.length_take, List.length_take, hlength]
  | cons a t ih =>
    intro m hm
    cases a with
    | some c =>
      cases m with
      | zero => rfl
      | succ m =>
        have hless : key₁.text.take m = key₂.text.take m := by
          have := congrArg (List.take m) hm
          rwa [List.take_take, List.take_take, Nat.min_eq_left (Nat.le_succ m)] at this
        rw [fill_some, fill_some, List.cons_append, List.cons_append, List.take_succ_cons,
          List.take_succ_cons, ih hless]
    | none =>
      have hless : key₁.text.take (m - key₁.text.length) =
          key₂.text.take (m - key₁.text.length) := by
        have := congrArg (List.take (m - key₁.text.length)) hm
        rwa [List.take_take, List.take_take, Nat.min_eq_left (Nat.sub_le _ _)] at this
      have hsplit : ∀ k rest : Text, (k ++ rest).take m = k.take m ++ rest.take (m - k.length) :=
        fun _ _ ↦ List.take_append
      rw [fill_none, fill_none, List.append_assoc, List.append_assoc, hsplit key₁.text,
        hsplit key₂.text, hm, ← hlength, ih hless]

/-- Two keys that are met at the same character outside the holes are the same. -/
theorem eq_of_met (hlength : key₁.text.length = key₂.text.length) {c : Char} {t : Template}
    (h₁ : key₁.text <+: fill (some c :: t) key₁.text ++ s.rest key₁)
    (h₂ : key₂.text <+: fill (some c :: t) key₂.text ++ s.rest key₂) :
    key₁.text = key₂.text := by
  have htake : ∀ m ≤ key₁.text.length, key₁.text.take m = key₂.text.take m := by
    intro m
    induction m with
    | zero => exact fun _ ↦ rfl
    | succ m ih =>
      intro hm
      have hbefore := take_fill_congr (s := s) (t := t) hlength (ih (by omega))
      have h₁' := List.prefix_iff_eq_take.mp (List.take_prefix (m + 1) key₁.text |>.trans h₁)
      have h₂' := List.prefix_iff_eq_take.mp (List.take_prefix (m + 1) key₂.text |>.trans h₂)
      rw [h₁', h₂', List.length_take, List.length_take, ← hlength, Nat.min_eq_left hm, fill_some,
        fill_some, List.cons_append, List.cons_append, List.take_succ_cons, List.take_succ_cons,
        hbefore]
  have hall := htake key₁.text.length le_rfl
  rwa [List.take_length, hlength, List.take_length] at hall

theorem cut_lt {n : Nat} (hn : 0 < n) {t : Template} :
    ∀ {limit : Nat}, (cut n t limit).2 < n := by
  induction t with
  | nil => exact fun {_} ↦ hn
  | cons a t ih =>
    intro limit
    cases limit with
    | zero => exact hn
    | succ limit =>
      cases a with
      | some c => exact ih
      | none =>
        rw [cut]
        split
        · exact ih
        · next hlt => exact Nat.lt_of_not_le hlt

/-- Behind the template there is nothing, or a part of the key and periods. -/
theorem rest_cases (key : ApiKey) (t : Template) :
    (shown key.text.length t).rest key = [] ∨
      ∃ j < key.text.length, (shown key.text.length t).rest key =
        key.text.take j ++ "...".toList := by
  rw [shown]
  split
  · exact .inl (by simp [Shown.rest])
  · exact .inr ⟨_, cut_lt (List.length_pos_iff.mpr key.nonempty), rfl⟩

/-- A key without a period is not met behind the template: what is left of a hole is too short. -/
theorem not_met_behind {key : ApiKey} (hplain : key.Plain) (t : Template) :
    ∀ u, u <:+ (shown key.text.length t).rest key → ¬key.text <+: u := by
  rintro u hu ⟨after, rfl⟩
  obtain ⟨before, hrest⟩ := hu
  rcases rest_cases key t with hnil | ⟨j, hj, hcut⟩
  · rw [hnil] at hrest
    have : key.text = [] := by simp_all
    exact key.nonempty this
  · -- the last character of the key would be one of the periods
    rw [hcut] at hrest
    have hpos : 0 < key.text.length := List.length_pos_iff.mpr key.nonempty
    have hlast : (before ++ (key.text ++ after))[before.length + (key.text.length - 1)]? =
        some (key.text[key.text.length - 1]) := by
      rw [List.getElem?_append_right (by omega), Nat.add_sub_cancel_left,
        List.getElem?_append_left (by omega), List.getElem?_eq_getElem]
    rw [hrest, List.getElem?_append_right (by rw [List.length_take]; omega)] at hlast
    have hperiod := List.mem_of_getElem? hlast
    have hdots : ∀ c ∈ "...".toList, c = '.' := by simp
    exact hplain.noPeriod (hdots _ hperiod ▸ List.getElem_mem _)

end Determined

/-- Where a key is met, what is shown begins with a star; if it begins with the character that is
there, that is the first one of the key. -/
theorem replace_met {key : ApiKey} {c : Char} {text rest : Text} (hmet : key.text <+: c :: text)
    (hsame : replace key.text stars (c :: text) = c :: rest) : key.text.head? = some '*' := by
  obtain ⟨after, hafter⟩ := hmet
  rw [← hafter, replace_old_append key.nonempty] at hsame
  obtain ⟨hstar, -⟩ := List.cons.inj hsame
  obtain ⟨first, key', hkey⟩ := List.exists_cons_of_ne_nil key.nonempty
  rw [hkey, List.cons_append] at hafter
  obtain ⟨hfirst, -⟩ := List.cons.inj hafter
  rw [hkey, hfirst, ← hstar]
  rfl

/-- Where two runs show the same of a template, their keys were met in its holes only. -/
theorem met_of_same {key₁ key₂ : ApiKey} {s : Shown} (hne : key₁.text ≠ key₂.text)
    (hlength : key₁.text.length = key₂.text.length) (hplain₁ : key₁.Plain) (hplain₂ : key₂.Plain)
    (hbehind₁ : ∀ u, u <:+ s.rest key₁ → ¬key₁.text <+: u)
    (hbehind₂ : ∀ u, u <:+ s.rest key₂ → ¬key₂.text <+: u) :
    ∀ {t : Template}, replace key₁.text stars (fill t key₁.text ++ s.rest key₁) =
        replace key₂.text stars (fill t key₂.text ++ s.rest key₂) →
      (∀ before c behind, t = before ++ some c :: behind →
        ¬key₁.text <+: fill (some c :: behind) key₁.text ++ s.rest key₁ ∧
          ¬key₂.text <+: fill (some c :: behind) key₂.text ++ s.rest key₂) ∧
      s.rest key₁ = s.rest key₂ := by
  intro t
  induction t with
  | nil =>
    intro hsame
    rw [fill_nil, fill_nil, List.nil_append, List.nil_append, replace_eq_self hbehind₁,
      replace_eq_self hbehind₂] at hsame
    refine ⟨?_, hsame⟩
    intro before c behind h
    simp at h
  | cons a t ih =>
    intro hsame
    cases a with
    | none =>
      rw [fill_none, fill_none, List.append_assoc, List.append_assoc,
        replace_old_append key₁.nonempty, replace_old_append key₂.nonempty,
        List.append_cancel_left_eq] at hsame
      obtain ⟨hmet, hrest⟩ := ih hsame
      refine ⟨fun before c behind h ↦ ?_, hrest⟩
      cases before with
      | nil => cases h
      | cons b before =>
        obtain ⟨-, h⟩ := List.cons.inj h
        exact hmet before c behind h
    | some c =>
      rw [fill_some, fill_some, List.cons_append, List.cons_append] at hsame
      by_cases hmet₁ : key₁.text <+: c :: (fill t key₁.text ++ s.rest key₁)
      · by_cases hmet₂ : key₂.text <+: c :: (fill t key₂.text ++ s.rest key₂)
        · exact absurd (eq_of_met (s := s) (t := t) hlength hmet₁ hmet₂) hne
        · rw [replace_cons hmet₂] at hsame
          exact absurd (replace_met hmet₁ hsame) hplain₁.noStar
      · rw [replace_cons hmet₁] at hsame
        by_cases hmet₂ : key₂.text <+: c :: (fill t key₂.text ++ s.rest key₂)
        · exact absurd (replace_met hmet₂ hsame.symm) hplain₂.noStar
        · rw [replace_cons hmet₂] at hsame
          obtain ⟨-, htail⟩ := List.cons.inj hsame
          obtain ⟨hmet, hrest⟩ := ih htail
          refine ⟨fun before c' behind h ↦ ?_, hrest⟩
          cases before with
          | nil =>
            obtain ⟨hc, rfl⟩ := List.cons.inj h
            obtain rfl := Option.some.inj hc
            exact ⟨hmet₁, hmet₂⟩
          | cons b before =>
            obtain ⟨-, h⟩ := List.cons.inj h
            exact hmet before c' behind h

end Template

/-- Two runs with keys of one length lead to the same error when neither key is met outside the
holes and what is left of a hole is the same. For different keys that do not begin with a star and
have no period, they do so only then. -/
theorem errorOf_same_iff (key₁ key₂ : ApiKey) (status : Nat) (t : Template)
    (hstatus : 400 ≤ status) (hlength : key₁.text.length = key₂.text.length) :
    (Hidden key₁ key₂ (t.shown key₁.text.length) →
      errorOf key₁ status t = errorOf key₂ status t) ∧
    (key₁.text ≠ key₂.text → key₁.Plain → key₂.Plain →
      (errorOf key₁ status t = errorOf key₂ status t ↔
        Hidden key₁ key₂ (t.shown key₁.text.length))) := by
  have hhidden : Hidden key₁ key₂ (t.shown key₁.text.length) →
      errorOf key₁ status t = errorOf key₂ status t := by
    intro h
    have hmet₂ : (t.shown key₂.text.length).MetInHolesOnly key₂ := hlength ▸ h.met₂
    rw [errorOf_eq_iff hstatus, Template.redact_short_fill h.met₁,
      Template.redact_short_fill hmet₂, ← hlength, Template.Shown.rest, Template.Shown.rest, h.cut]
  refine ⟨hhidden, fun hne hplain₁ hplain₂ ↦ ⟨fun hsame ↦ ?_, hhidden⟩⟩
  have hbehind₁ := Template.not_met_behind hplain₁ t
  have hbehind₂ := Template.not_met_behind hplain₂ t
  rw [← hlength] at hbehind₂
  rw [errorOf_eq_iff hstatus, Template.redact_eq_replace, Template.redact_eq_replace,
    Template.short_fill, Template.short_fill, ← hlength] at hsame
  obtain ⟨hmet, hrest⟩ :=
    Template.met_of_same hne hlength hplain₁ hplain₂ hbehind₁ hbehind₂ hsame
  refine ⟨⟨fun before c behind h ↦ (hmet before c behind h).1, hbehind₁⟩,
    ⟨fun before c behind h ↦ (hmet before c behind h).2, hbehind₂⟩, ?_⟩
  exact List.append_cancel_right hrest

/-- Two keys of one provider. -/
def sampleAlpha : ApiKey := ⟨"sk-alpha".toList, by decide, by simp [isSpace]⟩
def sampleBravo : ApiKey := ⟨"sk-bravo".toList, by decide, by simp [isSpace]⟩

/-- An answer that repeats the key behind another character shows nothing of a key that does not
begin with that character. -/
theorem Template.met_behind_mark {key : ApiKey} (hhead : key.text.head? ≠ some '!') :
    Shown.MetInHolesOnly ⟨[some '!', none], 0, []⟩ key := by
  constructor
  · intro before c behind htemplate hprefix
    obtain ⟨x, text, htext⟩ := List.exists_cons_of_ne_nil key.nonempty
    cases before with
    | nil =>
      obtain ⟨hc, -⟩ := List.cons.inj htemplate
      obtain ⟨after, hafter⟩ := hprefix
      obtain rfl := Option.some.inj hc
      rw [htext] at hafter hhead
      have hx : x = '!' := (List.cons.inj hafter).1
      exact hhead (hx ▸ rfl)
    | cons a before =>
      have hrest : [none] = before ++ some c :: behind := (List.cons.inj htemplate).2
      have hmem : some c ∈ [(none : Option Char)] := by
        rw [hrest]
        exact List.mem_append_right _ List.mem_cons_self
      rw [List.mem_singleton] at hmem
      cases hmem
  · intro u hu hprefix
    obtain rfl : u = [] := List.suffix_nil.mp (by simpa [Shown.rest] using hu)
    exact key.nonempty (List.prefix_nil.mp hprefix)

theorem errorOf_same_iff_denied :
    errorOf sampleAlpha 401 [some '!', none] = errorOf sampleBravo 401 [some '!', none] := by
  have hshown : Template.shown 8 [some '!', none] = ⟨[some '!', none], 0, []⟩ := by decide
  refine (errorOf_same_iff sampleAlpha sampleBravo 401 [some '!', none] (by decide)
    (by decide)).1 ?_
  change Hidden sampleAlpha sampleBravo (Template.shown 8 [some '!', none])
  rw [hshown]
  exact ⟨Template.met_behind_mark (by decide), Template.met_behind_mark (by decide), rfl⟩

/-- An answer that repeats the key where it is cut. -/
def sampleLong : Template := List.replicate 396 (some 'x') ++ [none]

/-- What is shown of the long answer ends in four characters of the key. -/
theorem redact_long :
    (redact sampleAlpha.text (short (sampleLong.fill sampleAlpha.text))).drop 396 =
        "sk-a...".toList ∧
      (redact sampleBravo.text (short (sampleLong.fill sampleBravo.text))).drop 396 =
        "sk-b...".toList := by
  rw [Template.redact_eq_replace, Template.redact_eq_replace]
  decide +kernel

/-- The key occurs in a hole only, and two runs show different parts of it. -/
theorem errorOf_long :
    (∀ c, some c ∈ sampleLong → c ∉ sampleAlpha.text ∧ c ∉ sampleBravo.text) ∧
      sampleAlpha.text.length = sampleBravo.text.length ∧
      errorOf sampleAlpha 401 sampleLong ≠ errorOf sampleBravo 401 sampleLong := by
  refine ⟨?_, by decide, ?_⟩
  · intro c hc
    rcases List.mem_append.mp hc with hx | hhole
    · obtain rfl := Option.some.inj (List.eq_of_mem_replicate hx)
      decide
    · rw [List.mem_singleton] at hhole
      cases hhole
  · intro hsame
    have hshown := (errorOf_eq_iff (by decide)).mp hsame
    obtain ⟨halpha, hbravo⟩ := redact_long
    rw [hshown, hbravo] at halpha
    exact absurd halpha (by decide)

end HibikiCore
