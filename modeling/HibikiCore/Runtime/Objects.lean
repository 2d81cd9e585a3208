import Mathlib.Algebra.GroupWithZero.Nat
import HibikiCore.Text.Basic

/-!
# Objects in a reply

`jsonObjectCandidates` looks for complete objects in the text of a model: it follows the braces,
and skips what stands between quotes, where a backslash takes the next character with it. It does
so in the prose around the objects as well. A quote in the prose is no part of any object, and
still hides what follows it up to the next quote.

The objects are found exactly when no piece of prose leaves the scanner inside a string. One
direction follows the scanner through each piece. For the other, every opening brace that is not
skipped belongs to one candidate at most: where the scanner skips the first brace of an object,
the candidates hold fewer braces than the objects do.
-/

namespace HibikiCore

/-! ## The scanner -/

/-- Whether the scanner is inside a string, and right behind a backslash there. -/
structure Quoting where
  inString : Bool
  escaped : Bool
  deriving DecidableEq, Repr

namespace Quoting

/-- Outside any string. -/
def outside : Quoting := ⟨false, false⟩

def step (q : Quoting) (c : Char) : Quoting :=
  if q.inString then
    if q.escaped then { q with escaped := false }
    else if c = '\\' then { q with escaped := true }
    else if c = '"' then { q with inString := false }
    else q
  else if c = '"' then { q with inString := true }
  else q

end Quoting

structure Scan where
  index : Nat
  depth : Nat
  start : Option Nat
  quoting : Quoting
  candidates : List Text
  deriving DecidableEq, Repr

namespace Scan

def init : Scan := ⟨0, 0, none, .outside, []⟩

/-- An opening brace. -/
def opening (s : Scan) : Scan :=
  { s with start := if s.depth = 0 then some s.index else s.start, depth := s.depth + 1 }

/-- A closing brace; the one of the outermost object ends a candidate. -/
def closing (text : Text) (s : Scan) : Scan :=
  if s.depth = 0 then s
  else if s.depth = 1 then
    match s.start with
    | none => { s with depth := 0 }
    | some start =>
      { s with
        depth := 0
        start := none
        candidates := s.candidates ++ [text.slice start (s.index + 1)] }
  else { s with depth := s.depth - 1 }

/-- What a character does to the braces that are open. -/
def brace (text : Text) (s : Scan) (c : Char) : Scan :=
  if s.quoting.inString then s
  else if c = '{' then s.opening
  else if c = '}' then s.closing text
  else s

def step (text : Text) (s : Scan) (c : Char) : Scan :=
  { s.brace text c with index := s.index + 1, quoting := s.quoting.step c }

end Scan

/-- The complete objects of a text, the last one first. -/
def jsonObjectCandidates (text : Text) : List Text :=
  (text.foldl (Scan.step text) .init).candidates.reverse

/-! ## Objects and prose -/

/-- What stands between the quotes of a string: a backslash comes with the character behind it. -/
inductive Quoted : Text → Prop
  | nil : Quoted []
  | plain {c : Char} {t : Text} (hquote : c ≠ '"') (hescape : c ≠ '\\') (ht : Quoted t) :
      Quoted (c :: t)
  | escape {c : Char} {t : Text} (ht : Quoted t) : Quoted ('\\' :: c :: t)

/-- What stands between the braces of an object: strings, further objects, and everything else of
the notation (names, numbers, brackets, colons, commas, spaces). -/
inductive Inner : Text → Prop
  | nil : Inner []
  | plain {c : Char} {t : Text} (hquote : c ≠ '"') (hopen : c ≠ '{') (hclose : c ≠ '}')
      (ht : Inner t) : Inner (c :: t)
  | string {q t : Text} (hq : Quoted q) (ht : Inner t) : Inner ('"' :: q ++ '"' :: t)
  | object {b t : Text} (hb : Inner b) (ht : Inner t) : Inner ('{' :: b ++ '}' :: t)

theorem Inner.append {t u : Text} (ht : Inner t) (hu : Inner u) : Inner (t ++ u) := by
  induction ht with
  | nil => exact hu
  | plain hquote hopen hclose _ ih => exact .plain hquote hopen hclose ih
  | @string q t hq _ ih =>
    have := Inner.string hq ih
    simpa using this
  | @object b t hb _ _ ih =>
    have := Inner.object hb ih
    simpa using this

theorem Inner.of_plain {t : Text} (ht : ∀ c ∈ t, c ≠ '"' ∧ c ≠ '{' ∧ c ≠ '}') : Inner t := by
  induction t with
  | nil => exact .nil
  | cons c t ih =>
    obtain ⟨hquote, hopen, hclose⟩ := ht c List.mem_cons_self
    exact .plain hquote hopen hclose (ih fun c' hc' ↦ ht c' (List.mem_cons_of_mem _ hc'))

/-- The parts of the notation of objects. -/
inductive Notation
  | value | items | member | members

/-- The texts of the notation, and some more: a comma may end a list, and a number or a name is any
text without a sign that the notation uses. Strings may hold any escape, and spaces may stand
around every part. -/
inductive JsonText : Notation → Text → Prop
  | scalar {t : Text} (hnonempty : t ≠ []) (ht : ∀ c ∈ t, c.isAlphanum ∨ c ∈ ['+', '-', '.']) :
      JsonText .value t
  | string {q : Text} (hq : Quoted q) : JsonText .value ('"' :: q ++ ['"'])
  | array {t : Text} (ht : JsonText .items t) : JsonText .value ('[' :: t ++ [']'])
  | object {t : Text} (ht : JsonText .members t) : JsonText .value ('{' :: t ++ ['}'])
  | noItems : JsonText .items []
  | lastItem {t : Text} (ht : JsonText .value t) : JsonText .items t
  | item {t u : Text} (ht : JsonText .value t) (hu : JsonText .items u) :
    JsonText .items (t ++ ',' :: u)
  | pair {q t : Text} (hq : JsonText .value ('"' :: q)) (ht : JsonText .value t) :
      JsonText .member ('"' :: q ++ ':' :: t)
  | noMembers : JsonText .members []
  | lastMember {t : Text} (ht : JsonText .member t) : JsonText .members t
  | member {t u : Text} (ht : JsonText .member t) (hu : JsonText .members u) :
      JsonText .members (t ++ ',' :: u)
  | before {n : Notation} {c : Char} {t : Text} (hc : c ∈ [' ', '\n', '\r', '\t'])
      (ht : JsonText n t) : JsonText n (c :: t)
  | after {n : Notation} {c : Char} {t : Text} (hc : c ∈ [' ', '\n', '\r', '\t'])
      (ht : JsonText n t) : JsonText n (t ++ [c])

theorem Inner.sign {c : Char} (hc : c ≠ '"' ∧ c ≠ '{' ∧ c ≠ '}') : Inner [c] :=
  .plain hc.1 hc.2.1 hc.2.2 .nil

/-- Whatever is written in the notation can stand within an object. -/
theorem JsonText.inner {n : Notation} {t : Text} (h : JsonText n t) : Inner t := by
  have hspace : ∀ c ∈ [' ', '\n', '\r', '\t'], Inner [c] := by
    intro c hc
    refine Inner.sign ?_
    simp only [List.mem_cons, List.not_mem_nil, or_false] at hc
    rcases hc with rfl | rfl | rfl | rfl <;> decide
  have hcomma : Inner [','] := Inner.sign (by decide)
  induction h with
  | scalar _ ht =>
    refine Inner.of_plain fun c hc ↦ ?_
    refine ⟨?_, ?_, ?_⟩ <;> rintro rfl <;> exact absurd (ht _ hc) (by decide)
  | string hq => exact .string hq .nil
  | array _ ih =>
    have hopen : Inner ['['] := Inner.sign (by decide)
    have hclose : Inner [']'] := Inner.sign (by decide)
    exact (hopen.append ih).append hclose
  | object _ ih => exact .object ih .nil
  | noItems => exact .nil
  | lastItem _ ih => exact ih
  | item _ _ iht ihu => exact iht.append (hcomma.append ihu)
  | pair _ _ ihq iht =>
    have hcolon : Inner [':'] := Inner.sign (by decide)
    exact ihq.append (hcolon.append iht)
  | noMembers => exact .nil
  | lastMember _ ih => exact ih
  | member _ _ iht ihu => exact iht.append (hcomma.append ihu)
  | before hc _ ih => exact (hspace _ hc).append ih
  | after hc _ ih => exact ih.append (hspace _ hc)

/-- The text of an object, or of anything with its braces and quotes. -/
structure ObjectText where
  inner : Text
  isInner : Inner inner

/-- An object of the notation. -/
def ObjectText.ofJson {t : Text} (h : JsonText .members t) : ObjectText := ⟨t, h.inner⟩

def ObjectText.text (o : ObjectText) : Text := '{' :: o.inner ++ ['}']

/-- Prose: text without braces. -/
structure Prose where
  text : Text
  noBrace : ∀ c ∈ text, c ≠ '{' ∧ c ≠ '}'

/-- Read from outside a string, prose ends outside a string: its quotes come in pairs. -/
def Prose.Paired (p : Prose) : Prop := p.text.foldl Quoting.step .outside = .outside

instance (p : Prose) : Decidable p.Paired := inferInstanceAs (Decidable (_ = _))

/-- Objects, each behind a piece of prose, with a last piece of prose behind them. -/
def inProse (pieces : List (Prose × ObjectText)) (last : Prose) : Text :=
  pieces.flatMap (fun p ↦ p.1.text ++ p.2.text) ++ last.text

/-! ## Objects that are found -/

section Found

variable {text : Text}

/-- The scanner, moved over some text that left the braces as they were. -/
def Scan.moved (s : Scan) (t : Text) : Scan :=
  { s with index := s.index + t.length, quoting := t.foldl Quoting.step s.quoting }

theorem Scan.moved_append (s : Scan) (t u : Text) : s.moved (t ++ u) = (s.moved t).moved u := by
  simp [moved, Nat.add_assoc]

/-- Prose moves the scanner on, and does nothing else. -/
theorem foldl_prose {t : Text} (ht : ∀ c ∈ t, c ≠ '{' ∧ c ≠ '}') (s : Scan) :
    t.foldl (Scan.step text) s = s.moved t := by
  induction t generalizing s with
  | nil => rfl
  | cons c t ih =>
    obtain ⟨hopen, hclose⟩ := ht c List.mem_cons_self
    have hstep : s.step text c = s.moved [c] := by
      simp [Scan.step, Scan.brace, Scan.moved, hopen, hclose]
    rw [List.foldl_cons, ih (fun c' hc' ↦ ht c' (List.mem_cons_of_mem _ hc')), hstep,
      ← Scan.moved_append, List.singleton_append]

theorem Quoted.quoting {q : Text} (hq : Quoted q) :
    q.foldl Quoting.step ⟨true, false⟩ = ⟨true, false⟩ := by
  induction hq with
  | nil => rfl
  | plain hquote hescape _ ih => simpa [Quoting.step, hquote, hescape] using ih
  | escape _ ih => simpa [Quoting.step] using ih

theorem Inner.quoting {b : Text} (hb : Inner b) : b.foldl Quoting.step .outside = .outside := by
  induction hb with
  | nil => rfl
  | plain hquote _ _ _ ih => simpa [Quoting.step, Quoting.outside, hquote] using ih
  | string hq _ ih =>
    rw [List.foldl_append, List.foldl_cons, List.foldl_cons]
    have hopened : Quoting.step .outside '"' = ⟨true, false⟩ := rfl
    rw [hopened, hq.quoting]
    exact ih
  | object _ _ ihb iht =>
    rw [List.foldl_append, List.foldl_cons, List.foldl_cons]
    have hopened : Quoting.step .outside '{' = .outside := rfl
    rw [hopened, ihb]
    exact iht

/-- Inside a string, no character touches the braces. -/
theorem step_inString {s : Scan} (hs : s.quoting.inString = true) (c : Char) :
    s.step text c = s.moved [c] := by
  simp [Scan.step, Scan.brace, Scan.moved, hs]

theorem foldl_quoted {q : Text} (hq : Quoted q) :
    ∀ s : Scan, s.quoting = ⟨true, false⟩ → q.foldl (Scan.step text) s = s.moved q := by
  induction hq with
  | nil => exact fun s _ ↦ rfl
  | @plain c t hquote hescape _ ih =>
    intro s hs
    have hsplit : c :: t = [c] ++ t := rfl
    rw [List.foldl_cons, step_inString (by rw [hs]), hsplit, Scan.moved_append]
    exact ih _ (by simp [Scan.moved, hs, Quoting.step, hquote, hescape])
  | @escape c t _ ih =>
    intro s hs
    have hsplit : '\\' :: c :: t = ['\\'] ++ ([c] ++ t) := rfl
    have hescaped : (s.moved ['\\']).quoting = ⟨true, true⟩ := by
      simp [Scan.moved, hs, Quoting.step]
    have hfirst : s.step text '\\' = s.moved ['\\'] := step_inString (by rw [hs]) _
    have hsecond : (s.moved ['\\']).step text c = (s.moved ['\\']).moved [c] :=
      step_inString (by rw [hescaped]) c
    rw [List.foldl_cons, List.foldl_cons, hfirst, hsecond, hsplit, Scan.moved_append,
      Scan.moved_append]
    refine ih _ ?_
    have hnext : ((s.moved ['\\']).moved [c]).quoting = (s.moved ['\\']).quoting.step c := rfl
    rw [hnext, hescaped]
    rfl

/-- A string is skipped as a whole. -/
theorem foldl_string {q : Text} (hq : Quoted q) (s : Scan) (hs : s.quoting = .outside) :
    ('"' :: q ++ ['"']).foldl (Scan.step text) s = s.moved ('"' :: q ++ ['"']) := by
  have hstep : ∀ u : Scan, ['"'].foldl (Scan.step text) u = u.moved ['"'] := by
    intro u
    simp [Scan.step, Scan.brace, Scan.moved]
  have hopened : (s.moved ['"']).quoting = ⟨true, false⟩ := by
    simp [Scan.moved, hs, Quoting.step, Quoting.outside]
  have hsplit : '"' :: q ++ ['"'] = ['"'] ++ q ++ ['"'] := rfl
  rw [hsplit, Scan.moved_append, Scan.moved_append, List.foldl_append, List.foldl_append, hstep s,
    foldl_quoted hq _ hopened, hstep]

theorem foldl_braces (b : Text) (s : Scan) :
    ('{' :: b ++ ['}']).foldl (Scan.step text) s =
      (b.foldl (Scan.step text) (s.step text '{')).step text '}' := by
  simp

/-- The scanner, moved on with everything else as it was. -/
def Scan.skip (s : Scan) (n : Nat) : Scan := { s with index := s.index + n }

theorem Scan.skip_skip (s : Scan) (m n : Nat) : (s.skip m).skip n = s.skip (m + n) := by
  simp [skip, Nat.add_assoc]

/-- Text that keeps the scanner outside of strings moves its index only. -/
theorem Scan.moved_of_outside {s : Scan} {t : Text} (hs : s.quoting = .outside)
    (ht : t.foldl Quoting.step .outside = .outside) : s.moved t = s.skip t.length := by
  rw [moved, skip, hs, ht, ← hs]

/-- An opening brace outside of strings. -/
theorem step_open {s : Scan} (hs : s.quoting = .outside) :
    s.step text '{' = s.opening.skip 1 := by
  simp [Scan.step, Scan.brace, Scan.opening, Scan.skip, hs, Quoting.step, Quoting.outside]

/-- A closing brace outside of strings, within an object. -/
theorem step_close {s : Scan} (hs : s.quoting = .outside) :
    s.step text '}' = { s.closing text with index := s.index + 1, quoting := s.quoting } := by
  simp [Scan.step, Scan.brace, hs, Quoting.step, Quoting.outside]

/-- Within an object, what is nested leaves the scanner as deep as it was. -/
theorem foldl_inner {b : Text} (hb : Inner b) :
    ∀ s : Scan, s.quoting = .outside → s.depth ≠ 0 →
      b.foldl (Scan.step text) s = s.skip b.length := by
  induction hb with
  | nil => exact fun s _ _ ↦ rfl
  | @plain c t hquote hopen hclose _ ih =>
    intro s hs hdepth
    have hstep : s.step text c = s.skip 1 := by
      simp [Scan.step, Scan.brace, Scan.skip, hs, hopen, hclose, Quoting.step, Quoting.outside,
        hquote]
    rw [List.foldl_cons, hstep, ih (s.skip 1) hs hdepth, Scan.skip_skip, List.length_cons,
      Nat.add_comm]
  | @string q t hq _ ih =>
    intro s hs hdepth
    have hsplit : '"' :: q ++ '"' :: t = ('"' :: q ++ ['"']) ++ t := by simp
    have hquoting : ('"' :: q ++ ['"']).foldl Quoting.step .outside = .outside :=
      (Inner.string hq .nil).quoting
    rw [hsplit, List.foldl_append, foldl_string hq s hs, Scan.moved_of_outside hs hquoting,
      ih (s.skip _) hs hdepth, Scan.skip_skip, ← List.length_append]
  | @object b t _ _ ihb iht =>
    intro s hs hdepth
    have hsplit : '{' :: b ++ '}' :: t = ('{' :: b ++ ['}']) ++ t := by simp
    have hclosed : Scan.step text ((s.opening.skip 1).skip b.length) '}' =
        s.skip ('{' :: b ++ ['}']).length := by
      have houtside : ((s.opening.skip 1).skip b.length).quoting = .outside := hs
      rw [step_close houtside]
      simp [Scan.closing, Scan.opening, Scan.skip, hdepth]
      omega
    rw [hsplit, List.foldl_append, foldl_braces, step_open hs,
      ihb (s.opening.skip 1) hs (Nat.succ_ne_zero _), hclosed, iht (s.skip _) hs hdepth,
      Scan.skip_skip, ← List.length_append]

/-- An object that is met outside of everything is a candidate. -/
theorem foldl_object (o : ObjectText) {before after : Text}
    (htext : text = before ++ o.text ++ after) (s : Scan) (hindex : s.index = before.length)
    (hdepth : s.depth = 0) (hs : s.quoting = .outside) :
    o.text.foldl (Scan.step text) s =
      { s.skip o.text.length with start := none, candidates := s.candidates ++ [o.text] } := by
  have hslice : text.slice s.index (s.index + 1 + o.inner.length + 1) = o.text := by
    have hlength : s.index + 1 + o.inner.length + 1 = (before ++ o.text).length := by
      simp [hindex, ObjectText.text]
      omega
    rw [hlength, htext, Text.slice_prefix, hindex, List.drop_left]
  have hclosed : Scan.step text ((s.opening.skip 1).skip o.inner.length) '}' =
      { s.skip o.text.length with start := none, candidates := s.candidates ++ [o.text] } := by
    have houtside : ((s.opening.skip 1).skip o.inner.length).quoting = .outside := hs
    rw [step_close houtside]
    simp [Scan.closing, Scan.opening, Scan.skip, hdepth, hslice, ObjectText.text]
    omega
  have hbraces : o.text = '{' :: o.inner ++ ['}'] := rfl
  rw [← hclosed, hbraces, foldl_braces, step_open hs,
    foldl_inner o.isInner (s.opening.skip 1) hs (Nat.succ_ne_zero _)]

/-- Nothing is open: the scanner stands behind `before`, outside of strings and objects. -/
structure Scan.AtRest (s : Scan) (before : Text) : Prop where
  index : s.index = before.length
  depth : s.depth = 0
  start : s.start = none
  outside : s.quoting = .outside

theorem Scan.AtRest.prose {s : Scan} {before : Text} (h : s.AtRest before) {p : Prose}
    (hp : p.Paired) : (s.moved p.text).AtRest (before ++ p.text) := by
  refine ⟨?_, h.depth, h.start, ?_⟩
  · simp [moved, h.index]
  · have hquoting : (s.moved p.text).quoting = p.text.foldl Quoting.step s.quoting := rfl
    rw [hquoting, h.outside]
    exact hp

theorem inProse_cons (p : Prose) (o : ObjectText) (pieces : List (Prose × ObjectText))
    (last : Prose) :
    inProse ((p, o) :: pieces) last = p.text ++ (o.text ++ inProse pieces last) := by
  simp [inProse]

/-- Behind paired prose, every object is found. -/
theorem foldl_inProse {last : Prose} {pieces : List (Prose × ObjectText)} :
    ∀ {before : Text} {s : Scan}, text = before ++ inProse pieces last → s.AtRest before →
      (∀ p ∈ pieces, p.1.Paired) →
      ((inProse pieces last).foldl (Scan.step text) s).candidates =
        s.candidates ++ pieces.map (·.2.text) := by
  induction pieces with
  | nil =>
    intro before s _ _ _
    have hlast : inProse [] last = last.text := rfl
    rw [hlast, foldl_prose last.noBrace, List.map_nil, List.append_nil, Scan.moved]
  | cons piece pieces ih =>
    obtain ⟨p, o⟩ := piece
    intro before s htext hrest hpaired
    have hp : p.Paired := hpaired (p, o) List.mem_cons_self
    have hmoved := hrest.prose hp
    have hsplit : text = (before ++ p.text) ++ o.text ++ inProse pieces last := by
      rw [htext, inProse_cons]
      simp
    rw [inProse_cons, List.foldl_append, List.foldl_append, foldl_prose p.noBrace,
      foldl_object o hsplit _ hmoved.index hmoved.depth hmoved.outside,
      ih hsplit ?_ fun p hp ↦ hpaired p (List.mem_cons_of_mem _ hp)]
    · simp [Scan.moved]
    · refine ⟨?_, hmoved.depth, rfl, hmoved.outside⟩
      simp [Scan.skip, hmoved.index, Nat.add_assoc]

end Found

/-! ## Braces that are lost -/

section Lost

variable {text : Text}

/-- The opening braces of a text. -/
def braces (t : Text) : Nat := t.count '{'

@[simp] theorem braces_append (t u : Text) : braces (t ++ u) = braces t + braces u :=
  List.count_append

theorem Prose.braces_eq_zero (p : Prose) : braces p.text = 0 :=
  List.count_eq_zero.mpr fun h ↦ (p.noBrace _ h).1 rfl

/-- The opening braces that the scanner has put into candidates, or into the one it is in. -/
def Scan.kept (text : Text) (s : Scan) : Nat :=
  (s.candidates.map braces).sum +
    match s.start with
    | none => 0
    | some start => braces (text.slice start s.index)

/-- What is open was opened before. -/
structure Scan.Within (s : Scan) (before : Text) : Prop where
  index : s.index = before.length
  start : ∀ start ∈ s.start, start ≤ s.index

theorem braces_slice_next {before rest : Text} {c : Char} {start : Nat}
    (htext : text = before ++ c :: rest) (hstart : start ≤ before.length) :
    braces (text.slice start (before.length + 1)) =
      braces (text.slice start before.length) + braces [c] := by
  rw [htext, Text.slice_next hstart, Text.slice_prefix, braces_append]

/-- Moving on with the same object open, or none. -/
theorem kept_same {before rest : Text} {c : Char} {s s' : Scan} (htext : text = before ++ c :: rest)
    (h : s.Within before) (hcandidates : s'.candidates = s.candidates) (hstart : s'.start = s.start)
    (hindex : s'.index = s.index + 1) : s'.kept text ≤ s.kept text + braces [c] := by
  rw [Scan.kept, Scan.kept, hcandidates, hstart, hindex, h.index]
  cases hopen : s.start with
  | none => simp
  | some start =>
    have hle : start ≤ before.length := h.index ▸ h.start start hopen
    dsimp only
    rw [braces_slice_next htext hle]
    omega

/-- A character adds the brace it is, or nothing. -/
theorem kept_step {before rest : Text} {c : Char} {s : Scan} (htext : text = before ++ c :: rest)
    (h : s.Within before) : (s.step text c).kept text ≤ s.kept text + braces [c] := by
  by_cases hstring : s.quoting.inString = true
  · exact kept_same htext h (by simp [Scan.step, Scan.brace, hstring])
      (by simp [Scan.step, Scan.brace, hstring]) rfl
  by_cases hopen : c = '{'
  · have hbrace : s.brace text c = s.opening := by simp [Scan.brace, hstring, hopen]
    by_cases hdepth : s.depth = 0
    · -- a new object: the brace is the first of its text
      have hnew : braces (text.slice before.length (before.length + 1)) = braces [c] := by
        rw [braces_slice_next htext le_rfl, htext, Text.slice_prefix, List.drop_length]
        exact Nat.zero_add _
      have hkept : (s.step text c).kept text = (s.candidates.map braces).sum + braces [c] := by
        simp only [Scan.step, hbrace, Scan.kept, Scan.opening, if_pos hdepth, h.index, hnew]
      rw [hkept, Scan.kept]
      omega
    · exact kept_same htext h (by simp [Scan.step, hbrace, Scan.opening])
        (by simp [Scan.step, hbrace, Scan.opening, hdepth]) rfl
  by_cases hclose : c = '}'
  · have hbrace : s.brace text c = s.closing text := by simp [Scan.brace, hstring, hclose]
    by_cases hlast : s.depth = 1
    · cases hstart : s.start with
      | none =>
        exact kept_same htext h (by simp [Scan.step, hbrace, Scan.closing, hlast, hstart])
          (by simp [Scan.step, hbrace, Scan.closing, hlast, hstart]) rfl
      | some start =>
        -- the object that was open becomes a candidate
        have hle : start ≤ before.length := h.index ▸ h.start start hstart
        have hkept : (s.step text c).kept text =
            (s.candidates.map braces).sum + braces (text.slice start (before.length + 1)) := by
          simp [Scan.step, hbrace, Scan.kept, Scan.closing, hlast, hstart, h.index]
        rw [hkept, braces_slice_next htext hle, Scan.kept, hstart, h.index]
        dsimp only
        omega
    · have hsame : (s.closing text).candidates = s.candidates ∧
          (s.closing text).start = s.start := by
        rw [Scan.closing, if_neg hlast]
        split <;> exact ⟨rfl, rfl⟩
      exact kept_same htext h (by rw [Scan.step, hbrace]; exact hsame.1)
        (by rw [Scan.step, hbrace]; exact hsame.2) rfl
  · have hbrace : s.brace text c = s := by simp [Scan.brace, hopen, hclose]
    exact kept_same htext h (by rw [Scan.step, hbrace]) (by rw [Scan.step, hbrace]) rfl

theorem Scan.Within.step {before : Text} {s : Scan} (h : s.Within before) (c : Char) :
    (s.step text c).Within (before ++ [c]) := by
  refine ⟨by simp [Scan.step, h.index], fun start hstart ↦ ?_⟩
  have hindex : (s.step text c).index = s.index + 1 := rfl
  have hstart' : start ∈ (s.brace text c).start := hstart
  rw [hindex]
  have hold : ∀ a ∈ s.start, a ≤ s.index + 1 := fun a ha ↦ Nat.le_succ_of_le (h.start a ha)
  rw [Scan.brace] at hstart'
  split at hstart'
  · exact hold start hstart'
  split at hstart'
  · rw [Scan.opening] at hstart'
    split at hstart'
    · cases hstart'
      exact Nat.le_succ _
    · exact hold start hstart'
  split at hstart'
  · rw [Scan.closing] at hstart'
    split at hstart'
    · exact hold start hstart'
    split at hstart'
    · split at hstart'
      · next hnone =>
        rw [hnone] at hstart'
        cases hstart'
      · cases hstart'
    · exact hold start hstart'
  · exact hold start hstart'

/-- Some text adds no more braces than it has. -/
theorem kept_foldl {t : Text} :
    ∀ {before rest : Text} {s : Scan}, text = before ++ t ++ rest → s.Within before →
      (t.foldl (Scan.step text) s).kept text ≤ s.kept text + braces t := by
  induction t with
  | nil => exact fun _ _ ↦ Nat.le_add_right _ _
  | cons c t ih =>
    intro before rest s htext h
    have hsplit : text = before ++ c :: (t ++ rest) := by simpa using htext
    have hnext : text = (before ++ [c]) ++ t ++ rest := by simpa using htext
    have hstep := kept_step hsplit h
    have hrest := ih (s := s.step text c) hnext (h.step c)
    have hcons : braces (c :: t) = braces [c] + braces t := braces_append [c] t
    rw [List.foldl_cons, hcons]
    omega

/-- A backslash is remembered inside strings only. -/
theorem escaped_of_outside (t : Text) :
    ∀ q : Quoting, (q.inString = false → q.escaped = false) →
      (t.foldl Quoting.step q).inString = false → (t.foldl Quoting.step q).escaped = false := by
  induction t with
  | nil => exact fun _ hq ↦ hq
  | cons c t ih =>
    intro q hq
    refine ih _ ?_
    grind [Quoting.step]

theorem inString_of_unpaired {t : Text} (h : t.foldl Quoting.step .outside ≠ .outside) :
    (t.foldl Quoting.step .outside).inString = true := by
  by_contra hout
  rw [Bool.not_eq_true] at hout
  have hescaped := escaped_of_outside t .outside (fun _ ↦ rfl) hout
  have heta : ∀ q : Quoting, q.inString = false → q.escaped = false → q = .outside := by
    rintro ⟨inString, escaped⟩ rfl rfl
    rfl
  exact h (heta _ hout hescaped)

theorem Scan.AtRest.within {s : Scan} {before : Text} (h : s.AtRest before) : s.Within before :=
  ⟨h.index, fun start hstart ↦ by rw [h.start] at hstart; cases hstart⟩

theorem Scan.AtRest.kept_eq {s : Scan} {before : Text} (h : s.AtRest before) :
    s.kept text = (s.candidates.map braces).sum := by
  rw [Scan.kept, h.start]
  rfl

/-- Behind prose that is not paired, the first brace of an object is lost. -/
theorem kept_unpaired {p : Prose} {o : ObjectText} {before rest : Text} {s : Scan}
    (htext : text = before ++ (p.text ++ (o.text ++ rest))) (h : s.AtRest before)
    (hp : ¬p.Paired) :
    ((p.text ++ (o.text ++ rest)).foldl (Scan.step text) s).kept text <
      s.kept text + braces (p.text ++ (o.text ++ rest)) := by
  have hinside : (s.moved p.text).quoting.inString = true := by
    have hquoting : (s.moved p.text).quoting = p.text.foldl Quoting.step s.quoting := rfl
    rw [hquoting, h.outside]
    exact inString_of_unpaired hp
  have hlost : (s.moved p.text).step text '{' = (s.moved p.text).moved ['{'] :=
    step_inString hinside '{'
  have hafter : text = (before ++ p.text ++ ['{']) ++ (o.inner ++ ['}'] ++ rest) ++ [] := by
    rw [htext, ObjectText.text]
    simp
  have hwithin : ((s.moved p.text).moved ['{']).Within (before ++ p.text ++ ['{']) := by
    refine ⟨by simp [Scan.moved, h.index, Nat.add_assoc], fun start hstart ↦ ?_⟩
    have hnone : start ∈ s.start := hstart
    rw [h.start] at hnone
    cases hnone
  have hkept : ((s.moved p.text).moved ['{']).kept text = s.kept text := by
    simp [Scan.kept, Scan.moved, h.start]
  have hle := kept_foldl hafter hwithin
  have hobject : p.text ++ (o.text ++ rest) = p.text ++ ('{' :: (o.inner ++ ['}'] ++ rest)) := by
    simp [ObjectText.text]
  have hcount : braces ('{' :: (o.inner ++ ['}'] ++ rest)) =
      1 + braces (o.inner ++ ['}'] ++ rest) := braces_append ['{'] _
  rw [hobject, List.foldl_append, foldl_prose p.noBrace, List.foldl_cons, hlost, braces_append,
    hcount]
  omega

/-- Where some prose is not paired, the candidates hold fewer braces than the text. -/
theorem kept_inProse {last : Prose} {pieces : List (Prose × ObjectText)} :
    ∀ {before : Text} {s : Scan}, text = before ++ inProse pieces last → s.AtRest before →
      ¬(∀ p ∈ pieces, p.1.Paired) →
      ((inProse pieces last).foldl (Scan.step text) s).kept text <
        s.kept text + braces (inProse pieces last) := by
  induction pieces with
  | nil =>
    intro before s _ _ hpaired
    exact absurd (fun _ h ↦ (nomatch h)) hpaired
  | cons piece pieces ih =>
    obtain ⟨p, o⟩ := piece
    intro before s htext hrest hpaired
    rw [inProse_cons] at htext ⊢
    by_cases hp : p.Paired
    · have hothers : ¬(∀ p ∈ pieces, p.1.Paired) := by
        intro hall
        refine hpaired fun q hq ↦ ?_
        rcases List.mem_cons.mp hq with rfl | hq
        · exact hp
        · exact hall q hq
      have hmoved := hrest.prose hp
      have hsplit : text = (before ++ p.text) ++ o.text ++ inProse pieces last := by
        rw [htext]
        simp
      have hobject := foldl_object o hsplit _ hmoved.index hmoved.depth hmoved.outside
      have hnext : ({ (s.moved p.text).skip o.text.length with
          start := none, candidates := (s.moved p.text).candidates ++ [o.text] } : Scan).AtRest
            (before ++ p.text ++ o.text) := by
        refine ⟨?_, hmoved.depth, rfl, hmoved.outside⟩
        simp [Scan.skip, hmoved.index, Nat.add_assoc]
      have hlt := ih hsplit hnext hothers
      rw [hnext.kept_eq] at hlt
      rw [List.foldl_append, List.foldl_append, foldl_prose p.noBrace, hobject, hrest.kept_eq,
        braces_append, braces_append]
      simp only [Scan.moved, List.map_append, List.map_cons, List.map_nil, List.sum_append,
        List.sum_cons, List.sum_nil] at hlt ⊢
      omega
    · exact kept_unpaired htext hrest hp

end Lost

/-! ## The objects of a reply -/

theorem braces_inProse (pieces : List (Prose × ObjectText)) (last : Prose) :
    braces (inProse pieces last) = ((pieces.map (·.2.text)).map braces).sum := by
  induction pieces with
  | nil => exact last.braces_eq_zero
  | cons piece pieces ih =>
    obtain ⟨p, o⟩ := piece
    rw [inProse_cons, braces_append, braces_append, p.braces_eq_zero, ih, Nat.zero_add]
    rfl

/-- The objects in a text are found, the last one first, exactly when every piece of prose in front
of one has its quotes in pairs. -/
theorem jsonObjectCandidates_inProse_iff (pieces : List (Prose × ObjectText)) (last : Prose) :
    jsonObjectCandidates (inProse pieces last) = (pieces.map (·.2.text)).reverse ↔
      ∀ p ∈ pieces, p.1.Paired := by
  have hrest : Scan.init.AtRest [] := ⟨rfl, rfl, rfl, rfl⟩
  have htext : inProse pieces last = [] ++ inProse pieces last := rfl
  rw [jsonObjectCandidates, List.reverse_inj]
  constructor
  · intro hfound
    by_contra hpaired
    have hlt := kept_inProse htext hrest hpaired
    have hkept : braces (inProse pieces last) ≤
        ((inProse pieces last).foldl (Scan.step (inProse pieces last)) .init).kept
          (inProse pieces last) := by
      rw [Scan.kept, hfound, braces_inProse]
      exact Nat.le_add_right _ _
    have hinit : Scan.init.kept (inProse pieces last) = 0 := rfl
    omega
  · exact foldl_inProse htext hrest

theorem Quoted.of_plain {t : Text} (ht : ∀ c ∈ t, c ≠ '"' ∧ c ≠ '\\') : Quoted t := by
  induction t with
  | nil => exact .nil
  | cons c t ih =>
    obtain ⟨hquote, hescape⟩ := ht c List.mem_cons_self
    exact .plain hquote hescape (ih fun c' hc' ↦ ht c' (List.mem_cons_of_mem _ hc'))

/-- The members of an object that reports a failure. -/
theorem sampleFail_json : JsonText .members "\"verdict\":\"FAIL\"".toList := by
  have hkey : JsonText .value ('"' :: "verdict".toList ++ ['"']) :=
    .string (Quoted.of_plain (by simp))
  have hvalue : JsonText .value ('"' :: "FAIL".toList ++ ['"']) :=
    .string (Quoted.of_plain (by simp))
  exact .lastMember (.pair (q := "verdict\"".toList) hkey hvalue)

def sampleFail : ObjectText := .ofJson sampleFail_json

def sampleInches : Prose := ⟨"Use a 5\" disk. ".toList, by simp⟩

/-- Behind a measure in inches, the object of a reply is not found. -/
theorem jsonObjectCandidates_behind_inches :
    JsonText .members sampleFail.inner ∧
      jsonObjectCandidates (inProse [(sampleInches, sampleFail)] ⟨[], nofun⟩) = [] ∧
      jsonObjectCandidates (inProse [(sampleInches, sampleFail)] ⟨[], nofun⟩) ≠
        [sampleFail.text] := by
  refine ⟨sampleFail_json, ?_, ?_⟩ <;> decide

end HibikiCore
