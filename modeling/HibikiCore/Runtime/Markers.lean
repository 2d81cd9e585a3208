import HibikiCore.Text.Pattern

/-!
# Markers in a reply

A model reports by a marker in its text that it is blocked, has failed, or has passed. A marker
that is only discussed is ignored: `markerIsNegated` looks for one of a few words behind it, with a
negation in between. The negation is optional in the pattern, and so are the verb and the spaces:
what the pattern finds is a head behind a closing bracket, negated or not. It looks no further than
the eighty characters from the mention, but as far as these, also beyond the end of the sentence.

`markersHonoured_iff` says which texts are read as they are meant.
-/

namespace HibikiCore

def blockedMarker : Text := "[[HIBIKI:BLOCKED]]".toList
def failMarker : Text := "[[HIBIKI:FAIL]]".toList
def passMarker : Text := "[[HIBIKI:PASS]]".toList

def markers : List Text := [blockedMarker, failMarker, passMarker]

def negationCues : List String := ["n't", "never", "cannot", "can't", "without", "no", "not"]

def negationHeads : List String := ["applicable", "needed", "required", "relevant"]

def copulas : List String := ["is", "was", "are", "were", "isn't", "wasn't"]

/-- The list of cues that are looked for before a marker is empty, and so the pattern for them
matches nothing. -/
def preMarkerPattern : Pattern := .never

def head : Pattern := .oneOf (negationHeads.map anyCase)

/-- A negation, as it may stand right before a head. -/
def negationAside : Pattern :=
  .oneOf [.sequence [anyCase "not", .many isSpace 1 none],
    .sequence [anyCase "no", .many isSpace 1 none]]

/-- A head behind a closing bracket and at most forty characters of the same line and sentence. A
verb, spaces and a negation may stand right before it. -/
def postMarkerNegation : Pattern :=
  .sequence
    [.one (· == ']'), .many (fun c ↦ c != '.' && c != '\n') 0 (some 40), .boundary,
      (Pattern.oneOf (copulas.map anyCase)).optional, .many isSpace 0 none,
      negationAside.optional, head, .boundary]

/-- The clause in front of a marker. -/
def clauseBefore (text : Text) (index : Nat) : Text :=
  let before := text.slice (index - 60) index
  let before := match Text.rfind "[[HIBIKI:".toList before with
    | none => before
    | some cut => before.take cut
  [". ", ".\n", "! ", "? ", "; ", "\n", "."].foldl (fun clause separator ↦
    match Text.rfind separator.toList clause with
    | none => clause
    | some position => clause.drop (position + separator.length)) (before.map Char.toLower)

variable (isWord : Char → Bool)

/-- The marker at a place is discussed rather than asserted. -/
def markerIsNegated (text : Text) (index : Nat) : Bool :=
  preMarkerPattern.search isWord (clauseBefore text index) ||
    postMarkerNegation.search isWord (text.slice index (index + 80))

/-- Some mention of a marker is asserted. -/
def asserted (token text : Text) : Bool :=
  (Text.occurrences token text).any fun index ↦ !markerIsNegated isWord text index

/-- A verdict, as a reply gives it. -/
inductive ReplyVerdict
  | pass | fail
  deriving DecidableEq, Repr

/-- The asserted marker of a verdict; a failure goes before a success. -/
def markerVerdict (text : Text) : Option ReplyVerdict :=
  if asserted isWord failMarker text then some .fail
  else if asserted isWord passMarker text then some .pass
  else none

def assertedBlocked (text : Text) : Bool := asserted isWord blockedMarker text

/-! ## What the pattern finds -/

/-- A verb, spaces and a negation with spaces behind it; none of the three has to be there. -/
structure Aside (text : Text) : Prop where
  parts : ∃ verb spaces negation, text = verb ++ spaces ++ negation ∧
    (IsOneOf copulas verb ∨ verb = []) ∧ (∀ c ∈ spaces, isSpace c = true) ∧
    ((∃ no gap, negation = no ++ gap ∧ IsOneOf ["not", "no"] no ∧ gap ≠ [] ∧
      ∀ c ∈ gap, isSpace c = true) ∨ negation = [])

/-- A text ends towards a head behind it: with a closing bracket, at most forty characters of the
same line and sentence up to the edge of a word, and what may be put before a head. -/
structure OpenTowards (text head : Text) : Prop where
  parts : ∃ before gap aside, text = before ++ ']' :: gap ++ aside ∧ gap.length ≤ 40 ∧
    (∀ c ∈ gap, c ≠ '.' ∧ c ≠ '\n') ∧ Aside aside ∧
    Pattern.isBoundary isWord (before ++ ']' :: gap) (aside ++ head) = true

/-- In a window, a head stands as a word behind `front`, which is open towards it. -/
structure HeadBehind (window front : Text) : Prop where
  parts : ∃ word after, window = front ++ word ++ after ∧ IsOneOf negationHeads word ∧
    OpenTowards isWord front word ∧ Pattern.isBoundary isWord (front ++ word) after = true

theorem IsWord.length_eq {word : String} {text : Text} (h : IsWord word text) :
    text.length = word.length := by
  rw [← List.Forall₂.length_eq h, String.length_toList]

/-- No head is shorter than the shortest. -/
theorem length_head {word : Text} (h : IsOneOf negationHeads word) : 6 ≤ word.length := by
  obtain ⟨head, hmem, hword⟩ := h
  rw [hword.length_eq]
  have hall : ∀ head ∈ negationHeads, 6 ≤ head.length := by decide
  exact hall head hmem

/-- The signs that end a sentence. -/
def endsSentence (c : Char) : Bool := c ∈ ['.', '!', '?', '\n']

/-- A word that negates; the short form is the end of its verb. -/
def negation : Pattern :=
  .sequence
    [.oneOf [anyCase "n't", .sequence [.boundary, .oneOf (negationCues.map anyCase)]], .boundary]

/-- From a place on, and within the sentence there, a negation stands. -/
def NegationIn (text : Text) (start : Nat) : Prop :=
  ∃ before m after, text = before ++ m ++ after ∧ start ≤ before.length ∧
    (∀ c ∈ before.drop start ++ m, endsSentence c = false) ∧ negation.Fits isWord before m after

theorem NegationIn.negation {text : Text} {start : Nat} (h : NegationIn isWord text start) :
    negation.search isWord text = true := by
  obtain ⟨before, m, after, rfl, -, -, hfits⟩ := h
  exact (Pattern.search_iff isWord).mpr ⟨before, m, after, rfl, hfits⟩

/-- What is put behind a text to end its last sentence: nothing, if it has ended. -/
structure SentenceEnd (text ending : Text) : Prop where
  signs : ∀ c ∈ ending, endsSentence c = true
  last : ∃ c, (text ++ ending).getLast? = some c ∧ endsSentence c = true

/-- What the word characters of a regular expression have to do with the signs used here. -/
structure WordClass : Prop where
  letter : ∀ c, c.isAlpha = true → isWord c = true
  sign : ∀ c, endsSentence c = true → isWord c = false
  bracket : isWord ']' = false

section Behind

variable {isWord} {text ending sentence front word : Text} {index : Nat}

/-- The letters of a head end no sentence. -/
theorem endsSentence_of_head (h : IsOneOf negationHeads word) :
    ∀ c ∈ word, endsSentence c = false := by
  obtain ⟨head, hmem, hword⟩ := h
  intro c hc
  obtain ⟨n, hn, rfl⟩ := List.getElem_of_mem hc
  have hn' : n < head.toList.length := by
    rw [String.length_toList, ← hword.length_eq]
    exact hn
  have hletter : sameLetter head.toList[n] word[n] = true := hword.get hn' hn
  have hall : (negationHeads.all fun head ↦ head.toList.all fun l ↦
      ['.', '!', '?', '\n'].all fun c ↦ !sameLetter l c) = true := by decide
  simp only [List.all_eq_true, Bool.not_eq_true'] at hall
  rw [endsSentence, decide_eq_false_iff_not]
  intro hsign
  rw [hall head hmem _ (List.getElem_mem hn') _ hsign] at hletter
  cases hletter

/-- Both ends of the shortest head are characters of words. -/
theorem isWord_needed (hw : WordClass isWord) (h : IsWord "needed" word) :
    word.head?.any isWord = true ∧ word.getLast?.any isWord = true := by
  have hletter {l c : Char} (hl : l = 'n' ∨ l = 'd') (hc : sameLetter l c = true) :
      isWord c = true := by
    refine hw.letter c ?_
    have hcase : c = l ∨ c.toLower = l := by
      rcases hl with rfl | rfl <;> simpa [sameLetter] using hc
    rcases hcase with rfl | hlower
    · rcases hl with rfl | rfl <;> rfl
    · by_cases hupper : c.isUpper = true
      · exact Bool.or_eq_true_iff.mpr (.inl hupper)
      · have hsame : c.toLower = c := dif_neg fun h ↦ hupper (decide_eq_true h)
        obtain rfl := hsame.symm.trans hlower
        rcases hl with rfl | rfl <;> rfl
  rw [IsWord, show "needed".toList = ['n', 'e', 'e', 'd', 'e', 'd'] from rfl] at h
  rcases h with - | ⟨hn, - | ⟨-, - | ⟨-, - | ⟨-, - | ⟨-, - | ⟨hd, hnil⟩⟩⟩⟩⟩⟩
  obtain rfl := List.forall₂_nil_left_iff.mp hnil
  exact ⟨hletter (.inl rfl) hn, hletter (.inr rfl) hd⟩

/-- A head that is found behind a text that was ended stands in the text, or behind its end. -/
theorem HeadBehind.within (hw : WordClass isWord) (hending : SentenceEnd text ending)
    (h : HeadBehind isWord (text ++ ending ++ sentence) front) :
    HeadBehind isWord text front ∨ (text ++ ending) <+: front := by
  obtain ⟨word, after, heq, hword, hopen, hend⟩ := h.parts
  have hplain := endsSentence_of_head hword
  have hne : word ≠ [] := by
    have := length_head hword
    exact List.ne_nil_of_length_pos (by omega)
  -- a sign that ends the text is none of the letters of the head
  have hnot {c : Text} (hc : c ≠ []) (htext : text ++ ending = front ++ c)
      (hsub : ∀ a ∈ c, a ∈ word) : False := by
    obtain ⟨e, hlast, he⟩ := hending.last
    rw [htext, List.getLast?_append_of_ne_nil _ hc] at hlast
    rw [hplain e (hsub e (List.mem_of_getLast? hlast))] at he
    cases he
  rw [List.append_assoc front] at heq
  rcases List.append_eq_append_iff.mp heq with ⟨a, hfront, -⟩ | ⟨c, htext, hrest⟩
  · exact .inr ⟨a, hfront.symm⟩
  rcases List.append_eq_append_iff.mp hrest with ⟨d, rfl, rfl⟩ | ⟨d, rfl, -⟩
  · have hsplit : ∃ d', text = front ++ word ++ d' ∧ d = d' ++ ending := by
      rw [← List.append_assoc] at htext
      rcases List.append_eq_append_iff.mp htext with ⟨x, hx, rfl⟩ | hsplit
      · by_cases hnil : x = []
        · subst hnil
          exact ⟨[], by simpa using hx.symm, rfl⟩
        · -- the head would end with a sign that was added
          obtain ⟨e, he⟩ := Option.ne_none_iff_exists'.mp (List.getLast?_eq_none_iff.not.mpr hnil)
          have hlast : word.getLast? = some e := by
            rw [← List.getLast?_append_of_ne_nil front hne, hx,
              List.getLast?_append_of_ne_nil _ hnil, he]
          have hsign := hending.signs e (List.mem_append_left _ (List.mem_of_getLast? he))
          rw [hplain e (List.mem_of_getLast? hlast)] at hsign
          cases hsign
      · exact hsplit
    obtain ⟨d', rfl, rfl⟩ := hsplit
    refine .inl ⟨word, d', rfl, hword, hopen, ?_⟩
    cases d' with
    | cons a d' => exact hend
    | nil =>
      cases ending with
      | nil => exact (hnot hne (by simp) fun a ha ↦ ha).elim
      | cons e ending =>
        have he : isWord e = false := hw.sign e (hending.signs e List.mem_cons_self)
        simpa [Pattern.isBoundary, he] using hend
  · by_cases hc : c = []
    · subst hc
      exact .inr ⟨[], by simpa using htext⟩
    · exact (hnot hc htext fun a ha ↦ List.mem_append_left d ha).elim

/-- What ends a text ends every part of it behind a place. -/
theorem SentenceEnd.drop (h : SentenceEnd text ending) (hne : text.drop index ≠ []) :
    SentenceEnd (text.drop index) ending where
  signs := h.signs
  last := by
    obtain ⟨c, hlast, hc⟩ := h.last
    refine ⟨c, ?_, hc⟩
    rw [← List.take_append_drop index text, List.append_assoc,
      List.getLast?_append_of_ne_nil _ (List.append_ne_nil_of_left_ne_nil hne _)] at hlast
    exact hlast

/-- A text that was ended is ended by the first of the signs as well. -/
theorem SentenceEnd.take (h : SentenceEnd text ending) {n : Nat} (hn : n ≠ 0) :
    SentenceEnd text (ending.take n) where
  signs c hc := h.signs c (List.mem_of_mem_take hc)
  last := by
    cases ending with
    | nil => simpa using h.last
    | cons e rest =>
      have hne : (e :: rest).take n ≠ [] := by simpa using hn
      refine ⟨((e :: rest).take n).getLast hne, ?_,
        h.signs _ (List.mem_of_mem_take (List.getLast_mem hne))⟩
      rw [List.getLast?_append_of_ne_nil _ hne, List.getLast?_eq_some_getLast hne]

/-- A text that is open towards one word is open towards another. -/
theorem OpenTowards.other {word' : Text} (h : OpenTowards isWord text word)
    (hsame : word.head?.any isWord = word'.head?.any isWord) : OpenTowards isWord text word' := by
  obtain ⟨before, gap, aside, rfl, hlength, hgap, haside, hstart⟩ := h.parts
  refine ⟨before, gap, aside, rfl, hlength, hgap, haside, ?_⟩
  rw [← hstart, Pattern.isBoundary, Pattern.isBoundary]
  cases aside with
  | nil => rw [List.nil_append, List.nil_append, hsame]
  | cons c aside => rfl

/-- The only head that has the length of the shortest is the shortest. -/
theorem isWord_of_length (h : IsOneOf negationHeads word) (hlength : word.length = 6) :
    IsWord "needed" word := by
  obtain ⟨head, hmem, hword⟩ := h
  have hall : ∀ head ∈ negationHeads, head.length = 6 → head = "needed" := by decide
  rwa [← hall head hmem (hword.length_eq.symm.trans hlength)]

/-- A head that is found in a window only since a sentence was added leaves little room. -/
theorem HeadBehind.room (hw : WordClass isWord) (hending : SentenceEnd text ending)
    (hclear : ∀ front, ¬HeadBehind isWord (text.take 80) front)
    (h : HeadBehind isWord ((text ++ ending ++ sentence).take 80) front) :
    (text ++ ending).length < 74 ∨
      (text ++ ending).length = 74 ∧ OpenTowards isWord (text ++ ending) "needed".toList := by
  by_cases hlong : 80 ≤ text.length
  · rw [List.append_assoc, List.take_append_of_le_length hlong] at h
    exact (hclear front h).elim
  have htext : text.take 80 = text := List.take_of_length_le (by omega)
  rw [List.take_append, List.take_append, htext] at h
  rw [htext] at hclear
  have hstands : (text ++ ending.take (80 - text.length)) <+: front :=
    (h.within hw (hending.take (by omega))).resolve_left (hclear front)
  obtain ⟨word, after, heq, hword, hopen, hend⟩ := h.parts
  have hhead := length_head hword
  have hfront := hstands.length_le
  have hlength := congrArg List.length heq
  simp only [List.length_append, List.length_take] at hfront hlength
  rw [List.length_append]
  by_cases hshort : text.length + ending.length < 74
  · exact .inl hshort
  -- the head is the shortest, and stands right behind the end
  have hall : ending.take (80 - text.length) = ending := List.take_of_length_le (by omega)
  rw [hall] at hstands
  have hsix : word.length = 6 := by omega
  obtain rfl : text ++ ending = front := by
    refine hstands.eq_of_length ?_
    rw [List.length_append]
    omega
  refine .inr ⟨by omega, hopen.other ?_⟩
  rw [(isWord_needed hw (isWord_of_length hword hsix)).1]
  exact (hw.letter 'n' rfl).symm

end Behind

/-- The characters of words, among those of a keyboard. -/
def asciiWord (c : Char) : Bool := c.isAlphanum || c == '_'

end HibikiCore
