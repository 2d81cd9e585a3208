import HibikiCore.Domain.Content
import HibikiCore.Domain.Errors
import HibikiCore.Runtime.Markers
import HibikiCore.Runtime.Objects

/-!
# The result a worker reports

When its model has finished, a worker reports a result: an outcome, a verdict and the evidence for
it. They are recovered from the text of the model. A complete object counts before a marker, and
where neither says anything, what stands in the way of a delivery decides.

`Reports` says what a reply reports; the parser computes it. A result is justified when a reported
success is warranted by the reply and by what was published, and a reported block claims nothing.
`submitResult_justified_iff` says which inputs mislead the worker to a result that is not.
-/

namespace HibikiCore

/-! ## Values -/

/-- A decoded value. Keys of an object are different. -/
inductive ReplyValue
  | null
  | bool (b : Bool)
  | number (digits : Text) (nonzero : Bool)
  | string (text : Text)
  | array (items : List ReplyValue)
  | object (members : List (Text × ReplyValue))
  deriving Repr

abbrev ReplyObject := List (Text × ReplyValue)

namespace ReplyValue

/-- `bool(value)` -/
def truthy : ReplyValue → Bool
  | null => false
  | bool b => b
  | number _ nonzero => nonzero
  | string text => !text.isEmpty
  | array items => !items.isEmpty
  | object members => !members.isEmpty

end ReplyValue

/-- `payload.get(key)`, where an absent value is `None` -/
def ReplyObject.get (payload : ReplyObject) (key : String) : ReplyValue :=
  ((payload.find? fun m ↦ m.1 == key.toList).map Prod.snd).getD .null

/-- What the libraries of the interpreter contribute: the characters of words, the decoder, and the
text of a value that is none. -/
structure Interpreter where
  isWord : Char → Bool
  loads : Text → Option ReplyValue
  repr : ReplyValue → Text

/-- `str(value)` -/
def Interpreter.str (I : Interpreter) : ReplyValue → Text
  | .string text => text
  | value => I.repr value

/-! ## Reading the reply -/

/-- An outcome, as a reply gives it. -/
inductive ReplyOutcome
  | completed | blocked
  deriving DecidableEq, Repr

/-- The fields of a result that a reply gives. -/
structure ExplicitResult where
  verdict : Option ReplyVerdict := none
  outcome : Option ReplyOutcome := none
  evidence : Option (List ReplyObject) := none

/-- `value in {…}`: a list or an object cannot be looked up in a set. -/
def recognised {α : Type} (known : List (String × α)) : ReplyValue → Except Error (Option α)
  | .array _ => .error ⟨.uncaught, "TypeError", "unhashable type: 'list'"⟩
  | .object _ => .error ⟨.uncaught, "TypeError", "unhashable type: 'dict'"⟩
  | .string text => .ok ((known.find? fun k ↦ k.1.toList == text).map Prod.snd)
  | _ => .ok none

/-- The entries of an evidence list that are objects. -/
def validEvidenceItems (items : List ReplyValue) : List ReplyObject :=
  items.filterMap fun item ↦ match item with
    | .object members => some members
    | _ => none

def payloadFields (payload : ReplyObject) : Except Error ExplicitResult := do
  let verdict ← recognised [("PASS", .pass), ("FAIL", .fail)] (payload.get "verdict")
  let outcome ← recognised [("COMPLETED", .completed), ("BLOCKED", .blocked)]
    (payload.get "outcome")
  let evidence := match payload.get "acceptance_evidence" with
    | .array items => some (validEvidenceItems items)
    | _ => none
  return { verdict, outcome, evidence }

variable (I : Interpreter)

/-- The first candidate that gives a verdict or an outcome; failing that, the last one that gives
evidence. -/
def readCandidates : List Text → Option ExplicitResult → Except Error (Option ExplicitResult)
  | [], evidenceOnly => .ok evidenceOnly
  | candidate :: rest, evidenceOnly =>
    match I.loads candidate with
    | some (.object payload) => do
      let fields ← payloadFields payload
      if fields.verdict.isSome || fields.outcome.isSome then return some fields
      else if fields.evidence.isSome then readCandidates rest (some fields)
      else readCandidates rest evidenceOnly
    | _ => readCandidates rest evidenceOnly

/-- What a non-empty text without any object says by a marker. -/
def markerResult (content : Text) : ExplicitResult :=
  match markerVerdict I.isWord content with
  | none => {}
  | some verdict => { verdict := some verdict, outcome := some .completed }

def parseExplicitResult : Option Text → Except Error ExplicitResult
  | none => .ok {}
  | some content =>
    if content = [] then .ok {}
    else do
      let candidates := jsonObjectCandidates content.strip
      match ← readCandidates I candidates none with
      | some fields => return fields
      | none => return if candidates = [] then markerResult I content else {}

/-! ## What a reply reports -/

/-- A result decides when it has a verdict or an outcome. -/
def ExplicitResult.decides (e : ExplicitResult) : Bool := e.verdict.isSome || e.outcome.isSome

/-- A complete object gives a result. -/
def Presents (candidate : Text) (e : ExplicitResult) : Prop :=
  ∃ payload, I.loads candidate = some (.object payload) ∧ payloadFields payload = .ok e

/-- A complete object that is read does not decide. -/
def Undecided (candidate : Text) : Prop :=
  ∀ payload, I.loads candidate = some (.object payload) →
    ∃ e, payloadFields payload = .ok e ∧ e.decides = false

/-- A complete object that is read gives nothing at all. -/
def Void (candidate : Text) : Prop :=
  ∀ payload, I.loads candidate = some (.object payload) →
    ∃ e, payloadFields payload = .ok e ∧ e.decides = false ∧ e.evidence = none

/-- Of several objects, in the order in which they are read, what the one gives that counts: the
first that decides, or else the last that gives evidence. -/
inductive Prevails (candidates : List Text) (e : ExplicitResult) : Prop
  | decisive {before after : List Text} {candidate : Text}
      (hsplit : candidates = before ++ candidate :: after) (hbefore : ∀ c ∈ before, Undecided I c)
      (hpresents : Presents I candidate e) (hdecides : e.decides = true)
  | evidence {before after : List Text} {candidate : Text}
      (hsplit : candidates = before ++ candidate :: after) (hbefore : ∀ c ∈ before, Undecided I c)
      (hpresents : Presents I candidate e) (hundecided : e.decides = false)
      (hevidence : e.evidence.isSome = true) (hafter : ∀ c ∈ after, Void I c)

/-- What a reply reports. A reply with objects of which none counts reports nothing, whatever
markers it has. -/
inductive Reports : Option Text → ExplicitResult → Prop
  | silent {reply : Option Text} (h : ∀ content ∈ reply, content = []) : Reports reply {}
  | object {content : Text} {e : ExplicitResult} (hcontent : content ≠ [])
      (hprevails : Prevails I (jsonObjectCandidates content.strip) e) : Reports (some content) e
  | unusable {content : Text} (hcontent : content ≠ [])
      (hsome : jsonObjectCandidates content.strip ≠ [])
      (hvoid : ∀ c ∈ jsonObjectCandidates content.strip, Void I c) : Reports (some content) {}
  | marker {content : Text} (hcontent : content ≠ [])
      (hnone : jsonObjectCandidates content.strip = []) :
      Reports (some content) (markerResult I content)

section Reading

variable {I}

theorem Void.undecided {c : Text} (h : Void I c) : Undecided I c := fun payload hloads ↦
  let ⟨e, he, hnot, _⟩ := h payload hloads
  ⟨e, he, hnot⟩

/-- What counts of several objects is what the first gives, or what counts of the others. -/
theorem prevails_cons {c : Text} {candidates : List Text} {e : ExplicitResult} :
    Prevails I (c :: candidates) e ↔
      (Presents I c e ∧ (e.decides = true ∨ e.decides = false ∧ e.evidence.isSome = true ∧
        ∀ c' ∈ candidates, Void I c')) ∨ Undecided I c ∧ Prevails I candidates e := by
  constructor
  · rintro (⟨hsplit, hbefore, hpresents, hdecides⟩ |
      ⟨hsplit, hbefore, hpresents, hundecided, hevidence, hafter⟩)
    · rcases List.cons_eq_append_iff.mp hsplit with ⟨rfl, heq⟩ | ⟨before, rfl, rfl⟩
      · obtain ⟨rfl, rfl⟩ := List.cons.inj heq
        exact .inl ⟨hpresents, .inl hdecides⟩
      · obtain ⟨hc, hbefore⟩ := List.forall_mem_cons.mp hbefore
        exact .inr ⟨hc, .decisive rfl hbefore hpresents hdecides⟩
    · rcases List.cons_eq_append_iff.mp hsplit with ⟨rfl, heq⟩ | ⟨before, rfl, rfl⟩
      · obtain ⟨rfl, rfl⟩ := List.cons.inj heq
        exact .inl ⟨hpresents, .inr ⟨hundecided, hevidence, hafter⟩⟩
      · obtain ⟨hc, hbefore⟩ := List.forall_mem_cons.mp hbefore
        exact .inr ⟨hc, .evidence rfl hbefore hpresents hundecided hevidence hafter⟩
  · rintro (⟨hpresents, hdecides | ⟨hundecided, hevidence, hafter⟩⟩ | ⟨hc, hprevails⟩)
    · exact .decisive (List.nil_append _).symm nofun hpresents hdecides
    · exact .evidence (List.nil_append _).symm nofun hpresents hundecided hevidence hafter
    · rcases hprevails with ⟨rfl, hbefore, hpresents, hdecides⟩ |
        ⟨rfl, hbefore, hpresents, hundecided, hevidence, hafter⟩
      · exact .decisive (List.cons_append ..).symm (List.forall_mem_cons.mpr ⟨hc, hbefore⟩) hpresents
          hdecides
      · exact .evidence (List.cons_append ..).symm (List.forall_mem_cons.mpr ⟨hc, hbefore⟩) hpresents
          hundecided hevidence hafter

/-- Reading comes to what counts, or to what was there before. -/
theorem readCandidates_iff {candidates : List Text} {last r : Option ExplicitResult} :
    readCandidates I candidates last = .ok r ↔
      (∃ e, Prevails I candidates e ∧ r = some e) ∨ (∀ c ∈ candidates, Void I c) ∧ r = last := by
  induction candidates generalizing last with
  | nil =>
    have hnone (e : ExplicitResult) : ¬Prevails I [] e := by
      rintro (⟨hsplit, -⟩ | ⟨hsplit, -⟩) <;> simp at hsplit
    simp [readCandidates, hnone, eq_comm]
  | cons c candidates ih =>
    simp only [prevails_cons, List.forall_mem_cons]
    by_cases hobject : ∃ payload, I.loads c = some (.object payload)
    · obtain ⟨payload, hloads⟩ := hobject
      have hundecided : Undecided I c ↔ ∃ e, payloadFields payload = .ok e ∧ e.decides = false := by
        simp [Undecided, hloads]
      have hvoid : Void I c ↔
          ∃ e, payloadFields payload = .ok e ∧ e.decides = false ∧ e.evidence = none := by
        simp [Void, hloads]
      have hpresents (e : ExplicitResult) : Presents I c e ↔ payloadFields payload = .ok e := by
        simp [Presents, hloads]
      simp only [hundecided, hvoid, hpresents, readCandidates, hloads]
      cases hfields : payloadFields payload with
      | error error => simp [bind, Except.bind]
      | ok fields =>
        change (if fields.verdict.isSome || fields.outcome.isSome then _ else _) = Except.ok r ↔ _
        rw [show (fields.verdict.isSome || fields.outcome.isSome) = fields.decides from rfl]
        cases hdecides : fields.decides
        · cases hevidence : fields.evidence
          · simp [ih, hdecides, hevidence, or_and_right, exists_or, and_assoc]
          · have hsome : fields.evidence.isSome = true := by rw [hevidence]; rfl
            change readCandidates I candidates (some fields) = .ok r ↔ _
            rw [ih]
            constructor
            · rintro (⟨e, hprevails, rfl⟩ | ⟨hvoid, rfl⟩)
              · exact .inl ⟨e, .inr ⟨⟨fields, rfl, hdecides⟩, hprevails⟩, rfl⟩
              · exact .inl ⟨fields, .inl ⟨rfl, .inr ⟨hdecides, hsome, hvoid⟩⟩, rfl⟩
            · rintro (⟨e, ⟨he, hcase⟩ | ⟨-, hprevails⟩, rfl⟩ | ⟨⟨⟨e, he, -, hnone⟩, -⟩, -⟩)
              · obtain rfl := Except.ok.inj he
                rcases hcase with htrue | ⟨-, -, hvoid⟩
                · exact nomatch hdecides.symm.trans htrue
                · exact .inr ⟨hvoid, rfl⟩
              · exact .inl ⟨e, hprevails, rfl⟩
              · obtain rfl := Except.ok.inj he
                exact nomatch hevidence.symm.trans hnone
        · have hnot : ¬∃ e, Except.ok fields = (.ok e : Except Error _) ∧ e.decides = false := by
            rintro ⟨e, he, hfalse⟩
            obtain rfl := Except.ok.inj he
            exact nomatch hdecides.symm.trans hfalse
          constructor
          · intro h
            exact .inl ⟨fields, .inl ⟨rfl, .inl hdecides⟩, (Except.ok.inj h).symm⟩
          · rintro (⟨e, ⟨he, -⟩ | ⟨hfalse, -⟩, rfl⟩ | ⟨⟨⟨e, he, hfalse, -⟩, -⟩, -⟩)
            · obtain rfl := Except.ok.inj he
              rfl
            · exact (hnot hfalse).elim
            · exact (hnot ⟨e, he, hfalse⟩).elim
    · have hvoid : Void I c := fun payload hloads ↦ absurd ⟨payload, hloads⟩ hobject
      have hpresents (e : ExplicitResult) : ¬Presents I c e :=
        fun ⟨payload, hloads, _⟩ ↦ hobject ⟨payload, hloads⟩
      have hread : readCandidates I (c :: candidates) last = readCandidates I candidates last := by
        rw [readCandidates]
        split
        · next payload hloads => exact absurd ⟨payload, hloads⟩ hobject
        · rfl
      simp [hread, ih, hpresents, hvoid, hvoid.undecided]

/-- What the code reads off a reply is what the reply reports. -/
theorem parseExplicitResult_iff {reply : Option Text} {e : ExplicitResult} :
    parseExplicitResult I reply = .ok e ↔ Reports I reply e := by
  cases reply with
  | none =>
    constructor
    · intro h
      obtain rfl := Except.ok.inj h
      exact .silent nofun
    · rintro ⟨-⟩
      rfl
  | some content =>
    rw [parseExplicitResult]
    by_cases hcontent : content = []
    · subst hcontent
      constructor
      · intro h
        obtain rfl := Except.ok.inj h
        exact .silent fun _ hmem ↦ (Option.some.inj hmem).symm
      · rintro (- | ⟨hne, -⟩ | ⟨hne, -⟩ | ⟨hne, -⟩)
        · rfl
        all_goals exact absurd rfl hne
    · rw [if_neg hcontent]
      dsimp only
      constructor
      · intro h
        cases hread : readCandidates I (jsonObjectCandidates content.strip) none with
        | error error => simp [hread, bind, Except.bind] at h
        | ok r =>
          rw [hread] at h
          rcases readCandidates_iff.mp hread with ⟨e', hprevails, rfl⟩ | ⟨hvoid, rfl⟩
          · obtain rfl : e' = e := Except.ok.inj h
            exact .object hcontent hprevails
          · obtain rfl : (if jsonObjectCandidates content.strip = [] then markerResult I content
              else {}) = e := Except.ok.inj h
            split
            · next hnone => exact .marker hcontent hnone
            · next hsome => exact .unusable hcontent hsome hvoid
      · have hread {r : Option ExplicitResult}
            (h : (∃ e, Prevails I (jsonObjectCandidates content.strip) e ∧ r = some e) ∨
              (∀ c ∈ jsonObjectCandidates content.strip, Void I c) ∧ r = none) :
            readCandidates I (jsonObjectCandidates content.strip) none = .ok r :=
          readCandidates_iff.mpr h
        rintro (⟨hempty⟩ | ⟨-, hprevails⟩ | ⟨-, hsome, hvoid⟩ | ⟨-, hnone⟩)
        · exact absurd (hempty content rfl) hcontent
        · rw [hread (.inl ⟨e, hprevails, rfl⟩)]
          rfl
        · rw [hread (.inr ⟨hvoid, rfl⟩)]
          change Except.ok (if jsonObjectCandidates content.strip = [] then _ else _) = _
          rw [if_neg hsome]
        · rw [hread (.inr ⟨by simp [hnone], rfl⟩)]
          change Except.ok (if jsonObjectCandidates content.strip = [] then _ else _) = _
          rw [if_pos hnone]

/-- A reply reports one thing. -/
theorem Reports.unique {reply : Option Text} {e e' : ExplicitResult} (h : Reports I reply e)
    (h' : Reports I reply e') : e = e' :=
  Except.ok.inj ((parseExplicitResult_iff.mpr h).symm.trans (parseExplicitResult_iff.mpr h'))

end Reading

/-! ## The result -/

/-- What a worker has published. -/
structure Publications where
  artifactRefs : List String
  publishedPaths : List String
  deriving DecidableEq, Repr

structure ReportedEvidence where
  criterionId : Text
  artifactHash : ReplyValue
  verdict : Text
  check : Option ReplyValue
  deriving Repr

structure ReportedResult where
  outcome : ReplyOutcome
  summary : Text
  verdict : ReplyVerdict
  artifactRefs : List String
  acceptanceEvidence : List ReportedEvidence
  publishedPaths : List String
  marker : Option ReplyVerdict
  blockedMarkerAsserted : Bool
  blockers : Option (List Text)
  errorClass : Option Text
  deriving Repr

def ReplyVerdict.word : ReplyVerdict → Text
  | .pass => "PASS".toList
  | .fail => "FAIL".toList

def WorkUnitSpec.isVerify (spec : WorkUnitSpec) : Bool :=
  spec.workType.toList.map upper == "VERIFY".toList

def WorkUnitSpec.expected (spec : WorkUnitSpec) : List String :=
  spec.expectedOutputs.filter (· ≠ "")

def WorkUnitSpec.criteria (spec : WorkUnitSpec) : List Criterion :=
  spec.acceptanceCriteria.filter Criterion.isRequired

/-- Some published path ends with an expected output, or some artifact has it as its hash. -/
def Publications.covers (published : Publications) (item : String) : Bool :=
  published.publishedPaths.any (fun path ↦ item.toList.isSuffixOf path.toList) ||
    published.artifactRefs.contains item

def missingOutputs (spec : WorkUnitSpec) (published : Publications) : List String :=
  spec.expected.filter (!published.covers ·)

/-- The error of a result, unless there is one already. -/
def blockingError (spec : WorkUnitSpec) (published : Publications) (error : Option Text) :
    Option Text :=
  let error := error.filter (· ≠ [])
  if missingOutputs spec published ≠ [] then
    error <|> some ("missing_expected_artifacts:".toList ++
      (",".intercalate (missingOutputs spec published)).toList)
  else if spec.expected ≠ [] ∧ published.artifactRefs = [] then
    error <|> some "missing_expected_artifacts".toList
  else error

/-- The reply asserts the marker of being blocked. -/
def assertsBlocked (reply : Option Text) : Bool := reply.any (assertedBlocked I.isWord)

/-- Something stands in the way of a delivery: an error, no reply, a reply that says so, or an
expected output that is missing. -/
def hindered (spec : WorkUnitSpec) (published : Publications) (reply error : Option Text) : Bool :=
  (error.filter (· ≠ [])).isSome || reply.isNone || assertsBlocked I reply ||
    !(missingOutputs spec published).isEmpty ||
    (!spec.expected.isEmpty && published.artifactRefs.isEmpty)

/-- The evidence of a reply: its entries that name a criterion. -/
def explicitEvidence (verdict : ReplyVerdict) (items : List ReplyObject) : List ReportedEvidence :=
  (items.filter fun item ↦ (item.get "criterion_id").truthy).map fun item ↦
    { criterionId := I.str (item.get "criterion_id")
      artifactHash := item.get "artifact_hash"
      verdict :=
        if (item.get "verdict").truthy then I.str (item.get "verdict") else verdict.word
      check := some (item.get "check") }

/-- Criteria with the artifacts in their order; what is left over goes to the first artifact. -/
def boundEvidence (criteria : List Criterion) (refs : List String) : List ReportedEvidence :=
  (criteria.zipIdx.filter fun c ↦ c.1.criterionId ≠ "").map fun c ↦
    { criterionId := c.1.criterionId.toList
      artifactHash := .string ((refs[c.2]? <|> refs.head?).getD "").toList
      verdict := "PASS".toList
      check := none }

def evidenceOf (spec : WorkUnitSpec) (published : Publications) (explicit : ExplicitResult)
    (verdict : ReplyVerdict) (blocked : Bool) : List ReportedEvidence :=
  match explicit.evidence with
  | some items => explicitEvidence I verdict items
  | none =>
    if verdict = .pass ∧ blocked = false ∧ spec.isVerify = false ∧ published.artifactRefs ≠ [] ∧
        spec.criteria ≠ [] then
      boundEvidence spec.criteria published.artifactRefs
    else []

/-- The verdict of the reply; without one, what stands in the way decides. -/
def ExplicitResult.verdictOr (explicit : ExplicitResult) (blocked : Bool) : ReplyVerdict :=
  explicit.verdict.getD (if blocked then .fail else .pass)

def ExplicitResult.outcomeOr (explicit : ExplicitResult) (blocked : Bool) : ReplyOutcome :=
  explicit.outcome.getD (if blocked then .blocked else .completed)

/-- A completed unit that reports a failure is not blocked, whatever stands in its way. -/
def ExplicitResult.staysBlocked (explicit : ExplicitResult) (blocked : Bool) : Bool :=
  blocked && !(explicit.outcomeOr blocked = .completed && explicit.verdictOr blocked = .fail)

/-- Criteria of expected outputs are to be met. -/
def evidenceNeeded (spec : WorkUnitSpec) : Bool :=
  !spec.expected.isEmpty && !spec.criteria.isEmpty

/-- A success that shows no evidence where some is needed. -/
def hollow (spec : WorkUnitSpec) (explicit : ExplicitResult) (blocked : Bool)
    (evidence : List ReportedEvidence) : Bool :=
  explicit.outcomeOr blocked = .completed && explicit.verdictOr blocked = .pass &&
    evidenceNeeded spec && evidence.isEmpty

/-- The result of a worker whose reply was read. -/
def reportOf (spec : WorkUnitSpec) (published : Publications) (reply error : Option Text)
    (explicit : ExplicitResult) : ReportedResult :=
  let hindered := hindered I spec published reply error
  let evidence := evidenceOf I spec published explicit (explicit.verdictOr hindered)
    (explicit.staysBlocked hindered)
  let hollow := hollow spec explicit hindered evidence
  let outcome := if hollow then .blocked else explicit.outcomeOr hindered
  let verdict := if hollow then .fail else explicit.verdictOr hindered
  let blocked := explicit.staysBlocked hindered || hollow
  let missing := if hollow then some "missing_acceptance_evidence".toList else none
  let error := blockingError spec published error <|> missing
  let reason := error.getD "blocked_by_model".toList
  { outcome := if blocked then .blocked else outcome
    summary := (reply.getD (error.getD [])).take 20000
    verdict := if blocked && outcome ≠ .completed then .fail else verdict
    artifactRefs := published.artifactRefs
    acceptanceEvidence := if blocked && outcome ≠ .completed then [] else evidence
    publishedPaths := published.publishedPaths
    marker := (reply.filter (· ≠ [])).bind (markerVerdict I.isWord)
    blockedMarkerAsserted := assertsBlocked I reply
    blockers := if blocked then some [reason] else none
    errorClass := if blocked then some reason else none }

/-- The result that is submitted, unless reading the reply raises. -/
def ApiAgent.submitResult (spec : WorkUnitSpec) (published : Publications)
    (reply error : Option Text) :
    Except Error ReportedResult :=
  (parseExplicitResult I reply).map (reportOf I spec published reply error)

/-! ## Justified results -/

section Justified

variable (spec : WorkUnitSpec) (published : Publications) (reply error : Option Text)

/-- An expected output was published under its path, or below some directory, or is the hash of a
published artifact. -/
def Delivered (published : Publications) (item : String) : Prop :=
  item ∈ published.publishedPaths ∨
    (∃ path ∈ published.publishedPaths, ('/' :: item.toList) <:+ path.toList) ∨
    item ∈ published.artifactRefs

/-- Prose and complete objects that stand side by side at the start of a text. -/
def OutermostPrefix (text : Text) : Prop :=
  ∃ (pieces : List (Prose × ObjectText)) (last : Prose), text = inProse pieces last

/-- The verdict of a complete object is there and is no success, or the object cannot be read. -/
def ObjectText.Failing (o : ObjectText) : Prop :=
  match I.loads o.text with
  | some (.object payload) =>
    ∃ value, payload.find? (·.1 == "verdict".toList) = some ("verdict".toList, value) ∧
      ∀ text, value = .string text → text ≠ "PASS".toList
  | _ => True

/-- A text contains a structured result that is no success: a complete object whose verdict is
FAIL or cannot be read, or an object that never ends. -/
def ContainsFailure (text : Text) : Prop :=
  (∃ before o after, OutermostPrefix before ∧ text = before ++ ObjectText.text o ++ after ∧
    o.Failing I) ∨
  ∃ before rest, OutermostPrefix before ∧ text = before ++ '{' :: rest ∧
    ∀ o : ObjectText, ¬o.text <+: '{' :: rest

/-- The reply says by itself that the unit passes. -/
def SaysPass (reply : Option Text) : Prop := ∃ e, Reports I reply e ∧ e.verdict = some .pass

/-- A success comes without an error and without an asserted block, everything that was expected is
delivered, the reply contains no failure, and a verification is said to pass; a block is no success,
and has no evidence. -/
structure Justified (r : ReportedResult) : Prop where
  success : r.outcome = .completed → r.verdict = .pass →
    error.filter (· ≠ []) = none ∧ assertsBlocked I reply = false ∧
      (∀ item ∈ spec.expected, Delivered published item) ∧
      (∀ text ∈ reply, ¬ContainsFailure I text) ∧ (spec.isVerify = true → SaysPass I reply)
  block : r.outcome = .blocked → r.verdict ≠ .pass ∧ r.acceptanceEvidence = []

/-- Whatever the worker submits is justified. -/
def SubmitsJustified : Prop :=
  ∀ r, ApiAgent.submitResult I spec published reply error = .ok r →
    Justified I spec published reply error r

/-- Some entry of the evidence in a reply names a criterion. -/
def ExplicitResult.namesCriterion (explicit : ExplicitResult) : Bool :=
  (explicit.evidence.getD []).any fun item ↦ (item.get "criterion_id").truthy

/-- Criteria and artifacts are there to be bound to each other. -/
def bindable (explicit : ExplicitResult) : Bool :=
  explicit.evidence.isNone && !spec.isVerify && !published.artifactRefs.isEmpty &&
    spec.criteria.any fun c ↦ c.criterionId ≠ ""

/-- Nothing is in the way, the reply reports neither a block nor a failure, and the evidence that is
needed is there. -/
structure Passing (e : ExplicitResult) : Prop where
  free : hindered I spec published reply error = false
  reports : Reports I reply e
  outcome : e.outcome ≠ some .blocked
  verdict : e.verdict ≠ some .fail
  evidence : evidenceNeeded spec = true → e.namesCriterion = true ∨ bindable spec published e = true

variable {spec published reply error} {I}

theorem isEmpty_map_filter {α β : Type} (p : α → Bool) (f : α → β) (l : List α) :
    ((l.filter p).map f).isEmpty = !l.any p := by
  induction l with
  | nil => rfl
  | cons a l ih =>
    cases ha : p a
    · rw [List.filter_cons_of_neg (by simp [ha]), ih, List.any_cons, ha, Bool.false_or]
    · rw [List.filter_cons_of_pos ha, List.any_cons, ha]
      rfl

theorem boundEvidence_isEmpty (criteria : List Criterion) (refs : List String) :
    (boundEvidence criteria refs).isEmpty = !criteria.any fun c ↦ c.criterionId ≠ "" := by
  have hfst : (criteria.zipIdx.any fun c ↦ decide (c.1.criterionId ≠ "")) =
      criteria.any fun c ↦ c.criterionId ≠ "" := by
    conv_rhs => rw [← List.zipIdx_map_fst 0 criteria, List.any_map]
    rfl
  rw [boundEvidence, isEmpty_map_filter, hfst]

/-- Evidence is what the reply names, or what can be bound when it gives none. -/
theorem evidenceOf_isEmpty (explicit : ExplicitResult) (verdict : ReplyVerdict) (blocked : Bool) :
    (evidenceOf I spec published explicit verdict blocked).isEmpty =
      !(explicit.namesCriterion ||
        (bindable spec published explicit && (verdict = .pass) && !blocked)) := by
  rw [evidenceOf, ExplicitResult.namesCriterion, bindable]
  cases explicit.evidence with
  | some items =>
    dsimp only
    rw [explicitEvidence, isEmpty_map_filter]
    simp
  | none =>
    dsimp only
    split
    · next h =>
      obtain ⟨rfl, rfl, hverify, hrefs, -⟩ := h
      rw [boundEvidence_isEmpty]
      simp [hverify, hrefs]
    · next h =>
      by_cases hcriteria : spec.criteria = []
      · simp [hcriteria]
      · cases verdict <;> cases blocked <;> cases hverify : spec.isVerify <;>
          by_cases hrefs : published.artifactRefs = [] <;> simp_all

/-- A success is reported when nothing is in the way, the reply says neither that it is blocked
nor that it failed, and the evidence that is needed is there. -/
theorem reportOf_success_iff (explicit : ExplicitResult) :
    (reportOf I spec published reply error explicit).outcome = .completed ∧
        (reportOf I spec published reply error explicit).verdict = .pass ↔
      hindered I spec published reply error = false ∧ explicit.outcome ≠ some .blocked ∧
        explicit.verdict ≠ some .fail ∧
          (evidenceNeeded spec = true → explicit.namesCriterion = true ∨
            bindable spec published explicit = true) := by
  have hempty : ∀ verdict blocked,
      (evidenceOf I spec published explicit verdict blocked).isEmpty =
        !(explicit.namesCriterion ||
          (bindable spec published explicit && (verdict = .pass) && !blocked)) :=
    evidenceOf_isEmpty explicit
  simp only [reportOf, hollow, hempty]
  generalize explicit.namesCriterion = names
  generalize bindable spec published explicit = binds
  generalize evidenceNeeded spec = needed
  generalize hindered I spec published reply error = hindered
  clear hempty
  obtain ⟨verdict, outcome, -⟩ := explicit
  simp only [ExplicitResult.verdictOr, ExplicitResult.outcomeOr, ExplicitResult.staysBlocked]
  rcases verdict with _ | _ | _ <;> rcases outcome with _ | _ | _ <;> cases hindered <;>
    cases names <;> cases binds <;> cases needed <;> simp

/-- What is submitted is the report of what the reply reports. -/
theorem submitResult_iff {r : ReportedResult} :
    ApiAgent.submitResult I spec published reply error = .ok r ↔
      ∃ e, Reports I reply e ∧ r = reportOf I spec published reply error e := by
  rw [ApiAgent.submitResult]
  constructor
  · intro h
    cases hparse : parseExplicitResult I reply with
    | error error => simp [hparse, Except.map] at h
    | ok e =>
      rw [hparse] at h
      exact ⟨e, parseExplicitResult_iff.mp hparse, (Except.ok.inj h).symm⟩
  · rintro ⟨e, hreports, rfl⟩
    rw [parseExplicitResult_iff.mpr hreports]
    rfl

/-- What a reply that passes leads to. -/
theorem Passing.submitted {e : ExplicitResult} (h : Passing I spec published reply error e)
    (hjustified : SubmitsJustified I spec published reply error) :
    (∀ item ∈ spec.expected, Delivered published item) ∧
      (∀ text ∈ reply, ¬ContainsFailure I text) ∧ (spec.isVerify = true → SaysPass I reply) := by
  obtain ⟨hcompleted, hpass⟩ :=
    (reportOf_success_iff e).mpr ⟨h.free, h.outcome, h.verdict, h.evidence⟩
  have hsubmit := hjustified _ (submitResult_iff.mpr ⟨e, h.reports, rfl⟩)
  exact (hsubmit.success hcompleted hpass).2.2

end Justified

/-- A unit that is to deliver nothing in particular. -/
def sampleDuty : WorkUnitSpec where
  objective := ""
  workType := "EXECUTE"
  contextPolicy := ""
  inputRefs := []
  expectedOutputs := []
  acceptanceCriteria := []
  requiredCapabilities := []
  requestedPermissions := []
  workspacePolicy := ""

end HibikiCore
