import HibikiCore.Persistence.Models

/-!
# The database

All tables, and a counter of the identifiers that were drawn. `Relation` names the tables; `DB`
is divided into them, with the markers and the idempotency records as the tables whose rows the
service deletes.
-/

namespace HibikiCore

structure DB where
  tasks : Table String TaskRow := .empty
  contracts : Table (String × Nat) ContractRow := .empty
  activeContractMarkers : Table String ActiveContractMarker := .empty
  explanations : Table String ExplanationRow := .empty
  decisions : Table String DecisionRow := .empty
  gates : Table String GateRow := .empty
  plans : Table (String × Nat) PlanRow := .empty
  activePlanMarkers : Table String ActivePlanMarker := .empty
  workUnitSpecs : Table (String × Nat) WorkUnitSpecRow := .empty
  workUnitExecutions : Table String WorkUnitExecutionRow := .empty
  plannerSessions : Table String PlannerSessionRow := .empty
  agentRuns : Table String AgentRunRow := .empty
  activeExecuteRunMarkers : Table String ActiveExecuteRunMarker := .empty
  activePlanRunMarkers : Table String ActivePlanRunMarker := .empty
  workspaces : Table String WorkspaceRow := .empty
  contextManifests : Table String ContextManifestRow := .empty
  sideEffects : Table String SideEffectRow := .empty
  events : Table (String × Nat) EventRow := .empty
  inbox : Table (String × String) InboxRow := .empty
  outbox : Table String OutboxRow := .empty
  idempotencyKeys : Table (String × String × Operation × String) IdempotencyRow := .empty
  resultSnapshots : Table String ResultSnapshotRow := .empty
  artifacts : Table (String × String) ArtifactRow := .empty
  acceptanceEvidence : Table String AcceptanceEvidenceRow := .empty
  agentProfiles : Table (String × Nat) AgentProfileRow := .empty
  runInputs : Table String RunInputRow := .empty
  toolInvocations : Table String ToolInvocationRow := .empty
  contextAppends : Table String ContextAppendRow := .empty
  taskMessages : Table (String × Nat) TaskMessageRow := .empty
  /-- How many identifiers were drawn so far. -/
  drawn : Nat := 0

/-- The tables by name. -/
inductive Relation
  | tasks | contracts | activeContractMarkers | explanations | decisions | gates | plans
  | activePlanMarkers | workUnitSpecs | workUnitExecutions | plannerSessions | agentRuns
  | activeExecuteRunMarkers | activePlanRunMarkers | workspaces | contextManifests | sideEffects
  | events | inbox | outbox | idempotencyKeys | resultSnapshots | artifacts | acceptanceEvidence
  | agentProfiles | runInputs | toolInvocations | contextAppends | taskMessages
  deriving DecidableEq

/-- A table did not change. -/
def DB.Same (s s' : DB) : Relation → Prop
  | .tasks => s.tasks = s'.tasks
  | .contracts => s.contracts = s'.contracts
  | .activeContractMarkers => s.activeContractMarkers = s'.activeContractMarkers
  | .explanations => s.explanations = s'.explanations
  | .decisions => s.decisions = s'.decisions
  | .gates => s.gates = s'.gates
  | .plans => s.plans = s'.plans
  | .activePlanMarkers => s.activePlanMarkers = s'.activePlanMarkers
  | .workUnitSpecs => s.workUnitSpecs = s'.workUnitSpecs
  | .workUnitExecutions => s.workUnitExecutions = s'.workUnitExecutions
  | .plannerSessions => s.plannerSessions = s'.plannerSessions
  | .agentRuns => s.agentRuns = s'.agentRuns
  | .activeExecuteRunMarkers => s.activeExecuteRunMarkers = s'.activeExecuteRunMarkers
  | .activePlanRunMarkers => s.activePlanRunMarkers = s'.activePlanRunMarkers
  | .workspaces => s.workspaces = s'.workspaces
  | .contextManifests => s.contextManifests = s'.contextManifests
  | .sideEffects => s.sideEffects = s'.sideEffects
  | .events => s.events = s'.events
  | .inbox => s.inbox = s'.inbox
  | .outbox => s.outbox = s'.outbox
  | .idempotencyKeys => s.idempotencyKeys = s'.idempotencyKeys
  | .resultSnapshots => s.resultSnapshots = s'.resultSnapshots
  | .artifacts => s.artifacts = s'.artifacts
  | .acceptanceEvidence => s.acceptanceEvidence = s'.acceptanceEvidence
  | .agentProfiles => s.agentProfiles = s'.agentProfiles
  | .runInputs => s.runInputs = s'.runInputs
  | .toolInvocations => s.toolInvocations = s'.toolInvocations
  | .contextAppends => s.contextAppends = s'.contextAppends
  | .taskMessages => s.taskMessages = s'.taskMessages

/-- The rows of a table persist with their immutable columns; nothing is said about the tables
whose rows are deleted. -/
def DB.GrowsIn (s s' : DB) : Relation → Prop
  | .tasks => s.tasks.Grows SameFixed s'.tasks
  | .contracts => s.contracts.Grows SameFixed s'.contracts
  | .explanations => s.explanations.Grows SameFixed s'.explanations
  | .decisions => s.decisions.Grows SameFixed s'.decisions
  | .gates => s.gates.Grows SameFixed s'.gates
  | .plans => s.plans.Grows SameFixed s'.plans
  | .workUnitSpecs => s.workUnitSpecs.Grows SameFixed s'.workUnitSpecs
  | .workUnitExecutions => s.workUnitExecutions.Grows SameFixed s'.workUnitExecutions
  | .plannerSessions => s.plannerSessions.Grows SameFixed s'.plannerSessions
  | .agentRuns => s.agentRuns.Grows SameFixed s'.agentRuns
  | .workspaces => s.workspaces.Grows SameFixed s'.workspaces
  | .contextManifests => s.contextManifests.Grows SameFixed s'.contextManifests
  | .sideEffects => s.sideEffects.Grows SameFixed s'.sideEffects
  | .events => s.events.Grows SameFixed s'.events
  | .inbox => s.inbox.Grows SameFixed s'.inbox
  | .outbox => s.outbox.Grows SameFixed s'.outbox
  | .resultSnapshots => s.resultSnapshots.Grows SameFixed s'.resultSnapshots
  | .artifacts => s.artifacts.Grows SameFixed s'.artifacts
  | .acceptanceEvidence => s.acceptanceEvidence.Grows SameFixed s'.acceptanceEvidence
  | .agentProfiles => s.agentProfiles.Grows SameFixed s'.agentProfiles
  | .runInputs => s.runInputs.Grows SameFixed s'.runInputs
  | .toolInvocations => s.toolInvocations.Grows SameFixed s'.toolInvocations
  | .contextAppends => s.contextAppends.Grows SameFixed s'.contextAppends
  | .taskMessages => s.taskMessages.Grows SameFixed s'.taskMessages
  | .activeContractMarkers | .activePlanMarkers | .activeExecuteRunMarkers
  | .activePlanRunMarkers | .idempotencyKeys => True

namespace DB

theorem Same.refl (s : DB) (n : Relation) : s.Same s n := by cases n <;> rfl

theorem Same.trans {s t u : DB} {n : Relation} (h : s.Same t n) (h' : t.Same u n) :
    s.Same u n := by
  cases n <;> exact Eq.trans h h'

theorem GrowsIn.of_same {s t : DB} {n : Relation} (h : s.Same t n) : s.GrowsIn t n := by
  have hrefl {κ ρ : Type} [DecidableEq κ] [Columns ρ] {a b : Table κ ρ} (hab : a = b) :
      a.Grows SameFixed b := hab ▸ Table.Grows.refl SameFixed.refl a
  cases n <;> first | exact hrefl h | trivial

theorem GrowsIn.trans {s t u : DB} {n : Relation} (h : s.GrowsIn t n) (h' : t.GrowsIn u n) :
    s.GrowsIn u n := by
  have htrans {κ ρ : Type} [DecidableEq κ] [Columns ρ] {a b c : Table κ ρ}
      (hab : a.Grows SameFixed b) (hbc : b.Grows SameFixed c) : a.Grows SameFixed c := by
    refine Table.Grows.trans ?_ hab hbc
    exact fun _ _ _ ↦ SameFixed.trans
  cases n <;> first | exact htrans h h' | trivial

instance : Regions Relation DB where
  same n s t := s.Same t n
  grows n s t := s.GrowsIn t n
  same_refl n s := Same.refl s n
  same_trans := Same.trans
  grows_of_same := GrowsIn.of_same
  grows_trans := GrowsIn.trans

end DB

/-! ## The tables as components -/

namespace Refs

abbrev tasks : Ref DB String TaskRow where
  name := .tasks
  read := DB.tasks
  write t s := { s with tasks := t }
  read_write _ _ := rfl
  same_write n _ _ h := by cases n <;> first | rfl | exact absurd rfl h
  grows_write := fun _ _ h ↦ h

abbrev contracts : Ref DB (String × Nat) ContractRow where
  name := .contracts
  read := DB.contracts
  write t s := { s with contracts := t }
  read_write _ _ := rfl
  same_write n _ _ h := by cases n <;> first | rfl | exact absurd rfl h
  grows_write := fun _ _ h ↦ h

abbrev activeContractMarkers : Ref DB String ActiveContractMarker where
  name := .activeContractMarkers
  read := DB.activeContractMarkers
  write t s := { s with activeContractMarkers := t }
  read_write _ _ := rfl
  same_write n _ _ h := by cases n <;> first | rfl | exact absurd rfl h
  grows_write := fun _ _ _ ↦ trivial

instance : Volatile activeContractMarkers := ⟨fun _ _ ↦ trivial⟩

abbrev explanations : Ref DB String ExplanationRow where
  name := .explanations
  read := DB.explanations
  write t s := { s with explanations := t }
  read_write _ _ := rfl
  same_write n _ _ h := by cases n <;> first | rfl | exact absurd rfl h
  grows_write := fun _ _ h ↦ h

abbrev decisions : Ref DB String DecisionRow where
  name := .decisions
  read := DB.decisions
  write t s := { s with decisions := t }
  read_write _ _ := rfl
  same_write n _ _ h := by cases n <;> first | rfl | exact absurd rfl h
  grows_write := fun _ _ h ↦ h

abbrev gates : Ref DB String GateRow where
  name := .gates
  read := DB.gates
  write t s := { s with gates := t }
  read_write _ _ := rfl
  same_write n _ _ h := by cases n <;> first | rfl | exact absurd rfl h
  grows_write := fun _ _ h ↦ h

abbrev plans : Ref DB (String × Nat) PlanRow where
  name := .plans
  read := DB.plans
  write t s := { s with plans := t }
  read_write _ _ := rfl
  same_write n _ _ h := by cases n <;> first | rfl | exact absurd rfl h
  grows_write := fun _ _ h ↦ h

abbrev activePlanMarkers : Ref DB String ActivePlanMarker where
  name := .activePlanMarkers
  read := DB.activePlanMarkers
  write t s := { s with activePlanMarkers := t }
  read_write _ _ := rfl
  same_write n _ _ h := by cases n <;> first | rfl | exact absurd rfl h
  grows_write := fun _ _ _ ↦ trivial

instance : Volatile activePlanMarkers := ⟨fun _ _ ↦ trivial⟩

abbrev workUnitSpecs : Ref DB (String × Nat) WorkUnitSpecRow where
  name := .workUnitSpecs
  read := DB.workUnitSpecs
  write t s := { s with workUnitSpecs := t }
  read_write _ _ := rfl
  same_write n _ _ h := by cases n <;> first | rfl | exact absurd rfl h
  grows_write := fun _ _ h ↦ h

abbrev workUnitExecutions : Ref DB String WorkUnitExecutionRow where
  name := .workUnitExecutions
  read := DB.workUnitExecutions
  write t s := { s with workUnitExecutions := t }
  read_write _ _ := rfl
  same_write n _ _ h := by cases n <;> first | rfl | exact absurd rfl h
  grows_write := fun _ _ h ↦ h

abbrev plannerSessions : Ref DB String PlannerSessionRow where
  name := .plannerSessions
  read := DB.plannerSessions
  write t s := { s with plannerSessions := t }
  read_write _ _ := rfl
  same_write n _ _ h := by cases n <;> first | rfl | exact absurd rfl h
  grows_write := fun _ _ h ↦ h

abbrev agentRuns : Ref DB String AgentRunRow where
  name := .agentRuns
  read := DB.agentRuns
  write t s := { s with agentRuns := t }
  read_write _ _ := rfl
  same_write n _ _ h := by cases n <;> first | rfl | exact absurd rfl h
  grows_write := fun _ _ h ↦ h

abbrev activeExecuteRunMarkers : Ref DB String ActiveExecuteRunMarker where
  name := .activeExecuteRunMarkers
  read := DB.activeExecuteRunMarkers
  write t s := { s with activeExecuteRunMarkers := t }
  read_write _ _ := rfl
  same_write n _ _ h := by cases n <;> first | rfl | exact absurd rfl h
  grows_write := fun _ _ _ ↦ trivial

instance : Volatile activeExecuteRunMarkers := ⟨fun _ _ ↦ trivial⟩

abbrev activePlanRunMarkers : Ref DB String ActivePlanRunMarker where
  name := .activePlanRunMarkers
  read := DB.activePlanRunMarkers
  write t s := { s with activePlanRunMarkers := t }
  read_write _ _ := rfl
  same_write n _ _ h := by cases n <;> first | rfl | exact absurd rfl h
  grows_write := fun _ _ _ ↦ trivial

instance : Volatile activePlanRunMarkers := ⟨fun _ _ ↦ trivial⟩

abbrev workspaces : Ref DB String WorkspaceRow where
  name := .workspaces
  read := DB.workspaces
  write t s := { s with workspaces := t }
  read_write _ _ := rfl
  same_write n _ _ h := by cases n <;> first | rfl | exact absurd rfl h
  grows_write := fun _ _ h ↦ h

abbrev contextManifests : Ref DB String ContextManifestRow where
  name := .contextManifests
  read := DB.contextManifests
  write t s := { s with contextManifests := t }
  read_write _ _ := rfl
  same_write n _ _ h := by cases n <;> first | rfl | exact absurd rfl h
  grows_write := fun _ _ h ↦ h

abbrev sideEffects : Ref DB String SideEffectRow where
  name := .sideEffects
  read := DB.sideEffects
  write t s := { s with sideEffects := t }
  read_write _ _ := rfl
  same_write n _ _ h := by cases n <;> first | rfl | exact absurd rfl h
  grows_write := fun _ _ h ↦ h

abbrev events : Ref DB (String × Nat) EventRow where
  name := .events
  read := DB.events
  write t s := { s with events := t }
  read_write _ _ := rfl
  same_write n _ _ h := by cases n <;> first | rfl | exact absurd rfl h
  grows_write := fun _ _ h ↦ h

abbrev inbox : Ref DB (String × String) InboxRow where
  name := .inbox
  read := DB.inbox
  write t s := { s with inbox := t }
  read_write _ _ := rfl
  same_write n _ _ h := by cases n <;> first | rfl | exact absurd rfl h
  grows_write := fun _ _ h ↦ h

abbrev outbox : Ref DB String OutboxRow where
  name := .outbox
  read := DB.outbox
  write t s := { s with outbox := t }
  read_write _ _ := rfl
  same_write n _ _ h := by cases n <;> first | rfl | exact absurd rfl h
  grows_write := fun _ _ h ↦ h

abbrev idempotencyKeys : Ref DB (String × String × Operation × String) IdempotencyRow where
  name := .idempotencyKeys
  read := DB.idempotencyKeys
  write t s := { s with idempotencyKeys := t }
  read_write _ _ := rfl
  same_write n _ _ h := by cases n <;> first | rfl | exact absurd rfl h
  grows_write := fun _ _ _ ↦ trivial

instance : Volatile idempotencyKeys := ⟨fun _ _ ↦ trivial⟩

abbrev resultSnapshots : Ref DB String ResultSnapshotRow where
  name := .resultSnapshots
  read := DB.resultSnapshots
  write t s := { s with resultSnapshots := t }
  read_write _ _ := rfl
  same_write n _ _ h := by cases n <;> first | rfl | exact absurd rfl h
  grows_write := fun _ _ h ↦ h

abbrev artifacts : Ref DB (String × String) ArtifactRow where
  name := .artifacts
  read := DB.artifacts
  write t s := { s with artifacts := t }
  read_write _ _ := rfl
  same_write n _ _ h := by cases n <;> first | rfl | exact absurd rfl h
  grows_write := fun _ _ h ↦ h

abbrev acceptanceEvidence : Ref DB String AcceptanceEvidenceRow where
  name := .acceptanceEvidence
  read := DB.acceptanceEvidence
  write t s := { s with acceptanceEvidence := t }
  read_write _ _ := rfl
  same_write n _ _ h := by cases n <;> first | rfl | exact absurd rfl h
  grows_write := fun _ _ h ↦ h

abbrev agentProfiles : Ref DB (String × Nat) AgentProfileRow where
  name := .agentProfiles
  read := DB.agentProfiles
  write t s := { s with agentProfiles := t }
  read_write _ _ := rfl
  same_write n _ _ h := by cases n <;> first | rfl | exact absurd rfl h
  grows_write := fun _ _ h ↦ h

abbrev runInputs : Ref DB String RunInputRow where
  name := .runInputs
  read := DB.runInputs
  write t s := { s with runInputs := t }
  read_write _ _ := rfl
  same_write n _ _ h := by cases n <;> first | rfl | exact absurd rfl h
  grows_write := fun _ _ h ↦ h

abbrev toolInvocations : Ref DB String ToolInvocationRow where
  name := .toolInvocations
  read := DB.toolInvocations
  write t s := { s with toolInvocations := t }
  read_write _ _ := rfl
  same_write n _ _ h := by cases n <;> first | rfl | exact absurd rfl h
  grows_write := fun _ _ h ↦ h

abbrev contextAppends : Ref DB String ContextAppendRow where
  name := .contextAppends
  read := DB.contextAppends
  write t s := { s with contextAppends := t }
  read_write _ _ := rfl
  same_write n _ _ h := by cases n <;> first | rfl | exact absurd rfl h
  grows_write := fun _ _ h ↦ h

abbrev taskMessages : Ref DB (String × Nat) TaskMessageRow where
  name := .taskMessages
  read := DB.taskMessages
  write t s := { s with taskMessages := t }
  read_write _ _ := rfl
  same_write n _ _ h := by cases n <;> first | rfl | exact absurd rfl h
  grows_write := fun _ _ h ↦ h

end Refs

end HibikiCore
