import HibikiCore.Safety.Evidence
import HibikiCore.Safety.Limits
import HibikiCore.Safety.Results

/-!
# What a work unit was completed with

A unit keeps of the result that completed it a reference, the verdict and one hash: the first one
that was delivered and whose content was stored when the result was accepted. The edges of a plan
that are pinned to a hash are compared with this one, whatever else was delivered with it.
-/

namespace HibikiCore

set_option synthInstance.maxSize 100000000
set_option synthInstance.maxHeartbeats 400000

variable {env : Env} {auth : AuthContext} {p : Payload} {task : TaskRow} {run : AgentRunRow}
  {s s' : DB} {w w' : World} {l : Label} {taskId runId wuId ref : String} {result : RunResult}
  {outcome : Outcome} {reply : CommandResult}

/-! ## Artifacts -/

/-- The tables beside the artifacts. -/
abbrev besideArtifacts : List Relation :=
  [.tasks, .contracts, .activeContractMarkers, .explanations, .decisions, .gates, .plans,
    .activePlanMarkers, .workUnitSpecs, .workUnitExecutions, .plannerSessions, .agentRuns,
    .activeExecuteRunMarkers, .activePlanRunMarkers, .workspaces, .contextManifests, .sideEffects,
    .events, .inbox, .outbox, .idempotencyKeys, .resultSnapshots, .acceptanceEvidence,
    .agentProfiles, .runInputs, .toolInvocations, .contextAppends, .taskMessages]

instance : Faithful Refs.artifacts := ⟨id⟩

instance {n : Relation} [h : Touches n besideArtifacts] : Beside Refs.artifacts n where
  ne := by
    rintro rfl
    exact absurd h.mem (by decide)

/-- Artifacts keep whether their content is stored, and new ones have none. -/
abbrev AddressesKept : DB → DB → Prop := KeepsColumn Refs.artifacts ArtifactRow.artifactUri none

instance registerArtifact_addresses {hash : String} :
    Respects AddressesKept (registerArtifact env taskId runId run hash) := by
  have hadd (row : ArtifactRow) (hnone : row.artifactUri = none) (k : String × String) :
      Respects AddressesKept (add Refs.artifacts k row) := KeepsColumn.insert hnone
  rw [registerArtifact]
  refine .seq inferInstance fun db ↦ ?_
  have := hadd
    { workUnitId := run.workUnitId
      runId := some runId
      resultRef := run.resultRef
      artifactUri := none
      sizeBytes := none
      sourcePath := none
      createdAt := env.now } rfl (taskId, hash)
  infer_instance

/-- An artifact whose content is stored. -/
def backed (db : DB) (taskId hash : String) : Bool :=
  (db.artifacts.find? (taskId, hash)).any fun a ↦ (truthy a.artifactUri).isSome

theorem AddressesKept.backed (h : AddressesKept s s') (taskId hash : String) :
    HibikiCore.backed s' taskId hash = HibikiCore.backed s taskId hash := by
  rw [HibikiCore.backed, HibikiCore.backed]
  cases hafter : s'.artifacts.find? (taskId, hash) with
  | none =>
    cases hbefore : s.artifacts.find? (taskId, hash) with
    | none => rfl
    | some a =>
      obtain ⟨b, hb, -⟩ := h.kept _ a hbefore
      cases hafter.symm.trans hb
  | some b =>
    rcases h.origin hafter with ⟨a, ha, hsame⟩ | ⟨hnone, hnew⟩
    · have hbefore : s.artifacts.find? (taskId, hash) = some a := ha
      rw [hbefore, Option.any_some, Option.any_some, hsame]
    · have hbefore : s.artifacts.find? (taskId, hash) = none := hnone
      rw [hbefore, Option.any_some, hnew]
      rfl

/-- The hashes a result delivers whose content is stored. -/
def backedDeliveries (db : DB) (taskId : String) (result : RunResult) : List String :=
  result.deliveredRefs.filter (backed db taskId)

theorem verifiedDelivery_eq (db : DB) (taskId : String) (result : RunResult) :
    verifiedDelivery db taskId result = (backedDeliveries db taskId result).head? :=
  (List.head?_filter ..).symm

theorem AddressesKept.backedDeliveries (h : AddressesKept s s') (taskId : String)
    (result : RunResult) :
    HibikiCore.backedDeliveries s' taskId result = HibikiCore.backedDeliveries s taskId result :=
  congrArg (fun q ↦ result.deliveredRefs.filter q) (funext (h.backed taskId))

theorem AddressesKept.verifiedDelivery (h : AddressesKept s s') (taskId : String)
    (result : RunResult) :
    HibikiCore.verifiedDelivery s' taskId result =
      (HibikiCore.backedDeliveries s taskId result).head? := by
  rw [verifiedDelivery_eq, h.backedDeliveries]

/-! ## What leaves a selection -/

/-- What a work unit has of the result it was completed with. -/
def WorkUnitExecutionRow.selection (u : WorkUnitExecutionRow) :
    Option String × Option Verdict × Option String :=
  (u.selectedResultRef, u.selectedVerdict, u.verifiedArtifactHash)

/-- Units keep what they were completed with, and a new one was not completed. -/
abbrev SelectionsKept : DB → DB → Prop :=
  KeepsColumn Refs.workUnitExecutions WorkUnitExecutionRow.selection (none, none, none)

namespace SelectionsKept

theorem leaves {f : WorkUnitExecutionRow → WorkUnitExecutionRow} (hd : UnitDetail f) :
    Leaves WorkUnitExecutionRow.selection f where
  same u := by
    simp only [WorkUnitExecutionRow.selection, hd.selectedResultRef, hd.selectedVerdict,
      hd.verifiedArtifactHash]

instance : UnitDetails SelectionsKept where
  update k f hf hd := by
    have := leaves hd
    infer_instance
  updateWhere q f hf hd := by
    have := leaves hd
    infer_instance

instance installUnit_respects {node : RawNode} :
    Respects SelectionsKept (installUnit taskId node) := by
  have hadd : Respects SelectionsKept
      (add Refs.workUnitExecutions node.workUnitId (freshUnit taskId node.version)) :=
    KeepsColumn.insert rfl
  rw [installUnit]
  exact .seq inferInstance fun _ ↦ by split <;> infer_instance

instance createExecuteRun_respects {r : RunIdentity} {attempt : Nat} :
    Respects SelectionsKept (createExecuteRun env auth taskId task r attempt) := by
  have hstart : Respects SelectionsKept (Refs.workUnitExecutions.update r.workUnitId fun u ↦
      { u with
        status := .running
        activeRunId := some r.runId
        attemptCount := attempt
        specVersion := r.specVersion } : Core Unit) := by
    have : Leaves WorkUnitExecutionRow.selection fun u ↦
        { u with
          status := .running
          activeRunId := some r.runId
          attemptCount := attempt
          specVersion := r.specVersion } := ⟨fun _ ↦ rfl⟩
    infer_instance
  rw [createExecuteRun]
  dsimp only [transitionWorkUnit_runStarted]
  infer_instance

/-- Only a result selects. -/
theorem handler_respects {operation : Operation} (hsubmit : operation ≠ .submitResult) :
    Respects SelectionsKept (handler env auth p operation) := by
  cases operation
  case submitResult => exact (hsubmit rfl).elim
  all_goals (dsimp only [handler]; infer_instance)

instance background : Background SelectionsKept := inferInstance

end SelectionsKept

/-- Only the units under some keys come to be done. -/
abbrev UnitsDone (T : String → Prop) : DB → DB → Prop :=
  Enters Refs.workUnitExecutions (fun u ↦ u.status = .done) T

namespace UnitsDone

variable {T : String → Prop}

instance : UnitDetails (UnitsDone T) where
  update _ _ _ hd := Enters.update fun u hdone ↦ .inl (hd.done u hdone)
  updateWhere _ _ _ hd := Enters.updateWhere fun _ u _ hdone ↦ .inl (hd.done u hdone)

instance installUnit_respects {node : RawNode} :
    Respects (UnitsDone T) (installUnit taskId node) := by
  have hadd : Respects (UnitsDone T)
      (add Refs.workUnitExecutions node.workUnitId (freshUnit taskId node.version)) :=
    Enters.insert nofun
  rw [installUnit]
  exact .seq inferInstance fun _ ↦ by split <;> infer_instance

instance createExecuteRun_respects {r : RunIdentity} {attempt : Nat} :
    Respects (UnitsDone T) (createExecuteRun env auth taskId task r attempt) := by
  have hstart : Respects (UnitsDone T) (Refs.workUnitExecutions.update r.workUnitId fun u ↦
      { u with
        status := .running
        activeRunId := some r.runId
        attemptCount := attempt
        specVersion := r.specVersion } : Core Unit) := Enters.update fun _ hdone ↦ nomatch hdone
  rw [createExecuteRun]
  dsimp only [transitionWorkUnit_runStarted]
  infer_instance

theorem handler_respects {operation : Operation} (hsubmit : operation ≠ .submitResult) :
    Respects (UnitsDone T) (handler env auth p operation) := by
  cases operation
  case submitResult => exact (hsubmit rfl).elim
  all_goals (dsimp only [handler]; infer_instance)

instance background : Background (UnitsDone T) := inferInstance

end UnitsDone

/-! ## Completions -/

/-- A unit that is completed by a result. -/
def WorkUnitExecutionRow.complete (u : WorkUnitExecutionRow) (ref : String) (result : RunResult)
    (hash : Option String) : WorkUnitExecutionRow :=
  { u with
    status := .done
    selectedResultRef := some ref
    selectedVerdict := result.verdict
    verifiedArtifactHash := hash <|> u.verifiedArtifactHash
    activeRunId := none }

/-- A result that is not blocked completes its unit with the first hash that is backed. -/
theorem applyResultToUnit_units (hcompleted : outcome ≠ .blocked)
    (h : applyResultToUnit env taskId runId wuId result ref outcome s = .ok ((), s')) :
    s'.workUnitExecutions = s.workUnitExecutions.modify wuId fun u ↦
      u.complete ref result (backedDeliveries s taskId result).head? := by
  obtain ⟨_, t₁, hregister, h₁⟩ := Tx.bind_ok.mp h
  have haddresses : AddressesKept s t₁ := Respects.rel hregister
  have hregistered : Writes [.artifacts, .acceptanceEvidence] s t₁ := Respects.rel hregister
  have hunits : s.workUnitExecutions = t₁.workUnitExecutions :=
    (hregistered .workUnitExecutions).2 (by decide)
  rw [Tx.get_bind_ok, haddresses.verifiedDelivery] at h₁
  rcases Tx.ite_ok.mp h₁ with ⟨hblocked, -⟩ | ⟨-, h₂⟩
  · exact absurd hblocked hcompleted
  obtain ⟨_, t₂, hupdate, hrest⟩ := Tx.bind_ok.mp h₂
  have hlast : Writes [.activeExecuteRunMarkers, .tasks] t₂ s' := Respects.rel hrest
  have hkept : t₂.workUnitExecutions = s'.workUnitExecutions :=
    (hlast .workUnitExecutions).2 (by decide)
  rw [← hkept, hunits]
  exact Ref.read_of_update hupdate

/-- The parts of an acceptance: the run ends, its unit takes the result, and the units are left as
they are. -/
theorem acceptRunResult_parts (h : acceptRunResult env auth runId run result ref s =
    .ok (reply, s')) :
    ∃ t u, Writes [.agentRuns] s t ∧
      (Tx.withSome run.workUnitId fun wuId ↦ applyResultToUnit env run.taskId runId wuId result ref
        (result.outcome.getD .completed)) t = .ok ((), u) ∧
      SelectionsKept u s' ∧ Units UnitKeeps u s' ∧ UnitsDone (fun _ ↦ False) u s' := by
  obtain ⟨next, t₁, hrequire, h₁⟩ := Tx.bind_ok.mp h
  obtain ⟨-, rfl⟩ := Tx.require_ok.mp hrequire
  obtain ⟨_, t₂, hend, h₂⟩ := Tx.bind_ok.mp h₁
  obtain ⟨_, t₃, hunit, hrest⟩ := Tx.bind_ok.mp h₂
  exact ⟨t₂, t₃, Respects.rel hend, hunit, Respects.rel hrest, Respects.rel hrest,
    Respects.rel hrest⟩

/-- The unit of a result that is accepted and not blocked. -/
theorem acceptRunResult_completes {u : WorkUnitExecutionRow} (hwu : run.workUnitId = some wuId)
    (hcompleted : result.outcome.getD .completed ≠ .blocked)
    (hu : s.workUnitExecutions.find? wuId = some u)
    (h : acceptRunResult env auth runId run result ref s = .ok (reply, s')) :
    ∃ u', s'.workUnitExecutions.find? wuId = some u' ∧ u'.status = .done ∧
      u'.selection =
        (u.complete ref result (backedDeliveries s run.taskId result).head?).selection := by
  obtain ⟨t, v, hend, hunit, hkept, hsame, -⟩ := acceptRunResult_parts h
  rw [hwu] at hunit
  have hunits : s.workUnitExecutions = t.workUnitExecutions :=
    (hend .workUnitExecutions).2 (by decide)
  have haddresses : AddressesKept s t := .of_read ((hend .artifacts).2 (by decide))
  have hcomplete := applyResultToUnit_units hcompleted hunit
  rw [haddresses.backedDeliveries, ← hunits] at hcomplete
  have hv : v.workUnitExecutions.find? wuId =
      some (u.complete ref result (backedDeliveries s run.taskId result).head?) := by
    rw [hcomplete, Table.find?_modify_self, hu]
    rfl
  obtain ⟨u', hu', hselection⟩ := hkept.kept wuId _ hv
  obtain ⟨u'', hu'', hstatus⟩ := hsame wuId _ hv
  obtain rfl := Option.some.inj (hu'.symm.trans hu'')
  exact ⟨u', hu', hstatus, hselection⟩

/-- A unit is done only if it was, and keeps what it was completed with. -/
structure UnitRests (k : String) (s s' : DB) : Prop where
  done : ∀ u', s'.workUnitExecutions.find? k = some u' → u'.status = .done →
    ∃ u, s.workUnitExecutions.find? k = some u ∧ u.status = .done
  kept : ∀ u, s.workUnitExecutions.find? k = some u →
    ∃ u', s'.workUnitExecutions.find? k = some u' ∧ u'.selection = u.selection

namespace UnitRests

variable {k : String}

instance : Preord (UnitRests k) where
  refl _ := ⟨fun u hu hdone ↦ ⟨u, hu, hdone⟩, fun u hu ↦ ⟨u, hu, rfl⟩⟩
  trans h h' := by
    refine ⟨fun u hu hdone ↦ ?_, fun u hu ↦ ?_⟩
    · obtain ⟨u₁, hu₁, hdone₁⟩ := h'.done u hu hdone
      exact h.done u₁ hu₁ hdone₁
    · obtain ⟨u₁, hu₁, hsame₁⟩ := h.kept u hu
      obtain ⟨u₂, hu₂, hsame₂⟩ := h'.kept u₁ hu₁
      exact ⟨u₂, hu₂, hsame₂.trans hsame₁⟩

theorem of_read (h : s.workUnitExecutions = s'.workUnitExecutions) : UnitRests k s s' :=
  ⟨fun u hu hdone ↦ ⟨u, h ▸ hu, hdone⟩, fun u hu ↦ ⟨u, h ▸ hu, rfl⟩⟩

theorem of_kept (hkept : SelectionsKept s s') (hdone : UnitsDone (fun _ ↦ False) s s') :
    UnitRests k s s' where
  done u' hu' h := by
    rcases hdone k u' hu' h with hbefore | hfalse
    · exact hbefore
    · exact hfalse.elim
  kept u hu := hkept.kept k u hu

end UnitRests

/-- A blocked result completes no unit. -/
theorem applyResultToUnit_blocked {k : String}
    (h : applyResultToUnit env taskId runId wuId result ref .blocked s = .ok ((), s')) :
    UnitRests k s s' := by
  obtain ⟨_, t₁, hregister, h₁⟩ := Tx.bind_ok.mp h
  rw [Tx.get_bind_ok] at h₁
  rcases Tx.ite_ok.mp h₁ with ⟨-, h₂⟩ | ⟨hne, -⟩
  · dsimp only [transitionWorkUnit_runBlocked] at h₂
    exact Preord.trans (.of_kept (Respects.rel hregister) (Respects.rel hregister))
      (.of_kept (Respects.rel h₂) (Respects.rel h₂))
  · exact absurd rfl hne

/-- The other units, and the unit of a blocked result. -/
theorem acceptRunResult_rests {k : String}
    (hother : run.workUnitId = some k → result.outcome.getD .completed = .blocked)
    (h : acceptRunResult env auth runId run result ref s = .ok (reply, s')) :
    UnitRests k s s' := by
  obtain ⟨t, v, hend, hunit, hkept, -, hdone⟩ := acceptRunResult_parts h
  refine Preord.trans (.of_read ((hend .workUnitExecutions).2 (by decide)))
    (Preord.trans ?_ (.of_kept hkept hdone))
  rcases Tx.withSome_ok.mp hunit with ⟨wuId, hwu, happly⟩ | ⟨-, rfl⟩
  swap
  · exact Preord.refl _
  by_cases hblocked : result.outcome.getD .completed = .blocked
  · rw [hblocked] at happly
    exact applyResultToUnit_blocked happly
  · have hk : k ≠ wuId := by
      rintro rfl
      exact hblocked (hother hwu)
    have hunits := applyResultToUnit_units hblocked happly
    have hfind : v.workUnitExecutions.find? k = t.workUnitExecutions.find? k := by
      rw [hunits, Table.find?_modify_of_ne hk]
    exact ⟨fun u hu hu' ↦ ⟨u, hfind ▸ hu, hu'⟩, fun u hu ↦ ⟨u, hfind.trans hu, rfl⟩⟩

/-! ## Steps -/

/-- A step completes a work unit of a task: it accepts a result for it that is not blocked. -/
structure CompletesUnit (w : World) (l : Label) (w' : World) (wuId taskId : String)
    (result : RunResult) : Prop where
  step : system.step w l = some w'
  accepts : ∃ env request runId run run', l = .command env request ∧
    request.operation = .submitResult ∧ request.payload.result.getD {} = result ∧
    Accepts w.db request.auth request.payload runId run ∧ run.workUnitId = some wuId ∧
    run.taskId = taskId ∧ w'.db.agentRuns.find? runId = some run' ∧ run'.status = .succeeded
  completed : result.outcome.getD .completed ≠ .blocked

/-- A submission leaves a unit for which it accepts nothing but a blocked result. -/
theorem Submission.rests (h : Submission env auth p s reply s')
    (hother : ∀ runId run run', Accepts s auth p runId run → run.workUnitId = some wuId →
      s'.agentRuns.find? runId = some run' → run'.status = .succeeded →
        (p.result.getD {}).outcome.getD .completed = .blocked) : UnitRests wuId s s' := by
  have hdrawn (n : Nat) : UnitRests wuId s { s with drawn := n } := .of_read rfl
  cases h with
  | stopped _ _ _ ran => exact .of_kept (Respects.rel ran) (Respects.rel ran)
  | overtaken _ _ _ _ ran => exact .of_kept (Respects.rel ran) (Respects.rel ran)
  | marked => exact .of_read rfl
  | superseded _ _ _ ran =>
    exact Preord.trans (hdrawn _) (.of_kept (Respects.rel ran) (Respects.rel ran))
  | accepted accepts ran =>
    refine Preord.trans (hdrawn _) (acceptRunResult_rests (fun hwu ↦ ?_) ran)
    have hfind := acceptRunResult_runs ran ▸
      (Table.find?_modify_self _ _ _).trans (congrArg (Option.map _) accepts.found)
    exact hother _ _ _ accepts hwu hfind rfl

/-- A step that does not complete a unit leaves what it was completed with. -/
theorem step_rests (hstep : system.step w l = some w')
    (hnone : ∀ taskId result, ¬CompletesUnit w l w' wuId taskId result) :
    UnitRests wuId w.db w'.db := by
  by_cases hl : l.isCommand = false
  · exact .of_kept (step_background Preord.refl hl hstep) (step_background Preord.refl hl hstep)
  cases l with
  | command env r =>
    rcases step_command hstep with hrecords | ⟨t, t', reply, hran, hrecords⟩
    · exact .of_read ((hrecords .workUnitExecutions).2 (by decide))
    obtain ⟨n, rfl⟩ := hran.start
    have hrun := hran.run
    have hdrawn : UnitRests wuId w.db { w.db with drawn := n } := .of_read rfl
    have hrecorded : UnitRests wuId t' w'.db :=
      .of_read ((hrecords .workUnitExecutions).2 (by decide))
    refine Preord.trans hdrawn (Preord.trans ?_ hrecorded)
    by_cases hsubmit : r.operation = .submitResult
    · rw [hsubmit] at hrun
      refine (submitResult_ok hrun).rests fun runId run run' haccepts hwu hrun' hsucceeded ↦ ?_
      by_contra hcompleted
      have hsame : t'.agentRuns = w'.db.agentRuns := (hrecords .agentRuns).2 (by decide)
      exact hnone _ _ ⟨hstep, ⟨env, r, runId, run, run', rfl, hsubmit, rfl, haccepts.of_drawn, hwu,
        rfl, hsame ▸ hrun', hsucceeded⟩, hcompleted⟩
    · exact .of_kept ((SelectionsKept.handler_respects hsubmit).rel hrun)
        ((UnitsDone.handler_respects hsubmit).rel hrun)
  | _ => exact absurd rfl hl

/-- A result that is accepted and not blocked completes the unit of its run. -/
theorem Accepts.completes {u : WorkUnitExecutionRow} (h : Accepts s auth p runId run)
    (hwu : run.workUnitId = some wuId)
    (hcompleted : (p.result.getD {}).outcome.getD .completed ≠ .blocked)
    (hu : s.workUnitExecutions.find? wuId = some u)
    (hrun : submitResult env auth p s = .ok (reply, s')) :
    ∃ ref u', s'.workUnitExecutions.find? wuId = some u' ∧ u'.status = .done ∧
      u'.selection = (u.complete ref (p.result.getD {})
        (backedDeliveries s run.taskId (p.result.getD {})).head?).selection := by
  obtain ⟨ref, n, -, haccept⟩ := h.submitResult_ok hrun
  have hunit : { s with drawn := n }.workUnitExecutions.find? wuId = some u := hu
  have hcompletes := acceptRunResult_completes hwu hcompleted hunit haccept
  exact ⟨ref, hcompletes⟩

/-- The unit of a run whose result can be accepted. -/
theorem Accepts.unit (h : Accepts s auth p runId run) (hwu : run.workUnitId = some wuId) :
    ∃ u, s.workUnitExecutions.find? wuId = some u := by
  have hcurrent := h.current
  rw [hwu, Option.all_some, assignmentCurrent] at hcurrent
  cases hunit : s.workUnitExecutions.find? wuId with
  | none =>
    rw [hunit] at hcurrent
    cases hcurrent
  | some u => exact ⟨u, rfl⟩

/-- The acceptance in a step that completes a unit. -/
theorem CompletesUnit.accepted (h : CompletesUnit w l w' wuId taskId result) :
    ∃ env auth runId run u ref n reply t, w.db.agentRuns.find? runId = some run ∧
      run.workUnitId = some wuId ∧ run.taskId = taskId ∧
      w.db.workUnitExecutions.find? wuId = some u ∧
      acceptRunResult env auth runId run result ref { w.db with drawn := n } = .ok (reply, t) ∧
      Writes requestRecords t w'.db := by
  obtain ⟨env, r, runId, run, run', rfl, hsubmit, rfl, haccepts, hwu, howner, hrun', hsucceeded⟩ :=
    h.accepts
  obtain ⟨u, hu⟩ := haccepts.unit hwu
  rcases step_command h.step with hrecords | ⟨t, t', reply, hran, hrecords⟩
  · -- the run has ended in this step, so the command was not answered from a record
    have hsame : w.db.agentRuns = w'.db.agentRuns := (hrecords .agentRuns).2 (by decide)
    rw [← hsame] at hrun'
    obtain rfl := Option.some.inj (haccepts.found.symm.trans hrun')
    have hlive := haccepts.live
    rw [hsucceeded] at hlive
    cases hlive
  obtain ⟨n, rfl⟩ := hran.start
  have hrun := hran.run
  rw [hsubmit] at hrun
  have haccepts' : Accepts { w.db with drawn := n } r.auth r.payload runId run :=
    ⟨haccepts.named, haccepts.found, haccepts.bound, haccepts.unsuperseded, haccepts.unmarked,
      haccepts.live, haccepts.current⟩
  obtain ⟨ref, n', -, haccept⟩ := haccepts'.submitResult_ok hrun
  exact ⟨env, r.auth, runId, run, u, ref, n', reply, t', haccepts.found, hwu, howner, hu, haccept,
    hrecords⟩

/-- A completion selects the result, with the first hash that was backed before it. -/
theorem CompletesUnit.selects (h : CompletesUnit w l w' wuId taskId result) :
    ∃ ref u u', w.db.workUnitExecutions.find? wuId = some u ∧
      w'.db.workUnitExecutions.find? wuId = some u' ∧ u'.status = .done ∧
      u'.selection =
        (u.complete ref result (backedDeliveries w.db taskId result).head?).selection := by
  obtain ⟨env, auth, runId, run, u, ref, n, reply, t, -, hwu, rfl, hu, haccept, hrecords⟩ :=
    h.accepted
  have hunits : t.workUnitExecutions = w'.db.workUnitExecutions :=
    (hrecords .workUnitExecutions).2 (by decide)
  obtain ⟨u', hu', hdone, hselection⟩ :=
    acceptRunResult_completes (s := { w.db with drawn := n }) hwu h.completed hu haccept
  exact ⟨ref, u, u', hu, hunits ▸ hu', hdone, hselection⟩

/-! ## Histories -/

def UnitDone (db : DB) (wuId : String) : Prop :=
  ∃ u, db.workUnitExecutions.find? wuId = some u ∧ u.status = .done

/-- The last completion of a unit was by a result, in a step from the state `w₀`. -/
def Selected (w₀ w : World) (wuId taskId : String) (result : RunResult) : Prop :=
  ∃ l w₁, CompletesUnit w₀ l w₁ wuId taskId result ∧
    system.Run (fun v l ↦ ∀ v' taskId' result', ¬CompletesUnit v l v' wuId taskId' result') w₁ w

/-- A unit that is done was completed by a result. -/
theorem selected_of_done (hreach : system.Reachable w) (hdone : UnitDone w.db wuId) :
    ∃ w₀ taskId result, Selected w₀ w wuId taskId result := by
  induction hreach with
  | refl =>
    obtain ⟨u, hu, -⟩ := hdone
    cases hu
  | @step v v' l _ _ hstep ih =>
    by_cases hcompletes : ∃ taskId result, CompletesUnit v l v' wuId taskId result
    · obtain ⟨taskId, result, hcompletes⟩ := hcompletes
      exact ⟨v, taskId, result, l, v', hcompletes, .refl⟩
    · have hnone : ∀ v'' taskId result, ¬CompletesUnit v l v'' wuId taskId result := by
        intro v'' taskId result h
        obtain rfl := Option.some.inj (hstep.symm.trans h.step)
        exact hcompletes ⟨taskId, result, h⟩
      obtain ⟨u', hu', hstatus⟩ := hdone
      have hbefore : UnitDone v.db wuId := (step_rests hstep (hnone v')).done u' hu' hstatus
      obtain ⟨w₀, taskId, result, l₀, w₁, hcompletes₀, hrun⟩ := ih hbefore
      exact ⟨w₀, taskId, result, l₀, w₁, hcompletes₀, hrun.step hnone hstep⟩

/-- A step that makes a unit done completes it. -/
theorem completes_of_turn (hstep : system.step w l = some w') (hopen : ¬UnitDone w.db wuId)
    (hdone : UnitDone w'.db wuId) : ∃ taskId result, CompletesUnit w l w' wuId taskId result := by
  by_contra hnone
  obtain ⟨u', hu', hstatus⟩ := hdone
  exact hopen ((step_rests hstep fun taskId result h ↦ hnone ⟨taskId, result, h⟩).done u' hu' hstatus)

/-- What a unit has of the last result that completed it. -/
theorem Selected.selection {w₀ : World} (h : Selected w₀ w wuId taskId result) :
    ∃ ref u₀ u, w₀.db.workUnitExecutions.find? wuId = some u₀ ∧
      w.db.workUnitExecutions.find? wuId = some u ∧
      u.selection =
        (u₀.complete ref result (backedDeliveries w₀.db taskId result).head?).selection := by
  obtain ⟨l, w₁, hcompletes, hrun⟩ := h
  obtain ⟨ref, u₀, u₁, hu₀, hu₁, -, hselection⟩ := hcompletes.selects
  obtain ⟨u, hu, hkept⟩ : ∃ u, w.db.workUnitExecutions.find? wuId = some u ∧
      u.selection = u₁.selection := by
    clear hcompletes
    induction hrun with
    | refl => exact ⟨u₁, hu₁, rfl⟩
    | step _ hnone hstep ih =>
      obtain ⟨u, hu, hkept⟩ := ih
      obtain ⟨u', hu', hsame⟩ := (step_rests hstep (hnone _)).kept u hu
      exact ⟨u', hu', hsame.trans hkept⟩
  exact ⟨ref, u₀, u, hu₀, hu, hkept.trans hselection⟩

/-! ## Edges that are pinned -/

/-- The first hash of a list, or another one if it is empty, stands for all of the list. -/
theorem head?_or_eq_some_iff_mem {hashes : List String} {old : Option String} {hash : String} :
    ((hashes.head? <|> old) = some hash ↔ hash ∈ hashes) ↔
      (hash ∈ hashes → hashes.head? = some hash) ∧ (hashes = [] → old ≠ some hash) := by
  cases hashes with
  | nil =>
    have hor : ((([] : List String).head? <|> old) = some hash) = (old = some hash) := rfl
    rw [hor]
    simp
  | cons first rest =>
    have hor : (((first :: rest).head? <|> old) = some hash) = (first = hash) := by
      simp
    rw [hor, List.head?_cons, Option.some.injEq]
    constructor
    · exact fun hiff ↦ ⟨hiff.mpr, nofun⟩
    · rintro ⟨hfirst, -⟩
      exact ⟨fun heq ↦ heq ▸ List.mem_cons_self, hfirst⟩

/-- What an edge that is pinned to a hash asks of the unit it comes from. -/
theorem edgeSatisfied_pinned {e : RawEdge} {hash : String} {u : WorkUnitExecutionRow} {db : DB}
    (hpass : e.predicate = some .verdictPass) (hpin : truthy e.artifactHash = some hash)
    (hu : db.workUnitExecutions.find? e.fromWorkUnitId = some u) :
    edgeSatisfied db e = true ↔
      u.status = .done ∧ u.selectedVerdict = some .pass ∧ u.verifiedArtifactHash = some hash := by
  obtain ⟨hhash, -⟩ := truthy_eq_some.mp hpin
  rw [hhash] at hpin
  simp only [edgeSatisfied, hu, hpass, hhash, hpin, Option.getD_some, Bool.and_eq_true, beq_iff_eq,
    Option.isNone_some, Bool.false_or, and_assoc]

/-- The edge of a plan that is pinned to a hash counts as satisfied exactly if its unit is done with
a verdict PASS and has verified the hash. -/
def DecidedByVerified (w₀ w : World) (e : RawEdge) (hash taskId : String) (result : RunResult) :
    Prop :=
  edgeSatisfied w.db e = true ↔
    UnitDone w.db e.fromWorkUnitId ∧ result.verdict = some .pass ∧
      hash ∈ backedDeliveries w₀.db taskId result

/-- A result that is backed by stored content has the hash first, and one that is not leaves another
hash. -/
structure VerifiedFirst (s : DB) (wuId hash taskId : String) (result : RunResult) : Prop where
  first : hash ∈ backedDeliveries s taskId result →
    (backedDeliveries s taskId result).head? = some hash
  other : backedDeliveries s taskId result = [] →
    (s.workUnitExecutions.find? wuId).bind (·.verifiedArtifactHash) ≠ some hash

/-! ## Samples -/

/-- The digests of the two files of the sample. -/
def sampleOut : String := "ca978112ca1bbdcafac231b39a23dc4da786eff8147c4f72b9807785afee48bb"

def sampleLog : String := "3e23e8160039594a33894f6564e1b1348bbd7a0088d42c4acb73eeaed59c009d"

/-- The run of the sample publishes one of the files. -/
def sampleFile (path digest : String) : Label :=
  .command
    { Env.silent with
      workspaceRoot := some "/workspaces"
      readWorkspace := fun _ _ _ ↦ .ok ⟨digest, 1⟩
      artifactStore := true }
    { operation := .publishArtifact
      auth := sampleAgent "run_iiiiiiiii"
      payload :=
        { taskId := some "task_i", runId := some "run_iiiiiiiii", fencingEpoch := some 1
          path := some path } }

/-- An edge of the sample. -/
def sampleEdge (digest : String) : RawEdge :=
  { fromWorkUnitId := "check", toWorkUnitId := "next", predicate := some .verdictPass
    artifactHash := some digest }

/-- A verification has published two files, and an edge is pinned to each of them. -/
def samplePinned : List Label :=
  let human := AuthContext.ofHuman "owner"
  sampleDispatched.take 3 ++
  [ .ask human .activatePlan
      { taskId := some "task_i"
        nodes := some
          [{ workUnitId := "check", workType := some "VERIFY" }, { workUnitId := "next" }]
        edges := [sampleEdge sampleOut, sampleEdge sampleLog] },
    .ask human .dispatchReadyRuns { taskId := some "task_i" } ] ++
  sampleStart ++ [sampleFile "out" sampleOut, sampleFile "log" sampleLog]

/-- The result of the sample has verified both files. -/
def sampleVerified : RunResult :=
  { verdict := some .pass, verifiedArtifactRefs := [some sampleOut, some sampleLog] }

def sampleVerification : Label :=
  .ask (sampleAgent "run_iiiiiiiii") .submitResult
    { taskId := some "task_i", runId := some "run_iiiiiiiii", fencingEpoch := some 1
      result := some sampleVerified }

/-- The unit of the sample, and the edges of its plan with whether they are satisfied. -/
def sampleChecked (w : World) :
    Option WorkUnitStatus × Option String × Option (List (RawEdge × Bool)) :=
  ((w.db.workUnitExecutions.find? "check").map (·.status),
    (w.db.agentRuns.find? "run_iiiiiiiii").map (·.taskId),
    ((w.db.activePlanMarkers.find? "task_i").bind fun m ↦
      w.db.plans.find? ("task_i", m.planVersion)).map fun plan ↦
        plan.edges.map fun e ↦ (e, edgeSatisfied w.db e))

theorem samplePinned_view :
    (system.exec system.init samplePinned).bind (fun w ↦
      (system.step w sampleVerification).map fun w' ↦
        (sampleChecked w, backedDeliveries w.db "task_i" sampleVerified, sampleChecked w')) =
      some ((some .running, some "task_i",
          some [(sampleEdge sampleOut, false), (sampleEdge sampleLog, false)]),
        [sampleOut, sampleLog],
        (some .done, some "task_i",
          some [(sampleEdge sampleOut, true), (sampleEdge sampleLog, false)])) := by
  decide +kernel

theorem samplePinned_selected :
    ∃ w w', system.Reachable w' ∧ Selected w w' "check" "task_i" sampleVerified ∧
      UnitDone w'.db "check" ∧
      backedDeliveries w.db "task_i" sampleVerified = [sampleOut, sampleLog] ∧
      (sampleChecked w').2.2 =
        some [(sampleEdge sampleOut, true), (sampleEdge sampleLog, false)] := by
  obtain ⟨w, hexec, hrest⟩ := Option.bind_eq_some_iff.mp samplePinned_view
  obtain ⟨w', hstep, hviews⟩ := Option.map_eq_some_iff.mp hrest
  simp only [Prod.mk.injEq] at hviews
  obtain ⟨hbefore, hbacked, hafter⟩ := hviews
  simp only [sampleChecked, Prod.mk.injEq] at hbefore hafter
  obtain ⟨hrunning, htask, -⟩ := hbefore
  obtain ⟨u', hu', hdone'⟩ := Option.map_eq_some_iff.mp hafter.1
  have hopen : ¬UnitDone w.db "check" := by
    rintro ⟨u, hu, hdone⟩
    rw [hu, Option.map_some, hdone] at hrunning
    cases hrunning
  have hdone : UnitDone w'.db "check" := ⟨u', hu', hdone'⟩
  have hreach : system.Reachable w := .of_exec hexec
  obtain ⟨taskId, result, hcompletes⟩ := completes_of_turn hstep hopen hdone
  obtain ⟨env, r, runId, run, run', hl, -, hresult, haccepts, -, hrun, -, -⟩ := hcompletes.accepts
  obtain ⟨rfl, rfl⟩ := Label.command.inj hl
  obtain rfl : sampleVerified = result := hresult
  obtain rfl : "run_iiiiiiiii" = runId := Option.some.inj haccepts.named
  rw [haccepts.found, Option.map_some, hrun] at htask
  obtain rfl := Option.some.inj htask
  exact ⟨w, w', hreach.step trivial hstep, ⟨_, w', hcompletes, .refl⟩, hdone, hbacked, hafter.2.2⟩

/-- In every reachable state, the unit of a satisfied edge was completed by a result, and an edge
that is pinned to a hash is decided by what the last one has verified exactly if the hash comes
first in it. -/
theorem pinnedEdge_decided {e : RawEdge} {hash : String} (hreach : system.Reachable w)
    (hpass : e.predicate = some .verdictPass) (hpin : truthy e.artifactHash = some hash) :
    (¬UnitDone w.db e.fromWorkUnitId → edgeSatisfied w.db e = false) ∧
    (UnitDone w.db e.fromWorkUnitId →
      ∃ w₀ taskId result, Selected w₀ w e.fromWorkUnitId taskId result) ∧
    ∀ w₀ taskId result, Selected w₀ w e.fromWorkUnitId taskId result →
      (DecidedByVerified w₀ w e hash taskId result ↔
        (UnitDone w.db e.fromWorkUnitId → result.verdict = some .pass →
          VerifiedFirst w₀.db e.fromWorkUnitId hash taskId result)) := by
  refine ⟨fun hopen ↦ ?_, selected_of_done hreach, fun w₀ taskId result hselected ↦ ?_⟩
  · by_contra hsatisfied
    rw [Bool.not_eq_false] at hsatisfied
    cases hunit : w.db.workUnitExecutions.find? e.fromWorkUnitId with
    | none =>
      rw [edgeSatisfied, hunit] at hsatisfied
      cases hsatisfied
    | some u =>
      obtain ⟨hdone, -⟩ := (edgeSatisfied_pinned hpass hpin hunit).mp hsatisfied
      exact hopen ⟨u, hunit, hdone⟩
  · obtain ⟨ref, u₀, u, hu₀, hu, hselection⟩ := hselected.selection
    simp only [WorkUnitExecutionRow.selection, WorkUnitExecutionRow.complete,
      Prod.mk.injEq] at hselection
    obtain ⟨-, hverdict, hverified⟩ := hselection
    have hdone : UnitDone w.db e.fromWorkUnitId ↔ u.status = .done :=
      ⟨fun ⟨u', hu', h⟩ ↦ Option.some.inj (hu.symm.trans hu') ▸ h, fun h ↦ ⟨u, hu, h⟩⟩
    rw [DecidedByVerified, edgeSatisfied_pinned hpass hpin hu, hdone, hverdict, hverified]
    by_cases hboth : u.status = .done ∧ result.verdict = some .pass
    · obtain ⟨hd, hv⟩ := hboth
      simp only [hd, hv, true_and, forall_const]
      rw [head?_or_eq_some_iff_mem]
      constructor
      · rintro ⟨hhead, hother⟩
        exact ⟨hhead, by rwa [hu₀]⟩
      · rintro ⟨hhead, hother⟩
        exact ⟨hhead, by rwa [hu₀] at hother⟩
    · constructor
      · exact fun _ hd hv ↦ absurd ⟨hd, hv⟩ hboth
      · intro _
        constructor
        · exact fun ⟨hd, hv, _⟩ ↦ absurd ⟨hd, hv⟩ hboth
        · exact fun ⟨hd, hv, _⟩ ↦ absurd ⟨hd, hv⟩ hboth

/-- The edge that is pinned to the first file of the sample. -/
theorem pinnedEdge_decided_sample :
    ∃ w w', system.Reachable w' ∧ Selected w w' "check" "task_i" sampleVerified ∧
      DecidedByVerified w w' (sampleEdge sampleOut) sampleOut "task_i" sampleVerified := by
  obtain ⟨w, w', hreach, hselected, hdone, hbacked, -⟩ := samplePinned_selected
  refine ⟨w, w', hreach, hselected, ?_⟩
  refine ((pinnedEdge_decided hreach rfl (by decide)).2.2 w "task_i" sampleVerified hselected).mpr
    fun _ _ ↦ ⟨fun _ ↦ ?_, fun hnone ↦ ?_⟩
  · rw [hbacked]
    rfl
  · rw [hbacked] at hnone
    cases hnone

/-- The result of the sample has verified both files, and the edge that is pinned to the second one
is not satisfied. -/
theorem samplePinned_undecided :
    ∃ w w' marker plan e, system.Reachable w' ∧
      w'.db.activePlanMarkers.find? "task_i" = some marker ∧
      w'.db.plans.find? ("task_i", marker.planVersion) = some plan ∧ e ∈ plan.edges ∧
      e.predicate = some .verdictPass ∧ e.artifactHash = some sampleLog ∧
      Selected w w' e.fromWorkUnitId "task_i" sampleVerified ∧
      UnitDone w'.db e.fromWorkUnitId ∧ sampleVerified.verdict = some .pass ∧
      sampleLog ∈ backedDeliveries w.db "task_i" sampleVerified ∧ edgeSatisfied w'.db e = false ∧
      ¬DecidedByVerified w w' e sampleLog "task_i" sampleVerified := by
  obtain ⟨w, w', hreach, hselected, hdone, hbacked, hedges⟩ := samplePinned_selected
  obtain ⟨plan, hplan, hpairs⟩ := Option.map_eq_some_iff.mp hedges
  obtain ⟨marker, hmarker, hrow⟩ := Option.bind_eq_some_iff.mp hplan
  have hpair : (sampleEdge sampleLog, false) ∈
      plan.edges.map fun e ↦ (e, edgeSatisfied w'.db e) := by
    rw [hpairs]
    exact List.mem_cons_of_mem _ List.mem_cons_self
  obtain ⟨e, he, heq⟩ := List.mem_map.mp hpair
  obtain ⟨rfl, hsatisfied⟩ := Prod.mk.inj heq
  have hmem : sampleLog ∈ backedDeliveries w.db "task_i" sampleVerified := by
    rw [hbacked]
    exact List.mem_cons_of_mem _ List.mem_cons_self
  refine ⟨w, w', marker, plan, sampleEdge sampleLog, hreach, hmarker, hrow, he, rfl, rfl, hselected,
    hdone, rfl, hmem, hsatisfied, ?_⟩
  intro hdecided
  have htrue := hdecided.mpr ⟨hdone, rfl, hmem⟩
  rw [hsatisfied] at htrue
  cases htrue

end HibikiCore
