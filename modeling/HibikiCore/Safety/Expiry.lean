import HibikiCore.System.Transactions
import HibikiCore.Application.Resolution

/-!
# Decisions that have expired

A decision that is not taken in time is meant to be retired by the attempt to take it. The attempt
marks it and is then refused, and the refusal rolls the mark back: the decision stays pending, and
the gate that waits for it stays open.
-/

namespace HibikiCore

set_option synthInstance.maxSize 100000000
set_option synthInstance.maxHeartbeats 400000

variable {env : Env} {r : Request} {res : Resolution} {w w' : World} {decisionId : String}
  {decision : DecisionRow}

/-- A decision is expired, and its gates do not wait for it any more. -/
structure Retired (s : DB) (decisionId : String) : Prop where
  expired : ∃ d, s.decisions.find? decisionId = some d ∧ d.status = .expired
  gates : ∀ k g, s.gates.find? k = some g → g.decisionId = decisionId → g.lifecycle = .resolved

/-- An attempt to take a decision that has expired leaves all decisions and gates as they are. -/
theorem step_expired (hfound : w.db.decisions.find? decisionId = some decision)
    (hexpired : decision.expiresAt < env.now)
    (hresolution : resolution r.payload r.operation = some res)
    (hnamed : res.decisionId = some decisionId)
    (hstep : system.step w (.command env r) = some w') :
    w'.db.decisions = w.db.decisions ∧ w'.db.gates = w.db.gates := by
  rcases step_command hstep with hrecords | ⟨t, t', result, hran, hrecords⟩
  · exact ⟨((hrecords .decisions).2 (by decide)).symm, ((hrecords .gates).2 (by decide)).symm⟩
  · obtain ⟨n, rfl⟩ := hran.start
    have hrun := hran.run
    rw [handler_resolution hresolution] at hrun
    rcases resolveDecision_ok hrun with rfl | ⟨decisionId', decision', task, hresolves, -⟩
    · exact ⟨((hrecords .decisions).2 (by decide)).symm, ((hrecords .gates).2 (by decide)).symm⟩
    · -- a decision that is taken has not expired
      obtain rfl : decisionId = decisionId' :=
        Option.some.inj (hnamed.symm.trans hresolves.named)
      obtain rfl : decision = decision' := Option.some.inj (hfound.symm.trans hresolves.found)
      exact absurd hresolves.unexpired (Nat.not_le.mpr hexpired)

/-- No attempt to take a pending decision that has expired retires it: afterwards the decision is
pending, and every decision and every gate is what it was. -/
theorem expired_decision_not_retired (hreach : system.Reachable w)
    (hfound : w.db.decisions.find? decisionId = some decision)
    (hpending : decision.status = .pending) (hexpired : decision.expiresAt < env.now)
    (hresolution : resolution r.payload r.operation = some res)
    (hnamed : res.decisionId = some decisionId)
    (hstep : system.step w (.command env r) = some w') :
    system.Reachable w' ∧ w'.db.decisions.find? decisionId = some decision ∧
      w'.db.gates = w.db.gates ∧ ¬Retired w'.db decisionId := by
  obtain ⟨hdecisions, hgates⟩ := step_expired hfound hexpired hresolution hnamed hstep
  have hfound' : w'.db.decisions.find? decisionId = some decision := hdecisions ▸ hfound
  refine ⟨hreach.step trivial hstep, hfound', hgates, fun hretired ↦ ?_⟩
  obtain ⟨d, hd, hstatus⟩ := hretired.expired
  obtain rfl : decision = d := Option.some.inj (hfound'.symm.trans hd)
  rw [hpending] at hstatus
  cases hstatus

/-- A contract that was submitted and waits for its approval. -/
def sampleSubmission : List Label :=
  [.ask (.ofHuman "owner") .createTask { title := some "task" },
    .ask (.ofHuman "owner") .submitContract { taskId := some "task_i" }]

/-- The approval of the contract, one second after its decision has expired. -/
def sampleLateApproval : Request where
  operation := .approveContract
  auth := .ofHuman "owner"
  payload := { decisionId := some "dec_iiii" }

/-- One second after a decision of the silent environment has expired. -/
def Env.late : Env := { Env.silent with now := Defaults.decisionTtl + 1 }

theorem sampleSubmission_expired :
    ∃ w w' decision res, system.exec system.init sampleSubmission = some w ∧
      w.db.decisions.find? "dec_iiii" = some decision ∧ decision.status = .pending ∧
      decision.expiresAt < Env.late.now ∧
      resolution sampleLateApproval.payload sampleLateApproval.operation = some res ∧
      res.decisionId = some "dec_iiii" ∧
      system.step w (.command .late sampleLateApproval) = some w' := by
  have hview : ((system.exec system.init sampleSubmission).bind fun w ↦
      (w.db.decisions.find? "dec_iiii").bind fun d ↦
        (system.step w (.command .late sampleLateApproval)).map fun _ ↦
          (d.status, decide (d.expiresAt < Env.late.now))) = some (.pending, true) := by
    decide +kernel
  obtain ⟨w, hexec, hview⟩ := Option.bind_eq_some_iff.mp hview
  obtain ⟨decision, hfound, hview⟩ := Option.bind_eq_some_iff.mp hview
  obtain ⟨w', hstep, hview⟩ := Option.map_eq_some_iff.mp hview
  obtain ⟨hpending, hexpired⟩ := Prod.ext_iff.mp hview
  exact ⟨w, w', decision, _, hexec, hfound, hpending, of_decide_eq_true hexpired, rfl, rfl, hstep⟩

theorem expired_decision_not_retired_sampleSubmission :
    ∃ w w' decision, system.exec system.init sampleSubmission = some w ∧
      system.step w (.command .late sampleLateApproval) = some w' ∧
      w'.db.decisions.find? "dec_iiii" = some decision ∧ decision.status = .pending := by
  obtain ⟨w, w', decision, res, hexec, hfound, hpending, hexpired, hresolution, hnamed, hstep⟩ :=
    sampleSubmission_expired
  have hstays := expired_decision_not_retired (.of_exec hexec) hfound hpending hexpired hresolution
    hnamed hstep
  exact ⟨w, w', decision, hexec, hstep, hstays.2.1, hpending⟩

/-- The late approval of the contract is refused, and its decision is not retired. -/
theorem sampleLateApproval_not_retired :
    ∃ w w', system.exec system.init sampleSubmission = some w ∧
      system.step w (.command .late sampleLateApproval) = some w' ∧
      ¬Retired w'.db "dec_iiii" := by
  have hview : ((system.exec system.init sampleSubmission).bind fun w ↦
      (system.step w (.command .late sampleLateApproval)).map fun w' ↦
        (w'.db.decisions.find? "dec_iiii").map (·.status)) = some (some .pending) := by
    decide +kernel
  obtain ⟨w, hexec, hview⟩ := Option.bind_eq_some_iff.mp hview
  obtain ⟨w', hstep, hview⟩ := Option.map_eq_some_iff.mp hview
  refine ⟨w, w', hexec, hstep, fun hretired ↦ ?_⟩
  obtain ⟨d, hd, hstatus⟩ := hretired.expired
  rw [hd] at hview
  rw [Option.map_some, Option.some.injEq, hstatus] at hview
  cases hview

end HibikiCore
