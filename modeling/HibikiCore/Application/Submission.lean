import HibikiCore.Application.Frames

/-!
# What the submission of a result was

A submission that succeeds took one of five ways. Three of them record a late fact; one ends the run
and sets its unit free, because the unit has a new definition; only the last one completes the unit,
and `Accepts` is what was found before it.
-/

namespace HibikiCore

/-- The result of a run is accepted: nobody has taken the place of the run, it has not ended, and
the definition of its unit is still the one it was made for. -/
structure Accepts (s : DB) (auth : AuthContext) (p : Payload) (runId : String)
    (run : AgentRunRow) : Prop where
  named : p.runId = some runId
  found : s.agentRuns.find? runId = some run
  bound : ∃ task, s.tasks.find? run.taskId = some task ∧
    RunBound auth runId run task p.taskId p.runId p.fencingEpoch
  unsuperseded : supersededBy s runId run = none
  unmarked : markerTaken s runId run = false
  live : run.status.isTerminal = false
  current : run.workUnitId.all (assignmentCurrent s runId run) = true

/-- The identifiers that were drawn do not matter. -/
theorem Accepts.of_drawn {s : DB} {auth : AuthContext} {p : Payload} {runId : String}
    {run : AgentRunRow} {n : Nat} (h : Accepts { s with drawn := n } auth p runId run) :
    Accepts s auth p runId run :=
  ⟨h.named, h.found, h.bound, h.unsuperseded, h.unmarked, h.live, h.current⟩

/-- A submission that succeeded. -/
inductive Submission (env : Env) (auth : AuthContext) (p : Payload) (s : DB) :
    CommandResult → DB → Prop
  /-- The run has ended. -/
  | stopped {runId : String} {run : AgentRunRow} {event : String} {data : Data}
      {reply : CommandResult} {s' : DB} (named : p.runId = some runId)
      (found : s.agentRuns.find? runId = some run)
      (why : isStoppedRunResult auth runId run = true)
      (ran : recordLateResult env auth runId run (p.result.getD {}) event data s
        = .ok (reply, s')) :
      Submission env auth p s reply s'
  /-- Another run holds the unit. -/
  | overtaken {runId : String} {run : AgentRunRow} {event : String} {data : Data}
      {reply : CommandResult} {s' : DB} (named : p.runId = some runId)
      (found : s.agentRuns.find? runId = some run)
      (why : isStoppedRunResult auth runId run = false)
      (bound : ∃ task, s.tasks.find? run.taskId = some task ∧
        RunBound auth runId run task p.taskId p.runId p.fencingEpoch)
      (ran : recordLateResult env auth runId run (p.result.getD {}) event data s
        = .ok (reply, s')) :
      Submission env auth p s reply s'
  /-- The marker of the unit names another run. -/
  | marked {runId : String} {run : AgentRunRow} (named : p.runId = some runId)
      (found : s.agentRuns.find? runId = some run) :
      Submission env auth p s (lateResult runId)
        { s with agentRuns := s.agentRuns.modify runId fun r ↦ { r with lateArrival := true } }
  /-- The unit has a new definition. -/
  | superseded {runId wuId ref : String} {run : AgentRunRow} {n : Nat} {reply : CommandResult}
      {s' : DB} (named : p.runId = some runId) (found : s.agentRuns.find? runId = some run)
      (live : run.status.isTerminal = false)
      (ran : recordSupersededResult env auth runId wuId run (p.result.getD {}) ref
        { s with drawn := n } = .ok (reply, s')) :
      Submission env auth p s reply s'
  | accepted {runId ref : String} {run : AgentRunRow} {n : Nat} {reply : CommandResult} {s' : DB}
      (accepts : Accepts s auth p runId run)
      (ran : acceptRunResult env auth runId run (p.result.getD {}) ref { s with drawn := n }
        = .ok (reply, s')) :
      Submission env auth p s reply s'

theorem submitResult_ok {env : Env} {auth : AuthContext} {p : Payload} {reply : CommandResult}
    {s s' : DB} (h : submitResult env auth p s = .ok (reply, s')) :
    Submission env auth p s reply s' := by
  obtain ⟨runId, t₁, hkey, h₁⟩ := Tx.bind_ok.mp h
  obtain ⟨hid, rfl⟩ := key_ok.mp hkey
  obtain ⟨run, t₂, hget, h₂⟩ := Tx.bind_ok.mp h₁
  obtain ⟨hrun, rfl⟩ := getRun_ok.mp hget
  obtain ⟨task, t₃, htask, h₃⟩ := Tx.bind_ok.mp h₂
  obtain ⟨-, rfl⟩ := getTask_ok.mp htask
  rw [Tx.get_bind_ok] at h₃
  rcases Tx.ite_ok.mp h₃ with ⟨hstopped, hlate⟩ | ⟨hstopped, hbound⟩
  · exact .stopped hid hrun hstopped hlate
  obtain ⟨_, t₄, hbinding, h₄⟩ := Tx.bind_ok.mp hbound
  obtain ⟨rfl, hbound'⟩ := assertRunWriteBinding_ok.mp hbinding
  cases hother : supersededBy t₄ runId run with
  | some other =>
    simp only [hother] at h₄
    exact .overtaken hid hrun (by simpa using hstopped) hbound' h₄
  | none =>
    simp only [hother] at h₄
    rw [submitHeldResult, Tx.get_bind_ok] at h₄
    rcases Tx.ite_ok.mp h₄ with ⟨-, hmarked⟩ | ⟨hmarker, hheld⟩
    · obtain ⟨_, t₅, hupdate, hpure⟩ := Tx.bind_ok.mp hmarked
      obtain rfl := Ref.update_ok.mp hupdate
      obtain ⟨rfl, rfl⟩ := Tx.pure_ok.mp hpure
      exact .marked hid hrun
    · obtain ⟨_, t₅, hcheck, h₅⟩ := Tx.bind_ok.mp hheld
      obtain ⟨hlive, rfl⟩ := Tx.check_ok.mp hcheck
      obtain ⟨drawn, t₆, hdraw, h₆⟩ := Tx.bind_ok.mp h₅
      obtain ⟨-, rfl⟩ := newId_ok.mp hdraw
      cases hcurrent : run.workUnitId.filter fun wuId ↦ !assignmentCurrent t₅ runId run wuId with
      | some wuId =>
        simp only [hcurrent] at h₆
        exact .superseded hid hrun hlive h₆
      | none =>
        simp only [hcurrent] at h₆
        refine .accepted ⟨hid, hrun, hbound', hother, by simpa using hmarker, hlive, ?_⟩ h₆
        cases hunit : run.workUnitId with
        | none => rfl
        | some wuId => simpa [hunit] using hcurrent

/-- A submission whose result is accepted takes the last of the ways. -/
theorem Accepts.submitResult_ok {env : Env} {auth : AuthContext} {p : Payload}
    {reply : CommandResult} {runId : String} {run : AgentRunRow} {s s' : DB}
    (haccepts : Accepts s auth p runId run) (h : submitResult env auth p s = .ok (reply, s')) :
    ∃ ref n, (∀ given, truthy p.resultRef = some given → ref = given) ∧
      acceptRunResult env auth runId run (p.result.getD {}) ref { s with drawn := n } =
        .ok (reply, s') := by
  obtain ⟨runId', t₁, hkey, h₁⟩ := Tx.bind_ok.mp h
  obtain ⟨hid, rfl⟩ := key_ok.mp hkey
  obtain rfl := Option.some.inj (haccepts.named.symm.trans hid)
  obtain ⟨run', t₂, hget, h₂⟩ := Tx.bind_ok.mp h₁
  obtain ⟨hrun, rfl⟩ := getRun_ok.mp hget
  obtain rfl := Option.some.inj (haccepts.found.symm.trans hrun)
  obtain ⟨task, t₃, htask, h₃⟩ := Tx.bind_ok.mp h₂
  obtain ⟨-, rfl⟩ := getTask_ok.mp htask
  rw [Tx.get_bind_ok] at h₃
  rcases Tx.ite_ok.mp h₃ with ⟨hstopped, -⟩ | ⟨-, hbound⟩
  · simp [isStoppedRunResult, haccepts.live] at hstopped
  obtain ⟨_, t₄, hbinding, h₄⟩ := Tx.bind_ok.mp hbound
  obtain ⟨rfl, -⟩ := assertRunWriteBinding_ok.mp hbinding
  simp only [haccepts.unsuperseded] at h₄
  rw [submitHeldResult, Tx.get_bind_ok] at h₄
  rcases Tx.ite_ok.mp h₄ with ⟨hmarker, -⟩ | ⟨-, hheld⟩
  · rw [haccepts.unmarked] at hmarker
    cases hmarker
  obtain ⟨_, t₅, hcheck, h₅⟩ := Tx.bind_ok.mp hheld
  obtain ⟨-, rfl⟩ := Tx.check_ok.mp hcheck
  obtain ⟨drawn, t₆, hdraw, h₆⟩ := Tx.bind_ok.mp h₅
  obtain ⟨-, rfl⟩ := newId_ok.mp hdraw
  have hcurrent : run.workUnitId.filter (fun wuId ↦ !assignmentCurrent t₅ runId run wuId) =
      none := by
    have hall := haccepts.current
    cases hunit : run.workUnitId with
    | none => rfl
    | some wuId =>
      rw [hunit] at hall
      simpa using hall
  simp only [hcurrent] at h₆
  exact ⟨_, _, fun given hgiven ↦ by rw [hgiven]; rfl, h₆⟩

end HibikiCore
