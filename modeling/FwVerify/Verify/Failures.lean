import FwVerify.Verify.Batches
import FwVerify.Verify.Judging

/-!
# What becomes of a failed step

A step of the harness that fails while a case is handled should make the case FAIL, and the
FAIL should be counted. Two kinds of runs break this: a listener that does not start skips
its case, and a failed event query reads as an empty log, which is what a case without an
expected event hopes for.

## Main definitions

* `StepFails`, `HandlingFails` — an external step fails, in one execution and in a run
* `CountsAsFailure` — a case ends as FAIL and is counted
* `NothingHidden` — the executions in which no failed step is turned into something else

## Main results

* `runCase_fail_iff` — when a failed step makes an execution FAIL
* `step_failure_counted_iff` — the same for the runs of both runners
-/

set_option autoImplicit false

namespace FwVerify

/-! ## One execution -/

/-- An external step of executing the case fails. -/
inductive StepFails (cfg : RunConfig) (c : FwCase) (steps : CaseSteps) : Prop
  | traffic (error : String) (fails : steps.caseTraffic cfg c = .error error)
  | listener (group : c.group ≠ .traffic) (index : Nat) (bound : index < c.listen.length)
      (error : String) (fails : steps.listeners index = .error error)
  | watermark (group : c.group ≠ .traffic) (error : String) (fails : steps.nowMs = .error error)
  | events (group : c.group ≠ .traffic) (since : Int64) (watermark : steps.nowMs = .ok since)
      (error : String) (fails : steps.dumpEvents since = .error error)
  | statisticsBefore (group : c.group = .traffic) (error : String)
      (fails : steps.statisticsBefore = .error error)
  | statisticsAfter (group : c.group = .traffic) (error : String)
      (fails : steps.statisticsAfter = .error error)

/-- No failed step hides: the listeners of the case start, and the event query does not fail
where an empty log would be a PASS. -/
structure NothingHidden (cfg : RunConfig) (c : FwCase) (steps : CaseSteps) : Prop where
  listeners : c.group ≠ .traffic → ∀ index < c.listen.length, steps.listeners index = .ok ()
  events : c.group ≠ .traffic → c.expectEvent = none → ∀ since outcome error,
    Reaches cfg c steps since outcome → outcome.verdict = enforceStr c.expectEnforce →
      steps.dumpEvents since ≠ .error error

section Execution

variable {cfg : RunConfig} {c : FwCase} {steps : CaseSteps}

/-- A traffic-statistics case fails with any of its steps. -/
theorem runTrafficCase_of_fails (hgroup : c.group = .traffic) (h : StepFails cfg c steps) :
    (runTrafficCase cfg c steps).result = "FAIL" := by
  cases hbefore : steps.statisticsBefore with
  | error error => simp [runTrafficCase, hbefore, result]
  | ok before =>
    cases htraffic : steps.caseTraffic cfg c with
    | error error => simp [runTrafficCase, hbefore, htraffic, result]
    | ok outcome =>
      cases hafter : steps.statisticsAfter with
      | error error => simp [runTrafficCase, hbefore, htraffic, hafter, result]
      | ok after =>
        -- every step of this group went through
        cases h with
        | traffic error fails => simp [htraffic] at fails
        | statisticsBefore _ error fails => simp [hbefore] at fails
        | statisticsAfter _ error fails => simp [hafter] at fails
        | listener group => exact absurd hgroup group
        | watermark group => exact absurd hgroup group
        | events group => exact absurd hgroup group

/-- A judgement over a failed query is a PASS only with the expected verdict and no expected
event. -/
theorem judge_pass_of_query_fails {since : Int64} {outcome : TrafficOutcome} {error : String}
    (hquery : steps.dumpEvents since = .error error) :
    (judge cfg c steps outcome (steps.eventsSince since)).result = "PASS" ↔
      c.expectEvent = none ∧ outcome.verdict = enforceStr c.expectEnforce := by
  have hevents : steps.eventsSince since = [] := by
    simp [CaseSteps.eventsSince, hquery, Except.toOption]
  rw [hevents]
  cases hexpect : c.expectEvent with
  | none => simp [judge_pass_quiet_iff hexpect]
  | some expect => simp [judge_pass_event_iff hexpect]

/-- A judgement that is no PASS is a FAIL. -/
theorem judge_fail_iff {outcome : TrafficOutcome} {events : List FwEvent} :
    (judge cfg c steps outcome events).result = "FAIL" ↔
      (judge cfg c steps outcome events).result ≠ "PASS" := by
  rw [judge_result]
  split_ifs <;> simp

/-- **A failed step fails the case** exactly when it is not one of the two kinds that hide. -/
theorem runCase_fail_iff (hskip : c.skip = none) :
    (StepFails cfg c steps → (runCase cfg c steps).1.result = "FAIL") ↔
      NothingHidden cfg c steps := by
  by_cases hgroup : c.group = .traffic
  · -- a statistics case hides nothing
    refine iff_of_true (fun h => ?_) ⟨fun h => absurd hgroup h, fun h => absurd hgroup h⟩
    have hrun : (runCase cfg c steps).1 = runTrafficCase cfg c steps := by
      simp [runCase, hskip, hgroup]
    rw [hrun]
    exact runTrafficCase_of_fails hgroup h
  constructor
  · intro hfail
    have hlisten : ∀ index < c.listen.length, steps.listeners index = .ok () := by
      intro index hindex
      cases hspawn : steps.listeners index with
      | ok => rfl
      | error error =>
        -- the case would be skipped
        have hskipped : (runCase cfg c steps).1.result = "SKIP" :=
          runCase_of_listener_fails hgroup fun h => by simp [h index hindex] at hspawn
        have hfailed := hfail (.listener hgroup index hindex error hspawn)
        simp [hskipped] at hfailed
    refine ⟨fun _ => hlisten, fun _ hexpect since outcome error hreach hverdict hquery => ?_⟩
    have hfailed := hfail (.events hgroup since hreach.watermark error hquery)
    rw [hreach.runCase hgroup, judge_fail_iff] at hfailed
    exact hfailed ((judge_pass_of_query_fails hquery).mpr ⟨hexpect, hverdict⟩)
  · intro hhidden hfails
    have hlisten := hhidden.listeners hgroup
    by_cases hreach : ∃ since outcome, Reaches cfg c steps since outcome
    · obtain ⟨since, outcome, hreach⟩ := hreach
      -- of the steps only the event query is left to fail
      obtain ⟨error, hquery⟩ : ∃ error, steps.dumpEvents since = .error error := by
        cases hfails with
        | traffic error fails => simp [hreach.traffic] at fails
        | listener _ index bound error fails => simp [hlisten index bound] at fails
        | watermark _ error fails => simp [hreach.watermark] at fails
        | events _ since' watermark error fails =>
          obtain rfl : since = since' := Except.ok.inj (hreach.watermark.symm.trans watermark)
          exact ⟨error, fails⟩
        | statisticsBefore group => exact absurd group hgroup
        | statisticsAfter group => exact absurd group hgroup
      -- an empty log passes only a case that expects no event, and that is ruled out
      rw [hreach.runCase hgroup, judge_fail_iff]
      intro hpass
      obtain ⟨hexpect, hverdict⟩ := (judge_pass_of_query_fails hquery).mp hpass
      exact hhidden.events hgroup hexpect since outcome error hreach hverdict hquery
    · simp only [not_exists] at hreach
      exact runCase_of_listeners hgroup hskip hlisten hreach

end Execution

/-! ## A run -/

/-- The runs of the two runners. -/
inductive CatalogRun (cfg : RunConfig) : RunState → Prop
  | filtered (keep : FwCase → Bool) (world : World) :
      CatalogRun cfg (runFiltered cfg keep world)
  | one (world : World) (runMonitor : String → List CaseResult) (id : String) :
      CatalogRun cfg (runOne cfg world runMonitor id)

/-- A run that handles a case is a batched run. -/
theorem CatalogRun.eq_runFiltered {cfg : RunConfig} {run : RunState} (h : CatalogRun cfg run)
    {c : FwCase} (hc : c ∈ run.trace.filterMap Event.settled) :
    ∃ keep world, run = runFiltered cfg keep world := by
  cases h with
  | filtered keep world => exact ⟨keep, world, rfl⟩
  | one world runMonitor id =>
    by_cases hmonitor : id ∈ monitorIds
    · simp [runOne, hmonitor] at hc
    · cases hfound : caseById id with
      | none => simp [runOne, hmonitor, hfound] at hc
      | some c' => exact ⟨_, world, runOne_eq_runFiltered cfg world runMonitor hmonitor hfound⟩

/-- The case is handled in the run. -/
def Handles (run : RunState) (c : FwCase) : Prop := c ∈ run.trace.filterMap Event.settled

/-- Provisioning the bundle of the case fails in the run. -/
def ProvisionFails (cfg : RunConfig) (run : RunState) (c : FwCase) : Prop :=
  ∃ attempt ∈ run.trace, attempt.attempted = some c.bundle ∧ ¬ attempt.Ready cfg c.bundle

/-- A step fails while the run handles the case. -/
inductive HandlingFails (cfg : RunConfig) (run : RunState) (c : FwCase) : Prop
  | provision (fails : ProvisionFails cfg run c)
  | step (steps : CaseSteps) (ran : .ran c steps ∈ run.trace) (fails : StepFails cfg c steps)

/-- The case has a result in the run; it is FAIL, stands among the counted ones and so makes
the process exit with an error. -/
structure CountsAsFailure (run : RunState) (c : FwCase) : Prop where
  reported : ∃ res ∈ run.results, res.id = c.id
  fails : ∀ res ∈ run.results, res.id = c.id → res.result = "FAIL"
  counted : ∀ res ∈ run.results, res.id = c.id → res ∈ failures run.results
  exit : failedCount run.results ≠ 0

/-- The result with the id of a handled case comes from the event that settles the case. -/
theorem BatchedRun.settled_of_id {cfg : RunConfig} {keep : FwCase → Bool} {run : RunState}
    (h : BatchedRun cfg keep run) {c : FwCase} {ev : Event} {res : CaseResult}
    (hc : Handles run c) (hev : ev ∈ run.trace) (hresult : ev.result cfg = some res)
    (hid : res.id = c.id) : ev.settled = some c := by
  have hids := ev.result_id cfg
  rw [hresult] at hids
  cases hsettled : ev.settled with
  | none => simp [hsettled] at hids
  | some c' =>
    have hc' : Handles run c' := List.mem_filterMap.mpr ⟨ev, hev, hsettled⟩
    have hsame : c'.id = c.id := by
      rw [← hid]
      simpa [hsettled] using hids.symm
    exact congrArg some <| List.inj_on_of_nodup_map allCases_ids_nodup (h.mem_settled.mp hc').1
      (h.mem_settled.mp hc).1 hsame

/-- **A failed step is counted as a failure**, in every run of both runners and for every case
it handles, exactly when no execution of the case hides one. -/
theorem step_failure_counted_iff {cfg : RunConfig} {run : RunState} {c : FwCase}
    (hrun : CatalogRun cfg run) (hhandles : Handles run c) (hskip : c.skip = none) :
    (HandlingFails cfg run c → CountsAsFailure run c) ↔
      ∀ steps, .ran c steps ∈ run.trace → NothingHidden cfg c steps := by
  obtain ⟨keep, world, rfl⟩ := hrun.eq_runFiltered hhandles
  have hbatched := runFiltered_batched cfg keep world
  generalize runFiltered cfg keep world = run at *
  constructor
  · intro hclaim steps hran
    refine (runCase_fail_iff hskip).mp fun hfails => ?_
    refine (hclaim (.step steps hran hfails)).fails _ ?_ (runCase_id cfg c steps)
    rw [hbatched.results_eq]
    exact List.mem_filterMap.mpr ⟨_, hran, rfl⟩
  · intro hvisible hfails
    have hall : ∀ res ∈ run.results, res.id = c.id → res.result = "FAIL" := by
      intro res hres hid
      rw [hbatched.results_eq] at hres
      obtain ⟨ev, hev, hresult⟩ := List.mem_filterMap.mp hres
      have hsettled := hbatched.settled_of_id hhandles hev hresult hid
      cases ev with
      | ran c' steps =>
        obtain rfl : c' = c := Option.some.inj hsettled
        obtain rfl : (runCase cfg c' steps).1 = res := Option.some.inj hresult
        refine (runCase_fail_iff hskip).mpr (hvisible steps hev) ?_
        cases hfails with
        | provision fails =>
          -- the case would have been refused
          obtain ⟨attempt, hattempt, hattempted, hfailed⟩ := fails
          exact absurd hev (hbatched.not_ran hattempt hattempted hfailed steps)
        | step steps' hran hfails =>
          have hsame := hbatched.settled_once hev hran rfl rfl
          obtain rfl : steps = steps' := by simpa using hsame
          exact hfails
      | refused c' error =>
        obtain rfl : provisionError c' error = res := Option.some.inj hresult
        rfl
      | trafficRule => cases hsettled
      | provision => cases hsettled
    have hreported : c.id ∈ run.results.map (·.id) := by
      rw [hbatched.ids_eq, ← hbatched.settled_eq]
      exact List.mem_map_of_mem hhandles
    -- what is FAIL stands in the list whose length is the failure count
    have hcounted : ∀ res ∈ run.results, res.id = c.id → res ∈ failures run.results :=
      fun res hres hid => List.mem_filter.mpr ⟨hres, by simpa using hall res hres hid⟩
    obtain ⟨res, hres, hid⟩ := List.mem_map.mp hreported
    refine ⟨⟨res, hres, hid⟩, hall, hcounted, ?_⟩
    exact List.length_pos_of_mem (hcounted res hres hid) |>.ne'

/-! ## Sample runs -/

/-- A snapshot in which the first version is loaded. -/
def loadedSnapshot : Value := .object [("firewall_rule_ver", .ofInt64 1)]

/-- A provisioning call in which VSOC takes the rule and idps-fw loads it at once. -/
def loadedSteps : ProvisionSteps where
  health := some loadedSnapshot
  depotWrite := .ok .null
  upsert := .ok 1
  polls := ⟨some loadedSnapshot, []⟩

/-- A world in which every bundle is provisioned and every execution ends as given. -/
def sampleWorld (steps : CaseSteps) : World where
  trafficRule := loadedSteps
  firewall := fun _ _ _ => loadedSteps
  cycle := fun _ _ => loadedSteps
  steps := fun _ _ => steps

/-- The case `ingress-tuple-block`: it expects a block and no event. -/
def ingressTupleBlock : FwCase := allCases.get ⟨2, by decide⟩

/-- The run of `ingress-tuple-block` in the sample world. -/
def sampleRun (steps : CaseSteps) : RunState :=
  runOne sampleConfig (sampleWorld steps) (fun _ => []) "ingress-tuple-block"

theorem sampleRun_eq (steps : CaseSteps) :
    sampleRun steps = {
      trace := [.trafficRule (.ok ()),
        .provision .ingressTuple (firewallText .ingressTuple sampleConfig) (.ok 1) none,
        .ran ingressTupleBlock steps]
      completed := 1
      results := [(runCase sampleConfig ingressTupleBlock steps).1] } := by
  rfl

theorem mem_sampleRun {steps steps' : CaseSteps}
    (h : .ran ingressTupleBlock steps' ∈ (sampleRun steps).trace) : steps' = steps := by
  simpa [sampleRun_eq] using h

/-- Steps in which the worker's traffic fails. -/
def workerFails : CaseSteps :=
  { sampleSteps "blocked" [] with traffic := fun _ _ _ => .error "no such netns" }

/-- A failed worker is counted. -/
theorem step_failure_counted_worker :
    CountsAsFailure (sampleRun workerFails) ingressTupleBlock := by
  have hran : .ran ingressTupleBlock workerFails ∈ (sampleRun workerFails).trace := by
    simp [sampleRun_eq]
  refine (step_failure_counted_iff (.one ..) ?_ rfl).mpr (fun steps h => ?_)
    (.step workerFails hran (.traffic "no such netns" rfl))
  · exact List.mem_filterMap.mpr ⟨_, hran, rfl⟩
  · obtain rfl := mem_sampleRun h
    refine ⟨fun _ _ _ => rfl, fun _ _ since outcome error hreach _ _ => ?_⟩
    cases hreach.traffic

/-- Steps in which the event query fails. -/
def queryFails : CaseSteps :=
  { sampleSteps "blocked" [] with dumpEvents := fun _ => .error "database is locked" }

/-- A failed event query passes `ingress-tuple-block`. -/
theorem query_failure_passes :
    ¬ ∀ (cfg : RunConfig) (run : RunState) (c : FwCase), CatalogRun cfg run → Handles run c →
      c.skip = none → HandlingFails cfg run c → CountsAsFailure run c := by
  intro hclaim
  have hran : .ran ingressTupleBlock queryFails ∈ (sampleRun queryFails).trace := by
    simp [sampleRun_eq]
  have hcounts := hclaim sampleConfig (sampleRun queryFails) ingressTupleBlock (.one ..)
    (List.mem_filterMap.mpr ⟨_, hran, rfl⟩) rfl
    (.step queryFails hran (.events (by decide) 0 rfl "database is locked" rfl))
  have hpass : (runCase sampleConfig ingressTupleBlock queryFails).1.result = "PASS" := by
    decide +kernel
  have hfail := hcounts.fails (runCase sampleConfig ingressTupleBlock queryFails).1
    (by simp [sampleRun_eq]) (runCase_id ..)
  simp [hpass] at hfail

end FwVerify
