import FwVerify.Monitor.OnDevice
import FwVerify.Verify.Accounting
import FwVerify.Verify.OnDevice

/-!
# A run of everything

A run of everything goes over a bench: each case meets the device as the events before it have left
it. Every event of the run is the answer of the outside world at that point, so that the exit code
of the process says what each case has found on its own device, under the rules of its own bundle.

## Main definitions

* `AnsweredBy`, `Answered` — an event, and a trace, of answers of the outside world
* `Bench`, `Bench.suite` — the devices of a run of everything
* `AcceptedInRun` — a case that is executed under its own rules and does not fail

## Main results

* `runFiltered_answered` — the events of a run are answers
* `clean_run_iff` — what it takes for a run of everything to exit with success
-/

set_option autoImplicit false

namespace FwVerify

/-! ## Answers -/

/-- An event is the answer of the outside world after the events before it. -/
def AnsweredBy (cfg : RunConfig) (world : World) (before : List Event) : Event → Prop
  | .trafficRule _ => True
  | .provision bundle text firewall cycle =>
    (provisionBundle cfg world before bundle).1 = .provision bundle text firewall cycle
  | .ran c steps => steps = world.steps before c
  | .refused c error =>
    ∃ earlier, (provisionBundle cfg world earlier c.bundle).2 = .error error

/-- Every event of a trace is an answer. -/
def Answered (cfg : RunConfig) (world : World) (trace : List Event) : Prop :=
  ∀ before ev after, trace = before ++ ev :: after → AnsweredBy cfg world before ev

section Answers

variable {cfg : RunConfig} {world : World} {keep : FwCase → Bool}

theorem Answered.snoc {trace : List Event} {ev : Event} (h : Answered cfg world trace)
    (hev : AnsweredBy cfg world trace ev) : Answered cfg world (trace ++ [ev]) := by
  intro before ev' after hsplit
  rcases after.eq_nil_or_concat' with rfl | ⟨after, last, rfl⟩
  · obtain ⟨rfl, hlast⟩ := List.append_inj' hsplit rfl
    cases hlast
    exact hev
  · rw [← List.cons_append, ← List.append_assoc] at hsplit
    exact h before ev' after (List.append_inj_left' hsplit rfl)

/-- Steps that each add an answer add answers. -/
theorem answered_each {step : RunState → FwCase → RunState} {cases : List FwCase}
    (hstep : ∀ c ∈ cases, ∀ s, Answered cfg world s.trace → Answered cfg world (step s c).trace)
    {s : RunState} (h : Answered cfg world s.trace) :
    Answered cfg world (cases.foldl step s).trace := by
  induction cases generalizing s with
  | nil => exact h
  | cons c cases ih =>
    rw [List.forall_mem_cons] at hstep
    exact ih hstep.2 (hstep.1 s h)

theorem answered_runMember (s : RunState) (c : FwCase) (h : Answered cfg world s.trace) :
    Answered cfg world (runMember cfg world s c).trace := h.snoc rfl

theorem answered_refuseMember {earlier : List Event} {error : String} {c : FwCase}
    (hfails : (provisionBundle cfg world earlier c.bundle).2 = .error error) (s : RunState)
    (h : Answered cfg world s.trace) : Answered cfg world (refuseMember error s c).trace :=
  h.snoc ⟨earlier, hfails⟩

/-- An attempt is its own answer. -/
theorem answeredBy_provisionBundle (before : List Event) (bundle : Bundle) :
    AnsweredBy cfg world before (provisionBundle cfg world before bundle).1 := by
  have hattempted := (provisionBundle_cases cfg world before bundle).1
  cases hattempt : (provisionBundle cfg world before bundle).1 with
  | provision bundle' text firewall cycle =>
    rw [hattempt] at hattempted
    obtain rfl : bundle' = bundle := Option.some.inj hattempted
    exact hattempt
  | trafficRule => trivial
  | ran =>
    rw [hattempt] at hattempted
    cases hattempted
  | refused =>
    rw [hattempt] at hattempted
    cases hattempted

theorem answered_runBundle (s : RunState) (bundle : Bundle) (h : Answered cfg world s.trace) :
    Answered cfg world (runBundle cfg keep world s bundle).trace := by
  rw [runBundle]
  dsimp only
  split_ifs
  · exact h
  · have hattempt := h.snoc (@answeredBy_provisionBundle cfg world s.trace bundle)
    cases houtcome : (provisionBundle cfg world s.trace bundle).2 with
    | error error =>
      refine answered_each (fun c hc s' => ?_) hattempt
      have hfails : (provisionBundle cfg world s.trace c.bundle).2 = .error error := by
        rw [bundle_of_mem_members hc]
        exact houtcome
      exact answered_refuseMember hfails s'
    | ok => exact answered_each (fun c _ s => answered_runMember s c) hattempt

/-- **The events of a run are answers** of the outside world. -/
theorem runFiltered_answered (cfg : RunConfig) (keep : FwCase → Bool) (world : World) :
    Answered cfg world (runFiltered cfg keep world).trace := by
  have hstart : Answered cfg world (runStart cfg world).trace :=
    @Answered.snoc cfg world [] _ (fun before ev after hsplit => by simp at hsplit) trivial
  rw [runFiltered]
  generalize runStart cfg world = s at hstart ⊢
  induction bundleOrder generalizing s with
  | nil => exact hstart
  | cons bundle bundles ih => exact ih _ (answered_runBundle s bundle hstart)

end Answers

/-! ## Selected cases that do not fail -/

section Selected

variable {cfg : RunConfig} {keep : FwCase → Bool} {world : World}

/-- The case is executed under its own rules, and its run is one that `accepts` speaks of. -/
def RunsWith (cfg : RunConfig) (world : World) (trace : List Event) (c : FwCase)
    (accepts : List Event → Prop) : Prop :=
  ∃ before after, trace = before ++ .ran c (world.steps before c) :: after ∧
    (∃ attempt, lastAttempt before = some attempt ∧ attempt.Ready cfg c.bundle) ∧ accepts before

/-- No result of a run is a FAIL exactly when every selected case is executed, under the rules of
its own bundle, and does not fail. -/
theorem runFiltered_ne_fail_iff :
    (∀ res ∈ (runFiltered cfg keep world).results, res.result ≠ "FAIL") ↔
      ∀ c ∈ allCases, keep c = true → RunsWith cfg world (runFiltered cfg keep world).trace c
        fun before => (runCase cfg c (world.steps before c)).1.result ≠ "FAIL" := by
  have hrun := runFiltered_batched cfg keep world
  have hanswered := runFiltered_answered cfg keep world
  generalize runFiltered cfg keep world = run at hrun hanswered ⊢
  constructor
  · intro hall c hc hkeep
    -- the event that settles the case is no refusal
    obtain ⟨ev, hev, hsettled⟩ := List.mem_filterMap.mp (hrun.mem_settled.mpr ⟨hc, hkeep⟩)
    have hresult : ∀ res, ev.result cfg = some res → res.result ≠ "FAIL" := by
      intro res hres
      refine hall res ?_
      rw [hrun.results_eq]
      exact List.mem_filterMap.mpr ⟨ev, hev, hres⟩
    cases ev with
    | ran c' steps =>
      obtain rfl : c' = c := Option.some.inj hsettled
      obtain ⟨before, after, hsplit⟩ := List.append_of_mem hev
      obtain rfl : steps = world.steps before c' := hanswered before _ after hsplit
      exact ⟨before, after, hsplit, hrun.own_rules hsplit, hresult _ rfl⟩
    | refused c' error => exact absurd rfl (hresult _ rfl)
    | trafficRule => cases hsettled
    | provision => cases hsettled
  · intro hall res hres
    rw [hrun.results_eq] at hres
    obtain ⟨ev, hev, hresult⟩ := List.mem_filterMap.mp hres
    -- the event settles a selected case, and so is the one that executes it
    obtain ⟨c, hsettled⟩ : ∃ c, ev.settled = some c := by
      cases ev with
      | ran c steps => exact ⟨c, rfl⟩
      | refused c error => exact ⟨c, rfl⟩
      | trafficRule => cases hresult
      | provision => cases hresult
    obtain ⟨hc, hkeep⟩ := hrun.mem_settled.mp (List.mem_filterMap.mpr ⟨ev, hev, hsettled⟩)
    obtain ⟨before, after, hsplit, -, haccepts⟩ := hall c hc hkeep
    have hran : .ran c (world.steps before c) ∈ run.trace := by
      rw [hsplit]
      exact List.mem_append_right _ List.mem_cons_self
    obtain rfl := hrun.settled_once hev hran hsettled rfl
    cases hresult
    exact haccepts

end Selected

/-! ## Benches -/

/-- What a run of everything works on: how provisioning ends, and the devices of the cases. -/
structure Bench where
  trafficRule : ProvisionSteps
  firewall : List Event → Bundle → String → ProvisionSteps
  cycle : List Event → Bundle → ProvisionSteps
  /-- The device of a case after the events before it. -/
  device : List Event → FwCase → Device
  monitorRule : ProvisionSteps
  baseline : String → ProvisionSteps
  monitor : MonitorCase → MonitorDevice
  writeReport : String → Value → Except String Unit

namespace Bench

variable (bench : Bench)

/-- The catalog on the bench. -/
def world : World where
  trafficRule := bench.trafficRule
  firewall := bench.firewall
  cycle := bench.cycle
  steps before c := (bench.device before c).steps

/-- Everything on the bench. -/
def suite : SuiteWorld where
  cases := bench.world
  monitors := {
    trafficRule := bench.monitorRule
    firewall := bench.baseline
    steps := fun c => (bench.monitor c).steps }
  writeReport := bench.writeReport

/-- The documents of its programs are read as they are printed. -/
structure Reads : Prop where
  cases : ∀ before c, (bench.device before c).json.ReadsPrinted
  monitors : ∀ c, (bench.monitor c).json.ReadsPrinted

end Bench

section Clean

variable {bench : Bench} {cfg : RunConfig}

/-- No case of the catalog is skipped by itself. -/
theorem skip_of_mem_allCases {c : FwCase} (hc : c ∈ allCases) : c.skip = none := by
  have hall : allCases.all (·.skip == none) = true := rfl
  simpa using List.all_eq_true.mp hall c hc

/-- A result of a monitor case is a PASS when it is no FAIL. -/
theorem Monitored.ne_fail_iff {c : MonitorCase} {res : CaseResult} (h : Monitored c res) :
    res.result ≠ "FAIL" ↔ res.result = "PASS" := by
  obtain ⟨observed, detail, rfl | rfl⟩ := h
  · exact iff_of_true (by simp [monitorResult]) rfl
  · exact iff_of_false (not_not_intro rfl) (by simp [monitorResult])

/-- The monitor cases pass with their baseline and what each looks for. -/
theorem runMonitorAll_ne_fail_iff (hread : bench.Reads) :
    (∀ res ∈ runMonitorAll cfg bench.suite.monitors, res.result ≠ "FAIL") ↔
      (∃ ver, provisionFirewall cfg.mode (bench.baseline monitorBaseline) = .ok ver) ∧
        ∀ c ∈ monitorCases, Provoked (bench.monitor c) cfg c.kind ∧
          Recorded (bench.monitor c) cfg c.kind := by
  have hcases : monitorCases.filter (fun _ => true) = monitorCases := List.filter_true _
  have hfirewall : bench.suite.monitors.firewall = bench.baseline := rfl
  rw [runMonitorAll, runMonitorFiltered, hcases, hfirewall]
  dsimp only
  rw [if_neg (by decide)]
  cases provisionFirewall cfg.mode (bench.baseline monitorBaseline) with
  | error error =>
    refine iff_of_false (fun hall => ?_) ?_
    · exact hall _ (List.mem_map_of_mem List.mem_cons_self) rfl
    · rintro ⟨⟨ver, hver⟩, -⟩
      cases hver
  | ok ver =>
    rw [List.forall_mem_map, and_iff_right ⟨ver, rfl⟩]
    refine forall₂_congr fun c _ => ?_
    rw [(runMonitor_monitored cfg c _).ne_fail_iff]
    exact monitor_passes_iff (bench.monitor c) (hread.monitors c) cfg c

/-- A command succeeds when its report is written and nothing fails. -/
theorem exitCode_emit_success_iff (global : GlobalArgs) (cfg : RunConfig)
    {writeReport : String → Value → Except String Unit} {results : List CaseResult} :
    exitCode (emit global cfg writeReport results) = .success ↔
      (∀ path, global.report = some path →
        writeReport path (reportDocument cfg results) = .ok ()) ∧
      ∀ res ∈ results, res.result ≠ "FAIL" := by
  by_cases hwrites : ∀ path, global.report = some path →
      writeReport path (reportDocument cfg results) = .ok ()
  · have hfails := exitCode_emit_iff global cfg hwrites
    rw [and_iff_right hwrites]
    cases hcode : exitCode (emit global cfg writeReport results) with
    | success =>
      rw [hcode] at hfails
      refine iff_of_true rfl fun res hres hfail => ?_
      cases hfails.mpr ⟨res, hres, hfail⟩
    | failure =>
      obtain ⟨res, hres, hfail⟩ := hfails.mp hcode
      exact iff_of_false (fun h => (by cases h)) fun hall => hall res hres hfail
  · refine iff_of_false (fun hcode => hwrites fun path hpath => ?_) fun h => hwrites h.1
    -- without its report the command ends with an error
    cases hwrite : writeReport path (reportDocument cfg results) with
    | ok => rfl
    | error error =>
      rw [emit, hpath] at hcode
      dsimp only at hcode
      rw [hwrite] at hcode
      cases hcode

/-- **What a success of a run of everything says**, and what it takes. The process exits with
success exactly when the report it was asked for could be written, every case of the catalog was
executed under the rules of its own bundle and has found on its device, as the events before it
have left it, what it accepts, the baseline of the monitor cases was delivered, and each of them
was provoked and recorded. -/
theorem clean_run_iff (bench : Bench) (hread : bench.Reads) (global : GlobalArgs)
    (cfg : RunConfig) :
    exitCode (runSuite global cfg bench.suite .runAll) = .success ↔
      (∀ path, global.report = some path →
        bench.writeReport path (reportDocument cfg (runAll cfg bench.suite)) = .ok ()) ∧
      (∀ c ∈ allCases, RunsWith cfg bench.world
        (runFiltered cfg (fun _ => true) bench.world).trace c
        fun before => Accepted (bench.device before c) cfg c) ∧
      (∃ ver, provisionFirewall cfg.mode (bench.baseline monitorBaseline) = .ok ver) ∧
      ∀ c ∈ monitorCases, Provoked (bench.monitor c) cfg c.kind ∧
        Recorded (bench.monitor c) cfg c.kind := by
  have hrun : runSuite global cfg bench.suite .runAll =
      emit global cfg bench.writeReport (runAll cfg bench.suite) := rfl
  have haccepted (before : List Event) {c : FwCase} (hc : c ∈ allCases) :
      (runCase cfg c (bench.world.steps before c)).1.result ≠ "FAIL" ↔
        Accepted (bench.device before c) cfg c :=
    accepted_iff (hread.cases before c) (skip_of_mem_allCases hc)
  rw [hrun, exitCode_emit_success_iff, runAll]
  simp only [List.forall_mem_append]
  refine and_congr_right fun _ => and_congr ?_ (runMonitorAll_ne_fail_iff hread)
  refine runFiltered_ne_fail_iff.trans (forall₂_congr fun c hc => ?_)
  rw [forall_prop_of_true rfl]
  exact exists₂_congr fun before _ =>
    and_congr_right fun _ => and_congr_right fun _ => haccepted before hc

end Clean

end FwVerify
