import FwVerify.Model.Process
import FwVerify.Verify.Failures

/-!
# The accounts of a run

Every result of a run has one of the three statuses the summary counts, so the counts add up,
and the process fails exactly when some result does. A run of everything has one result for
each case of the catalog and one for each monitor case. All this holds of a run whose waits can set
their deadlines; a reload timeout that is too large for the clock ends it in a panic.

## Main definitions

* `Counted` — a result of a status the summary counts
* `CommandFits` — the deadlines a command sets are readings of the clock
* `Accounted` — the accounts of a command

## Main results

* `runCommand_counted` — every result of a command is counted
* `summary_adds_up` — the counts of counted results add up
* `runAll_ids` — a run of everything settles each case once
* `runCommandProcess_eq_some_iff` — when a command comes to its end
* `run_accounts_iff` — the accounts and the exit code of every command
-/

set_option autoImplicit false

open Runs

namespace FwVerify

/-- The result has a status the summary counts. -/
def Counted (res : CaseResult) : Prop :=
  res.result = "PASS" ∨ res.result = "FAIL" ∨ res.result = "SKIP"

theorem counted_fail {res : CaseResult} (h : res.result = "FAIL") : Counted res := .inr (.inl h)

theorem counted_skip {res : CaseResult} (h : res.result = "SKIP") : Counted res := .inr (.inr h)

theorem counted_ite {res : CaseResult} {passed : Bool}
    (h : res.result = if passed then "PASS" else "FAIL") : Counted res := by
  cases passed with
  | true => exact .inl h
  | false => exact counted_fail h

/-! ## Cases of the catalog -/

section Cases

variable (cfg : RunConfig) (c : FwCase) (steps : CaseSteps)

theorem judge_counted (outcome : TrafficOutcome) (events : List FwEvent) :
    Counted (judge cfg c steps outcome events) := counted_ite judge_result

theorem runTrafficCase_counted : Counted (runTrafficCase cfg c steps) := by
  unfold runTrafficCase
  split
  · exact counted_fail rfl
  · split
    · exact counted_fail rfl
    · split
      · exact counted_fail rfl
      · dsimp only
        -- whichever counters the case looks at
        split
        · exact counted_ite rfl
        · exact counted_ite rfl

theorem runCase_counted : Counted (runCase cfg c steps).1 := by
  unfold runCase
  split
  · exact counted_skip rfl
  · split
    · exact runTrafficCase_counted cfg c steps
    · split
      · exact counted_skip rfl
      · split
        · exact counted_fail rfl
        · split
          · exact counted_fail rfl
          · exact judge_counted cfg c steps _ _

end Cases

theorem Event.result_counted {cfg : RunConfig} {ev : Event} {res : CaseResult}
    (hresult : ev.result cfg = some res) : Counted res := by
  cases ev with
  | ran c steps =>
    cases hresult
    exact runCase_counted cfg c steps
  | refused c error =>
    cases hresult
    exact counted_fail rfl
  | trafficRule => cases hresult
  | provision => cases hresult

theorem runFiltered_counted (cfg : RunConfig) (keep : FwCase → Bool) (world : World) :
    ∀ res ∈ (runFiltered cfg keep world).results, Counted res := by
  intro res hres
  rw [(runFiltered_batched cfg keep world).results_eq] at hres
  obtain ⟨ev, -, hresult⟩ := List.mem_filterMap.mp hres
  exact Event.result_counted hresult

/-! ## Monitor cases -/

/-- The result is a PASS or a FAIL of the monitor case. -/
def Monitored (c : MonitorCase) (res : CaseResult) : Prop :=
  ∃ observed detail, res = monitorResult c "PASS" observed detail ∨
    res = monitorResult c "FAIL" observed detail

namespace Monitored

variable {c : MonitorCase} {res : CaseResult}

theorem pass (observed detail : String) : Monitored c (monitorResult c "PASS" observed detail) :=
  ⟨observed, detail, .inl rfl⟩

theorem fail (observed detail : String) : Monitored c (monitorResult c "FAIL" observed detail) :=
  ⟨observed, detail, .inr rfl⟩

theorem counted (h : Monitored c res) : Counted res := by
  obtain ⟨observed, detail, rfl | rfl⟩ := h
  · exact .inl rfl
  · exact counted_fail rfl

theorem id_eq (h : Monitored c res) : res.id = c.id := by
  obtain ⟨observed, detail, rfl | rfl⟩ := h
  · rfl
  · rfl

theorem counted_of_each {cases : List MonitorCase} {results : List CaseResult}
    (h : List.Forall₂ Monitored cases results) : ∀ res ∈ results, Counted res := by
  induction h with
  | nil => exact fun _ hres => absurd hres List.not_mem_nil
  | cons hfirst _ ih => exact List.forall_mem_cons.mpr ⟨hfirst.counted, ih⟩

theorem ids_of_each {cases : List MonitorCase} {results : List CaseResult}
    (h : List.Forall₂ Monitored cases results) : results.map (·.id) = cases.map (·.id) := by
  induction h with
  | nil => rfl
  | cons hfirst _ ih => rw [List.map_cons, List.map_cons, hfirst.id_eq, ih]

end Monitored

section Monitor

variable (cfg : RunConfig) (c : MonitorCase) (steps : MonitorSteps)

theorem runIcmpTimestamp_monitored : Monitored c (runIcmpTimestamp cfg c steps) := by
  unfold runIcmpTimestamp
  split
  · exact .fail _ _
  · split
    · exact .fail _ _
    · dsimp only
      split
      · exact .pass _ _
      · exact .fail _ _

theorem runConnPerip_monitored : Monitored c (runConnPerip cfg c steps).1 := by
  unfold runConnPerip
  split
  · exact .fail _ _
  · split
    · exact .fail _ _
    · split
      · exact .fail _ _
      · dsimp only
        split
        · exact .pass _ _
        · exact .fail _ _

theorem runConnTotal_monitored : Monitored c (runConnTotal c steps) := by
  unfold runConnTotal
  split
  · exact .fail _ _
  · dsimp only
    split
    · exact .pass _ _
    · exact .fail _ _

theorem runArpSpoof_monitored : Monitored c (runArpSpoof cfg c steps) := by
  unfold runArpSpoof
  split
  · exact .fail _ _
  · split
    · exact .fail _ _
    · dsimp only
      split
      · exact .pass _ _
      · exact .fail _ _

theorem runMonitor_monitored : Monitored c (runMonitor cfg c steps).1 := by
  unfold runMonitor
  cases c.kind with
  | icmpTimestamp => exact runIcmpTimestamp_monitored cfg c steps
  | connPerIp => exact runConnPerip_monitored cfg c steps
  | connTotal => exact runConnTotal_monitored c steps
  | arpSpoof => exact runArpSpoof_monitored cfg c steps

end Monitor

/-- The selected monitor cases have a result each, in their order. -/
theorem runMonitorFiltered_monitored (cfg : RunConfig) (keep : MonitorCase → Bool)
    (world : MonitorWorld) :
    List.Forall₂ Monitored (monitorCases.filter keep) (runMonitorFiltered cfg keep world) := by
  rw [runMonitorFiltered]
  dsimp only
  split_ifs with hempty
  · rw [List.isEmpty_iff.mp hempty]
    exact .nil
  · split
    · rw [List.forall₂_map_right_iff]
      exact List.forall₂_same.mpr fun _ _ => .fail _ _
    · rw [List.forall₂_map_right_iff]
      exact List.forall₂_same.mpr fun _ _ => runMonitor_monitored cfg _ _

theorem runMonitorFiltered_counted (cfg : RunConfig) (keep : MonitorCase → Bool)
    (world : MonitorWorld) : ∀ res ∈ runMonitorFiltered cfg keep world, Counted res :=
  Monitored.counted_of_each (runMonitorFiltered_monitored cfg keep world)

theorem runMonitorAll_ids (cfg : RunConfig) (world : MonitorWorld) :
    (runMonitorAll cfg world).map (·.id) = monitorCases.map (·.id) := by
  have hids := Monitored.ids_of_each (runMonitorFiltered_monitored cfg (fun _ => true) world)
  rwa [List.filter_true] at hids

/-! ## Commands -/

section Commands

variable (cfg : RunConfig) (world : SuiteWorld)

theorem runMonitorOne_isSome_iff (world : MonitorWorld) (id : String) :
    (runMonitorOne cfg world id).isSome ↔ id ∈ monitorIds := by
  have hids : monitorIds = monitorCases.map (·.id) := rfl
  rw [runMonitorOne, Option.isSome_map, monitorCaseById, List.find?_isSome, hids, List.mem_map]
  simp only [beq_iff_eq]

/-- An id of a monitor case runs that case. -/
theorem runOneCase_of_monitor {id : String} {results : List CaseResult}
    (hone : runMonitorOne cfg world.monitors id = some results) :
    runOneCase cfg world id = results := by
  have hmonitor : id ∈ monitorIds := by
    rw [← runMonitorOne_isSome_iff cfg world.monitors, hone, Option.isSome_some]
  rw [runOneCase, runOne, if_pos hmonitor]
  dsimp only
  rw [hone, Option.getD_some]

theorem runOneCase_counted (id : String) : ∀ res ∈ runOneCase cfg world id, Counted res := by
  cases hone : runMonitorOne cfg world.monitors id with
  | some results =>
    obtain ⟨c, -, rfl⟩ := Option.map_eq_some_iff.mp hone
    rw [runOneCase_of_monitor cfg world hone]
    exact runMonitorFiltered_counted cfg _ world.monitors
  | none =>
    have hmonitor : id ∉ monitorIds := by
      rw [← runMonitorOne_isSome_iff cfg world.monitors, hone]
      exact Bool.false_ne_true
    rw [runOneCase]
    cases hfound : caseById id with
    | none =>
      rw [runOne, if_neg hmonitor, hfound]
      intro res hres
      rw [List.mem_singleton.mp hres]
      exact counted_fail rfl
    | some c =>
      rw [runOne_eq_runFiltered cfg world.cases _ hmonitor hfound]
      exact runFiltered_counted cfg _ world.cases

theorem runGroup_counted (group : Group) : ∀ res ∈ runGroup cfg world group, Counted res := by
  rw [runGroup]
  split_ifs
  · exact runMonitorFiltered_counted cfg _ world.monitors
  · exact runFiltered_counted cfg _ world.cases

theorem runAll_counted : ∀ res ∈ runAll cfg world, Counted res := by
  intro res hres
  rcases List.mem_append.mp hres with hres | hres
  · exact runFiltered_counted cfg _ world.cases res hres
  · exact runMonitorFiltered_counted cfg _ world.monitors res hres

/-- Every result of a command is counted. -/
theorem runCommand_counted {command : RunCommand} {results : List CaseResult}
    (hrun : runCommand cfg world command = .ok results) : ∀ res ∈ results, Counted res := by
  cases command with
  | run id =>
    cases hrun
    exact runOneCase_counted cfg world id
  | runGroup name =>
    rw [runCommand] at hrun
    cases hgroup : Group.parse name with
    | error error =>
      rw [hgroup] at hrun
      cases hrun
    | ok group =>
      rw [hgroup] at hrun
      cases hrun
      exact runGroup_counted cfg world group
  | runAll =>
    cases hrun
    exact runAll_counted cfg world

/-- A run of everything settles each case of the catalog and each monitor case once. -/
theorem runAll_ids :
    ((runAll cfg world).map (·.id)).Perm (allCases.map (·.id) ++ monitorCases.map (·.id)) := by
  have hrun := runFiltered_batched cfg (fun _ => true) world.cases
  have hselected : ((selected fun _ => true).map (·.id)).Perm (allCases.map (·.id)) := by
    have hperm := (selected_perm fun _ => true).map (·.id)
    rwa [List.filter_true] at hperm
  rw [runAll, List.map_append, hrun.ids_eq, runMonitorAll_ids]
  exact hselected.append_right _

theorem case_ids_nodup : (allCases.map (·.id) ++ monitorCases.map (·.id)).Nodup := by
  decide +kernel

end Commands

/-! ## The summary and the exit code -/

/-- The counts of counted results add up. -/
theorem summary_adds_up {results : List CaseResult} (hcounted : ∀ res ∈ results, Counted res) :
    (summary results).passed + (summary results).failed + (summary results).skipped =
      (summary results).total := by
  simp only [summary, countStatus]
  induction results with
  | nil => rfl
  | cons res results ih =>
    rw [List.forall_mem_cons] at hcounted
    have hlater := ih hcounted.2
    rcases hcounted.1 with hres | hres | hres <;> simp [hres] <;> omega

theorem failed_pos_iff (results : List CaseResult) :
    0 < (summary results).failed ↔ ∃ res ∈ results, res.result = "FAIL" := by
  simp [summary, countStatus, List.length_pos_iff_exists_mem]

theorem exitCode_emit_iff (global : GlobalArgs) (cfg : RunConfig)
    {writeReport : String → Value → Except String Unit} {results : List CaseResult}
    (hwrites : ∀ path, global.report = some path →
      writeReport path (reportDocument cfg results) = .ok ()) :
    exitCode (emit global cfg writeReport results) = .failure ↔
      ∃ res ∈ results, res.result = "FAIL" := by
  have hemit : emit global cfg writeReport results = .ok (summary results).failed := by
    rw [emit]
    cases hreport : global.report with
    | none => rfl
    | some path =>
      dsimp only
      rw [hwrites path hreport]
  rw [hemit, exitCode, ← failed_pos_iff]
  split_ifs with hfailed
  · exact iff_of_true rfl hfailed
  · exact iff_of_false (by decide) hfailed

/-- A command of which the name of the group, if it has one, is known. -/
def KnownGroup (command : RunCommand) : Prop :=
  ∀ name, command = .runGroup name → ∃ group, Group.parse name = .ok group

theorem exists_results (cfg : RunConfig) (world : SuiteWorld) {command : RunCommand}
    (hknown : KnownGroup command) : ∃ results, runCommand cfg world command = .ok results := by
  cases command with
  | run id => exact ⟨_, rfl⟩
  | runGroup name =>
    obtain ⟨group, hgroup⟩ := hknown name rfl
    exact ⟨runGroup cfg world group, by rw [runCommand, hgroup]; rfl⟩
  | runAll => exact ⟨_, rfl⟩

/-! ## Panics -/

/-- The deadline of a wait for a delivery is a reading of the clock, unless there is no wait. -/
def WaitFits (cfg : RunConfig) (delivery : Delivery) (now : Nat) : Prop :=
  delivery.delivered cfg.mode = true → now + cfg.reloadTimeoutSecs.toNat < 2 ^ 63

theorem not_waitPanics_iff {cfg : RunConfig} {delivery : Delivery} {now : Nat} :
    waitPanics cfg delivery now = false ↔ WaitFits cfg delivery now := by
  rw [waitPanics, WaitFits, deadline]
  cases delivery.delivered cfg.mode with
  | false => simp
  | true =>
    split_ifs with hfits
    · exact iff_of_true rfl fun _ => hfits
    · exact iff_of_false (by decide) fun h => hfits (h rfl)

section Panics

variable (cfg : RunConfig) (world : ProcessWorld)

/-- The deadlines of the waits that provisioning a bundle comes to are readings of the clock. -/
structure BundleFits (trace : List Event) (bundle : Bundle) : Prop where
  firewall : WaitFits cfg
    (world.cases.firewall trace bundle (firewallText bundle cfg)).toDelivery
    (world.firewallWait trace bundle)
  /-- A traffic cycle is delivered when the firewall rules are loaded. -/
  cycle : ∀ ver cycle, provisionFirewall cfg.mode
      (world.cases.firewall trace bundle (firewallText bundle cfg)) = .ok ver →
    trafficCycle bundle = some cycle →
    WaitFits cfg (world.cases.cycle trace bundle).toDelivery (world.cycleWait trace bundle)

/-- So are those of all bundles that some of the selected cases need, in the states in which the run
comes to them. -/
def CasesFit (keep : FwCase → Bool) : Prop :=
  ∀ before bundle after, bundleOrder = before ++ bundle :: after → members keep bundle ≠ [] →
    BundleFits cfg world
      (before.foldl (runBundle cfg keep world.cases) (runStart cfg world.cases)).trace bundle

/-- So is that of the baseline of the monitor cases. -/
def BaselineFits : Prop :=
  WaitFits cfg (world.monitors.firewall monitorBaseline).toDelivery world.baselineWait

/-- The deadlines of the waits that a command comes to are readings of the clock. -/
def CommandFits : RunCommand → Prop
  | .run id =>
    ((monitorCaseById id).isSome = true → BaselineFits cfg world) ∧
      ∀ c, monitorCaseById id = none → caseById id = some c →
        BundleFits cfg world (runStart cfg world.cases).trace c.bundle
  | .runGroup name => ∀ group, Group.parse name = .ok group →
    if group = .monitor then BaselineFits cfg world
    else CasesFit cfg world fun c => c.group == group
  | .runAll => CasesFit cfg world (fun _ => true) ∧ BaselineFits cfg world

variable {cfg world}

theorem not_provisionPanics_iff {trace : List Event} {bundle : Bundle} :
    provisionPanics cfg world trace bundle = false ↔ BundleFits cfg world trace bundle := by
  rw [provisionPanics, Bool.or_eq_false_iff, not_waitPanics_iff]
  cases hfirewall : provisionFirewall cfg.mode
      (world.cases.firewall trace bundle (firewallText bundle cfg)) with
  | error error =>
    refine ⟨fun h => ⟨h.1, fun ver cycle hver => ?_⟩, fun h => ⟨h.firewall, rfl⟩⟩
    rw [hfirewall] at hver
    cases hver
  | ok ver =>
    cases hcycle : trafficCycle bundle with
    | none =>
      refine ⟨fun h => ⟨h.1, fun _ cycle _ hsome => ?_⟩, fun h => ⟨h.firewall, rfl⟩⟩
      rw [hcycle] at hsome
      cases hsome
    | some cycle =>
      dsimp only
      rw [not_waitPanics_iff]
      exact ⟨fun h => ⟨h.1, fun _ _ _ _ => h.2⟩,
        fun h => ⟨h.firewall, h.cycle ver cycle hfirewall hcycle⟩⟩

/-- The selected cases are run to the end exactly when no bundle panics. -/
theorem runFilteredProcess_eq_some_iff {keep : FwCase → Bool} {s : RunState} :
    runFilteredProcess cfg world keep = some s ↔
      CasesFit cfg world keep ∧ runFiltered cfg keep world.cases = s := by
  rw [runFilteredProcess, foldWhile_eq_some_iff, runFiltered]
  refine and_congr_left fun _ => forall_congr' fun before => forall_congr' fun bundle =>
    forall_congr' fun after => imp_congr_right fun _ => ?_
  rw [Bool.or_eq_true, List.isEmpty_iff, Bool.not_eq_true', not_provisionPanics_iff,
    or_iff_not_imp_left]

theorem runMonitorFilteredProcess_eq_some_iff {keep : MonitorCase → Bool}
    {results : List CaseResult} (hkeep : monitorCases.filter keep ≠ []) :
    runMonitorFilteredProcess cfg world keep = some results ↔
      BaselineFits cfg world ∧ runMonitorFiltered cfg keep world.monitors = results := by
  have hempty : (monitorCases.filter keep).isEmpty = false := by
    rwa [Bool.eq_false_iff, ne_eq, List.isEmpty_iff]
  rw [runMonitorFilteredProcess, hempty, BaselineFits, ← not_waitPanics_iff, ← baselinePanics]
  cases baselinePanics cfg world with
  | true => exact iff_of_false (fun h => by cases h) (fun h => by cases h.1)
  | false => exact ⟨fun h => ⟨rfl, Option.some.inj h⟩, fun h => congrArg some h.2⟩

/-- One case is run to its end exactly when its own provisioning does not panic. -/
theorem runOneProcess_eq_some_iff {id : String} {results : List CaseResult} :
    runOneProcess cfg world id = some results ↔
      CommandFits cfg world (.run id) ∧ runOneCase cfg world.toSuiteWorld id = results := by
  rw [runOneProcess, CommandFits]
  cases hmonitor : monitorCaseById id with
  | some c =>
    have hfound : monitorCases.find? (·.id == id) = some c := hmonitor
    have hmatches := List.find?_some hfound
    have hkeep : monitorCases.filter (·.id == id) ≠ [] :=
      List.ne_nil_of_mem (List.mem_filter.mpr ⟨List.mem_of_find?_eq_some hfound, hmatches⟩)
    have hone : runOneCase cfg world.toSuiteWorld id =
        runMonitorFiltered cfg (·.id == id) world.monitors :=
      runOneCase_of_monitor cfg world.toSuiteWorld (by rw [runMonitorOne, hmonitor]; rfl)
    simp [runMonitorFilteredProcess_eq_some_iff hkeep, hone]
  | none =>
    cases hcase : caseById id with
    | none =>
      have hid : id ∉ monitorIds := by
        rw [← runMonitorOne_isSome_iff cfg world.monitors, runMonitorOne, hmonitor]
        exact Bool.false_ne_true
      have hone : runOneCase cfg world.toSuiteWorld id = [unknownCase id] := by
        rw [runOneCase, runOne, if_neg hid, hcase]
      simp [hone]
    | some c => simp [← not_provisionPanics_iff]

/-- So is a group. -/
theorem runGroupProcess_eq_some_iff {group : Group} {results : List CaseResult} :
    runGroupProcess cfg world group = some results ↔
      (if group = .monitor then BaselineFits cfg world
        else CasesFit cfg world fun c => c.group == group) ∧
      runGroup cfg world.toSuiteWorld group = results := by
  rw [runGroupProcess, runGroup, runMonitorAll]
  split_ifs
  · exact runMonitorFilteredProcess_eq_some_iff (by decide)
  · simp [Option.map_eq_some_iff, runFilteredProcess_eq_some_iff, and_assoc]

/-- So are all cases. -/
theorem runAllProcess_eq_some_iff {results : List CaseResult} :
    runAllProcess cfg world = some results ↔
      CommandFits cfg world .runAll ∧ runAll cfg world.toSuiteWorld = results := by
  have hmonitors : monitorCases.filter (fun _ => true) ≠ [] := by decide
  rw [runAllProcess, CommandFits, runAll, runMonitorAll]
  simp only [Option.bind_eq_bind, Option.bind_eq_some_iff, runFilteredProcess_eq_some_iff,
    runMonitorFilteredProcess_eq_some_iff hmonitors]
  constructor
  · rintro ⟨_, ⟨hcases, rfl⟩, _, ⟨hbaseline, rfl⟩, ⟨⟩⟩
    exact ⟨⟨hcases, hbaseline⟩, rfl⟩
  · rintro ⟨⟨hcases, hbaseline⟩, rfl⟩
    exact ⟨_, ⟨hcases, rfl⟩, _, ⟨hbaseline, rfl⟩, rfl⟩

/-- **A command has its results** exactly when none of its waits panics. -/
theorem runCommandProcess_eq_some_iff {command : RunCommand}
    {results : Except String (List CaseResult)} :
    runCommandProcess cfg world command = some results ↔
      CommandFits cfg world command ∧ runCommand cfg world.toSuiteWorld command = results := by
  cases command with
  | run id =>
    rw [runCommandProcess, runCommand]
    simp [Option.map_eq_some_iff, runOneProcess_eq_some_iff, and_assoc]
  | runGroup name =>
    rw [runCommandProcess, CommandFits, runCommand]
    cases hgroup : Group.parse name with
    | error error =>
      refine ⟨fun h => ⟨fun group h' => (by cases h'), Option.some.inj h⟩, fun h => ?_⟩
      exact congrArg some h.2
    | ok group =>
      have hall : (∀ group', Except.ok group = (Except.ok group' : Except String Group) →
          if group' = .monitor then BaselineFits cfg world
          else CasesFit cfg world fun c => c.group == group') ↔
            if group = .monitor then BaselineFits cfg world
            else CasesFit cfg world fun c => c.group == group := by
        refine ⟨fun h => h group rfl, fun h group' hgroup' => ?_⟩
        cases hgroup'
        exact h
      dsimp only
      rw [hall]
      change _ ↔ _ ∧ Except.ok (runGroup cfg world.toSuiteWorld group) = results
      simp [Option.map_eq_some_iff, runGroupProcess_eq_some_iff, and_assoc]
  | runAll =>
    rw [runCommandProcess, runCommand]
    simp [Option.map_eq_some_iff, runAllProcess_eq_some_iff, and_assoc]

end Panics

/-! ## The accounts -/

/-- The accounts of a command: it has results, every result is counted, the counts add up, a run of
everything has one result for every case, and unless the report cannot be written the process fails
exactly when some result does. -/
def Accounted (global : GlobalArgs) (cfg : RunConfig) (world : ProcessWorld)
    (command : RunCommand) : Prop :=
  ∃ results, runCommandProcess cfg world command = some (.ok results) ∧
    (∀ res ∈ results, res.result = "PASS" ∨ res.result = "FAIL" ∨ res.result = "SKIP") ∧
    (summary results).passed + (summary results).failed + (summary results).skipped =
      (summary results).total ∧
    (command = .runAll → ((results.map (·.id)).Nodup ∧
      (results.map (·.id)).Perm (allCases.map (·.id) ++ monitorCases.map (·.id)))) ∧
    ((∀ path, global.report = some path →
        world.writeReport path (reportDocument cfg results) = .ok ()) →
      ((runProcess global cfg world command).failed = true ↔ ∃ res ∈ results, res.result = "FAIL"))

/-- **The accounts of a command**, whatever the external steps do, are right exactly when the
deadline of every wait it comes to is a reading of the clock. Otherwise it panics, and has no
results. -/
theorem run_accounts_iff (global : GlobalArgs) (cfg : RunConfig) (world : ProcessWorld)
    (command : RunCommand) (hknown : KnownGroup command) :
    Accounted global cfg world command ↔ CommandFits cfg world command := by
  constructor
  · rintro ⟨results, hresults, -⟩
    exact (runCommandProcess_eq_some_iff.mp hresults).1
  · intro hfits
    obtain ⟨results, hrun⟩ := exists_results cfg world.toSuiteWorld hknown
    have hresults : runCommandProcess cfg world command = some (.ok results) :=
      runCommandProcess_eq_some_iff.mpr ⟨hfits, hrun⟩
    have hcounted := runCommand_counted cfg world.toSuiteWorld hrun
    refine ⟨results, hresults, hcounted, summary_adds_up hcounted, ?_, fun hwrites => ?_⟩
    · rintro rfl
      cases hrun
      have hperm := runAll_ids cfg world.toSuiteWorld
      exact ⟨hperm.nodup_iff.mpr case_ids_nodup, hperm⟩
    · rw [← exitCode_emit_iff global cfg hwrites, runProcess, hresults]
      exact beq_iff_eq

/-- A world in which every step succeeds and nothing is ever recorded. -/
def silentWorld : SuiteWorld where
  cases := sampleWorld (sampleSteps "blocked" [])
  monitors := {
    trafficRule := loadedSteps
    firewall := fun _ => loadedSteps
    steps := fun _ => {
      nowMs := .ok 0
      traffic := fun _ _ _ => .ok { verdict := "sent" }
      agentSpawn := fun _ _ => .ok ()
      agentJson := fun _ _ => .ok .null
      dumpEvents := fun _ => .ok []
      dumpReports := fun _ => .ok [] } }
  writeReport := fun _ _ => .ok ()

/-- The world with a clock that has just started. -/
def silentProcess : ProcessWorld where
  toSuiteWorld := silentWorld
  firewallWait _ _ := 0
  cycleWait _ _ := 0
  baselineWait := 0

/-- Nothing recorded fails a run of everything. -/
theorem run_accounts_iff_silent : Accounted .default sampleConfig silentProcess .runAll := by
  have hshort (delivery : Delivery) : WaitFits sampleConfig delivery 0 := fun _ => by decide
  refine (run_accounts_iff .default sampleConfig silentProcess .runAll fun _ h => (by cases h)).mpr
    ⟨fun _ _ _ _ _ => ⟨hshort _, fun _ _ _ _ => hshort _⟩, hshort _⟩

/-- The largest timeout that is accepted. -/
def endlessConfig : RunConfig := { sampleConfig with reloadTimeoutSecs := 18446744073709551615 }

/-- With the largest timeout a run of everything panics at its first wait. -/
theorem run_unaccounted :
    ¬ ∀ (global : GlobalArgs) (cfg : RunConfig) (world : ProcessWorld) (command : RunCommand),
      KnownGroup command → Accounted global cfg world command := by
  intro hclaim
  obtain ⟨results, hresults, -⟩ :=
    hclaim .default endlessConfig silentProcess .runAll fun _ h => (by cases h)
  obtain ⟨-, hbaseline⟩ := (runCommandProcess_eq_some_iff.mp hresults).1
  have hfits : 0 + endlessConfig.reloadTimeoutSecs.toNat < 2 ^ 63 := hbaseline rfl
  revert hfits
  decide

end FwVerify
