import FwVerify.Peer.EndToEnd
import FwVerify.Verify.Accounting

/-!
# The report file

A report is written as a document over several lines. Whoever reads the file finds every result of
the run in it, in order and unchanged, under counts that add up, and the counts say how the process
ended.

## Main definitions

* `RunReport`, `RunReport.ofJson` — what a reader makes of a report
* `reportText` — what is written

## Main results

* `ofJson_reportDocument` — a report is read back
* `report_file_accounts` — the file and the exit code of a command
-/

set_option autoImplicit false

namespace FwVerify

/-! ## Reading a report -/

/-- The boolean of a document, or nothing when it is null. -/
def Value.asOptBool : Value → Option (Option Bool)
  | .null => some none
  | value => value.asBool.map some

/-- A result, as a reader of the report takes it. -/
def CaseResult.ofJson (value : Value) : Option CaseResult := do
  let field ← recordFields
    ["id", "group", "bundle", "result", "enforce_expected", "enforce_observed", "event_expected",
      "event_observed", "report_confirmed", "rule_id", "detail"] value
  let id ← required field "id" Value.asStr
  let group ← required field "group" Value.asStr
  let bundle ← required field "bundle" Value.asStr
  let result ← required field "result" Value.asStr
  let enforceExpected ← required field "enforce_expected" Value.asStr
  let enforceObserved ← required field "enforce_observed" Value.asStr
  let eventExpected ← required field "event_expected" Value.asStr
  let eventObserved ← required field "event_observed" Value.asStr
  let reportConfirmed ← required field "report_confirmed" Value.asOptBool
  let ruleId ← required field "rule_id" Value.asOptI64
  let detail ← required field "detail" Value.asStr
  return {
    id, group, bundle, result, enforceExpected, enforceObserved, eventExpected, eventObserved
    reportConfirmed, ruleId, detail }

def Summary.ofJson (value : Value) : Option Summary := do
  let field ← recordFields ["total", "passed", "failed", "skipped"] value
  let count (name : String) : Option Nat := (required field name Value.asU64).map UInt64.toNat
  return {
    total := ← count "total", passed := ← count "passed", failed := ← count "failed"
    skipped := ← count "skipped" }

/-- A report: the two sides of the run, its results and their counts. -/
structure RunReport where
  mode : String
  target : String
  peer : String
  targetIp : String
  peerIp : String
  cases : List CaseResult
  summary : Summary
  deriving DecidableEq

def RunReport.ofJson (value : Value) : Option RunReport := do
  let field ← recordFields
    ["mode", "target", "peer", "target_ip", "peer_ip", "cases", "summary"] value
  let mode ← required field "mode" Value.asStr
  let target ← required field "target" Value.asStr
  let peer ← required field "peer" Value.asStr
  let targetIp ← required field "target_ip" Value.asStr
  let peerIp ← required field "peer_ip" Value.asStr
  let items ← required field "cases" Value.asArray
  let cases ← items.mapM CaseResult.ofJson
  let summary ← required field "summary" Summary.ofJson
  return { mode, target, peer, targetIp, peerIp, cases, summary }

/-- The report of a run of some results. -/
def RunReport.of (cfg : RunConfig) (results : List CaseResult) : RunReport where
  mode := cfg.mode.lowercase
  target := cfg.target.label
  peer := cfg.peer.label
  targetIp := cfg.targetIp.display
  peerIp := cfg.peerIp.display
  cases := results
  summary := FwVerify.summary results

/-! ## A report is read back -/

theorem CaseResult.integral_toJson {levels : Nat} (res : CaseResult) :
    res.toJson.Integral (levels + 1) := by
  refine .object fun f hf => ?_
  simp only [List.mem_cons, List.not_mem_nil, or_false] at hf
  rcases hf with rfl | rfl | rfl | rfl | rfl | rfl | rfl | rfl | rfl | rfl | rfl
  case inr.inr.inr.inr.inr.inr.inr.inr.inl =>
    cases res.reportConfirmed with
    | none => exact .null
    | some b => exact .bool b
  case inr.inr.inr.inr.inr.inr.inr.inr.inr.inl =>
    cases res.ruleId with
    | none => exact .null
    | some n => exact integral_ofInt64 n
  all_goals exact .string _

theorem integral_reportDocument (cfg : RunConfig) (results : List CaseResult) :
    (reportDocument cfg results).Integral maxLevels := by
  refine .object fun f hf => ?_
  simp only [List.mem_cons, List.not_mem_nil, or_false] at hf
  rcases hf with rfl | rfl | rfl | rfl | rfl | rfl | rfl
  case inr.inr.inr.inr.inr.inl =>
    refine .array fun item hitem => ?_
    obtain ⟨res, -, rfl⟩ := List.mem_map.mp hitem
    exact res.integral_toJson
  case inr.inr.inr.inr.inr.inr =>
    refine .object fun f hf => ?_
    simp only [List.mem_cons, List.not_mem_nil, or_false] at hf
    rcases hf with rfl | rfl | rfl | rfl <;> exact .posInt _
  all_goals exact .string _

/-- A result is read back. -/
theorem CaseResult.ofJson_toJson (res : CaseResult) : ofJson res.toJson.sorted = some res := by
  have hconfirmed : (res.reportConfirmed.elim Value.null Value.bool).sorted.asOptBool =
      some res.reportConfirmed := by
    cases res.reportConfirmed <;> rfl
  have hrule : (res.ruleId.elim Value.null Value.ofInt64).sorted.asOptI64 = some res.ruleId := by
    cases res.ruleId with
    | none => rfl
    | some n => rw [Option.elim_some, sorted_ofInt64, asOptI64_ofInt64]
  rw [ofJson, toJson, recordFields_sorted _ (by simp)]
  simp [required, List.lookup_cons, Value.asStr, hconfirmed, hrule]

/-- The counts are read back, as far as a counter holds them. -/
theorem Summary.ofJson_counts (counts : Summary) (htotal : counts.total < 2 ^ 64)
    (hpassed : counts.passed < 2 ^ 64) (hfailed : counts.failed < 2 ^ 64)
    (hskipped : counts.skipped < 2 ^ 64) :
    ofJson (Value.object [("total", jsonCount counts.total), ("passed", jsonCount counts.passed),
      ("failed", jsonCount counts.failed), ("skipped", jsonCount counts.skipped)]).sorted =
        some counts := by
  have hcount {n : Nat} (hn : n < 2 ^ 64) :
      ((jsonCount n).sorted.asU64).map UInt64.toNat = some n := by
    change some (UInt64.ofNat n).toNat = some n
    rw [UInt64.toNat_ofNat_of_lt' hn]
  rw [ofJson, recordFields_sorted _ (by simp)]
  simp [required, List.lookup_cons, hcount htotal, hcount hpassed, hcount hfailed, hcount hskipped]

/-- **A report is read back.** -/
theorem ofJson_reportDocument (cfg : RunConfig) {results : List CaseResult}
    (hfew : results.length < 2 ^ 64) :
    RunReport.ofJson (reportDocument cfg results).sorted = some (.of cfg results) := by
  have hstatus (status : String) : countStatus status results < 2 ^ 64 :=
    lt_of_le_of_lt (List.length_filter_le _ _) hfew
  have hcases : (results.map (Value.sorted ∘ CaseResult.toJson)).mapM CaseResult.ofJson =
      some results :=
    Traversal.mapM_map_of_undoes CaseResult.ofJson_toJson results
  have hitems : (Value.array (results.map CaseResult.toJson)).sorted.asArray =
      some (results.map (Value.sorted ∘ CaseResult.toJson)) := by
    rw [Value.sorted, sortedItems_eq_map, List.map_map, Value.asArray]
  have hsummary := Summary.ofJson_counts (summary results) hfew (hstatus "PASS")
    (hstatus "FAIL") (hstatus "SKIP")
  rw [RunReport.ofJson, reportDocument, recordFields_sorted _ (by simp)]
  simp [required, List.lookup_cons, Value.asStr, hitems, hcases, hsummary, RunReport.of]

/-! ## Commands -/

section Lengths

variable (cfg : RunConfig) (world : SuiteWorld)

theorem length_runFiltered (keep : FwCase → Bool) :
    (runFiltered cfg keep world.cases).results.length ≤ allCases.length := by
  have hids := congrArg List.length (runFiltered_batched cfg keep world.cases).ids_eq
  rw [List.length_map, List.length_map, (selected_perm keep).length_eq] at hids
  rw [hids]
  exact List.length_filter_le _ _

theorem length_runMonitorFiltered (keep : MonitorCase → Bool) :
    (runMonitorFiltered cfg keep world.monitors).length ≤ monitorCases.length := by
  rw [← (runMonitorFiltered_monitored cfg keep world.monitors).length_eq]
  exact List.length_filter_le _ _

theorem length_runOneCase (id : String) :
    (runOneCase cfg world id).length ≤ allCases.length + monitorCases.length := by
  cases hone : runMonitorOne cfg world.monitors id with
  | some results =>
    obtain ⟨c, -, rfl⟩ := Option.map_eq_some_iff.mp hone
    rw [runOneCase_of_monitor cfg world hone]
    have hlength := length_runMonitorFiltered cfg world (·.id == id)
    omega
  | none =>
    have hmonitor : id ∉ monitorIds := by
      rw [← runMonitorOne_isSome_iff cfg world.monitors, hone]
      exact Bool.false_ne_true
    rw [runOneCase]
    cases hfound : caseById id with
    | none =>
      rw [runOne, if_neg hmonitor, hfound]
      exact Nat.le_add_left 1 _
    | some c =>
      rw [runOne_eq_runFiltered cfg world.cases _ hmonitor hfound]
      have hlength := length_runFiltered cfg world (·.id == id)
      omega

/-- No command has more results than there are cases. -/
theorem length_runCommand {command : RunCommand} {results : List CaseResult}
    (hrun : runCommand cfg world command = .ok results) :
    results.length ≤ allCases.length + monitorCases.length := by
  cases command with
  | run id =>
    cases hrun
    exact length_runOneCase cfg world id
  | runGroup name =>
    rw [runCommand] at hrun
    cases hgroup : Group.parse name with
    | error error =>
      rw [hgroup] at hrun
      cases hrun
    | ok group =>
      rw [hgroup] at hrun
      cases hrun
      have hcases := length_runFiltered cfg world fun c => c.group == group
      have hmonitors := length_runMonitorFiltered cfg world fun _ => true
      rw [runGroup, runMonitorAll]
      split_ifs <;> omega
  | runAll =>
    cases hrun
    have hcases := length_runFiltered cfg world fun _ => true
    have hmonitors := length_runMonitorFiltered cfg world fun _ => true
    rw [runAll, List.length_append, runMonitorAll]
    omega

end Lengths

/-- The text of a report. -/
def reportText (cfg : RunConfig) (results : List CaseResult) : String :=
  (reportDocument cfg results).pretty

/-- The report of a text. -/
def RunReport.read (json : JsonParser) (text : String) : Option RunReport :=
  (json.fromStr text).toOption.bind RunReport.ofJson

theorem read_reportText {json : JsonParser} (hjson : json.ReadsPrinted) (cfg : RunConfig)
    {results : List CaseResult} (hfew : results.length < 2 ^ 64) :
    RunReport.read json (reportText cfg results) = some (.of cfg results) := by
  rw [RunReport.read, reportText, Value.pretty,
    hjson.printed .pretty (integral_reportDocument cfg results)]
  exact ofJson_reportDocument cfg hfew

/-- **The file and the exit code.** Whatever the external steps do, the report of a command reads
back as its results under counts that add up, and the process succeeds exactly when the file is
written and counts no failure. -/
theorem report_file_accounts {json : JsonParser} (hjson : json.ReadsPrinted) (global : GlobalArgs)
    (cfg : RunConfig) (world : SuiteWorld) (command : RunCommand) (path : String)
    (save : String → String → Except String Unit)
    (hworld : world.writeReport = fun path document => save path document.pretty)
    (hreport : global.report = some path) {results : List CaseResult}
    (hrun : runCommand cfg world command = .ok results) :
    ∃ report, RunReport.read json (reportText cfg results) = some report ∧
      report.cases = results ∧
      report.summary.passed + report.summary.failed + report.summary.skipped = results.length ∧
      (exitCode (runSuite global cfg world command) = .success ↔
        save path (reportText cfg results) = .ok () ∧ report.summary.failed = 0) := by
  have hfew : results.length < 2 ^ 64 :=
    lt_of_le_of_lt (length_runCommand cfg world hrun) (by decide)
  refine ⟨_, read_reportText hjson cfg hfew, rfl,
    summary_adds_up (runCommand_counted cfg world hrun), ?_⟩
  have hsuite : runSuite global cfg world command =
      emit global cfg world.writeReport results := by
    rw [runSuite, hrun]
    rfl
  have hwrite : world.writeReport path (reportDocument cfg results) =
      save path (reportText cfg results) := by rw [hworld, reportText]
  rw [hsuite, emit, hreport]
  dsimp only
  rw [hwrite]
  cases hsave : save path (reportText cfg results) with
  | error error => exact iff_of_false (fun h => by cases h) fun h => by cases h.1
  | ok _ =>
    rw [exitCode, RunReport.of]
    dsimp only
    split_ifs with hfailed
    · exact iff_of_false (fun h => by cases h) fun h => hfailed.ne' h.2
    · exact iff_of_true rfl ⟨rfl, Nat.eq_zero_of_not_pos hfailed⟩

/-- A disk that takes every file. -/
theorem report_file_accounts_silent :
    ∃ report, RunReport.read jsonParser (reportText sampleConfig
        (runAll sampleConfig silentWorld)) = some report ∧
      report.cases = runAll sampleConfig silentWorld := by
  obtain ⟨report, hread, hcases, -⟩ := report_file_accounts jsonParser_readsPrinted
    { GlobalArgs.default with report := some "report.json" } sampleConfig silentWorld .runAll
    "report.json" (fun _ _ => .ok ()) rfl rfl rfl
  exact ⟨report, hread, hcases⟩

end FwVerify
