import FwVerify.Model.Monitor

/-!
# Reports and exit codes

The commands that run cases, the summary and the report of their results, and the exit code
the process ends with.

## Main definitions

* `Summary`, `reportDocument` — what a run reports
* `emit` — report the results and return the failure count
* `RunCommand`, `runCommand` — the commands, and the results of one
* `exitCode` — how the process ends
-/

set_option autoImplicit false

namespace FwVerify

/-- The counts of a run. -/
structure Summary where
  total : Nat
  passed : Nat
  failed : Nat
  skipped : Nat
  deriving DecidableEq, Repr

/-- The number of results of a status. -/
def countStatus (status : String) (results : List CaseResult) : Nat :=
  (results.filter (·.result == status)).length

def summary (results : List CaseResult) : Summary where
  total := results.length
  passed := countStatus "PASS" results
  failed := countStatus "FAIL" results
  skipped := countStatus "SKIP" results

/-- Human label for diagnostics. -/
def Endpoint.label : Endpoint → String
  | .local => "target"
  | .netns name => s!"peer:{name}"

/-- A count as JSON. -/
def jsonCount (n : Nat) : Value := .number (.posInt (UInt64.ofNat n))

/-- A result as JSON. -/
def CaseResult.toJson (res : CaseResult) : Value :=
  .object [("id", .string res.id), ("group", .string res.group), ("bundle", .string res.bundle),
    ("result", .string res.result), ("enforce_expected", .string res.enforceExpected),
    ("enforce_observed", .string res.enforceObserved),
    ("event_expected", .string res.eventExpected),
    ("event_observed", .string res.eventObserved),
    ("report_confirmed", res.reportConfirmed.elim .null .bool),
    ("rule_id", res.ruleId.elim .null Value.ofInt64), ("detail", .string res.detail)]

/-- The report of a run. -/
def reportDocument (cfg : RunConfig) (results : List CaseResult) : Value :=
  let counts := summary results
  .object [("mode", .string cfg.mode.lowercase), ("target", .string cfg.target.label),
    ("peer", .string cfg.peer.label), ("target_ip", .string cfg.targetIp.display),
    ("peer_ip", .string cfg.peerIp.display), ("cases", .array (results.map CaseResult.toJson)),
    ("summary", .object [("total", jsonCount counts.total), ("passed", jsonCount counts.passed),
      ("failed", jsonCount counts.failed), ("skipped", jsonCount counts.skipped)])]

/-- Report the results and return the failure count. `writeReport` says how writing a report
to a file ends. -/
def emit (global : GlobalArgs) (cfg : RunConfig)
    (writeReport : String → Value → Except String Unit) (results : List CaseResult) :
    Except String Nat :=
  let failed := (summary results).failed
  match global.report with
  | none => .ok failed
  | some path =>
    match writeReport path (reportDocument cfg results) with
    | .ok () => .ok failed
    | .error error => .error s!"failed to write report {path}: {error}"

/-! ## Commands -/

/-- The commands that run cases. -/
inductive RunCommand
  | run (id : String)
  | runGroup (group : String)
  | runAll
  deriving DecidableEq, Repr

/-- How the outside world answers a command. -/
structure SuiteWorld where
  cases : World
  monitors : MonitorWorld
  writeReport : String → Value → Except String Unit

/-- Run one case by id, a monitor case or one of the catalog. -/
def runOneCase (cfg : RunConfig) (world : SuiteWorld) (id : String) : List CaseResult :=
  (runOne cfg world.cases (fun id => (runMonitorOne cfg world.monitors id).getD []) id).results

/-- Run the cases of a group. -/
def runGroup (cfg : RunConfig) (world : SuiteWorld) (group : Group) : List CaseResult :=
  if group = .monitor then runMonitorAll cfg world.monitors
  else (runFiltered cfg (fun c => c.group == group) world.cases).results

/-- Run the whole catalog, then the monitor cases. -/
def runAll (cfg : RunConfig) (world : SuiteWorld) : List CaseResult :=
  (runFiltered cfg (fun _ => true) world.cases).results ++ runMonitorAll cfg world.monitors

/-- The results of a command; a group of an unknown name has none. -/
def runCommand (cfg : RunConfig) (world : SuiteWorld) :
    RunCommand → Except String (List CaseResult)
  | .run id => .ok (runOneCase cfg world id)
  | .runGroup name => (Group.parse name).map (runGroup cfg world)
  | .runAll => .ok (runAll cfg world)

/-- The failure count of a command. -/
def runSuite (global : GlobalArgs) (cfg : RunConfig) (world : SuiteWorld)
    (command : RunCommand) : Except String Nat := do
  emit global cfg world.writeReport (← runCommand cfg world command)

/-- How the process ends. -/
inductive ExitCode
  | success
  | failure
  deriving DecidableEq, Repr

/-- The exit code for the end of a command. -/
def exitCode : Except String Nat → ExitCode
  | .ok failures => if 0 < failures then .failure else .success
  | .error _ => .failure

end FwVerify
