import FwVerify.Lib.Runs
import FwVerify.Model.Report

/-!
# Processes that may panic

A wait for idps-fw sets its deadline before it polls, by adding the reload timeout to the clock. A
sum that is no reading of the clock is a panic, in every build: the process ends there, whatever it
has run so far, and reports nothing. The other intervals that are added to the clock are constants
of a few seconds and are taken to fit.

## Main definitions

* `deadline` — the deadline of a wait
* `ProcessWorld` — the outside world of a command, with the clock
* `runCommandProcess`, `runProcess` — the commands up to a panic, and how the process ends
-/

set_option autoImplicit false

open Runs

namespace FwVerify

/-! ## Deadlines -/

/-- `Instant::now() + timeout`, in seconds of the monotonic clock, whose readings are of type
`i64`; `none` is a panic. -/
def deadline (now : Nat) (timeout : UInt64) : Option Nat :=
  let secs := now + timeout.toNat
  if secs < 2 ^ 63 then some secs else none

/-- Whether a delivery goes through, so that its load is waited for. -/
def Delivery.delivered (mode : Mode) (delivery : Delivery) : Bool :=
  match mode with
  | .android => (writeDepotRule delivery.depotWrite).toOption.isSome
  | .host => delivery.upsert.toOption.isSome

/-- Whether a provisioning call panics: it comes to its wait, and the deadline cannot be set. -/
def waitPanics (cfg : RunConfig) (delivery : Delivery) (now : Nat) : Bool :=
  delivery.delivered cfg.mode && (deadline now cfg.reloadTimeoutSecs).isNone

/-! ## Runs -/

/-- The outside world of a command, with the seconds the clock shows when the waits begin: those of
a bundle after the events so far, and that of the monitor cases. -/
structure ProcessWorld extends SuiteWorld where
  firewallWait : List Event → Bundle → Nat
  cycleWait : List Event → Bundle → Nat
  baselineWait : Nat

section Runs

variable (cfg : RunConfig) (world : ProcessWorld)

/-- Whether provisioning a bundle panics, after the events so far. -/
def provisionPanics (trace : List Event) (bundle : Bundle) : Bool :=
  let steps := world.cases.firewall trace bundle (firewallText bundle cfg)
  waitPanics cfg steps.toDelivery (world.firewallWait trace bundle) ||
    match provisionFirewall cfg.mode steps, trafficCycle bundle with
    -- the traffic cycle comes behind the firewall rules, if there is one
    | .ok _, some _ =>
      waitPanics cfg (world.cases.cycle trace bundle).toDelivery (world.cycleWait trace bundle)
    | _, _ => false

/-- Run the selected cases up to a panic. -/
def runFilteredProcess (keep : FwCase → Bool) : Option RunState :=
  foldWhile
    -- a bundle nobody needs is not provisioned
    (fun s bundle => (members keep bundle).isEmpty || !provisionPanics cfg world s.trace bundle)
    (runBundle cfg keep world.cases) (runStart cfg world.cases) bundleOrder

/-- Whether provisioning the baseline of the monitor cases panics. -/
def baselinePanics : Bool :=
  waitPanics cfg (world.monitors.firewall monitorBaseline).toDelivery world.baselineWait

/-- Run the selected monitor cases up to a panic. -/
def runMonitorFilteredProcess (keep : MonitorCase → Bool) : Option (List CaseResult) :=
  if !(monitorCases.filter keep).isEmpty && baselinePanics cfg world then none
  else some (runMonitorFiltered cfg keep world.monitors)

def runOneProcess (id : String) : Option (List CaseResult) :=
  match monitorCaseById id with
  | some _ => runMonitorFilteredProcess cfg world (·.id == id)
  | none =>
    match caseById id with
    | none => some [unknownCase id]
    | some c =>
      if provisionPanics cfg world (runStart cfg world.cases).trace c.bundle then none
      else some (runOneCase cfg world.toSuiteWorld id)

def runGroupProcess (group : Group) : Option (List CaseResult) :=
  if group = .monitor then runMonitorFilteredProcess cfg world fun _ => true
  else (runFilteredProcess cfg world fun c => c.group == group).map (·.results)

def runAllProcess : Option (List CaseResult) := do
  let s ← runFilteredProcess cfg world fun _ => true
  return s.results ++ (← runMonitorFilteredProcess cfg world fun _ => true)

/-- The results of a command, when it does not panic. -/
def runCommandProcess : RunCommand → Option (Except String (List CaseResult))
  | .run id => (runOneProcess cfg world id).map .ok
  | .runGroup name =>
    match Group.parse name with
    | .error error => some (.error error)
    | .ok group => (runGroupProcess cfg world group).map .ok
  | .runAll => (runAllProcess cfg world).map .ok

end Runs

/-- How a process ends; a panic of its main thread is a failure as well, with a code of its own. -/
inductive ProcessEnd
  | exited (code : ExitCode)
  | panicked
  deriving DecidableEq, Repr

def ProcessEnd.failed : ProcessEnd → Bool
  | .exited code => code == .failure
  | .panicked => true

/-- How the process of a command ends. -/
def runProcess (global : GlobalArgs) (cfg : RunConfig) (world : ProcessWorld)
    (command : RunCommand) : ProcessEnd :=
  match runCommandProcess cfg world command with
  | none => .panicked
  | some results => .exited (exitCode (results.bind (emit global cfg world.writeReport)))

end FwVerify
