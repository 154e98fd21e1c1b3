import FwVerify.Model.Verify

/-!
# Running the catalog

The runners over the catalog: one case by id, and the selected cases batched by their
provisioning bundle. The outside world may answer each step according to everything that
happened before it; a run keeps the events it went through beside its results.

## Main definitions

* `World` — the answers of the outside world, given the events so far
* `provisionBundle` — one provisioning attempt
* `runFiltered`, `runOne` — the runners
* `failedCount` — the failure total the exit code is taken from
-/

set_option autoImplicit false

namespace FwVerify

/-- What happens in a run. -/
inductive Event
  /-- The traffic policy is written before anything else; its outcome is ignored. -/
  | trafficRule (outcome : Except String Unit)
  /-- A provisioning attempt: the rule text, how its delivery ends, and the traffic cycle when
  it gets that far. -/
  | provision (bundle : Bundle) (text : String) (firewall : Except String Int64)
    (cycle : Option (UInt64 × Except String Unit))
  /-- A case is executed. -/
  | ran (c : FwCase) (steps : CaseSteps)
  /-- A case is not executed since its bundle could not be provisioned. -/
  | refused (c : FwCase) (error : String)

/-- How the outside world answers, after the events so far. -/
structure World where
  trafficRule : ProvisionSteps
  firewall : List Event → Bundle → String → ProvisionSteps
  cycle : List Event → Bundle → ProvisionSteps
  steps : List Event → FwCase → CaseSteps

/-- The state of a run. -/
structure RunState where
  trace : List Event
  completed : Nat
  results : List CaseResult

/-- Provision a bundle: its rule text, then its traffic cycle if it has one. -/
def provisionBundle (cfg : RunConfig) (world : World) (trace : List Event) (bundle : Bundle) :
    Event × Except String Unit :=
  let text := firewallText bundle cfg
  match provisionFirewall cfg.mode (world.firewall trace bundle text) with
  | .error error => (.provision bundle text (.error error) none, .error error)
  | .ok ver =>
    match trafficCycle bundle with
    | none => (.provision bundle text (.ok ver) none, .ok ())
    | some cycle =>
      let outcome := provisionTrafficCycle cfg.mode cycle (world.cycle trace bundle)
      (.provision bundle text (.ok ver) (some (cycle, outcome)), outcome)

/-- Execute a member of a provisioned bundle. -/
def runMember (cfg : RunConfig) (world : World) (s : RunState) (c : FwCase) : RunState :=
  let steps := world.steps s.trace c
  { trace := s.trace ++ [.ran c steps]
    completed := s.completed + 1
    results := s.results ++ [(runCase cfg c steps).1] }

/-- Report a member of a bundle whose provisioning failed. -/
def refuseMember (error : String) (s : RunState) (c : FwCase) : RunState where
  trace := s.trace ++ [.refused c error]
  completed := s.completed + 1
  results := s.results ++ [provisionError c error]

/-- The selected cases of a bundle. -/
def members (keep : FwCase → Bool) (bundle : Bundle) : List FwCase :=
  allCases.filter fun c => c.bundle == bundle && keep c

/-- One round of the batched run. -/
def runBundle (cfg : RunConfig) (keep : FwCase → Bool) (world : World) (s : RunState)
    (bundle : Bundle) : RunState :=
  let cases := members keep bundle
  -- a bundle nobody needs is not provisioned
  if cases.isEmpty then s
  else
    let (attempt, outcome) := provisionBundle cfg world s.trace bundle
    let s := { s with trace := s.trace ++ [attempt] }
    match outcome with
    | .error error => cases.foldl (refuseMember error) s
    | .ok () => cases.foldl (runMember cfg world) s

/-- The state before the first bundle. -/
def runStart (cfg : RunConfig) (world : World) : RunState where
  trace := [.trafficRule (writeTrafficRule cfg.mode world.trafficRule)]
  completed := 0
  results := []

/-- Run the selected cases, provisioning each needed bundle once. -/
def runFiltered (cfg : RunConfig) (keep : FwCase → Bool) (world : World) : RunState :=
  bundleOrder.foldl (runBundle cfg keep world) (runStart cfg world)

/-- The number of selected cases. -/
def total (keep : FwCase → Bool) : Nat := (allCases.filter keep).length

/-- The result for an id that no case has. -/
def unknownCase (id : String) : CaseResult where
  id := id
  group := ""
  bundle := ""
  result := "FAIL"
  enforceExpected := ""
  enforceObserved := ""
  eventExpected := ""
  eventObserved := ""
  reportConfirmed := none
  ruleId := none
  detail := "unknown case id"

/-- The ids of the side-channel monitor cases. -/
def monitorIds : List String :=
  ["monitor-icmp-timestamp", "monitor-conn-total", "monitor-conn-perip", "monitor-arp-spoof"]

/-- Run one case by id, provisioning its bundle first. The monitor cases have a runner of
their own, whose results are given. -/
def runOne (cfg : RunConfig) (world : World) (runMonitor : String → List CaseResult)
    (id : String) : RunState :=
  if id ∈ monitorIds then { trace := [], completed := 0, results := runMonitor id }
  else
    match caseById id with
    | none => { trace := [], completed := 0, results := [unknownCase id] }
    | some c =>
      let s := runStart cfg world
      let (attempt, outcome) := provisionBundle cfg world s.trace c.bundle
      let s := { s with trace := s.trace ++ [attempt] }
      match outcome with
      | .error error => refuseMember error s c
      | .ok () => runMember cfg world s c

/-- The results a run counts as failures. -/
def failures (results : List CaseResult) : List CaseResult :=
  results.filter (·.result == "FAIL")

/-- The failure count a run returns; the process exits with an error when it is not zero. -/
def failedCount (results : List CaseResult) : Nat := (failures results).length

end FwVerify
