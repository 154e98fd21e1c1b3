import FwVerify.Model.Catalog
import FwVerify.Model.Peer
import FwVerify.Model.Provision

/-!
# Running one case

One case of the catalog: start its listeners, take a watermark, generate traffic, read the
firewall events after the watermark and judge the outcome against the expectation. Each
external step is given by how it ends; `Effect` records the background workers a run starts
and kills.

## Main definitions

* `CaseResult` — the reported outcome
* `eventMatches`, `caseDport`, `buildCmd` — what a case looks for and sends
* `CaseSteps` — how the external steps of a run end
* `runCase` — a run
-/

set_option autoImplicit false

namespace FwVerify

open Polling

/-- A `firewall_event` row. -/
structure FwEvent where
  eventId : String
  eventTimeMs : Int64
  eventType : String
  action : String
  srcIp : String
  srcPort : Int64
  dstIp : String
  dstPort : Int64
  proto : String
  ruleId : Option Int64
  detail : String
  reportState : String
  deriving DecidableEq

/-- Outcome of a single case. -/
structure CaseResult where
  id : String
  group : String
  bundle : String
  result : String
  enforceExpected : String
  enforceObserved : String
  eventExpected : String
  eventObserved : String
  reportConfirmed : Option Bool
  ruleId : Option Int64
  detail : String
  deriving DecidableEq

def bundleName : Bundle → String
  | .ingressTuple => "ingress_tuple"
  | .defaultDeny => "default_deny"
  | .defaultAllow => "default_allow"
  | .egressTuple => "egress_tuple"
  | .appDeny => "app_deny"
  | .appAllow => "app_allow"
  | .matchFields => "match_fields"
  | .detection => "detection"
  | .traffic => "traffic"
  | .priority => "priority"

def enforceStr : Enforce → String
  | .blocked => "blocked"
  | .allowed => "allowed"
  | .sent => "sent"
  | .refused => "refused"

def describeExpect (expect : ExpectEvent) : String :=
  s!"{expect.kind}/{expect.action}/{expect.proto}"

/-- A result of the case with nothing observed yet. -/
def result (c : FwCase) (status detail : String) : CaseResult where
  id := c.id
  group := c.group.asStr
  bundle := bundleName c.bundle
  result := status
  enforceExpected := enforceStr c.expectEnforce
  enforceObserved := ""
  eventExpected := c.expectEvent.elim "none" describeExpect
  eventObserved := ""
  reportConfirmed := none
  ruleId := c.expectEvent.bind (·.ruleId)
  detail := detail

def endpoint (cfg : RunConfig) : Side → Endpoint
  | .peer => cfg.peer
  | .target => cfg.target

/-- `(src_ip, dst_ip, to)` for traffic originating from `origin`. -/
def flow (cfg : RunConfig) : Side → String × String × IpAddr
  | .peer => (cfg.peerIp.display, cfg.targetIp.display, cfg.targetIp)
  | .target => (cfg.targetIp.display, cfg.peerIp.display, cfg.peerIp)

/-- The traffic request of a case. -/
def buildCmd (c : FwCase) (toAddr : IpAddr) : TrafficCmd :=
  let base : TrafficCmd := {
    proto := "tcp", toAddr, dport := none, dports := none, sport := c.sport
    count := 1, timeoutMs := 1500, intervalMs := 0
    awaitReply := false, finOnly := false, icmpTimestamp := false }
  match c.traffic with
  | .tcp dport => { base with dport := some dport }
  | .icmp => { base with proto := "icmp" }
  | .udp dport awaitReply => { base with proto := "udp", dport := some dport, awaitReply }
  | .tcpScan dports => { base with dports := some dports, timeoutMs := 250 }
  | .udpScan dports => { base with proto := "udp", dports := some dports, timeoutMs := 250 }
  | .tcpFinScan dports =>
    { base with dports := some dports, timeoutMs := 250, finOnly := true }
  | .tcpBurst dport count => { base with dport := some dport, count, timeoutMs := 200 }
  | .udpVolume dport count =>
    { base with proto := "udp", dport := some dport, count, timeoutMs := 200 }

/-- A port as it stands in an event row. -/
def portColumn (port : UInt16) : Int64 := Int64.ofNat port.toNat

/-- The single destination port of a case's traffic. -/
def caseDport (c : FwCase) : Option Int64 :=
  match c.traffic with
  | .tcp dport | .udp dport _ | .tcpBurst dport _ | .udpVolume dport _ => some (portColumn dport)
  | _ => none

/-- Whether a row is the expected event; its rule id is not looked at here. -/
def eventMatches (cfg : RunConfig) (c : FwCase) (ev : FwEvent) (expect : ExpectEvent) : Bool :=
  let (src, dst, _) := flow cfg c.origin
  if ev.eventType != expect.kind || ev.action != expect.action || ev.proto != expect.proto then
    false
  -- PolicyDeny events may carry an incomplete tuple
  else if expect.kind != "PolicyDeny" && ev.srcIp != src then false
  else if expect.matchDport.any fun dport =>
      ev.dstPort != portColumn dport || ev.dstIp != dst then false
  else if expect.detail.any (ev.detail != ·) then false
  else true

/-! ## External steps -/

/-- How the external steps of one run of a case end. -/
structure CaseSteps where
  /-- The spawn of the case's `i`-th listener. -/
  listeners : Nat → Except String Unit
  nowMs : Except String Int64
  /-- The worker's answer on an endpoint, possibly under a uid. -/
  traffic : Endpoint → TrafficCmd → Option UInt32 → Except String TrafficOutcome
  /-- The rows newer than a watermark. -/
  dumpEvents : Int64 → Except String (List FwEvent)
  /-- The rows of the upload confirmation's queries. -/
  polls : Polls (Except String (List FwEvent))
  logcat : Except String String
  curlEvents : Except String String
  statisticsBefore : Except String Value
  statisticsAfter : Except String Value

/-- The worker's answer to the traffic of a case. -/
def CaseSteps.caseTraffic (steps : CaseSteps) (cfg : RunConfig) (c : FwCase) :
    Except String TrafficOutcome :=
  let (_, _, toAddr) := flow cfg c.origin
  let uid := if c.uid then some cfg.appUid else none
  steps.traffic (endpoint cfg c.origin) (buildCmd c toAddr) uid

/-- What a run does to background workers. -/
inductive Effect
  | spawn (index : Nat)
  | kill (index : Nat)
  | stopListeners (side : Side)
  deriving DecidableEq, Repr

/-- Start listeners up to the first that fails: the workers started, and the failure. -/
def startListeners (spawn : Nat → Except String Unit) :
    List Listen → Nat → List Nat × Option String
  | [], _ => ([], none)
  | _ :: later, index =>
    match spawn index with
    | .ok () =>
      let (children, failure) := startListeners spawn later (index + 1)
      (index :: children, failure)
    | .error error => ([], some error)

/-! ## Report confirmation -/

/-- Whether a query shows the event as sent. -/
def showsSent (eventId : String) (query : Except String (List FwEvent)) : Bool :=
  match query with
  | .ok events => events.any fun ev => ev.eventId == eventId && ev.reportState == "sent"
  | .error _ => false

/-- Confirm idps-fw delivered the event to idps-server. -/
def confirmLocalSent (polls : Polls (Except String (List FwEvent))) (eventId : String) : Bool :=
  pollUntil (showsSent eventId) polls

def confirmServerLog (cfg : RunConfig) (steps : CaseSteps) : String :=
  if cfg.mode = .host then "server-log:n/a-host"
  else
    match steps.logcat with
    | .ok log =>
      if Text.contains log "received report" then "server-log:found" else "server-log:absent"
    | .error _ => "server-log:unavailable"

/-- Whether any stored VSOC event mentions the text. -/
def eventsMention (cfg : RunConfig) (curl : Except String String) (needle : String) :
    Except String Bool := do
  if cfg.vsoc.isNone then
    throw "VSOC API is not configured (host mode requires --vsoc-url)"
  return Text.contains (← curl) needle

def confirmVsoc (cfg : RunConfig) (steps : CaseSteps) : String :=
  match eventsMention cfg steps.curlEvents cfg.targetIp.display with
  | .ok true => "vsoc:found"
  | .ok false => "vsoc:absent"
  | .error error => s!"vsoc:error({error})"

/-- The confirmation of a matched event, with the lines it adds to the detail. -/
def confirmReport (cfg : RunConfig) (steps : CaseSteps) :
    Option FwEvent → Option Bool × List String
  | none => (none, [])
  | some ev =>
    let sent := confirmLocalSent steps.polls ev.eventId
    (some sent,
      (if sent then [] else ["report not confirmed sent to idps-server"]) ++
      match cfg.reportConfirm with
      | .local => []
      | .server => [confirmServerLog cfg steps]
      | .vsoc => [confirmServerLog cfg steps, confirmVsoc cfg steps])

/-! ## Judging -/

/-- Whether the worker's verdict is the expected one. -/
def enforceOk (expect : Enforce) (verdict : String) : Bool :=
  match expect with
  | .blocked => verdict == "blocked"
  | .allowed => verdict == "allowed"
  | .sent => verdict == "sent"
  | .refused => verdict == "refused"

/-- What the event list says about the expectation. -/
structure Detection where
  eventOk : Bool
  matched : Option FwEvent
  observed : String
  detail : List String

/-- Look for the expected event, or for an unexpected one. -/
def detect (cfg : RunConfig) (c : FwCase) (events : List FwEvent) : Detection :=
  match c.expectEvent with
  | some expect =>
    match events.find? (eventMatches cfg c · expect) with
    | some ev => {
        eventOk := true
        matched := some ev
        observed := s!"{ev.eventType}/{ev.action}/{ev.proto}"
        -- a wrong rule id is only noted
        detail := match expect.ruleId, ev.ruleId with
          | some want, some got =>
            if want ≠ got then [s!"rule_id expected {want} got {got}"] else []
          | _, _ => [] }
    | none => { eventOk := false, matched := none, observed := "none", detail := [] }
  | none =>
    let dport := caseDport c
    let (src, _, _) := flow cfg c.origin
    -- without a single port no row violates anything
    match events.find? fun ev => ev.srcIp == src && dport.any (ev.dstPort == ·) with
    | some ev => {
        eventOk := false, matched := none
        observed := s!"unexpected {ev.eventType}/{ev.action}", detail := [] }
    | none => { eventOk := true, matched := none, observed := "none", detail := [] }

/-- The judgement of a run that got as far as its events. -/
def judge (cfg : RunConfig) (c : FwCase) (steps : CaseSteps) (outcome : TrafficOutcome)
    (events : List FwEvent) : CaseResult :=
  let enforced := enforceOk c.expectEnforce outcome.verdict
  let detection := detect cfg c events
  let (confirmed, notes) := confirmReport cfg steps detection.matched
  let reportGate := confirmed != some false
  let (status, failures) :=
    if enforced && detection.eventOk && reportGate then ("PASS", [])
    else ("FAIL",
      (if enforced then []
        else [s!"enforce expected {enforceStr c.expectEnforce} got {outcome.verdict}"]) ++
      (if detection.eventOk then [] else ["event expectation not met"]))
  { result c "PASS" "" with
    enforceObserved := outcome.verdict
    eventObserved := detection.observed
    reportConfirmed := confirmed
    result := status
    detail := "; ".intercalate (detection.detail ++ notes ++ failures) }

/-! ## Runs -/

/-- A traffic-statistics case: both counters must grow. The growth that the detail shows wraps
around as it does in a release build; a debug build panics there. -/
def runTrafficCase (cfg : RunConfig) (c : FwCase) (steps : CaseSteps) : CaseResult :=
  match steps.statisticsBefore with
  | .error error => result c "FAIL" s!"stats failed: {error}"
  | .ok before =>
    match steps.caseTraffic cfg c with
    | .error error => result c "FAIL" s!"traffic failed: {error}"
    | .ok _ =>
      match steps.statisticsAfter with
      | .error error => result c "FAIL" s!"stats failed: {error}"
      | .ok after =>
        let get (v : Value) (key : String) : Int64 := ((v.get key).bind Value.asI64).getD 0
        let grew (key : String) : Bool := decide (get before key < get after key)
        let growth (key : String) : Int64 := get after key - get before key
        let (ok, detail) :=
          if c.id = "traffic-per-app" then
            let bytes := growth "egress_bytes"
            let windows := growth "app_traffic_windows"
            (grew "egress_bytes" && grew "app_traffic_windows",
              s!"egress_bytes +{bytes}, app_windows +{windows}")
          else
            let bytes := growth "ingress_bytes"
            let windows := growth "global_traffic_windows"
            (grew "ingress_bytes" && grew "global_traffic_windows",
              s!"ingress_bytes +{bytes}, global_windows +{windows}")
        { result c "PASS" "" with
          enforceObserved := "allowed"
          eventObserved := detail
          result := if ok then "PASS" else "FAIL"
          detail := detail }

/-- The end of a run: its workers are killed and lingering ones stopped. -/
def finishWith (c : FwCase) (children : List Nat) (res : CaseResult) :
    CaseResult × List Effect :=
  (res, children.map Effect.spawn ++ children.map Effect.kill ++
    c.listen.map fun spec => Effect.stopListeners spec.side)

/-- Run a single case, its bundle being provisioned. -/
def runCase (cfg : RunConfig) (c : FwCase) (steps : CaseSteps) : CaseResult × List Effect :=
  match c.skip with
  | some reason => (result c "SKIP" reason, [])
  | none =>
    if c.group = .traffic then (runTrafficCase cfg c steps, [])
    else
      match startListeners steps.listeners c.listen 0 with
      -- the workers started so far are left running
      | (children, some error) =>
        (result c "SKIP" s!"listener failed: {error}", children.map Effect.spawn)
      | (children, none) =>
        match steps.nowMs with
        | .error error =>
          finishWith c children (result c "FAIL" s!"watermark failed: {error}")
        | .ok since =>
          match steps.caseTraffic cfg c with
          | .error error =>
            finishWith c children (result c "FAIL" s!"traffic failed: {error}")
          | .ok outcome =>
            -- a failed query reads as an empty event log
            let events := (steps.dumpEvents since).toOption.getD []
            finishWith c children (judge cfg c steps outcome events)

/-- The result of a case whose bundle could not be provisioned. -/
def provisionError (c : FwCase) (error : String) : CaseResult :=
  result c "FAIL" s!"provision failed: {error}"

end FwVerify
