import FwVerify.Model.Runner

/-!
# Side-channel monitor cases

The features idps-fw reports beside the per-packet events: ICMP timestamp probes,
connections per destination and in total, and ARP spoofing. The cases run under a permissive
rule set, each with a watermark, traffic of its own and a look at what was recorded after the
watermark. How the external steps of a case end is given from outside; `MonitorEffect` records
the background workers it starts and kills.

## Main definitions

* `monitorCases` — the cases
* `MonitorSteps` — how the external steps of a case end
* `runMonitor` — a run of a case
* `runMonitorFiltered`, `runMonitorOne`, `runMonitorAll` — the runners
-/

set_option autoImplicit false

namespace FwVerify

def holdSecs : UInt64 := 22
def connFloodCount : UInt32 := 60
def floodPort : UInt16 := 7400

/-- The spoofed address the ARP case claims. -/
def arpClaimIp : String := "10.123.0.250"

/-- What a monitor case drives and asserts. -/
inductive MonitorKind
  /-- The peer sends an ICMP timestamp request. -/
  | icmpTimestamp
  /-- The target holds many connections toward the peer. -/
  | connPerIp
  /-- The total of all connections is sampled at least once. -/
  | connTotal
  /-- The peer floods gratuitous ARP replies for a spoofed address. -/
  | arpSpoof
  deriving DecidableEq, Repr

/-- A monitor case. -/
structure MonitorCase where
  id : String
  kind : MonitorKind
  deriving DecidableEq, Repr

/-- All monitor cases. -/
def monitorCases : List MonitorCase :=
  [⟨"monitor-icmp-timestamp", .icmpTimestamp⟩, ⟨"monitor-conn-total", .connTotal⟩,
    ⟨"monitor-conn-perip", .connPerIp⟩, ⟨"monitor-arp-spoof", .arpSpoof⟩]

/-- Look up a monitor case by id. -/
def monitorCaseById (id : String) : Option MonitorCase := monitorCases.find? (·.id == id)

def monitorExpectLabel : MonitorKind → String
  | .icmpTimestamp => "IcmpTimestampProbe"
  | .connPerIp => "tcp_conn_per_ip"
  | .connTotal => "tcp_conn_total"
  | .arpSpoof => "arp_spoof"

/-- A result of a monitor case. -/
def monitorResult (c : MonitorCase) (status observed detail : String) : CaseResult where
  id := c.id
  group := "monitor"
  bundle := "monitor"
  result := status
  enforceExpected := "report"
  enforceObserved := observed
  eventExpected := monitorExpectLabel c.kind
  eventObserved := observed
  reportConfirmed := none
  ruleId := none
  detail := detail

/-- A side-channel report idps-fw has queued. -/
structure FwReport where
  reportType : String
  payload : Value

/-- The background workers of a monitor case. -/
inductive MonitorWorker
  | listener
  | flood
  deriving DecidableEq, Repr

/-- What a monitor case does to its workers. -/
inductive MonitorEffect
  | spawn (worker : MonitorWorker)
  | kill (worker : MonitorWorker)
  deriving DecidableEq, Repr

/-- How the external steps of a monitor case end. -/
structure MonitorSteps where
  nowMs : Except String Int64
  traffic : Endpoint → TrafficCmd → Option UInt32 → Except String TrafficOutcome
  /-- The spawn of a background worker. -/
  agentSpawn : Endpoint → List String → Except String Unit
  /-- The answer of a worker that is waited for. -/
  agentJson : Endpoint → List String → Except String Value
  dumpEvents : Int64 → Except String (List FwEvent)
  dumpReports : Int64 → Except String (List FwReport)

/-! ## The cases -/

/-- The timestamp request of the peer. -/
def timestampCmd (cfg : RunConfig) : TrafficCmd where
  proto := "icmp"
  toAddr := cfg.targetIp
  dport := none
  dports := none
  sport := none
  count := 1
  timeoutMs := 500
  intervalMs := 0
  awaitReply := false
  finOnly := false
  icmpTimestamp := true

def runIcmpTimestamp (cfg : RunConfig) (c : MonitorCase) (steps : MonitorSteps) : CaseResult :=
  match steps.nowMs with
  | .error error => monitorResult c "FAIL" "none" s!"watermark failed: {error}"
  | .ok since =>
    match steps.traffic cfg.peer (timestampCmd cfg) none with
    | .error error => monitorResult c "FAIL" "none" s!"probe failed: {error}"
    | .ok _ =>
      -- a failed query reads as an empty event log
      let events := (steps.dumpEvents since).toOption.getD []
      let src := cfg.peerIp.display
      if events.any fun ev => ev.eventType == "IcmpTimestampProbe" && ev.srcIp == src then
        monitorResult c "PASS" "IcmpTimestampProbe" ""
      else
        monitorResult c "FAIL" "none" "no IcmpTimestampProbe event recorded"

/-- The held listener on the peer. -/
def floodListenArgs : List String :=
  ["listen", "tcp", "--port", toString floodPort, "--duration-secs", toString (holdSecs + 6),
    "--hold"]

/-- The connections held toward the peer. -/
def connFloodArgs (cfg : RunConfig) : List String :=
  ["conn-flood", "--to", cfg.peerIp.display, "--dport", toString floodPort, "--count",
    toString connFloodCount, "--hold-secs", toString holdSecs]

/-- Whether a report shows the peer with connections past the threshold. -/
def showsFlood (peer : String) (report : FwReport) : Bool :=
  report.reportType == "tcp_conn_per_ip" &&
    ((report.payload.get "ips").bind Value.asArray).any fun ips => ips.any fun entry =>
      (entry.get "ip").bind Value.asStr == some peer &&
        decide (50 ≤ ((entry.get "count").bind Value.asU64).getD 0)

def runConnPerip (cfg : RunConfig) (c : MonitorCase) (steps : MonitorSteps) :
    CaseResult × List MonitorEffect :=
  match steps.nowMs with
  | .error error => (monitorResult c "FAIL" "none" s!"watermark failed: {error}", [])
  | .ok since =>
    match steps.agentSpawn cfg.peer floodListenArgs with
    | .error error => (monitorResult c "FAIL" "none" s!"listener failed: {error}", [])
    | .ok () =>
      match steps.agentSpawn cfg.target (connFloodArgs cfg) with
      | .error error =>
        (monitorResult c "FAIL" "none" s!"conn-flood failed: {error}",
          [.spawn .listener, .kill .listener])
      | .ok () =>
        let reports := (steps.dumpReports since).toOption.getD []
        let peer := cfg.peerIp.display
        let effects := [.spawn .listener, .spawn .flood, .kill .flood, .kill .listener]
        if reports.any (showsFlood peer) then
          (monitorResult c "PASS" "tcp_conn_per_ip" s!"{peer} >= 50 conns", effects)
        else
          (monitorResult c "FAIL" "none" "no tcp_conn_per_ip breach for the peer IP", effects)

def runConnTotal (c : MonitorCase) (steps : MonitorSteps) : CaseResult :=
  match steps.nowMs with
  | .error error => monitorResult c "FAIL" "none" s!"watermark failed: {error}"
  | .ok since =>
    let reports := (steps.dumpReports since).toOption.getD []
    match reports.find? (·.reportType == "tcp_conn_total") with
    | some report =>
      let total := ((report.payload.get "total").bind Value.asU64).getD 0
      monitorResult c "PASS" "tcp_conn_total" s!"total={total}"
    | none => monitorResult c "FAIL" "none" "no tcp_conn_total sample emitted"

def arpSpoofArgs (cfg : RunConfig) : List String :=
  ["arp-spoof", "--iface", cfg.peerIface, "--claim-ip", arpClaimIp, "--count", "6"]

/-- Whether a report names the spoofed address. -/
def showsSpoof (report : FwReport) : Bool :=
  report.reportType == "arp_spoof" &&
    (report.payload.get "sip").bind Value.asStr == some arpClaimIp

def runArpSpoof (cfg : RunConfig) (c : MonitorCase) (steps : MonitorSteps) : CaseResult :=
  match steps.nowMs with
  | .error error => monitorResult c "FAIL" "none" s!"watermark failed: {error}"
  | .ok since =>
    match steps.agentJson cfg.peer (arpSpoofArgs cfg) with
    | .error error => monitorResult c "FAIL" "none" s!"arp-spoof failed: {error}"
    | .ok _ =>
      let reports := (steps.dumpReports since).toOption.getD []
      if reports.any showsSpoof then
        monitorResult c "PASS" "arp_spoof" s!"sip={arpClaimIp}"
      else
        monitorResult c "FAIL" "none" "no arp_spoof event for the claimed IP"

/-- Run a monitor case, the baseline being provisioned. -/
def runMonitor (cfg : RunConfig) (c : MonitorCase) (steps : MonitorSteps) :
    CaseResult × List MonitorEffect :=
  match c.kind with
  | .icmpTimestamp => (runIcmpTimestamp cfg c steps, [])
  | .connPerIp => runConnPerip cfg c steps
  | .connTotal => (runConnTotal c steps, [])
  | .arpSpoof => (runArpSpoof cfg c steps, [])

/-! ## The runners -/

/-- How the outside world answers the monitor cases. -/
structure MonitorWorld where
  trafficRule : ProvisionSteps
  firewall : String → ProvisionSteps
  steps : MonitorCase → MonitorSteps

/-- The rule set the monitor cases run under. -/
def monitorBaseline : String := "chain=localin,action=P\n"

/-- Run the selected monitor cases, provisioning their baseline once. -/
def runMonitorFiltered (cfg : RunConfig) (keep : MonitorCase → Bool) (world : MonitorWorld) :
    List CaseResult :=
  let cases := monitorCases.filter keep
  if cases.isEmpty then []
  else
    let _ := writeTrafficRule cfg.mode world.trafficRule
    match provisionFirewall cfg.mode (world.firewall monitorBaseline) with
    | .error error =>
      cases.map fun c => monitorResult c "FAIL" "none" s!"provision failed: {error}"
    | .ok _ => cases.map fun c => (runMonitor cfg c (world.steps c)).1

/-- Run all monitor cases. -/
def runMonitorAll (cfg : RunConfig) (world : MonitorWorld) : List CaseResult :=
  runMonitorFiltered cfg (fun _ => true) world

/-- Run one monitor case by id. -/
def runMonitorOne (cfg : RunConfig) (world : MonitorWorld) (id : String) :
    Option (List CaseResult) :=
  (monitorCaseById id).map fun _ => runMonitorFiltered cfg (·.id == id) world

end FwVerify
