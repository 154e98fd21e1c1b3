import FwVerify.Verify.WholeRuns

/-!
# Benches that conform

A device conforms for a case when the network around it carries out the rule text of the case's
bundle, and idps-fw records and uploads what the case expects. Nothing else about it matters: its
tables may hold any other rows. On a bench of such devices every command that runs cases passes
them all.

## Main definitions

* `Deployed` — what a configuration has to do with the network and with idps-fw
* `Enforces` — the network carries out the rule text of a case
* `Conforms`, `Bench.Conforms` — a device and a bench that do what the catalog expects
* `referenceBench`, `idleBench` — one that does, and one on which nothing happens

## Main results

* `Enforces.trafficShows` — the worker of a case then reports the expected verdict
* `conforming_run_passes` — every command passes on a conforming bench
-/

set_option autoImplicit false

namespace FwVerify

/-! ## Enforcement -/

/-- A configuration that names IPv4 addresses, and a key of the app user that idps-fw knows. -/
structure Deployed (cfg : RunConfig) (peer target : Ipv4Addr) (world : Surroundings) : Prop where
  peer : cfg.peerIp = .v4 peer
  target : cfg.targetIp = .v4 target
  key : Fits cfg.appIdentityKey
  identity : world.identity cfg.appUid = some cfg.appIdentityKey

section Enforcement

variable (device : Device) (cfg : RunConfig) (peer target : Ipv4Addr) (world : Surroundings)
variable (c : FwCase)

/-- The worker of a case is started, gets the credentials of the case, and each of its probes is
answered as the rule text of the case's bundle says. -/
def Enforces : Prop :=
  ∃ system creds rules, device.worker (endpoint cfg c.origin) = .ok (system, creds) ∧
    (∀ user, caseUid cfg c = some user → system.calls.Allow user) ∧
    readRules (firewallText c.bundle cfg) = some rules ∧
    ∀ index probe, ∃ calls,
      system.attempt (creds.droppedTo (caseUid cfg c)) index probe =
        probe.attempt (receiverIp cfg c.origin) calls ∧
      Answers (caseFate cfg peer target { world with ownUid := creds.uid } rules c index probe)
        probe calls

variable {device cfg peer target world c}

theorem Deployed.receiver (h : Deployed cfg peer target world) (origin : Side) :
    ∃ ip, receiverIp cfg origin = .v4 ip := by
  cases origin with
  | peer => exact ⟨target, h.target⟩
  | target => exact ⟨peer, h.peer⟩

/-- The worker reports what the case expects. -/
theorem Enforces.trafficShows (hdeployed : Deployed cfg peer target world) (hc : c ∈ allCases)
    (hgroup : c.group ≠ .traffic) (h : Enforces device cfg peer target world c) :
    TrafficShows device cfg c (enforceStr c.expectEnforce) := by
  obtain ⟨system, creds, rules, hstarted, hallow, hrules, hanswers⟩ := h
  obtain rfl : readBundle peer target cfg.appIdentityKey c.bundle = rules :=
    Option.some.inj <| (readRules_firewallText hdeployed.peer hdeployed.target hdeployed.key
      c.bundle).symm.trans hrules
  obtain ⟨ip, hip⟩ := hdeployed.receiver c.origin
  set world' := { world with ownUid := creds.uid } with hworld
  have hid : world'.identity cfg.appUid = some cfg.appIdentityKey := hdeployed.identity
  obtain ⟨ports, outcome, hports, hverdict, hne, hlen, hall⟩ := tableAgrees_spec <|
    catalog_tableAgrees world' (ownsKey world' cfg.appIdentityKey) system.pid
      (receiverIp cfg c.origin) (caseUid cfg c) hc hgroup
  rw [← portList_args] at hports
  -- all probes come to the one outcome of the table
  have hreports : ∃ report, requestedRun system creds (buildCmd c (receiverIp cfg c.origin))
      (caseUid cfg c) (trafficProto c.traffic) = .ok report ∧ report.verdict = outcome.verdict := by
    refine trafficRun_of_uniform (fun _ _ => rfl) hports hne hlen fun entry hentry => ?_
    obtain ⟨houtcome, hdenied, -⟩ := hall entry hentry
    obtain ⟨calls, hattempt, hanswer⟩ := hanswers entry.2 entry.1
    rw [caseFate_readBundle hid] at hanswer
    rw [hattempt, hip, hanswer.attempt ip hdenied, houtcome]
  obtain ⟨report, hrun, hreport⟩ := hreports
  exact ⟨system, creds, report, hstarted, hallow, hrun, hreport.trans hverdict⟩

end Enforcement

/-! ## Conforming devices -/

/-- A device that does what a case expects. -/
inductive Conforms (device : Device) (cfg : RunConfig) (peer target : Ipv4Addr)
    (world : Surroundings) (c : FwCase) : Prop
  /-- For a traffic case: its traffic is sent, and both of its counters grow. -/
  | counting (group : c.group = .traffic) (verdict : String)
      (traffic : TrafficShows device cfg c verdict) (before after : Value)
      (first : device.statisticsBefore = .ok before) (second : device.statisticsAfter = .ok after)
      (bytes : Grows before after (caseCounters c).1)
      (windows : Grows before after (caseCounters c).2)
  /-- For any other case: the rules are enforced, and exactly what the case expects is recorded
  and uploaded. -/
  | judged (group : c.group ≠ .traffic) (listeners : ListenersStart device c)
      (enforces : Enforces device cfg peer target world c)
      (readable : Readable device.json device.db device.now)
      (records : ∀ expect, c.expectEvent = some expect →
        ∃ row ev, RowShows device cfg c expect row ev)
      (uploads : ∀ expect row ev, c.expectEvent = some expect →
        RowShows device cfg c expect row ev → SentLater device ev.eventId)
      (quiet : c.expectEvent = none → Quiet device cfg c)

section Devices

variable {device : Device} {cfg : RunConfig} {peer target : Ipv4Addr} {world : Surroundings}
variable {c : FwCase}

/-- A case of the catalog passes on a device that conforms. -/
theorem Conforms.passes (hdeployed : Deployed cfg peer target world)
    (hjson : device.json.ReadsPrinted) (hc : c ∈ allCases)
    (h : Conforms device cfg peer target world c) :
    (runCase cfg c device.steps).1.result = "PASS" := by
  have hskip := skip_of_mem_allCases hc
  cases h with
  | counting group verdict traffic before after first second bytes windows =>
    have hrun : (runCase cfg c device.steps).1 = runTrafficCase cfg c device.steps := by
      simp [runCase, hskip, group]
    rw [hrun, counted_pass_iff hjson]
    exact ⟨before, after, first, second, ⟨verdict, traffic⟩, .inl bytes, .inl windows⟩
  | judged group listeners enforces readable records uploads quiet =>
    have htraffic := enforces.trafficShows hdeployed hc group
    cases hexpect : c.expectEvent with
    | none =>
      exact (quiet_pass_iff hjson group hskip hexpect).mpr ⟨listeners, htraffic, quiet hexpect⟩
    | some expect =>
      -- whichever expected event comes first, it is uploaded
      obtain ⟨row, ev, hshows⟩ := records expect hexpect
      obtain ⟨row', ev', hfirst⟩ := hshows.exists_first readable
      exact (confirmed_pass_iff hjson group hskip hexpect).mpr
        ⟨listeners, htraffic, row', ev', hfirst, uploads expect row' ev' hexpect hfirst.toRowShows⟩

end Devices

/-! ## Conforming benches -/

/-- The ids of all cases. -/
def knownIds : List String := allCases.map (·.id) ++ monitorCases.map (·.id)

/-- A bench that does what the catalog and the monitor cases expect. -/
structure Bench.Conforms (bench : Bench) (cfg : RunConfig) (peer target : Ipv4Addr)
    (world : Surroundings) : Prop where
  reads : bench.Reads
  provisions : ∀ before bundle, (provisionBundle cfg bench.world before bundle).2 = .ok ()
  cases : ∀ before, ∀ c ∈ allCases,
    FwVerify.Conforms (bench.device before c) cfg peer target world c
  baseline : ∃ ver, provisionFirewall cfg.mode (bench.baseline monitorBaseline) = .ok ver
  monitors : ∀ c ∈ monitorCases, Provoked (bench.monitor c) cfg c.kind ∧
    Recorded (bench.monitor c) cfg c.kind

namespace Bench

variable {bench : Bench} {cfg : RunConfig} {peer target : Ipv4Addr} {world : Surroundings}

/-- Whichever cases are selected, all of them pass. -/
theorem Conforms.runFiltered_passes (h : bench.Conforms cfg peer target world)
    (hdeployed : Deployed cfg peer target world) (keep : FwCase → Bool) :
    ∀ res ∈ (runFiltered cfg keep bench.world).results, res.result = "PASS" := by
  have hrun := runFiltered_batched cfg keep bench.world
  have hanswered := runFiltered_answered cfg keep bench.world
  generalize runFiltered cfg keep bench.world = run at hrun hanswered ⊢
  intro res hres
  rw [hrun.results_eq] at hres
  obtain ⟨ev, hev, hresult⟩ := List.mem_filterMap.mp hres
  obtain ⟨before, after, hsplit⟩ := List.append_of_mem hev
  have hanswer := hanswered before ev after hsplit
  cases ev with
  | ran c steps =>
    obtain rfl : steps = (bench.device before c).steps := hanswer
    obtain ⟨hc, -⟩ := hrun.mem_settled.mp (List.mem_filterMap.mpr ⟨_, hev, rfl⟩)
    cases hresult
    exact (h.cases before c hc).passes hdeployed (h.reads.cases before c) hc
  | refused c error =>
    -- no attempt fails
    obtain ⟨earlier, hfails⟩ := hanswer
    rw [h.provisions] at hfails
    cases hfails
  | trafficRule => cases hresult
  | provision => cases hresult

/-- The same for the monitor cases. -/
theorem Conforms.runMonitorFiltered_passes (h : bench.Conforms cfg peer target world)
    (keep : MonitorCase → Bool) :
    ∀ res ∈ runMonitorFiltered cfg keep bench.suite.monitors, res.result = "PASS" := by
  obtain ⟨ver, hbaseline⟩ := h.baseline
  have hfirewall : bench.suite.monitors.firewall monitorBaseline = bench.baseline monitorBaseline :=
    rfl
  rw [runMonitorFiltered, hfirewall, hbaseline]
  dsimp only
  split_ifs
  · exact fun res hres => absurd hres List.not_mem_nil
  · rw [List.forall_mem_map]
    intro c hc
    exact (monitor_passes_iff (bench.monitor c) (h.reads.monitors c) cfg c).mpr
      (h.monitors c (List.mem_of_mem_filter hc))

/-- Every case of the catalog is executed and accepted. -/
theorem Conforms.accepts (h : bench.Conforms cfg peer target world)
    (hdeployed : Deployed cfg peer target world) :
    ∀ c ∈ allCases, RunsWith cfg bench.world
      (runFiltered cfg (fun _ => true) bench.world).trace c
      fun before => Accepted (bench.device before c) cfg c := by
  have hpasses := h.runFiltered_passes hdeployed fun _ => true
  have hclean : ∀ res ∈ (runFiltered cfg (fun _ => true) bench.world).results,
      res.result ≠ "FAIL" := by
    intro res hres
    rw [hpasses res hres]
    decide
  intro c hc
  obtain ⟨before, after, hsplit, hrules, haccepts⟩ :=
    runFiltered_ne_fail_iff.mp hclean c hc rfl
  exact ⟨before, after, hsplit, hrules,
    (accepted_iff (h.reads.cases before c) (skip_of_mem_allCases hc)).mp haccepts⟩

/-- A case that is run by its id passes. -/
theorem Conforms.runOneCase_passes (h : bench.Conforms cfg peer target world)
    (hdeployed : Deployed cfg peer target world) {id : String} (hknown : id ∈ knownIds) :
    ∀ res ∈ runOneCase cfg bench.suite id, res.result = "PASS" := by
  cases hone : runMonitorOne cfg bench.suite.monitors id with
  | some results =>
    obtain ⟨c, -, rfl⟩ := Option.map_eq_some_iff.mp hone
    rw [runOneCase_of_monitor cfg bench.suite hone]
    exact h.runMonitorFiltered_passes _
  | none =>
    have hmonitor : id ∉ monitorIds := by
      rw [← runMonitorOne_isSome_iff cfg bench.suite.monitors, hone]
      exact Bool.false_ne_true
    -- the id is not that of a monitor case, so it is one of the catalog
    have hcatalog : id ∈ allCases.map (·.id) :=
      (List.mem_append.mp hknown).resolve_right hmonitor
    obtain ⟨c, hc, hid⟩ := List.mem_map.mp hcatalog
    have hfound : (caseById id).isSome := List.find?_isSome.mpr ⟨c, hc, beq_iff_eq.mpr hid⟩
    obtain ⟨c', hfound⟩ := Option.isSome_iff_exists.mp hfound
    rw [runOneCase, runOne_eq_runFiltered cfg bench.suite.cases _ hmonitor hfound]
    exact h.runFiltered_passes hdeployed _

end Bench

/-- **On a conforming bench everything passes.** Whatever else the tables of its devices hold,
every result of a command that runs a known case, a known group or everything is a PASS, and the
process exits with success once its report is written. -/
theorem conforming_run_passes {bench : Bench} {cfg : RunConfig} {peer target : Ipv4Addr}
    {world : Surroundings} (hdeployed : Deployed cfg peer target world)
    (hbench : bench.Conforms cfg peer target world) {command : RunCommand}
    (hknown : ∀ id, command = .run id → id ∈ knownIds) {results : List CaseResult}
    (hrun : runCommand cfg bench.suite command = .ok results) :
    (∀ res ∈ results, res.result = "PASS") ∧
      ∀ global : GlobalArgs, (∀ path, global.report = some path →
        bench.writeReport path (reportDocument cfg results) = .ok ()) →
          exitCode (runSuite global cfg bench.suite command) = .success := by
  have hpasses : ∀ res ∈ results, res.result = "PASS" := by
    cases command with
    | run id =>
      cases hrun
      exact hbench.runOneCase_passes hdeployed (hknown id rfl)
    | runGroup name =>
      rw [runCommand] at hrun
      cases hgroup : Group.parse name with
      | error error =>
        rw [hgroup] at hrun
        cases hrun
      | ok group =>
        rw [hgroup] at hrun
        cases hrun
        rw [runGroup]
        split_ifs
        · exact hbench.runMonitorFiltered_passes _
        · exact hbench.runFiltered_passes hdeployed _
    | runAll =>
      cases hrun
      exact List.forall_mem_append.mpr
        ⟨hbench.runFiltered_passes hdeployed _, hbench.runMonitorFiltered_passes _⟩
  refine ⟨hpasses, fun global hwrites => ?_⟩
  have hsuite : runSuite global cfg bench.suite command =
      emit global cfg bench.writeReport results := by
    rw [runSuite, hrun]
    rfl
  rw [hsuite, exitCode_emit_success_iff]
  refine ⟨hwrites, fun res hres => ?_⟩
  rw [hpasses res hres]
  decide

/-! ## A reference bench -/

/-- A call that ends for a fate. -/
def endOf {α : Type} (answer : α) : Fate → Except IoError α
  | .denied => .error ⟨.permissionDenied, "Permission denied"⟩
  | .dropped => .error ⟨.timedOut, "timed out"⟩
  | .reached => .ok answer
  | .refused => .error ⟨.connectionRefused, "Connection refused"⟩

theorem ends_endOf {α : Type} {accept : α → Prop} {answer : α} (haccept : accept answer)
    (fate : Fate) : Ends accept fate (endOf answer fate) := by
  cases fate with
  | denied => exact .denied _ rfl
  | dropped => exact .dropped _ (.inl rfl)
  | reached => exact .reached answer haccept
  | refused => exact .refused _ rfl

/-- How the kernel answers a probe for a fate. -/
def kernelCalls (fate : Fate) : Probe → SocketCalls
  | .connect .. => answering (endOf () fate) (.ok [])
  | .fin .. => answering (.ok ()) (.ok [])
  | .datagram .. => answering (if fate = .denied then endOf () fate else .ok ()) (endOf [] fate)
  | .icmp ident _ _ => answering (.ok ()) (endOf (echoFrame ident) fate)

theorem answers_kernelCalls (fate : Fate) (probe : Probe) :
    Answers fate probe (kernelCalls fate probe) := by
  cases probe with
  | connect dport sport =>
    exact ⟨localCalls_answering .., fun _ _ _ => ends_endOf trivial fate,
      fun _ _ _ h => (by cases h), rfl, fun _ _ h => (by cases h), fun _ _ h => (by cases h)⟩
  | fin dport sport seq =>
    exact ⟨localCalls_answering .., fun _ _ h => (by cases h), fun _ _ _ h => (by cases h), rfl,
      fun _ _ h => (by cases h), fun _ _ h => (by cases h)⟩
  | datagram dport sport awaitReply =>
    refine ⟨localCalls_answering .., fun _ _ h => (by cases h), fun _ _ _ _ => ?_, rfl,
      fun _ _ _ => ends_endOf trivial fate, fun _ _ h => (by cases h)⟩
    by_cases hfate : fate = .denied
    · subst hfate
      exact @ends_endOf Unit _ () trivial .denied
    · rw [if_neg hfate]
      exact if_neg hfate
  | icmp ident seq kind =>
    refine ⟨localCalls_answering .., fun _ _ h => (by cases h), fun _ _ _ h => (by cases h), rfl,
      fun _ _ h => (by cases h), ?_⟩
    rintro _ _ ⟨⟩
    exact @ends_endOf _ (isMatchingEchoReply · ident = true) _
      (isMatchingEchoReply_echoFrame ident) fate

section Reference

variable (cfg : RunConfig) (peer target : Ipv4Addr) (world : Surroundings) (c : FwCase)

/-- The worker is started as root, and its probes are answered as the rules of the case say. -/
def referenceSystem : WorkerSystem where
  pid := 4242
  calls := ⟨.ok (), fun _ => .ok (), fun _ => .ok ()⟩
  attempt _ index probe :=
    if c.group = .traffic then .ok .sent
    else
      let rules := (readRules (firewallText c.bundle cfg)).getD []
      probe.attempt (receiverIp cfg c.origin) <|
        kernelCalls (caseFate cfg peer target { world with ownUid := 0 } rules c index probe) probe
  usage := "error: usage"

/-- The event a case expects. -/
def referenceEvent (expect : ExpectEvent) : FwEvent where
  eventId := "e1"
  eventTimeMs := 1
  eventType := expect.kind
  action := expect.action
  srcIp := (originIp cfg c.origin).display
  srcPort := 40000
  dstIp := (receiverIp cfg c.origin).display
  dstPort := expect.matchDport.elim 0 portColumn
  proto := expect.proto
  ruleId := expect.ruleId
  detail := expect.detail.getD ""
  reportState := "sent"

/-- The table with just that event. -/
def referenceDb : StateDb := probeDb (c.expectEvent.toList.map (referenceEvent cfg c))

/-- A snapshot in which every counter has a value. -/
def countersUpTo (n : UInt64) : Value :=
  .object [("ingress_bytes", .number (.posInt n)), ("egress_bytes", .number (.posInt n)),
    ("global_traffic_windows", .number (.posInt n)), ("app_traffic_windows", .number (.posInt n))]

def referenceDevice : Device where
  json := jsonParser
  order := .stable
  noOutcome _ := "no outcome"
  noRecord _ := "no record"
  listeners _ := .ok ()
  now := 0
  worker _ := .ok (referenceSystem cfg peer target world c, ⟨[0], 0, 0⟩)
  db := referenceDb cfg c
  waiting := ⟨referenceDb cfg c, []⟩
  logcat := .ok ""
  curlEvents := .ok ""
  statisticsBefore := .ok (countersUpTo 1)
  statisticsAfter := .ok (countersUpTo 2)

variable {cfg peer target world c}

theorem referenceEvent_agrees (expect : ExpectEvent) :
    AgreesUpToRule cfg c expect (referenceEvent cfg c expect) where
  kind := rfl
  action := rfl
  proto := rfl
  source _ := rfl
  destination port hport := by
    rw [referenceEvent, hport]
    exact ⟨rfl, rfl⟩
  detail text htext := by
    rw [referenceEvent, htext]
    rfl

/-- A row of the reference table stands for the event the case expects. -/
theorem event_of_mem_referenceDb {row : EventRow} (hrow : row ∈ (referenceDb cfg c).events) :
    ∃ expect, c.expectEvent = some expect ∧
      row.event jsonParser = some (referenceEvent cfg c expect) := by
  obtain ⟨ev, hev, rfl⟩ := List.mem_map.mp hrow
  obtain ⟨expect, hexpect, rfl⟩ := List.mem_map.mp hev
  exact ⟨expect, by simpa using hexpect, event_of jsonParser_readsPrinted _ _ _⟩

theorem referenceDb_readable : Readable jsonParser (referenceDb cfg c) 0 where
  query := rfl
  rows row hrow _ := by
    obtain ⟨expect, -, hevent⟩ := event_of_mem_referenceDb hrow
    rw [hevent]
    rfl

theorem mem_referenceDb {expect : ExpectEvent} (hexpect : c.expectEvent = some expect) :
    EventRow.of (referenceEvent cfg c expect) none none ∈ (referenceDb cfg c).events := by
  rw [referenceDb, hexpect]
  exact List.mem_singleton_self _

/-- The reference network carries out the rule text of the case. -/
theorem reference_enforces (hdeployed : Deployed cfg peer target world)
    (hgroup : c.group ≠ .traffic) :
    Enforces (referenceDevice cfg peer target world c) cfg peer target world c := by
  have hrules := readRules_firewallText hdeployed.peer hdeployed.target hdeployed.key c.bundle
  refine ⟨_, _, _, rfl, fun _ _ => ⟨rfl, rfl, rfl⟩, hrules, fun index probe => ?_⟩
  refine ⟨_, ?_, answers_kernelCalls _ probe⟩
  simp only [referenceSystem, if_neg hgroup, hrules, Option.getD_some]

/-- A run of which every attempt is sent has a report. -/
theorem exists_requestedRun {system : WorkerSystem} {creds : Creds} {cmd : TrafficCmd}
    {uid : Option UInt32} {p : Proto} {ports : List UInt16} (hports : cmd.portList p = .ok ports)
    (hsent : ∀ creds index probe, system.attempt creds index probe = .ok .sent) :
    ∃ report, requestedRun system creds cmd uid p = .ok report := by
  rw [← portList_args cmd uid p] at hports
  rw [requestedRun, trafficRun_eq (fun _ _ => rfl) hports]
  split_ifs
  · exact ⟨_, rfl⟩
  · rw [Traversal.mapM_of_forall fun entry _ => hsent _ entry.2 entry.1]
    exact ⟨_, rfl⟩

/-- The traffic of a traffic case goes to one port. -/
theorem portList_of_traffic (hc : c ∈ allCases) (hgroup : c.group = .traffic) (toAddr : IpAddr) :
    ∃ ports, (buildCmd c toAddr).portList (trafficProto c.traffic) = .ok ports := by
  have hall : allCases.all (fun c => c.group != .traffic ||
      c.traffic == .udpVolume 5301 200) = true := rfl
  have htraffic : c.traffic = .udpVolume 5301 200 := by
    simpa [hgroup] using List.all_eq_true.mp hall c hc
  rw [buildCmd, htraffic]
  exact ⟨_, rfl⟩

/-- The reference device conforms. -/
theorem reference_conforms (hdeployed : Deployed cfg peer target world) (hc : c ∈ allCases) :
    Conforms (referenceDevice cfg peer target world c) cfg peer target world c := by
  by_cases hgroup : c.group = .traffic
  · obtain ⟨ports, hports⟩ := portList_of_traffic hc hgroup (receiverIp cfg c.origin)
    have hsent : ∀ creds index probe,
        (referenceSystem cfg peer target world c).attempt creds index probe = .ok .sent :=
      fun _ _ _ => if_pos hgroup
    obtain ⟨report, hreport⟩ := exists_requestedRun hports hsent
    have hgrows : Grows (countersUpTo 1) (countersUpTo 2) (caseCounters c).1 ∧
        Grows (countersUpTo 1) (countersUpTo 2) (caseCounters c).2 := by
      rw [caseCounters]
      split_ifs <;> exact ⟨⟨1, 2, rfl, rfl, by decide⟩, 1, 2, rfl, rfl, by decide⟩
    exact .counting hgroup report.verdict
      ⟨_, _, report, rfl, fun _ _ => ⟨rfl, rfl, rfl⟩, hreport, rfl⟩ _ _ rfl rfl hgrows.1 hgrows.2
  · refine .judged hgroup (fun _ _ => rfl) (reference_enforces hdeployed hgroup)
      referenceDb_readable (fun expect hexpect => ?_) (fun expect row ev hexpect hshows => ?_)
      fun hexpect _ row hrow => ?_
    · have hnewer : (0 : Int64) < 1 := by decide
      exact ⟨_, _, mem_referenceDb hexpect, hnewer, event_of jsonParser_readsPrinted _ _ _,
        referenceEvent_agrees expect⟩
    · obtain ⟨expect', -, hevent⟩ := event_of_mem_referenceDb hshows.stored
      obtain rfl : referenceEvent cfg c expect' = ev :=
        Option.some.inj (hevent.symm.trans hshows.event)
      exact ⟨_, List.mem_singleton_self _, referenceDb_readable, row, hshows.stored, hshows.newer,
        _, hevent, rfl, rfl⟩
    · obtain ⟨expect, hsome, -⟩ := event_of_mem_referenceDb hrow
      rw [hexpect] at hsome
      cases hsome

end Reference

/-- A row of the outbox with a report. -/
def outboxRow (reportType : String) (payload : Value) : OutboxRow :=
  ⟨5, .text "pending", .text "r1", .text reportType, .text payload.compact, .integer 0, .null⟩

theorem report_outboxRow (reportType : String) {payload : Value}
    (hpayload : payload.Integral maxLevels) :
    (outboxRow reportType payload).report jsonParser = some ⟨reportType, payload.sorted⟩ := by
  have hread : jsonParser.fromStr payload.compact = .ok payload.sorted :=
    jsonParser_readsPrinted.printed .compact hpayload
  simp [outboxRow, OutboxRow.report, SqlValue.asText, payloadValue, hread]

/-- A timestamp request of the peer as it is recorded. -/
def timestampEvent : FwEvent :=
  { probeAt 1 with eventType := "IcmpTimestampProbe", srcIp := sampleConfig.peerIp.display }

/-- The report of the peer's connections. -/
def floodPayload : Value :=
  .object [("ips", .array [.object [("count", .number (.posInt 60)),
    ("ip", .string sampleConfig.peerIp.display)]])]

def spoofPayload : Value := .object [("sip", .string arpClaimIp)]

theorem floodPayload_integral : floodPayload.Integral maxLevels := by
  refine .object fun field hfield => ?_
  rw [List.mem_singleton.mp hfield]
  refine .array fun entry hentry => ?_
  rw [List.mem_singleton.mp hentry]
  refine .object fun field hfield => ?_
  rcases List.mem_pair.mp hfield with rfl | rfl
  · exact .posInt _
  · exact .string _

theorem spoofPayload_integral : spoofPayload.Integral maxLevels := by
  refine .object fun field hfield => ?_
  rw [List.mem_singleton.mp hfield]
  exact .string _

/-- Everything the monitor cases look for is recorded, and every worker does its part. -/
def referenceMonitor : MonitorDevice where
  json := jsonParser
  order := .stable
  noOutcome _ := "no outcome"
  noRecord _ := "no record"
  now := 0
  worker _ := .ok (⟨4242, ⟨.ok (), fun _ => .ok (), fun _ => .ok ()⟩, fun _ _ _ => .ok .sent,
    "error: usage"⟩, ⟨[0], 0, 0⟩)
  arp _ := .ok {
    ifNametoindex := fun _ => 7
    ioctlSocket := .ok ()
    ioctl := fun _ => .ok .broadcast
    packetSocket := .ok ()
    sendto := fun _ => true }
  usage := "error: usage"
  spawn _ _ := .ok ()
  db := { probeDb [timestampEvent] with
    outbox := [outboxRow "tcp_conn_per_ip" floodPayload, outboxRow "tcp_conn_total" .null,
      outboxRow "arp_spoof" spoofPayload] }

/-- A report of the reference outbox is queued. -/
theorem referenceMonitor_queued {reportType : String} {payload : Value}
    (hpayload : payload.Integral maxLevels) {p : FwReport → Prop}
    (hp : p ⟨reportType, payload.sorted⟩)
    (hstored : outboxRow reportType payload ∈ referenceMonitor.db.outbox) :
    Queued referenceMonitor p := by
  have hreports : ∀ row ∈ referenceMonitor.db.outbox, (row.report jsonParser).isSome := by
    simp only [referenceMonitor, List.forall_mem_cons]
    refine ⟨?_, ?_, ?_, fun _ hrow => absurd hrow List.not_mem_nil⟩
    · rw [report_outboxRow _ floodPayload_integral]
      rfl
    · rw [report_outboxRow _ .null]
      rfl
    · rw [report_outboxRow _ spoofPayload_integral]
      rfl
  have hnewer : (0 : Int64) < 5 := by decide
  exact ⟨⟨rfl, fun row hrow _ => hreports row hrow⟩, _, hstored, hnewer, _,
    report_outboxRow _ hpayload, hp⟩

theorem referenceMonitor_passes (kind : MonitorKind) :
    Provoked referenceMonitor sampleConfig kind ∧ Recorded referenceMonitor sampleConfig kind := by
  cases kind with
  | icmpTimestamp =>
    have hnewer : (0 : Int64) < 1 := by decide
    have hevent := event_of jsonParser_readsPrinted timestampEvent none none
    refine ⟨⟨_, _, _, rfl, rfl⟩, ⟨rfl, fun row hrow _ => ?_⟩, _, List.mem_singleton_self _, hnewer,
      _, hevent, rfl, rfl⟩
    rw [List.mem_singleton.mp hrow]
    exact Option.isSome_of_mem hevent
  | connPerIp =>
    exact ⟨⟨rfl, rfl⟩, referenceMonitor_queued floodPayload_integral rfl List.mem_cons_self⟩
  | connTotal =>
    exact ⟨trivial, referenceMonitor_queued .null rfl (List.mem_cons_of_mem _ List.mem_cons_self)⟩
  | arpSpoof =>
    have hshows : showsSpoof ⟨"arp_spoof", spoofPayload.sorted⟩ = true := rfl
    refine ⟨⟨_, rfl, by decide, by decide, by decide, rfl, by decide, ⟨_, rfl⟩, rfl⟩,
      referenceMonitor_queued spoofPayload_integral hshows ?_⟩
    exact List.mem_cons_of_mem _ (List.mem_cons_of_mem _ List.mem_cons_self)

/-- A provisioning call after which idps-fw shows the traffic cycle. -/
def cycleSteps : ProvisionSteps :=
  { loadedSteps with
    polls := ⟨some (.object [("traffic_cycle_secs", .number (.posInt 5))]), []⟩ }

/-- A bench of reference devices. -/
def referenceBench : Bench where
  trafficRule := loadedSteps
  firewall _ _ _ := loadedSteps
  cycle _ _ := cycleSteps
  device _ c := referenceDevice sampleConfig ⟨10, 123, 0, 2⟩ ⟨10, 123, 0, 1⟩ sampleSurroundings c
  monitorRule := loadedSteps
  baseline _ := loadedSteps
  monitor _ := referenceMonitor
  writeReport _ _ := .ok ()

theorem deployed_sample :
    Deployed sampleConfig ⟨10, 123, 0, 2⟩ ⟨10, 123, 0, 1⟩ sampleSurroundings where
  peer := rfl
  target := rfl
  key := by decide
  identity := rfl

theorem referenceBench_conforms :
    referenceBench.Conforms sampleConfig ⟨10, 123, 0, 2⟩ ⟨10, 123, 0, 1⟩ sampleSurroundings where
  reads := ⟨fun _ _ => jsonParser_readsPrinted, fun _ => jsonParser_readsPrinted⟩
  provisions _ bundle := by cases bundle <;> rfl
  cases _ _ hc := reference_conforms deployed_sample hc
  baseline := ⟨_, rfl⟩
  monitors c _ := referenceMonitor_passes c.kind

/-- Everything passes on the reference bench. -/
theorem conforming_run_reference :
    (∀ res ∈ runAll sampleConfig referenceBench.suite, res.result = "PASS") ∧
      exitCode (runSuite .default sampleConfig referenceBench.suite .runAll) = .success := by
  have hrun : runCommand sampleConfig referenceBench.suite .runAll =
      .ok (runAll sampleConfig referenceBench.suite) := rfl
  obtain ⟨hpasses, hexit⟩ :=
    conforming_run_passes deployed_sample referenceBench_conforms (fun _ h => (by cases h)) hrun
  exact ⟨hpasses, hexit .default fun _ h => (by cases h)⟩

/-! ## An idle bench -/

/-- A device on which no worker can be started, and nothing is recorded. -/
def idleDevice : Device where
  json := jsonParser
  order := .stable
  noOutcome _ := "no outcome"
  noRecord _ := "no record"
  listeners _ := .ok ()
  now := 0
  worker _ := .error "failed to spawn"
  db := { probeDb [] with outbox := [] }
  waiting := ⟨probeDb [], []⟩
  logcat := .ok ""
  curlEvents := .ok ""
  statisticsBefore := .ok .null
  statisticsAfter := .ok .null

/-- The same for the monitor cases. -/
def idleMonitor : MonitorDevice where
  json := jsonParser
  order := .stable
  noOutcome _ := "no outcome"
  noRecord _ := "no record"
  now := 0
  worker _ := .error "failed to spawn"
  arp _ := .error "failed to spawn"
  usage := "error: usage"
  spawn _ _ := .ok ()
  db := { probeDb [] with outbox := [] }

/-- A bench of idle devices, on which provisioning goes through. -/
def idleBench : Bench where
  trafficRule := loadedSteps
  firewall _ _ _ := loadedSteps
  cycle _ _ := loadedSteps
  device _ _ := idleDevice
  monitorRule := loadedSteps
  baseline _ := loadedSteps
  monitor _ := idleMonitor
  writeReport _ _ := .ok ()

/-- A run of everything succeeds on the reference bench, and does not on idle devices. -/
theorem clean_run_benches :
    exitCode (runSuite .default sampleConfig referenceBench.suite .runAll) = .success ∧
      exitCode (runSuite .default sampleConfig idleBench.suite .runAll) ≠ .success := by
  have hconforms := referenceBench_conforms
  have hread : idleBench.Reads :=
    ⟨fun _ _ => jsonParser_readsPrinted, fun _ => jsonParser_readsPrinted⟩
  refine ⟨(clean_run_iff referenceBench hconforms.reads .default sampleConfig).mpr
    ⟨fun _ h => (by cases h), hconforms.accepts deployed_sample, hconforms.baseline,
      hconforms.monitors⟩, fun hclean => ?_⟩
  obtain ⟨-, -, -, hmonitors⟩ :=
    (clean_run_iff idleBench hread .default sampleConfig).mp hclean
  -- nobody has counted the connections
  obtain ⟨-, -, row, hrow, -⟩ := hmonitors ⟨"monitor-conn-total", .connTotal⟩ (by decide)
  cases hrow

end FwVerify
