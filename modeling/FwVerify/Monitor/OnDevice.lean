import FwVerify.Monitor.ArpReplies
import FwVerify.Peer.AgentCommands
import FwVerify.State.Commands
import FwVerify.Verify.Judging

/-!
# A monitor case on a device

What a monitor case provokes comes from worker processes on the peer and the target, and what it
looks for stands in the tables of idps-fw. A monitor case passes exactly when its workers did what
provokes the report and the table it asks, which is readable, holds a newer row that shows it.

## Main definitions

* `MonitorDevice` — the systems of the workers, and the tables
* `MonitorDevice.steps` — the external steps of a monitor case on a device
* `Provoked`, `Recorded` — the workers of a case have done their part, and a row shows it

## Main results

* `mem_dumpReports`, `exists_dumpReports_iff` — the reports of a query
* `monitor_passes_iff` — when a monitor case passes
-/

set_option autoImplicit false

namespace FwVerify

open Fallible Selection

/-! ## Reports -/

section Reports

variable {json : JsonParser} {order : StateOrder} {db : StateDb} {since : Int64}
  {noRecord : List Value → String}

/-- The database can be asked for its reports, and every row newer than a time stands for one. -/
structure ReadableReports (json : JsonParser) (db : StateDb) (since : Int64) : Prop where
  query : db.query "report_outbox" = .ok ()
  rows : ∀ row ∈ db.outbox, since < row.createdAtMs → (row.report json).isSome

/-- Nothing is read from a database that is not accessible. -/
theorem query_of_dumpReports {reports : List FwReport}
    (hdump : dumpReports json order db since noRecord = .ok reports) :
    db.query "report_outbox" = .ok () := by
  cases hquery : db.query "report_outbox" with
  | ok _ => rfl
  | error error =>
    rw [dumpReports, queryReports, hquery] at hdump
    cases hdump

theorem mapM_of_dumpReports {reports : List FwReport}
    (hdump : dumpReports json order db since noRecord = .ok reports) :
    (selectReports order db since none).mapM (OutboxRow.report json) = some reports := by
  rw [← dumpReports_toOption noRecord (query_of_dumpReports hdump), hdump]
  rfl

/-- The dumped reports are those of the newer rows. -/
theorem mem_dumpReports {reports : List FwReport}
    (hdump : dumpReports json order db since noRecord = .ok reports) {report : FwReport} :
    report ∈ reports ↔
      ∃ row ∈ db.outbox, since < row.createdAtMs ∧ row.report json = some report := by
  rw [mem_of_mapM (mapM_of_dumpReports hdump)]
  simp only [selectReports, mem_select, Option.all_none, Bool.and_true, decide_eq_true_eq,
    and_assoc]

variable (json order db since noRecord) in
theorem exists_dumpReports_iff :
    (∃ reports, dumpReports json order db since noRecord = .ok reports) ↔
      ReadableReports json db since := by
  have hsome : ((selectReports order db since none).mapM (OutboxRow.report json)).isSome ↔
      ∀ row ∈ db.outbox, since < row.createdAtMs → (row.report json).isSome := by
    rw [selectReports, mapM_select_isSome_iff]
    simp only [Option.all_none, Bool.and_true, decide_eq_true_eq]
  constructor
  · rintro ⟨reports, hdump⟩
    refine ⟨query_of_dumpReports hdump, hsome.mp ?_⟩
    rw [mapM_of_dumpReports hdump, Option.isSome_some]
  · rintro ⟨hquery, hall⟩
    obtain ⟨reports, hreports⟩ := Option.isSome_iff_exists.mp (hsome.mpr hall)
    rw [← dumpReports_toOption noRecord hquery] at hreports
    exact ⟨reports, toOption_eq_some.mp hreports⟩

end Reports

/-! ## Devices -/

/-- A worker that is told to send ARP replies. -/
def arpProcess (system : ArpSystem) (usage : String) (args : List String) : ProgramOutput :=
  match AgentCommand.parse (agentArgs args) with
  | some (.arpSpoof args) => documentProcess ((arpSpoofRun system args).map (arpSpoofDocument args))
  | _ => { code := 2, stdout := "", stderr := usage }

/-- The device a monitor case runs on. -/
structure MonitorDevice where
  json : JsonParser
  order : StateOrder
  /-- What is said of documents that are no outcome and no rows. -/
  noOutcome : Value → String
  noRecord : List Value → String
  now : Int64
  /-- The system and the credentials of a traffic worker, if one can be started. -/
  worker : Endpoint → Except String (WorkerSystem × Creds)
  /-- The system of a worker that sends ARP replies, if one can be started. -/
  arp : Endpoint → Except String ArpSystem
  usage : String
  /-- How starting a background worker ends. -/
  spawn : Endpoint → List String → Except String Unit
  /-- The state of idps-fw when the case asks for what was recorded. -/
  db : StateDb

/-- The external steps of a monitor case on the device. -/
def MonitorDevice.steps (device : MonitorDevice) : MonitorSteps where
  nowMs := .ok device.now
  traffic endpoint cmd uid :=
    peerTraffic device.json device.noOutcome cmd uid
      ((device.worker endpoint).map fun (system, creds) =>
        trafficProcess system creds (cmd.argv uid))
  agentSpawn := device.spawn
  agentJson endpoint args :=
    agentJson device.json args
      ((device.arp endpoint).map fun system => arpProcess system device.usage args)
  dumpEvents since := dumpEvents device.json device.order device.db since device.noRecord
  dumpReports since := dumpReports device.json device.order device.db since device.noRecord

/-- The workers of a monitor case have done what provokes its report. -/
def Provoked (device : MonitorDevice) (cfg : RunConfig) : MonitorKind → Prop
  | .icmpTimestamp =>
    ∃ system creds report, device.worker cfg.peer = .ok (system, creds) ∧
      requestedRun system creds (timestampCmd cfg) none .icmp = .ok report
  | .connPerIp =>
    device.spawn cfg.peer floodListenArgs = .ok () ∧
      device.spawn cfg.target (connFloodArgs cfg) = .ok ()
  | .connTotal => True
  | .arpSpoof =>
    ∃ system, device.arp cfg.peer = .ok system ∧ Options.looksLikeOption cfg.peerIface = false ∧
      system.Allows cfg.peerIface

/-- The outbox can be read, and a newer row of it stands for a report of a kind. -/
def Queued (device : MonitorDevice) (p : FwReport → Prop) : Prop :=
  ReadableReports device.json device.db device.now ∧
    ∃ row ∈ device.db.outbox, device.now < row.createdAtMs ∧
      ∃ report, row.report device.json = some report ∧ p report

/-- What a monitor case looks for is recorded. -/
def Recorded (device : MonitorDevice) (cfg : RunConfig) : MonitorKind → Prop
  | .icmpTimestamp =>
    Readable device.json device.db device.now ∧
      ∃ row ∈ device.db.events, device.now < row.eventTimeMs ∧
        ∃ ev, row.event device.json = some ev ∧ ev.eventType = "IcmpTimestampProbe" ∧
          ev.srcIp = cfg.peerIp.display
  | .connPerIp => Queued device fun report => showsFlood cfg.peerIp.display report = true
  | .connTotal => Queued device fun report => report.reportType = "tcp_conn_total"
  | .arpSpoof => Queued device fun report => showsSpoof report = true

section Cases

variable {device : MonitorDevice} {cfg : RunConfig} {c : MonitorCase}

theorem nowMs_steps (device : MonitorDevice) : device.steps.nowMs = .ok device.now := rfl

/-- The reports a case sees are those of the newer rows, and none when they cannot be read. -/
theorem any_dumpReports_iff {p : FwReport → Bool} :
    (((device.steps.dumpReports device.now).toOption.getD []).any p = true) ↔
      Queued device fun report => p report = true := by
  have hexists := exists_dumpReports_iff device.json device.order device.db device.now
    device.noRecord
  change (((dumpReports device.json device.order device.db device.now
    device.noRecord).toOption.getD []).any p = true) ↔ _
  cases hdump : dumpReports device.json device.order device.db device.now device.noRecord with
  | error error =>
    refine iff_of_false (fun h => by cases h) fun h => ?_
    obtain ⟨reports, hreports⟩ := hexists.mpr h.1
    rw [hdump] at hreports
    cases hreports
  | ok reports =>
    change reports.any p = true ↔ _
    rw [List.any_eq_true]
    constructor
    · rintro ⟨report, hreport, hp⟩
      obtain ⟨row, hrow, hnewer, hreport⟩ := (mem_dumpReports hdump).mp hreport
      exact ⟨hexists.mp ⟨reports, hdump⟩, row, hrow, hnewer, report, hreport, hp⟩
    · rintro ⟨-, row, hrow, hnewer, report, hreport, hp⟩
      exact ⟨report, (mem_dumpReports hdump).mpr ⟨row, hrow, hnewer, hreport⟩, hp⟩

/-- The events a case sees are those of the newer rows, and none when they cannot be read. -/
theorem any_dumpEvents_iff {p : FwEvent → Bool} :
    (((device.steps.dumpEvents device.now).toOption.getD []).any p = true) ↔
      Readable device.json device.db device.now ∧
        ∃ row ∈ device.db.events, device.now < row.eventTimeMs ∧
          ∃ ev, row.event device.json = some ev ∧ p ev = true := by
  have hexists := exists_dumpEvents_iff device.json device.order device.db device.now
    device.noRecord
  change (((dumpEvents device.json device.order device.db device.now
    device.noRecord).toOption.getD []).any p = true) ↔ _
  cases hdump : dumpEvents device.json device.order device.db device.now device.noRecord with
  | error error =>
    refine iff_of_false (fun h => by cases h) fun h => ?_
    obtain ⟨events, hevents⟩ := hexists.mpr h.1
    rw [hdump] at hevents
    cases hevents
  | ok events =>
    change events.any p = true ↔ _
    rw [List.any_eq_true]
    constructor
    · rintro ⟨ev, hev, hp⟩
      obtain ⟨row, hrow, hnewer, hevent⟩ := (mem_dumpEvents hdump).mp hev
      exact ⟨hexists.mp ⟨events, hdump⟩, row, hrow, hnewer, ev, hevent, hp⟩
    · rintro ⟨-, row, hrow, hnewer, ev, hevent, hp⟩
      exact ⟨ev, (mem_dumpEvents hdump).mpr ⟨row, hrow, hnewer, hevent⟩, hp⟩

/-- The timestamp request gets an outcome when its worker is started and its run reports. -/
theorem icmpTimestamp_provoked_iff (hjson : device.json.ReadsPrinted) :
    (∃ outcome, device.steps.traffic cfg.peer (timestampCmd cfg) none = .ok outcome) ↔
      Provoked device cfg .icmpTimestamp := by
  have hproto : (timestampCmd cfg).proto = Proto.icmp.lowercase := rfl
  change (∃ outcome, peerTraffic device.json device.noOutcome (timestampCmd cfg) none
    ((device.worker cfg.peer).map fun (system, creds) =>
      trafficProcess system creds ((timestampCmd cfg).argv none)) = .ok outcome) ↔
    ∃ system creds report, device.worker cfg.peer = .ok (system, creds) ∧
      requestedRun system creds (timestampCmd cfg) none .icmp = .ok report
  cases device.worker cfg.peer with
  | error error =>
    refine iff_of_false ?_ ?_
    · rintro ⟨outcome, houtcome⟩
      cases houtcome
    · rintro ⟨system, creds, report, hstarted, -⟩
      cases hstarted
  | ok started =>
    obtain ⟨system, creds⟩ := started
    constructor
    · rintro ⟨outcome, houtcome⟩
      obtain ⟨-, report, hrun, -⟩ := exists_report_of_peerTraffic hjson hproto houtcome
      exact ⟨system, creds, report, rfl, hrun⟩
    · rintro ⟨system', creds', report, hstarted, hrun⟩
      cases hstarted
      exact ⟨_, peerTraffic_of_report hjson hproto (fun _ h => by cases h) hrun⟩

theorem arpSpoofDocument_object (args : ArpSpoofArgs) (run : ArpRun) :
    ∃ fields, arpSpoofDocument args run = .object fields ∧
      (arpSpoofDocument args run).Integral maxLevels := by
  refine ⟨_, rfl, .object fun f hf => ?_⟩
  simp only [List.mem_cons, List.not_mem_nil, or_false] at hf
  rcases hf with rfl | rfl | rfl | rfl
  · exact .string _
  · exact .string _
  · exact .posInt _
  · exact .posInt _

/-- A worker answers when it has a document. -/
theorem exists_agentJson_iff (hjson : device.json.ReadsPrinted) (args : List String)
    {document : Except String Value} (hdocument : ∀ value, document = .ok value →
      ∃ fields, value = .object fields ∧ value.Integral maxLevels) :
    (∃ value, agentJson device.json args (.ok (documentProcess document)) = .ok value) ↔
      ∃ value, document = .ok value := by
  have hread := agentJson_document hjson args hdocument
  cases document with
  | error error =>
    refine iff_of_false ?_ ?_
    · rintro ⟨value, hvalue⟩
      rw [hvalue] at hread
      cases hread
    · rintro ⟨value, hvalue⟩
      cases hvalue
  | ok value =>
    exact iff_of_true ⟨value.sorted, toOption_eq_some.mp hread⟩ ⟨value, rfl⟩

/-- The ARP worker answers when it reads the interface's name as one and its run goes through. -/
theorem arpSpoof_provoked_iff (hjson : device.json.ReadsPrinted) :
    (∃ value, device.steps.agentJson cfg.peer (arpSpoofArgs cfg) = .ok value) ↔
      Provoked device cfg .arpSpoof := by
  have hparse : AgentCommand.parse (agentArgs (arpSpoofArgs cfg)) =
      if Options.looksLikeOption cfg.peerIface then none
      else some (.arpSpoof ⟨cfg.peerIface, ⟨10, 123, 0, 250⟩, 6⟩) :=
    parse_arpSpoof cfg.peerIface ⟨10, 123, 0, 250⟩ 6
  change (∃ value, agentJson device.json (arpSpoofArgs cfg) ((device.arp cfg.peer).map fun system =>
    arpProcess system device.usage (arpSpoofArgs cfg)) = .ok value) ↔
    ∃ system, device.arp cfg.peer = .ok system ∧ Options.looksLikeOption cfg.peerIface = false ∧
      system.Allows cfg.peerIface
  cases device.arp cfg.peer with
  | error error =>
    refine iff_of_false ?_ ?_
    · rintro ⟨value, hvalue⟩
      cases hvalue
    · rintro ⟨system, hstarted, -⟩
      cases hstarted
  | ok system =>
    change (∃ value, agentJson device.json (arpSpoofArgs cfg)
      (.ok (arpProcess system device.usage (arpSpoofArgs cfg))) = .ok value) ↔ _
    rw [arpProcess, hparse]
    by_cases hoption : Options.looksLikeOption cfg.peerIface = true
    · rw [if_pos hoption]
      obtain ⟨error, hempty⟩ := agentJson_empty hjson (arpSpoofArgs cfg) 2 device.usage
      refine iff_of_false ?_ ?_
      · rintro ⟨value, hvalue⟩
        dsimp only at hvalue
        rw [hempty] at hvalue
        cases hvalue
      · rintro ⟨system', -, hplain, -⟩
        rw [hplain] at hoption
        cases hoption
    · rw [if_neg hoption]
      dsimp only
      have hdocument : ∀ value, (arpSpoofRun system ⟨cfg.peerIface, ⟨10, 123, 0, 250⟩, 6⟩).map
          (arpSpoofDocument ⟨cfg.peerIface, ⟨10, 123, 0, 250⟩, 6⟩) = .ok value →
            ∃ fields, value = .object fields ∧ value.Integral maxLevels := by
        intro value hvalue
        cases hrun : arpSpoofRun system ⟨cfg.peerIface, ⟨10, 123, 0, 250⟩, 6⟩ with
        | error error =>
          rw [hrun] at hvalue
          cases hvalue
        | ok run =>
          rw [hrun] at hvalue
          cases hvalue
          exact arpSpoofDocument_object _ run
      rw [exists_agentJson_iff hjson _ hdocument]
      have hrun := exists_arpSpoofRun_iff system ⟨cfg.peerIface, ⟨10, 123, 0, 250⟩, 6⟩
      constructor
      · rintro ⟨value, hvalue⟩
        refine ⟨system, rfl, Bool.eq_false_of_not_eq_true hoption, hrun.mp ?_⟩
        cases hspoof : arpSpoofRun system ⟨cfg.peerIface, ⟨10, 123, 0, 250⟩, 6⟩ with
        | error error =>
          rw [hspoof] at hvalue
          cases hvalue
        | ok run => exact ⟨run, rfl⟩
      · rintro ⟨system', hstarted, -, hallows⟩
        cases hstarted
        obtain ⟨run, hspoof⟩ := hrun.mpr hallows
        exact ⟨_, by rw [hspoof]; rfl⟩

/-! ## When a case passes -/

/-- A result that is one of two passes when it is the one that does. -/
theorem passes_ite_iff {b : Bool} {observed detail reason : String} :
    (if b then monitorResult c "PASS" observed detail
      else monitorResult c "FAIL" "none" reason).result = "PASS" ↔ b = true := by
  cases b with
  | false => exact iff_of_false (fun h => absurd h (by simp [monitorResult])) (fun h => by cases h)
  | true => exact iff_of_true rfl rfl

theorem fails_iff {p : Prop} {detail : String} (hp : ¬ p) :
    (monitorResult c "FAIL" "none" detail).result = "PASS" ↔ p :=
  iff_of_false (fun h => absurd h (by simp [monitorResult])) hp

/-- A timestamp case passes when its request gets an outcome and its event is recorded. -/
theorem icmpTimestamp_passes_iff (hjson : device.json.ReadsPrinted) :
    (runIcmpTimestamp cfg c device.steps).result = "PASS" ↔
      Provoked device cfg .icmpTimestamp ∧ Recorded device cfg .icmpTimestamp := by
  rw [runIcmpTimestamp, nowMs_steps]
  dsimp only
  have hprovoked := @icmpTimestamp_provoked_iff device cfg hjson
  cases htraffic : device.steps.traffic cfg.peer (timestampCmd cfg) none with
  | error error =>
    refine fails_iff fun h => ?_
    obtain ⟨outcome, houtcome⟩ := hprovoked.mpr h.1
    rw [htraffic] at houtcome
    cases houtcome
  | ok outcome =>
    dsimp only
    rw [passes_ite_iff, and_iff_right (hprovoked.mp ⟨outcome, htraffic⟩), any_dumpEvents_iff]
    simp only [Bool.and_eq_true, beq_iff_eq]
    rfl

theorem connPerIp_passes_iff :
    (runConnPerip cfg c device.steps).1.result = "PASS" ↔
      Provoked device cfg .connPerIp ∧ Recorded device cfg .connPerIp := by
  rw [runConnPerip, nowMs_steps]
  dsimp only
  have hspawn : device.steps.agentSpawn = device.spawn := rfl
  rw [hspawn]
  cases hlistener : device.spawn cfg.peer floodListenArgs with
  | error error =>
    refine fails_iff fun h => ?_
    rw [h.1.1] at hlistener
    cases hlistener
  | ok =>
    dsimp only
    cases hflood : device.spawn cfg.target (connFloodArgs cfg) with
    | error error =>
      refine fails_iff fun h => ?_
      rw [h.1.2] at hflood
      cases hflood
    | ok =>
      have hprovoked : Provoked device cfg .connPerIp := ⟨hlistener, hflood⟩
      dsimp only
      rw [apply_ite Prod.fst, passes_ite_iff, and_iff_right hprovoked, any_dumpReports_iff]
      rfl

theorem connTotal_passes_iff :
    (runConnTotal c device.steps).result = "PASS" ↔
      Provoked device cfg .connTotal ∧ Recorded device cfg .connTotal := by
  rw [runConnTotal, nowMs_steps]
  dsimp only
  have hrecorded := @any_dumpReports_iff device fun report => report.reportType == "tcp_conn_total"
  simp only [beq_iff_eq] at hrecorded
  cases hfound : ((device.steps.dumpReports device.now).toOption.getD []).find?
      (·.reportType == "tcp_conn_total") with
  | none =>
    refine fails_iff fun h => ?_
    obtain ⟨report, hreport, htype⟩ := List.any_eq_true.mp (hrecorded.mpr h.2)
    exact List.find?_eq_none.mp hfound report hreport htype
  | some report =>
    refine iff_of_true rfl ⟨trivial, hrecorded.mp (List.any_eq_true.mpr ⟨report, ?_, ?_⟩)⟩
    · exact List.mem_of_find?_eq_some hfound
    · exact List.find?_some (p := fun report : FwReport => report.reportType == "tcp_conn_total")
        hfound

theorem arpSpoof_passes_iff (hjson : device.json.ReadsPrinted) :
    (runArpSpoof cfg c device.steps).result = "PASS" ↔
      Provoked device cfg .arpSpoof ∧ Recorded device cfg .arpSpoof := by
  rw [runArpSpoof, nowMs_steps]
  dsimp only
  have hprovoked := @arpSpoof_provoked_iff device cfg hjson
  cases hanswer : device.steps.agentJson cfg.peer (arpSpoofArgs cfg) with
  | error error =>
    refine fails_iff fun h => ?_
    obtain ⟨value, hvalue⟩ := hprovoked.mpr h.1
    rw [hanswer] at hvalue
    cases hvalue
  | ok value =>
    dsimp only
    rw [passes_ite_iff, and_iff_right (hprovoked.mp ⟨value, hanswer⟩), any_dumpReports_iff]
    rfl

end Cases

/-- **When a monitor case passes.** Whatever the device is and whatever else its tables hold, a
monitor case passes exactly when its workers did what provokes its report (the timestamp request
had an outcome; both ends of the flood were started; the kernel allowed the ARP replies on the
peer's interface, whose name the worker could read), the table it asks can be read, and a row newer
than the watermark shows what it looks for. -/
theorem monitor_passes_iff (device : MonitorDevice) (hjson : device.json.ReadsPrinted)
    (cfg : RunConfig) (c : MonitorCase) :
    (runMonitor cfg c device.steps).1.result = "PASS" ↔
      Provoked device cfg c.kind ∧ Recorded device cfg c.kind := by
  rw [runMonitor]
  cases hkind : c.kind with
  | icmpTimestamp => exact icmpTimestamp_passes_iff hjson
  | connPerIp => exact connPerIp_passes_iff
  | connTotal => exact connTotal_passes_iff
  | arpSpoof => exact arpSpoof_passes_iff hjson

end FwVerify
