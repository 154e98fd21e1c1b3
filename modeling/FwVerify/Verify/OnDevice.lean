import FwVerify.Rules.CatalogAgreement
import FwVerify.State.Rows
import FwVerify.Verify.Strictness

/-!
# A case on a device

The run of a case, down to what it stands on: a worker process sends the traffic under the
credentials of the case, and idps-fw keeps its rows in a table that changes while the case asks for
them. A PASS leads back to the probes of that process and to rows of that table; and a device that
does what the case expects passes.

## Main definitions

* `Device` — the worker's system, and the table at the times it is asked
* `Device.steps` — the external steps of a case on a device
* `TrafficShows` — the worker of a case reports a verdict
* `FirstShown`, `SentLater` — the row of the first expected event, and its upload
* `Accepted` — what a case that does not fail has found on its device

## Main results

* `accepted_iff` — a case that does not fail
-/

set_option autoImplicit false

namespace FwVerify

open Polling Selection

/-! ## Devices -/

/-- The device a case runs on. -/
structure Device where
  json : JsonParser
  order : StateOrder
  /-- What is said of documents that are no outcome and no rows. -/
  noOutcome : Value → String
  noRecord : List Value → String
  listeners : Nat → Except String Unit
  now : Int64
  /-- The system and the credentials of the worker on an endpoint, if one can be started there. -/
  worker : Endpoint → Except String (WorkerSystem × Creds)
  /-- The state of idps-fw when the case reads its events, and each time it waits for the upload. -/
  db : StateDb
  waiting : Polls StateDb
  logcat : Except String String
  curlEvents : Except String String
  statisticsBefore : Except String Value
  statisticsAfter : Except String Value

namespace Device

variable (device : Device)

/-- The worker of a request: how its process ends. -/
def runWorker (endpoint : Endpoint) (args : List String) : Except String ProgramOutput :=
  (device.worker endpoint).map fun (system, creds) => trafficProcess system creds args

def dumpEventsOf (db : StateDb) (since : Int64) : Except String (List FwEvent) :=
  dumpEvents device.json device.order db since device.noRecord

/-- The external steps of a case on the device. -/
def steps : CaseSteps where
  listeners := device.listeners
  nowMs := .ok device.now
  traffic endpoint cmd uid :=
    peerTraffic device.json device.noOutcome cmd uid (device.runWorker endpoint (cmd.argv uid))
  dumpEvents since := device.dumpEventsOf device.db since
  polls := device.waiting.map fun db => device.dumpEventsOf db device.now
  logcat := device.logcat
  curlEvents := device.curlEvents
  statisticsBefore := device.statisticsBefore
  statisticsAfter := device.statisticsAfter

end Device

/-! ## The worker of a case -/

section Worker

variable (device : Device) (cfg : RunConfig) (c : FwCase)

/-- The worker of the case is started on its side, gets the credentials of the case, and reports a
verdict on its probes. -/
def TrafficShows (verdict : String) : Prop :=
  ∃ system creds report, device.worker (endpoint cfg c.origin) = .ok (system, creds) ∧
    (∀ user, caseUid cfg c = some user → system.calls.Allow user) ∧
    requestedRun system creds (buildCmd c (receiverIp cfg c.origin)) (caseUid cfg c)
      (trafficProto c.traffic) = .ok report ∧
    report.verdict = verdict

variable {device cfg c}

/-- The verdict a case sees is the one its worker reports. -/
theorem caseTraffic_iff (hjson : device.json.ReadsPrinted) (verdict : String) :
    (∃ outcome, device.steps.caseTraffic cfg c = .ok outcome ∧ outcome.verdict = verdict) ↔
      TrafficShows device cfg c verdict := by
  have htraffic : device.steps.caseTraffic cfg c =
      peerTraffic device.json device.noOutcome (buildCmd c (receiverIp cfg c.origin))
        (caseUid cfg c) (device.runWorker (endpoint cfg c.origin)
          ((buildCmd c (receiverIp cfg c.origin)).argv (caseUid cfg c))) := by
    rw [CaseSteps.caseTraffic, flow_eq]
    rfl
  rw [htraffic, Device.runWorker, TrafficShows]
  cases hworker : device.worker (endpoint cfg c.origin) with
  | error error =>
    refine iff_of_false ?_ ?_
    · rintro ⟨outcome, houtcome, -⟩
      cases houtcome
    · rintro ⟨system, creds, report, hstarted, -⟩
      cases hstarted
  | ok started =>
    obtain ⟨system, creds⟩ := started
    constructor
    · rintro ⟨outcome, houtcome, rfl⟩
      obtain ⟨hallow, report, hrun, rfl⟩ :=
        exists_report_of_peerTraffic hjson (buildCmd_proto c _) houtcome
      exact ⟨system, creds, report, rfl, hallow, hrun, rfl⟩
    · rintro ⟨system', creds', report, hstarted, hallow, hrun, rfl⟩
      cases hstarted
      exact ⟨_, peerTraffic_of_report hjson (buildCmd_proto c _) hallow hrun, rfl⟩

end Worker

/-! ## The rows of a case -/

section Rows

variable (device : Device) (cfg : RunConfig) (c : FwCase) (expect : ExpectEvent)

/-- The table shows an event as sent while the case waits for it. -/
def SentLater (eventId : String) : Prop :=
  ∃ db ∈ device.waiting.toList, Readable device.json db device.now ∧
    ∃ row ∈ db.events, device.now < row.eventTimeMs ∧ ∃ ev, row.event device.json = some ev ∧
      ev.eventId = eventId ∧ ev.reportState = "sent"

/-- A row newer than the watermark stands for an event the case expects. -/
structure RowShows (row : EventRow) (ev : FwEvent) : Prop where
  stored : row ∈ device.db.events
  newer : device.now < row.eventTimeMs
  event : row.event device.json = some ev
  agrees : AgreesUpToRule cfg c expect ev

/-- The row stands for the first event of the dump that the case expects. -/
structure FirstShown (row : EventRow) (ev : FwEvent) : Prop
    extends RowShows device cfg c expect row ev where
  first : ∃ events, device.dumpEventsOf device.db device.now = .ok events ∧
    events.find? (eventMatches cfg c · expect) = some ev

/-- If the table can be read, no newer row is from the case's origin to its single port. -/
def Quiet : Prop :=
  Readable device.json device.db device.now → ∀ row ∈ device.db.events,
    device.now < row.eventTimeMs → ∀ ev, row.event device.json = some ev →
      ev.srcIp = (originIp cfg c.origin).display → caseDport c ≠ some ev.dstPort

variable {device cfg c expect}

theorem seenSent_iff (eventId : String) :
    SeenSent device.steps.polls eventId ↔ SentLater device eventId := by
  have hpolls : device.steps.polls.toList =
      device.waiting.toList.map fun db => device.dumpEventsOf db device.now :=
    Polls.toList_map ..
  rw [SeenSent, hpolls]
  constructor
  · rintro ⟨events, hevents, ev, hev, hid, hsent⟩
    obtain ⟨db, hdb, hdump⟩ := List.mem_map.mp hevents
    obtain ⟨row, hrow, hnewer, hevent⟩ := (mem_dumpEvents hdump).mp hev
    exact ⟨db, hdb, (exists_dumpEvents_iff ..).mp ⟨events, hdump⟩, row, hrow, hnewer, ev, hevent,
      hid, hsent⟩
  · rintro ⟨db, hdb, hreadable, row, hrow, hnewer, ev, hevent, hid, hsent⟩
    obtain ⟨events, hdump⟩ :=
      (exists_dumpEvents_iff _ device.order _ _ device.noRecord).mpr hreadable
    exact ⟨events, List.mem_map.mpr ⟨db, hdb, hdump⟩, ev,
      (mem_dumpEvents hdump).mpr ⟨row, hrow, hnewer, hevent⟩, hid, hsent⟩

/-- The first match of a dump has a row. -/
theorem firstShown_of_find {events : List FwEvent} {ev : FwEvent}
    (hdump : device.dumpEventsOf device.db device.now = .ok events)
    (hfirst : events.find? (eventMatches cfg c · expect) = some ev) :
    ∃ row, FirstShown device cfg c expect row ev := by
  have hmatch : eventMatches cfg c ev expect = true :=
    List.find?_some (p := (eventMatches cfg c · expect)) hfirst
  obtain ⟨row, hrow, hnewer, hevent⟩ := (mem_dumpEvents hdump).mp (List.mem_of_find?_eq_some hfirst)
  exact ⟨row, ⟨hrow, hnewer, hevent, (eventMatches_iff ..).mp hmatch⟩, events, hdump, hfirst⟩

/-- A readable table with an expected event has a first one, whatever else it holds. -/
theorem RowShows.exists_first (hreadable : Readable device.json device.db device.now)
    {row : EventRow} {ev : FwEvent} (h : RowShows device cfg c expect row ev) :
    ∃ row' ev', FirstShown device cfg c expect row' ev' := by
  obtain ⟨events, hdump⟩ :=
    (exists_dumpEvents_iff _ device.order _ _ device.noRecord).mpr hreadable
  have hmem : ev ∈ events := (mem_dumpEvents hdump).mpr ⟨row, h.stored, h.newer, h.event⟩
  have hfound : (events.find? (eventMatches cfg c · expect)).isSome :=
    List.find?_isSome.mpr ⟨ev, hmem, (eventMatches_iff ..).mpr h.agrees⟩
  obtain ⟨first, hfirst⟩ := Option.isSome_iff_exists.mp hfound
  obtain ⟨row', hshown⟩ := firstShown_of_find hdump hfirst
  exact ⟨row', first, hshown⟩

/-- A case sees a quiet table when its rows are quiet or cannot be read. -/
theorem quiet_iff :
    (∀ ev ∈ device.steps.eventsSince device.now, ev.srcIp = (originIp cfg c.origin).display →
      caseDport c ≠ some ev.dstPort) ↔ Quiet device cfg c := by
  have hsteps : device.steps.dumpEvents device.now = device.dumpEventsOf device.db device.now := rfl
  rw [CaseSteps.eventsSince, hsteps, Quiet]
  cases hdump : device.dumpEventsOf device.db device.now with
  | error error =>
    refine iff_of_true (fun ev hev => absurd hev List.not_mem_nil) fun hreadable => ?_
    obtain ⟨events, hevents⟩ :=
      (exists_dumpEvents_iff _ device.order _ _ device.noRecord).mpr hreadable
    rw [Device.dumpEventsOf, hevents] at hdump
    cases hdump
  | ok events =>
    have hreadable : Readable device.json device.db device.now :=
      (exists_dumpEvents_iff ..).mp ⟨events, hdump⟩
    constructor
    · intro hquiet _ row hrow hnewer ev hevent
      exact hquiet ev ((mem_dumpEvents hdump).mpr ⟨row, hrow, hnewer, hevent⟩)
    · intro hquiet ev hev
      obtain ⟨row, hrow, hnewer, hevent⟩ := (mem_dumpEvents hdump).mp hev
      exact hquiet hreadable row hrow hnewer ev hevent

end Rows

/-! ## The run of a case -/

/-- Every listener of a case starts. -/
def ListenersStart (device : Device) (c : FwCase) : Prop :=
  ∀ index < c.listen.length, device.listeners index = .ok ()

/-- What a case that does not fail has found on its device. -/
inductive Accepted (device : Device) (cfg : RunConfig) (c : FwCase) : Prop
  /-- A traffic case sees both of its counters above what they were, or what passes for it. -/
  | counted (group : c.group = .traffic) (before after : Value)
      (first : device.statisticsBefore = .ok before) (second : device.statisticsAfter = .ok after)
      (verdict : String) (traffic : TrafficShows device cfg c verdict)
      (bytes : Grows before after (caseCounters c).1 ∨ SeemsToGrow before after (caseCounters c).1)
      (windows : Grows before after (caseCounters c).2 ∨
        SeemsToGrow before after (caseCounters c).2)
  /-- Without its listeners a case is skipped. -/
  | unheard (group : c.group ≠ .traffic) (fails : ¬ ListenersStart device c)
  /-- The expected verdict, and an expected event that is uploaded. -/
  | confirmed (group : c.group ≠ .traffic) (listeners : ListenersStart device c)
      (traffic : TrafficShows device cfg c (enforceStr c.expectEnforce)) (expect : ExpectEvent)
      (expects : c.expectEvent = some expect) (row : EventRow) (ev : FwEvent)
      (shown : FirstShown device cfg c expect row ev) (sent : SentLater device ev.eventId)
  /-- The expected verdict, and no event where none is expected. -/
  | quiet (group : c.group ≠ .traffic) (listeners : ListenersStart device c)
      (traffic : TrafficShows device cfg c (enforceStr c.expectEnforce))
      (expects : c.expectEvent = none) (quiet : Quiet device cfg c)

section Run

variable {device : Device} {cfg : RunConfig} {c : FwCase}

/-- A traffic case passes or fails. -/
theorem counted_ne_fail_iff {steps : CaseSteps} :
    (runTrafficCase cfg c steps).result ≠ "FAIL" ↔
      (runTrafficCase cfg c steps).result = "PASS" := by
  have hfailed {detail : String} : (result c "FAIL" detail).result ≠ "FAIL" ↔
      (result c "FAIL" detail).result = "PASS" :=
    iff_of_false (not_not_intro rfl) (by simp [result])
  unfold runTrafficCase
  split
  · exact hfailed
  · split
    · exact hfailed
    · split
      · exact hfailed
      · dsimp only
        -- whichever counters the case looks at
        split <;> split_ifs <;> decide

/-- A traffic case passes on the counters the tool compares. -/
theorem counted_pass_iff (hjson : device.json.ReadsPrinted) :
    (runTrafficCase cfg c device.steps).result = "PASS" ↔
      ∃ before after, device.statisticsBefore = .ok before ∧
        device.statisticsAfter = .ok after ∧ (∃ verdict, TrafficShows device cfg c verdict) ∧
        (Grows before after (caseCounters c).1 ∨ SeemsToGrow before after (caseCounters c).1) ∧
        (Grows before after (caseCounters c).2 ∨ SeemsToGrow before after (caseCounters c).2) := by
  constructor
  · intro hpass
    obtain ⟨before, outcome, after, hbefore, htraffic, hafter⟩ :=
      exists_of_runTrafficCase_pass hpass
    obtain ⟨hbytes, hwindows⟩ := (runTrafficCase_pass_iff hbefore htraffic hafter).mp hpass
    have hshows := (caseTraffic_iff hjson outcome.verdict).mp ⟨outcome, htraffic, rfl⟩
    exact ⟨before, after, hbefore, hafter, ⟨_, hshows⟩, grew_iff.mp hbytes, grew_iff.mp hwindows⟩
  · rintro ⟨before, after, hbefore, hafter, ⟨verdict, htraffic⟩, hbytes, hwindows⟩
    obtain ⟨outcome, houtcome, -⟩ := (caseTraffic_iff hjson _).mpr htraffic
    exact (runTrafficCase_pass_iff hbefore houtcome hafter).mpr
      ⟨grew_iff.mpr hbytes, grew_iff.mpr hwindows⟩

/-- A case that expects an event passes on the first one it is shown. -/
theorem confirmed_pass_iff (hjson : device.json.ReadsPrinted) (hgroup : c.group ≠ .traffic)
    (hskip : c.skip = none) {expect : ExpectEvent} (hexpect : c.expectEvent = some expect) :
    (runCase cfg c device.steps).1.result = "PASS" ↔
      ListenersStart device c ∧ TrafficShows device cfg c (enforceStr c.expectEnforce) ∧
        ∃ row ev, FirstShown device cfg c expect row ev ∧ SentLater device ev.eventId := by
  rw [runCase_pass_event_iff hgroup hexpect]
  constructor
  · rintro ⟨since, outcome, events, ev, hfirst⟩
    obtain rfl : device.now = since := Except.ok.inj hfirst.reaches.watermark
    obtain ⟨row, hshown⟩ := firstShown_of_find hfirst.query hfirst.first
    exact ⟨hfirst.reaches.listeners,
      (caseTraffic_iff hjson _).mp ⟨outcome, hfirst.reaches.traffic, hfirst.verdict⟩, row, ev,
      hshown, (seenSent_iff _).mp hfirst.sent⟩
  · rintro ⟨hlisten, htraffic, row, ev, hshown, hsent⟩
    obtain ⟨outcome, houtcome, hverdict⟩ := (caseTraffic_iff hjson _).mpr htraffic
    obtain ⟨events, hdump, hfirst⟩ := hshown.first
    exact ⟨device.now, outcome, events, ev, ⟨hskip, hlisten, rfl, houtcome⟩, hverdict, hdump,
      hfirst, (seenSent_iff _).mpr hsent⟩

/-- A case that expects no event passes on a quiet table. -/
theorem quiet_pass_iff (hjson : device.json.ReadsPrinted) (hgroup : c.group ≠ .traffic)
    (hskip : c.skip = none) (hexpect : c.expectEvent = none) :
    (runCase cfg c device.steps).1.result = "PASS" ↔
      ListenersStart device c ∧ TrafficShows device cfg c (enforceStr c.expectEnforce) ∧
        Quiet device cfg c := by
  rw [runCase_pass_iff hgroup]
  constructor
  · rintro ⟨since, outcome, hreach, hpass⟩
    obtain rfl : device.now = since := Except.ok.inj hreach.watermark
    obtain ⟨hverdict, hquiet⟩ := (judge_pass_quiet_iff hexpect).mp hpass
    exact ⟨hreach.listeners, (caseTraffic_iff hjson _).mp ⟨outcome, hreach.traffic, hverdict⟩,
      quiet_iff.mp hquiet⟩
  · rintro ⟨hlisten, htraffic, hquiet⟩
    obtain ⟨outcome, houtcome, hverdict⟩ := (caseTraffic_iff hjson _).mpr htraffic
    exact ⟨device.now, outcome, ⟨hskip, hlisten, rfl, houtcome⟩,
      (judge_pass_quiet_iff hexpect).mpr ⟨hverdict, quiet_iff.mpr hquiet⟩⟩

/-- Outside the traffic group a run that does not fail passes, or is skipped for a listener. -/
theorem runCase_ne_fail_iff (hgroup : c.group ≠ .traffic) (hskip : c.skip = none) :
    (runCase cfg c device.steps).1.result ≠ "FAIL" ↔
      ¬ ListenersStart device c ∨ (runCase cfg c device.steps).1.result = "PASS" := by
  by_cases hlisten : ListenersStart device c
  · rw [or_iff_right (not_not_intro hlisten)]
    by_cases hreach : ∃ since outcome, Reaches cfg c device.steps since outcome
    · obtain ⟨since, outcome, hreach⟩ := hreach
      rw [hreach.runCase hgroup, judge_result]
      split_ifs <;> decide
    · have hfail : (runCase cfg c device.steps).1.result = "FAIL" :=
        runCase_of_listeners hgroup hskip hlisten (by simpa using hreach)
      rw [hfail]
      decide
  · have hunheard : (runCase cfg c device.steps).1.result = "SKIP" :=
      runCase_of_listener_fails hgroup hlisten
    rw [hunheard]
    exact iff_of_true (by decide) (.inl hlisten)

/-- **A case that does not fail**: the result of a case on a device is no FAIL exactly when the
case has found there what it accepts. -/
theorem accepted_iff (hjson : device.json.ReadsPrinted) (hskip : c.skip = none) :
    (runCase cfg c device.steps).1.result ≠ "FAIL" ↔ Accepted device cfg c := by
  by_cases hgroup : c.group = .traffic
  · have hrun : (runCase cfg c device.steps).1 = runTrafficCase cfg c device.steps := by
      simp [runCase, hskip, hgroup]
    rw [hrun, counted_ne_fail_iff, counted_pass_iff hjson]
    constructor
    · rintro ⟨before, after, hbefore, hafter, ⟨verdict, htraffic⟩, hbytes, hwindows⟩
      exact .counted hgroup before after hbefore hafter verdict htraffic hbytes hwindows
    · intro haccepted
      cases haccepted with
      | counted _ before after first second verdict traffic bytes windows =>
        exact ⟨before, after, first, second, ⟨verdict, traffic⟩, bytes, windows⟩
      | unheard group => exact absurd hgroup group
      | confirmed group => exact absurd hgroup group
      | quiet group => exact absurd hgroup group
  · rw [runCase_ne_fail_iff hgroup hskip]
    constructor
    · rintro (hfails | hpass)
      · exact .unheard hgroup hfails
      · cases hexpect : c.expectEvent with
        | none =>
          obtain ⟨hlisten, htraffic, hquiet⟩ := (quiet_pass_iff hjson hgroup hskip hexpect).mp hpass
          exact .quiet hgroup hlisten htraffic hexpect hquiet
        | some expect =>
          obtain ⟨hlisten, htraffic, row, ev, hshown, hsent⟩ :=
            (confirmed_pass_iff hjson hgroup hskip hexpect).mp hpass
          exact .confirmed hgroup hlisten htraffic expect hexpect row ev hshown hsent
    · intro haccepted
      cases haccepted with
      | counted group => exact absurd group hgroup
      | unheard _ fails => exact .inl fails
      | confirmed _ listeners traffic expect expects row ev shown sent =>
        exact .inr ((confirmed_pass_iff hjson hgroup hskip expects).mpr
          ⟨listeners, traffic, row, ev, shown, sent⟩)
      | quiet _ listeners traffic expects quiet =>
        exact .inr ((quiet_pass_iff hjson hgroup hskip expects).mpr ⟨listeners, traffic, quiet⟩)

end Run

end FwVerify
