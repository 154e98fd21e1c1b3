import FwVerify.Model.Verify

/-!
# When a case passes

The decision of one run of a case, taken apart: how far the run gets, and what the verdict,
the event list and the upload confirmation have to be for a PASS.

## Main definitions

* `AgreesUpToRule`, `Agrees` — a row is the expected event, without and with its rule id
* `SeenSent` — a later query shows the event as sent
* `Reaches` — a run gets as far as reading its events

## Main results

* `eventMatches_iff`, `confirmLocalSent_iff` — what the two tests decide
* `runCase_pass_iff` — a PASS is the PASS of a judgement that was reached
* `judge_pass_event_iff`, `judge_pass_quiet_iff` — the judgement with and without an
  expected event
-/

set_option autoImplicit false

namespace FwVerify

open Polling

/-! ## Rows -/

/-- The address traffic of a side comes from. -/
def originIp (cfg : RunConfig) : Side → IpAddr
  | .peer => cfg.peerIp
  | .target => cfg.targetIp

/-- The address traffic of a side goes to. -/
def receiverIp (cfg : RunConfig) : Side → IpAddr
  | .peer => cfg.targetIp
  | .target => cfg.peerIp

theorem flow_eq (cfg : RunConfig) (origin : Side) :
    flow cfg origin =
      ((originIp cfg origin).display, (receiverIp cfg origin).display, receiverIp cfg origin) := by
  cases origin <;> rfl

/-- The row is the expected event, whatever its rule id is. -/
structure AgreesUpToRule (cfg : RunConfig) (c : FwCase) (expect : ExpectEvent)
    (row : FwEvent) : Prop where
  kind : row.eventType = expect.kind
  action : row.action = expect.action
  proto : row.proto = expect.proto
  source : expect.kind ≠ "PolicyDeny" → row.srcIp = (originIp cfg c.origin).display
  destination : ∀ port, expect.matchDport = some port →
    row.dstPort = portColumn port ∧ row.dstIp = (receiverIp cfg c.origin).display
  detail : ∀ text, expect.detail = some text → row.detail = text

/-- The row is the expected event. -/
structure Agrees (cfg : RunConfig) (c : FwCase) (expect : ExpectEvent) (row : FwEvent) : Prop
    extends AgreesUpToRule cfg c expect row where
  rule : ∀ id, expect.ruleId = some id → row.ruleId = some id

/-- The row test looks at everything but the rule id. -/
theorem eventMatches_iff (cfg : RunConfig) (c : FwCase) (row : FwEvent) (expect : ExpectEvent) :
    eventMatches cfg c row expect = true ↔ AgreesUpToRule cfg c expect row := by
  rw [eventMatches, flow_eq]
  dsimp only
  split_ifs with hkind hsource hport hdetail
  · simp only [Bool.or_eq_true, bne_iff_ne, ne_eq] at hkind
    refine iff_of_false not_false fun h => ?_
    simp [h.kind, h.action, h.proto] at hkind
  · simp only [Bool.and_eq_true, bne_iff_ne, ne_eq] at hsource
    exact iff_of_false not_false fun h => hsource.2 (h.source hsource.1)
  · obtain ⟨port, hmatch, hdiffers⟩ := (Option.any_eq_true ..).mp hport
    refine iff_of_false not_false fun h => ?_
    obtain ⟨hsame, hsame'⟩ := h.destination port hmatch
    simp [hsame, hsame'] at hdiffers
  · obtain ⟨text, hwant, hdiffers⟩ := (Option.any_eq_true ..).mp hdetail
    refine iff_of_false not_false fun h => ?_
    simp [h.detail text hwant] at hdiffers
  · -- none of the four tests rejects the row
    simp only [Bool.or_eq_true, bne_iff_ne, ne_eq, not_or, not_not] at hkind
    simp only [Bool.and_eq_true, bne_iff_ne, ne_eq, not_and, not_not] at hsource
    refine iff_of_true rfl ⟨hkind.1.1, hkind.1.2, hkind.2, hsource, fun port hmatch => ?_,
      fun text hwant => ?_⟩
    · simpa [hmatch] using hport
    · simpa [hwant] using hdetail

/-! ## Upload confirmation -/

/-- Some later query shows the event as sent. -/
def SeenSent (polls : Polls (Except String (List FwEvent))) (eventId : String) : Prop :=
  ∃ rows, .ok rows ∈ polls.toList ∧
    ∃ row ∈ rows, row.eventId = eventId ∧ row.reportState = "sent"

theorem confirmLocalSent_iff (polls : Polls (Except String (List FwEvent))) (eventId : String) :
    confirmLocalSent polls eventId = true ↔ SeenSent polls eventId := by
  rw [confirmLocalSent, pollUntil_iff]
  constructor
  · rintro ⟨query, hquery, hshows⟩
    cases query with
    | error error => simp [showsSent] at hshows
    | ok rows => exact ⟨rows, hquery, by simpa [showsSent] using hshows⟩
  · rintro ⟨rows, hquery, hrow⟩
    exact ⟨.ok rows, hquery, by simpa [showsSent] using hrow⟩

theorem confirmReport_none (cfg : RunConfig) (steps : CaseSteps) :
    confirmReport cfg steps none = (none, []) := rfl

theorem confirmReport_some (cfg : RunConfig) (steps : CaseSteps) (ev : FwEvent) :
    (confirmReport cfg steps (some ev)).1 = some (confirmLocalSent steps.polls ev.eventId) := rfl

/-! ## The judgement -/

theorem enforceOk_iff (expect : Enforce) (verdict : String) :
    enforceOk expect verdict = true ↔ verdict = enforceStr expect := by
  cases expect <;> simp [enforceOk, enforceStr]

section Judge

variable {cfg : RunConfig} {c : FwCase} {steps : CaseSteps} {outcome : TrafficOutcome}
variable {events : List FwEvent}

/-- A judgement is PASS when all three gates are open, and FAIL otherwise. -/
theorem judge_result :
    (judge cfg c steps outcome events).result =
      if enforceOk c.expectEnforce outcome.verdict && (detect cfg c events).eventOk &&
          (confirmReport cfg steps (detect cfg c events).matched).1 != some false
        then "PASS" else "FAIL" := by
  unfold judge
  dsimp only
  split_ifs <;> rfl

/-- With an expected event: the verdict is right and the first matching row is confirmed. -/
theorem judge_pass_event_iff {expect : ExpectEvent} (hexpect : c.expectEvent = some expect) :
    (judge cfg c steps outcome events).result = "PASS" ↔
      outcome.verdict = enforceStr c.expectEnforce ∧
        ∃ row, events.find? (eventMatches cfg c · expect) = some row ∧
          SeenSent steps.polls row.eventId := by
  rw [judge_result, ← enforceOk_iff]
  -- with no match the event gate is closed; with one, its confirmation decides
  cases hfind : events.find? (eventMatches cfg c · expect) with
  | none => simp [detect, hexpect, hfind]
  | some row => simp [detect, hexpect, hfind, confirmReport_some, ← confirmLocalSent_iff]

/-- With no expected event: the verdict is right and no row of the origin has the case's
single port. -/
theorem judge_pass_quiet_iff (hexpect : c.expectEvent = none) :
    (judge cfg c steps outcome events).result = "PASS" ↔
      outcome.verdict = enforceStr c.expectEnforce ∧
        ∀ row ∈ events, row.srcIp = (originIp cfg c.origin).display →
          caseDport c ≠ some row.dstPort := by
  have hviolates (row : FwEvent) :
      (row.srcIp == (originIp cfg c.origin).display &&
          (caseDport c).any (row.dstPort == ·)) = true ↔
        row.srcIp = (originIp cfg c.origin).display ∧ caseDport c = some row.dstPort := by
    cases hport : caseDport c with
    | none => simp
    | some port => simpa using fun _ => eq_comm
  rw [judge_result, ← enforceOk_iff]
  -- the search finds a violating row exactly when there is one
  cases hfind : events.find? fun row => row.srcIp == (originIp cfg c.origin).display &&
      (caseDport c).any (row.dstPort == ·) with
  | none =>
    have hquiet : ∀ row ∈ events, row.srcIp = (originIp cfg c.origin).display →
        caseDport c ≠ some row.dstPort := fun row hrow hsrc hport =>
      List.find?_eq_none.mp hfind row hrow ((hviolates row).mpr ⟨hsrc, hport⟩)
    have hdetect : detect cfg c events = ⟨true, none, "none", []⟩ := by
      simp [detect, hexpect, flow_eq, hfind]
    simpa [hdetect, confirmReport_none] using fun _ => hquiet
  | some row =>
    have hrow := (hviolates row).mp <|
      List.find?_some (p := fun row : FwEvent => row.srcIp == (originIp cfg c.origin).display &&
        (caseDport c).any (row.dstPort == ·)) hfind
    have hdetect : (detect cfg c events).eventOk = false := by
      simp [detect, hexpect, flow_eq, hfind]
    simp only [hdetect, Bool.and_false, Bool.false_and, Bool.false_eq_true, ↓reduceIte]
    refine iff_of_false (by decide) fun h => ?_
    exact h.2 row (List.mem_of_find?_eq_some hfind) hrow.1 hrow.2

end Judge

/-! ## How far a run gets -/

/-- The run gets as far as judging: nothing skips it, every listener starts, and the
watermark and the traffic give an answer. -/
structure Reaches (cfg : RunConfig) (c : FwCase) (steps : CaseSteps) (since : Int64)
    (outcome : TrafficOutcome) : Prop where
  skip : c.skip = none
  listeners : ∀ index < c.listen.length, steps.listeners index = .ok ()
  watermark : steps.nowMs = .ok since
  traffic : steps.caseTraffic cfg c = .ok outcome

/-- The rows a run judges: a failed query has none. -/
def CaseSteps.eventsSince (steps : CaseSteps) (since : Int64) : List FwEvent :=
  (steps.dumpEvents since).toOption.getD []

/-- Every listener starts exactly when none of the spawns fails. -/
theorem startListeners_none_iff (spawn : Nat → Except String Unit) (specs : List Listen)
    (first : Nat) :
    (startListeners spawn specs first).2 = none ↔
      ∀ index < specs.length, spawn (first + index) = .ok () := by
  induction specs generalizing first with
  | nil => simp [startListeners]
  | cons spec later ih =>
    cases hspawn : spawn first with
    | error error =>
      refine iff_of_false (by simp [startListeners, hspawn]) fun h => ?_
      have hfirst := h 0 (by simp)
      simp [hspawn] at hfirst
    | ok =>
      have hlater : (startListeners spawn (spec :: later) first).2 =
          (startListeners spawn later (first + 1)).2 := by
        simp [startListeners, hspawn]
      rw [hlater, ih]
      constructor
      · intro h index hindex
        cases index with
        | zero => exact hspawn
        | succ index =>
          have hnext := h index (by simpa using hindex)
          rwa [Nat.add_assoc, Nat.add_comm 1] at hnext
      · intro h index hindex
        have hnext := h (index + 1) (by simpa using hindex)
        rwa [Nat.add_assoc, Nat.add_comm 1]

section Run

variable {cfg : RunConfig} {c : FwCase} {steps : CaseSteps}

/-- A run that gets that far is judged on the rows it read. -/
theorem Reaches.runCase {since : Int64} {outcome : TrafficOutcome}
    (h : Reaches cfg c steps since outcome) (hgroup : c.group ≠ .traffic) :
    (runCase cfg c steps).1 = judge cfg c steps outcome (steps.eventsSince since) := by
  have hlisten : (startListeners steps.listeners c.listen 0).2 = none :=
    (startListeners_none_iff ..).mpr (by simpa using h.listeners)
  rcases hstart : startListeners steps.listeners c.listen 0 with ⟨children, failure⟩
  obtain rfl : failure = none := by simpa [hstart] using hlisten
  simp [FwVerify.runCase, h.skip, hgroup, hstart, h.watermark, h.traffic, finishWith,
    CaseSteps.eventsSince]

/-- A listener that does not start skips the case. -/
theorem runCase_of_listener_fails (hgroup : c.group ≠ .traffic)
    (h : ¬ ∀ index < c.listen.length, steps.listeners index = .ok ()) :
    (runCase cfg c steps).1.result = "SKIP" := by
  cases hskip : c.skip with
  | some reason => simp [runCase, hskip, result]
  | none =>
    rcases hstart : startListeners steps.listeners c.listen 0 with ⟨children, failure⟩
    cases failure with
    | some error => simp [runCase, hskip, hgroup, hstart, result]
    | none =>
      have hall := (startListeners_none_iff steps.listeners c.listen 0).mp (by rw [hstart])
      exact absurd (by simpa using hall) h

/-- With the listeners running, a run ends as FAIL or is judged. -/
theorem runCase_of_listeners (hgroup : c.group ≠ .traffic) (hskip : c.skip = none)
    (hlisten : ∀ index < c.listen.length, steps.listeners index = .ok ())
    (h : ∀ since outcome, ¬ Reaches cfg c steps since outcome) :
    (runCase cfg c steps).1.result = "FAIL" := by
  have hstart : (startListeners steps.listeners c.listen 0).2 = none :=
    (startListeners_none_iff ..).mpr (by simpa using hlisten)
  rcases hspawned : startListeners steps.listeners c.listen 0 with ⟨children, failure⟩
  obtain rfl : failure = none := by simpa [hspawned] using hstart
  cases hnow : steps.nowMs with
  | error error => simp [runCase, hskip, hgroup, hspawned, hnow, finishWith, result]
  | ok since =>
    cases htraffic : steps.caseTraffic cfg c with
    | error error =>
      simp [runCase, hskip, hgroup, hspawned, hnow, htraffic, finishWith, result]
    | ok outcome => exact absurd ⟨hskip, hlisten, hnow, htraffic⟩ (h since outcome)

/-- Any other run ends as a SKIP or a FAIL before it is judged. -/
theorem runCase_of_not_reaches (hgroup : c.group ≠ .traffic)
    (h : ∀ since outcome, ¬ Reaches cfg c steps since outcome) :
    (runCase cfg c steps).1.result = "SKIP" ∨ (runCase cfg c steps).1.result = "FAIL" := by
  by_cases hlisten : ∀ index < c.listen.length, steps.listeners index = .ok ()
  · cases hskip : c.skip with
    | some reason => exact .inl (by simp [runCase, hskip, result])
    | none => exact .inr (runCase_of_listeners hgroup hskip hlisten h)
  · exact .inl (runCase_of_listener_fails hgroup hlisten)

/-- **A PASS outside the traffic group** is the PASS of a judgement the run reached. -/
theorem runCase_pass_iff (hgroup : c.group ≠ .traffic) :
    (runCase cfg c steps).1.result = "PASS" ↔
      ∃ since outcome, Reaches cfg c steps since outcome ∧
        (judge cfg c steps outcome (steps.eventsSince since)).result = "PASS" := by
  constructor
  · intro hpass
    by_cases hreach : ∃ since outcome, Reaches cfg c steps since outcome
    · obtain ⟨since, outcome, hreach⟩ := hreach
      exact ⟨since, outcome, hreach, hreach.runCase hgroup ▸ hpass⟩
    · simp only [not_exists] at hreach
      rcases runCase_of_not_reaches hgroup hreach with hskip | hfail
      · simp [hskip] at hpass
      · simp [hfail] at hpass
  · rintro ⟨since, outcome, hreach, hpass⟩
    rwa [hreach.runCase hgroup]

end Run

/-! ## A sample run -/

/-- The configuration of a default host setup. -/
def sampleConfig : RunConfig where
  mode := .host
  target := .local
  peer := .netns "fwpeer"
  peerIface := "fwp0"
  targetIp := .v4 ⟨10, 123, 0, 1⟩
  peerIp := .v4 ⟨10, 123, 0, 2⟩
  acd := 1
  funFw := 1
  funTraffic := 4
  reloadTimeoutSecs := 30
  eventSettleMs := 1500
  reportConfirm := .local
  vsoc := none
  idpsFw := "idps-fw"
  stateDb := "/data/idd/idps-fw/state.sqlite3"
  appUid := 2000
  appIdentityKey := "com.demo.browser"

/-- Steps in which the worker reports `verdict` and every query shows `rows`. -/
def sampleSteps (verdict : String) (rows : List FwEvent) : CaseSteps where
  listeners := fun _ => .ok ()
  nowMs := .ok 0
  traffic := fun _ _ _ => .ok { verdict := verdict }
  dumpEvents := fun _ => .ok rows
  polls := ⟨.ok rows, []⟩
  logcat := .ok ""
  curlEvents := .ok ""
  statisticsBefore := .ok .null
  statisticsAfter := .ok .null

end FwVerify
