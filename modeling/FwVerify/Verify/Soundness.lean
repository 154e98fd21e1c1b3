import FwVerify.Verify.Judging

/-!
# What a PASS says about the events

A PASS of a case that expects an event is backed by a row that agrees with the expectation,
and a PASS of a case that expects none means that its traffic left no row. Both fail on one
kind of run each: the rule id of the matching row is only noted, and the search for a
violating row needs a single destination port.

## Main definitions

* `PassIsBacked` — a PASS has its row
* `OwnTraffic`, `PassIsQuiet` — the rows of a case's traffic, and a PASS without any

## Main results

* `pass_backed_iff` — a PASS is backed unless the wrong rule was found first
* `pass_quiet_iff` — a PASS is quiet unless the traffic has no single port
-/

set_option autoImplicit false

namespace FwVerify

open Polling

/-! ## Expected events -/

section Expected

variable (cfg : RunConfig) (c : FwCase) (expect : ExpectEvent) (steps : CaseSteps)

/-- A PASS means the expected verdict, and a row that agrees with the expectation and was
seen sent. -/
def PassIsBacked : Prop :=
  (runCase cfg c steps).1.result = "PASS" →
    ∃ since outcome rows, steps.nowMs = .ok since ∧ steps.caseTraffic cfg c = .ok outcome ∧
      steps.dumpEvents since = .ok rows ∧ outcome.verdict = enforceStr c.expectEnforce ∧
      ∃ row ∈ rows, Agrees cfg c expect row ∧ SeenSent steps.polls row.eventId

/-- The run is judged with the expected verdict, and `row` is the first of the rows that
matches, and is seen sent. -/
structure FindsFirst (since : Int64) (outcome : TrafficOutcome) (rows : List FwEvent)
    (row : FwEvent) : Prop where
  reaches : Reaches cfg c steps since outcome
  verdict : outcome.verdict = enforceStr c.expectEnforce
  query : steps.dumpEvents since = .ok rows
  first : rows.find? (eventMatches cfg c · expect) = some row
  sent : SeenSent steps.polls row.eventId

variable {cfg c expect steps}

theorem runCase_pass_event_iff (hgroup : c.group ≠ .traffic)
    (hexpect : c.expectEvent = some expect) :
    (runCase cfg c steps).1.result = "PASS" ↔
      ∃ since outcome rows row, FindsFirst cfg c expect steps since outcome rows row := by
  rw [runCase_pass_iff hgroup]
  constructor
  · rintro ⟨since, outcome, hreach, hpass⟩
    obtain ⟨hverdict, row, hfirst, hsent⟩ := (judge_pass_event_iff hexpect).mp hpass
    cases hquery : steps.dumpEvents since with
    | error error => simp [CaseSteps.eventsSince, hquery, Except.toOption] at hfirst
    | ok rows =>
      refine ⟨since, outcome, rows, row, hreach, hverdict, hquery, ?_, hsent⟩
      simpa [CaseSteps.eventsSince, hquery, Except.toOption] using hfirst
  · rintro ⟨since, outcome, rows, row, h⟩
    refine ⟨since, outcome, h.reaches, (judge_pass_event_iff hexpect).mpr ⟨h.verdict, row, ?_,
      h.sent⟩⟩
    simpa [CaseSteps.eventsSince, h.query, Except.toOption] using h.first

/-- The first match agrees with the expectation once its rule id does. -/
theorem FindsFirst.agrees {since : Int64} {outcome : TrafficOutcome} {rows : List FwEvent}
    {row : FwEvent} (h : FindsFirst cfg c expect steps since outcome rows row)
    (hrule : ∀ id, expect.ruleId = some id → row.ruleId = some id) :
    row ∈ rows ∧ Agrees cfg c expect row := by
  have hmatch : eventMatches cfg c row expect = true :=
    List.find?_some (p := (eventMatches cfg c · expect)) h.first
  exact ⟨List.mem_of_find?_eq_some h.first, (eventMatches_iff ..).mp hmatch, hrule⟩

/-- **A PASS is backed** exactly when the row that was found first has the expected rule id,
or another row that agrees in everything was seen sent as well. -/
theorem pass_backed_iff (hgroup : c.group ≠ .traffic) (hexpect : c.expectEvent = some expect) :
    PassIsBacked cfg c expect steps ↔
      ∀ since outcome rows row, FindsFirst cfg c expect steps since outcome rows row →
        (∀ id, expect.ruleId = some id → row.ruleId = some id) ∨
          ∃ other ∈ rows, Agrees cfg c expect other ∧ SeenSent steps.polls other.eventId := by
  constructor
  · intro hbacked since outcome rows row hfound
    refine .inr ?_
    obtain ⟨since', outcome', rows', hnow, -, hquery, -, other, hmem, hagrees⟩ :=
      hbacked ((runCase_pass_event_iff hgroup hexpect).mpr ⟨since, outcome, rows, row, hfound⟩)
    -- both speak of the one watermark and the one query of the run
    obtain rfl : since' = since := by
      rw [hfound.reaches.watermark] at hnow
      exact (Except.ok.inj hnow).symm
    obtain rfl : rows' = rows := by
      rw [hfound.query] at hquery
      exact (Except.ok.inj hquery).symm
    exact ⟨other, hmem, hagrees⟩
  · intro hcond hpass
    obtain ⟨since, outcome, rows, row, hfound⟩ :=
      (runCase_pass_event_iff hgroup hexpect).mp hpass
    refine ⟨since, outcome, rows, hfound.reaches.watermark, hfound.reaches.traffic,
      hfound.query, hfound.verdict, ?_⟩
    -- either the first match is the row, or another one is
    rcases hcond since outcome rows row hfound with hrule | hother
    · obtain ⟨hmem, hagrees⟩ := hfound.agrees hrule
      exact ⟨row, hmem, hagrees, hfound.sent⟩
    · exact hother

end Expected

/-- The case `egress-tcp-block`: it expects rule 2. -/
def egressTcpBlock : FwCase := allCases.get ⟨7, by decide⟩

/-- What `egress-tcp-block` expects. -/
def egressExpect : ExpectEvent where
  kind := "NetworkBlock"
  action := "Block"
  proto := "tcp"
  ruleId := some 2
  matchDport := some 6001
  detail := some "connection state invalid attack"

/-- The row of a block of the case's traffic by some rule. -/
def egressRow (ruleId : Int64) : FwEvent where
  eventId := "e1"
  eventTimeMs := 1
  eventType := "NetworkBlock"
  action := "Block"
  srcIp := "10.123.0.1"
  srcPort := 40000
  dstIp := "10.123.0.2"
  dstPort := 6001
  proto := "tcp"
  ruleId := some ruleId
  detail := "connection state invalid attack"
  reportState := "sent"

/-- The PASS of `egress-tcp-block` over a row of its own rule is backed. -/
theorem pass_backed_own_rule :
    PassIsBacked sampleConfig egressTcpBlock egressExpect
      (sampleSteps "blocked" [egressRow 2]) := by
  refine (pass_backed_iff (by decide) rfl).mpr fun since outcome rows row h => .inl ?_
  obtain rfl : rows = [egressRow 2] := (Except.ok.inj h.query).symm
  obtain rfl : row = egressRow 2 := List.mem_singleton.mp (List.mem_of_find?_eq_some h.first)
  exact fun id hid => hid

/-- A block by another rule passes `egress-tcp-block` all the same. -/
theorem wrong_rule_passes :
    ¬ ∀ (cfg : RunConfig) (c : FwCase) (expect : ExpectEvent) (steps : CaseSteps),
      c.group ≠ .traffic → c.expectEvent = some expect → PassIsBacked cfg c expect steps := by
  intro hclaim
  have hbacked := hclaim sampleConfig egressTcpBlock egressExpect
    (sampleSteps "blocked" [egressRow 7]) (by decide) rfl
  have hpass : (runCase sampleConfig egressTcpBlock
      (sampleSteps "blocked" [egressRow 7])).1.result = "PASS" := by decide +kernel
  obtain ⟨_, _, rows, -, -, hquery, -, row, hrow, hagrees, -⟩ := hbacked hpass
  obtain rfl : rows = [egressRow 7] := (Except.ok.inj hquery).symm
  obtain rfl := List.mem_singleton.mp hrow
  exact absurd (hagrees.rule 2 rfl) (by decide)

/-! ## No expected event -/

/-- The ports a case's traffic probes. -/
def probedPorts : TrafficKind → List UInt16
  | .tcp dport | .udp dport _ | .tcpBurst dport _ | .udpVolume dport _ => [dport]
  | .tcpScan dports | .udpScan dports | .tcpFinScan dports => dports
  | .icmp => []

/-- The row is about the case's own traffic. -/
structure OwnTraffic (cfg : RunConfig) (c : FwCase) (row : FwEvent) : Prop where
  source : row.srcIp = (originIp cfg c.origin).display
  probed : (∃ port ∈ probedPorts c.traffic, row.dstPort = portColumn port) ∨
    c.traffic = .icmp ∧ row.proto = "icmp"

/-- A run that read a row of its own traffic is no PASS. -/
def PassIsQuiet (cfg : RunConfig) (c : FwCase) (steps : CaseSteps) : Prop :=
  ∀ since rows, steps.nowMs = .ok since → steps.dumpEvents since = .ok rows →
    (∃ row ∈ rows, OwnTraffic cfg c row) → (runCase cfg c steps).1.result ≠ "PASS"

/-- With a single port, every row of the case's traffic has it. -/
theorem OwnTraffic.caseDport {cfg : RunConfig} {c : FwCase} {row : FwEvent}
    (h : OwnTraffic cfg c row) (hsingle : (caseDport c).isSome) :
    FwVerify.caseDport c = some row.dstPort := by
  rcases h.probed with ⟨port, hport, hrow⟩ | ⟨hicmp, -⟩
  · cases htraffic : c.traffic <;>
      simp [FwVerify.caseDport, htraffic, probedPorts] at hsingle hport ⊢ <;> simp [hrow, hport]
  · simp [FwVerify.caseDport, hicmp] at hsingle

section Quiet

variable {cfg : RunConfig} {c : FwCase} {steps : CaseSteps}

/-- **A PASS is quiet** exactly when the case's traffic has a single port, or no row of it
was read by a run that is judged with the expected verdict. -/
theorem pass_quiet_iff (hgroup : c.group ≠ .traffic) (hexpect : c.expectEvent = none) :
    PassIsQuiet cfg c steps ↔
      ∀ since outcome rows, Reaches cfg c steps since outcome →
        outcome.verdict = enforceStr c.expectEnforce → steps.dumpEvents since = .ok rows →
        (caseDport c).isSome ∨ ∀ row ∈ rows, ¬ OwnTraffic cfg c row := by
  have hrows {since : Int64} {rows : List FwEvent} (hquery : steps.dumpEvents since = .ok rows) :
      steps.eventsSince since = rows := by
    simp [CaseSteps.eventsSince, hquery, Except.toOption]
  constructor
  · intro hquiet since outcome rows hreach hverdict hquery
    by_cases hsingle : (caseDport c).isSome
    · exact .inl hsingle
    · refine .inr fun row hrow hown => ?_
      -- with no single port the search finds nothing, and the run passes
      refine hquiet since rows hreach.watermark hquery ⟨row, hrow, hown⟩ ?_
      rw [hreach.runCase hgroup, judge_pass_quiet_iff hexpect]
      refine ⟨hverdict, fun _ _ _ hport => ?_⟩
      simp [hport] at hsingle
  · intro hcond since rows hnow hquery hown hpass
    obtain ⟨since', outcome, hreach, hjudge⟩ := (runCase_pass_iff hgroup).mp hpass
    obtain rfl : since' = since := by
      rw [hreach.watermark] at hnow
      exact Except.ok.inj hnow
    rw [judge_pass_quiet_iff hexpect, hrows hquery] at hjudge
    obtain ⟨row, hrow, hown⟩ := hown
    rcases hcond since' outcome rows hreach hjudge.1 hquery with hsingle | hnone
    · exact hjudge.2 row hrow hown.source (hown.caseDport hsingle)
    · exact hnone row hrow hown

end Quiet

/-- The case `detect-below-threshold`: two ports are scanned, no event is expected. -/
def detectBelowThreshold : FwCase := allCases.get ⟨25, by decide⟩

/-- The row of a port scan that was recorded although it is below the threshold. -/
def scanRow : FwEvent where
  eventId := "e1"
  eventTimeMs := 1
  eventType := "PortScan"
  action := "Block"
  srcIp := "10.123.0.2"
  srcPort := 40000
  dstIp := "10.123.0.1"
  dstPort := 9202
  proto := "tcp"
  ruleId := none
  detail := "tcp portscan attack"
  reportState := "sent"

/-- The case `ingress-tuple-blocksilent`: a single port is probed, no event is expected. -/
def blocksilent : FwCase := allCases.get ⟨3, by decide⟩

/-- The row of a block that was recorded although it should be silent. -/
def silentRow : FwEvent :=
  { scanRow with eventType := "Block", dstPort := 5004, detail := "" }

/-- A recorded block does not pass `ingress-tuple-blocksilent`. -/
theorem recorded_block_fails :
    OwnTraffic sampleConfig blocksilent silentRow ∧
      (runCase sampleConfig blocksilent (sampleSteps "refused" [silentRow])).1.result ≠ "PASS" := by
  have hown : OwnTraffic sampleConfig blocksilent silentRow :=
    ⟨by decide, .inl ⟨5004, by decide, by decide⟩⟩
  have hquiet : PassIsQuiet sampleConfig blocksilent (sampleSteps "refused" [silentRow]) :=
    (pass_quiet_iff (by decide) rfl).mpr fun _ _ _ _ _ _ => .inl rfl
  exact ⟨hown, hquiet 0 [silentRow] rfl rfl ⟨silentRow, List.mem_singleton_self _, hown⟩⟩

/-- A recorded port scan passes `detect-below-threshold`. -/
theorem recorded_scan_passes :
    ¬ ∀ (cfg : RunConfig) (c : FwCase) (steps : CaseSteps),
      c.group ≠ .traffic → c.expectEvent = none → PassIsQuiet cfg c steps := by
  intro hclaim
  have hown : OwnTraffic sampleConfig detectBelowThreshold scanRow :=
    ⟨by decide, .inl ⟨9202, by decide, by decide⟩⟩
  refine hclaim sampleConfig detectBelowThreshold (sampleSteps "blocked" [scanRow])
    (by decide) rfl 0 [scanRow] rfl rfl ⟨scanRow, List.mem_singleton_self _, hown⟩ ?_
  decide +kernel

end FwVerify
