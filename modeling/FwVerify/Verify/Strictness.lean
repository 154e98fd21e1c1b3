import FwVerify.Verify.Soundness
import FwVerify.Verify.Statistics

/-!
# Levels of upload confirmation

The level of upload confirmation decides which further queries a matched event gets. Their
answers go into the detail of the result and not into its status, so a PASS says the same at
every level.

## Main definitions

* `ServerLogFound`, `VsocMentions` — what the stricter levels look for
* `PassesLocally` — what a PASS takes at any level
* `Strictness` — a PASS means what its level looks for

## Main results

* `runCase_pass_iff_locally` — a PASS at any level
* `strictness_iff` — when a PASS means what its level looks for
-/

set_option autoImplicit false

namespace FwVerify

/-- The case runs with a level of confirmation, all else being the same. -/
def RunConfig.withConfirm (cfg : RunConfig) (level : ReportConfirm) : RunConfig :=
  { cfg with reportConfirm := level }

/-- How strict a level is. -/
def ReportConfirm.strictness : ReportConfirm → Nat
  | .local => 0
  | .server => 1
  | .vsoc => 2

/-- The log of idps-server has a received report. -/
def ServerLogFound (steps : CaseSteps) : Prop :=
  ∃ log, steps.logcat = .ok log ∧ Text.contains log "received report" = true

/-- The event query of the VSOC succeeds and mentions the target. -/
def VsocMentions (cfg : RunConfig) (steps : CaseSteps) : Prop :=
  eventsMention cfg steps.curlEvents cfg.targetIp.display = .ok true

/-- What a level looks for beyond the state of the upload; there is a log on Android only. -/
def Confirmed (cfg : RunConfig) (steps : CaseSteps) : ReportConfirm → Prop
  | .local => True
  | .server => cfg.mode = .android → ServerLogFound steps
  | .vsoc => (cfg.mode = .android → ServerLogFound steps) ∧ VsocMentions cfg steps

/-- A case that runs with a level passes. -/
def Passes (cfg : RunConfig) (c : FwCase) (steps : CaseSteps) (level : ReportConfirm) : Prop :=
  (runCase (cfg.withConfirm level) c steps).1.result = "PASS"

/-- A PASS means what its level looks for, and is a PASS at every laxer level. -/
structure Strictness (cfg : RunConfig) (c : FwCase) (steps : CaseSteps) : Prop where
  confirmed : ∀ level, Passes cfg c steps level → Confirmed cfg steps level
  laxer : ∀ level level', level.strictness ≤ level'.strictness →
    Passes cfg c steps level' → Passes cfg c steps level

/-- The query of a stricter level covers those of the laxer ones. -/
theorem Confirmed.of_vsoc {cfg : RunConfig} {steps : CaseSteps}
    (h : Confirmed cfg steps .vsoc) (level : ReportConfirm) : Confirmed cfg steps level := by
  cases level with
  | «local» => trivial
  | server => exact h.1
  | vsoc => exact h

/-! ## A PASS at any level -/

/-- What a PASS of a case that expects an event takes: a judged run that finds the event and sees
it sent, or, in the traffic group, both counters compared larger. -/
inductive PassesLocally (cfg : RunConfig) (c : FwCase) (expect : ExpectEvent)
    (steps : CaseSteps) : Prop
  | judged (group : c.group ≠ .traffic) (since : Int64) (outcome : TrafficOutcome)
      (rows : List FwEvent) (row : FwEvent)
      (found : FindsFirst cfg c expect steps since outcome rows row)
  | counted (group : c.group = .traffic) (skip : c.skip = none) (before after : Value)
      (outcome : TrafficOutcome) (first : steps.statisticsBefore = .ok before)
      (traffic : steps.caseTraffic cfg c = .ok outcome)
      (second : steps.statisticsAfter = .ok after)
      (bytes : (counter before (caseCounters c).1).getD 0 <
        (counter after (caseCounters c).1).getD 0)
      (windows : (counter before (caseCounters c).2).getD 0 <
        (counter after (caseCounters c).2).getD 0)

section Levels

variable {cfg : RunConfig} {c : FwCase} {expect : ExpectEvent} {steps : CaseSteps}

/-- A statistics case that passes has got both snapshots. -/
theorem exists_of_runTrafficCase_pass (hpass : (runTrafficCase cfg c steps).result = "PASS") :
    ∃ before outcome after, steps.statisticsBefore = .ok before ∧
      steps.caseTraffic cfg c = .ok outcome ∧ steps.statisticsAfter = .ok after := by
  cases hbefore : steps.statisticsBefore with
  | error error => simp [runTrafficCase, hbefore, result] at hpass
  | ok before =>
    cases htraffic : steps.caseTraffic cfg c with
    | error error => simp [runTrafficCase, hbefore, htraffic, result] at hpass
    | ok outcome =>
      cases hafter : steps.statisticsAfter with
      | error error => simp [runTrafficCase, hbefore, htraffic, hafter, result] at hpass
      | ok after => exact ⟨before, outcome, after, rfl, rfl, rfl⟩

/-- **A PASS of a case that expects an event** does not depend on the level. -/
theorem runCase_pass_iff_locally (hexpect : c.expectEvent = some expect) :
    (runCase cfg c steps).1.result = "PASS" ↔ PassesLocally cfg c expect steps := by
  by_cases hgroup : c.group = .traffic
  · -- a traffic case is judged by the counters, whatever the level
    cases hskip : c.skip with
    | some reason =>
      refine iff_of_false (by simp [runCase, hskip, result]) ?_
      rintro (⟨group, -⟩ | ⟨-, skip, -⟩)
      · exact group hgroup
      · rw [hskip] at skip
        cases skip
    | none =>
      have hrun : (runCase cfg c steps).1 = runTrafficCase cfg c steps := by
        simp [runCase, hskip, hgroup]
      rw [hrun]
      constructor
      · intro hpass
        obtain ⟨before, outcome, after, hbefore, htraffic, hafter⟩ :=
          exists_of_runTrafficCase_pass hpass
        obtain ⟨hbytes, hwindows⟩ :=
          (runTrafficCase_pass_iff hbefore htraffic hafter).mp hpass
        exact .counted hgroup hskip before after outcome hbefore htraffic hafter hbytes hwindows
      · rintro (⟨group, -⟩ | ⟨-, -, before, after, outcome, hbefore, htraffic, hafter, hbytes,
          hwindows⟩)
        · exact absurd hgroup group
        · exact (runTrafficCase_pass_iff hbefore htraffic hafter).mpr ⟨hbytes, hwindows⟩
  · -- any other case by the first event it finds
    rw [runCase_pass_event_iff hgroup hexpect]
    constructor
    · rintro ⟨since, outcome, rows, row, hfound⟩
      exact .judged hgroup since outcome rows row hfound
    · rintro (⟨-, since, outcome, rows, row, hfound⟩ | ⟨group, -⟩)
      · exact ⟨since, outcome, rows, row, hfound⟩
      · exact absurd group hgroup

/-- What a run finds does not depend on the level. -/
theorem FindsFirst.withConfirm {since : Int64} {outcome : TrafficOutcome} {rows : List FwEvent}
    {row : FwEvent} (h : FindsFirst cfg c expect steps since outcome rows row)
    (level : ReportConfirm) :
    FindsFirst (cfg.withConfirm level) c expect steps since outcome rows row where
  reaches :=
    { skip := h.reaches.skip, listeners := h.reaches.listeners
      watermark := h.reaches.watermark, traffic := h.reaches.traffic }
  verdict := h.verdict
  query := h.query
  first := h.first
  sent := h.sent

theorem PassesLocally.withConfirm (h : PassesLocally cfg c expect steps) (level : ReportConfirm) :
    PassesLocally (cfg.withConfirm level) c expect steps := by
  cases h with
  | judged group since outcome rows row found =>
    exact .judged group since outcome rows row (found.withConfirm level)
  | counted group skip before after outcome first traffic second bytes windows =>
    exact .counted group skip before after outcome first traffic second bytes windows

/-- A case passes with a level exactly when it passes locally. -/
theorem passes_iff (hexpect : c.expectEvent = some expect) (level : ReportConfirm) :
    Passes cfg c steps level ↔ PassesLocally cfg c expect steps := by
  rw [Passes, runCase_pass_iff_locally hexpect]
  constructor
  · intro h
    -- putting the level of the configuration back gives the configuration
    exact h.withConfirm cfg.reportConfirm
  · intro h
    exact h.withConfirm level

end Levels

/-- **A PASS means what its level looks for exactly when** the strictest level finds what it looks
for, or the case does not pass locally. -/
theorem strictness_iff (cfg : RunConfig) (c : FwCase) (expect : ExpectEvent) (steps : CaseSteps)
    (hexpect : c.expectEvent = some expect) :
    Strictness cfg c steps ↔
      (PassesLocally cfg c expect steps → Confirmed cfg steps .vsoc) := by
  have hpasses := @passes_iff cfg c expect steps hexpect
  constructor
  · intro h hlocally
    exact h.confirmed .vsoc ((hpasses .vsoc).mpr hlocally)
  · intro h
    refine ⟨fun level hpass => ?_, fun level level' _ hpass => ?_⟩
    · exact (h ((hpasses level).mp hpass)).of_vsoc level
    · exact (hpasses level).mpr ((hpasses level').mp hpass)

/-- A blocked egress connection whose event is sent, with the given server log and VSOC events. -/
def uploadSteps (log events : String) : CaseSteps :=
  { sampleSteps "blocked" [egressRow 2] with logcat := .ok log, curlEvents := .ok events }

/-- An Android setup with a VSOC. -/
def androidConfig : RunConfig :=
  { sampleConfig with
    mode := .android
    vsoc := some ⟨"https://127.0.0.1:8443", none, none, none⟩ }

/-- An upload that neither idps-server nor the VSOC has seen passes at the strictest level. -/
theorem strictness_fails :
    Passes androidConfig egressTcpBlock (uploadSteps "" "[]") .server ∧
    Passes androidConfig egressTcpBlock (uploadSteps "" "[]") .vsoc ∧
    ¬ ∀ cfg c steps, c.expectEvent.isSome = true → Strictness cfg c steps := by
  have hserver : Passes androidConfig egressTcpBlock (uploadSteps "" "[]") .server := by
    unfold Passes
    decide +kernel
  refine ⟨hserver, by unfold Passes; decide +kernel, fun hall => ?_⟩
  obtain ⟨log, hlog, hfound⟩ :=
    (hall androidConfig egressTcpBlock (uploadSteps "" "[]") rfl).confirmed .server hserver rfl
  cases hlog
  exact absurd hfound (by decide)

/-- An upload that idps-server and the VSOC have seen. -/
theorem strictness_iff_seen :
    Strictness androidConfig egressTcpBlock
      (uploadSteps "idps-server: received report" "[\x7b\"ip\":\"10.123.0.1\"\x7d]") :=
  (strictness_iff _ _ egressExpect _ rfl).mpr fun _ =>
    ⟨fun _ => ⟨_, rfl, by decide +kernel⟩, by unfold VsocMentions; decide +kernel⟩

end FwVerify
