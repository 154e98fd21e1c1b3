import FwVerify.Model.Catalog
import FwVerify.Verify.Judging

/-!
# Traffic statistics

A traffic case compares two counters before and after its traffic. A counter that a snapshot
lacks is read as 0, so a counter that only shows up afterwards seems to grow.

## Main definitions

* `caseCounters` — the counters of a case
* `Grows`, `SeemsToGrow` — the growth of a counter, and what passes for it

## Main results

* `grew_iff` — what the comparison of the tool decides
* `statistics_backed_iff` — when a PASS is backed by both counters
-/

set_option autoImplicit false

namespace FwVerify

/-! ## Counters -/

/-- A counter of a snapshot, when it is there as an `i64`. -/
def counter (snapshot : Value) (key : String) : Option Int64 :=
  (snapshot.get key).bind Value.asI64

/-- The byte counter and the window counter of a case. -/
def caseCounters (c : FwCase) : String × String :=
  if c.id = "traffic-per-app" then ("egress_bytes", "app_traffic_windows")
  else ("ingress_bytes", "global_traffic_windows")

/-- Both snapshots have the counter, the second a larger one. -/
def Grows (before after : Value) (key : String) : Prop :=
  ∃ b a, counter before key = some b ∧ counter after key = some a ∧ b < a

/-- One of the snapshots lacks the counter, and the other has it above or below the 0 that stands
for it. -/
inductive SeemsToGrow (before after : Value) (key : String) : Prop
  | appears (a : Int64) (missing : counter before key = none) (present : counter after key = some a)
      (positive : 0 < a)
  | vanishes (b : Int64) (present : counter before key = some b)
      (missing : counter after key = none) (negative : b < 0)

section Counters

variable {before after : Value} {key : String}

theorem Grows.not_seems (h : Grows before after key) : ¬ SeemsToGrow before after key := by
  obtain ⟨b, a, hb, ha, -⟩ := h
  rintro (⟨_, hmissing, -, -⟩ | ⟨_, -, hmissing, -⟩)
  · rw [hb] at hmissing
    cases hmissing
  · rw [ha] at hmissing
    cases hmissing

/-- **The comparison of the tool** holds for a counter that grows or seems to. -/
theorem grew_iff : (counter before key).getD 0 < (counter after key).getD 0 ↔
    Grows before after key ∨ SeemsToGrow before after key := by
  constructor
  · intro hlt
    -- a missing counter is read as 0
    cases hbefore : counter before key with
    | none =>
      cases hafter : counter after key with
      | none =>
        rw [hbefore, hafter] at hlt
        exact absurd hlt (by decide)
      | some a =>
        rw [hbefore, hafter] at hlt
        exact .inr (.appears a hbefore hafter hlt)
    | some b =>
      cases hafter : counter after key with
      | none =>
        rw [hbefore, hafter] at hlt
        exact .inr (.vanishes b hbefore hafter hlt)
      | some a =>
        rw [hbefore, hafter] at hlt
        exact .inl ⟨b, a, hbefore, hafter, hlt⟩
  · rintro (⟨b, a, hb, ha, hlt⟩ | ⟨a, hb, ha, hlt⟩ | ⟨b, hb, ha, hlt⟩)
    · rwa [hb, ha]
    · rwa [hb, ha]
    · rwa [hb, ha]

end Counters

/-! ## Runs -/

section Runs

variable {cfg : RunConfig} {c : FwCase} {steps : CaseSteps} {before after : Value}
  {outcome : TrafficOutcome}

/-- A run that gets both snapshots passes when both counters compare larger. -/
theorem runTrafficCase_pass_iff (hbefore : steps.statisticsBefore = .ok before)
    (htraffic : steps.caseTraffic cfg c = .ok outcome)
    (hafter : steps.statisticsAfter = .ok after) :
    (runTrafficCase cfg c steps).result = "PASS" ↔
      (counter before (caseCounters c).1).getD 0 < (counter after (caseCounters c).1).getD 0 ∧
      (counter before (caseCounters c).2).getD 0 < (counter after (caseCounters c).2).getD 0 := by
  rw [runTrafficCase, hbefore, htraffic, hafter]
  by_cases hid : c.id = "traffic-per-app"
  · simp [hid, caseCounters, counter]
  · simp [hid, caseCounters, counter]

end Runs

/-- A PASS is backed by both counters: both are in both snapshots, and both have grown. -/
def BackedByCounters (cfg : RunConfig) (c : FwCase) (steps : CaseSteps) (before after : Value) :
    Prop :=
  (runTrafficCase cfg c steps).result = "PASS" ↔
    Grows before after (caseCounters c).1 ∧ Grows before after (caseCounters c).2

/-- **A PASS is backed by both counters exactly when** it is not the case that each of them grows
or seems to and one of them only seems to. -/
theorem statistics_backed_iff (cfg : RunConfig) (c : FwCase) (steps : CaseSteps)
    (before after : Value) (outcome : TrafficOutcome)
    (hbefore : steps.statisticsBefore = .ok before)
    (htraffic : steps.caseTraffic cfg c = .ok outcome)
    (hafter : steps.statisticsAfter = .ok after) :
    BackedByCounters cfg c steps before after ↔
      ¬ ((SeemsToGrow before after (caseCounters c).1 ∨
          SeemsToGrow before after (caseCounters c).2) ∧
        (Grows before after (caseCounters c).1 ∨ SeemsToGrow before after (caseCounters c).1) ∧
        (Grows before after (caseCounters c).2 ∨ SeemsToGrow before after (caseCounters c).2)) := by
  rw [BackedByCounters, runTrafficCase_pass_iff hbefore htraffic hafter, grew_iff, grew_iff]
  constructor
  · rintro hbacked ⟨hseems, hgrew⟩
    obtain ⟨hbytes, hwindows⟩ := hbacked.mp hgrew
    rcases hseems with hseems | hseems
    · exact hbytes.not_seems hseems
    · exact hwindows.not_seems hseems
  · intro h
    refine ⟨fun hgrew => ⟨?_, ?_⟩, fun hgrows => ⟨.inl hgrows.1, .inl hgrows.2⟩⟩
    · exact hgrew.1.resolve_right fun hseems => h ⟨.inl hseems, hgrew⟩
    · exact hgrew.2.resolve_right fun hseems => h ⟨.inr hseems, hgrew⟩

/-- The statistics case of the catalog for all traffic. -/
def trafficGlobal : FwCase := allCases.get ⟨26, by decide⟩

/-- A snapshot of the counters for all traffic. -/
def countersAt (bytes windows : UInt64) : Value :=
  .object [("ingress_bytes", .number (.posInt bytes)),
    ("global_traffic_windows", .number (.posInt windows))]

/-- Steps in which the traffic is sent between two snapshots. -/
def statisticsSteps (before after : Value) : CaseSteps :=
  { sampleSteps "sent" [] with statisticsBefore := .ok before, statisticsAfter := .ok after }

/-- Counters that are only reported after the traffic make a PASS, whatever they were before. -/
theorem statistics_backed_fails :
    (runTrafficCase sampleConfig trafficGlobal
      (statisticsSteps (.object []) (countersAt 900 7))).result = "PASS" ∧
    ¬ ∀ cfg c steps before after outcome, c.group = .traffic →
        steps.statisticsBefore = .ok before → steps.caseTraffic cfg c = .ok outcome →
        steps.statisticsAfter = .ok after → BackedByCounters cfg c steps before after := by
  have hpass : (runTrafficCase sampleConfig trafficGlobal
      (statisticsSteps (.object []) (countersAt 900 7))).result = "PASS" := by decide +kernel
  refine ⟨hpass, fun hall => ?_⟩
  obtain ⟨⟨b, a, hb, -⟩, -⟩ := (hall _ _ _ _ _ _ rfl rfl rfl rfl).mp hpass
  cases hb

/-- Counters that both snapshots have. -/
theorem statistics_backed_iff_counted :
    BackedByCounters sampleConfig trafficGlobal
      (statisticsSteps (countersAt 100 1) (countersAt 900 2)) (countersAt 100 1)
      (countersAt 900 2) := by
  refine (statistics_backed_iff _ _ _ _ _ _ rfl rfl rfl).mpr fun ⟨hseems, _⟩ => ?_
  have hbytes : Grows (countersAt 100 1) (countersAt 900 2) "ingress_bytes" :=
    ⟨100, 900, rfl, rfl, by decide⟩
  have hwindows : Grows (countersAt 100 1) (countersAt 900 2) "global_traffic_windows" :=
    ⟨1, 2, rfl, rfl, by decide⟩
  rcases hseems with hseems | hseems
  · exact hbytes.not_seems hseems
  · exact hwindows.not_seems hseems

end FwVerify
