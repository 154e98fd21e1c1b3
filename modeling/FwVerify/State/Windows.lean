import FwVerify.Lib.Runs
import FwVerify.State.Rows

/-!
# The window of a case

A case reads the clock before its traffic and later asks for the events newer than that. While the
clock does not go back, and idps-fw stores no event before it has happened, the windows of two
cases do not overlap: an event that one case is judged by is not seen by another, however late it is
stored and however often the cases ask.

## Main definitions

* `Site`, `SiteAct`, `siteStep` — the clock, the table, and the cases that read it
* `ClockKept` — the clock does not go back, and events are stored after they have happened
* `WindowsApart` — what every run keeps

## Main results

* `windowsApart_step` — what a step keeps
* `windows_apart` — no event is seen by two cases
-/

set_option autoImplicit false

namespace FwVerify

open Runs Selection

/-- The answer a case got to a query: the case, its watermark, and the events. -/
structure Answer where
  case : Nat
  since : Int64
  events : Except String (List FwEvent)

/-- The device under a run of cases: its clock, the table of events, the case that runs with its
watermark, and the answers so far. -/
structure Site where
  now : Int64
  db : StateDb
  case : Nat
  since : Option Int64
  answers : List Answer

inductive SiteAct
  /-- The clock is read anew. -/
  | tick (now : Int64)
  /-- idps-fw stores a row. -/
  | store (row : EventRow)
  /-- The next case takes its watermark. -/
  | watermark
  /-- The case asks for the events after its watermark. -/
  | dump
  deriving DecidableEq

section Steps

variable (json : JsonParser) (order : StateOrder) (noRecord : List Value → String)

def siteStep (s : Site) : SiteAct → Option Site
  | .tick now => some { s with now }
  | .store row => some { s with db := { s.db with events := s.db.events ++ [row] } }
  | .watermark => some { s with case := s.case + 1, since := some s.now }
  | .dump => s.since.map fun since =>
      { s with answers := s.answers ++ [⟨s.case, since, dumpEvents json order s.db since noRecord⟩] }

/-- The clock does not go back, and an event is stored after it has happened. -/
def ClockKept (s : Site) : SiteAct → Prop
  | .tick now => s.now ≤ now
  | .store row => row.eventTimeMs ≤ s.now
  | _ => True

/-- The events of an answer, none when the query failed. -/
def Answer.seen (answer : Answer) : List FwEvent := answer.events.toOption.getD []

/-- The answers of a site, and what it is about to answer. -/
structure WindowsApart (s : Site) : Prop where
  stored : ∀ row ∈ s.db.events, row.eventTimeMs ≤ s.now
  since_le : ∀ since, s.since = some since → since ≤ s.now
  case_le : ∀ answer ∈ s.answers, answer.case ≤ s.case
  inside : ∀ answer ∈ s.answers, ∀ ev ∈ answer.seen,
    answer.since < ev.eventTimeMs ∧ ev.eventTimeMs ≤ s.now
  /-- What the cases before have seen is not newer than the watermark. -/
  before : ∀ answer ∈ s.answers, answer.case < s.case → ∀ ev ∈ answer.seen,
    ∀ since, s.since = some since → ev.eventTimeMs ≤ since
  apart : ∀ answer ∈ s.answers, ∀ later ∈ s.answers, answer.case < later.case →
    ∀ ev ∈ answer.seen, ∀ ev' ∈ later.seen, ev.eventTimeMs < ev'.eventTimeMs

variable {json order noRecord} {s t : Site}

/-- The events of an answer are those of the newer rows, if it has any. -/
theorem mem_seen {since : Int64} {case : Nat} {ev : FwEvent}
    (hev : ev ∈ (Answer.mk case since (dumpEvents json order s.db since noRecord)).seen) :
    ∃ row ∈ s.db.events, since < row.eventTimeMs ∧ ev.eventTimeMs = row.eventTimeMs := by
  cases hdump : dumpEvents json order s.db since noRecord with
  | error error =>
    rw [Answer.seen, hdump] at hev
    cases hev
  | ok events =>
    rw [Answer.seen, hdump] at hev
    obtain ⟨row, hrow, hnewer, hevent⟩ := (mem_dumpEvents hdump).mp hev
    exact ⟨row, hrow, hnewer, event_time hevent⟩

theorem WindowsApart.tick (h : WindowsApart s) {now : Int64} (hnow : s.now ≤ now) :
    WindowsApart { s with now } where
  stored row hrow := Int64.le_trans (h.stored row hrow) hnow
  since_le since hsince := Int64.le_trans (h.since_le since hsince) hnow
  case_le := h.case_le
  inside answer hanswer ev hev :=
    ⟨(h.inside answer hanswer ev hev).1, Int64.le_trans (h.inside answer hanswer ev hev).2 hnow⟩
  before := h.before
  apart := h.apart

theorem WindowsApart.store (h : WindowsApart s) {row : EventRow} (hrow : row.eventTimeMs ≤ s.now) :
    WindowsApart { s with db := { s.db with events := s.db.events ++ [row] } } where
  stored row' hrow' := by
    rcases List.mem_append.mp hrow' with hrow' | hrow'
    · exact h.stored row' hrow'
    · rw [List.mem_singleton.mp hrow']
      exact hrow
  since_le := h.since_le
  case_le := h.case_le
  inside := h.inside
  before := h.before
  apart := h.apart

/-- All that has been seen so far is not newer than the next watermark. -/
theorem WindowsApart.watermark (h : WindowsApart s) :
    WindowsApart { s with case := s.case + 1, since := some s.now } where
  stored := h.stored
  since_le since hsince := by
    cases hsince
    exact Int64.le_refl _
  case_le answer hanswer := Nat.le_succ_of_le (h.case_le answer hanswer)
  inside := h.inside
  before answer hanswer _ ev hev since hsince := by
    cases hsince
    exact (h.inside answer hanswer ev hev).2
  apart := h.apart

theorem WindowsApart.dump (h : WindowsApart s) {since : Int64} (hsince : s.since = some since) :
    WindowsApart { s with
      answers := s.answers ++ [⟨s.case, since, dumpEvents json order s.db since noRecord⟩] } where
  stored := h.stored
  since_le := h.since_le
  case_le answer hanswer := by
    rcases List.mem_append.mp hanswer with hanswer | hanswer
    · exact h.case_le answer hanswer
    · rw [List.mem_singleton.mp hanswer]
  inside answer hanswer ev hev := by
    rcases List.mem_append.mp hanswer with hanswer | hanswer
    · exact h.inside answer hanswer ev hev
    · cases List.mem_singleton.mp hanswer
      obtain ⟨row, hrow, hnewer, htime⟩ := mem_seen hev
      rw [htime]
      exact ⟨hnewer, h.stored row hrow⟩
  before answer hanswer hcase ev hev since' hsince' := by
    rcases List.mem_append.mp hanswer with hanswer | hanswer
    · exact h.before answer hanswer hcase ev hev since' hsince'
    · cases List.mem_singleton.mp hanswer
      exact absurd hcase (Nat.lt_irrefl _)
  apart answer hanswer later hlater hcase ev hev ev' hev' := by
    rcases List.mem_append.mp hanswer with hanswer | hanswer
    · rcases List.mem_append.mp hlater with hlater | hlater
      · exact h.apart answer hanswer later hlater hcase ev hev ev' hev'
      · -- the new answer starts behind the watermark, all earlier cases end in front of it
        cases List.mem_singleton.mp hlater
        obtain ⟨row, -, hnewer, htime⟩ := mem_seen hev'
        rw [htime]
        exact Int64.lt_of_le_of_lt (h.before answer hanswer hcase ev hev since hsince) hnewer
    · cases List.mem_singleton.mp hanswer
      rcases List.mem_append.mp hlater with hlater | hlater
      · exact absurd hcase (Nat.not_lt.mpr (h.case_le later hlater))
      · cases List.mem_singleton.mp hlater
        exact absurd hcase (Nat.lt_irrefl _)

theorem windowsApart_step {act : SiteAct} (h : WindowsApart s) (hkept : ClockKept s act)
    (hstep : siteStep json order noRecord s act = some t) : WindowsApart t := by
  cases act with
  | tick now =>
    cases hstep
    exact h.tick hkept
  | store row =>
    cases hstep
    exact h.store hkept
  | watermark =>
    cases hstep
    exact h.watermark
  | dump =>
    obtain ⟨since, hsince, rfl⟩ := Option.map_eq_some_iff.mp hstep
    exact h.dump hsince

/-- A site before its first case. -/
structure Fresh (s : Site) : Prop where
  answers : s.answers = []
  since : s.since = none
  stored : ∀ row ∈ s.db.events, row.eventTimeMs ≤ s.now

theorem Fresh.windowsApart (h : Fresh s) : WindowsApart s where
  stored := h.stored
  since_le since hsince := by
    rw [h.since] at hsince
    cases hsince
  case_le answer hanswer := by
    rw [h.answers] at hanswer
    cases hanswer
  inside answer hanswer := by
    rw [h.answers] at hanswer
    cases hanswer
  before answer hanswer := by
    rw [h.answers] at hanswer
    cases hanswer
  apart answer hanswer := by
    rw [h.answers] at hanswer
    cases hanswer

/-- **No event is seen by two cases.** In every run in which the clock does not go back and idps-fw
stores events after they have happened, a case sees only events that happened after its
watermark, and none that another case sees. -/
theorem windows_apart {acts : List SiteAct} (hfresh : Fresh s)
    (hrun : RunUnder (siteStep json order noRecord) ClockKept s acts t) :
    ∀ answer ∈ t.answers, ∀ ev ∈ answer.seen, answer.since < ev.eventTimeMs ∧
      ∀ other ∈ t.answers, answer.case ≠ other.case → ev ∉ other.seen := by
  have hapart : WindowsApart t :=
    hrun.invariant (fun _ _ _ h hkept hstep => windowsApart_step h hkept hstep) hfresh.windowsApart
  intro answer hanswer ev hev
  refine ⟨(hapart.inside answer hanswer ev hev).1, fun other hother hcase hev' => ?_⟩
  rcases Nat.lt_or_gt_of_ne hcase with hlt | hgt
  · exact absurd (hapart.apart answer hanswer other hother hlt ev hev ev hev') Int64.lt_irrefl
  · exact absurd (hapart.apart other hother answer hanswer hgt ev hev' ev hev) Int64.lt_irrefl

end Steps

/-- A device whose table holds the probes. -/
def probeSite (now : Int64) (events : List FwEvent) (case : Nat) (since : Option Int64)
    (answers : List Answer) : Site where
  now := now
  db := probeDb events
  case := case
  since := since
  answers := answers

/-- What a case gets while the table holds the probe. -/
def probeAnswer (case : Nat) (since : Int64) : Answer where
  case := case
  since := since
  events := dumpEvents jsonParser .stable (probeDb [probeAt 15]) since fun _ => "no record"

/-- The case that was running sees the probe, the next one does not. -/
theorem windows_apart_probe :
    probeAt 15 ∈ (probeAnswer 1 10).seen ∧ probeAt 15 ∉ (probeAnswer 2 20).seen := by
  have hseen : (probeAnswer 1 10).seen = [probeAt 15] := by
    have hnewer : (10 : Int64) < (probeAt 15).eventTimeMs := by decide
    rw [Answer.seen, probeAnswer]
    exact congrArg (fun answer => answer.toOption.getD []) (dumpEvents_probe _ hnewer)
  have hprobe : probeAt 15 ∈ (probeAnswer 1 10).seen := by
    rw [hseen]
    exact List.mem_singleton_self _
  refine ⟨hprobe, ?_⟩
  have hrun : RunUnder (siteStep jsonParser .stable fun _ => "no record") ClockKept
      (probeSite 10 [] 0 none [])
      [.watermark, .tick 20, .store (EventRow.of (probeAt 15) none none), .dump, .watermark, .dump]
      (probeSite 20 [probeAt 15] 2 (some 20) [probeAnswer 1 10, probeAnswer 2 20]) :=
    .cons rfl trivial (.cons rfl (show (10 : Int64) ≤ 20 by decide)
      (.cons rfl (show (15 : Int64) ≤ 20 by decide)
        (.cons rfl trivial (.cons rfl trivial (.cons rfl trivial (.nil _))))))
  have hwindows := windows_apart ⟨rfl, rfl, List.forall_mem_nil _⟩ hrun
  exact (hwindows (probeAnswer 1 10) (List.mem_cons_self ..) _ hprobe).2 (probeAnswer 2 20)
    (List.mem_cons_of_mem _ (List.mem_cons_self ..)) (by decide)

end FwVerify
