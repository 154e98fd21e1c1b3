import Mathlib.Data.List.Basic

/-!
# Polling loops

A polling loop asks a query until the answer meets a goal or a deadline has passed,
and looks at the deadline only after a query that did not meet the goal. Whatever
the clock does, such a loop makes at least one query; the clock decides how many
more there is time for. `Polls` is the sequence of answers the clock leaves room for,
so the loop below gives up exactly when that sequence is exhausted.

## Main definitions

* `Polls` — a nonempty sequence of answers
* `pollUntil` — the loop

## Main results

* `pollUntil_iff` — the loop succeeds iff one of the answers meets the goal
-/

set_option autoImplicit false

namespace Polling

/-- The answers of the queries a deadline leaves time for: never none. -/
structure Polls (α : Type*) where
  first : α
  rest : List α
  deriving DecidableEq

namespace Polls

variable {α : Type*}

/-- The answers in the order they are polled. -/
def toList (polls : Polls α) : List α := polls.first :: polls.rest

/-- What is made of each answer. -/
def map {β : Type*} (f : α → β) (polls : Polls α) : Polls β := ⟨f polls.first, polls.rest.map f⟩

@[simp] theorem toList_map {β : Type*} (f : α → β) (polls : Polls α) :
    (polls.map f).toList = polls.toList.map f := rfl

@[simp] theorem toList_mk (x : α) (xs : List α) : (Polls.mk x xs).toList = x :: xs := rfl

end Polls

variable {α : Type*}

/-- The loop body: after an answer that misses the goal, either the deadline has passed
(no answer is left) or the loop sleeps and polls again. -/
def pollLoop (goal : α → Bool) : α → List α → Bool
  | answer, [] => goal answer
  | answer, next :: later => if goal answer then true else pollLoop goal next later

/-- Poll until an answer meets the goal (`true`) or the deadline passes (`false`). -/
def pollUntil (goal : α → Bool) (polls : Polls α) : Bool :=
  pollLoop goal polls.first polls.rest

theorem pollLoop_iff (goal : α → Bool) (answer : α) (later : List α) :
    pollLoop goal answer later = true ↔ ∃ x ∈ answer :: later, goal x = true := by
  induction later generalizing answer with
  | nil => simp [pollLoop]
  | cons next later ih =>
    rw [pollLoop]
    split_ifs with h
    · simp [h]
    · rw [ih, List.exists_mem_cons_iff]
      simp [h]

/-- The loop succeeds exactly when one of the answers it has time for meets the goal. -/
theorem pollUntil_iff (goal : α → Bool) (polls : Polls α) :
    pollUntil goal polls = true ↔ ∃ x ∈ polls.toList, goal x = true :=
  pollLoop_iff goal polls.first polls.rest

end Polling
