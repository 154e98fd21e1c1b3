import Mathlib.Logic.Basic
import Mathlib.Data.List.Basic

/-!
# Guarded runs of a partial step function

A system is a partial step function `step : σ → α → Option σ`: an action that is
not enabled in a state gives `none`. A run takes a list of actions one after the
other. `RunUnder` also carries a guard on the state and action of each step, so
that a property which holds only while a condition is respected can be stated
about the runs that respect it.

## Main definitions

* `RunUnder step ok s acts t` — the run `acts` leads from `s` to `t` and every step
  of it meets `ok`
* `Run step s acts t` — the unguarded case
* `foldWhile allowed step s as` — a fold that stops at the first step that is not allowed

## Main results

* `RunUnder.invariant` — what every guarded step preserves, every guarded run preserves
* `RunUnder.append` — runs compose
* `foldWhile_eq_some_iff` — when a fold goes to its end
-/

set_option autoImplicit false

namespace Runs

variable {σ α : Type*} {step : σ → α → Option σ} {ok : σ → α → Prop}
variable {s t u : σ} {acts acts' : List α}

/-- `RunUnder step ok s acts t`: taking `acts` from `s` is possible, ends in `t`, and
meets the guard `ok` at every step. -/
inductive RunUnder (step : σ → α → Option σ) (ok : σ → α → Prop) :
    σ → List α → σ → Prop
  | nil (s : σ) : RunUnder step ok s [] s
  | cons {a : α} {rest : List α} {s t u : σ} :
      step s a = some t → ok s a → RunUnder step ok t rest u →
        RunUnder step ok s (a :: rest) u

/-- A run with no guard on its steps. -/
abbrev Run (step : σ → α → Option σ) : σ → List α → σ → Prop :=
  RunUnder step fun _ _ => True

/-- **Invariant rule.** A property preserved by every step that meets the guard holds at
the end of every run that meets it throughout. -/
theorem RunUnder.invariant {I : σ → Prop}
    (hstep : ∀ s a t, I s → ok s a → step s a = some t → I t)
    (hrun : RunUnder step ok s acts t) (hs : I s) : I t := by
  induction hrun with
  | nil _ => exact hs
  | cons hst hok _ ih => exact ih (hstep _ _ _ hs hok hst)

/-- Runs compose. -/
theorem RunUnder.append (h : RunUnder step ok s acts t)
    (h' : RunUnder step ok t acts' u) : RunUnder step ok s (acts ++ acts') u := by
  induction h with
  | nil _ => exact h'
  | cons hst hok _ ih => exact .cons hst hok (ih h')

/-! ## Folds that may stop -/

section Folds

variable {allowed : σ → α → Bool} {move : σ → α → σ} {as : List α}

/-- Fold as long as the steps are allowed; `none` when one of them is not. -/
def foldWhile (allowed : σ → α → Bool) (move : σ → α → σ) : σ → List α → Option σ
  | s, [] => some s
  | s, a :: as => if allowed s a then foldWhile allowed move (move s a) as else none

/-- **A fold goes to its end** when each step is allowed in the state the fold comes to it in. -/
theorem foldWhile_eq_some_iff :
    foldWhile allowed move s as = some t ↔
      (∀ before a after, as = before ++ a :: after →
        allowed (before.foldl move s) a = true) ∧ as.foldl move s = t := by
  induction as generalizing s with
  | nil =>
    rw [foldWhile, Option.some_inj]
    refine ⟨fun h => ⟨fun before a after hcut => ?_, h⟩, fun h => h.2⟩
    exact absurd hcut.symm (by simp)
  | cons first as ih =>
    rw [foldWhile]
    split_ifs with hfirst
    · rw [ih, List.foldl_cons]
      refine and_congr_left fun _ =>
        ⟨fun h before a after hcut => ?_, fun h before a after hcut => ?_⟩
      · -- the first step of a cut is the first one, or it is a cut of the rest
        cases before with
        | nil =>
          cases hcut
          exact hfirst
        | cons _ before =>
          cases hcut
          exact h before a after rfl
      · exact h (first :: before) a after (by rw [hcut, List.cons_append])
    · refine iff_of_false (fun h => by cases h) fun h => hfirst ?_
      exact h.1 [] first as rfl

end Folds

end Runs
