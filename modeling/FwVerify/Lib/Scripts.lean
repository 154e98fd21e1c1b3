import Mathlib.Logic.Relation

/-!
# Scripts of commands that may be cut short

A script issues commands one after the other and goes on according to how each one ends. What
a command does is given by a step relation on the states of the world it acts on. A script may
be cut after any of its commands; what it has done up to there stays.

## Main definitions

* `Script κ α` — scripts of commands `κ` that end with an `α` or an error
* `Steps`, `Cut`, `Ends` — the states a script goes through and the ones it ends in
* `evaluate` — running a script by commands that act on the state
* `Safely` — every state on the way satisfies an invariant, every end a postcondition

## Main results

* `Safely.cut`, `Safely.ends` — what `Safely` says about the runs of a script
* `Safely.bind` — the rule for scripts run one after the other
* `ends_bind` — the runs of a sequence are those of its parts
-/

set_option autoImplicit false

/-- A script: it is done, or issues a command and goes on with the reply. -/
inductive Script (κ α : Type)
  | done (result : Except String α)
  | call (command : κ) (next : Except String Unit → Script κ α)

namespace Script

variable {κ α β σ : Type}

/-- Run a second script when the first one ends without an error. -/
def bind : Script κ α → (α → Script κ β) → Script κ β
  | done (.ok a), next => next a
  | done (.error error), _ => done (.error error)
  | call command reply, next => call command fun result => (reply result).bind next

instance : Monad (Script κ) where
  pure a := done (.ok a)
  bind := bind

/-- Issue a command and stop when it fails. -/
def run (command : κ) (describe : String → String) : Script κ Unit :=
  call command fun
    | .ok () => done (.ok ())
    | .error stderr => done (.error (describe stderr))

/-- Issue a command, whatever comes of it. -/
def ignore (command : κ) : Script κ Unit := call command fun _ => done (.ok ())

/-- Put what was being done in front of the error a script stops with. -/
def context (what : String) : Script κ α → Script κ α
  | done (.ok a) => done (.ok a)
  | done (.error error) => done (.error s!"{what}: {error}")
  | call command next => call command fun result => (next result).context what

/-- Run a script by commands that act on the state. -/
def evaluate (act : κ → σ → Except String Unit × σ) : Script κ α → σ → Except String α × σ
  | done result, s => (result, s)
  | call command next, s => (next (act command s).1).evaluate act (act command s).2

variable (step : κ → σ → Except String Unit → σ → Prop)

/-- A script with the state it acts on, and what is left of it after some commands. -/
inductive Steps : Script κ α → σ → Script κ α → σ → Prop
  | refl (script : Script κ α) (s : σ) : Steps script s script s
  | call {command : κ} {next : Except String Unit → Script κ α} {reply : Except String Unit}
      {script : Script κ α} {s t u : σ} :
      step command s reply t → Steps (next reply) t script u →
        Steps (call command next) s script u

/-- A state the script is in when it is cut after some of its commands. -/
def Cut (script : Script κ α) (s t : σ) : Prop := ∃ rest, Steps step script s rest t

/-- The script runs to its end. -/
def Ends (script : Script κ α) (s : σ) (result : Except String α) (t : σ) : Prop :=
  Steps step script s (done result) t

/-- Every state on the way satisfies `I`, and the script ends as `Q` says. -/
def Safely (I : σ → Prop) (Q : Except String α → σ → Prop) : Script κ α → σ → Prop
  | done result, s => I s ∧ Q result s
  | call command next, s => I s ∧ ∀ reply t, step command s reply t → Safely I Q (next reply) t

section Rules

variable {step} {I : σ → Prop} {Q : Except String α → σ → Prop} {s t : σ}

theorem Safely.start {script : Script κ α} (h : script.Safely step I Q s) : I s := by
  cases script with
  | done result => exact h.1
  | call command next => exact h.1

theorem Safely.steps {script rest : Script κ α} (h : script.Safely step I Q s)
    (hsteps : Steps step script s rest t) : rest.Safely step I Q t := by
  induction hsteps with
  | refl script s => exact h
  | call hstep _ ih => exact ih (h.2 _ _ hstep)

/-- Wherever the script is cut, the invariant holds. -/
theorem Safely.cut {script : Script κ α} (h : script.Safely step I Q s)
    (hcut : script.Cut step s t) : I t := by
  obtain ⟨rest, hsteps⟩ := hcut
  exact (h.steps hsteps).start

/-- However the script ends, the postcondition holds. -/
theorem Safely.ends {script : Script κ α} {result : Except String α}
    (h : script.Safely step I Q s) (hends : script.Ends step s result t) : Q result t :=
  (h.steps hends).2

theorem Safely.mono {Q' : Except String α → σ → Prop} {script : Script κ α}
    (h : script.Safely step I Q s) (hpost : ∀ result t, I t → Q result t → Q' result t) :
    script.Safely step I Q' s := by
  induction script generalizing s with
  | done result => exact ⟨h.1, hpost result s h.1 h.2⟩
  | call command next ih =>
    exact ⟨h.1, fun reply t hstep => ih reply (h.2 reply t hstep)⟩

/-- Scripts run one after the other: an error of the first one ends both. -/
theorem Safely.bind {R : Except String β → σ → Prop} {script : Script κ α}
    {next : α → Script κ β} (h : script.Safely step I Q s)
    (hok : ∀ a t, Q (.ok a) t → (next a).Safely step I R t)
    (herror : ∀ error t, Q (.error error) t → R (.error error) t) :
    (script >>= next).Safely step I R s := by
  change (script.bind next).Safely step I R s
  induction script generalizing s with
  | done result =>
    cases result with
    | ok a => exact hok a s h.2
    | error error => exact ⟨h.1, herror error s h.2⟩
  | call command reply ih =>
    exact ⟨h.1, fun result t hstep => ih result (h.2 result t hstep)⟩

/-- Naming what was being done in an error changes no run. -/
theorem Safely.context {R : Except String α → σ → Prop} {script : Script κ α} {what : String}
    (h : script.Safely step I Q s) (hok : ∀ a t, Q (.ok a) t → R (.ok a) t)
    (herror : ∀ error t, Q (.error error) t → R (.error s!"{what}: {error}") t) :
    (script.context what).Safely step I R s := by
  induction script generalizing s with
  | done result =>
    cases result with
    | ok a => exact ⟨h.1, hok a s h.2⟩
    | error error => exact ⟨h.1, herror error s h.2⟩
  | call command reply ih =>
    exact ⟨h.1, fun result t hstep => ih result (h.2 result t hstep)⟩

/-- A command that must succeed: where it does, the postcondition holds of its effect. -/
theorem Safely.run {Q : Except String Unit → σ → Prop} {command : κ}
    {describe : String → String} (hs : I s)
    (hok : ∀ t, step command s (.ok ()) t → I t ∧ Q (.ok ()) t)
    (herror : ∀ stderr t, step command s (.error stderr) t →
      I t ∧ Q (.error (describe stderr)) t) :
    (Script.run command describe).Safely step I Q s := by
  refine ⟨hs, fun reply t hstep => ?_⟩
  cases reply with
  | ok _ => exact hok t hstep
  | error stderr => exact herror stderr t hstep

/-- A command whose outcome is ignored. -/
theorem Safely.ignore {Q : Except String Unit → σ → Prop} {command : κ} (hs : I s)
    (hany : ∀ reply t, step command s reply t → I t ∧ Q (.ok ()) t) :
    (Script.ignore command).Safely step I Q s :=
  ⟨hs, fun reply t hstep => hany reply t hstep⟩

end Rules

section Runs

variable {step} {s t : σ}

/-- The runs of a sequence: the first part ends and the second one goes on, or the first part
stops with an error. -/
theorem ends_bind {script : Script κ α} {next : α → Script κ β} {result : Except String β} :
    (script >>= next).Ends step s result t ↔
      (∃ a u, script.Ends step s (.ok a) u ∧ (next a).Ends step u result t) ∨
      ∃ error, result = .error error ∧ script.Ends step s (.error error) t := by
  change Steps step (script.bind next) s (done result) t ↔ _
  induction script generalizing s with
  | done first =>
    cases first with
    | ok a =>
      constructor
      · intro h
        exact .inl ⟨a, s, .refl _ _, h⟩
      · rintro (⟨a', u, hfirst, hnext⟩ | ⟨error, -, hfirst⟩)
        · cases hfirst
          exact hnext
        · cases hfirst
    | error error =>
      constructor
      · intro h
        cases h
        exact .inr ⟨error, rfl, .refl _ _⟩
      · rintro (⟨a', u, hfirst, -⟩ | ⟨error', rfl, hfirst⟩)
        · cases hfirst
        · cases hfirst
          exact .refl _ _
  | call command reply ih =>
    constructor
    · intro h
      cases h with
      | call hstep hrest =>
        rcases (ih _).mp hrest with ⟨a, u, hfirst, hnext⟩ | ⟨error, rfl, hfirst⟩
        · exact .inl ⟨a, u, .call hstep hfirst, hnext⟩
        · exact .inr ⟨error, rfl, .call hstep hfirst⟩
    · rintro (⟨a, u, hfirst, hnext⟩ | ⟨error, rfl, hfirst⟩)
      · cases hfirst with
        | call hstep hrest =>
          exact .call hstep ((ih _).mpr (.inl ⟨a, u, hrest, hnext⟩))
      · cases hfirst with
        | call hstep hrest =>
          exact .call hstep ((ih _).mpr (.inr ⟨error, rfl, hrest⟩))

/-- Running a script by commands that each end in one allowed way is one of its runs. -/
theorem ends_evaluate {act : κ → σ → Except String Unit × σ}
    (hact : ∀ command s, step command s (act command s).1 (act command s).2)
    (script : Script κ α) (s : σ) :
    script.Ends step s (script.evaluate act s).1 (script.evaluate act s).2 := by
  induction script generalizing s with
  | done result => exact .refl _ _
  | call command next ih => exact .call (hact command s) (ih _ _)

end Runs

end Script
