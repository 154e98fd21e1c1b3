import Mathlib.Logic.Basic

/-!
# Programs over a state that may stop

A program acts on a state and either ends with a value or stops with an error text; what it
did to the state up to there stays.

## Main definitions

* `Prog σ α` — programs over states `σ` with values in `α`
* `exec` — running one: how it ends, and the state it leaves
* `check` — go on with a result from outside, or stop with its error
* `context` — say in an error what was being done
* `caught` — go on however a program ends

## Main results

* `exec_bind` — a program runs step by step
* `bind_step` — what a fallible step gives, read as a partial one
-/

set_option autoImplicit false

namespace Fallible

/-- Programs over the state that may stop with an error text. -/
abbrev Prog (σ α : Type) := ExceptT String (StateM σ) α

variable {σ α β : Type}

/-- Run a program: how it ends, and the state it leaves behind. -/
def exec (prog : Prog σ α) (s : σ) : Except String α × σ := prog.run.run s

/-- Go on with a result from outside the state, or stop with its error. -/
def check (result : Except String α) : Prog σ α :=
  match result with
  | .ok a => pure a
  | .error error => throw error

/-- Put what was being done in front of an error. -/
def context (what : String) (result : Except String α) : Except String α :=
  result.mapError fun error => s!"{what}: {error}"

/-- The same for an error a program stops with. -/
def withContext (what : String) (prog : Prog σ α) : Prog σ α :=
  ExceptT.mk do return context what (← prog.run)

/-- Go on however a program ends, with its end as a result. -/
def caught (prog : Prog σ α) : Prog σ (Except String α) := ExceptT.mk do return .ok (← prog.run)

section Exec

variable (s : σ)

@[simp] theorem exec_pure (a : α) : exec (pure a : Prog σ α) s = (.ok a, s) := rfl

@[simp] theorem exec_throw (error : String) :
    exec (throw error : Prog σ α) s = (.error error, s) := rfl

@[simp] theorem exec_get : exec (get : Prog σ σ) s = (.ok s, s) := rfl

@[simp] theorem exec_modify (f : σ → σ) :
    exec (modify f : Prog σ PUnit) s = (.ok PUnit.unit, f s) := rfl

/-- A program's continuation runs on what the program left, unless it stopped. -/
@[simp] theorem exec_bind (prog : Prog σ α) (next : α → Prog σ β) :
    exec (prog >>= next) s =
      match exec prog s with
      | (.ok a, s') => exec (next a) s'
      | (.error error, s') => (.error error, s') := by
  rcases hrun : exec prog s with ⟨_ | _, _⟩
  all_goals
    simp only [exec, ExceptT.run_bind, StateT.run_bind] at hrun ⊢
    rw [hrun]
    rfl

@[simp] theorem exec_check (result : Except String α) :
    exec (check result : Prog σ α) s = (result, s) := by
  cases result <;> rfl

@[simp] theorem exec_withContext (what : String) (prog : Prog σ α) :
    exec (withContext what prog) s = (context what (exec prog s).1, (exec prog s).2) := rfl

@[simp] theorem exec_caught (prog : Prog σ α) :
    exec (caught prog) s = (.ok (exec prog s).1, (exec prog s).2) := rfl

@[simp] theorem context_ok (what : String) (a : α) :
    context what (.ok a : Except String α) = .ok a := rfl

@[simp] theorem context_error (what error : String) :
    context what (.error error : Except String α) = .error s!"{what}: {error}" := rfl

@[simp] theorem context_eq_ok {what : String} {result : Except String α} {a : α} :
    context what result = .ok a ↔ result = .ok a := by
  cases result <;> simp

/-- A checked result either stops the program, or is handed on. -/
theorem exec_check_bind (result : Except String α) (next : α → Prog σ β) :
    (∃ error, (∀ a, result ≠ .ok a) ∧ exec (check result >>= next) s = (.error error, s)) ∨
    ∃ a, result = .ok a ∧ exec (check result >>= next) s = exec (next a) s := by
  rw [exec_bind, exec_check]
  cases result with
  | error error => exact .inl ⟨error, nofun, rfl⟩
  | ok a => exact .inr ⟨a, rfl, rfl⟩

end Exec

/-! ## Results as partial ones -/

section Options

variable {ε α β γ : Type}

theorem bind_eq_ok {x : Except ε α} {f : α → Except ε β} {b : β} :
    (x >>= f) = .ok b ↔ ∃ a, x = .ok a ∧ f a = .ok b := by
  cases x with
  | error error =>
    refine iff_of_false (fun h => by cases h) ?_
    rintro ⟨a, ha, -⟩
    cases ha
  | ok a =>
    refine ⟨fun h => ⟨a, rfl, h⟩, ?_⟩
    rintro ⟨a', ha, h⟩
    cases ha
    exact h

theorem toOption_bind (x : Except ε α) (f : α → Except ε β) :
    (x >>= f).toOption = x.toOption.bind fun a => (f a).toOption := by
  cases x <;> rfl

/-- One step of a fallible program, as one of a partial one. -/
theorem bind_step {x : Except ε α} {o : Option α} {f : α → Except ε β} {g : β → Option γ}
    {f' : α → Option γ} (hx : x.toOption = o) (hf : ∀ a, (f a).toOption.bind g = f' a) :
    (x >>= f).toOption.bind g = o.bind f' := by
  rw [toOption_bind, hx, Option.bind_assoc]
  exact congrArg _ (funext hf)

@[simp] theorem toOption_context (what : String) (x : Except String α) :
    (context what x).toOption = x.toOption := by
  cases x <;> rfl

theorem toOption_eq_some {x : Except ε α} {a : α} : x.toOption = some a ↔ x = .ok a := by
  cases x with
  | error error => exact iff_of_false (fun h => by cases h) (fun h => by cases h)
  | ok b => exact ⟨fun h => congrArg Except.ok (Option.some_inj.mp h), fun h => by cases h; rfl⟩

theorem isSome_toOption_iff {x : Except ε α} :
    x.toOption.isSome = true ↔ ∃ a, x = .ok a := by
  cases x with
  | error error =>
    refine iff_of_false (fun h => by cases h) ?_
    rintro ⟨a, ha⟩
    cases ha
  | ok a => exact iff_of_true rfl ⟨a, rfl⟩

end Options

end Fallible
