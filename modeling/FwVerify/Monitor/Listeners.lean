import FwVerify.Lib.Runs
import FwVerify.Model.Connections

/-!
# Listeners among others

A listener's program is a loop over the times and answers of its turns. Where it runs beside other
processes, its turns come one at a time, between the steps of the others. Whatever these do, the
listener ends as its loop does on the turns it has made.

## Main definitions

* `ListenerPhase` — how far a listener's process has come
* `ListenerStep` — how a step of the whole moves it, and the turn of the loop this is, if it is one
* `turnsOf` — the turns of a run
* `EndsWith` — how the loop ends from where the process is

## Main results

* `EndsWith.step` — the loop from before a step is that from behind it, with its turn in front
* `endsWith_of_run` — a listener ends as its loop does on the turns of the run
-/

set_option autoImplicit false

namespace FwVerify

open Runs

/-- The state of a listener's process. -/
inductive ListenerPhase (σ : Type)
  | waiting
  /-- Its deadline is set, its socket is not open yet. -/
  | starting (deadline : Nat)
  | listening (deadline : Nat) (s : σ)
  | ended (deadline : Nat) (result : Except String σ)

def ListenerPhase.deadline {σ : Type} : ListenerPhase σ → Option Nat
  | .waiting => none
  | .starting deadline | .listening deadline _ | .ended deadline _ => some deadline

section Listener

variable {σ α : Type} (turn : Nat → σ → Nat → α → Turn σ) (fresh : σ) (durationMs : Nat)

/-- How a listener's process is moved, and the turn of its loop this is, if it is one. -/
inductive ListenerStep : ListenerPhase σ → List (Nat × α) → ListenerPhase σ → Prop
  /-- A step of another process. -/
  | stay (phase : ListenerPhase σ) : ListenerStep phase [] phase
  | start (now : Nat) : ListenerStep .waiting [] (.starting (now + durationMs))
  | bind (deadline : Nat) : ListenerStep (.starting deadline) [] (.listening deadline fresh)
  | bindFails (deadline : Nat) (error : String) :
      ListenerStep (.starting deadline) [] (.ended deadline (.error error))
  | goOn {deadline now : Nat} {s s' : σ} {answer : α} (h : turn deadline s now answer = .goOn s') :
      ListenerStep (.listening deadline s) [(now, answer)] (.listening deadline s')
  | finish {deadline now : Nat} {s : σ} {answer : α} {result : Except String σ}
      (h : turn deadline s now answer = .finish result) :
      ListenerStep (.listening deadline s) [(now, answer)] (.ended deadline result)

/-- With these turns the listener's loop ends without a failure, from where the listener is. -/
def EndsWith (phase : ListenerPhase σ) (turns : List (Nat × α)) (deadline : Nat) (s : σ) : Prop :=
  match phase with
  | .waiting =>
    (∃ start, deadline = start + durationMs) ∧
      listenLoop (turn deadline) fresh turns = some (.ok s)
  | .starting deadline' =>
    deadline = deadline' ∧ listenLoop (turn deadline) fresh turns = some (.ok s)
  | .listening deadline' s' =>
    deadline = deadline' ∧ listenLoop (turn deadline) s' turns = some (.ok s)
  | .ended deadline' result => deadline = deadline' ∧ result = .ok s

variable {turn fresh durationMs} {before after : ListenerPhase σ} {turns added : List (Nat × α)}
  {deadline : Nat} {s : σ}

/-- What a step leaves to be done, and the turn it may be. -/
theorem EndsWith.step (h : EndsWith turn fresh durationMs after turns deadline s)
    (hstep : ListenerStep turn fresh durationMs before added after) :
    EndsWith turn fresh durationMs before (added ++ turns) deadline s := by
  cases hstep with
  | stay => exact h
  | start now => exact ⟨⟨now, h.1⟩, h.1 ▸ h.2⟩
  | bind => exact h
  | bindFails => cases h.2
  | goOn hturn =>
    obtain ⟨rfl, hloop⟩ := h
    refine ⟨rfl, ?_⟩
    rw [List.singleton_append, listenLoop, hturn]
    exact hloop
  | finish hturn =>
    obtain ⟨rfl, rfl⟩ := h
    refine ⟨rfl, ?_⟩
    rw [List.singleton_append, listenLoop, hturn]

end Listener

section Runs

variable {ω act σ α : Type} (step : ω → act → Option ω) (turnOf : ω → act → List (Nat × α))

/-- The turns of a listener's loop in a run, from those of its steps. -/
def turnsOf : ω → List act → List (Nat × α)
  | _, [] => []
  | w, a :: acts =>
    match step w a with
    | some t => turnOf w a ++ turnsOf t acts
    | none => []

variable {step turnOf} {ok : ω → act → Prop} {phase : ω → ListenerPhase σ}
  {turn : Nat → σ → Nat → α → Turn σ} {fresh : σ} {durationMs : Nat}

/-- **The turns of a run** are those of the listener's program, in whatever way the run moves its
process step by step. -/
theorem endsWith_of_run
    (hsteps : ∀ w a t, step w a = some t →
      ListenerStep turn fresh durationMs (phase w) (turnOf w a) (phase t))
    {w t : ω} {acts : List act} (hrun : RunUnder step ok w acts t) {deadline : Nat} {s : σ}
    (hended : phase t = .ended deadline (.ok s)) :
    EndsWith turn fresh durationMs (phase w) (turnsOf step turnOf w acts) deadline s := by
  induction hrun with
  | nil w =>
    rw [hended]
    exact ⟨rfl, rfl⟩
  | cons hstep _ _ ih =>
    rw [turnsOf, hstep]
    exact (ih hended).step (hsteps _ _ _ hstep)

end Runs

end FwVerify
