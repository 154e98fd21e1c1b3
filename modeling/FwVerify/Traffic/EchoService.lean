import FwVerify.Monitor.Listeners
import FwVerify.Traffic.EchoWire
import FwVerify.Traffic.Errors
import FwVerify.Traffic.Tallies

/-!
# What an echo shows

For a UDP case the listener echoes what it receives, and the worker on the other side takes an echo
for a success. The two run side by side with what is between them: a network that lets datagrams in
and their echoes out, or loses them, in any order and as late as it likes, so that an echo may come
when the probe it belongs to has been given up. It makes no datagrams of its own, and nobody else
sends to the two. In whatever order all this happens, no success is reported that was not let
through.

## Main definitions

* `EchoSite`, `EchoAct`, `echoStep` — the worker, the listener, and the wire between them
* `EchoesKept` — what every run keeps

## Main results

* `echoesKept_step` — what a step keeps
* `echoes_show_passage` — what the two programs say about the datagrams that were let through
-/

set_option autoImplicit false

namespace FwVerify

open Runs

/-! ## The two sides -/

/-- The state of the worker's process. -/
inductive EchoWorker
  | ready
  /-- A datagram is sent, and its echo is awaited. -/
  | awaiting
  /-- A call that is no receive has failed, and with it the run. -/
  | stopped
  deriving DecidableEq

/-- The two sides, and what is between them. -/
structure EchoSite where
  now : Nat
  listener : ListenerPhase UdpListener
  worker : EchoWorker
  /-- How many probes have been sent. -/
  sent : Nat
  /-- How the receives of the worker have ended. -/
  answers : List (Except IoError (List UInt8))
  wire : Wire

/-- What happens next: time passes, one of the sides takes a step, or the network lets a datagram
pass or loses it. -/
inductive EchoAct
  | tick (ms : Nat)
  | startListener
  | bind (result : Except String Unit)
  /-- A turn of the receive loop. The answer is that of the socket unless the call fails. -/
  | turn (failure : Option String)
  | send
  | stop
  /-- The receive of the worker ends without a datagram. -/
  | giveUp (error : IoError)
  | letIn (d : Datagram)
  | loseRequest (d : Datagram)
  | letOut (d : Datagram)
  /-- An echo is lost, or was never sent because the call failed. -/
  | loseReply (d : Datagram)

/-- What a receive of the listener finds in its socket. -/
def receiveAnswer (queue : List Datagram) : Option String → Receive
  | some error => .failed error
  | none =>
    match queue with
    | d :: _ => .datagram d.peer d.bytes
    | [] => .idle

section Steps

variable (listen : ListenArgs) (targets : List UInt16) (addr : Nat → String)

/-- An echo that comes to the worker's side is received when a receive is waiting at the socket of
its address, and this socket is connected to the listener's port. -/
def EchoSite.hear (d : Datagram) (w : EchoSite) : EchoSite :=
  if w.worker = .awaiting ∧ d.peer = addr w.answers.length ∧
      targets[w.answers.length]? = some listen.port then
    { w with worker := .ready, answers := w.answers ++ [.ok (d.bytes.take 128)] }
  else w

/-- A step, for probes to the given ports from sockets of the given addresses. -/
def echoStep (w : EchoSite) : EchoAct → Option EchoSite
  | .tick ms => some { w with now := w.now + ms }
  | .startListener =>
    match w.listener with
    | .waiting => some { w with listener := .starting (w.now + listen.durationMs) }
    | _ => none
  | .bind result =>
    match w.listener with
    | .starting deadline =>
      some { w with listener := match result with
        | .ok () => .listening deadline ⟨0, []⟩
        | .error error => .ended deadline (.error error) }
    | _ => none
  | .turn failure =>
    match w.listener with
    | .listening deadline s =>
      match listenUdpTurn deadline s w.now (receiveAnswer w.wire.queue failure) with
      | .goOn s' =>
        some { w with
          listener := .listening deadline s'
          wire := w.wire.echo (s'.replies.drop s.replies.length) }
      | .finish result => some { w with listener := .ended deadline result, wire := w.wire.close }
    | _ => none
  | .send =>
    if w.worker = .ready ∧ w.sent < targets.length then
      some { w with
        worker := .awaiting
        sent := w.sent + 1
        wire := w.wire.send ⟨w.sent, addr w.sent, probeBytes⟩ }
    else none
  | .stop => if w.worker = .stopped then none else some { w with worker := .stopped }
  | .giveUp error =>
    if w.worker = .awaiting then
      some { w with worker := .ready, answers := w.answers ++ [.error error] }
    else none
  | .letIn d =>
    match w.listener with
    | .listening .. =>
      -- it is for the listener when its port is the listener's
      if d ∈ w.wire.requests ∧ targets[d.probe]? = some listen.port then
        some { w with wire := w.wire.enter d }
      else none
    | _ => none
  | .loseRequest d => some { w with wire.requests := w.wire.requests.erase d }
  | .letOut d =>
    if d ∈ w.wire.replies then
      some (EchoSite.hear listen targets addr d { w with wire := w.wire.leave d })
    else none
  | .loseReply d => some { w with wire.replies := w.wire.replies.erase d }

/-- The two sides before they are started. -/
def EchoSite.before (now : Nat) : EchoSite := ⟨now, .waiting, .ready, 0, [], ⟨0, [], 0, [], []⟩⟩

/-- How the calls of an attempt end: its datagram is sent, and its receive ends as it did. A run
that has not come to an attempt is not over. -/
def EchoSite.calls (w : EchoSite) (index : Nat) : SocketCalls :=
  match w.answers[index]? with
  | some answer => answering (.ok ()) answer
  | none => answering (.error ⟨.other, "not made"⟩) (.ok [])

/-! ## What every run keeps -/

variable {listen targets addr} {d : Datagram}

/-- The listener's part of a run; nothing is let in before it listens. -/
def CountsKept (w : EchoSite) : Prop :=
  match w.listener with
  | .waiting | .starting _ => Between w.wire 0 ∧ w.wire.letIn = []
  | .listening _ s | .ended _ (.ok s) => Between w.wire s.echoed
  | .ended _ (.error _) => True

/-- The worker waits for the answer to the probe it has sent last. -/
def Paced (w : EchoSite) : Prop :=
  match w.worker with
  | .ready => w.sent = w.answers.length
  | .awaiting => w.sent = w.answers.length + 1
  | .stopped => True

variable (listen targets addr) in
/-- What a probe to the listener's port may receive: its own echo, or that of an earlier probe from
the same address. -/
def Receives (letOut : List Nat) (i : Nat) (bytes : List UInt8) : Prop :=
  bytes = probeBytes ∧ targets[i]? = some listen.port ∧ ∃ j ∈ letOut, j ≤ i ∧ addr j = addr i

variable (listen targets addr) in
/-- The worker's part: each echo ends one receive at most. -/
structure AnswersKept (letOut : List Nat)
    (answers : List (Except IoError (List UInt8))) : Prop where
  few : answers.countP (·.toOption.isSome) ≤ letOut.length
  own : ∀ (i : Nat) (bytes : List UInt8), answers[i]? = some (.ok bytes) →
    Receives listen targets addr letOut i bytes

variable (listen targets addr) in
/-- What every run keeps. -/
structure EchoesKept (w : EchoSite) : Prop where
  wire : WireKept listen targets addr w.sent w.wire
  counts : CountsKept w
  paced : Paced w
  answers : AnswersKept listen targets addr w.wire.letOut w.answers

/-- Where the wire only loses datagrams, the counts stay between. -/
theorem CountsKept.of_wire {w t : EchoSite} (h : CountsKept w) (hlistener : t.listener = w.listener)
    (hletIn : t.wire.letIn = w.wire.letIn)
    (hwire : ∀ echoed, Between w.wire echoed → Between t.wire echoed) : CountsKept t := by
  rw [CountsKept, hlistener, hletIn]
  rw [CountsKept] at h
  cases hphase : w.listener with
  | waiting | starting =>
    rw [hphase] at h
    exact ⟨hwire 0 h.1, h.2⟩
  | listening deadline s =>
    rw [hphase] at h
    exact hwire _ h
  | ended deadline result =>
    rw [hphase] at h
    cases result with
    | ok s => exact hwire _ h
    | error => trivial

theorem Receives.mono {letOut letOut' : List Nat} {i : Nat} {bytes : List UInt8}
    (h : Receives listen targets addr letOut i bytes) (hletOut : letOut ⊆ letOut') :
    Receives listen targets addr letOut' i bytes := by
  obtain ⟨hbytes, hport, j, hj, hle, haddr⟩ := h
  exact ⟨hbytes, hport, j, hletOut hj, hle, haddr⟩

section Answers

variable {letOut letOut' : List Nat} {answers : List (Except IoError (List UInt8))}

/-- One more receive ends. -/
theorem AnswersKept.append (h : AnswersKept listen targets addr letOut answers)
    (hletOut : letOut ⊆ letOut') {answer : Except IoError (List UInt8)}
    (hfew : letOut.length + [answer].countP (·.toOption.isSome) ≤ letOut'.length)
    (hown : ∀ bytes, answer = .ok bytes →
      Receives listen targets addr letOut' answers.length bytes) :
    AnswersKept listen targets addr letOut' (answers ++ [answer]) := by
  constructor
  · rw [List.countP_append]
    exact le_trans (Nat.add_le_add_right h.few _) hfew
  · intro i bytes hi
    rw [List.getElem?_append] at hi
    split_ifs at hi with hbefore
    · exact (h.own i bytes hi).mono hletOut
    · obtain ⟨hlast, hanswer⟩ := List.getElem?_eq_some_iff.mp hi
      have hi : i = answers.length := by
        rw [List.length_singleton] at hlast
        omega
      subst hi
      exact hown bytes (by simpa using hanswer)

/-- Echoes that come out change nothing in what was received. -/
theorem AnswersKept.mono (h : AnswersKept listen targets addr letOut answers)
    (hletOut : letOut.Sublist letOut') : AnswersKept listen targets addr letOut' answers :=
  ⟨h.few.trans hletOut.length_le, fun i bytes hi => (h.own i bytes hi).mono hletOut.subset⟩

/-- An echo comes to the worker's side. -/
theorem AnswersKept.hear {w : EchoSite} (h : AnswersKept listen targets addr letOut w.answers)
    (hpeer : d.peer = addr d.probe) (hbytes : d.bytes = probeBytes) (hsent : d.probe < w.sent)
    (hpaced : Paced w) :
    AnswersKept listen targets addr (letOut ++ [d.probe])
      (EchoSite.hear listen targets addr d w).answers := by
  rw [EchoSite.hear]
  split_ifs with hheard
  · obtain ⟨hawaiting, haddr, hport⟩ := hheard
    -- the echo's probe was sent, and the last one sent is the one that waits
    rw [Paced, hawaiting] at hpaced
    refine h.append (List.subset_append_left _ _) ?_ fun bytes hanswer => ?_
    · rw [List.length_append]
      exact Nat.add_le_add_left List.countP_le_length _
    · cases hanswer
      refine ⟨?_, hport, d.probe, List.mem_append_right _ List.mem_cons_self, by omega, ?_⟩
      · rw [hbytes]
        decide
      · rw [← hpeer, haddr]
  · exact h.mono (List.sublist_append_left _ _)

end Answers

theorem hear_kept (d : Datagram) (w : EchoSite) :
    (EchoSite.hear listen targets addr d w).listener = w.listener ∧
      (EchoSite.hear listen targets addr d w).sent = w.sent ∧
      (EchoSite.hear listen targets addr d w).wire = w.wire := by
  rw [EchoSite.hear]
  split_ifs
  · exact ⟨rfl, rfl, rfl⟩
  · exact ⟨rfl, rfl, rfl⟩

/-- A receive that ends makes the worker ready for the next probe. -/
theorem Paced.hear {w : EchoSite} (h : Paced w) (d : Datagram) :
    Paced (EchoSite.hear listen targets addr d w) := by
  rw [EchoSite.hear]
  split_ifs with hheard
  · rw [Paced, hheard.1] at h
    rw [Paced, List.length_append]
    exact h
  · exact h

/-- What a turn of the receive loop does: it echoes the head of the queue, or is idle; or the loop
is over, and the socket closed. -/
theorem turn_cases {w t : EchoSite} {failure : Option String}
    (hstep : echoStep listen targets addr w (.turn failure) = some t) :
    ∃ deadline s, w.listener = .listening deadline s ∧
      ((∃ d later, w.wire.queue = d :: later ∧
          t = { w with
            listener := .listening deadline
              ⟨s.echoed + 1, s.replies ++ [(d.peer, d.bytes.take 2048)]⟩
            wire := w.wire.echo [(d.peer, d.bytes.take 2048)] }) ∨
        (w.wire.queue = [] ∧ t = w) ∨
        ∃ result, (result = .ok s ∨ ∃ error, result = .error error) ∧
          t = { w with listener := .ended deadline result, wire := w.wire.close }) := by
  obtain ⟨now, listener, worker, sent, answers, wire⟩ := w
  cases listener with
  | waiting | starting | ended => cases hstep
  | listening deadline s =>
    refine ⟨deadline, s, rfl, ?_⟩
    simp only [echoStep, listenUdpTurn] at hstep
    by_cases hdue : now < deadline
    · rw [if_pos hdue] at hstep
      cases failure with
      | some error =>
        cases hstep
        exact .inr (.inr ⟨_, .inr ⟨_, rfl⟩, rfl⟩)
      | none =>
        cases hqueue : wire.queue with
        | nil =>
          simp only [hqueue, receiveAnswer, UdpListener.receive, Wire.echo_of_empty hqueue] at hstep
          cases hstep
          exact .inr (.inl ⟨rfl, rfl⟩)
        | cons d later =>
          simp only [hqueue, receiveAnswer, UdpListener.receive, List.drop_left] at hstep
          cases hstep
          exact .inl ⟨d, later, rfl, rfl⟩
    · rw [if_neg hdue] at hstep
      cases hstep
      exact .inr (.inr ⟨_, .inl rfl, rfl⟩)

/-- A turn of the receive loop. -/
theorem EchoesKept.turn {w t : EchoSite} {failure : Option String}
    (h : EchoesKept listen targets addr w)
    (hstep : echoStep listen targets addr w (.turn failure) = some t) :
    EchoesKept listen targets addr t := by
  obtain ⟨hwire, hcounts, hpaced, hanswers⟩ := h
  obtain ⟨deadline, s, hphase, ⟨d, later, hqueue, rfl⟩ | ⟨-, rfl⟩ | ⟨result, hresult, rfl⟩⟩ :=
    turn_cases hstep
  · obtain ⟨hwire, hreplies⟩ := hwire.echo hqueue
    refine ⟨hwire, ?_, hpaced, hanswers⟩
    rw [CountsKept, hphase] at hcounts
    obtain ⟨hout, hin⟩ := hcounts
    rw [hqueue, List.length_cons] at hin
    refine ⟨?_, ?_⟩
    · rw [hreplies, Multiset.card_cons]
      exact Nat.succ_le_succ hout
    · change s.echoed + 1 + (w.wire.queue.tail).length ≤ w.wire.letIn.length
      rw [hqueue, List.tail_cons]
      omega
  · exact ⟨hwire, hcounts, hpaced, hanswers⟩
  · refine ⟨hwire.lose le_rfl (Multiset.zero_le _) le_rfl rfl rfl, ?_, hpaced, hanswers⟩
    rw [CountsKept, hphase] at hcounts
    rcases hresult with rfl | ⟨error, rfl⟩
    · exact Between.lose hcounts (Nat.zero_le _) le_rfl rfl rfl
    · trivial

/-- The echo of a probe comes out. -/
theorem EchoesKept.letOut {w t : EchoSite} (h : EchoesKept listen targets addr w)
    (hstep : echoStep listen targets addr w (.letOut d) = some t) :
    EchoesKept listen targets addr t := by
  obtain ⟨hwire, hcounts, hpaced, hanswers⟩ := h
  simp only [echoStep] at hstep
  split_ifs at hstep with hd
  cases hstep
  obtain ⟨hlistener, hsent, hleft⟩ :=
    @hear_kept listen targets addr d { w with wire := w.wire.leave d }
  have honWay : d ∈ w.wire.onWay := Multiset.mem_add.mpr (.inr hd)
  obtain ⟨hpeer, hbytes⟩ := hwire.own d honWay
  have hbefore : d.probe < w.sent :=
    hwire.lt_sent (Multiset.mem_add.mpr (.inl (Multiset.mem_map_of_mem _ honWay)))
  have hpaced : Paced { w with wire := w.wire.leave d } := hpaced
  refine ⟨?_, ?_, hpaced.hear d, ?_⟩
  · rw [hsent, hleft]
    exact hwire.leave hd
  · refine hcounts.of_wire hlistener (by rw [hleft]; rfl) fun echoed h => ?_
    rw [hleft]
    exact h.leave hd
  · rw [hleft]
    exact AnswersKept.hear (w := { w with wire := w.wire.leave d }) hanswers hpeer hbytes hbefore
      hpaced

/-- **What a step keeps.** -/
theorem echoesKept_step {w t : EchoSite} {act : EchoAct} (h : EchoesKept listen targets addr w)
    (hstep : echoStep listen targets addr w act = some t) : EchoesKept listen targets addr t := by
  have hkept := h
  obtain ⟨hwire, hcounts, hpaced, hanswers⟩ := h
  cases act with
  | tick ms =>
    cases hstep
    exact ⟨hwire, hcounts, hpaced, hanswers⟩
  | startListener =>
    cases hphase : w.listener <;> simp only [echoStep, hphase] at hstep <;> cases hstep
    rw [CountsKept, hphase] at hcounts
    exact ⟨hwire, hcounts, hpaced, hanswers⟩
  | bind result =>
    cases hphase : w.listener <;> simp only [echoStep, hphase] at hstep <;> cases hstep
    rw [CountsKept, hphase] at hcounts
    refine ⟨hwire, ?_, hpaced, hanswers⟩
    cases result with
    | ok => exact hcounts.1
    | error error => trivial
  | turn failure => exact hkept.turn hstep
  | send =>
    simp only [echoStep] at hstep
    split_ifs at hstep with hready
    cases hstep
    rw [Paced, hready.1] at hpaced
    exact ⟨hwire.send, hcounts.of_wire rfl rfl fun _ h => h, congrArg (· + 1) hpaced, hanswers⟩
  | stop =>
    simp only [echoStep] at hstep
    split_ifs at hstep
    cases hstep
    exact ⟨hwire, hcounts, trivial, hanswers⟩
  | giveUp error =>
    simp only [echoStep] at hstep
    split_ifs at hstep with hawaiting
    cases hstep
    rw [Paced, hawaiting] at hpaced
    refine ⟨hwire, hcounts, ?_,
      hanswers.append (List.Subset.refl _) le_rfl fun _ h => (by cases h)⟩
    rw [Paced, List.length_append]
    exact hpaced
  | letIn d =>
    cases hphase : w.listener <;> simp only [echoStep, hphase] at hstep
    case listening deadline s =>
      split_ifs at hstep with hopen
      cases hstep
      refine ⟨hwire.enter hopen.1 hopen.2, ?_, hpaced, hanswers⟩
      rw [CountsKept, hphase] at hcounts
      exact Between.enter hcounts d
    all_goals cases hstep
  | loseRequest d =>
    cases hstep
    have hless := Multiset.erase_le d w.wire.requests
    exact ⟨hwire.lose hless le_rfl le_rfl rfl rfl, hcounts.of_wire rfl rfl fun _ h => h, hpaced,
      hanswers⟩
  | letOut d => exact hkept.letOut hstep
  | loseReply d =>
    cases hstep
    have hless := Multiset.erase_le d w.wire.replies
    exact ⟨hwire.lose le_rfl le_rfl hless rfl rfl,
      hcounts.of_wire rfl rfl fun _ h => h.lose le_rfl hless rfl rfl, hpaced, hanswers⟩

theorem echoesKept_before (now : Nat) : EchoesKept listen targets addr (.before now) where
  wire := ⟨Multiset.nodup_zero, fun _ h => absurd h (Multiset.notMem_zero _),
    fun _ h => absurd h (Multiset.notMem_zero _), fun _ h => absurd h (Multiset.notMem_zero _),
    fun _ h => absurd h List.not_mem_nil, List.nodup_nil, fun _ h => absurd h List.not_mem_nil⟩
  counts := ⟨⟨le_rfl, le_rfl⟩, rfl⟩
  paced := rfl
  answers := ⟨le_rfl, fun _ _ h => (by simp [EchoSite.before] at h)⟩

/-! ## The listener's program -/

/-- The turn of the receive loop a step is, if it is one. -/
def echoTurnOf (w : EchoSite) (act : EchoAct) : List (Nat × Receive) :=
  match w.listener, act with
  | .listening .., .turn failure => [(w.now, receiveAnswer w.wire.queue failure)]
  | _, _ => []

/-- A step of the worker, of the network, or of time, leaves the listener where it is. -/
theorem listenerStep_of_same {w t : EchoSite} {act : EchoAct} (hlistener : t.listener = w.listener)
    (hact : ∀ failure, act ≠ .turn failure) :
    ListenerStep listenUdpTurn ⟨0, []⟩ listen.durationMs w.listener (echoTurnOf w act)
      t.listener := by
  have hnone : echoTurnOf w act = [] := by
    unfold echoTurnOf
    split
    · next failure _ => exact absurd rfl (hact failure)
    · rfl
  rw [hnone, hlistener]
  exact .stay _

/-- What a step does to the listener. -/
theorem listenerStep_of_echoStep (w : EchoSite) (act : EchoAct) (t : EchoSite)
    (hstep : echoStep listen targets addr w act = some t) :
    ListenerStep listenUdpTurn ⟨0, []⟩ listen.durationMs w.listener (echoTurnOf w act)
      t.listener := by
  cases act with
  | tick ms =>
    cases hstep
    exact listenerStep_of_same rfl fun _ h => (by cases h)
  | startListener =>
    obtain ⟨now, listener, worker, sent, answers, wire⟩ := w
    cases listener with
    | waiting =>
      cases hstep
      exact .start now
    | starting | listening | ended => cases hstep
  | bind bound =>
    obtain ⟨now, listener, worker, sent, answers, wire⟩ := w
    cases listener with
    | starting deadline =>
      cases hstep
      cases bound with
      | ok => exact .bind deadline
      | error error => exact .bindFails deadline error
    | waiting | listening | ended => cases hstep
  | turn failure =>
    obtain ⟨now, listener, worker, sent, answers, wire⟩ := w
    cases listener with
    | listening deadline s =>
      simp only [echoStep] at hstep
      -- the loop goes on, or is over
      cases hturn : listenUdpTurn deadline s now (receiveAnswer wire.queue failure) with
      | goOn s' =>
        rw [hturn] at hstep
        cases hstep
        exact .goOn hturn
      | finish result =>
        rw [hturn] at hstep
        cases hstep
        exact .finish hturn
    | waiting | starting | ended => cases hstep
  | send | stop | giveUp =>
    simp only [echoStep] at hstep
    split_ifs at hstep
    cases hstep
    exact listenerStep_of_same rfl fun _ h => (by cases h)
  | letIn d =>
    obtain ⟨now, listener, worker, sent, answers, wire⟩ := w
    cases listener with
    | listening deadline s =>
      simp only [echoStep] at hstep
      split_ifs at hstep
      cases hstep
      exact .stay _
    | waiting | starting | ended => cases hstep
  | letOut d =>
    simp only [echoStep] at hstep
    split_ifs at hstep
    cases hstep
    exact listenerStep_of_same (hear_kept d _).1 fun _ h => (by cases h)
  | loseRequest | loseReply =>
    cases hstep
    exact listenerStep_of_same rfl fun _ h => (by cases h)

end Steps

/-! ## The worker's program -/

section Worker

variable {args : TrafficArgs} {pid : UInt32} {ports : List UInt16} {w : EchoSite}

/-- The ports of a run's probes, in their order. -/
def probePorts (args : TrafficArgs) (ports : List UInt16) : List UInt16 :=
  ports.flatMap fun port => List.replicate (max args.count 1).toNat port

theorem firesParallel_udp (hudp : args.proto = .udp) : firesParallel args ports = false := by
  rw [firesParallel, hudp]
  rfl

/-- The probes of a UDP run. -/
theorem probes_udp (hudp : args.proto = .udp) :
    args.probes pid ports =
      (probePorts args ports).map fun port => .datagram port args.sport args.awaitReply := by
  have hloop (seq finOffset : UInt16) (targets : List UInt16) :
      sequentialLoop args pid seq finOffset targets =
        targets.map fun port => .datagram port args.sport args.awaitReply := by
    induction targets with
    | nil => rfl
    | cons port later ih =>
      rw [sequentialLoop, hudp]
      dsimp only
      rw [ih, List.map_cons]
  rw [TrafficArgs.probes, firesParallel_udp hudp, if_neg Bool.false_ne_true, sequentialProbes,
    hloop]
  rfl

/-- An attempt that has an outcome has an answer, and succeeds on a datagram only. -/
theorem answer_of_attempt {dst : IpAddr} {port : UInt16} {sport : Option UInt16} {index : Nat}
    {outcome : Outcome}
    (hattempt : (Probe.datagram port sport true).attempt dst (w.calls index) = .ok outcome) :
    ∃ answer, w.answers[index]? = some answer ∧
      (outcome = .success → answer.toOption.isSome) := by
  rw [EchoSite.calls] at hattempt
  cases hanswer : w.answers[index]? with
  | none =>
    rw [hanswer] at hattempt
    cases hattempt
  | some answer =>
    rw [hanswer] at hattempt
    refine ⟨answer, rfl, ?_⟩
    cases answer with
    | ok bytes => exact fun _ => rfl
    | error error =>
      have houtcome : classifyIo error = outcome := Except.ok.inj hattempt
      exact fun hsuccess => absurd (houtcome.trans hsuccess) (classifyIo_ne_success error)

/-- A run reports no more successes than datagrams it received. -/
theorem successes_le {dst : IpAddr} {sport : Option UInt16} {targets : List UInt16} {k : Nat}
    {outcomes : List Outcome}
    (h : List.Forall₂
      (fun entry outcome => Probe.attempt dst (w.calls entry.2) entry.1 = .ok outcome)
      ((targets.map fun port => Probe.datagram port sport true).zipIdx k) outcomes) :
    outcomes.count .success ≤ (w.answers.drop k).countP (·.toOption.isSome) := by
  induction targets generalizing k outcomes with
  | nil =>
    cases h
    exact Nat.zero_le _
  | cons port later ih =>
    rw [List.map_cons, List.zipIdx_cons] at h
    cases h with
    | cons hfirst hlater =>
      have hfirst : (Probe.datagram port sport true).attempt dst (w.calls k) = .ok _ := hfirst
      obtain ⟨answer, hanswer, hsuccess⟩ := answer_of_attempt hfirst
      have hrest := ih hlater
      obtain ⟨hlt, hanswer⟩ := List.getElem?_eq_some_iff.mp hanswer
      rw [List.drop_eq_getElem_cons hlt, List.countP_cons, List.count_cons, hanswer]
      by_cases hreceived : answer.toOption.isSome
      · rw [if_pos hreceived]
        split_ifs
        · omega
        · omega
      · rw [if_neg hreceived, if_neg fun h => hreceived (hsuccess (beq_iff_eq.mp h))]
        exact hrest

/-- An allowed flow has a success. -/
theorem Tally.success_of_allowed {tally : Tally} (hallowed : tally.verdict = "allowed") :
    0 < tally.success.toNat := by
  rw [Tally.verdict] at hallowed
  split_ifs at hallowed with hsuccess <;> first | exact hsuccess | exact absurd hallowed (by decide)

/-- A run that reports has received as many datagrams as it reports successes. -/
theorem success_le_of_report (hudp : args.proto = .udp) (hawait : args.awaitReply = true)
    {dropToUid : UInt32 → Except String Unit} {report : TrafficReport}
    (hrun : trafficRun args pid dropToUid
      (fun index probe => probe.attempt args.toAddr (w.calls index)) = .ok report) :
    report.tally.success.toNat ≤ w.answers.countP (·.toOption.isSome) ∧
      report.verdict = report.tally.verdict := by
  obtain ⟨hdrop, ports, hports⟩ := trafficRun_ok hrun
  rw [trafficRun_eq_mapM hdrop hports, probes_udp hudp, hawait, firesParallel_udp hudp] at hrun
  cases hmap : (((probePorts args ports).map fun port =>
      Probe.datagram port args.sport true).zipIdx.mapM fun entry =>
        recorded false (entry.1.attempt args.toAddr (w.calls entry.2))) with
  | error error =>
    rw [hmap] at hrun
    cases hrun
  | ok outcomes =>
    rw [hmap] at hrun
    cases hrun
    refine ⟨?_, rfl⟩
    have hcount : (Tally.ofOutcomes outcomes).success = UInt32.ofNat (outcomes.count .success) :=
      Tally.count_ofOutcomes outcomes .success
    change (Tally.ofOutcomes outcomes).success.toNat ≤ _
    rw [hcount]
    exact (Nat.mod_le _ _).trans (successes_le (Traversal.mapM_ok_iff.mp hmap))

end Worker

/-! ## What the two programs say -/

section Passage

variable {listen : ListenArgs} {args : TrafficArgs} {ports : List UInt16} {addr : Nat → String}

/-- What a network lets pass: datagrams for the listener's port, each once, and each echo behind its
datagram. -/
structure Passed (listen : ListenArgs) (targets : List UInt16) (wire : Wire) : Prop where
  letIn_once : wire.letIn.Nodup
  letIn_port : ∀ i ∈ wire.letIn, targets[i]? = some listen.port
  letOut_once : wire.letOut.Nodup
  letOut : wire.letOut ⊆ wire.letIn

/-- A listener that is over prints how many datagrams it has echoed. -/
def ListenerPrints (listen : ListenArgs) (turns : List (Nat × Receive)) (deadline : Nat)
    (s : UdpListener) : Prop :=
  ∃ start, deadline = start + listen.durationMs ∧
    listenProcess listen start ⟨.ok (), .ok ()⟩ ⟨[], turns⟩ =
      some ⟨0, (listeningDocument listen).compact ++ "\n" ++
        ((closedDocument "echoed" s.echoed).compact ++ "\n"), ""⟩

/-- **An echo shows a passage.** In whatever order the worker, the listener and the network take
their steps, the datagrams that are let in and the echoes that are let out are those of different
probes, to the listener's port. A probe receives an echo only when it is to this port, and then its
own or that of an earlier probe from the same address; the worker reports no more successes than
echoes were let out, and an allowed flow only when one was. When the listener is over without a
failure it prints a number of datagrams that is between the echoes that were let out and the
datagrams that were let in. -/
theorem echoes_show_passage (hlisten : listen.proto = .udp) (hudp : args.proto = .udp)
    (hawait : args.awaitReply = true) {now : Nat} {acts : List EchoAct} {w : EchoSite}
    (hrun : Run (echoStep listen (probePorts args ports) addr) (.before now) acts w) :
    Passed listen (probePorts args ports) w.wire ∧
    (∀ i bytes, w.answers[i]? = some (.ok bytes) →
      Receives listen (probePorts args ports) addr w.wire.letOut i bytes) ∧
    (∀ pid dropToUid report,
      trafficRun args pid dropToUid
        (fun index probe => probe.attempt args.toAddr (w.calls index)) = .ok report →
      report.tally.success.toNat ≤ w.wire.letOut.length ∧
        (report.verdict = "allowed" → w.wire.letOut ≠ [])) ∧
    ∀ deadline s, w.listener = .ended deadline (.ok s) →
      w.wire.letOut.length ≤ s.echoed ∧ s.echoed ≤ w.wire.letIn.length ∧
        ListenerPrints listen
          (turnsOf (echoStep listen (probePorts args ports) addr) echoTurnOf (.before now) acts)
          deadline s := by
  have hkept : EchoesKept listen (probePorts args ports) addr w :=
    hrun.invariant (fun _ _ _ h _ hstep => echoesKept_step h hstep) (echoesKept_before now)
  obtain ⟨hwire, hcounts, -, hanswers⟩ := hkept
  refine ⟨⟨hwire.letIn_once, fun i hi => (hwire.letIn_port i hi).2, ?_, hwire.letOut⟩,
    hanswers.own, fun pid dropToUid report hreport => ?_, fun deadline s hended => ?_⟩
  · exact Multiset.coe_nodup.mp (Multiset.nodup_of_le (Multiset.le_add_left _ _) hwire.once)
  · obtain ⟨hfew, hverdict⟩ := success_le_of_report hudp hawait hreport
    have hletOut := hfew.trans hanswers.few
    refine ⟨hletOut, fun hallowed => List.ne_nil_of_length_pos ?_⟩
    rw [hverdict] at hallowed
    exact (Tally.success_of_allowed hallowed).trans_le hletOut
  · rw [CountsKept, hended] at hcounts
    obtain ⟨hout, hin⟩ := hcounts
    refine ⟨by omega, by omega, ?_⟩
    obtain ⟨⟨start, hstart⟩, hloop⟩ := endsWith_of_run listenerStep_of_echoStep hrun hended
    refine ⟨start, hstart, ?_⟩
    rw [listenProcess, hlisten, ← hstart]
    dsimp only
    rw [listenUdp]
    change Option.map _ (Option.map _ (listenLoop _ _ _)) = _
    rw [hloop]
    rfl

end Passage

/-- Two datagrams from one port, and the listener for them. -/
def twoDatagrams : TrafficArgs := { appDatagram with count := 2, sport := some 40000 }

def echoListen : ListenArgs := ⟨.udp, 53, 1, false⟩

/-- Where the datagrams come from. -/
def onePeer (_ : Nat) : String := "10.123.0.2:40000"

/-- The datagram of a probe, and its echo. -/
def probeOf (i : Nat) : Datagram := ⟨i, onePeer i, probeBytes⟩

/-- The second probe is lost, but receives the echo of the first, which was given up. -/
def lateSite : EchoSite where
  now := 1000
  listener := .ended 1000 (.ok ⟨1, [(onePeer 0, probeBytes)]⟩)
  worker := .ready
  sent := 2
  answers := [.error ⟨.wouldBlock, "timed out"⟩, .ok probeBytes]
  wire := ⟨0, [], 0, [0], [0]⟩

theorem run_lateSite :
    Run (echoStep echoListen (probePorts twoDatagrams [53]) onePeer) (.before 0)
      [.startListener, .bind (.ok ()), .send, .letIn (probeOf 0), .turn none,
        .giveUp ⟨.wouldBlock, "timed out"⟩, .send, .loseRequest (probeOf 1), .letOut (probeOf 0),
        .tick 1000, .turn none] lateSite := by
  have htargets : probePorts twoDatagrams [53] = [53, 53] := by decide
  have hduration : echoListen.durationMs = 1000 := by decide
  rw [htargets]
  refine .cons (t := ⟨0, .starting 1000, .ready, 0, [], ⟨0, [], 0, [], []⟩⟩) ?_ trivial ?_
  · rw [echoStep, EchoSite.before, hduration]
  refine .cons (t := ⟨0, .listening 1000 ⟨0, []⟩, .ready, 0, [], ⟨0, [], 0, [], []⟩⟩) rfl trivial ?_
  refine .cons (t := ⟨0, .listening 1000 ⟨0, []⟩, .awaiting, 1, [],
    ⟨{probeOf 0}, [], 0, [], []⟩⟩) rfl trivial ?_
  refine .cons (t := ⟨0, .listening 1000 ⟨0, []⟩, .awaiting, 1, [],
    ⟨0, [probeOf 0], 0, [0], []⟩⟩) ?_ trivial ?_
  · simp [echoStep, Wire.enter, echoListen, probeOf]
  refine .cons (t := ⟨0, .listening 1000 ⟨1, [(onePeer 0, probeBytes)]⟩, .awaiting, 1, [],
    ⟨0, [], {probeOf 0}, [0], []⟩⟩) rfl trivial ?_
  refine .cons (t := ⟨0, .listening 1000 ⟨1, [(onePeer 0, probeBytes)]⟩, .ready, 1,
    [.error ⟨.wouldBlock, "timed out"⟩], ⟨0, [], {probeOf 0}, [0], []⟩⟩) rfl trivial ?_
  refine .cons (t := ⟨0, .listening 1000 ⟨1, [(onePeer 0, probeBytes)]⟩, .awaiting, 2,
    [.error ⟨.wouldBlock, "timed out"⟩], ⟨{probeOf 1}, [], {probeOf 0}, [0], []⟩⟩) rfl trivial ?_
  refine .cons (t := ⟨0, .listening 1000 ⟨1, [(onePeer 0, probeBytes)]⟩, .awaiting, 2,
    [.error ⟨.wouldBlock, "timed out"⟩], ⟨0, [], {probeOf 0}, [0], []⟩⟩) ?_ trivial ?_
  · simp [echoStep]
  refine .cons (t := ⟨0, .listening 1000 ⟨1, [(onePeer 0, probeBytes)]⟩, .ready, 2,
    [.error ⟨.wouldBlock, "timed out"⟩, .ok probeBytes], ⟨0, [], 0, [0], [0]⟩⟩) ?_ trivial ?_
  · have hfits : probeBytes.take 128 = probeBytes := by decide
    simp [echoStep, EchoSite.hear, Wire.leave, probeOf, onePeer, echoListen, hfits]
  exact .cons rfl trivial (.cons rfl trivial (.nil _))

/-- A late echo is a success of the wrong probe, but of a datagram that was let through. -/
theorem echoes_show_passage_late :
    Receives echoListen (probePorts twoDatagrams [53]) onePeer [0] 1 probeBytes ∧
    (∃ report, trafficRun twoDatagrams 1 (fun _ => .ok ())
        (fun index probe => probe.attempt twoDatagrams.toAddr (lateSite.calls index)) = .ok report ∧
      report.verdict = "allowed" ∧ report.tally.success.toNat ≤ lateSite.wire.letOut.length) ∧
    ∃ turns, ListenerPrints echoListen turns 1000 ⟨1, [(onePeer 0, probeBytes)]⟩ := by
  obtain ⟨-, hreceived, hreports, hprints⟩ := echoes_show_passage rfl rfl rfl run_lateSite
  obtain ⟨-, -, houtput⟩ := hprints 1000 _ rfl
  refine ⟨hreceived 1 probeBytes rfl, ⟨_, rfl, ?_, ?_⟩, _, houtput⟩
  · decide
  · exact (hreports 1 (fun _ => .ok ()) _ rfl).1

end FwVerify
