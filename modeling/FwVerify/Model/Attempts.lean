import FwVerify.Model.Worker

/-!
# Attempts

What the worker does for one probe: the socket calls it makes, in order, and the outcome or
local error it draws from them. How each call ends is given from outside.

## Main definitions

* `SocketCalls` — how the calls of one attempt end
* `classifyIo` — the outcome of a failed packet operation
* `Probe.attempt` — the attempt at a probe
-/

set_option autoImplicit false

namespace FwVerify

/-- The kinds of I/O errors the worker tells apart. -/
inductive ErrorKind
  | timedOut | wouldBlock | connectionRefused | permissionDenied | other
  deriving DecidableEq, Repr

/-- An I/O error with its text. -/
structure IoError where
  kind : ErrorKind
  text : String
  deriving DecidableEq, Repr

/-- How the calls of one attempt end; an attempt makes only some of them. -/
structure SocketCalls where
  socket : Except IoError Unit
  reuseAddress : Except IoError Unit
  bind : Except IoError Unit
  connect : Except IoError Unit
  setReadTimeout : Except IoError Unit
  send : Except IoError Unit
  /-- The received bytes. -/
  recv : Except IoError (List UInt8)
  /-- The throwaway socket that tells the local address. -/
  probeBind : Except IoError Unit
  probeConnect : Except IoError Unit
  localAddr : Except IoError IpAddr

/-- An error with a line of context. -/
def context {α : Type} (call : Except IoError α) (line : String) : Except String α :=
  call.mapError fun error => line ++ ": " ++ error.text

/-- A call that succeeds hands its answer on. -/
@[simp] theorem context_ok_bind {α β : Type} (answer : α) (line : String)
    (next : α → Except String β) : (context (.ok answer) line >>= next) = next answer := rfl

@[simp] theorem context_ok_map {α β : Type} (answer : α) (line : String) (f : α → β) :
    f <$> context (.ok answer) line = .ok (f answer) := rfl

/-- The outcome a failed packet operation stands for. -/
def classifyIo (error : IoError) : Outcome :=
  match error.kind with
  | .timedOut | .wouldBlock => .timeout
  | .connectionRefused => .refused
  -- a cgroup connect-hook policy deny surfaces as EPERM
  | .permissionDenied => .denied
  | .other => .other

/-- A TCP connect, from a given source port if there is one. -/
def tcpAttempt (sport : Option UInt16) (calls : SocketCalls) : Except String Outcome := do
  context calls.socket "failed to create tcp socket"
  if let some port := sport then
    context calls.reuseAddress "failed to set reuse_address"
    context calls.bind s!"failed to bind source port {port}"
  match calls.connect with
  | .ok () => return .success
  | .error error => return classifyIo error

/-- A UDP datagram, with a reply awaited or not. -/
def udpAttempt (awaitReply : Bool) (calls : SocketCalls) : Except String Outcome := do
  context calls.bind "failed to bind udp socket"
  context calls.connect "failed to connect udp socket"
  context calls.send "failed to send udp probe"
  -- nothing is known of a datagram that awaits no reply
  if !awaitReply then
    return .sent
  context calls.setReadTimeout "failed to set udp read timeout"
  match calls.recv with
  | .ok _ => return .success
  | .error error => return classifyIo error

/-- Whether a raw IPv4 frame is an ICMP echo reply for `ident`. -/
def isMatchingEchoReply (frame : List UInt8) (ident : UInt16) : Bool :=
  match frame with
  | [] => false
  | first :: _ =>
    -- the ICMP message follows the IP header
    let ihl := (first &&& 0x0f).toNat * 4
    match frame.drop (min ihl frame.length) with
    | kind :: _ :: _ :: _ :: high :: low :: _ =>
      kind == 0 && high.toNat * 256 + low.toNat == ident.toNat
    | _ => false

/-- An ICMP request: an echo waits for its reply, a timestamp request is one-way. -/
def icmpAttempt (dst : IpAddr) (ident : UInt16) (kind : IcmpKind) (calls : SocketCalls) :
    Except String Outcome := do
  let .v4 _ := dst | throw "icmp traffic currently supports IPv4 only"
  context calls.socket "failed to create raw icmp socket (needs root)"
  context calls.setReadTimeout "failed to set icmp read timeout"
  if kind = .timestamp then
    context calls.send "failed to send icmp timestamp request"
    return .sent
  context calls.send "failed to send icmp echo"
  match calls.recv with
  | .ok frame => return if isMatchingEchoReply frame ident then .success else .other
  | .error error => return classifyIo error

/-- The local source address the kernel would route from. -/
def localSrcIpv4 (calls : SocketCalls) : Except String Ipv4Addr := do
  context calls.probeBind "failed to bind probe socket"
  context calls.probeConnect "failed to connect probe socket"
  match ← context calls.localAddr "failed to read probe local_addr" with
  | .v4 ip => return ip
  | .v6 _ => throw "fin-only traffic currently supports IPv4 only"

/-- A bare FIN segment: sent, and nothing awaited. -/
def finAttempt (dst : IpAddr) (calls : SocketCalls) : Except String Outcome := do
  let .v4 _ := dst | throw "fin-only traffic currently supports IPv4 only"
  let _ ← localSrcIpv4 calls
  context calls.socket "failed to create raw tcp socket (needs root)"
  context calls.send "failed to send tcp fin"
  return .sent

/-- The attempt at a probe toward `dst`. -/
def Probe.attempt (dst : IpAddr) (calls : SocketCalls) : Probe → Except String Outcome
  | .connect _ sport => tcpAttempt sport calls
  | .fin .. => finAttempt dst calls
  | .datagram _ _ awaitReply => udpAttempt awaitReply calls
  | .icmp ident _ kind => icmpAttempt dst ident kind calls

end FwVerify
