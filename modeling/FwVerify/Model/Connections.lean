import FwVerify.Lib.Fallible
import FwVerify.Model.Arguments
import FwVerify.Model.JsonPrint
import FwVerify.Model.Reexec
import FwVerify.Model.Report

/-!
# Listeners and held connections

The worker's `listen` accepts connections, or echoes datagrams, until its time is up; `conn-flood`
opens many connections and keeps them open for a while. With `--hold` the listener keeps what it
has accepted, so that the connections stay established for idps-fw to count. Times are in
milliseconds of the monotonic clock.

## Main definitions

* `ListenArgs`, `ConnFloodArgs` — the arguments of the two workers
* `TcpListener.accept`, `listenTcpTurn` — what an accept does, and a turn of the accept loop
* `UdpListener.receive`, `listenUdpTurn` — the same for datagrams
* `listenLoop`, `listenProcess` — the listener, from its socket to its output
* `ConnFlood.attempt`, `connFloodDocument` — the flood, and what it reports
-/

set_option autoImplicit false

namespace FwVerify

/-- A connection, by the order in which it was opened. -/
abbrev Conn := Nat

/-! ## The listener -/

/-- `listen` arguments. -/
structure ListenArgs where
  proto : ListenProto
  port : UInt16
  durationSecs : UInt64
  hold : Bool

/-- How long a listener runs. -/
def ListenArgs.durationMs (args : ListenArgs) : Nat := args.durationSecs.toNat * 1000

def ListenProto.lowercase : ListenProto → String
  | .tcp => "tcp"
  | .udp => "udp"

/-- A turn of a loop: it goes on, or is over. -/
inductive Turn (σ : Type)
  | goOn (s : σ)
  | finish (result : Except String σ)

/-- What a TCP listener has done so far. -/
structure TcpListener where
  held : List Conn
  accepted : Nat
  /-- What was written back, and to which connections. -/
  echoed : List (Conn × List UInt8)
  deriving DecidableEq

/-- How an accept ends; a connection comes with the bytes that arrive on it in time, if any do. -/
inductive Accept
  | connected (conn : Conn) (request : Option (List UInt8))
  | wouldBlock
  | failed (error : String)

/-- Hold a connection, or echo one read and move on. -/
def TcpListener.accept (hold : Bool) (s : TcpListener) : Accept → Except String TcpListener
  | .connected conn request =>
    let s := { s with accepted := s.accepted + 1 }
    if hold then .ok { s with held := s.held ++ [conn] }
    else
      .ok { s with
        echoed := s.echoed ++ (request.map fun bytes => (conn, bytes.take 256)).toList }
  | .wouldBlock => .ok s
  | .failed error => Fallible.context "tcp accept failed" (.error error)

/-- A turn of the accept loop, at a time. -/
def listenTcpTurn (deadline : Nat) (hold : Bool) (s : TcpListener) (now : Nat) (answer : Accept) :
    Turn TcpListener :=
  if now < deadline then
    match s.accept hold answer with
    | .ok s => .goOn s
    | .error error => .finish (.error error)
  else .finish (.ok s)

/-- What a UDP listener has done so far. -/
structure UdpListener where
  echoed : Nat
  /-- What was sent back, and to whom. -/
  replies : List (String × List UInt8)
  deriving DecidableEq

/-- How a receive ends; a datagram comes with its sender. -/
inductive Receive
  | datagram (peer : String) (bytes : List UInt8)
  /-- Nothing has arrived in time. -/
  | idle
  | failed (error : String)

/-- Echo a datagram, as far as it fits the buffer. -/
def UdpListener.receive (s : UdpListener) : Receive → Except String UdpListener
  | .datagram peer bytes =>
    .ok { echoed := s.echoed + 1, replies := s.replies ++ [(peer, bytes.take 2048)] }
  | .idle => .ok s
  | .failed error => Fallible.context "udp recv failed" (.error error)

def listenUdpTurn (deadline : Nat) (s : UdpListener) (now : Nat) (answer : Receive) :
    Turn UdpListener :=
  if now < deadline then
    match s.receive answer with
    | .ok s => .goOn s
    | .error error => .finish (.error error)
  else .finish (.ok s)

/-- A loop over the times and answers of its turns; `none` while it has not ended. -/
def listenLoop {σ α : Type} (turn : σ → Nat → α → Turn σ) :
    σ → List (Nat × α) → Option (Except String σ)
  | _, [] => none
  | s, (now, answer) :: later =>
    match turn s now answer with
    | .goOn s => listenLoop turn s later
    | .finish result => some result

/-- How setting up a listener's socket ends. -/
structure ListenSocket where
  bind : Except String Unit
  /-- Setting it non-blocking, or its timeout. -/
  setMode : Except String Unit

/-- How the turns of a listener go. -/
structure ListenTurns where
  accepts : List (Nat × Accept)
  receives : List (Nat × Receive)

def listenTcp (port : UInt16) (deadline : Nat) (hold : Bool) (socket : ListenSocket)
    (turns : List (Nat × Accept)) : Option (Except String TcpListener) :=
  match Fallible.context s!"failed to bind tcp listener on {port}" socket.bind with
  | .error error => some (.error error)
  | .ok () =>
    match Fallible.context "failed to set tcp listener nonblocking" socket.setMode with
    | .error error => some (.error error)
    | .ok () => listenLoop (listenTcpTurn deadline hold) ⟨[], 0, []⟩ turns

def listenUdp (port : UInt16) (deadline : Nat) (socket : ListenSocket)
    (turns : List (Nat × Receive)) : Option (Except String UdpListener) :=
  match Fallible.context s!"failed to bind udp listener on {port}" socket.bind with
  | .error error => some (.error error)
  | .ok () =>
    match Fallible.context "failed to set udp read timeout" socket.setMode with
    | .error error => some (.error error)
    | .ok () => listenLoop (listenUdpTurn deadline) ⟨0, []⟩ turns

/-- The first line of a listener. -/
def listeningDocument (args : ListenArgs) : Value :=
  .object [("status", .string "listening"), ("proto", .string args.proto.lowercase),
    ("port", .number (.posInt args.port.toUInt64)),
    ("duration_secs", .number (.posInt args.durationSecs))]

/-- The last line of a listener. -/
def closedDocument (what : String) (count : Nat) : Value :=
  .object [("status", .string "closed"), (what, jsonCount count)]

/-- The listener, started at a time; `none` while it runs. -/
def listenProcess (args : ListenArgs) (start : Nat) (socket : ListenSocket) (turns : ListenTurns) :
    Option ProgramOutput :=
  let deadline := start + args.durationMs
  let closed : Option (Except String Value) :=
    match args.proto with
    | .tcp =>
      (listenTcp args.port deadline args.hold socket turns.accepts).map fun result =>
        result.map fun s => closedDocument "accepted" s.accepted
    | .udp =>
      (listenUdp args.port deadline socket turns.receives).map fun result =>
        result.map fun s => closedDocument "echoed" s.echoed
  closed.map fun result =>
    let output := documentProcess result
    { output with stdout := (listeningDocument args).compact ++ "\n" ++ output.stdout }

/-! ## The flood -/

/-- `conn-flood` arguments. -/
structure ConnFloodArgs where
  toAddr : IpAddr
  dport : UInt16
  count : UInt32
  holdSecs : UInt64
  timeoutMs : UInt64

/-- How long a flood holds its connections. -/
def ConnFloodArgs.holdMs (args : ConnFloodArgs) : Nat := args.holdSecs.toNat * 1000

/-- What a flood has opened so far. -/
structure ConnFlood where
  held : List Conn
  failed : UInt32
  deriving DecidableEq

/-- An attempt to open one more connection. -/
def ConnFlood.attempt (s : ConnFlood) : Except String Conn → ConnFlood
  | .ok conn => { s with held := s.held ++ [conn] }
  | .error _ => { s with failed := s.failed + 1 }

end FwVerify
