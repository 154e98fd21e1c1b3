import FwVerify.Lib.Options
import FwVerify.Lib.Text
import FwVerify.Model.Net

/-!
# The `agent traffic` worker

The arguments of the worker's `traffic` subcommand, how its destination ports are resolved,
the probes a run fires, and the tally and verdict it reports. What the kernel answers to a
probe is given from outside.

## Main definitions

* `TrafficArgs.parse` — the declared options, read from tokens
* `TrafficArgs.portList` — the destination ports of a run
* `sequentialProbes`, `parallelProbes` — the probes of the two branches of a run
* `Tally.verdict` — the verdict over recorded outcomes
* `trafficRun` — a whole run
-/

set_option autoImplicit false

namespace FwVerify

open Text Options

/-- Transport for generated traffic. -/
inductive Proto
  | tcp | udp | icmp
  deriving DecidableEq, Repr

/-- The lower-cased name, as on the command line and in the report. -/
def Proto.lowercase : Proto → String
  | .tcp => "tcp"
  | .udp => "udp"
  | .icmp => "icmp"

/-- The protocol of a command-line value. -/
def Proto.parse : String → Option Proto
  | "tcp" => some .tcp
  | "udp" => some .udp
  | "icmp" => some .icmp
  | _ => none

/-- ICMP message kind. -/
inductive IcmpKind
  | echo | timestamp
  deriving DecidableEq, Repr

/-- The message kind of a command-line value. -/
def IcmpKind.parse : String → Option IcmpKind
  | "echo" => some .echo
  | "timestamp" => some .timestamp
  | _ => none

/-- `traffic` arguments. -/
structure TrafficArgs where
  proto : Proto
  toAddr : IpAddr
  dport : Option UInt16
  dports : Option String
  sport : Option UInt16
  count : UInt32
  intervalMs : UInt64
  timeoutMs : UInt64
  awaitReply : Bool
  finOnly : Bool
  icmpType : IcmpKind
  uid : Option UInt32
  deriving DecidableEq

def parseU16 (s : String) : Option UInt16 := (parseUnsigned (2 ^ 16) s).map UInt16.ofNat

def parseU32 (s : String) : Option UInt32 := (parseUnsigned (2 ^ 32) s).map UInt32.ofNat

def parseU64 (s : String) : Option UInt64 := (parseUnsigned (2 ^ 64) s).map UInt64.ofNat

/-- The long options `TrafficArgs` declares. -/
def trafficDecls : List (String × Arity) :=
  [("to", .value), ("dport", .value), ("dports", .value), ("sport", .value),
    ("count", .value), ("interval-ms", .value), ("timeout-ms", .value),
    ("await-reply", .flag), ("fin-only", .flag), ("icmp-type", .value), ("uid", .value)]

/-- Convert an option's value when it is given. -/
def readOpt {β : Type} (read : String → Option β) : Option String → Option (Option β)
  | none => some none
  | some value => (read value).map some

/-- Read the arguments from scanned pieces, with the declared defaults. -/
def TrafficArgs.ofPieces (parseIp : String → Option IpAddr) (pieces : List Piece) :
    Option TrafficArgs := do
  let proto ← match positionals pieces with
    | [value] => Proto.parse value
    | _ => none
  let toAddr ← (← optValue "to" pieces) >>= parseIp
  let dport ← readOpt parseU16 (← optValue "dport" pieces)
  let dports ← optValue "dports" pieces
  let sport ← readOpt parseU16 (← optValue "sport" pieces)
  let count ← readOpt parseU32 (← optValue "count" pieces)
  let intervalMs ← readOpt parseU64 (← optValue "interval-ms" pieces)
  let timeoutMs ← readOpt parseU64 (← optValue "timeout-ms" pieces)
  let awaitReply ← flagSet "await-reply" pieces
  let finOnly ← flagSet "fin-only" pieces
  let icmpType ← readOpt IcmpKind.parse (← optValue "icmp-type" pieces)
  let uid ← readOpt parseU32 (← optValue "uid" pieces)
  return {
    proto, toAddr, dport, dports, sport
    count := count.getD 1
    intervalMs := intervalMs.getD 0
    timeoutMs := timeoutMs.getD 1000
    awaitReply, finOnly
    icmpType := icmpType.getD .echo
    uid }

/-- Read `agent traffic` tokens; `none` is a usage error. -/
def TrafficArgs.parse (parseIp : String → Option IpAddr) : List String → Option TrafficArgs
  | "traffic" :: tokens => do ofPieces parseIp (← scan trafficDecls tokens)
  | _ => none

/-- The destination ports: the comma-separated list, else the single port, else port 0 for
ICMP. -/
def TrafficArgs.portList (args : TrafficArgs) : Except String (List UInt16) :=
  match args.dports with
  | some list =>
    -- items of nothing but white space are dropped
    ((splitAt ',' list).filter fun item => trim item != "").mapM fun item =>
      match parseU16 (trim item) with
      | some port => .ok port
      | none => .error s!"invalid port \x60{item}\x60"
  | none =>
    match args.dport with
    | some port => .ok [port]
    | none =>
      if args.proto = .icmp then .ok [0]
      else .error "--dport or --dports is required for tcp/udp"

/-! ## Outcomes and verdict -/

/-- Result of a single attempt. -/
inductive Outcome
  | success | timeout | refused | denied | sent | other
  deriving DecidableEq, Repr

/-- How often each outcome was recorded. -/
structure Tally where
  success : UInt32 := 0
  timeout : UInt32 := 0
  refused : UInt32 := 0
  denied : UInt32 := 0
  sent : UInt32 := 0
  other : UInt32 := 0
  deriving DecidableEq, Repr

namespace Tally

/-- Count one outcome. -/
def record (tally : Tally) : Outcome → Tally
  | .success => { tally with success := tally.success + 1 }
  | .timeout => { tally with timeout := tally.timeout + 1 }
  | .refused => { tally with refused := tally.refused + 1 }
  | .denied => { tally with denied := tally.denied + 1 }
  | .sent => { tally with sent := tally.sent + 1 }
  | .other => { tally with other := tally.other + 1 }

/-- The number of recorded outcomes. -/
def attempts (tally : Tally) : UInt32 :=
  tally.success + tally.timeout + tally.refused + tally.denied + tally.sent + tally.other

/-- The verdict: a drop (timeout) and a policy deny both mean enforced. -/
def verdict (tally : Tally) : String :=
  if tally.success > 0 then "allowed"
  else if tally.timeout > 0 ∨ tally.denied > 0 then "blocked"
  else if tally.refused > 0 then "refused"
  else if tally.sent > 0 then "sent"
  else "unknown"

/-- The tally of a sequence of outcomes. -/
def ofOutcomes (outcomes : List Outcome) : Tally := outcomes.foldl record {}

end Tally

/-! ## Probes -/

/-- One attempt of a run. -/
inductive Probe
  | connect (dport : UInt16) (sport : Option UInt16)
  | fin (dport : UInt16) (sport : UInt16) (seq : UInt32)
  | datagram (dport : UInt16) (sport : Option UInt16) (awaitReply : Bool)
  | icmp (ident seq : UInt16) (kind : IcmpKind)
  deriving DecidableEq, Repr

/-- First source port of a process's FIN probes. -/
def finSportBase (pid : UInt32) : UInt16 := 20000 + pid.toUInt16 % 20000

/-- Source port of a FIN probe: the given one, else a fresh unprivileged port. -/
def finSport (args : TrafficArgs) (pid : UInt32) (offset : UInt16) : UInt16 :=
  args.sport.getD <|
    let port := finSportBase pid + offset
    if port < 1024 then port ||| 0x4000 else port

/-- The attempts of the sequential loop, from its counters `seq` and `finOffset`. -/
def sequentialLoop (args : TrafficArgs) (pid : UInt32) :
    UInt16 → UInt16 → List UInt16 → List Probe
  | _, _, [] => []
  | seq, finOffset, port :: later =>
    match args.proto with
    | .tcp =>
      -- each bare FIN takes a fresh source port and the next sequence number
      if args.finOnly then
        .fin port (finSport args pid finOffset) (seq + 1).toUInt32 ::
          sequentialLoop args pid (seq + 1) (finOffset + 1) later
      else
        .connect port args.sport :: sequentialLoop args pid seq finOffset later
    | .udp => .datagram port args.sport args.awaitReply ::
        sequentialLoop args pid seq finOffset later
    | .icmp => .icmp (pid &&& 0xffff).toUInt16 (seq + 1) args.icmpType ::
        sequentialLoop args pid (seq + 1) finOffset later

/-- The sequential branch: every port `max(count, 1)` times. -/
def sequentialProbes (args : TrafficArgs) (pid : UInt32) (ports : List UInt16) : List Probe :=
  sequentialLoop args pid 0 0 <|
    ports.flatMap fun port => List.replicate (max args.count 1).toNat port

/-- The parallel branch: every port once. -/
def parallelProbes (args : TrafficArgs) (pid : UInt32) (ports : List UInt16) : List Probe :=
  ports.zipIdx.map fun (port, index) =>
    if args.finOnly then
      .fin port (finSport args pid (UInt16.ofNat index)) (UInt32.ofNat index + 1)
    else
      .connect port args.sport

/-- A multi-port TCP scan fires its probes in parallel. -/
def firesParallel (args : TrafficArgs) (ports : List UInt16) : Bool :=
  args.proto == .tcp && decide (1 < ports.length) && decide (args.count ≤ 1)

/-- The line a run prints. -/
structure TrafficReport where
  proto : String
  toAddr : String
  ports : List UInt16
  attempts : UInt32
  tally : Tally
  verdict : String
  deriving DecidableEq

/-- The printed result of a tally. -/
def emitTraffic (args : TrafficArgs) (ports : List UInt16) (tally : Tally) : TrafficReport where
  proto := args.proto.lowercase
  toAddr := args.toAddr.display
  ports := ports
  attempts := tally.attempts
  tally := tally
  verdict := tally.verdict

/-- A run, given how dropping to a uid and the `i`-th attempt end. A local error ends the
sequential branch and counts as `other` in the parallel one. -/
def trafficRun (args : TrafficArgs) (pid : UInt32) (dropToUid : UInt32 → Except String Unit)
    (attempt : Nat → Probe → Except String Outcome) : Except String TrafficReport := do
  if let some uid := args.uid then
    dropToUid uid
  let ports ← args.portList
  if firesParallel args ports then
    -- a failing attempt is an outcome of its own
    let outcomes := (parallelProbes args pid ports).zipIdx.map fun (probe, index) =>
      (attempt index probe).toOption.getD .other
    return emitTraffic args ports (Tally.ofOutcomes outcomes)
  else
    -- a failing attempt ends the run
    let outcomes ← (sequentialProbes args pid ports).zipIdx.mapM fun (probe, index) =>
      attempt index probe
    return emitTraffic args ports (Tally.ofOutcomes outcomes)

end FwVerify
