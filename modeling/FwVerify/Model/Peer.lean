import FwVerify.Model.Worker

/-!
# Driving the worker

The traffic request handed to a re-executed `fw-verify agent traffic`, and the command line
it is handed over on. The command line leaves out whatever the worker's defaults supply.
-/

set_option autoImplicit false

namespace FwVerify

/-- Parsed result of an `agent traffic` run; the orchestrator decides on `verdict` alone. -/
structure TrafficOutcome where
  verdict : String
  success : UInt32 := 0
  timeout : UInt32 := 0
  refused : UInt32 := 0
  denied : UInt32 := 0
  sent : UInt32 := 0
  other : UInt32 := 0
  deriving DecidableEq, Repr

/-- A traffic request to hand to the worker. -/
structure TrafficCmd where
  proto : String
  toAddr : IpAddr
  dport : Option UInt16
  dports : Option (List UInt16)
  sport : Option UInt16
  count : UInt32
  timeoutMs : UInt64
  intervalMs : UInt64
  awaitReply : Bool
  finOnly : Bool
  icmpTimestamp : Bool
  deriving DecidableEq

/-- The `agent traffic ...` tokens, with the uid appended when dropping privilege. -/
def TrafficCmd.argv (cmd : TrafficCmd) (uid : Option UInt32) : List String :=
  ["traffic", cmd.proto, "--to", cmd.toAddr.display] ++
  (match cmd.dports with
    | some ports => ["--dports", ",".intercalate (ports.map toString)]
    | none =>
      match cmd.dport with
      | some port => ["--dport", toString port]
      | none => []) ++
  (match cmd.sport with
    | some sport => ["--sport", toString sport]
    | none => []) ++
  (if cmd.count > 1 then ["--count", toString cmd.count] else []) ++
  (if cmd.intervalMs > 0 then ["--interval-ms", toString cmd.intervalMs] else []) ++
  ["--timeout-ms", toString cmd.timeoutMs] ++
  (if cmd.awaitReply then ["--await-reply"] else []) ++
  (if cmd.finOnly then ["--fin-only"] else []) ++
  (if cmd.icmpTimestamp then ["--icmp-type", "timestamp"] else []) ++
  (match uid with
    | some uid => ["--uid", toString uid]
    | none => [])

end FwVerify
