import FwVerify.Lib.Fallible
import FwVerify.Model.Decode
import FwVerify.Model.Exec
import FwVerify.Model.JsonPrint
import FwVerify.Model.NetParser

/-!
# The re-executed worker

Traffic is sent by a process of its own: it reads its command line, drops to the uid it is given,
runs, and prints its result on a line. The orchestrator hands the command line over, reads the line
back and takes the outcome from it.

## Main definitions

* `dropToUid` — dropping the credentials of a process
* `documentProcess` — a worker that prints a document
* `trafficProcess` — the worker, from its command line to its output
* `peerTraffic` — the orchestrator's end
-/

set_option autoImplicit false

namespace FwVerify

open Fallible

/-! ## Credentials -/

/-- The credentials of a process. -/
structure Creds where
  groups : List UInt32
  gid : UInt32
  uid : UInt32
  deriving DecidableEq

/-- How the calls that change credentials end. -/
structure CredCalls where
  setgroups : Except String Unit
  setgid : UInt32 → Except String Unit
  setuid : UInt32 → Except String Unit

/-- The text of a call that failed. -/
def callFailed (what : String) (call : Except String Unit) : Except String Unit :=
  call.mapError fun error => s!"{what} failed: {error}"

/-- Drop to a uid, with the gid of the same value and no supplementary groups. -/
def dropToUid (calls : CredCalls) (uid : UInt32) : Prog Creds Unit := do
  check (callFailed "setgroups" calls.setgroups)
  modify fun creds => { creds with groups := [] }
  check (callFailed s!"setgid({uid})" (calls.setgid uid))
  modify fun creds => { creds with gid := uid }
  check (callFailed s!"setuid({uid})" (calls.setuid uid))
  modify fun creds => { creds with uid }

/-! ## The worker -/

/-- A `u32` as JSON. -/
def jsonU32 (n : UInt32) : Value := .number (.posInt n.toUInt64)

/-- The result line of a run. -/
def TrafficReport.toJson (report : TrafficReport) : Value :=
  .object [("proto", .string report.proto), ("to", .string report.toAddr),
    ("ports", .array (report.ports.map fun port => .number (.posInt port.toUInt64))),
    ("attempts", jsonU32 report.attempts), ("success", jsonU32 report.tally.success),
    ("timeout", jsonU32 report.tally.timeout), ("refused", jsonU32 report.tally.refused),
    ("denied", jsonU32 report.tally.denied), ("sent", jsonU32 report.tally.sent),
    ("other", jsonU32 report.tally.other), ("verdict", .string report.verdict)]

/-- A process on the device: its id, and how the kernel answers its calls. A probe is answered
according to the credentials it is sent with. -/
structure WorkerSystem where
  pid : UInt32
  calls : CredCalls
  attempt : Creds → Nat → Probe → Except String Outcome
  /-- What a usage error prints. -/
  usage : String

/-- The credentials a run has when it sends its probes, and how getting them ended. -/
def WorkerSystem.credentials (system : WorkerSystem) (creds : Creds) :
    Option UInt32 → Except String Unit × Creds
  | none => (.ok (), creds)
  | some uid => exec (dropToUid system.calls uid) creds

/-- The worker, started with some credentials. -/
def trafficProcess (system : WorkerSystem) (creds : Creds) (tokens : List String) :
    ProgramOutput :=
  match TrafficArgs.parse IpAddr.parse tokens with
  | none => { code := 2, stdout := "", stderr := system.usage }
  | some args =>
    let (dropped, creds) := system.credentials creds args.uid
    match trafficRun args system.pid (fun _ => dropped) (system.attempt creds) with
    | .ok report => { code := 0, stdout := report.toJson.compact ++ "\n", stderr := "" }
    | .error error => { code := 1, stdout := "", stderr := s!"fw-verify error: {error}\n" }

/-- A worker that prints a document, or says why there is none. -/
def documentProcess : Except String Value → ProgramOutput
  | .ok document => { code := 0, stdout := document.compact ++ "\n", stderr := "" }
  | .error error => { code := 1, stdout := "", stderr := s!"fw-verify error: {error}\n" }

/-! ## The orchestrator -/

/-- Generate traffic by way of a worker that ended in some way. What is said of a document that is
no outcome is given from outside. -/
def peerTraffic (json : JsonParser) (noOutcome : Value → String) (cmd : TrafficCmd)
    (uid : Option UInt32) (ran : Except String ProgramOutput) : Except String TrafficOutcome := do
  let value ← agentJson json (cmd.argv uid) ran
  match TrafficOutcome.ofJson value with
  | some outcome => .ok outcome
  | none =>
    let reason := noOutcome value
    .error s!"failed to parse traffic outcome: {reason}"

end FwVerify
