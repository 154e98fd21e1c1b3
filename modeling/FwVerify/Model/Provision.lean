import FwVerify.Lib.Polling
import FwVerify.Model.Config
import FwVerify.Model.Json

/-!
# Rule provisioning

Delivering a rule set and waiting until idps-fw reports its version. In Android mode the
rule is written into the depot under a version computed from the health snapshot; in host
mode VSOC picks the version. Each function takes the answers it is given from outside: a
health snapshot (`none` for a query that failed), the output of the depot write, the answer
of VSOC.

## Main definitions

* `provisionFirewall` — deliver the firewall rule set and wait for it
* `writeTrafficRule`, `provisionTrafficCycle` — the same for the traffic policy
* `waitFor`, `waitForCycle` — the two polling loops
-/

set_option autoImplicit false

namespace FwVerify

open Polling

/-- The answers that decide what is delivered. -/
structure Delivery where
  /-- The snapshot the version is computed from. -/
  health : Option Value
  /-- The output of the depot write. -/
  depotWrite : Except String Value
  /-- The version VSOC returns. -/
  upsert : Except String Int64

/-- Answers of one provisioning call. -/
structure ProvisionSteps extends Delivery where
  /-- The snapshots of the waiting loop. -/
  polls : Polls (Option Value)

/-- Current firewall rule version from the health snapshot (`-1` if unknown). -/
def firewallRuleVer (health : Option Value) : Option Int64 := do
  let health ← health
  return ((health.get "firewall_rule_ver").bind Value.asI64).getD (-1)

/-- The version written next: past the current one, and at least one. Behind the largest version it
wraps around as in a release build; a debug build panics there. -/
def targetVer (before : Int64) : Int64 := max before 0 + 1

/-- The version written after a snapshot; a failed query counts as no version. -/
def nextVer (health : Option Value) : Int64 :=
  -- the version idps-fw has may be higher than what a failed query stands for
  let before := (firewallRuleVer health).getD (-1)
  targetVer before

/-- The version a rule gets in the depot: the low 32 bits. -/
def depotVer (ver : Int64) : Int64 := ver.toInt32.toInt64

def requireKeyPresent (out : Value) : Except String Unit :=
  if (out.get "key_present").bind Value.asBool = some false then
    .error ("fw-agent could not derive the runtime AES key (no keystore / VIN+DSN); " ++
      "is idps-server initialized on the target?")
  else .ok ()

/-- The end of a depot write: an output without a runtime key is an error as well. -/
def writeDepotRule (out : Except String Value) : Except String Unit :=
  match out with
  | .ok out => requireKeyPresent out
  | .error error => .error s!"failed to write depot rule: {error}"

/-- Whether a snapshot shows the field at `expected` or above. -/
def reaches (field : String) (expected : Int64) (snapshot : Option Value) : Bool :=
  match snapshot with
  | some health => decide (expected ≤ ((health.get field).bind Value.asI64).getD (-1))
  | none => false

/-- Poll until a snapshot shows the field at `expected` or above. This is the loop behind the
deadline; a reload timeout for which there is no deadline is a panic before the first poll, see
`deadline` and `waitPanics`. -/
def waitFor (field : String) (expected : Int64) (polls : Polls (Option Value)) :
    Except String Unit :=
  if pollUntil (reaches field expected) polls then .ok ()
  else .error s!"timed out waiting for idps-fw {field} >= {expected}"

/-- Whether a snapshot shows the traffic cycle. -/
def showsCycle (cycle : UInt64) (snapshot : Option Value) : Bool :=
  match snapshot with
  | some health => ((health.get "traffic_cycle_secs").bind Value.asU64).getD 0 == cycle
  | none => false

/-- Poll until a snapshot shows the traffic cycle: the loop behind the deadline, as in `waitFor`. -/
def waitForCycle (cycle : UInt64) (polls : Polls (Option Value)) : Except String Unit :=
  if pollUntil (showsCycle cycle) polls then .ok ()
  else .error s!"timed out waiting for idps-fw traffic_cycle_secs == {cycle}"

/-- Write into the depot past the current version, then wait for the load. -/
def provisionFirewallAndroid (steps : ProvisionSteps) : Except String Int64 := do
  let ver := nextVer steps.health
  writeDepotRule steps.depotWrite
  waitFor "firewall_rule_ver" ver steps.polls
  return ver

/-- Upsert into VSOC, then wait for the version it returned. -/
def provisionFirewallHost (steps : ProvisionSteps) : Except String Int64 := do
  let ver ← steps.upsert
  waitFor "firewall_rule_ver" ver steps.polls
  return ver

/-- Provision the firewall rule set and block until idps-fw loads it. -/
def provisionFirewall (mode : Mode) (steps : ProvisionSteps) : Except String Int64 :=
  match mode with
  | .android => provisionFirewallAndroid steps
  | .host => provisionFirewallHost steps

/-- Write the traffic policy without waiting. -/
def writeTrafficRule (mode : Mode) (steps : ProvisionSteps) : Except String Unit :=
  match mode with
  | .android => writeDepotRule steps.depotWrite
  | .host => steps.upsert.map fun _ => ()

/-- Provision the traffic cycle and wait for it to load. -/
def provisionTrafficCycle (mode : Mode) (cycle : UInt64) (steps : ProvisionSteps) :
    Except String Unit := do
  writeTrafficRule mode steps
  waitForCycle cycle steps.polls

theorem waitFor_ok_iff (field : String) (expected : Int64) (polls : Polls (Option Value)) :
    waitFor field expected polls = .ok () ↔
      ∃ snapshot ∈ polls.toList, reaches field expected snapshot = true := by
  rw [← pollUntil_iff, waitFor]
  split_ifs with h <;> simp [h]

end FwVerify
