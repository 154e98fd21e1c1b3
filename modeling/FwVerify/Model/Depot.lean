import FwVerify.Lib.Fallible
import FwVerify.Lib.Globs
import FwVerify.Model.Provision
import Mathlib.Logic.Function.Basic

/-!
# Writing into the rule depot

The depot of idps-server as a map from rule keys to stored rules, and the calls that write
into it: `provision_rule`, which the worker subcommand wraps, and the orchestrator's depot
writes on top of it. How the steps of a call end is given from outside, and a save that fails
leaves the depot as it was. The depot keeps a log of the rules that were saved.

## Main definitions

* `Depot` — the stored rules and the log
* `provisionRule` — encrypt a rule into the depot
* `Depot.writeDepotRule`, `Depot.provisionFirewallAndroid`, `Depot.writeTrafficRuleAndroid`
* `resetRules` — remove the rules from the directory of the depot
-/

set_option autoImplicit false

namespace FwVerify

open Fallible Polling

/-- A rule is kept under its ACD, its function and its protocol version. -/
abbrev RuleKey := Int32 × Int32 × Int32

/-- What the depot knows about a rule. -/
structure RuleMetadata where
  ver : Int32
  ruleVer : Int32
  protVer : Int32
  majorVer : Int32
  minorVer : Int32
  sha256 : String
  sign : String
  deriving DecidableEq

/-- The metadata of a rule that is not there. -/
def RuleMetadata.default : RuleMetadata := ⟨0, 0, 0, 0, 0, "", ""⟩

/-- A rule in the depot. -/
structure StoredRule where
  bytes : List UInt8
  metadata : RuleMetadata
  deriving DecidableEq

/-- The depot: the stored rules, and every rule saved so far, oldest first. -/
structure Depot where
  rules : RuleKey → Option StoredRule
  log : List (RuleKey × StoredRule)

/-- The depot after a save. -/
def Depot.store (depot : Depot) (key : RuleKey) (rule : StoredRule) : Depot where
  rules := Function.update depot.rules key (some rule)
  log := depot.log ++ [(key, rule)]

/-- Programs over the depot. -/
abbrev DepotM := Prog Depot

/-- How the steps of one `provision_rule` call end. -/
structure DepotSteps where
  /-- The configured directory of the depot. -/
  loadConfig : Except String String
  deviceInfo : Except String Unit
  openKeystore : Except String Unit
  /-- The runtime key, `none` when the keystore resolves no keys. -/
  resolveKeys : Except String (Option String)
  openDepot : Except String Unit
  /-- Whether the metadata of the stored rule can be read. -/
  metadataReads : Bool
  save : Except String Unit

def defaultConfig : String := "/etc/idd/idps.yaml"
def defaultKeystore : String := "/data/idd/keys"

/-- `i32::saturating_add(1)`. -/
def saturatingSucc (ver : Int32) : Int32 := if ver = Int32.maxValue then ver else ver + 1

/-- The metadata the depot has for a rule, if it can be read. -/
def loadMetadata (reads : Bool) (key : RuleKey) : DepotM (Option RuleMetadata) := do
  let depot ← get
  return if reads then (depot.rules key).map (·.metadata) else none

/-- Store a rule under the protocol version of its metadata. -/
def saveRule (outcome : Except String Unit) (acd fun_ : Int32) (bytes : List UInt8)
    (metadata : RuleMetadata) : DepotM Unit := do
  check outcome
  modify (·.store (acd, fun_, metadata.protVer) ⟨bytes, metadata⟩)

/-- The metadata a rule is written with, after the metadata that was there before. -/
def nextMetadata (sha256Hex : List UInt8 → String) (protVer : Int32) (ver : Option Int32)
    (bytes : List UInt8) (previous : RuleMetadata) : RuleMetadata :=
  let ver := ver.getD (saturatingSucc previous.ver)
  { ver
    ruleVer := ver
    protVer
    majorVer := max previous.majorVer 1
    minorVer := previous.minorVer
    sha256 := sha256Hex bytes
    sign := "" }

/-- The file of a rule. -/
def rulePath (depotPath : String) (acd fun_ protVer : Int32) : String :=
  let dir := String.ofList (depotPath.toList.rdropWhile (· == '/'))
  s!"{dir}/{acd.toInt}-{fun_.toInt}-{protVer.toInt}.rule"

/-- Encrypt a rule into the depot and return the result document. -/
def provisionRule (sha256Hex : List UInt8 → String) (acd fun_ protVer : Int32)
    (ver : Option Int32) (ruleBytes : List UInt8) (configPath keystorePath : String)
    (steps : DepotSteps) : DepotM Value := do
  let depotPath ← check (context s!"failed to load config {configPath}" steps.loadConfig)
  check (context "failed to collect device info" steps.deviceInfo)
  check (context s!"failed to open keystore {keystorePath}" steps.openKeystore)
  -- keys that cannot be derived are no error here, and the rule is saved without one
  let key ← check (context "failed to resolve runtime AES key" steps.resolveKeys)
  check (context "failed to open rule depot" steps.openDepot)
  let protVer := max protVer 1
  let previous ← loadMetadata steps.metadataReads (acd, fun_, protVer)
  let metadata := nextMetadata sha256Hex protVer ver ruleBytes (previous.getD .default)
  withContext "failed to write depot rule" (saveRule steps.save acd fun_ ruleBytes metadata)
  return .object [
    ("acd", .ofInt64 acd.toInt64),
    ("fun", .ofInt64 fun_.toInt64),
    ("prot_ver", .ofInt64 protVer.toInt64),
    ("ver", .ofInt64 metadata.ver.toInt64),
    ("sha256", .string metadata.sha256),
    ("bytes", .number (.posInt (UInt64.ofNat ruleBytes.length))),
    ("path", .string (rulePath depotPath acd fun_ protVer)),
    ("key_present", .bool key.isSome)]

/-- The bytes of a rule text. -/
def ruleBytes (text : String) : List UInt8 := text.toUTF8.toList

namespace Depot

/-- Encrypt a rule into the depot; a result without a runtime key is an error. -/
def writeDepotRule (sha256Hex : List UInt8 → String) (cfg : RunConfig) (fun_ : Int32)
    (ver : Int64) (text : String) (steps : DepotSteps) : DepotM Unit := do
  let out ← withContext "failed to write depot rule" <|
    provisionRule sha256Hex cfg.acd fun_ 1 (some ver.toInt32) (ruleBytes text) defaultConfig
      defaultKeystore steps
  -- the rule is in the depot by now
  check (requireKeyPresent out)

/-- Write the firewall rule past the current version, then wait for the load. -/
def provisionFirewallAndroid (sha256Hex : List UInt8 → String) (cfg : RunConfig)
    (text : String) (health : Option Value) (steps : DepotSteps)
    (polls : Polls (Option Value)) : DepotM Int64 := do
  let ver := nextVer health
  writeDepotRule sha256Hex cfg cfg.funFw ver text steps
  check (waitFor "firewall_rule_ver" ver polls)
  return ver

/-- The version a health snapshot reports in a field; `none` for a failed query as well. -/
def reportedVer (field : String) (health : Option Value) : Option Int64 :=
  (health.bind (·.get field)).bind Value.asI64

/-- The text of a traffic policy. -/
def trafficRuleText (cycle : UInt64) : String := "\x7b\"cycle\":" ++ toString cycle ++ "\x7d"

/-- Write the traffic policy past the current version without waiting. -/
def writeTrafficRuleAndroid (sha256Hex : List UInt8 → String) (cfg : RunConfig)
    (cycle : UInt64) (health : Option Value) (steps : DepotSteps) : DepotM Unit := do
  let before := (reportedVer "traffic_rule_ver" health).getD (-1)
  let ver := targetVer before
  writeDepotRule sha256Hex cfg cfg.funTraffic ver (trafficRuleText cycle) steps

end Depot

/-! ## Resetting the rules -/

def defaultDepot : String := "/data/idd/rule/depot"

/-- The pattern of the files of a function, of whatever version. -/
def resetPattern (acd fun_ : Int32) : String :=
  s!"{defaultDepot}/{acd.toInt}-{fun_.toInt}-*.rule*"

/-- The command that removes the files of both functions. -/
def resetCommand (cfg : RunConfig) : String :=
  let pattern := resetPattern cfg.acd cfg.funFw
  let patternTraffic := resetPattern cfg.acd cfg.funTraffic
  s!"rm -f {pattern} {patternTraffic}"

/-- How the steps of a reset end. -/
structure ResetSteps where
  /-- Whether the shell runs. How its command ends is not looked at. -/
  shell : Except String Unit
  /-- The answer to a rule text for a function. -/
  upsert : Int32 → String → Except String Int64

/-- Restore the rules to a permissive baseline. In Android mode the provisioned depot files are
removed, in host mode a firewall rule that allows everything is upserted. -/
def resetRules (cfg : RunConfig) (steps : ResetSteps) (files : Finset String) :
    Except String Unit × Finset String :=
  match cfg.mode with
  | .android =>
    match steps.shell with
    | .ok () => (.ok (), (Glob.run (resetCommand cfg) files).getD files)
    | .error error => (.error error, files)
  | .host => ((steps.upsert cfg.funFw "chain=localin,action=P\n").map fun _ => (), files)

end FwVerify
