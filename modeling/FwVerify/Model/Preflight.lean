import FwVerify.Model.Vsoc

/-!
# Checks before a run

`preflight` looks at both sides and at VSOC before anything is run. No check keeps another one from
being made: a step that fails makes its own check fail, and all checks are printed.

## Main definitions

* `PreflightCheck` — a check, as it is printed
* `preflightChecks` — the checks of a configuration
* `preflight` — what is printed, and how it ends
-/

set_option autoImplicit false

namespace FwVerify

open Fallible Text

/-- A check: what is checked, whether it passes, and what was found. -/
structure PreflightCheck where
  label : String
  pass : Bool
  info : String

/-- A check as it is printed. -/
def PreflightCheck.line (check : PreflightCheck) : String :=
  let status := if check.pass then "ok" else "FAIL"
  s!"[{status}] {check.label}: {check.info}"

/-- Run a shell snippet and parse its output. -/
def Endpoint.runShellJson (host : Host) (json : JsonParser) (cmd : String) (endpoint : Endpoint) :
    SpawnM Value := do
  let out ← endpoint.shellFull host cmd
  check (shellJson json cmd (.ok out))

/-- What a shell snippet prints, or nothing. -/
def Endpoint.shellOrEmpty (host : Host) (cmd : String) (endpoint : Endpoint) : SpawnM String := do
  return (← caught (endpoint.shell host cmd)).toOption.getD ""

/-- The commands of the checks. -/
def healthCommand (cfg : RunConfig) : String := cfg.idpsFw ++ " health"

def depotCommand : String := "[ -d /data/idd/rule/depot ] && echo yes || echo no"

def linkCommand (cfg : RunConfig) : String :=
  s!"ping -c1 -W2 {cfg.targetIp} >/dev/null 2>&1 && echo ok"

def keystoreCommand : String := "[ -e /data/idd/keys/aes.keystore ] && echo yes || echo no"

/-- Read the health snapshot of idps-fw. -/
def readHealth (host : Host) (json : JsonParser) (cfg : RunConfig) : SpawnM Value :=
  cfg.target.runShellJson host json (healthCommand cfg)

/-- What is found of a health snapshot: the phase it shows. -/
def healthInfo : Except String Value → String
  | .ok health =>
    let phase := ((health.get "phase").bind Value.asStr).getD "?"
    s!"phase={phase}"
  | .error error => error

def workerInfo : Except String Value → String
  | .ok _ => "responds"
  | .error error => error

/-- The checks of a configuration. -/
def preflightChecks (host : Host) (json : JsonParser) (cfg : RunConfig) :
    SpawnM (List PreflightCheck) := do
  let health ← caught (readHealth host json cfg)
  let healthCheck := ⟨"idps-fw health", health.toOption.isSome, healthInfo health⟩
  let depot ← cfg.target.shellOrEmpty host depotCommand
  let depotCheck := ⟨"target depot dir", contains depot "yes", depot⟩
  let worker ← caught (cfg.peer.runAgent host json ["now"])
  let workerCheck := ⟨"peer worker re-exec", worker.toOption.isSome, workerInfo worker⟩
  let reachable ← cfg.peer.shellOrEmpty host (linkCommand cfg)
  let linkCheck := ⟨"peer->target link", contains reachable "ok", reachable⟩
  let checks := [healthCheck, depotCheck, workerCheck, linkCheck]
  if cfg.mode = .host then
    let vsocOk := (← caught (askEvents host cfg "")).toOption.isSome
    return checks ++ [⟨"vsoc api", vsocOk, if vsocOk then "reachable" else "unreachable"⟩]
  else return checks

/-- The line about the keystore, whose lack is no failure. -/
def keystoreLine (keystore : String) : String :=
  let status := if contains keystore "yes" then "ok" else "warn"
  s!"[{status}] target keystore: {keystore}"

def Mode.debug : Mode → String
  | .android => "Android"
  | .host => "Host"

/-- The last line. -/
def sidesLine (cfg : RunConfig) : String :=
  s!"\nmode={cfg.mode.debug}  TARGET={cfg.target.label} ({cfg.targetIp})  " ++
    s!"PEER={cfg.peer.label} ({cfg.peerIp})"

/-- Make the checks: what is printed, and how it ends. -/
def preflight (host : Host) (json : JsonParser) (cfg : RunConfig) :
    SpawnM (List String × Except String Unit) := do
  let checks ← preflightChecks host json cfg
  let keystore ← cfg.target.shellOrEmpty host keystoreCommand
  let lines := checks.map PreflightCheck.line ++ [keystoreLine keystore, sidesLine cfg]
  return (lines, if checks.all (·.pass) then .ok () else .error "preflight checks failed")

end FwVerify
