import FwVerify.Lib.Lines
import FwVerify.Model.Env
import Mathlib.Logic.Function.Basic

/-!
# The configuration file

How a `--config` file gets into the environment: lines of `key = value`, each setting the
variable of its key unless that is set already. Lines that are empty, comments, without `=` or
with an unknown key are skipped.

## Main definitions

* `configKeyToEnv` — the variable of a key
* `parseConfLine` — the variable and the value of a line
* `applyConfigEnv` — the environment after reading a file
-/

set_option autoImplicit false

namespace FwVerify

open Text

/-- Environment variables by name. -/
abbrev EnvVars := String → Option String

/-- The variable of a key. -/
def configKeyToEnv : String → Option String
  | "mode" => some "FWV_MODE"
  | "peer_netns" => some "FWV_PEER_NETNS"
  | "vsoc_cert" => some "FWV_VSOC_CERT"
  | "vsoc_key" => some "FWV_VSOC_KEY"
  | "vsoc_cacert" => some "FWV_VSOC_CACERT"
  | "target_iface" => some "FWV_TARGET_IFACE"
  | "peer_iface" => some "FWV_PEER_IFACE"
  | "target_ip" => some "FWV_TARGET_IP"
  | "peer_ip" => some "FWV_PEER_IP"
  | "veth_prefix" => some "FWV_VETH_PREFIX"
  | "acd" => some "FWV_ACD"
  | "fun_fw" => some "FWV_FUN_FW"
  | "fun_traffic" => some "FWV_FUN_TRAFFIC"
  | "reload_timeout_secs" => some "FWV_RELOAD_TIMEOUT_SECS"
  | "event_settle_ms" => some "FWV_EVENT_SETTLE_MS"
  | "report_confirm" => some "FWV_REPORT_CONFIRM"
  | "vsoc_url" => some "FWV_VSOC_URL"
  | "idps_fw" => some "FWV_IDPS_FW"
  | "state_db" => some "FWV_STATE_DB"
  | "app_uid" => some "FWV_APP_UID"
  | "app_identity_key" => some "FWV_APP_IDENTITY_KEY"
  | "app_pkg" => some "FWV_APP_PKG"
  | "app_name" => some "FWV_APP_NAME"
  | _ => none

/-- The text with its ASCII letters in lower case. -/
def toAsciiLowercase (s : String) : String := String.ofList (s.toList.map Char.toLower)

/-- The variable and the value a line names, if it names a known key. -/
def parseConfLine (line : String) : Option (String × String) :=
  let line := trim line
  if line.toList = [] ∨ line.toList.head? = some '#' ∨ line.toList.head? = some ';' then none
  else
    match splitOnce '=' line with
    | none => none
    | some (key, value) =>
      let key := toAsciiLowercase (trim key)
      -- quotes are stripped at either end, whether or not they pair up
      let value := trimEnds (· == '"') (trim value)
      (configKeyToEnv key).map fun var => (var, value)

/-- Set a variable unless it is set already. -/
def setDefault (env : EnvVars) (var value : String) : EnvVars :=
  if (env var).isNone then Function.update env var (some value) else env

/-- The environment after reading the content of a configuration file. -/
def applyConfigEnv (content : String) (env : EnvVars) : EnvVars :=
  (lines content).foldl (fun env line =>
    match parseConfLine line with
    | none => env
    | some (var, value) => setDefault env var value) env

end FwVerify
