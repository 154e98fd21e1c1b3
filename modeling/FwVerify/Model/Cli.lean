import FwVerify.Lib.Files
import FwVerify.Model.ConfFile
import FwVerify.Model.NetParser
import Mathlib.Algebra.Group.Int.Defs

/-!
# The options of a call

How the options of a call come about when the command line has none of them: the file given
with `--config` sets the variables that are unset, and each option is read from its variable,
or else takes its default. A variable that does not read as a value of its option stops the
program.

## Main definitions

* `configPath`, `loadConfig` — the file a command line names, and the environment it leaves
* `GlobalArgs.ofEnv` — the options read from an environment
-/

set_option autoImplicit false

namespace FwVerify

open FileStore Text

/-- The file the command line names, the last one if there are several. -/
def configPath (args : List String) : Option String :=
  args.zipIdx.foldl (fun path (arg, index) =>
    if arg = "--config" then args[index + 1]?
    else
      match "--config=".toList.isPrefixOf? arg.toList with
      | some rest => some (String.ofList rest)
      | none => path) none

/-- The environment once the file the command line names is read. A file that cannot be read
is only noted. -/
def loadConfig (args : List String) (files : Files) (env : EnvVars) : EnvVars :=
  match configPath args with
  | none => env
  | some path =>
    match files path with
    | none => env
    | some content => applyConfigEnv content env

def Mode.parse : String → Option Mode
  | "android" => some .android
  | "host" => some .host
  | _ => none

def ReportConfirm.parse : String → Option ReportConfirm
  | "local" => some .local
  | "server" => some .server
  | "vsoc" => some .vsoc
  | _ => none

/-- Read a number of at most `high` by way of `i64`. -/
def parseRanged (high : Int) (s : String) : Option Nat := (parseSigned 0 high s).map Int.toNat

def parseI32 (s : String) : Option Int32 := (parseSigned (-2 ^ 31) (2 ^ 31 - 1) s).map Int32.ofInt

/-- Read an option from its variable; the outer `none` is a variable that does not parse. -/
def envArg {α : Type} (env : EnvVars) (var : String) (parse : String → Option α) :
    Option (Option α) :=
  match env var with
  | none => some none
  | some text => (parse text).map some

/-- The options of a call that gives at most a configuration file on its command line. -/
def GlobalArgs.ofEnv (config : Option String) (env : EnvVars) : Option GlobalArgs := do
  let mode ← envArg env "FWV_MODE" Mode.parse
  let peerNetns ← envArg env "FWV_PEER_NETNS" some
  let vsocCert ← envArg env "FWV_VSOC_CERT" some
  let vsocKey ← envArg env "FWV_VSOC_KEY" some
  let vsocCacert ← envArg env "FWV_VSOC_CACERT" some
  let targetIface ← envArg env "FWV_TARGET_IFACE" some
  let peerIface ← envArg env "FWV_PEER_IFACE" some
  let targetIp ← envArg env "FWV_TARGET_IP" IpAddr.parse
  let peerIp ← envArg env "FWV_PEER_IP" IpAddr.parse
  let vethPrefix ← envArg env "FWV_VETH_PREFIX" (parseRanged 255)
  let acd ← envArg env "FWV_ACD" parseI32
  let funFw ← envArg env "FWV_FUN_FW" parseI32
  let funTraffic ← envArg env "FWV_FUN_TRAFFIC" parseI32
  let reloadTimeoutSecs ← envArg env "FWV_RELOAD_TIMEOUT_SECS" (parseUnsigned (2 ^ 64))
  let eventSettleMs ← envArg env "FWV_EVENT_SETTLE_MS" (parseUnsigned (2 ^ 64))
  let reportConfirm ← envArg env "FWV_REPORT_CONFIRM" ReportConfirm.parse
  let vsocUrl ← envArg env "FWV_VSOC_URL" some
  let idpsFw ← envArg env "FWV_IDPS_FW" some
  let stateDb ← envArg env "FWV_STATE_DB" some
  let appUid ← envArg env "FWV_APP_UID" (parseRanged (2 ^ 32 - 1))
  let appIdentityKey ← envArg env "FWV_APP_IDENTITY_KEY" some
  let appPkg ← envArg env "FWV_APP_PKG" some
  let appName ← envArg env "FWV_APP_NAME" some
  let default := GlobalArgs.default
  return {
    config
    mode := mode.getD default.mode
    peerNetns := peerNetns.getD default.peerNetns
    vsocCert, vsocKey, vsocCacert
    targetIface := targetIface.getD default.targetIface
    peerIface := peerIface.getD default.peerIface
    targetIp, peerIp
    vethPrefix := (vethPrefix.map UInt8.ofNat).getD default.vethPrefix
    acd := acd.getD default.acd
    funFw := funFw.getD default.funFw
    funTraffic := funTraffic.getD default.funTraffic
    reloadTimeoutSecs := (reloadTimeoutSecs.map UInt64.ofNat).getD default.reloadTimeoutSecs
    eventSettleMs := (eventSettleMs.map UInt64.ofNat).getD default.eventSettleMs
    reportConfirm := reportConfirm.getD default.reportConfirm
    vsocUrl
    idpsFw := idpsFw.getD default.idpsFw
    stateDb := stateDb.getD default.stateDb
    appUid := (appUid.map UInt32.ofNat).getD default.appUid
    appIdentityKey := appIdentityKey.getD default.appIdentityKey
    appPkg := appPkg.getD default.appPkg
    appName := appName.getD default.appName
    report := none
    json := false }

/-- Without variables of the tool every option has its default. -/
example : GlobalArgs.ofEnv none (fun _ => none) = some .default := rfl

end FwVerify
