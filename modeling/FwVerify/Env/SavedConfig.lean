import FwVerify.Env.Convergence
import FwVerify.Env.Detection
import FwVerify.Env.SavedTopology
import FwVerify.Model.Arguments

/-!
# A run after a setup

The file a setup leaves has everything a run needs: a run that is given it starts nothing to
resolve its configuration, and works on the pair of interfaces that the setup brought up, in the
namespace they are in. The same options without the file lead to the same addresses, detected on
that network.

## Main definitions

* `savedGlobal`, `savedConfig` — the options in the file, and the configuration of a run with it
* `GivesOnlyFile` — a command line that leaves the options to the file
* `ReachesPair` — the configuration is of the pair a network has
* `ShowsNet` — what `ip` shows of a network

## Main results

* `options_read_back` — the options read from the file
* `run_reaches_setup` — a run after a setup
-/

set_option autoImplicit false

namespace FwVerify

open Fallible FileStore Options Script Text

/-! ## The options in the file -/

/-- A certificate is written with its key, and in host mode. -/
def savesCert (global : GlobalArgs) : Bool :=
  decide (global.mode = .host) && global.vsocCert.isSome && global.vsocKey.isSome

/-- The options in the generated file; what it does not hold has its default. -/
def savedGlobal (config : Option String) (global : GlobalArgs) : GlobalArgs where
  config := config
  mode := global.mode
  peerNetns := global.peerNetns
  vsocCert := if savesCert global then global.vsocCert else none
  vsocKey := if savesCert global then global.vsocKey else none
  vsocCacert := if savesCert global then global.vsocCacert else none
  targetIface := global.targetIface
  peerIface := global.peerIface
  targetIp := some (Topology.ofGlobal global).targetIp
  peerIp := some (Topology.ofGlobal global).peerIp
  vethPrefix := 24
  acd := 1
  funFw := 1
  funTraffic := 4
  reloadTimeoutSecs := 30
  eventSettleMs := 1500
  reportConfirm := .local
  vsocUrl := if global.mode = .host then some (global.vsocUrl.getD defaultVsocUrl) else none
  idpsFw := global.idpsFw
  stateDb := global.stateDb
  appUid := global.appUid
  appIdentityKey := global.appIdentityKey
  appPkg := global.appPkg
  appName := global.appName
  report := none
  json := false

section Options

variable {global : GlobalArgs} {env : EnvVars}

/-- The entries for the VSOC dashboard. -/
theorem lookup_vsoc (topo : Topology) :
    (settings (confEntries global topo)).lookup "FWV_VSOC_URL" =
      (savedGlobal none global).vsocUrl ∧
    (settings (confEntries global topo)).lookup "FWV_VSOC_CERT" =
      (savedGlobal none global).vsocCert ∧
    (settings (confEntries global topo)).lookup "FWV_VSOC_KEY" =
      (savedGlobal none global).vsocKey ∧
    (settings (confEntries global topo)).lookup "FWV_VSOC_CACERT" =
      (savedGlobal none global).vsocCacert := by
  rw [confEntries]
  cases hmode : global.mode with
  | android =>
    rw [if_neg (by decide), List.append_nil]
    simp only [savedGlobal, savesCert, hmode]
    exact ⟨rfl, rfl, rfl, rfl⟩
  | host =>
    rw [if_pos rfl, vsocEntries, certEntries]
    cases hcert : global.vsocCert with
    | none =>
      simp only [savedGlobal, savesCert, hmode, hcert]
      exact ⟨rfl, rfl, rfl, rfl⟩
    | some cert =>
      cases hkey : global.vsocKey with
      | none =>
        simp only [savedGlobal, savesCert, hmode, hcert, hkey]
        exact ⟨rfl, rfl, rfl, rfl⟩
      | some key =>
        cases hcacert : global.vsocCacert with
        | none =>
          simp only [savedGlobal, savesCert, hmode, hcert, hkey, hcacert]
          exact ⟨rfl, rfl, rfl, rfl⟩
        | some cacert =>
          simp only [savedGlobal, savesCert, hmode, hcert, hkey, hcacert]
          exact ⟨rfl, rfl, rfl, rfl⟩

/-- The other entries. -/
theorem lookup_common (topo : Topology) (htopo : topo = Topology.ofGlobal global) (var : String)
    (value : String) (hentry : (var, value) ∈ [("FWV_MODE", global.mode.lowercase),
      ("FWV_TARGET_IFACE", global.targetIface), ("FWV_PEER_IFACE", global.peerIface),
      ("FWV_PEER_NETNS", global.peerNetns), ("FWV_TARGET_IP", topo.targetIp.display),
      ("FWV_PEER_IP", topo.peerIp.display), ("FWV_IDPS_FW", global.idpsFw),
      ("FWV_STATE_DB", global.stateDb), ("FWV_APP_UID", toString global.appUid),
      ("FWV_APP_IDENTITY_KEY", global.appIdentityKey), ("FWV_APP_PKG", global.appPkg),
      ("FWV_APP_NAME", global.appName)]) :
    (settings (confEntries global topo)).lookup var = some value := by
  subst htopo
  simp only [List.mem_cons, Prod.mk.injEq, List.not_mem_nil, or_false] at hentry
  rcases hentry with ⟨rfl, rfl⟩ | ⟨rfl, rfl⟩ | ⟨rfl, rfl⟩ | ⟨rfl, rfl⟩ | ⟨rfl, rfl⟩ | ⟨rfl, rfl⟩ |
    ⟨rfl, rfl⟩ | ⟨rfl, rfl⟩ | ⟨rfl, rfl⟩ | ⟨rfl, rfl⟩ | ⟨rfl, rfl⟩ | ⟨rfl, rfl⟩ <;> rfl

/-- What a call reads its options as, when it is given the generated file. -/
theorem options_read_back (config : Option String)
    (hplain : ∀ s ∈ confStrings global (Topology.ofGlobal global), PlainValue s)
    (hunset : ∀ var : String, "FWV_".toList <+: var.toList → env var = none) :
    GlobalArgs.ofEnv config (applyConfigEnv (fwvConfText global (Topology.ofGlobal global)) env) =
      some (savedGlobal config global) := by
  have hread (var : String) (hvar : "FWV_".toList <+: var.toList) :
      applyConfigEnv (fwvConfText global (Topology.ofGlobal global)) env var =
        (settings (confEntries global (Topology.ofGlobal global))).lookup var := by
    rw [applyConfigEnv_fwvConfText hplain, hunset var hvar, Option.none_or]
  have hcommon (var value : String) (hvar : "FWV_".toList <+: var.toList) hentry :=
    (hread var hvar).trans (lookup_common (Topology.ofGlobal global) rfl var value hentry)
  have hdefault (var : String) (hvar : var ∈ unwrittenVars) :=
    (hread var (unwrittenVars_spec var hvar).2).trans
      (lookup_settings_eq_none (not_written (unwrittenVars_spec var hvar).1))
  obtain ⟨hurl, hcert, hkey, hcacert⟩ := @lookup_vsoc global (Topology.ofGlobal global)
  rw [← hread _ (by decide)] at hurl hcert hkey hcacert
  generalize applyConfigEnv (fwvConfText global (Topology.ofGlobal global)) env = read
    at hcommon hdefault hurl hcert hkey hcacert ⊢
  simp only [List.mem_cons, Prod.mk.injEq] at hcommon
  have hmode : envArg read "FWV_MODE" Mode.parse = some (some global.mode) :=
    envArg_some (hcommon "FWV_MODE" _ (by decide) (by simp)) (Mode.parse_lowercase _)
  have htargetIp : envArg read "FWV_TARGET_IP" IpAddr.parse =
      some (some (Topology.ofGlobal global).targetIp) :=
    envArg_some (hcommon "FWV_TARGET_IP" _ (by decide) (by simp)) (IpAddr.parse_display _)
  have hpeerIp : envArg read "FWV_PEER_IP" IpAddr.parse =
      some (some (Topology.ofGlobal global).peerIp) :=
    envArg_some (hcommon "FWV_PEER_IP" _ (by decide) (by simp)) (IpAddr.parse_display _)
  have happUid : envArg read "FWV_APP_UID" (parseRanged (2 ^ 32 - 1)) =
      some (some global.appUid.toNat) :=
    envArg_some (hcommon "FWV_APP_UID" _ (by decide) (by simp)) (parseRanged_uid _)
  have hnetns : read "FWV_PEER_NETNS" = some global.peerNetns :=
    hcommon _ _ (by decide) (by simp)
  have htargetIface : read "FWV_TARGET_IFACE" = some global.targetIface :=
    hcommon _ _ (by decide) (by simp)
  have hpeerIface : read "FWV_PEER_IFACE" = some global.peerIface :=
    hcommon _ _ (by decide) (by simp)
  have hidpsFw : read "FWV_IDPS_FW" = some global.idpsFw := hcommon _ _ (by decide) (by simp)
  have hstateDb : read "FWV_STATE_DB" = some global.stateDb := hcommon _ _ (by decide) (by simp)
  have hkeyId : read "FWV_APP_IDENTITY_KEY" = some global.appIdentityKey :=
    hcommon _ _ (by decide) (by simp)
  have hpkg : read "FWV_APP_PKG" = some global.appPkg := hcommon _ _ (by decide) (by simp)
  have hname : read "FWV_APP_NAME" = some global.appName := hcommon _ _ (by decide) (by simp)
  have hunwritten (var : String) (hvar : var ∈ unwrittenVars) {α : Type}
      (parse : String → Option α) : envArg read var parse = some none :=
    envArg_none (hdefault var hvar)
  simp only [unwrittenVars, List.mem_cons] at hunwritten
  simp only [GlobalArgs.ofEnv, envArg_string, hmode, htargetIp, hpeerIp, happUid, hnetns,
    htargetIface, hpeerIface, hidpsFw, hstateDb, hkeyId, hpkg, hname, hurl, hcert, hkey, hcacert,
    hunwritten "FWV_VETH_PREFIX" (by simp), hunwritten "FWV_ACD" (by simp),
    hunwritten "FWV_FUN_FW" (by simp), hunwritten "FWV_FUN_TRAFFIC" (by simp),
    hunwritten "FWV_RELOAD_TIMEOUT_SECS" (by simp), hunwritten "FWV_EVENT_SETTLE_MS" (by simp),
    hunwritten "FWV_REPORT_CONFIRM" (by simp), Option.bind_eq_bind, Option.bind_some,
    Option.map_some, Option.getD_some, UInt32.ofNat_toNat]
  rfl

end Options

/-! ## The configuration of a run -/

/-- The configuration of a run that is given the generated file. -/
def savedConfig (global : GlobalArgs) : RunConfig :=
  (savedGlobal none global).runConfig (Topology.ofGlobal global).targetIp
    (Topology.ofGlobal global).peerIp

/-- The options of a call after a setup. -/
def globalAfter (args : List String) (global : GlobalArgs) (steps : SetupSteps) (files : Files)
    (env : EnvVars) : Option GlobalArgs := do
  let cli ← Cli.parse args.tail
  GlobalArgs.ofCall cli (loadConfig args (FileM.exec (setup global steps) files).2 env)

/-- The command line gives no option that has a variable; `--config`, `--report` and `--json` have
none. -/
structure GivesOnlyFile (cli : Cli) : Prop where
  globals : ∀ entry ∈ optionVars, values entry.2 cli.globals = []
  mode : values "mode" cli.own = []

/-- Options that are read have read the mode. -/
theorem isSome_mode_of_ofEnv {config : Option String} {env : EnvVars} {global : GlobalArgs}
    (hglobal : GlobalArgs.ofEnv config env = some global) :
    (envArg env "FWV_MODE" Mode.parse).isSome := by
  cases hmode : envArg env "FWV_MODE" Mode.parse with
  | some mode => rfl
  | none =>
    rw [GlobalArgs.ofEnv, hmode] at hglobal
    cases hglobal

/-- Where the command line gives no option with a variable, the environment decides. -/
theorem ofCall_of_givesOnlyFile {cli : Cli} (hgives : GivesOnlyFile cli) {env : EnvVars}
    {global : GlobalArgs} (hglobal : GlobalArgs.ofEnv cli.config env = some global) :
    GlobalArgs.ofCall cli env = some { global with
      report := (values "report" cli.globals).head?
      json := flagCount "json" cli.globals != 0 } := by
  have hoverlay : cli.overlay env = env := by
    funext var
    rw [Cli.overlay]
    cases hname : optionVars.lookup var with
    | none => rfl
    | some name =>
      rw [Option.bind_some, hgives.globals (var, name) (Lookups.mem_of_lookup hname)]
      rfl
  obtain ⟨mode, hmode⟩ := Option.isSome_iff_exists.mp (isSome_mode_of_ofEnv hglobal)
  rw [GlobalArgs.ofCall, hoverlay, hglobal, hgives.mode]
  dsimp only [List.head?_nil]
  rw [hmode]
  rfl

/-- A configuration whose addresses are given is resolved without starting anything. -/
theorem exec_resolve_given {global : GlobalArgs} {targetIp peerIp : IpAddr} (host : Host)
    (before : List SpawnAttempt) (htarget : global.targetIp = some targetIp)
    (hpeer : global.peerIp = some peerIp) :
    exec (RunConfig.resolve host global) before =
      (.ok (global.runConfig targetIp peerIp), before) := by
  rw [RunConfig.resolve, htarget, hpeer]
  rfl

/-! ## On the network -/

/-- The side a place is of. -/
def endpointOf : Option String → Endpoint
  | none => .local
  | some name => .netns name

/-- The configuration is of a pair the network has: up, with their addresses, the PEER's end in
its namespace. -/
def ReachesPair (cfg : RunConfig) (net : Net) : Prop :=
  ∃ (targetEnd peerEnd : VethEnd) (prefixLen : UInt8), (targetEnd, peerEnd) ∈ net.pairs ∧
    cfg.target = endpointOf targetEnd.place ∧ cfg.peer = endpointOf peerEnd.place ∧
    cfg.peerIface = peerEnd.name ∧ targetEnd.up = true ∧ peerEnd.up = true ∧
    targetEnd.addrs = [s!"{cfg.targetIp}/{prefixLen}"] ∧
    peerEnd.addrs = [s!"{cfg.peerIp}/{prefixLen}"]

/-- The machine's `ip` shows the address of a device with one, behind the first `inet`. -/
def ShowsNet (host : Host) (net : Net) : Prop :=
  ∀ e ∈ net.ends, ∀ (ip : Ipv4Addr) (prefixLen : UInt8), e.addrs = [ip.cidr prefixLen] →
    ∃ out front back, host.Ends ["sh", "-c", showAddr e.name] out (endpointOf e.place) ∧
      out.stdout = front ++ " inet " ++ ip.cidr prefixLen ++ " " ++ back ∧ "inet" ∉ words front

/-- The same options without addresses. -/
def withoutAddresses (global : GlobalArgs) : GlobalArgs :=
  { global with targetIp := none, peerIp := none }

section Network

variable {global : GlobalArgs} {net₀ : Net}

theorem reachesPair_deployed (global : GlobalArgs) (net₀ : Net) :
    ReachesPair (savedConfig global) (deployed (Topology.ofGlobal global) net₀) :=
  ⟨_, _, global.vethPrefix, List.mem_cons_self, rfl, rfl, rfl, rfl, rfl, rfl, rfl⟩

/-- An address of a device of the network is detected. -/
theorem addressOf_shown {host : Host} {net : Net} (hshows : ShowsNet host net) {e : VethEnd}
    (he : e ∈ net.ends) {ip : Ipv4Addr} (prefixLen : UInt8)
    (haddrs : e.addrs = [ip.cidr prefixLen]) :
    AddressOf host none (endpointOf e.place) e.name (.v4 ip) := by
  obtain ⟨out, front, back, hends, hstdout, hfront⟩ := hshows e he ip prefixLen haddrs
  have hline := showsInet_line back ip prefixLen hfront
  rw [← hstdout] at hline
  refine .inr ⟨rfl, out, ip, hends, ?_, rfl⟩
  rw [ShowsInet, words_trim]
  exact hline

/-- On the network of a setup the addresses that are not given are detected. -/
theorem resolve_deployed {host : Host} {targetIp peerIp : Ipv4Addr}
    (htarget : (Topology.ofGlobal global).targetIp = .v4 targetIp)
    (hpeer : (Topology.ofGlobal global).peerIp = .v4 peerIp)
    (hshows : ShowsNet host (deployed (Topology.ofGlobal global) net₀)) :
    ∃ attempts, exec (RunConfig.resolve host (withoutAddresses global)) [] =
      (.ok (global.runConfig (.v4 targetIp) (.v4 peerIp)), attempts) := by
  obtain ⟨result, onTarget, onPeer, hexec, -, -, hresult⟩ :=
    resolve_spec host [] (withoutAddresses global)
  have htargetIp : AddressOf host none .local global.targetIface (.v4 targetIp) :=
    addressOf_shown hshows List.mem_cons_self global.vethPrefix (by rw [htarget]; rfl)
  have hpeerIp : AddressOf host none (.netns global.peerNetns) global.peerIface (.v4 peerIp) :=
    addressOf_shown hshows (List.mem_cons_of_mem _ List.mem_cons_self) global.vethPrefix
      (by rw [hpeer]; rfl)
  have hok := (hresult (global.runConfig (.v4 targetIp) (.v4 peerIp))).mpr
    ⟨.v4 targetIp, .v4 peerIp, htargetIp, hpeerIp, rfl⟩
  rw [hok] at hexec
  exact ⟨_, hexec⟩

end Network

/-- **A run after a setup.** After any history of setups that were cut or completed, let one more go
through. A run that is given the generated file, and no other option with a variable, reads a
configuration from it without starting anything, and this configuration is of the pair the setup
brought up. The same options without addresses resolve to the same addresses, wherever `ip` shows
those of the network. -/
theorem run_reaches_setup (global : GlobalArgs) (steps : SetupSteps) (files : Files) (env : EnvVars)
    (args : List String) (cli : Cli) (net₀ net t : Net) (hcli : Cli.parse args.tail = some cli)
    (hargs : configPath args = some fwvConf) (hgives : GivesOnlyFile cli)
    (hplain : ∀ s ∈ confStrings global (Topology.ofGlobal global), PlainValue s)
    (hunset : ∀ var : String, "FWV_".toList <+: var.toList → env var = none)
    (hstaged : Staged steps files) (hconf : steps.writeConf = true)
    (habsent : Absent (Topology.ofGlobal global) net₀)
    (hhistory : History (Topology.ofGlobal global) net₀ net)
    (hends : (setupTopology (Topology.ofGlobal global)).Ends IpStep net (.ok ()) t) :
    (∃ global', globalAfter args global steps files env = some global' ∧
      ∀ (host : Host) (before : List SpawnAttempt),
        exec (RunConfig.resolve host global') before = (.ok (savedConfig global), before)) ∧
    ReachesPair (savedConfig global) t ∧
    ∀ (host : Host) (targetIp peerIp : Ipv4Addr), ShowsNet host t →
      (savedConfig global).targetIp = .v4 targetIp → (savedConfig global).peerIp = .v4 peerIp →
      ∃ attempts, exec (RunConfig.resolve host (withoutAddresses global)) [] =
        (.ok (global.runConfig (.v4 targetIp) (.v4 peerIp)), attempts) := by
  obtain rfl := ((setup_brings habsent (hhistory.residue habsent)).ends hends rfl : t = _)
  refine ⟨⟨{ savedGlobal cli.config global with
      report := (values "report" cli.globals).head?
      json := flagCount "json" cli.globals != 0 }, ?_, fun host before => ?_⟩,
    reachesPair_deployed global net₀, fun host targetIp peerIp hshows htarget hpeer => ?_⟩
  · have hread := options_read_back cli.config hplain hunset
    rw [globalAfter, hcli, loadConfig, hargs]
    dsimp only [Option.bind_eq_bind, Option.bind_some]
    rw [conf_of_setup hstaged hconf]
    exact ofCall_of_givesOnlyFile hgives hread
  · exact exec_resolve_given host before rfl rfl
  · exact resolve_deployed htarget hpeer hshows

/-- The command line of a run that is given the generated file and writes a report. -/
def runArgs : List String :=
  ["fw-verify", "--config", fwvConf, "--report", "report.json", "run-group", "ingress"]

/-- The command line as it is read. -/
def runCli : Cli where
  globals := [.option "config" fwvConf, .option "report" "report.json"]
  rest := ["ingress"]
  names := ["run-group"]
  own := [.positional "ingress"]

/-- A machine that starts no program. -/
def idleHost : Host where
  pathExists := fun _ => false
  spawn := fun _ => .error ⟨true, "No such file or directory"⟩
  currentExe := .error "No such file or directory"

/-- A run after a first setup with the default options needs no program to know its addresses. -/
theorem run_reaches_setup_default :
    ReachesPair (savedConfig .default) (deployed (Topology.ofGlobal .default) ⟨[], [], 0⟩) ∧
      ∃ global', globalAfter runArgs .default smoothSetup (fun _ => none) (fun _ => none) =
          some global' ∧
        exec (RunConfig.resolve idleHost global') [] = (.ok (savedConfig .default), []) := by
  have habsent : Absent (Topology.ofGlobal .default) ⟨[], [], 0⟩ :=
    ⟨fun _ h => absurd h List.not_mem_nil, fun _ h => absurd h List.not_mem_nil,
      fun _ h => absurd h List.not_mem_nil, Multiset.notMem_zero _⟩
  have hends : (setupTopology (Topology.ofGlobal .default)).Ends IpStep ⟨[], [], 0⟩ (.ok ())
      (deployed (Topology.ofGlobal .default) ⟨[], [], 0⟩) :=
    ends_evaluate IpStep.act (setupTopology (Topology.ofGlobal .default)) ⟨[], [], 0⟩
  have hgives : GivesOnlyFile runCli := ⟨by decide, rfl⟩
  obtain ⟨⟨global', hread, hresolve⟩, hreaches, -⟩ :=
    run_reaches_setup .default smoothSetup (fun _ => none) (fun _ => none) runArgs runCli
      ⟨[], [], 0⟩ ⟨[], [], 0⟩ _ (by decide) (by decide) hgives plainValue_default (fun _ _ => rfl)
      staged_smoothSetup rfl habsent .refl hends
  exact ⟨hreaches, global', hread, hresolve idleHost []⟩

end FwVerify
