import FwVerify.Env.ConfRoundTrip
import FwVerify.Env.ConfigSafety
import FwVerify.Model.Cli
import FwVerify.Model.Topology

/-!
# The topology a clean addresses

A `clean-env` that is given the generated configuration reads back every part of the topology
but the prefix length, which the file does not hold: it takes the default. So it removes the
namespace and the pair of the setup, and the policy rule of a subnet that is the setup's only
for the default prefix length.

## Main results

* `topology_reads_back` — the topology that is read back
* `Topology.prefixLen_eq_of_subnet` — the subnet tells the prefix length
* `clean_addresses_setup_iff` — when a clean addresses what the setup created
-/

set_option autoImplicit false

namespace FwVerify

open FileStore Text

/-! ## What setup leaves for the next call -/

theorem leaves_restoreFwConfig {path : String} (copies removes : Bool) (hconfig : path ≠ fwConfig)
    (hbackup : path ≠ fwBackup) : Leaves path (restoreFwConfig copies removes) := by
  refine .bind (.pathExists _) fun kept => ?_
  cases kept with
  | false => exact .pure _
  | true =>
    refine .bind (.copy hconfig _) fun copied => ?_
    cases copied with
    | false => exact .pure _
    | true => exact .bind (.remove hbackup _) fun _ => .pure _

/-- Nothing after the generated files are written touches `fw-verify.conf`. -/
theorem leaves_activate (global : GlobalArgs) (steps : SetupSteps) :
    Leaves fwvConf (activate global steps) := by
  rw [activate]
  split
  · refine .bind (leaves_ensureKeystoreAndroid global _ (by decide) (by decide)) fun _ =>
      .bind (.stopOnError _) fun _ => .ite _ (.pure _) ?_
    exact .bind (leaves_restoreFwConfig _ _ (by decide) (by decide)) fun _ =>
      .bind (.ignoring (.stopOnError _)) fun _ => .throw _
  · exact .pure _

/-- A setup that gets past writing its files leaves the generated one, however it ends. -/
theorem conf_of_setup {global : GlobalArgs} {steps : SetupSteps} {files : Files}
    (hstaged : Staged steps files) (hconf : steps.writeConf = true) :
    (FileM.exec (setup global steps) files).2 fwvConf =
      some (fwvConfText global (Topology.ofGlobal global)) := by
  have hwrite (files₁ : Files) : FileM.exec (do
      writeFwvConf true global (Topology.ofGlobal global)
      activate global steps) files₁ =
        FileM.exec (activate global steps) (Function.update files₁ fwvConf
          (some (fwvConfText global (Topology.ofGlobal global)))) := by
    simp [writeFwvConf]
  rw [exec_setup_of_staged global steps files hstaged, hconf, hwrite,
    leaves_activate global steps, Function.update_self]

/-! ## The options read back -/

section ReadsBack

variable {α : Type} {env : EnvVars} {var text : String} {parse : String → Option α} {a : α}

theorem envArg_some (henv : env var = some text) (hparse : parse text = some a) :
    envArg env var parse = some (some a) := by
  rw [envArg, henv]
  dsimp only
  rw [hparse, Option.map_some]

theorem envArg_none (henv : env var = none) : envArg env var parse = some none := by
  rw [envArg, henv]

/-- Every text is a string. -/
theorem envArg_string : envArg env var some = some (env var) := by
  rw [envArg]
  cases env var <;> rfl

end ReadsBack

theorem Mode.parse_lowercase (mode : Mode) : Mode.parse mode.lowercase = some mode := by
  cases mode <;> rfl

theorem parseRanged_uid (uid : UInt32) :
    parseRanged (2 ^ 32 - 1) (toString uid) = some uid.toNat := by
  have hlt := uid.toNat_lt
  change parseRanged (2 ^ 32 - 1) uid.toNat.repr = _
  rw [parseRanged, parseSigned_repr (by omega) (by omega)]
  rfl

/-- The variables no generated file sets. -/
def unwrittenVars : List String :=
  ["FWV_VETH_PREFIX", "FWV_ACD", "FWV_FUN_FW", "FWV_FUN_TRAFFIC", "FWV_RELOAD_TIMEOUT_SECS",
    "FWV_EVENT_SETTLE_MS", "FWV_REPORT_CONFIRM"]

theorem unwrittenVars_spec : ∀ var ∈ unwrittenVars,
    (∀ key ∈ confKeys, configKeyToEnv key ≠ some var) ∧ "FWV_".toList <+: var.toList := by
  decide

theorem not_written {global : GlobalArgs} {topo : Topology} {var : String}
    (hvar : ∀ key ∈ confKeys, configKeyToEnv key ≠ some var) :
    ∀ entry ∈ confEntries global topo, configKeyToEnv entry.1 ≠ some var :=
  fun _ hentry => hvar _ ((confEntries_keys global topo).subset (List.mem_map_of_mem hentry))

/-- The options read from the generated file give the topology of the setup, with the default
prefix length. -/
theorem topology_reads_back {global : GlobalArgs} {env : EnvVars} (config : Option String)
    (hplain : ∀ s ∈ confStrings global (Topology.ofGlobal global), PlainValue s)
    (hunset : ∀ var : String, "FWV_".toList <+: var.toList → env var = none) :
    ∃ global', GlobalArgs.ofEnv config
        (applyConfigEnv (fwvConfText global (Topology.ofGlobal global)) env) = some global' ∧
      Topology.ofGlobal global' = { Topology.ofGlobal global with prefixLen := 24 } := by
  have hentry (key : String) {value var : String}
      (hmem : (key, value) ∈ commonEntries global (Topology.ofGlobal global))
      (hvar : configKeyToEnv key = some var) :=
    applyConfigEnv_entry hplain hunset (List.mem_append_left _ hmem) hvar
  have hdefault {var : String} (hvar : var ∈ unwrittenVars) :=
    (applyConfigEnv_unwritten hplain (not_written (unwrittenVars_spec var hvar).1)).trans
      (hunset var (unwrittenVars_spec var hvar).2)
  generalize applyConfigEnv (fwvConfText global (Topology.ofGlobal global)) env = read
    at hentry hdefault ⊢
  simp only [commonEntries, List.mem_cons, Prod.mk.injEq] at hentry
  have hmode : envArg read "FWV_MODE" Mode.parse = some (some global.mode) :=
    envArg_some (hentry "mode" (by simp) rfl) (Mode.parse_lowercase _)
  have htargetIp : envArg read "FWV_TARGET_IP" IpAddr.parse =
      some (some (Topology.ofGlobal global).targetIp) :=
    envArg_some (hentry "target_ip" (by simp) rfl) (IpAddr.parse_display _)
  have hpeerIp : envArg read "FWV_PEER_IP" IpAddr.parse =
      some (some (Topology.ofGlobal global).peerIp) :=
    envArg_some (hentry "peer_ip" (by simp) rfl) (IpAddr.parse_display _)
  have hpeerNetns : read "FWV_PEER_NETNS" = some global.peerNetns :=
    hentry "peer_netns" (by simp [Topology.ofGlobal]) rfl
  have htargetIface : read "FWV_TARGET_IFACE" = some global.targetIface :=
    hentry "target_iface" (by simp [Topology.ofGlobal]) rfl
  have hpeerIface : read "FWV_PEER_IFACE" = some global.peerIface :=
    hentry "peer_iface" (by simp [Topology.ofGlobal]) rfl
  have happUid : envArg read "FWV_APP_UID" (parseRanged (2 ^ 32 - 1)) =
      some (some global.appUid.toNat) :=
    envArg_some (hentry "app_uid" (by simp) rfl) (parseRanged_uid _)
  have hunwritten (var : String) (hvar : var ∈ unwrittenVars) {α : Type}
      (parse : String → Option α) : envArg read var parse = some none :=
    envArg_none (hdefault hvar)
  simp only [unwrittenVars, List.mem_cons] at hunwritten
  simp only [GlobalArgs.ofEnv, envArg_string, hmode, htargetIp, hpeerIp, happUid,
    hunwritten "FWV_VETH_PREFIX" (by simp), hunwritten "FWV_ACD" (by simp),
    hunwritten "FWV_FUN_FW" (by simp), hunwritten "FWV_FUN_TRAFFIC" (by simp),
    hunwritten "FWV_RELOAD_TIMEOUT_SECS" (by simp), hunwritten "FWV_EVENT_SETTLE_MS" (by simp),
    hunwritten "FWV_REPORT_CONFIRM" (by simp), Option.bind_eq_bind, Option.bind_some]
  refine ⟨_, rfl, ?_⟩
  simp only [Topology.ofGlobal, hpeerNetns, htargetIface, hpeerIface, Option.getD_some]
  rfl

/-! ## The subnet -/

/-- The subnet ends in the prefix length. -/
theorem Topology.splitOnce_subnet (topo : Topology) :
    ∃ network : IpAddr,
      splitOnce '/' topo.subnet = some (network.display, toString topo.prefixLen) := by
  have hslash (network : IpAddr) : '/' ∉ network.display.toList :=
    network.not_mem_display (by decide) (by decide) (by decide) (by decide)
  rw [Topology.subnet]
  exact ⟨_, splitOnce_append '/' _ _ (hslash _)⟩

/-- Topologies of different prefix lengths have different subnets. -/
theorem Topology.prefixLen_eq_of_subnet {topo topo' : Topology}
    (hsubnet : topo'.subnet = topo.subnet) : topo'.prefixLen = topo.prefixLen := by
  obtain ⟨network, hsplit⟩ := topo.splitOnce_subnet
  obtain ⟨network', hsplit'⟩ := topo'.splitOnce_subnet
  rw [hsubnet, hsplit] at hsplit'
  have htext : toString topo.prefixLen = toString topo'.prefixLen :=
    (Prod.mk.inj (Option.some.inj hsplit')).2
  have hparse := Ipv4Addr.parseOctet_toString topo'.prefixLen
  rw [← htext, Ipv4Addr.parseOctet_toString] at hparse
  exact (Option.some.inj hparse).symm

/-! ## The clean -/

/-- The command line of a clean that is given the generated configuration. -/
def cleanArgs : List String := ["fw-verify", "--config", fwvConf, "clean-env"]

/-- The options of that clean, after a setup that got past writing its files. -/
def cleanGlobal (global : GlobalArgs) (steps : SetupSteps) (files : Files) (env : EnvVars) :
    Option GlobalArgs :=
  GlobalArgs.ofEnv (configPath cleanArgs)
    (loadConfig cleanArgs (FileM.exec (setup global steps) files).2 env)

theorem cleanGlobal_topology {global : GlobalArgs} {steps : SetupSteps} {files : Files}
    {env : EnvVars} (hplain : ∀ s ∈ confStrings global (Topology.ofGlobal global), PlainValue s)
    (hstaged : Staged steps files) (hconf : steps.writeConf = true)
    (hunset : ∀ var : String, "FWV_".toList <+: var.toList → env var = none) :
    ∃ global', cleanGlobal global steps files env = some global' ∧
      Topology.ofGlobal global' = { Topology.ofGlobal global with prefixLen := 24 } := by
  have hpath : configPath cleanArgs = some fwvConf := by decide
  rw [cleanGlobal, loadConfig, hpath]
  dsimp only
  rw [conf_of_setup hstaged hconf]
  exact topology_reads_back _ hplain hunset

/-- A clean that is given the generated configuration reads the topology of the setup back in
every part, and addresses the subnet of its policy rule, exactly when the setup had the default
prefix length. -/
theorem clean_addresses_setup_iff (global : GlobalArgs) (steps : SetupSteps) (files : Files)
    (env : EnvVars) (hplain : ∀ s ∈ confStrings global (Topology.ofGlobal global), PlainValue s)
    (hstaged : Staged steps files) (hconf : steps.writeConf = true)
    (hunset : ∀ var : String, "FWV_".toList <+: var.toList → env var = none) :
    ∃ global', cleanGlobal global steps files env = some global' ∧
      (Topology.ofGlobal global' = Topology.ofGlobal global ↔ global.vethPrefix = 24) ∧
      ((Topology.ofGlobal global').subnet = (Topology.ofGlobal global).subnet ↔
        global.vethPrefix = 24) := by
  obtain ⟨global', hread, htopo⟩ := cleanGlobal_topology hplain hstaged hconf hunset
  have hsame : Topology.ofGlobal global' = Topology.ofGlobal global ↔ global.vethPrefix = 24 := by
    rw [htopo]
    constructor
    · intro heq
      exact (congrArg Topology.prefixLen heq).symm
    · intro hdefault
      rw [← hdefault]
      rfl
  refine ⟨global', hread, hsame, fun hsubnet => ?_, fun hdefault => ?_⟩
  · have hlen := Topology.prefixLen_eq_of_subnet hsubnet
    rw [htopo] at hlen
    exact hlen.symm
  · rw [hsame.mpr hdefault]

theorem staged_smoothSetup : Staged smoothSetup (fun _ => none) where
  topology := rfl
  directory := rfl
  backup := fun _ _ => rfl
  config := rfl

/-- The default options with the given prefix length. -/
def withPrefix (prefixLen : UInt8) : GlobalArgs :=
  { GlobalArgs.default with vethPrefix := prefixLen }

theorem plain_withPrefix (prefixLen : UInt8) :
    ∀ s ∈ confStrings (withPrefix prefixLen) (Topology.ofGlobal (withPrefix prefixLen)),
      PlainValue s := plainValue_default

/-- A clean after a default setup. -/
theorem clean_addresses_setup_default :
    ∃ global', cleanGlobal (withPrefix 24) smoothSetup (fun _ => none) (fun _ => none) =
        some global' ∧
      Topology.ofGlobal global' = Topology.ofGlobal (withPrefix 24) := by
  obtain ⟨global', hread, hsame, -⟩ := clean_addresses_setup_iff (withPrefix 24) smoothSetup
    (fun _ => none) (fun _ => none) (plain_withPrefix 24) staged_smoothSetup rfl fun _ _ => rfl
  exact ⟨global', hread, hsame.mpr rfl⟩

/-- After a setup with a `/16` the clean works on the topology of a `/24`. -/
theorem clean_misses_wide_subnet :
    ¬ ∀ (global : GlobalArgs) (steps : SetupSteps) (files : Files) (env : EnvVars),
      (∀ s ∈ confStrings global (Topology.ofGlobal global), PlainValue s) →
      Staged steps files → steps.writeConf = true →
      (∀ var : String, "FWV_".toList <+: var.toList → env var = none) →
      ∃ global', cleanGlobal global steps files env = some global' ∧
        Topology.ofGlobal global' = Topology.ofGlobal global := by
  intro haddresses
  have hplain := plain_withPrefix 16
  have hunset : ∀ var : String, "FWV_".toList <+: var.toList → (none : Option String) = none :=
    fun _ _ => rfl
  obtain ⟨global', hread, hsame⟩ := haddresses (withPrefix 16) smoothSetup (fun _ => none)
    (fun _ => none) hplain staged_smoothSetup rfl hunset
  obtain ⟨global'', hread', htopo⟩ := cleanGlobal_topology hplain staged_smoothSetup rfl hunset
  rw [hread] at hread'
  cases hread'
  rw [hsame] at htopo
  have hlen : (16 : UInt8) = 24 := congrArg Topology.prefixLen htopo
  revert hlen
  decide

end FwVerify
