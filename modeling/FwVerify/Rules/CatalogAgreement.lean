import FwVerify.Peer.CommandLine
import FwVerify.Peer.Verdict
import FwVerify.Rules.Bundles
import FwVerify.Rules.Network
import FwVerify.Verify.Judging

/-!
# The catalog agrees with the rule language

Four tables are edited by hand: the rule texts, the cases with their traffic, the listeners
and the expected outcomes. Here the probes of every case outside the traffic group are
evaluated under the rules of its bundle, and the outcome is the expected one whatever the
addresses, the identity key and the surroundings are.

The addresses of a bundle never decide: on the chain of a case's traffic every address
pattern of its bundle matches. What is left is a table without addresses, in which the
remaining unknowns are never looked at, so that it can be evaluated as it stands.

## Main definitions

* `caseRuling`, `caseFate` — the deciding rule and the fate of a probe of a case
* `Agreement` — a case expects what its probes come to
* `tableAgrees` — the same over the table

## Main results

* `catalog_tableAgrees` — the whole catalog agrees with the table
* `catalog_agrees` — and so with the rule language
-/

set_option autoImplicit false

namespace FwVerify

/-! ## Agreement -/

/-- The address traffic of a side comes from. -/
def sideIp (peer target : Ipv4Addr) : Side → Ipv4Addr
  | .peer => peer
  | .target => target

/-- Whether the traffic of a side is between the addresses of two patterns. -/
def flowMatches (peer target : Ipv4Addr) (origin : Side) (sip dip : AddrPattern) : Bool :=
  sip.matches (sideIp peer target origin) && dip.matches (sideIp peer target origin.other)

/-- The uid the worker of a case drops to. -/
def caseUid (cfg : RunConfig) (c : FwCase) : Option UInt32 :=
  if c.uid then some cfg.appUid else none

section Agreement

variable (cfg : RunConfig) (peer target : Ipv4Addr) (world : Surroundings)
variable (rules : List (Rule AddrPattern String)) (c : FwCase)

/-- The rule that decides about the `i`-th probe of a case. -/
def caseRuling (index : Nat) (probe : Probe) : Ruling :=
  ruling world.undocumented (flowMatches peer target c.origin)
    (probe.packet (chainOf c.origin) (world.ephemeral index)) rules

/-- What becomes of the `i`-th probe of a case. -/
def caseFate (index : Nat) (probe : Probe) : Fate :=
  probeFate world (flowMatches peer target c.origin)
    (fun key => world.identity ((caseUid cfg c).getD world.ownUid) == some key) rules c index probe

/-- A case expects what the probes of its worker come to: the verdict is the expected one
however the kernel answers, and an expected rule id is the line that decides. -/
structure Agreement (pid : UInt32) (args : TrafficArgs) (ports : List UInt16) : Prop where
  verdict : ∀ (dropToUid : UInt32 → Except String Unit) (calls : Nat → SocketCalls),
    (∀ uid, args.uid = some uid → dropToUid uid = .ok ()) →
    (∀ entry ∈ (args.probes pid ports).zipIdx,
      Answers (caseFate cfg peer target world rules c entry.2 entry.1) entry.1 (calls entry.2)) →
    ∃ report,
      trafficRun args pid dropToUid (fun index probe => probe.attempt args.toAddr (calls index)) =
        .ok report ∧ report.verdict = enforceStr c.expectEnforce
  line : ∀ expect id, c.expectEvent = some expect → expect.ruleId = some id →
    ∀ entry ∈ (args.probes pid ports).zipIdx,
      ∃ line, (caseRuling peer target world rules c entry.2 entry.1).line = some line ∧
        id = Int64.ofNat line

end Agreement

/-! ## The table -/

/-- The protocol of a case's traffic. -/
def trafficProto : TrafficKind → Proto
  | .tcp _ | .tcpScan _ | .tcpBurst .. | .tcpFinScan _ => .tcp
  | .udp .. | .udpScan _ | .udpVolume .. => .udp
  | .icmp => .icmp

theorem buildCmd_proto (c : FwCase) (toAddr : IpAddr) :
    (buildCmd c toAddr).proto = (trafficProto c.traffic).lowercase := by
  cases htraffic : c.traffic <;> simp [buildCmd, htraffic, trafficProto, Proto.lowercase]

@[simp] theorem buildCmd_toAddr (c : FwCase) (toAddr : IpAddr) :
    (buildCmd c toAddr).toAddr = toAddr := by
  cases htraffic : c.traffic <;> simp [buildCmd, htraffic]

section Table

variable (world : Surroundings) (own : Bool) (c : FwCase)

/-- The deciding rule of the bundle when all addresses match. -/
def tableRuling (index : Nat) (probe : Probe) : Ruling :=
  ruling world.undocumented (fun _ _ => true)
    (probe.packet (chainOf c.origin) (world.ephemeral index)) (bundleRules c.bundle)

/-- The fate of a probe when all addresses match; `own` says whether the sender has the
identity key of the bundle. -/
def tableFate (index : Nat) (probe : Probe) : Fate :=
  probeFate world (fun _ _ => true) (fun _ => own) (bundleRules c.bundle) c index probe

/-- The rule id a case expects stands at the deciding line. -/
def lineAgrees (entry : Probe × Nat) : Bool :=
  (c.expectEvent.bind (·.ruleId)).all fun id =>
    (tableRuling world c entry.2 entry.1).line.any fun line => id == Int64.ofNat line

/-- The probes of a case all come to one outcome, which is the expected one. -/
def tableAgrees (pid : UInt32) (toAddr : IpAddr) (uid : Option UInt32) : Bool :=
  let cmd := buildCmd c toAddr
  let proto := trafficProto c.traffic
  match cmd.portList proto with
  | .error _ => false
  | .ok ports =>
    let entries := ((cmd.args uid proto).probes pid ports).zipIdx
    match entries with
    | [] => false
    | first :: _ =>
      let outcome := first.1.outcome (tableFate world own c first.2 first.1)
      outcome.verdict == enforceStr c.expectEnforce && decide (entries.length < 2 ^ 32) &&
        entries.all fun entry =>
          let fate := tableFate world own c entry.2 entry.1
          entry.1.outcome fate == outcome && (fate != .denied || entry.1.proto == .tcp) &&
            lineAgrees world c entry

end Table

/-- What the agreement with the table says about the probes of a case. -/
theorem tableAgrees_spec {world : Surroundings} {own : Bool} {c : FwCase} {pid : UInt32}
    {toAddr : IpAddr} {uid : Option UInt32}
    (h : tableAgrees world own c pid toAddr uid = true) :
    ∃ ports outcome, (buildCmd c toAddr).portList (trafficProto c.traffic) = .ok ports ∧
      outcome.verdict = enforceStr c.expectEnforce ∧
      let probes := ((buildCmd c toAddr).args uid (trafficProto c.traffic)).probes pid ports
      probes ≠ [] ∧ probes.length < 2 ^ 32 ∧ ∀ entry ∈ probes.zipIdx,
        let fate := tableFate world own c entry.2 entry.1
        entry.1.outcome fate = outcome ∧ (fate = .denied → entry.1.proto = .tcp) ∧
          lineAgrees world c entry = true := by
  cases hports : (buildCmd c toAddr).portList (trafficProto c.traffic) with
  | error error => simp [tableAgrees, hports] at h
  | ok ports =>
    set probes := ((buildCmd c toAddr).args uid (trafficProto c.traffic)).probes pid ports
      with hprobes
    cases hentries : probes.zipIdx with
    | nil => simp [tableAgrees, hports, ← hprobes, hentries] at h
    | cons first later =>
      simp only [tableAgrees, hports, ← hprobes, hentries, Bool.and_eq_true, beq_iff_eq,
        decide_eq_true_eq, List.all_eq_true, Bool.or_eq_true, bne_iff_ne, ne_eq] at h
      obtain ⟨⟨hverdict, hlen⟩, hall⟩ := h
      have hlength : probes.length = (first :: later).length := by
        rw [← hentries, List.length_zipIdx]
      have hpos : 0 < probes.length := by
        rw [hlength]
        exact Nat.succ_pos _
      refine ⟨ports, _, rfl, hverdict, List.ne_nil_of_length_pos hpos, by rwa [hlength],
        fun entry hentry => ?_⟩
      obtain ⟨⟨houtcome, hdenied⟩, hline⟩ := hall entry (hentries ▸ hentry)
      exact ⟨houtcome, fun hfate => hdenied.resolve_left (not_not_intro hfate), hline⟩

/-- **The catalog agrees with the table**, whoever the sender of a case without a uid is. -/
theorem catalog_tableAgrees (world : Surroundings) (own : Bool) (pid : UInt32)
    (toAddr : IpAddr) (uid : Option UInt32) {c : FwCase} (hc : c ∈ allCases)
    (hgroup : c.group ≠ .traffic) :
    tableAgrees world (c.uid || own) c pid toAddr uid = true := by
  have hall : (allCases.filter (·.group != .traffic)).all
      (fun c => tableAgrees world (c.uid || own) c pid toAddr uid) = true := by
    rfl
  exact List.all_eq_true.mp hall c (List.mem_filter.mpr ⟨hc, by simpa using hgroup⟩)

/-! ## Addresses -/

theorem net_matches_self (ip : Ipv4Addr) (bits : Nat) :
    (AddrPattern.net ip bits).matches ip = true := by
  simp [AddrPattern.matches]

/-- An address is in its own `/24` network. -/
theorem slash24_matches (ip : Ipv4Addr) :
    (AddrPattern.net { ip with d := 0 } 24).matches ip = true := by
  have hd := ip.d.toNat_lt
  have hzero : (0 : UInt8).toNat = 0 := rfl
  simp only [AddrPattern.matches, Ipv4Addr.toU32, beq_iff_eq, hzero]
  omega

/-- A tuple rule that names the addresses of the traffic on its chain. -/
def wellPlaced : Rule Place Unit → Bool
  | .tuple rule =>
    match rule.chain with
    | .localin => rule.sip != .target && rule.dip == .target
    | .output => rule.sip == .target && rule.dip == .peer
  | _ => true

theorem wellPlaced_of_mem {bundle : Bundle} {rule : Rule Place Unit}
    (h : rule ∈ bundleRules bundle) : wellPlaced rule = true := by
  have hall : (bundleRules bundle).all wellPlaced = true := by cases bundle <;> rfl
  exact List.all_eq_true.mp hall rule h

/-- On the chain of a case's traffic every address pattern of its bundle matches. -/
theorem flowMatches_of_wellPlaced (peer target : Ipv4Addr) {rule : TupleRule Place}
    (hplaced : wellPlaced (.tuple rule) = true) {origin : Side}
    (hchain : rule.chain = chainOf origin) :
    flowMatches peer target origin (rule.sip.resolve peer target)
      (rule.dip.resolve peer target) = true := by
  cases origin with
  | peer =>
    simp only [wellPlaced, hchain, chainOf, Bool.and_eq_true, bne_iff_ne, beq_iff_eq] at hplaced
    obtain ⟨hsip, hdip⟩ := hplaced
    have hsource : (rule.sip.resolve peer target).matches peer = true := by
      cases hplace : rule.sip with
      | any => rfl
      | peer => exact net_matches_self peer 32
      | peer24 => exact slash24_matches peer
      | target => exact absurd hplace hsip
    have hdest : (Place.target.resolve peer target).matches target = true :=
      net_matches_self target 32
    simp only [flowMatches, sideIp, Side.other, hdip, hsource, hdest, Bool.and_self]
  | target =>
    simp only [wellPlaced, hchain, chainOf, Bool.and_eq_true, beq_iff_eq] at hplaced
    simp only [flowMatches, sideIp, Side.other, hplaced.1, hplaced.2, Place.resolve,
      net_matches_self, Bool.and_self]

/-! ## From the table to the rule texts -/

section Rules

variable {cfg : RunConfig} {peer target : Ipv4Addr} {world : Surroundings} {c : FwCase}

/-- The rules a bundle text is read as. -/
def readBundle (peer target : Ipv4Addr) (key : String) (bundle : Bundle) :
    List (Rule AddrPattern String) :=
  (bundleRules bundle).map (Rule.map (Place.resolve peer target) fun _ => key)

theorem caseRuling_readBundle (key : String) (index : Nat) (probe : Probe) :
    caseRuling peer target world (readBundle peer target key c.bundle) c index probe =
      tableRuling world c index probe := by
  rw [caseRuling, readBundle, ruling_map]
  refine ruling_congr fun rule hrule hchain => ?_
  exact flowMatches_of_wellPlaced peer target (wellPlaced_of_mem hrule) hchain

/-- Whether the worker of a case that drops to no uid has the identity key. -/
def ownsKey (world : Surroundings) (key : String) : Bool :=
  world.identity world.ownUid == some key

theorem caseFate_readBundle (hid : world.identity cfg.appUid = some cfg.appIdentityKey)
    (index : Nat) (probe : Probe) :
    caseFate cfg peer target world (readBundle peer target cfg.appIdentityKey c.bundle) c index
        probe =
      tableFate world (c.uid || ownsKey world cfg.appIdentityKey) c index probe := by
  have hmine : (world.identity ((caseUid cfg c).getD world.ownUid) == some cfg.appIdentityKey) =
      (c.uid || ownsKey world cfg.appIdentityKey) := by
    cases huid : c.uid with
    | true => simp [caseUid, huid, hid]
    | false => simp [caseUid, huid, ownsKey]
  have hruling : caseRuling peer target world
      (readBundle peer target cfg.appIdentityKey c.bundle) c index probe =
        tableRuling world c index probe := caseRuling_readBundle ..
  rw [caseRuling, readBundle] at hruling
  simp only [caseFate, tableFate, probeFate, readBundle, appDenies_map, Function.comp_def, hmine,
    hruling, tableRuling]

end Rules

/-- **The catalog agrees with the rule language**: for IPv4 addresses on both sides and an
identity key that fits in a field, the text of the case's bundle can be read, the worker can
read its command line, and its probes come to what the case expects. -/
theorem catalog_agrees {cfg : RunConfig} {peer target : Ipv4Addr}
    (hpeer : cfg.peerIp = .v4 peer) (htarget : cfg.targetIp = .v4 target)
    (hkey : Fits cfg.appIdentityKey) {c : FwCase} (hc : c ∈ allCases) (hgroup : c.group ≠ .traffic)
    (parseIp : String → Option IpAddr) (hip : ∀ ip : Ipv4Addr, parseIp ip.display = some (.v4 ip))
    {world : Surroundings} (hid : world.identity cfg.appUid = some cfg.appIdentityKey)
    (pid : UInt32) :
    ∃ rules args ports,
      readRules (firewallText c.bundle cfg) = some rules ∧
      TrafficArgs.parse parseIp
        ((buildCmd c (flow cfg c.origin).2.2).argv (caseUid cfg c)) = some args ∧
      args.portList = .ok ports ∧ Agreement cfg peer target world rules c pid args ports := by
  set toAddr := (flow cfg c.origin).2.2 with htoAddr
  obtain ⟨ip, hv4⟩ : ∃ ip, toAddr = .v4 ip := by
    cases horigin : c.origin with
    | peer => exact ⟨target, by simp [htoAddr, horigin, flow, htarget]⟩
    | target => exact ⟨peer, by simp [htoAddr, horigin, flow, hpeer]⟩
  set args := (buildCmd c toAddr).args (caseUid cfg c) (trafficProto c.traffic) with hargs
  have hparse : TrafficArgs.parse parseIp ((buildCmd c toAddr).argv (caseUid cfg c)) =
      some args := by
    refine parse_argv parseIp _ _ (buildCmd_proto c toAddr) ?_
    rw [buildCmd_toAddr, hv4]
    exact hip ip
  obtain ⟨ports, outcome, hports, hverdict, hne, hlen, hall⟩ := tableAgrees_spec <|
    catalog_tableAgrees world (ownsKey world cfg.appIdentityKey) pid toAddr (caseUid cfg c) hc
      hgroup
  have hports' : args.portList = .ok ports := by rw [hargs, portList_args, hports]
  refine ⟨_, args, ports, readRules_firewallText hpeer htarget hkey c.bundle, hparse, hports', ?_⟩
  rw [← readBundle]
  refine ⟨fun dropToUid calls hdrop hanswers => ?_, fun expect id hexpect hrule entry hentry => ?_⟩
  · -- all probes come to the one outcome of the table
    rw [← hverdict]
    refine trafficRun_of_uniform hdrop hports' hne hlen fun entry hentry => ?_
    obtain ⟨houtcome, hdenied, -⟩ := hall entry hentry
    have hanswer := hanswers entry hentry
    rw [caseFate_readBundle hid] at hanswer
    have hdst : args.toAddr = .v4 ip := by rw [← hv4, ← buildCmd_toAddr c toAddr]; rfl
    rw [hdst, hanswer.attempt ip hdenied, houtcome]
  · obtain ⟨-, -, hline⟩ := hall entry hentry
    rw [caseRuling_readBundle]
    simpa [lineAgrees, hexpect, hrule, Option.any_eq_true] using hline

/-- Surroundings in which idps-fw knows the sample app and nothing else is special. -/
def sampleSurroundings : Surroundings where
  identity := fun uid => if uid = 2000 then some "com.demo.browser" else none
  ownUid := 0
  ephemeral := fun _ => 40000
  nldLater := fun _ => false
  undocumented := .p

/-- The case `egress-udp-block`: it expects rule 4. -/
def egressUdpBlock : FwCase := allCases.get ⟨9, by decide⟩

/-- Read an address as IPv4. -/
def parseIpv4 (s : String) : Option IpAddr := (Ipv4Addr.parse s).map .v4

/-- The agreement of `egress-udp-block` in the sample configuration. -/
theorem catalog_agrees_egress :
    ∃ rules args ports,
      readRules (firewallText egressUdpBlock.bundle sampleConfig) = some rules ∧
      TrafficArgs.parse parseIpv4
        ((buildCmd egressUdpBlock (flow sampleConfig egressUdpBlock.origin).2.2).argv
          (caseUid sampleConfig egressUdpBlock)) = some args ∧
      args.portList = .ok ports ∧
      Agreement sampleConfig ⟨10, 123, 0, 2⟩ ⟨10, 123, 0, 1⟩ sampleSurroundings rules
        egressUdpBlock 77 args ports := by
  have hcase : egressUdpBlock ∈ allCases := List.get_mem ..
  have hip (ip : Ipv4Addr) : parseIpv4 ip.display = some (.v4 ip) := by
    rw [parseIpv4, ip.parse_display]
    rfl
  exact catalog_agrees rfl rfl (by decide) hcase (by decide) parseIpv4 hip rfl 77

end FwVerify
