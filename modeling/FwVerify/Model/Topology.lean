import FwVerify.Lib.Scripts
import FwVerify.Model.Env
import Mathlib.Data.Multiset.AddSub

/-!
# The test topology

The `ip` commands of `setup-env` and `clean-env` and what they do: namespaces, veth pairs with
an end in the root namespace or in a named one, and the policy rules of the tool's preference.
A command that fails changes nothing. Deleting fails exactly when there is nothing to delete;
every other command may also be refused for a reason of its own.

## Main definitions

* `Net` — the network state
* `IpCmd.apply`, `IpStep` — what a command does
* `Topology.subnet` — the subnet of the policy rule
* `teardownTopology`, `createTopology`, `setupTopology` — the commands of a call
-/

set_option autoImplicit false

namespace FwVerify

open Script

/-! ## The network -/

/-- A named network namespace, and whether its loopback device is up. -/
structure Namespace where
  name : String
  loUp : Bool
  deriving DecidableEq

/-- One end of a veth pair. `place` is the namespace it is in, `none` for the root. -/
structure VethEnd where
  name : String
  place : Option String
  addrs : List String
  up : Bool
  deriving DecidableEq

/-- The network state the tool touches. -/
@[ext]
structure Net where
  namespaces : List Namespace
  pairs : List (VethEnd × VethEnd)
  /-- The subnets of the policy rules of the tool's preference. -/
  rules : Multiset String
  deriving DecidableEq

/-- Whether a device goes by the name in the place. -/
def VethEnd.isAt (e : VethEnd) (place : Option String) (name : String) : Bool :=
  e.place == place && e.name == name

namespace Net

/-- All veth ends. -/
def ends (net : Net) : List VethEnd := net.pairs.flatMap fun pair => [pair.1, pair.2]

def hasNamespace (net : Net) (name : String) : Bool := net.namespaces.any (·.name == name)

def placeExists (net : Net) : Option String → Bool
  | none => true
  | some name => net.hasNamespace name

def hasVeth (net : Net) (place : Option String) (name : String) : Bool :=
  net.ends.any (·.isAt place name)

/-- Every namespace has a loopback device of its own. -/
def hasLink (net : Net) (place : Option String) (name : String) : Bool :=
  name == "lo" || net.hasVeth place name

/-- Change the ends that go by the name in the place. -/
def updateEnd (net : Net) (place : Option String) (name : String) (f : VethEnd → VethEnd) :
    Net :=
  let change (e : VethEnd) := if e.isAt place name then f e else e
  { net with pairs := net.pairs.map fun pair => (change pair.1, change pair.2) }

end Net

/-! ## Commands -/

/-- The `ip` commands of the tool. -/
inductive IpCmd
  | netnsAdd (name : String)
  | netnsDel (name : String)
  | linkDel (dev : String)
  | linkAddVeth (dev peer : String) (peerNetns : Option String)
  | linkSetNetns (dev netns : String)
  | addrAdd (place : Option String) (addr dev : String)
  | linkSetUp (place : Option String) (dev : String)
  | ruleAdd (subnet : String)
  | ruleDel (subnet : String)
  | netnsSh (netns script : String)
  deriving DecidableEq

def policyRulePref : String := "1000"

/-- Arguments of a command that runs in a namespace. -/
def inNetns (place : Option String) (args : List String) : List String :=
  match place with
  | none => args
  | some netns => ["netns", "exec", netns, "ip"] ++ args

/-- The arguments of a command. -/
def IpCmd.args : IpCmd → List String
  | .netnsAdd name => ["netns", "add", name]
  | .netnsDel name => ["netns", "del", name]
  | .linkDel dev => ["link", "del", dev]
  | .linkAddVeth dev peer none => ["link", "add", dev, "type", "veth", "peer", "name", peer]
  | .linkAddVeth dev peer (some netns) =>
    ["link", "add", dev, "type", "veth", "peer", "name", peer, "netns", netns]
  | .linkSetNetns dev netns => ["link", "set", dev, "netns", netns]
  | .addrAdd place addr dev => inNetns place ["addr", "add", addr, "dev", dev]
  | .linkSetUp place dev => inNetns place ["link", "set", dev, "up"]
  | .ruleAdd subnet => ["rule", "add", "pref", policyRulePref, "to", subnet, "lookup", "main"]
  | .ruleDel subnet => ["rule", "del", "pref", policyRulePref, "to", subnet, "lookup", "main"]
  | .netnsSh netns script => ["netns", "exec", netns, "sh", "-c", script]

/-- The network after a command, if it can be done. -/
def IpCmd.apply (net : Net) : IpCmd → Option Net
  | .netnsAdd name =>
    if net.hasNamespace name then none
    else some { net with namespaces := ⟨name, false⟩ :: net.namespaces }
  | .netnsDel name =>
    -- a pair goes with the namespace of either end
    if net.hasNamespace name then some { net with
      namespaces := net.namespaces.filter (·.name != name)
      pairs := net.pairs.filter fun pair =>
        pair.1.place != some name && pair.2.place != some name }
    else none
  | .linkDel dev =>
    -- deleting one end removes the pair
    if net.hasVeth none dev then some { net with
      pairs := net.pairs.filter fun pair => !pair.1.isAt none dev && !pair.2.isAt none dev }
    else none
  | .linkAddVeth dev peer peerNetns =>
    if net.hasLink none dev || net.hasLink peerNetns peer || !net.placeExists peerNetns ||
        (peerNetns == none && dev == peer) then none
    else some { net with
      pairs := (⟨dev, none, [], false⟩, ⟨peer, peerNetns, [], false⟩) :: net.pairs }
  | .linkSetNetns dev netns =>
    -- a device that moves loses its addresses and goes down
    if net.hasVeth none dev && net.hasNamespace netns && !net.hasLink (some netns) dev then
      some (net.updateEnd none dev fun e =>
        { e with place := some netns, addrs := [], up := false })
    else none
  | .addrAdd place addr dev =>
    match net.ends.find? (·.isAt place dev) with
    | some found =>
      if addr ∈ found.addrs then none
      else some (net.updateEnd place dev fun e => { e with addrs := addr :: e.addrs })
    | none => none
  | .linkSetUp place dev =>
    if dev = "lo" then
      if net.placeExists place then some { net with
        namespaces := net.namespaces.map fun ns =>
          if some ns.name = place then { ns with loUp := true } else ns }
      else none
    else if net.hasVeth place dev then
      some (net.updateEnd place dev fun e => { e with up := true })
    else none
  | .ruleAdd subnet => some { net with rules := subnet ::ₘ net.rules }
  | .ruleDel subnet =>
    if subnet ∈ net.rules then some { net with rules := net.rules.erase subnet } else none
  | .netnsSh netns _ => if net.hasNamespace netns then some net else none

/-- Whether a command that can be done may still be refused. -/
def IpCmd.refusable : IpCmd → Bool
  | .netnsDel _ | .linkDel _ | .ruleDel _ => false
  | _ => true

/-- A command succeeds with its effect, or fails and changes nothing. -/
inductive IpStep (command : IpCmd) (net : Net) : Except String Unit → Net → Prop
  | succeeds {net' : Net} (happly : command.apply net = some net') :
      IpStep command net (.ok ()) net'
  | fails (hfails : command.apply net = none ∨ command.refusable = true) (stderr : String) :
      IpStep command net (.error stderr) net

/-- A command that is never refused. -/
def IpCmd.act (command : IpCmd) (net : Net) : Except String Unit × Net :=
  match command.apply net with
  | some net' => (.ok (), net')
  | none => (.error "", net)

theorem IpStep.act (command : IpCmd) (net : Net) :
    IpStep command net (command.act net).1 (command.act net).2 := by
  rw [IpCmd.act]
  cases happly : command.apply net with
  | some net' => exact .succeeds happly
  | none => exact .fails (.inl happly) ""

/-! ## The subnet -/

/-- All ones shifted up past the host bits of a prefix length; a shift by the whole width is
no shift but zero. -/
def netMask (width prefixLen : Nat) : BitVec width :=
  let shift := width - min prefixLen width
  if shift < width then BitVec.allOnes width <<< shift else 0

/-- `u32::from(addr)`, as bits. -/
def Ipv4Addr.toBits (ip : Ipv4Addr) : BitVec 32 := BitVec.ofNat 32 ip.toU32

def Ipv4Addr.ofBits (bits : BitVec 32) : Ipv4Addr :=
  let octet (shift : Nat) := UInt8.ofNat (bits.toNat / 2 ^ shift)
  ⟨octet 24, octet 16, octet 8, octet 0⟩

/-- `u128::from(addr)`, as bits. -/
def Ipv6Addr.toBits (ip : Ipv6Addr) : BitVec 128 :=
  BitVec.ofNat 128 (ip.segments.toList.foldl (fun n segment => n * 2 ^ 16 + segment.toNat) 0)

def Ipv6Addr.ofBits (bits : BitVec 128) : Ipv6Addr where
  segments := Vector.ofFn fun index => UInt16.ofNat (bits.toNat / 2 ^ (112 - 16 * index.val))

/-- The test subnet in CIDR form: the network address masked from the target address. -/
def Topology.subnet (topo : Topology) : String :=
  let prefixLen := topo.prefixLen.toNat
  let network := match topo.targetIp with
    | .v4 ip => IpAddr.v4 (.ofBits (ip.toBits &&& netMask 32 prefixLen))
    | .v6 ip => IpAddr.v6 (.ofBits (ip.toBits &&& netMask 128 prefixLen))
  s!"{network}/{topo.prefixLen}"

/-! ## The commands of a call -/

/-- Scripts of `ip` commands. -/
abbrev IpScript := Script IpCmd Unit

/-- Run a command and stop when it fails. -/
def runIp (command : IpCmd) : IpScript :=
  let args := " ".intercalate command.args
  Script.run command fun stderr => s!"\x60ip {args}\x60 failed: {Text.trim stderr}"

/-- Delete the rules of a subnet until none is left, or the rounds run out. -/
def deleteRules (subnet : String) : Nat → IpScript
  | 0 => .done (.ok ())
  | rounds + 1 => .call (.ruleDel subnet) fun
    | .ok () => deleteRules subnet rounds
    | .error _ => .done (.ok ())

/-- Remove whatever an earlier setup left. -/
def teardownTopology (topo : Topology) : IpScript := do
  -- deleting either veth end removes the pair
  Script.ignore (.netnsDel topo.netns)
  Script.ignore (.linkDel topo.targetIface)
  deleteRules topo.subnet 16

/-- Create the pair with its peer end in the namespace, or in the root namespace to move it
from there. -/
def createVeth (topo : Topology) : IpScript :=
  .call (.linkAddVeth topo.targetIface topo.peerIface (some topo.netns)) fun
    | .ok () => .done (.ok ())
    | .error _ => do
      (runIp (.linkAddVeth topo.targetIface topo.peerIface none)).context
        "failed to create veth pair"
      (runIp (.linkSetNetns topo.peerIface topo.netns)).context
        "failed to move peer veth into the namespace"

/-- Disable IPv6 on the peer end, best effort. -/
def disableIpv6 (topo : Topology) : IpScript :=
  Script.ignore (.netnsSh topo.netns
    s!"echo 1 > /proc/sys/net/ipv6/conf/{topo.peerIface}/disable_ipv6")

/-- Bring the topology up. -/
def createTopology (topo : Topology) : IpScript := do
  runIp (.netnsAdd topo.netns)
  createVeth topo
  disableIpv6 topo
  runIp (.addrAdd none s!"{topo.targetIp}/{topo.prefixLen}" topo.targetIface)
  runIp (.linkSetUp none topo.targetIface)
  runIp (.linkSetUp (some topo.netns) "lo")
  runIp (.addrAdd (some topo.netns) s!"{topo.peerIp}/{topo.prefixLen}" topo.peerIface)
  runIp (.linkSetUp (some topo.netns) topo.peerIface)
  if topo.policyRoute then
    (runIp (.ruleAdd topo.subnet)).context
      "failed to add the main-table ip rule for the test subnet"

/-- The network part of `setup`; whatever follows it leaves the network alone. -/
def setupTopology (topo : Topology) : IpScript := do
  teardownTopology topo
  createTopology topo

/-- The network part of `clean`. -/
def cleanTopology (topo : Topology) : IpScript := teardownTopology topo

end FwVerify
