import FwVerify.Lib.Fallible
import FwVerify.Model.Packets
import FwVerify.Model.Reexec
import FwVerify.Model.Report

/-!
# Gratuitous ARP replies

The worker's `arp-spoof` claims an address for its own interface: it looks the interface up, reads
its hardware address, and sends the same broadcast ARP reply a number of times through a raw socket.
How the kernel answers its calls is given from outside.

## Main definitions

* `ArpSpoofArgs`, `ArpSystem` — the arguments, and the answers of the kernel
* `interfaceMac` — the hardware address of an interface
* `buildArpReply` — the frame
* `arpSpoofRun` — a run: the frames it hands to the kernel, and how many of them are sent
-/

set_option autoImplicit false

namespace FwVerify

/-- `arp-spoof` arguments. -/
structure ArpSpoofArgs where
  iface : String
  claimIp : Ipv4Addr
  count : UInt32
  deriving DecidableEq

/-- The hardware address of an interface. -/
structure MacAddr where
  bytes : List UInt8
  length_eq : bytes.length = 6

/-- The hardware address of all hosts. -/
def MacAddr.broadcast : MacAddr := ⟨[0xff, 0xff, 0xff, 0xff, 0xff, 0xff], rfl⟩

def ethPArp : UInt16 := 0x0806
def arphrdEther : UInt16 := 1
def arpopReply : UInt16 := 2

def Ipv4Addr.octets (ip : Ipv4Addr) : List UInt8 := [ip.a, ip.b, ip.c, ip.d]

/-- How the kernel answers the calls of a run. -/
structure ArpSystem where
  /-- The index of an interface, zero when there is none of the name. -/
  ifNametoindex : String → UInt32
  ioctlSocket : Except String Unit
  /-- The answer to the request for an interface's hardware address. -/
  ioctl : String → Except String MacAddr
  packetSocket : Except String Unit
  /-- Whether the `i`-th frame is sent. -/
  sendto : Nat → Bool

/-- Read the hardware address of an interface. Its name has to fit the request, with a NUL behind. -/
def interfaceMac (system : ArpSystem) (iface : String) : Except String MacAddr := do
  Fallible.context "failed to open ioctl socket" system.ioctlSocket
  if 16 ≤ iface.utf8ByteSize then
    throw s!"interface name too long: {iface}"
  Fallible.context "SIOCGIFHWADDR failed" (system.ioctl iface)

/-- The Ethernet frame of an ARP reply that claims an address, broadcast to all hosts. -/
def buildArpReply (srcMac : MacAddr) (claimIp : Ipv4Addr) : List UInt8 :=
  let frame := List.replicate 42 0
  let frame := copyAt frame 0 MacAddr.broadcast.bytes
  let frame := copyAt frame 6 srcMac.bytes
  let frame := copyAt frame 12 (u16ToBe ethPArp)
  let frame := copyAt frame 14 (u16ToBe arphrdEther)
  let frame := copyAt frame 16 (u16ToBe 0x0800)
  let frame := copyAt frame 18 [6]
  let frame := copyAt frame 19 [4]
  let frame := copyAt frame 20 (u16ToBe arpopReply)
  let frame := copyAt frame 22 srcMac.bytes
  let frame := copyAt frame 28 claimIp.octets
  let frame := copyAt frame 32 MacAddr.broadcast.bytes
  copyAt frame 38 claimIp.octets

/-- A frame handed to the kernel, with the interface and the hardware address it goes to. -/
structure SentFrame where
  ifindex : UInt32
  dest : List UInt8
  bytes : List UInt8
  deriving DecidableEq

/-- What a run has done. -/
structure ArpRun where
  frames : List SentFrame
  sent : UInt32

/-- One more frame, which is counted when it is sent. -/
def ArpRun.send (frame : SentFrame) (run : ArpRun) (succeeds : Bool) : ArpRun where
  frames := run.frames ++ [frame]
  sent := if succeeds then run.sent + 1 else run.sent

def arpSpoofRun (system : ArpSystem) (args : ArpSpoofArgs) : Except String ArpRun := do
  if '\x00' ∈ args.iface.toList then
    let before := String.ofList (args.iface.toList.takeWhile (· != '\x00'))
    let position := before.utf8ByteSize
    throw s!"invalid interface name: nul byte found in provided data at position: {position}"
  let ifindex := system.ifNametoindex args.iface
  if ifindex = 0 then
    let iface := args.iface
    throw s!"interface {iface} not found"
  let srcMac ← interfaceMac system args.iface
  Fallible.context "failed to open AF_PACKET socket (needs root)" system.packetSocket
  let frame : SentFrame :=
    ⟨ifindex, MacAddr.broadcast.bytes, buildArpReply srcMac args.claimIp⟩
  return (List.range args.count.toNat).foldl (fun run i => run.send frame (system.sendto i)) ⟨[], 0⟩

/-- What a run reports. -/
def arpSpoofDocument (args : ArpSpoofArgs) (run : ArpRun) : Value :=
  .object [("iface", .string args.iface), ("claim_ip", .string args.claimIp.display),
    ("requested", jsonU32 args.count), ("sent", jsonU32 run.sent)]

end FwVerify
