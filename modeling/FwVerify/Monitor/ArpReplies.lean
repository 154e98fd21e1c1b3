import FwVerify.Model.Arp
import FwVerify.Traffic.Packets

/-!
# What an ARP run sends

A run of `arp-spoof` goes through exactly when the interface can be looked up, read and sent on. It
then hands the requested number of frames to the kernel, all of them for the interface and for all
hosts, and each of them, taken apart as an ARP frame, a gratuitous reply that puts the claimed
address at the interface's own hardware address.

## Main definitions

* `ArpFrame`, `decodeArp` — the fields of an Ethernet frame that carries ARP
* `gratuitousReply` — a reply that claims an address for a hardware address
* `ArpSystem.Allows` — the kernel answers all the calls a run makes
* `sendFrames` — the loop of a run

## Main results

* `decode_buildArpReply` — the crafted frame is the reply
* `arp_spoof_sends` — what a run sends, and when there is one
-/

set_option autoImplicit false

namespace FwVerify

open Fallible

/-! ## Frames -/

/-- The fields of an Ethernet frame that carries ARP for IPv4. -/
structure ArpFrame where
  ethDest : List UInt8
  ethSource : List UInt8
  etherType : UInt16
  hardware : UInt16
  protocol : UInt16
  hardwareLen : UInt8
  protocolLen : UInt8
  operation : UInt16
  senderHardware : List UInt8
  senderProtocol : List UInt8
  targetHardware : List UInt8
  targetProtocol : List UInt8
  deriving DecidableEq

/-- Take a frame apart: the Ethernet header, and an ARP message with addresses of 6 and 4 bytes. -/
def decodeArp (frame : List UInt8) : Option ArpFrame :=
  match frame.drop 12 with
  | t1 :: t2 :: h1 :: h2 :: p1 :: p2 :: hardwareLen :: protocolLen :: o1 :: o2 :: addresses =>
    if addresses.length = 20 then
      some {
        ethDest := frame.take 6
        ethSource := (frame.drop 6).take 6
        etherType := u16FromBe t1 t2
        hardware := u16FromBe h1 h2
        protocol := u16FromBe p1 p2
        hardwareLen, protocolLen
        operation := u16FromBe o1 o2
        senderHardware := addresses.take 6
        senderProtocol := (addresses.drop 6).take 4
        targetHardware := (addresses.drop 10).take 6
        targetProtocol := addresses.drop 16 }
    else none
  | _ => none

/-- A reply to all hosts that an address is at a hardware address: sender and target are the
address itself. -/
def gratuitousReply (mac : MacAddr) (ip : Ipv4Addr) : ArpFrame where
  ethDest := MacAddr.broadcast.bytes
  ethSource := mac.bytes
  etherType := ethPArp
  hardware := arphrdEther
  protocol := 0x0800
  hardwareLen := 6
  protocolLen := 4
  operation := arpopReply
  senderHardware := mac.bytes
  senderProtocol := ip.octets
  targetHardware := MacAddr.broadcast.bytes
  targetProtocol := ip.octets

/-- The bytes of the crafted frame, in the order they are sent in. -/
theorem buildArpReply_eq (m1 m2 m3 m4 m5 m6 : UInt8) (ip : Ipv4Addr) :
    buildArpReply ⟨[m1, m2, m3, m4, m5, m6], rfl⟩ ip =
      [0xff, 0xff, 0xff, 0xff, 0xff, 0xff, m1, m2, m3, m4, m5, m6, 8, 6, 0, 1, 8, 0, 6, 4, 0, 2,
        m1, m2, m3, m4, m5, m6, ip.a, ip.b, ip.c, ip.d,
        0xff, 0xff, 0xff, 0xff, 0xff, 0xff, ip.a, ip.b, ip.c, ip.d] := by
  simp [buildArpReply, copyAt, List.replicate, MacAddr.broadcast, Ipv4Addr.octets, u16ToBe,
    ethPArp, arphrdEther, arpopReply]

/-- The crafted frame is the reply, and nothing else is in it. -/
theorem decode_buildArpReply (mac : MacAddr) (ip : Ipv4Addr) :
    (buildArpReply mac ip).length = 42 ∧
      decodeArp (buildArpReply mac ip) = some (gratuitousReply mac ip) := by
  obtain ⟨bytes, hlength⟩ := mac
  obtain ⟨m1, m2, m3, m4, m5, m6, rfl⟩ :
      ∃ m1 m2 m3 m4 m5 m6, bytes = [m1, m2, m3, m4, m5, m6] := by
    rcases bytes with _ | ⟨m1, _ | ⟨m2, _ | ⟨m3, _ | ⟨m4, _ | ⟨m5, _ | ⟨m6, _ | ⟨m7, later⟩⟩⟩⟩⟩⟩⟩
    case cons.cons.cons.cons.cons.cons.nil => exact ⟨m1, m2, m3, m4, m5, m6, rfl⟩
    all_goals simp at hlength
  rw [buildArpReply_eq]
  constructor
  · rfl
  · simp [decodeArp, gratuitousReply, MacAddr.broadcast, Ipv4Addr.octets]
    decide

/-! ## Runs -/

/-- The kernel answers every call a run makes before it sends: the name of the interface reaches it
whole, an interface of the name exists, its hardware address can be read, and the raw socket
opens. -/
structure ArpSystem.Allows (system : ArpSystem) (iface : String) : Prop where
  noNul : '\x00' ∉ iface.toList
  found : system.ifNametoindex iface ≠ 0
  ioctlSocket : system.ioctlSocket = .ok ()
  fits : iface.utf8ByteSize < 16
  readable : ∃ mac, system.ioctl iface = .ok mac
  packetSocket : system.packetSocket = .ok ()

theorem interfaceMac_eq_ok {system : ArpSystem} {iface : String} {mac : MacAddr} :
    interfaceMac system iface = .ok mac ↔
      system.ioctlSocket = .ok () ∧ iface.utf8ByteSize < 16 ∧ system.ioctl iface = .ok mac := by
  rw [interfaceMac, bind_eq_ok]
  simp only [context_eq_ok]
  constructor
  · rintro ⟨⟨⟩, hsocket, hrest⟩
    split at hrest
    · cases hrest
    · next hfits => exact ⟨hsocket, by omega, context_eq_ok.mp hrest⟩
  · rintro ⟨hsocket, hfits, hioctl⟩
    refine ⟨(), hsocket, ?_⟩
    rw [if_neg (by omega)]
    exact context_eq_ok.mpr hioctl

@[simp] theorem ArpRun.frames_send (frame : SentFrame) (run : ArpRun) (succeeds : Bool) :
    (run.send frame succeeds).frames = run.frames ++ [frame] := rfl

theorem ArpRun.toNat_sent_send (frame : SentFrame) {run : ArpRun} (succeeds : Bool)
    (hroom : run.sent.toNat + 1 < 2 ^ 32) :
    (run.send frame succeeds).sent.toNat = run.sent.toNat + succeeds.toNat := by
  cases succeeds with
  | false => rfl
  | true =>
    change (run.sent + 1).toNat = run.sent.toNat + 1
    rw [UInt32.toNat_add]
    exact Nat.mod_eq_of_lt hroom

/-- The loop over the frames. -/
def sendFrames (frame : SentFrame) (sendto : Nat → Bool) (turns : Nat) : ArpRun :=
  (List.range turns).foldl (fun run i => run.send frame (sendto i)) ⟨[], 0⟩

/-- Each turn of the loop hands the same frame to the kernel, and counts it when it is sent. -/
theorem sendFrames_spec (frame : SentFrame) (sendto : Nat → Bool) {turns : Nat}
    (hturns : turns < 2 ^ 32) :
    (sendFrames frame sendto turns).frames = List.replicate turns frame ∧
      (sendFrames frame sendto turns).sent.toNat = (List.range turns).countP sendto := by
  induction turns with
  | zero => exact ⟨rfl, rfl⟩
  | succ turns ih =>
    obtain ⟨hframes, hsent⟩ := ih (by omega)
    have hstep : sendFrames frame sendto (turns + 1) =
        (sendFrames frame sendto turns).send frame (sendto turns) := by
      rw [sendFrames, List.range_succ, List.foldl_append]
      rfl
    -- The counter does not wrap: it is at most the number of turns before this one.
    have hle : (List.range turns).countP sendto ≤ turns := by
      simpa using List.countP_le_length (p := sendto) (l := List.range turns)
    rw [hstep, ArpRun.frames_send, hframes, ArpRun.toNat_sent_send _ _ (by omega), hsent,
      List.range_succ, List.countP_append, List.replicate_succ']
    refine ⟨rfl, ?_⟩
    cases hsend : sendto turns <;> simp [hsend]

/-- The run, when the kernel allows it. -/
theorem arpSpoofRun_eq_ok {system : ArpSystem} {args : ArpSpoofArgs} {run : ArpRun} :
    arpSpoofRun system args = .ok run ↔
      ('\x00' ∉ args.iface.toList ∧ system.ifNametoindex args.iface ≠ 0) ∧
        ∃ mac, interfaceMac system args.iface = .ok mac ∧ system.packetSocket = .ok () ∧
          run = sendFrames ⟨system.ifNametoindex args.iface, MacAddr.broadcast.bytes,
            buildArpReply mac args.claimIp⟩ system.sendto args.count.toNat := by
  rw [arpSpoofRun]
  by_cases hnul : '\x00' ∈ args.iface.toList
  · rw [if_pos hnul]
    exact ⟨fun h => (by cases h), fun h => absurd hnul h.1.1⟩
  by_cases hfound : system.ifNametoindex args.iface = 0
  · rw [if_neg hnul, if_pos hfound]
    exact ⟨fun h => (by cases h), fun h => absurd hfound h.1.2⟩
  rw [if_neg hnul, if_neg hfound]
  refine Iff.trans (bind_eq_ok (x := interfaceMac system args.iface)) ?_
  constructor
  · rintro ⟨mac, hmac, hrun⟩
    obtain ⟨⟨⟩, hsocket, hrun⟩ := bind_eq_ok.mp hrun
    cases hrun
    exact ⟨⟨hnul, hfound⟩, mac, hmac, context_eq_ok.mp hsocket, rfl⟩
  · rintro ⟨-, mac, hmac, hsocket, rfl⟩
    exact ⟨mac, hmac, bind_eq_ok.mpr ⟨(), context_eq_ok.mpr hsocket, rfl⟩⟩

/-- A run goes through exactly when the kernel allows it. -/
theorem exists_arpSpoofRun_iff (system : ArpSystem) (args : ArpSpoofArgs) :
    (∃ run, arpSpoofRun system args = .ok run) ↔ system.Allows args.iface := by
  constructor
  · rintro ⟨run, hrun⟩
    obtain ⟨⟨hnul, hfound⟩, mac, hmac, hpacket, -⟩ := arpSpoofRun_eq_ok.mp hrun
    obtain ⟨hsocket, hfits, hioctl⟩ := interfaceMac_eq_ok.mp hmac
    exact ⟨hnul, hfound, hsocket, hfits, ⟨mac, hioctl⟩, hpacket⟩
  · rintro ⟨hnul, hfound, hsocket, hfits, ⟨mac, hioctl⟩, hpacket⟩
    exact ⟨_, arpSpoofRun_eq_ok.mpr ⟨⟨hnul, hfound⟩, mac,
      interfaceMac_eq_ok.mpr ⟨hsocket, hfits, hioctl⟩, hpacket, rfl⟩⟩

/-- **What runs send.** A run goes through exactly when the kernel allows it. It then hands as many
frames to the kernel as were requested, each of them for the interface and all hosts, and each the
gratuitous reply that puts the claimed address at the interface's hardware address. The count it
reports is the number of those that are sent. -/
theorem arp_spoof_sends (system : ArpSystem) (args : ArpSpoofArgs) :
    ((∃ run, arpSpoofRun system args = .ok run) ↔ system.Allows args.iface) ∧
    ∀ run, arpSpoofRun system args = .ok run →
      ∃ mac, system.ioctl args.iface = .ok mac ∧
        run.frames.length = args.count.toNat ∧
        (∀ frame ∈ run.frames,
          frame.ifindex = system.ifNametoindex args.iface ∧
          frame.dest = MacAddr.broadcast.bytes ∧ frame.bytes.length = 42 ∧
          decodeArp frame.bytes = some (gratuitousReply mac args.claimIp)) ∧
        run.sent.toNat = (List.range args.count.toNat).countP system.sendto := by
  refine ⟨exists_arpSpoofRun_iff system args, fun run hrun => ?_⟩
  obtain ⟨-, mac, hmac, -, rfl⟩ := arpSpoofRun_eq_ok.mp hrun
  obtain ⟨hframes, hsent⟩ := sendFrames_spec
    ⟨system.ifNametoindex args.iface, MacAddr.broadcast.bytes, buildArpReply mac args.claimIp⟩
    system.sendto args.count.toNat_lt
  obtain ⟨hlength, hdecode⟩ := decode_buildArpReply mac args.claimIp
  refine ⟨mac, (interfaceMac_eq_ok.mp hmac).2.2, by rw [hframes, List.length_replicate], ?_, hsent⟩
  intro frame hmem
  rw [hframes] at hmem
  obtain rfl := List.eq_of_mem_replicate hmem
  exact ⟨rfl, rfl, hlength, hdecode⟩

end FwVerify
