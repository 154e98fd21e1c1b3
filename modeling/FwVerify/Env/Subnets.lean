import FwVerify.Lib.BitPrefixes
import FwVerify.Lib.Checked
import FwVerify.Model.NetParser
import FwVerify.Model.Topology
import FwVerify.Provision.DepotWrites
import FwVerify.Rules.Bundles

/-!
# The subnet of a topology

The policy rule is found again by the text of its subnet, so the text has to depend on nothing
but the network. It is computed without an overflow for every prefix length, and names the
network of the target address.

## Main definitions

* `IpAddr.width`, `IpAddr.bit` — an address as a word, the most significant bit first
* `Topology.subnetChecked` — the subnet in arithmetic that refuses an overflow

## Main results

* `Topology.subnetChecked_eq` — nothing overflows
* `Topology.subnet_eq_iff` — equal subnets are those of addresses with the same network bits
* `IpAddr.network_24` — the network of a `/24`
* `subnet_is_network` — the subnet is the network of the target address
-/

set_option autoImplicit false

namespace FwVerify

open BitPrefix

/-! ## Addresses as words -/

/-- The number of bits of an address. -/
def IpAddr.width : IpAddr → Nat
  | .v4 _ => 32
  | .v6 _ => 128

/-- A bit of an address, the most significant one first. -/
def IpAddr.bit : IpAddr → Nat → Bool
  | .v4 ip, i => ip.toBits.getMsbD i
  | .v6 ip, i => ip.toBits.getMsbD i

theorem Ipv4Addr.toBits_ofBits (bits : BitVec 32) : (Ipv4Addr.ofBits bits).toBits = bits := by
  apply BitVec.eq_of_toNat_eq
  have hlt := bits.isLt
  rw [toBits, BitVec.toNat_ofNat, toU32]
  simp only [ofBits, UInt8.toNat_ofNat']
  omega

theorem Ipv6Addr.toBits_ofBits (bits : BitVec 128) : (Ipv6Addr.ofBits bits).toBits = bits := by
  apply BitVec.eq_of_toNat_eq
  have hlt := bits.isLt
  have hsegments : (Ipv6Addr.ofBits bits).segments.toList =
    [112, 96, 80, 64, 48, 32, 16, 0].map fun shift => UInt16.ofNat (bits.toNat / 2 ^ shift) := rfl
  rw [toBits, BitVec.toNat_ofNat, hsegments]
  simp only [List.map_cons, List.map_nil, List.foldl_cons, List.foldl_nil, UInt16.toNat_ofNat']
  omega

/-- The printed forms of different addresses differ. -/
theorem IpAddr.display_injective : Function.Injective IpAddr.display := by
  intro ip ip' heq
  have hparse := ip'.parse_display
  rw [← heq, ip.parse_display] at hparse
  exact Option.some.inj hparse

/-! ## The mask -/

/-- The mask in arithmetic that refuses an overflow. -/
def netMaskChecked (width prefixLen : Nat) : Option (BitVec width) := do
  let shift ← Checked.sub width (min prefixLen width)
  return (Checked.shl (BitVec.allOnes width) shift).getD 0

/-- A prefix length beyond the width is cut, so the difference is never negative; the shift by
the whole width is caught. -/
theorem netMaskChecked_eq (width prefixLen : Nat) :
    netMaskChecked width prefixLen = some (netMask width prefixLen) := by
  rw [netMaskChecked, Checked.sub_of_le (Nat.min_le_right _ _), Option.bind_eq_bind,
    Option.bind_some, netMask, Checked.shl]
  by_cases hshift : width - min prefixLen width < width
  · rw [if_pos hshift]
    exact congrArg some (if_pos hshift).symm
  · rw [if_neg hshift]
    exact congrArg some (if_neg hshift).symm

theorem isMask_netMask (width prefixLen : Nat) :
    IsMask (min prefixLen width) (netMask width prefixLen) := by
  rw [netMask]
  split_ifs with hshift
  · exact isMask_shiftLeft (Nat.min_le_right _ _)
  · -- nothing is kept of the word
    have hzero : min prefixLen width = 0 := by omega
    rw [hzero]
    exact isMask_zero

/-! ## The network -/

/-- The network of an address. -/
def IpAddr.network (prefixLen : Nat) : IpAddr → IpAddr
  | .v4 ip => .v4 (.ofBits (ip.toBits &&& netMask 32 prefixLen))
  | .v6 ip => .v6 (.ofBits (ip.toBits &&& netMask 128 prefixLen))

/-- The network in arithmetic that refuses an overflow. -/
def Topology.networkChecked (topo : Topology) : Option IpAddr :=
  let prefixLen := topo.prefixLen.toNat
  match topo.targetIp with
  | .v4 ip => (netMaskChecked 32 prefixLen).map fun mask => .v4 (.ofBits (ip.toBits &&& mask))
  | .v6 ip => (netMaskChecked 128 prefixLen).map fun mask => .v6 (.ofBits (ip.toBits &&& mask))

/-- The subnet in arithmetic that refuses an overflow. -/
def Topology.subnetChecked (topo : Topology) : Option String :=
  topo.networkChecked.map fun network => s!"{network}/{topo.prefixLen}"

theorem Topology.subnet_eq (topo : Topology) :
    topo.subnet = s!"{topo.targetIp.network topo.prefixLen.toNat}/{topo.prefixLen}" := by
  rw [subnet]
  cases topo.targetIp <;> rw [IpAddr.network]

/-- **The subnet is computed without an overflow**, whatever the prefix length. -/
theorem Topology.subnetChecked_eq (topo : Topology) : topo.subnetChecked = some topo.subnet := by
  have hnetwork : topo.networkChecked = some (topo.targetIp.network topo.prefixLen.toNat) := by
    rw [networkChecked]
    cases topo.targetIp <;> rw [IpAddr.network] <;> dsimp only <;>
      rw [netMaskChecked_eq, Option.map_some]
  rw [subnetChecked, hnetwork, Option.map_some, subnet_eq]

namespace IpAddr

theorem width_network (prefixLen : Nat) (ip : IpAddr) :
    (ip.network prefixLen).width = ip.width := by
  -- comparing the addresses themselves would unfold the arithmetic of their octets
  cases ip <;> rw [network, width, width]

/-- The network has the first bits of the address. -/
theorem bit_network_of_lt {prefixLen : Nat} {ip : IpAddr} (hle : prefixLen ≤ ip.width) {i : Nat}
    (hi : i < prefixLen) : (ip.network prefixLen).bit i = ip.bit i := by
  cases ip with
  | v4 ip =>
    have hi' : i < min prefixLen 32 := lt_min hi (hi.trans_le hle)
    rw [network, bit, Ipv4Addr.toBits_ofBits]
    exact agree_and_mask (isMask_netMask 32 prefixLen) ip.toBits i hi'
  | v6 ip =>
    have hi' : i < min prefixLen 128 := lt_min hi (hi.trans_le hle)
    rw [network, bit, Ipv6Addr.toBits_ofBits]
    exact agree_and_mask (isMask_netMask 128 prefixLen) ip.toBits i hi'

/-- The host bits of the network are zero. -/
theorem bit_network_of_le {prefixLen : Nat} (ip : IpAddr) {i : Nat} (hi : prefixLen ≤ i) :
    (ip.network prefixLen).bit i = false := by
  cases ip with
  | v4 ip =>
    rw [network, bit, Ipv4Addr.toBits_ofBits]
    exact getMsbD_and_mask_of_le (isMask_netMask 32 prefixLen) _ ((min_le_left _ _).trans hi)
  | v6 ip =>
    rw [network, bit, Ipv6Addr.toBits_ofBits]
    exact getMsbD_and_mask_of_le (isMask_netMask 128 prefixLen) _ ((min_le_left _ _).trans hi)

/-- **Networks are equal** exactly when the addresses agree on their first bits. -/
theorem network_eq_iff {prefixLen : Nat} {ip ip' : IpAddr} (hfamily : ip.width = ip'.width)
    (hle : prefixLen ≤ ip.width) :
    ip.network prefixLen = ip'.network prefixLen ↔ ∀ i < prefixLen, ip.bit i = ip'.bit i := by
  constructor
  · intro heq i hi
    rw [← bit_network_of_lt hle hi, heq, bit_network_of_lt (hfamily ▸ hle) hi]
  · intro hagree
    cases ip with
    | v4 ip =>
      cases ip' with
      | v6 ip' => cases hfamily
      | v4 ip' =>
        rw [network, network, (and_mask_eq_iff (isMask_netMask 32 prefixLen)).mpr]
        intro i hi
        exact hagree i (lt_min_iff.mp hi).1
    | v6 ip =>
      cases ip' with
      | v4 ip' => cases hfamily
      | v6 ip' =>
        rw [network, network, (and_mask_eq_iff (isMask_netMask 128 prefixLen)).mpr]
        intro i hi
        exact hagree i (lt_min_iff.mp hi).1

/-- The `/24` network of an IPv4 address has its first three octets. -/
theorem network_24 (ip : Ipv4Addr) : (v4 ip).network 24 = v4 { ip with d := 0 } := by
  have hmask : ip.toBits &&& netMask 32 24 = ip.toBits >>> 8 <<< 8 :=
    and_mask_eq_shift (isMask_netMask 32 24) (by decide) ip.toBits
  have ha := ip.a.toNat_lt
  have hb := ip.b.toNat_lt
  have hc := ip.c.toNat_lt
  have hd := ip.d.toNat_lt
  have hzero : (0 : UInt8).toNat = 0 := rfl
  rw [network, hmask, Ipv4Addr.ofBits]
  simp only [BitVec.toNat_shiftLeft, BitVec.toNat_ushiftRight, Ipv4Addr.toBits,
    BitVec.toNat_ofNat, Ipv4Addr.toU32, Nat.shiftLeft_eq, Nat.shiftRight_eq_div_pow]
  congr 2
  all_goals
    apply UInt8.toNat_inj.mp
    rw [UInt8.toNat_ofNat']
    omega

end IpAddr

/-! ## The text of the subnet -/

/-- **Equal subnets** of one prefix length are those of addresses with the same network bits. -/
theorem Topology.subnet_eq_iff {topo topo' : Topology} (hlen : topo'.prefixLen = topo.prefixLen)
    (hfamily : topo'.targetIp.width = topo.targetIp.width)
    (hle : topo.prefixLen.toNat ≤ topo.targetIp.width) :
    topo'.subnet = topo.subnet ↔
      ∀ i < topo.prefixLen.toNat, topo'.targetIp.bit i = topo.targetIp.bit i := by
  rw [subnet_eq, subnet_eq, hlen, ← IpAddr.network_eq_iff hfamily (hfamily ▸ hle)]
  constructor
  · intro htext
    have hdisplay := (String.append_left_inj _).mp ((String.append_left_inj _).mp htext)
    exact IpAddr.display_injective hdisplay
  · intro hnetwork
    rw [hnetwork]

/-- The `/24` subnet is the one the cases are written with. -/
theorem Topology.subnet_eq_peerSlash24 {topo : Topology} {cfg : RunConfig}
    {target peer : Ipv4Addr} (htarget : topo.targetIp = .v4 target)
    (hpeer : cfg.peerIp = .v4 peer) (hlen : topo.prefixLen = 24)
    (hsame : ∀ i < 24, (IpAddr.v4 target).bit i = (IpAddr.v4 peer).bit i) :
    topo.subnet = cfg.peerSlash24 := by
  have hnetwork : (IpAddr.v4 target).network 24 = .v4 { peer with d := 0 } := by
    have hwidth : 24 ≤ (IpAddr.v4 target).width := by rw [IpAddr.width]; decide
    rw [(IpAddr.network_eq_iff (by rw [IpAddr.width, IpAddr.width]) hwidth).mpr hsame,
      IpAddr.network_24]
  have hlen' : topo.prefixLen.toNat = 24 := by rw [hlen]; rfl
  have htext (network : IpAddr) : s!"{network}/{(24 : UInt8)}" = network.display ++ "/24" := by
    have hlast : toString (24 : UInt8) = "24" := rfl
    rw [hlast]
    exact String.append_assoc
  rw [subnet_eq, htarget, hlen', hnetwork, hlen, htext, RunConfig.peerSlash24, hpeer]
  exact (display_slash24 peer).symm

/-- **The subnet is the network of the target address.** It is computed without an overflow. For
a prefix length within the width it is printed from the address that has the first bits of the
target address and no host bits, so two target addresses of a family have one subnet exactly when
they agree on the first bits. A `/24` is the text the cases name the network of the peer by. -/
theorem subnet_is_network :
    (∀ topo : Topology, topo.subnetChecked = some topo.subnet) ∧
    (∀ topo : Topology, topo.prefixLen.toNat ≤ topo.targetIp.width →
      ∃ network : IpAddr, topo.subnet = s!"{network}/{topo.prefixLen}" ∧
        network.width = topo.targetIp.width ∧
        (∀ i, topo.prefixLen.toNat ≤ i → network.bit i = false) ∧
        ∀ i < topo.prefixLen.toNat, network.bit i = topo.targetIp.bit i) ∧
    (∀ topo topo' : Topology, topo'.prefixLen = topo.prefixLen →
      topo'.targetIp.width = topo.targetIp.width →
      topo.prefixLen.toNat ≤ topo.targetIp.width →
      (topo'.subnet = topo.subnet ↔
        ∀ i < topo.prefixLen.toNat, topo'.targetIp.bit i = topo.targetIp.bit i)) ∧
    ∀ (topo : Topology) (cfg : RunConfig) (target peer : Ipv4Addr),
      topo.targetIp = .v4 target → cfg.peerIp = .v4 peer → topo.prefixLen = 24 →
      (∀ i < 24, (IpAddr.v4 target).bit i = (IpAddr.v4 peer).bit i) →
      topo.subnet = cfg.peerSlash24 := by
  refine ⟨Topology.subnetChecked_eq, fun topo hle => ?_, fun topo topo' hlen hfamily hle => ?_,
    fun topo cfg target peer htarget hpeer hlen hsame => ?_⟩
  · exact ⟨topo.targetIp.network topo.prefixLen.toNat, topo.subnet_eq, IpAddr.width_network _ _,
      fun i hi => IpAddr.bit_network_of_le _ hi, fun i hi => IpAddr.bit_network_of_lt hle hi⟩
  · exact Topology.subnet_eq_iff hlen hfamily hle
  · exact Topology.subnet_eq_peerSlash24 htarget hpeer hlen hsame

/-- The default target address and another one of its `/24` have one subnet, and it is the one
the cases name. -/
theorem subnet_is_network_default :
    (Topology.ofGlobal .default).subnet = benchConfig.peerSlash24 ∧
    ({ Topology.ofGlobal .default with targetIp := .v4 ⟨10, 123, 0, 9⟩ } : Topology).subnet =
      (Topology.ofGlobal .default).subnet :=
  ⟨subnet_is_network.2.2.2 _ benchConfig ⟨10, 123, 0, 1⟩ ⟨10, 123, 0, 2⟩ rfl rfl rfl (by decide),
    (subnet_is_network.2.2.1 (Topology.ofGlobal .default) _ rfl rfl (by decide)).mpr (by decide)⟩

end FwVerify
