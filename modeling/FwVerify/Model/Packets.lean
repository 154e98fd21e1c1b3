import FwVerify.Model.Net

/-!
# Crafted packets

The packets the worker sends through raw sockets, byte for byte: the ICMP echo and timestamp
requests and the bare-FIN TCP segment, with their checksums. Sums are kept in 32 bits, as in
the worker.

## Main definitions

* `icmpChecksum`, `tcpChecksum` — the two checksums
* `foldCarries` — the loop that brings the carries down
* `buildIcmpEcho`, `buildIcmpTimestamp`, `buildFin` — the packets
-/

set_option autoImplicit false

namespace FwVerify

/-- `u16::from_be_bytes`. -/
def u16FromBe (high low : UInt8) : UInt16 := UInt16.ofNat (high.toNat * 256 + low.toNat)

/-- `u16::to_be_bytes`. -/
def u16ToBe (n : UInt16) : List UInt8 := [UInt8.ofNat (n.toNat / 256), UInt8.ofNat n.toNat]

/-- `u32::to_be_bytes`. -/
def u32ToBe (n : UInt32) : List UInt8 :=
  [UInt8.ofNat (n.toNat / 2 ^ 24), UInt8.ofNat (n.toNat / 2 ^ 16),
    UInt8.ofNat (n.toNat / 2 ^ 8), UInt8.ofNat n.toNat]

/-- Overwrite the bytes of a buffer from `start` on. -/
def copyAt (buffer : List UInt8) (start : Nat) (bytes : List UInt8) : List UInt8 :=
  buffer.take start ++ bytes ++ buffer.drop (start + bytes.length)

/-! ## Checksums -/

/-- The words a byte slice adds to a checksum: its pairs of bytes, and an odd last byte
padded with zero. -/
def chunkWords : List UInt8 → List UInt16
  | first :: second :: later => u16FromBe first second :: chunkWords later
  | [last] => [u16FromBe last 0]
  | [] => []

/-- Add words into a 32-bit sum. -/
def accumulate (words : List UInt16) : UInt32 :=
  words.foldl (fun sum word => sum + word.toUInt32) 0

/-- The body of the carry loop. -/
def foldStep (sum : UInt32) : UInt32 := (sum &&& (0xffff : UInt32)) + (sum >>> 16)

theorem toNat_high (sum : UInt32) : (sum >>> 16).toNat = sum.toNat / 65536 := by
  rw [UInt32.toNat_shiftRight]
  exact Nat.shiftRight_eq_div_pow _ 16

theorem toNat_low (sum : UInt32) : (sum &&& 0xffff).toNat = sum.toNat % 65536 := by
  rw [UInt32.toNat_and]
  exact Nat.and_two_pow_sub_one_eq_mod _ 16

theorem toNat_foldStep (sum : UInt32) :
    (foldStep sum).toNat = sum.toNat % 65536 + sum.toNat / 65536 := by
  have hlt := sum.toNat_lt
  rw [foldStep, UInt32.toNat_add, toNat_low, toNat_high, Nat.mod_eq_of_lt (by omega)]

theorem high_ne_zero_iff (sum : UInt32) : sum >>> 16 ≠ 0 ↔ 65536 ≤ sum.toNat := by
  rw [Ne, ← UInt32.toNat_inj, toNat_high]
  change ¬ sum.toNat / 65536 = 0 ↔ _
  omega

/-- Bring the carries down until none is left. -/
def foldCarries (sum : UInt32) : UInt32 :=
  if sum >>> 16 ≠ 0 then foldCarries (foldStep sum) else sum
termination_by sum.toNat
decreasing_by
  rename_i hhigh
  have hbig := (high_ne_zero_iff sum).mp hhigh
  rw [toNat_foldStep]
  omega

/-- The checksum of a sequence of words. -/
def checksumOf (words : List UInt16) : UInt16 := ~~~(foldCarries (accumulate words)).toUInt16

def icmpChecksum (data : List UInt8) : UInt16 := checksumOf (chunkWords data)

/-- The words of a TCP checksum: the addresses, the protocol and the length, then the
segment. -/
def tcpWords (src dst : Ipv4Addr) (tcp : List UInt8) : List UInt16 :=
  [u16FromBe src.a src.b, u16FromBe src.c src.d, u16FromBe dst.a dst.b, u16FromBe dst.c dst.d,
    6, UInt16.ofNat tcp.length] ++ chunkWords tcp

/-- Internet checksum over the TCP pseudo-header and the segment. -/
def tcpChecksum (src dst : Ipv4Addr) (tcp : List UInt8) : UInt16 :=
  checksumOf (tcpWords src dst tcp)

/-! ## Packets -/

/-- The payload of an echo request, `fwagentp`. -/
def echoPayload : List UInt8 := [0x66, 0x77, 0x61, 0x67, 0x65, 0x6e, 0x74, 0x70]

/-- An ICMP echo request. -/
def buildIcmpEcho (ident seq : UInt16) : List UInt8 :=
  let packet := List.replicate 16 0
  let packet := packet.set 0 8
  let packet := copyAt packet 4 (u16ToBe ident)
  let packet := copyAt packet 6 (u16ToBe seq)
  let packet := copyAt packet 8 echoPayload
  let checksum := icmpChecksum packet
  copyAt packet 2 (u16ToBe checksum)

/-- An ICMP timestamp request: its three timestamps are left zero. -/
def buildIcmpTimestamp (ident seq : UInt16) : List UInt8 :=
  let packet := List.replicate 20 0
  let packet := packet.set 0 13
  let packet := copyAt packet 4 (u16ToBe ident)
  let packet := copyAt packet 6 (u16ToBe seq)
  let checksum := icmpChecksum packet
  copyAt packet 2 (u16ToBe checksum)

/-- A bare-FIN TCP segment: five words of header and only the FIN flag set. -/
def buildFin (src dst : Ipv4Addr) (sport dport : UInt16) (seq : UInt32) : List UInt8 :=
  let tcp := List.replicate 20 0
  let tcp := copyAt tcp 0 (u16ToBe sport)
  let tcp := copyAt tcp 2 (u16ToBe dport)
  let tcp := copyAt tcp 4 (u32ToBe seq)
  let offFlags : UInt16 := ((5 : UInt16) <<< 12) ||| (0x0001 : UInt16)
  let tcp := copyAt tcp 12 (u16ToBe offFlags)
  let tcp := copyAt tcp 14 (u16ToBe 1024)
  let checksum := tcpChecksum src dst tcp
  copyAt tcp 16 (u16ToBe checksum)

end FwVerify
