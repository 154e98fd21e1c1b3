import FwVerify.Traffic.Checksum

/-!
# The crafted packets verify

A checksum stored over two zero bytes at an even offset makes the buffer sum to zero. The
packets of the worker are built that way, and the header layouts of ICMP and TCP read the
given fields back from them.

## Main definitions

* `IcmpMessage.decode`, `TcpSegment.decode` — the header layouts

## Main results

* `icmpChecksum_stored`, `tcpChecksum_stored` — a buffer that carries its checksum
* `crafted_packets_verify` — the packets of the worker
-/

set_option autoImplicit false

namespace FwVerify

open OnesComplement

/-! ## Storing a checksum -/

theorem u16FromBe_toBe (n : UInt16) :
    u16FromBe (UInt8.ofNat (n.toNat / 256)) (UInt8.ofNat n.toNat) = n := by
  have hlt := n.toNat_lt
  apply UInt16.toNat_inj.mp
  rw [toNat_u16FromBe, UInt8.toNat_ofNat', UInt8.toNat_ofNat']
  omega

/-- Two zero bytes inside a buffer, with what stands before and after them. -/
theorem split_at_zeros {data : List UInt8} {k : Nat} (hfirst : data[k]? = some 0)
    (hsecond : data[k + 1]? = some 0) :
    data = data.take k ++ 0 :: 0 :: data.drop (k + 2) := by
  obtain ⟨hk, hzero⟩ := List.getElem?_eq_some_iff.mp hfirst
  obtain ⟨hk', hzero'⟩ := List.getElem?_eq_some_iff.mp hsecond
  have hdrop : data.drop k = 0 :: 0 :: data.drop (k + 2) := by
    rw [List.drop_eq_getElem_cons hk, hzero, List.drop_eq_getElem_cons hk', hzero']
  rw [← hdrop, List.take_append_drop]

/-- A word stored at an even offset over two zero bytes takes the place of a zero word. -/
theorem chunkWords_copyAt {data : List UInt8} {k : Nat} (heven : Even k)
    (hfirst : data[k]? = some 0) (hsecond : data[k + 1]? = some 0) (word : UInt16) :
    chunkWords data = chunkWords (data.take k) ++ 0 :: chunkWords (data.drop (k + 2)) ∧
    chunkWords (copyAt data k (u16ToBe word)) =
      chunkWords (data.take k) ++ word :: chunkWords (data.drop (k + 2)) := by
  have hk : k < data.length := (List.getElem?_eq_some_iff.mp hfirst).1
  have hfront : Even (data.take k).length := by
    rwa [List.length_take, Nat.min_eq_left hk.le]
  constructor
  · conv_lhs => rw [split_at_zeros hfirst hsecond]
    rw [chunkWords_append hfront]
    rfl
  · rw [copyAt, List.append_assoc, chunkWords_append hfront, u16ToBe]
    simp only [List.cons_append, List.nil_append, List.length_cons, List.length_nil,
      chunkWords, u16FromBe_toBe]

theorem length_copyAt {data bytes : List UInt8} {k : Nat}
    (hroom : k + bytes.length ≤ data.length) : (copyAt data k bytes).length = data.length := by
  rw [copyAt, List.length_append, List.length_append, List.length_take, List.length_drop]
  omega

/-- Storing the ICMP checksum over zero bytes makes the checksum zero. -/
theorem icmpChecksum_stored {data : List UInt8} {k : Nat} (hlen : data.length ≤ 131074)
    (heven : Even k) (hfirst : data[k]? = some 0) (hsecond : data[k + 1]? = some 0) :
    icmpChecksum (copyAt data k (u16ToBe (icmpChecksum data))) = 0 := by
  obtain ⟨hwords, hstored⟩ :=
    chunkWords_copyAt heven hfirst hsecond (icmpChecksum data)
  have hfits := length_chunkWords_le hlen
  rw [hwords] at hfits
  rw [icmpChecksum, hstored, icmpChecksum, hwords]
  exact checksumOf_stored hfits

/-- Storing the TCP checksum over zero bytes makes the checksum zero. -/
theorem tcpChecksum_stored (src dst : Ipv4Addr) {tcp : List UInt8} {k : Nat}
    (hlen : tcp.length ≤ 65535) (heven : Even k) (hfirst : tcp[k]? = some 0)
    (hsecond : tcp[k + 1]? = some 0) :
    tcpChecksum src dst (copyAt tcp k (u16ToBe (tcpChecksum src dst tcp))) = 0 := by
  obtain ⟨hwords, hstored⟩ :=
    chunkWords_copyAt heven hfirst hsecond (tcpChecksum src dst tcp)
  have hk := (List.getElem?_eq_some_iff.mp hsecond).1
  have hlength : (copyAt tcp k (u16ToBe (tcpChecksum src dst tcp))).length = tcp.length :=
    length_copyAt hk
  have hfits := length_tcpWords_le src dst hlen
  rw [tcpWords, hwords, ← List.append_assoc] at hfits
  -- the words of the pseudo-header stay in front of the zero word
  rw [tcpChecksum, tcpWords, hlength, hstored, tcpChecksum, tcpWords, hwords,
    ← List.append_assoc]
  exact checksumOf_stored hfits

/-! ## Header layouts -/

/-- `u32::from_be_bytes`. -/
def u32FromBe (first second third last : UInt8) : UInt32 :=
  UInt32.ofNat (first.toNat * 2 ^ 24 + second.toNat * 2 ^ 16 + third.toNat * 2 ^ 8 + last.toNat)

theorem u32FromBe_toBe (n : UInt32) :
    u32FromBe (UInt8.ofNat (n.toNat / 2 ^ 24)) (UInt8.ofNat (n.toNat / 2 ^ 16))
      (UInt8.ofNat (n.toNat / 2 ^ 8)) (UInt8.ofNat n.toNat) = n := by
  have hlt := n.toNat_lt
  apply UInt32.toNat_inj.mp
  rw [u32FromBe, UInt32.toNat_ofNat', UInt8.toNat_ofNat', UInt8.toNat_ofNat',
    UInt8.toNat_ofNat', UInt8.toNat_ofNat']
  omega

/-- An ICMP echo or timestamp message by its header fields. -/
structure IcmpMessage where
  type : UInt8
  code : UInt8
  checksum : UInt16
  ident : UInt16
  seq : UInt16
  payload : List UInt8
  deriving DecidableEq, Repr

/-- Read a message by the ICMP layout. -/
def IcmpMessage.decode : List UInt8 → Option IcmpMessage
  | type :: code :: sum₁ :: sum₀ :: ident₁ :: ident₀ :: seq₁ :: seq₀ :: payload =>
    some {
      type, code
      checksum := u16FromBe sum₁ sum₀
      ident := u16FromBe ident₁ ident₀
      seq := u16FromBe seq₁ seq₀
      payload }
  | _ => none

/-- The control bits of a TCP header. -/
inductive TcpFlag
  | fin | syn | rst | psh | ack | urg | ece | cwr | ns
  deriving DecidableEq, Repr

/-- The control bits in the order of their positions, lowest first. -/
def TcpFlag.all : List TcpFlag := [.fin, .syn, .rst, .psh, .ack, .urg, .ece, .cwr, .ns]

/-- A TCP segment by its header fields. -/
structure TcpSegment where
  srcPort : UInt16
  dstPort : UInt16
  seq : UInt32
  ack : UInt32
  /-- Length of the header in 32-bit words. -/
  dataOffset : Nat
  reserved : Nat
  flags : List TcpFlag
  window : UInt16
  checksum : UInt16
  urgent : UInt16
  /-- The options and the data. -/
  body : List UInt8
  deriving DecidableEq, Repr

/-- The flags that are set in a word of offset and control bits. -/
def flagsOf (offFlags : Nat) : List TcpFlag :=
  (TcpFlag.all.zipIdx.filter fun (_, position) => offFlags.testBit position).map Prod.fst

/-- Read a segment by the TCP layout. -/
def TcpSegment.decode : List UInt8 → Option TcpSegment
  | src₁ :: src₀ :: dst₁ :: dst₀ :: seq₃ :: seq₂ :: seq₁ :: seq₀ ::
      ack₃ :: ack₂ :: ack₁ :: ack₀ :: off₁ :: off₀ :: window₁ :: window₀ ::
      sum₁ :: sum₀ :: urgent₁ :: urgent₀ :: body =>
    let offFlags := (u16FromBe off₁ off₀).toNat
    some {
      srcPort := u16FromBe src₁ src₀
      dstPort := u16FromBe dst₁ dst₀
      seq := u32FromBe seq₃ seq₂ seq₁ seq₀
      ack := u32FromBe ack₃ ack₂ ack₁ ack₀
      dataOffset := offFlags / 2 ^ 12
      reserved := offFlags / 2 ^ 9 % 2 ^ 3
      flags := flagsOf offFlags
      window := u16FromBe window₁ window₀
      checksum := u16FromBe sum₁ sum₀
      urgent := u16FromBe urgent₁ urgent₀
      body }
  | _ => none

/-! ## The packets -/

/-- An ICMP request before its checksum is stored. -/
def icmpUnsummed (type : UInt8) (ident seq : UInt16) (payload : List UInt8) : List UInt8 :=
  [type, 0, 0, 0] ++ u16ToBe ident ++ u16ToBe seq ++ payload

theorem buildIcmpEcho_eq (ident seq : UInt16) :
    buildIcmpEcho ident seq =
      copyAt (icmpUnsummed 8 ident seq echoPayload) 2
        (u16ToBe (icmpChecksum (icmpUnsummed 8 ident seq echoPayload))) := rfl

theorem buildIcmpTimestamp_eq (ident seq : UInt16) :
    buildIcmpTimestamp ident seq =
      copyAt (icmpUnsummed 13 ident seq (List.replicate 12 0)) 2
        (u16ToBe (icmpChecksum (icmpUnsummed 13 ident seq (List.replicate 12 0)))) := rfl

/-- An ICMP request that carries its checksum sums to zero. -/
theorem icmpChecksum_summed (type : UInt8) (ident seq : UInt16) {payload : List UInt8}
    (hlen : payload.length ≤ 131066) :
    icmpChecksum (copyAt (icmpUnsummed type ident seq payload) 2
      (u16ToBe (icmpChecksum (icmpUnsummed type ident seq payload)))) = 0 := by
  refine icmpChecksum_stored ?_ (by decide) rfl rfl
  rw [icmpUnsummed, List.length_append]
  exact Nat.add_le_add_left hlen 8

/-- An ICMP request reads back with its fields, whatever checksum is stored. -/
theorem decode_summed (type : UInt8) (ident seq checksum : UInt16) (payload : List UInt8) :
    IcmpMessage.decode (copyAt (icmpUnsummed type ident seq payload) 2 (u16ToBe checksum)) =
      some { type, code := 0, checksum, ident, seq, payload } := by
  conv_rhs => rw [← u16FromBe_toBe ident, ← u16FromBe_toBe seq, ← u16FromBe_toBe checksum]
  rfl

/-- A bare-FIN segment before its checksum is stored. -/
def finUnsummed (sport dport : UInt16) (seq : UInt32) : List UInt8 :=
  u16ToBe sport ++ u16ToBe dport ++ u32ToBe seq ++
    [0, 0, 0, 0, 0x50, 0x01, 0x04, 0x00, 0, 0, 0, 0]

theorem buildFin_eq (src dst : Ipv4Addr) (sport dport : UInt16) (seq : UInt32) :
    buildFin src dst sport dport seq =
      copyAt (finUnsummed sport dport seq) 16
        (u16ToBe (tcpChecksum src dst (finUnsummed sport dport seq))) := rfl

theorem tcpChecksum_buildFin_eq_zero (src dst : Ipv4Addr) (sport dport : UInt16)
    (seq : UInt32) : tcpChecksum src dst (buildFin src dst sport dport seq) = 0 := by
  have hlen : (finUnsummed sport dport seq).length = 20 := rfl
  rw [buildFin_eq]
  exact tcpChecksum_stored src dst (by rw [hlen]; decide) (by decide) rfl rfl

/-- A FIN segment reads back as a bare header with no flag but FIN. -/
theorem decode_finSummed (sport dport : UInt16) (seq : UInt32) (checksum : UInt16) :
    TcpSegment.decode (copyAt (finUnsummed sport dport seq) 16 (u16ToBe checksum)) = some {
      srcPort := sport, dstPort := dport, seq, ack := 0, dataOffset := 5, reserved := 0
      flags := [.fin], window := 1024, checksum, urgent := 0, body := [] } := by
  conv_rhs =>
    rw [← u16FromBe_toBe sport, ← u16FromBe_toBe dport, ← u32FromBe_toBe seq,
      ← u16FromBe_toBe checksum]
  rfl

/-- Storing the checksum of a buffer over two zero bytes at an even offset makes the checksum
zero. The worker's packets carry such a checksum, and by their header layouts hold the given
fields, for the FIN segment with a header of five words and FIN as the only flag. -/
theorem crafted_packets_verify :
    (∀ (data : List UInt8) (k : Nat), data.length ≤ 131074 → Even k → k + 2 ≤ data.length →
      data[k]? = some 0 → data[k + 1]? = some 0 →
      icmpChecksum (copyAt data k (u16ToBe (icmpChecksum data))) = 0) ∧
    (∀ (src dst : Ipv4Addr) (tcp : List UInt8) (k : Nat), tcp.length ≤ 65535 → Even k →
      k + 2 ≤ tcp.length → tcp[k]? = some 0 → tcp[k + 1]? = some 0 →
      tcpChecksum src dst (copyAt tcp k (u16ToBe (tcpChecksum src dst tcp))) = 0) ∧
    (∀ ident seq : UInt16,
      icmpChecksum (buildIcmpEcho ident seq) = 0 ∧
      icmpChecksum (buildIcmpTimestamp ident seq) = 0 ∧
      (∃ checksum, IcmpMessage.decode (buildIcmpEcho ident seq) =
        some { type := 8, code := 0, checksum, ident, seq, payload := echoPayload }) ∧
      (∃ checksum, IcmpMessage.decode (buildIcmpTimestamp ident seq) =
        some { type := 13, code := 0, checksum, ident, seq
               payload := List.replicate 12 0 })) ∧
    (∀ (src dst : Ipv4Addr) (sport dport : UInt16) (seq : UInt32),
      tcpChecksum src dst (buildFin src dst sport dport seq) = 0 ∧
      (∃ checksum, TcpSegment.decode (buildFin src dst sport dport seq) = some {
        srcPort := sport, dstPort := dport, seq, ack := 0, dataOffset := 5, reserved := 0
        flags := [.fin], window := 1024, checksum, urgent := 0, body := [] })) := by
  refine ⟨fun data k hlen heven _ hfirst hsecond =>
      icmpChecksum_stored hlen heven hfirst hsecond,
    fun src dst tcp k hlen heven _ hfirst hsecond =>
      tcpChecksum_stored src dst hlen heven hfirst hsecond,
    fun ident seq => ?_, fun src dst sport dport seq => ?_⟩
  · rw [buildIcmpEcho_eq, buildIcmpTimestamp_eq]
    exact ⟨icmpChecksum_summed 8 ident seq (by decide),
      icmpChecksum_summed 13 ident seq (by decide),
      ⟨_, decode_summed 8 ident seq _ echoPayload⟩,
      ⟨_, decode_summed 13 ident seq _ (List.replicate 12 0)⟩⟩
  · refine ⟨tcpChecksum_buildFin_eq_zero src dst sport dport seq, ?_⟩
    rw [buildFin_eq]
    exact ⟨_, decode_finSummed sport dport seq _⟩

/-- An echo request and a FIN segment, and checksums stored in small buffers. -/
theorem crafted_packets_verify_small :
    icmpChecksum (copyAt [8, 0, 0, 0, 1] 2 (u16ToBe (icmpChecksum [8, 0, 0, 0, 1]))) = 0 ∧
    tcpChecksum ⟨10, 0, 0, 1⟩ ⟨10, 0, 0, 2⟩ (copyAt [1, 2, 0, 0] 2
      (u16ToBe (tcpChecksum ⟨10, 0, 0, 1⟩ ⟨10, 0, 0, 2⟩ [1, 2, 0, 0]))) = 0 ∧
    icmpChecksum (buildIcmpEcho 0x1234 1) = 0 :=
  ⟨crafted_packets_verify.1 _ 2 (by decide) (by decide) (by decide) rfl rfl,
    crafted_packets_verify.2.1 _ _ _ 2 (by decide) (by decide) (by decide) rfl rfl,
    (crafted_packets_verify.2.2.1 0x1234 1).1⟩

end FwVerify
