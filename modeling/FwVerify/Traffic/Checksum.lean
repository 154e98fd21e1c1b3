import FwVerify.Lib.OnesComplement
import FwVerify.Model.Packets
import Mathlib.Algebra.Ring.Parity
import Mathlib.Logic.Function.Iterate

/-!
# The checksums are the Internet checksum

Within the length bounds no addition leaves 32 bits, so the sum the worker keeps is the plain
sum of the words; bringing the carries down leaves its one's-complement representative.

## Main results

* `toNat_checksumOf` — a checksum is the complement of the one's-complement sum
* `checksums_agree` — the ICMP and the TCP checksum are the Internet checksum
* `checksumOf_stored` — a sequence of words that carries its own checksum sums to zero
-/

set_option autoImplicit false

namespace FwVerify

open OnesComplement

/-! ## Words -/

theorem toNat_u16FromBe (high low : UInt8) :
    (u16FromBe high low).toNat = high.toNat * 256 + low.toNat := by
  have hhigh := high.toNat_lt
  have hlow := low.toNat_lt
  rw [u16FromBe, UInt16.toNat_ofNat', Nat.mod_eq_of_lt (by omega)]

/-- The words the worker adds are the big-endian words of the bytes. -/
theorem map_toNat_chunkWords (data : List UInt8) :
    (chunkWords data).map UInt16.toNat = beWords data := by
  fun_induction chunkWords data with
  | case1 first second later ih => rw [List.map_cons, ih, toNat_u16FromBe, beWords]
  | case2 last =>
    rw [List.map_singleton, toNat_u16FromBe, beWords, UInt8.toNat_zero, Nat.add_zero]
  | case3 => rfl

theorem length_chunkWords (data : List UInt8) :
    (chunkWords data).length = (data.length + 1) / 2 := by
  fun_induction chunkWords data with
  | case1 first second later ih =>
    simp only [List.length_cons, ih]
    omega
  | case2 last => rw [List.length_singleton, List.length_singleton]
  | case3 => rfl

/-- A whole number of words may be split off in front. -/
theorem chunkWords_append {front : List UInt8} (heven : Even front.length)
    (back : List UInt8) : chunkWords (front ++ back) = chunkWords front ++ chunkWords back := by
  fun_induction chunkWords front with
  | case1 first second later ih =>
    have hlater : Even later.length := by
      rw [List.length_cons, List.length_cons] at heven
      simpa [Nat.even_add_one] using heven
    rw [List.cons_append, List.cons_append, chunkWords, ih hlater, List.cons_append]
  | case2 last =>
    exact absurd heven Nat.not_even_one
  | case3 => rfl

theorem toNat_le_ones (words : List UInt16) : ∀ w ∈ words.map UInt16.toNat, w ≤ 0xffff := by
  intro w hw
  obtain ⟨word, -, rfl⟩ := List.mem_map.mp hw
  exact Nat.le_of_lt_succ word.toNat_lt

/-- The plain sum of words. -/
def wordSum (words : List UInt16) : Nat := (words.map UInt16.toNat).sum

theorem wordSum_append (words later : List UInt16) :
    wordSum (words ++ later) = wordSum words + wordSum later := by
  rw [wordSum, List.map_append, List.sum_append, wordSum, wordSum]

theorem wordSum_cons (word : UInt16) (later : List UInt16) :
    wordSum (word :: later) = word.toNat + wordSum later := by
  rw [wordSum, List.map_cons, List.sum_cons, wordSum]

/-- The most words whose sum stays within 32 bits, whatever they are. -/
def maxWords : Nat := 65537

theorem wordSum_lt {words : List UInt16} (hlen : words.length ≤ maxWords) :
    wordSum words < 2 ^ 32 := by
  have hle := sum_le_mul (toNat_le_ones words)
  rw [List.length_map] at hle
  have hmul : words.length * 0xffff ≤ maxWords * 0xffff := Nat.mul_le_mul_right _ hlen
  exact Nat.lt_of_le_of_lt (hle.trans hmul) (by decide)

/-! ## The sum -/

/-- While the plain sum fits, the 32-bit sum is the plain sum. -/
theorem toNat_accumulate {words : List UInt16} (hfits : wordSum words < 2 ^ 32) :
    (accumulate words).toNat = wordSum words := by
  have hfrom : ∀ start : UInt32, start.toNat + wordSum words < 2 ^ 32 →
      (words.foldl (fun sum word => sum + word.toUInt32) start).toNat =
        start.toNat + wordSum words := by
    clear hfits
    -- the sum so far is carried in the start value
    induction words with
    | nil => intro start _; rfl
    | cons word later ih =>
      intro start hstart
      rw [wordSum_cons] at hstart
      have hword : (start + word.toUInt32).toNat = start.toNat + word.toNat := by
        rw [UInt32.toNat_add, UInt16.toNat_toUInt32, Nat.mod_eq_of_lt (by omega)]
      rw [List.foldl_cons, ih _ (by omega), hword, wordSum_cons, Nat.add_assoc]
  simpa [accumulate] using hfrom 0 (by simpa using hfits)

/-- Every addition into the sum stays within 32 bits. -/
def NoOverflow (words : List UInt16) : Prop :=
  ∀ before word after, words = before ++ word :: after →
    (accumulate before).toNat + word.toNat < 2 ^ 32

theorem noOverflow_of_length {words : List UInt16} (hlen : words.length ≤ maxWords) :
    NoOverflow words := by
  intro before word after hwords
  have hfits := wordSum_lt hlen
  rw [hwords, wordSum_append, wordSum_cons] at hfits
  rw [toNat_accumulate (by omega)]
  omega

/-! ## The carries -/

/-- Bringing the carries down ends with the representative of the sum. -/
theorem toNat_foldCarries (sum : UInt32) :
    (foldCarries sum).toNat = rep 0xffff sum.toNat := by
  fun_induction foldCarries sum with
  | case1 sum hhigh ih =>
    rw [ih, toNat_foldStep]
    exact rep_fold 0xffff sum.toNat
  | case2 sum hhigh =>
    have hsmall : ¬ 65536 ≤ sum.toNat := fun hbig => hhigh ((high_ne_zero_iff sum).mpr hbig)
    exact (rep_of_le (by omega)).symm

theorem foldCarries_of_high {sum : UInt32} (hbig : 65536 ≤ sum.toNat) :
    foldCarries sum = foldCarries (foldStep sum) := by
  rw [foldCarries, if_pos ((high_ne_zero_iff sum).mpr hbig)]

theorem foldCarries_of_low {sum : UInt32} (hsmall : sum.toNat < 65536) :
    foldCarries sum = sum := by
  rw [foldCarries, if_neg fun hhigh => by
    have := (high_ne_zero_iff sum).mp hhigh
    omega]

/-- The carry loop ends after at most two rounds. -/
theorem foldCarries_rounds (sum : UInt32) :
    ∃ rounds ≤ 2, (foldStep^[rounds] sum) >>> 16 = 0 ∧
      foldCarries sum = foldStep^[rounds] sum := by
  have hlt := sum.toNat_lt
  have hstep := toNat_foldStep sum
  have hstep₂ := toNat_foldStep (foldStep sum)
  have hend : ∀ final : UInt32, final.toNat < 65536 → final >>> 16 = 0 := by
    intro final hfinal
    by_contra hhigh
    have := (high_ne_zero_iff final).mp hhigh
    omega
  by_cases hsmall : sum.toNat < 65536
  · exact ⟨0, by decide, hend sum hsmall, foldCarries_of_low hsmall⟩
  · have hbig : 65536 ≤ sum.toNat := by omega
    by_cases hsmall₁ : (foldStep sum).toNat < 65536
    · refine ⟨1, by decide, hend _ hsmall₁, ?_⟩
      rw [foldCarries_of_high hbig, foldCarries_of_low hsmall₁]
      rfl
    · -- the first round leaves a single carry
      have hbig₁ : 65536 ≤ (foldStep sum).toNat := by omega
      have hsmall₂ : (foldStep (foldStep sum)).toNat < 65536 := by omega
      refine ⟨2, by decide, hend _ hsmall₂, ?_⟩
      rw [foldCarries_of_high hbig, foldCarries_of_high hbig₁, foldCarries_of_low hsmall₂]
      rfl

/-! ## Checksums -/

/-- A checksum is the complement of the representative of the sum of the words. -/
theorem toNat_checksumOf {words : List UInt16} (hlen : words.length ≤ maxWords) :
    (checksumOf words).toNat = complement 0xffff (rep 0xffff (wordSum words)) := by
  have hle := rep_le (show 0 < 0xffff by decide) (wordSum words)
  rw [checksumOf, UInt16.toNat_not, UInt32.toNat_toUInt16, toNat_foldCarries,
    toNat_accumulate (wordSum_lt hlen), Nat.mod_eq_of_lt (by omega)]
  rfl

/-- A checksum is the complement of the one's-complement sum. -/
theorem toNat_checksumOf_eq_sum {words : List UInt16} (hlen : words.length ≤ maxWords) :
    (checksumOf words).toNat = complement 0xffff (sum 0xffff (words.map UInt16.toNat)) := by
  rw [toNat_checksumOf hlen, sum_eq_rep (by decide) (toNat_le_ones words), wordSum]

theorem length_chunkWords_le {data : List UInt8} (hlen : data.length ≤ 131074) :
    (chunkWords data).length ≤ maxWords := by
  rw [length_chunkWords, maxWords]
  omega

theorem length_tcpWords_le (src dst : Ipv4Addr) {tcp : List UInt8}
    (hlen : tcp.length ≤ 65535) : (tcpWords src dst tcp).length ≤ maxWords := by
  rw [tcpWords, List.length_append, length_chunkWords, maxWords]
  simp only [List.length_cons, List.length_nil]
  omega

/-- The bytes in front of a TCP segment of the given length: the two addresses, a zero byte,
the protocol number and the length. -/
def pseudoHeader (src dst : Ipv4Addr) (length : Nat) : List UInt8 :=
  [src.a, src.b, src.c, src.d, dst.a, dst.b, dst.c, dst.d, 0, 6,
    UInt8.ofNat (length / 256), UInt8.ofNat (length % 256)]

/-- The words of a TCP checksum are those of the pseudo-header and the segment. -/
theorem map_toNat_tcpWords (src dst : Ipv4Addr) {tcp : List UInt8}
    (hlen : tcp.length ≤ 65535) :
    (tcpWords src dst tcp).map UInt16.toNat =
      beWords (pseudoHeader src dst tcp.length ++ tcp) := by
  have hlength : (UInt16.ofNat tcp.length).toNat =
      (UInt8.ofNat (tcp.length / 256)).toNat * 256 +
        (UInt8.ofNat (tcp.length % 256)).toNat := by
    rw [UInt16.toNat_ofNat', UInt8.toNat_ofNat', UInt8.toNat_ofNat']
    omega
  simp only [tcpWords, pseudoHeader, List.map_cons, List.cons_append, List.nil_append, beWords,
    toNat_u16FromBe, map_toNat_chunkWords, hlength]
  rfl

/-- Both checksums are the Internet checksum: of the bytes for ICMP, of the pseudo-header and
the segment for TCP. No addition into the sum overflows, and neither does the carry loop,
which ends after at most two rounds. -/
theorem checksums_agree :
    (∀ data : List UInt8, data.length ≤ 131074 →
      (icmpChecksum data).toNat = internetChecksum data ∧ NoOverflow (chunkWords data)) ∧
    (∀ (src dst : Ipv4Addr) (tcp : List UInt8), tcp.length ≤ 65535 →
      (tcpChecksum src dst tcp).toNat =
          internetChecksum (pseudoHeader src dst tcp.length ++ tcp) ∧
        NoOverflow (tcpWords src dst tcp)) ∧
    (∀ sum : UInt32,
      (sum &&& 0xffff).toNat + (sum >>> 16).toNat < 2 ^ 32 ∧
      ∃ rounds ≤ 2, (foldStep^[rounds] sum) >>> 16 = 0 ∧
        foldCarries sum = foldStep^[rounds] sum) := by
  refine ⟨fun data hlen => ⟨?_, noOverflow_of_length (length_chunkWords_le hlen)⟩,
    fun src dst tcp hlen => ⟨?_, noOverflow_of_length (length_tcpWords_le src dst hlen)⟩,
    fun sum => ⟨?_, foldCarries_rounds sum⟩⟩
  · rw [icmpChecksum, toNat_checksumOf_eq_sum (length_chunkWords_le hlen),
      map_toNat_chunkWords, internetChecksum]
  · rw [tcpChecksum, toNat_checksumOf_eq_sum (length_tcpWords_le src dst hlen),
      map_toNat_tcpWords src dst hlen, internetChecksum]
  · have hlt := sum.toNat_lt
    rw [toNat_low, toNat_high]
    omega

/-- An odd number of bytes, and a short segment. -/
theorem checksums_agree_small :
    (icmpChecksum [0xff, 0xff, 0x01]).toNat = internetChecksum [0xff, 0xff, 0x01] ∧
    (tcpChecksum ⟨10, 0, 0, 1⟩ ⟨10, 0, 0, 2⟩ [1, 2, 3]).toNat =
      internetChecksum (pseudoHeader ⟨10, 0, 0, 1⟩ ⟨10, 0, 0, 2⟩ 3 ++ [1, 2, 3]) :=
  ⟨(checksums_agree.1 _ (by decide)).1, (checksums_agree.2.1 _ _ _ (by decide)).1⟩

/-! ## Stored checksums -/

/-- A sequence of words that carries, in place of a zero word, its own checksum has checksum
zero. -/
theorem checksumOf_stored {before after : List UInt16}
    (hlen : (before ++ 0 :: after).length ≤ maxWords) :
    checksumOf (before ++ checksumOf (before ++ 0 :: after) :: after) = 0 := by
  have hlen' : (before ++ checksumOf (before ++ 0 :: after) :: after).length ≤ maxWords := by
    rw [List.length_append, List.length_cons] at hlen ⊢
    exact hlen
  have hsum : wordSum (before ++ checksumOf (before ++ 0 :: after) :: after) =
      wordSum (before ++ 0 :: after) +
        complement 0xffff (rep 0xffff (wordSum (before ++ 0 :: after))) := by
    rw [← toNat_checksumOf hlen, wordSum_append, wordSum_append, wordSum_cons, wordSum_cons,
      UInt16.toNat_zero]
    omega
  apply UInt16.toNat_inj.mp
  rw [toNat_checksumOf hlen', hsum, rep_add_complement (by decide)]
  rfl

end FwVerify
