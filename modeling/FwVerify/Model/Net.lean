import FwVerify.Lib.Text

/-!
# IP addresses

The addresses of `std::net` and their text forms: dotted decimal for IPv4, and for IPv6 the
hexadecimal form that drops the longest run of zero segments and writes mapped IPv4
addresses in dotted decimal.

## Main results

* `Ipv4Addr.parse_display` — reading an IPv4 address undoes printing it
* `IpAddr.not_mem_display` — a printed address holds hexadecimal digits, colons and dots only
-/

set_option autoImplicit false

namespace FwVerify

open Text

/-- An IPv4 address by its octets. -/
structure Ipv4Addr where
  a : UInt8
  b : UInt8
  c : UInt8
  d : UInt8
  deriving DecidableEq, Repr

namespace Ipv4Addr

/-- `u32::from(addr)`. -/
def toU32 (ip : Ipv4Addr) : Nat :=
  ip.a.toNat * 2 ^ 24 + ip.b.toNat * 2 ^ 16 + ip.c.toNat * 2 ^ 8 + ip.d.toNat

/-- The dotted decimal form. -/
def display (ip : Ipv4Addr) : String :=
  ".".intercalate [toString ip.a, toString ip.b, toString ip.c, toString ip.d]

instance : ToString Ipv4Addr := ⟨display⟩

/-- An octet as the address parser reads it: one to three digits, no leading zero. -/
def parseOctet (s : String) : Option UInt8 :=
  match s.toList with
  | '0' :: _ :: _ => none
  | digits => if digits.length ≤ 3 then
      ((parseDigits digits).filter (· < 256)).map UInt8.ofNat
    else none

/-- Read a dotted decimal address. -/
def parse (s : String) : Option Ipv4Addr :=
  match splitAt '.' s with
  | [a, b, c, d] => do
    return ⟨← parseOctet a, ← parseOctet b, ← parseOctet c, ← parseOctet d⟩
  | _ => none

theorem parseOctet_toString (n : UInt8) : parseOctet (toString n) = some n := by
  have hlt : n.toNat < 256 := n.toNat_lt
  have hlength : (Nat.toDigits 10 n.toNat).length ≤ 3 :=
    (Nat.length_toDigits_le_iff (by decide) (by decide)).mpr (by omega)
  change parseOctet n.toNat.repr = some n
  rw [parseOctet, Nat.toList_repr]
  split
  · next hdigits =>
    -- only zero itself begins with a zero, and it has no second digit
    exfalso
    rcases Nat.eq_zero_or_pos n.toNat with hzero | hpos
    · simp [hzero] at hdigits
    · exact head_toDigits_ne_zero (by omega : 1 < 10) hpos (by rw [hdigits, List.head?_cons])
  · simp [hlength, parseDigits_toDigits, hlt]

/-- Reading an IPv4 address undoes printing it. -/
theorem parse_display (ip : Ipv4Addr) : parse ip.display = some ip := by
  have hfree : ∀ item ∈ [toString ip.a, toString ip.b, toString ip.c, toString ip.d],
      '.' ∉ item.toList := by
    intro item hitem
    simp only [List.mem_cons, List.not_mem_nil, or_false] at hitem
    rcases hitem with rfl | rfl | rfl | rfl <;> exact not_mem_repr (by decide)
  have hsplit := splitAt_intercalate '.' _ hfree (by simp)
  change splitAt '.' ip.display = _ at hsplit
  rw [parse, hsplit]
  simp only [parseOctet_toString]
  rfl

/-- A character that is neither a digit nor a dot does not occur in a printed address. -/
theorem not_mem_display (ip : Ipv4Addr) {ch : Char} (hdigit : ch.isDigit = false)
    (hdot : ch ≠ '.') : ch ∉ ip.display.toList := by
  have hoctet : ∀ n : UInt8, ch ∉ (toString n).toList := fun n => not_mem_repr hdigit
  refine not_mem_intercalate (by simpa using hdot) fun item hitem => ?_
  simp only [List.mem_cons, List.not_mem_nil, or_false] at hitem
  rcases hitem with rfl | rfl | rfl | rfl <;> exact hoctet _

end Ipv4Addr

/-- An IPv6 address by its eight segments. -/
structure Ipv6Addr where
  segments : Vector UInt16 8
  deriving DecidableEq

namespace Ipv6Addr

/-- Lower-case hexadecimal without leading zeros. -/
def hex (n : UInt16) : String := String.ofList (Nat.toDigits 16 n.toNat)

/-- The IPv4 address of a mapped address `::ffff:a.b.c.d`. -/
def toIpv4Mapped (ip : Ipv6Addr) : Option Ipv4Addr :=
  match ip.segments.toList with
  | [0, 0, 0, 0, 0, 0xffff, ab, cd] =>
    some ⟨UInt8.ofNat (ab.toNat / 256), UInt8.ofNat (ab.toNat % 256),
      UInt8.ofNat (cd.toNat / 256), UInt8.ofNat (cd.toNat % 256)⟩
  | _ => none

/-- A run of zero segments. -/
structure Span where
  start : Nat
  len : Nat

/-- The first longest run of zero segments: `(current, longest)` after each segment. -/
def zeroSpans : List (UInt16 × Nat) → Span × Span → Span
  | [], (_, longest) => longest
  | (segment, index) :: later, (current, longest) =>
    if segment = 0 then
      let start := if current.len = 0 then index else current.start
      let current : Span := ⟨start, current.len + 1⟩
      zeroSpans later (current, if longest.len < current.len then current else longest)
    else
      zeroSpans later (⟨0, 0⟩, longest)

/-- Segments joined by colons. -/
def subslice (segments : List UInt16) : String := ":".intercalate (segments.map hex)

/-- The text form. -/
def display (ip : Ipv6Addr) : String :=
  match ip.toIpv4Mapped with
  | some v4 => "::ffff:" ++ v4.display
  | none =>
    let segments := ip.segments.toList
    let zeroes := zeroSpans segments.zipIdx (⟨0, 0⟩, ⟨0, 0⟩)
    if 1 < zeroes.len then
      subslice (segments.take zeroes.start) ++ "::" ++
        subslice (segments.drop (zeroes.start + zeroes.len))
    else
      subslice segments

/-- A character that is no hexadecimal digit does not occur in a printed segment. -/
theorem not_mem_hex {ch : Char} (hhex : ∀ k < 16, ch ≠ Nat.digitChar k) (segment : UInt16) :
    ch ∉ (hex segment).toList := by
  have hdigits (n : Nat) : ch ∉ Nat.toDigits 16 n := by
    induction n using Nat.strong_induction_on with
    | _ n ih =>
      rw [Nat.toDigits_eq_if (by decide)]
      split_ifs with h
      · simp [hhex n h]
      · simp [hhex (n % 16) (Nat.mod_lt _ (by decide)), ih (n / 16) (by omega)]
  simpa [hex] using hdigits segment.toNat

theorem not_mem_subslice {ch : Char} (hhex : ∀ k < 16, ch ≠ Nat.digitChar k)
    (hcolon : ch ≠ ':') (segments : List UInt16) : ch ∉ (subslice segments).toList := by
  refine not_mem_intercalate (by simpa using hcolon) fun item hitem => ?_
  obtain ⟨segment, -, rfl⟩ := List.mem_map.mp hitem
  exact not_mem_hex hhex segment

/-- A character that is no hexadecimal digit, colon or dot does not occur in a printed IPv6
address. -/
theorem not_mem_display (ip : Ipv6Addr) {ch : Char} (hhex : ∀ k < 16, ch ≠ Nat.digitChar k)
    (hdigit : ch.isDigit = false) (hcolon : ch ≠ ':') (hdot : ch ≠ '.') :
    ch ∉ ip.display.toList := by
  unfold display
  split
  · next v4 _ =>
    have hf : ch ≠ 'f' := hhex 15 (by decide)
    have hv4 : ch ∉ v4.display.toList := v4.not_mem_display hdigit hdot
    simp [String.toList_append, hv4, hcolon, hf]
  · dsimp only
    split_ifs
    · simp [String.toList_append, not_mem_subslice hhex hcolon, hcolon]
    · exact not_mem_subslice hhex hcolon _

end Ipv6Addr

/-- An address of either family. -/
inductive IpAddr
  | v4 (ip : Ipv4Addr)
  | v6 (ip : Ipv6Addr)
  deriving DecidableEq

namespace IpAddr

/-- The text form of an address. -/
def display : IpAddr → String
  | .v4 ip => ip.display
  | .v6 ip => ip.display

instance : ToString IpAddr := ⟨display⟩

/-- A character that is no hexadecimal digit, colon or dot does not occur in a printed
address. -/
theorem not_mem_display (ip : IpAddr) {ch : Char} (hhex : ∀ k < 16, ch ≠ Nat.digitChar k)
    (hdigit : ch.isDigit = false) (hcolon : ch ≠ ':') (hdot : ch ≠ '.') :
    ch ∉ ip.display.toList := by
  cases ip with
  | v4 ip => exact ip.not_mem_display hdigit hdot
  | v6 ip => exact ip.not_mem_display hhex hdigit hcolon hdot

/-- No printed address holds a hyphen. -/
theorem hyphen_not_mem_display (ip : IpAddr) : '-' ∉ ip.display.toList :=
  ip.not_mem_display (by decide) (by decide) (by decide) (by decide)

end IpAddr

end FwVerify
