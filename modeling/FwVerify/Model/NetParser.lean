import FwVerify.Lib.Readers
import FwVerify.Model.Net

/-!
# Reading IP addresses

The address parser of `std::net`: dotted decimal for IPv4, and for IPv6 groups of up to four
hexadecimal digits around at most one `::`, the last two of them possibly in dotted decimal.

## Main definitions

* `IpAddr.parse` — read an address of either family

## Main results

* `IpAddr.parse_display` — reading an address undoes printing it
-/

set_option autoImplicit false

namespace FwVerify

open Text

/-! ## Readers -/

/-- Read the octet of the given index. -/
def readOctet (index : Nat) : Reader Nat := readSeparator '.' index (readNumber 10 3 256 false)

/-- Read an address in dotted decimal. -/
def readIpv4 : Reader Ipv4Addr := fun chars => do
  let (a, chars) ← readOctet 0 chars
  let (b, chars) ← readOctet 1 chars
  let (c, chars) ← readOctet 2 chars
  let (d, chars) ← readOctet 3 chars
  return (⟨UInt8.ofNat a, UInt8.ofNat b, UInt8.ofNat c, UInt8.ofNat d⟩, chars)

/-- The two groups of an embedded IPv4 address. -/
def Ipv4Addr.groups (ip : Ipv4Addr) : List UInt16 :=
  [UInt16.ofNat (ip.a.toNat * 256 + ip.b.toNat), UInt16.ofNat (ip.c.toNat * 256 + ip.d.toNat)]

/-- Read a group of hexadecimal digits. -/
def readGroup (index : Nat) : Reader Nat := readSeparator ':' index (readNumber 16 4 65536 true)

/-- Read groups into at most `slots` further places, and whether the last two come from an
embedded IPv4 address. -/
def readGroups : (slots index : Nat) → List Char → (List UInt16 × Bool) × List Char
  | 0, _, chars => (([], false), chars)
  | slots + 1, index, chars =>
    -- an IPv4 address takes two places
    match if 0 < slots then readSeparator ':' index readIpv4 chars else none with
    | some (v4, rest) => ((v4.groups, true), rest)
    | none =>
      match readGroup index chars with
      | some (group, rest) =>
        let (later, rest) := readGroups slots (index + 1) rest
        ((UInt16.ofNat group :: later.1, later.2), rest)
      | none => (([], false), chars)

/-- The address of the given groups. -/
def Ipv6Addr.ofGroups (groups : List UInt16) : Ipv6Addr where
  segments := Vector.ofFn fun index => groups.getD index 0

/-- Read an address in groups. -/
def readIpv6 : Reader Ipv6Addr := fun chars =>
  match readGroups 8 0 chars with
  | ((head, embedded), rest) =>
    if head.length = 8 then some (.ofGroups head, rest)
    -- an embedded IPv4 address stands at the end only
    else if embedded then none
    else do
      let (_, rest) ← readGiven ':' rest
      let (_, rest) ← readGiven ':' rest
      let ((tail, _), rest) := readGroups (8 - (head.length + 1)) 0 rest
      let zeroes := List.replicate (8 - tail.length - head.length) 0
      return (.ofGroups (head ++ zeroes ++ tail), rest)

/-- Read an address of either family. -/
def readIp : Reader IpAddr := fun chars =>
  match readIpv4 chars with
  | some (ip, rest) => some (.v4 ip, rest)
  | none => (readIpv6 chars).map fun (ip, rest) => (.v6 ip, rest)

/-- Read a whole text as an address. -/
def IpAddr.parse (s : String) : Option IpAddr := readWhole readIp s

/-! ## Dotted decimal -/

theorem readNumber_octet {n : UInt8} {rest : List Char}
    (hrest : ∀ c ∈ rest.head?, isDigitOf 10 c = false) :
    readNumber 10 3 256 false ((toString n).toList ++ rest) = some (n.toNat, rest) := by
  have hlt := n.toNat_lt
  change readNumber 10 3 256 false (n.toNat.repr.toList ++ rest) = _
  rw [Nat.toList_repr]
  exact readNumber_toDigits (by omega) (by omega) false hlt (by omega) (by omega) hrest

theorem Ipv4Addr.toList_display (ip : Ipv4Addr) :
    ip.display.toList = (toString ip.a).toList ++ '.' :: ((toString ip.b).toList ++ '.' ::
      ((toString ip.c).toList ++ '.' :: (toString ip.d).toList)) := by
  simp [Ipv4Addr.display, String.intercalate_cons_cons]

/-- Reading dotted decimal undoes printing it, whatever follows that is no digit. -/
theorem readIpv4_display (ip : Ipv4Addr) {rest : List Char}
    (hrest : ∀ c ∈ rest.head?, isDigitOf 10 c = false) :
    readIpv4 (ip.display.toList ++ rest) = some (ip, rest) := by
  have hdot (later : List Char) : ∀ c ∈ ('.' :: later).head?, isDigitOf 10 c = false := by
    intro c hc
    cases hc
    decide
  rw [Ipv4Addr.toList_display]
  simp only [readIpv4, readOctet, List.append_assoc, List.cons_append, readSeparator_zero,
    readSeparator_succ, readGiven_self, Option.bind_eq_bind, Option.bind_some,
    readNumber_octet (hdot _), readNumber_octet hrest, UInt8.ofNat_toNat]
  rfl

/-- An IPv4 address begins with decimal digits and a dot. -/
theorem readIpv4_none {chars : List Char}
    (hdot : (chars.dropWhile (isDigitOf 16)).head? ≠ some '.') : readIpv4 chars = none := by
  have hdecimal : (chars.dropWhile (isDigitOf 10)).head? ≠ some '.' := by
    intro hhead
    obtain ⟨later, hlater⟩ := List.head?_eq_some_iff.mp hhead
    have hdigits : ∀ c ∈ chars.takeWhile (isDigitOf 10), isDigitOf 16 c = true :=
      fun c hc => isDigitOf_sixteen (List.mem_takeWhile_imp hc)
    apply hdot
    have hchars : chars.takeWhile (isDigitOf 10) ++ '.' :: later = chars := by
      rw [← hlater, List.takeWhile_append_dropWhile]
    rw [← hchars, dropWhile_pad hdigits, List.head?_cons]
    intro c hc
    cases hc
    decide
  rw [readIpv4]
  cases hfirst : readOctet 0 chars with
  | none => rfl
  | some read =>
    obtain ⟨a, rest⟩ := read
    rw [← readNumber_rest hfirst] at hdecimal
    have hsecond : readOctet 1 rest = none := readSeparator_none _ one_pos hdecimal
    simp [hsecond]

/-! ## Groups -/

/-- Groups with a colon before each. -/
def groupChars (groups : List UInt16) : List Char :=
  groups.flatMap fun group => ':' :: (Ipv6Addr.hex group).toList

theorem toList_subslice_cons (group : UInt16) (groups : List UInt16) :
    (Ipv6Addr.subslice (group :: groups)).toList =
      (Ipv6Addr.hex group).toList ++ groupChars groups := by
  induction groups generalizing group with
  | nil => simp [Ipv6Addr.subslice, groupChars]
  | cons next groups ih =>
    have hnext := ih next
    rw [Ipv6Addr.subslice] at hnext ⊢
    rw [List.map_cons, List.map_cons, String.intercalate_cons_cons, ← List.map_cons,
      String.toList_append, String.toList_append, hnext]
    simp [groupChars]

/-- What ends a run of groups: nothing, or the two colons of a gap. -/
def EndsGroups (rest : List Char) : Prop := rest = [] ∨ ∃ later, rest = ':' :: ':' :: later

/-- What may follow the digits of a group. -/
def FollowsGroup (rest : List Char) : Prop := ∀ c ∈ rest.head?, c = ':'

theorem EndsGroups.follows {rest : List Char} (hrest : EndsGroups rest) : FollowsGroup rest := by
  rcases hrest with rfl | ⟨later, rfl⟩
  · simp [FollowsGroup]
  · simp [FollowsGroup]

theorem EndsGroups.groupChars {rest : List Char} (hrest : EndsGroups rest)
    (groups : List UInt16) : FollowsGroup (groupChars groups ++ rest) := by
  cases groups with
  | nil => exact hrest.follows
  | cons group groups =>
    intro c hc
    cases hc
    rfl

theorem FollowsGroup.not_digit {rest : List Char} (hrest : FollowsGroup rest) :
    ∀ c ∈ rest.head?, isDigitOf 16 c = false := by
  intro c hc
  rw [hrest c hc]
  decide

theorem toList_hex (group : UInt16) :
    (Ipv6Addr.hex group).toList = Nat.toDigits 16 group.toNat := by
  rw [Ipv6Addr.hex, String.toList_ofList]

theorem readNumber_hex (group : UInt16) {rest : List Char} (hrest : FollowsGroup rest) :
    readNumber 16 4 65536 true ((Ipv6Addr.hex group).toList ++ rest) =
      some (group.toNat, rest) := by
  have hlt := group.toNat_lt
  rw [toList_hex]
  exact readNumber_toDigits (by omega) (by omega) true hlt (by omega) (by omega) hrest.not_digit

/-- A group in hexadecimal begins no IPv4 address. -/
theorem readIpv4_hex (group : UInt16) {rest : List Char} (hrest : FollowsGroup rest) :
    readIpv4 ((Ipv6Addr.hex group).toList ++ rest) = none := by
  apply readIpv4_none
  rw [toList_hex, dropWhile_pad (isDigitOf_of_mem_toDigits (by omega) (by omega)) hrest.not_digit]
  intro hhead
  have hcolon := hrest '.' hhead
  revert hcolon
  decide

theorem readIpv4_follows {rest : List Char} (hrest : FollowsGroup rest) :
    readIpv4 rest = none := by
  apply readIpv4_none
  have hdrop : ([] ++ rest).dropWhile (isDigitOf 16) = rest :=
    dropWhile_pad (by simp) hrest.not_digit
  rw [List.nil_append] at hdrop
  rw [hdrop]
  intro hhead
  have hcolon := hrest '.' hhead
  revert hcolon
  decide

/-- No group begins where a run of groups ends. -/
theorem readGroups_end (slots index : Nat) {rest : List Char} (hrest : EndsGroups rest) :
    readGroups slots index rest = (([], false), rest) := by
  have hsep {α : Type} (inner : Reader α) (hinner : ∀ rest, FollowsGroup rest → inner rest = none) :
      readSeparator ':' index inner rest = none := by
    rcases Nat.eq_zero_or_pos index with rfl | hindex
    · exact hinner rest hrest.follows
    · rcases hrest with rfl | ⟨later, rfl⟩
      · exact readSeparator_none inner hindex (by simp)
      · rw [readSeparator, if_pos hindex, readGiven_self, Option.bind_some]
        apply hinner
        simp [FollowsGroup]
  have hipv4 : readSeparator ':' index readIpv4 rest = none := hsep _ fun _ => readIpv4_follows
  have hgroup : readGroup index rest = none :=
    hsep _ fun _ hfollows => readNumber_none true hfollows.not_digit
  cases slots with
  | zero => rfl
  | succ slots => rw [readGroups, hipv4, ite_self, hgroup]

/-- Reading a group and going on. -/
theorem readGroups_hex {slots index : Nat} {before : List Char} (group : UInt16)
    {rest : List Char} (hbefore : before = if 0 < index then [':'] else [])
    (hrest : FollowsGroup rest) :
    readGroups (slots + 1) index (before ++ ((Ipv6Addr.hex group).toList ++ rest)) =
      ((group :: (readGroups slots (index + 1) rest).1.1,
        (readGroups slots (index + 1) rest).1.2), (readGroups slots (index + 1) rest).2) := by
  have hsep {α : Type} (inner : Reader α) (chars : List Char) :
      readSeparator ':' index inner (before ++ chars) = inner chars := by
    rw [readSeparator, hbefore]
    split_ifs
    · rw [List.singleton_append, readGiven_self, Option.bind_some]
    · rfl
  have hgroup := hsep (readNumber 16 4 65536 true) ((Ipv6Addr.hex group).toList ++ rest)
  rw [readNumber_hex group hrest] at hgroup
  rw [readGroups, hsep, readIpv4_hex group hrest, ite_self, readGroup, hgroup]
  dsimp only
  rw [UInt16.ofNat_toNat]

theorem readGroups_groupChars {groups : List UInt16} {slots index : Nat} {rest : List Char}
    (hslots : groups.length ≤ slots) (hindex : 0 < index) (hrest : EndsGroups rest) :
    readGroups slots index (groupChars groups ++ rest) = ((groups, false), rest) := by
  induction groups generalizing slots index with
  | nil => exact readGroups_end slots index hrest
  | cons group groups ih =>
    cases slots with
    | zero => simp at hslots
    | succ slots =>
      have hlater := ih (Nat.le_of_succ_le_succ hslots) (Nat.succ_pos index)
      have hhead : groupChars (group :: groups) ++ rest =
          [':'] ++ ((Ipv6Addr.hex group).toList ++ (groupChars groups ++ rest)) := by
        simp [groupChars]
      rw [hhead, readGroups_hex group (if_pos hindex).symm (hrest.groupChars groups), hlater]

/-- Reading undoes printing a run of groups, up to its end. -/
theorem readGroups_subslice {groups : List UInt16} {slots : Nat} {rest : List Char}
    (hslots : groups.length ≤ slots) (hrest : EndsGroups rest) :
    readGroups slots 0 ((Ipv6Addr.subslice groups).toList ++ rest) = ((groups, false), rest) := by
  cases groups with
  | nil => exact readGroups_end slots 0 hrest
  | cons group groups =>
    cases slots with
    | zero => simp at hslots
    | succ slots =>
      have hlater := readGroups_groupChars (Nat.le_of_succ_le_succ hslots)
        (Nat.succ_pos 0) hrest
      rw [toList_subslice_cons, List.append_assoc, ← List.nil_append (_ ++ _),
        readGroups_hex group (if_neg (lt_irrefl 0)).symm (hrest.groupChars groups), hlater]

theorem readIpv4_subslice (groups : List UInt16) {rest : List Char} (hrest : EndsGroups rest) :
    readIpv4 ((Ipv6Addr.subslice groups).toList ++ rest) = none := by
  cases groups with
  | nil => exact readIpv4_follows hrest.follows
  | cons group groups =>
    rw [toList_subslice_cons, List.append_assoc]
    exact readIpv4_hex group (hrest.groupChars groups)

/-! ## The gap -/

namespace Ipv6Addr

/-- A run of zeros within the segments. -/
structure ZeroRun (segments : List UInt16) (span : Span) : Prop where
  bound : span.start + span.len ≤ segments.length
  zero : ∀ i, span.start ≤ i → i < span.start + span.len → segments[i]? = some 0

/-- The span found is a run of zeros. -/
theorem zeroSpans_zeroRun {segments before later : List UInt16} {current longest : Span}
    (hsplit : segments = before ++ later) (hcurrent : ZeroRun segments current)
    (hends : current.len ≠ 0 → current.start + current.len = before.length)
    (hlongest : ZeroRun segments longest) :
    ZeroRun segments (zeroSpans (later.zipIdx before.length) (current, longest)) := by
  induction later generalizing before current longest with
  | nil => exact hlongest
  | cons segment later ih =>
    have hnext : segments = (before ++ [segment]) ++ later := by simp [hsplit]
    have hlength : before.length + 1 ≤ segments.length := by simp [hsplit]
    have hindex : before.length + 1 = (before ++ [segment]).length := by simp
    rw [List.zipIdx_cons, zeroSpans, hindex]
    by_cases hzero : segment = 0
    · rw [if_pos hzero]
      have hat : segments[before.length]? = some 0 := by simp [hsplit, hzero]
      have hgrownEnds : (if current.len = 0 then before.length else current.start) +
          (current.len + 1) = before.length + 1 := by
        split_ifs with hlen
        · omega
        · have hcurrentEnds := hends hlen
          omega
      have hgrown : ZeroRun segments
          ⟨if current.len = 0 then before.length else current.start, current.len + 1⟩ := by
        constructor
        · exact hgrownEnds ▸ hlength
        · intro i hlow hhigh
          dsimp only at hlow hhigh
          -- the segment at hand, or one the run had already
          by_cases hlast : i = before.length
          · exact hlast ▸ hat
          · rw [hgrownEnds] at hhigh
            have hlen : current.len ≠ 0 := by
              intro hlen
              rw [if_pos hlen] at hlow
              omega
            rw [if_neg hlen] at hlow
            have hcurrentEnds := hends hlen
            exact hcurrent.zero i hlow (by omega)
      refine ih hnext hgrown (fun _ => hgrownEnds.trans hindex) ?_
      by_cases hlonger : longest.len < current.len + 1
      · exact (if_pos hlonger).symm ▸ hgrown
      · exact (if_neg hlonger).symm ▸ hlongest
    · rw [if_neg hzero]
      exact ih hnext ⟨Nat.zero_le _, fun i _ hhigh => absurd hhigh (Nat.not_lt_zero i)⟩
        (fun hlen => absurd rfl hlen) hlongest

theorem ZeroRun.split {segments : List UInt16} {span : Span} (hrun : ZeroRun segments span) :
    segments.take span.start ++ List.replicate span.len 0 ++
      segments.drop (span.start + span.len) = segments := by
  have hzeros : (segments.drop span.start).take span.len = List.replicate span.len 0 := by
    have hbound := hrun.bound
    refine List.eq_replicate_iff.mpr ⟨by simp; omega, ?_⟩
    intro segment hmem
    obtain ⟨i, hi⟩ := List.mem_iff_getElem?.mp hmem
    rw [List.getElem?_take, List.getElem?_drop] at hi
    split_ifs at hi with hlt
    rw [hrun.zero _ (by omega) (by omega)] at hi
    exact (Option.some.inj hi).symm
  rw [← hzeros, ← List.drop_drop, List.append_assoc, List.take_append_drop, List.take_append_drop]

theorem ofGroups_segments (ip : Ipv6Addr) : ofGroups ip.segments.toList = ip := by
  obtain ⟨segments⟩ := ip
  rw [ofGroups, Ipv6Addr.mk.injEq]
  ext index hindex
  simp

theorem toIpv4Mapped_groups {ip : Ipv6Addr} {v4 : Ipv4Addr} (hmapped : ip.toIpv4Mapped = some v4) :
    ip.segments.toList = [0, 0, 0, 0, 0, 0xffff] ++ v4.groups := by
  have hbytes (n : UInt16) : UInt16.ofNat ((UInt8.ofNat (n.toNat / 256)).toNat * 256 +
      (UInt8.ofNat (n.toNat % 256)).toNat) = n := by
    have hlt := n.toNat_lt
    apply UInt16.toNat_inj.mp
    simp
    omega
  rw [toIpv4Mapped] at hmapped
  split at hmapped
  · next ab cd hsegments =>
    cases hmapped
    rw [hsegments, Ipv4Addr.groups, hbytes, hbytes]
    rfl
  · cases hmapped

/-- Reading an IPv6 address undoes printing it. -/
theorem readIpv6_display (ip : Ipv6Addr) : readIpv6 ip.display.toList = some (ip, []) := by
  have hall : ip.segments.toList.length = 8 := by simp
  have hcolons : "::".toList = [':', ':'] := by decide
  rw [display]
  cases hmapped : ip.toIpv4Mapped with
  | some v4 =>
    have hchars : ("::ffff:" ++ v4.display).toList =
        ':' :: ':' :: ([] ++ ((hex 0xffff).toList ++ ':' :: v4.display.toList)) := by
      have hprefix : "::ffff:".toList = ':' :: ':' :: ((hex 0xffff).toList ++ [':']) := by decide
      simp [String.toList_append, hprefix]
    have hv4 : readGroups 6 1 (':' :: v4.display.toList) = ((v4.groups, true), []) := by
      have hread : readIpv4 (v4.display.toList ++ []) = some (v4, []) :=
        readIpv4_display v4 (by simp)
      rw [List.append_nil] at hread
      rw [readGroups, if_pos (by decide), readSeparator_succ, readGiven_self, Option.bind_some]
      dsimp only
      rw [hread]
    have htail : readGroups 7 0 ([] ++ ((hex 0xffff).toList ++ ':' :: v4.display.toList)) =
        ((0xffff :: v4.groups, true), []) := by
      rw [readGroups_hex 0xffff (if_neg (lt_irrefl 0)).symm (by simp [FollowsGroup]), hv4]
    rw [hchars, readIpv6, readGroups_end 8 0 (.inr ⟨_, rfl⟩)]
    dsimp only
    rw [if_neg (by decide), if_neg (by decide), readGiven_self]
    simp only [Option.bind_eq_bind, Option.bind_some, readGiven_self, List.length_nil, htail]
    rw [← ofGroups_segments ip, toIpv4Mapped_groups hmapped]
    rfl
  | none =>
    dsimp only
    split_ifs with hlong
    · have hrun : ZeroRun ip.segments.toList
          (zeroSpans ip.segments.toList.zipIdx (⟨0, 0⟩, ⟨0, 0⟩)) := by
        have hempty : ZeroRun ip.segments.toList ⟨0, 0⟩ :=
          ⟨Nat.zero_le _, fun i _ hhigh => absurd hhigh (Nat.not_lt_zero i)⟩
        exact zeroSpans_zeroRun (List.nil_append _).symm hempty (fun h => absurd rfl h) hempty
      revert hlong hrun
      generalize zeroSpans ip.segments.toList.zipIdx (⟨0, 0⟩, ⟨0, 0⟩) = span
      intro hlong hrun
      have hbound := hrun.bound
      rw [hall] at hbound
      have hhead : (ip.segments.toList.take span.start).length = span.start := by
        rw [List.length_take, hall]
        omega
      have htail : (ip.segments.toList.drop (span.start + span.len)).length =
          8 - (span.start + span.len) := by rw [List.length_drop, hall]
      have hreadTail : readGroups (8 - (span.start + 1)) 0 ((subslice
          (ip.segments.toList.drop (span.start + span.len))).toList ++ []) =
            ((ip.segments.toList.drop (span.start + span.len), false), []) :=
        readGroups_subslice (by omega) (.inl rfl)
      rw [List.append_nil] at hreadTail
      rw [String.toList_append, String.toList_append, hcolons, List.append_assoc, readIpv6,
        List.cons_append, List.cons_append, List.nil_append,
        readGroups_subslice (by omega) (.inr ⟨_, rfl⟩)]
      dsimp only
      rw [if_neg (by omega), if_neg (by decide), readGiven_self, hhead]
      simp only [Option.bind_eq_bind, Option.bind_some, readGiven_self, hreadTail, htail]
      have hzeros : 8 - (8 - (span.start + span.len)) - span.start = span.len := by omega
      rw [hzeros, hrun.split, ofGroups_segments]
      rfl
    · have hread : readGroups 8 0 ((subslice ip.segments.toList).toList ++ []) =
          ((ip.segments.toList, false), []) := readGroups_subslice hall.le (.inl rfl)
      rw [List.append_nil] at hread
      rw [readIpv6, hread]
      dsimp only
      rw [if_pos hall, ofGroups_segments]

end Ipv6Addr

/-- No printed IPv6 address begins like an IPv4 address. -/
theorem Ipv6Addr.readIpv4_display_none (ip : Ipv6Addr) : readIpv4 ip.display.toList = none := by
  have hcolons : "::".toList = [':', ':'] := by decide
  rw [display]
  cases ip.toIpv4Mapped with
  | some v4 =>
    apply readIpv4_follows
    have hprefix : "::ffff:".toList = ':' :: [':', 'f', 'f', 'f', 'f', ':'] := by decide
    simp [FollowsGroup, String.toList_append, hprefix]
  | none =>
    dsimp only
    split_ifs
    · rw [String.toList_append, String.toList_append, hcolons, List.append_assoc]
      exact readIpv4_subslice _ (.inr ⟨_, rfl⟩)
    · rw [← List.append_nil (subslice _).toList]
      exact readIpv4_subslice _ (.inl rfl)

/-- Reading an address undoes printing it. -/
theorem IpAddr.parse_display (ip : IpAddr) : IpAddr.parse ip.display = some ip := by
  cases ip with
  | v4 ip =>
    have hread : readIpv4 (ip.display.toList ++ []) = some (ip, []) :=
      readIpv4_display ip (by simp)
    rw [List.append_nil] at hread
    rw [parse, display, readWhole, readIp, hread]
  | v6 ip =>
    rw [parse, display, readWhole, readIp, ip.readIpv4_display_none, ip.readIpv6_display]
    rfl

end FwVerify
