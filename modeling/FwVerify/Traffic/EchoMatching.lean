import FwVerify.Lib.Checked
import FwVerify.Traffic.EchoReplies

/-!
# Matching echo replies

The check of a received frame trusts none of its bytes: the header length is read from the first
one and may point anywhere. It reads inside the frame all the same, finds the ident behind every
header, and takes neither a request nor a frame that ends before the ident.

## Main definitions

* `isMatchingEchoReplyChecked` — the check with its slice and its reads refused out of range
* `Ipv4Frame.carrying`, `echoReply` — a message behind a header, and the reply to a request

## Main results

* `isMatchingEchoReplyChecked_eq` — nothing is read out of range
* `isMatchingEchoReply_carrying` — behind a header the check reads the message
* `echo_reply_matching` — what the check takes and what not
-/

set_option autoImplicit false

namespace FwVerify

/-! ## Reads in range -/

/-- What the check reads from an ICMP message; `none` is a read out of range. -/
def repliesToChecked (ident : UInt16) (icmp : List UInt8) : Option Bool := do
  -- an operand of `&&` is only read when those in front of it hold
  if icmp.length < 6 then return false
  let kind ← icmp[0]?
  if kind != 0 then return false
  let high ← icmp[4]?
  let low ← icmp[5]?
  return u16FromBe high low == ident

/-- `isMatchingEchoReply` with the slice and the reads of the source. -/
def isMatchingEchoReplyChecked (frame : List UInt8) (ident : UInt16) : Option Bool :=
  match frame.head? with
  | none => some false
  | some first => do
    let ihl := (first &&& 0x0f).toNat * 4
    let icmp ← Checked.sliceFrom frame (min ihl frame.length)
    repliesToChecked ident icmp

theorem u16FromBe_beq (high low : UInt8) (ident : UInt16) :
    (u16FromBe high low == ident) = (high.toNat * 256 + low.toNat == ident.toNat) := by
  rw [← toNat_u16FromBe, Bool.eq_iff_iff, beq_iff_eq, beq_iff_eq, UInt16.toNat_inj]

theorem repliesToChecked_eq (ident : UInt16) (icmp : List UInt8) :
    repliesToChecked ident icmp = some (repliesTo ident icmp) := by
  rcases icmp with _ | ⟨kind, _ | ⟨b₁, _ | ⟨b₂, _ | ⟨b₃, _ | ⟨high, _ | ⟨low, later⟩⟩⟩⟩⟩⟩
  -- a message of fewer than six bytes is not read
  iterate 6 rfl
  have hlong : ¬ (kind :: b₁ :: b₂ :: b₃ :: high :: low :: later).length < 6 := by
    simp
  rw [repliesToChecked, repliesTo, if_neg hlong, ← u16FromBe_beq]
  by_cases hkind : kind = 0
  · subst hkind
    rfl
  · simp [hkind]

/-- **No read of the check is out of range**, whatever the frame says of its header. -/
theorem isMatchingEchoReplyChecked_eq (frame : List UInt8) (ident : UInt16) :
    isMatchingEchoReplyChecked frame ident = some (isMatchingEchoReply frame ident) := by
  cases frame with
  | nil => rfl
  | cons first later =>
    rw [isMatchingEchoReplyChecked, isMatchingEchoReply_cons, List.head?_cons]
    dsimp only
    rw [Checked.sliceFrom_of_le (min_le_right _ _)]
    exact repliesToChecked_eq ident _

/-! ## Messages behind a header -/

/-- The header of a frame in front of a message. -/
def Ipv4Frame.carrying (frame : Ipv4Frame) (message : List UInt8) : Ipv4Frame :=
  { frame with message }

/-- An echo reply: the ident and the sequence number are those of the request, where the request
has them. -/
def echoReply (code : UInt8) (checksum ident seq : UInt16) (payload : List UInt8) : List UInt8 :=
  [0, code] ++ u16ToBe checksum ++ ((buildIcmpEcho ident seq).drop 4).take 4 ++ payload

/-- Behind a header the check reads the message. -/
theorem isMatchingEchoReply_carrying (frame : Ipv4Frame) (message : List UInt8) (ident : UInt16) :
    isMatchingEchoReply (frame.carrying message).bytes ident = repliesTo ident message :=
  isMatchingEchoReply_frame frame message ident

theorem repliesTo_echoReply (code : UInt8) (checksum ident seq ident' : UInt16)
    (payload : List UInt8) :
    repliesTo ident' (echoReply code checksum ident seq payload) = decide (ident' = ident) := by
  have hread : repliesTo ident' (echoReply code checksum ident seq payload) =
      (u16FromBe (UInt8.ofNat (ident.toNat / 256)) (UInt8.ofNat ident.toNat) == ident') := by
    rw [u16FromBe_beq]
    rfl
  rw [hread, u16FromBe_toBe, Bool.eq_iff_iff, beq_iff_eq, decide_eq_true_iff, eq_comm]

/-- A message of another type is no reply. -/
theorem repliesTo_of_ne {kind : UInt8} (hkind : kind ≠ 0) (ident : UInt16) (later : List UInt8) :
    repliesTo ident (kind :: later) = false := by
  rcases later with _ | ⟨b₁, _ | ⟨b₂, _ | ⟨b₃, _ | ⟨high, _ | ⟨low, later⟩⟩⟩⟩⟩
  iterate 5 rfl
  simp [repliesTo, hkind]

/-- A message that ends before its ident is no reply. -/
theorem repliesTo_of_short {message : List UInt8} (hshort : message.length < 6)
    (ident : UInt16) : repliesTo ident message = false := by
  have hchecked := repliesToChecked_eq ident message
  rw [repliesToChecked, if_pos hshort] at hchecked
  exact (Option.some.inj hchecked).symm

/-- A frame that is cut before the end of the ident is no reply. -/
theorem isMatchingEchoReply_cut (frame : Ipv4Frame) {room : Nat} (hroom : room < frame.ihl * 4 + 6)
    (ident : UInt16) : isMatchingEchoReply (frame.bytes.take room) ident = false := by
  cases room with
  | zero => rfl
  | succ room =>
    rw [Ipv4Frame.bytes, List.take_succ_cons, isMatchingEchoReply_cons, frame.ihl_of_first]
    apply repliesTo_of_short
    have hlength : (UInt8.ofNat (4 * 16 + frame.ihl) ::
        (frame.header ++ frame.message).take room).length ≤ room + 1 :=
      Nat.succ_le_succ (List.length_take_le _ _)
    rw [List.length_drop]
    omega

/-- **Matching echo replies.** Nothing is read out of range. Behind any header the reply to a
request is taken for the ident of the request and no other; a request, with or without a header,
and a message of any other type are not, and neither is a frame that ends before the ident. -/
theorem echo_reply_matching :
    (∀ (frame : List UInt8) (ident : UInt16),
      isMatchingEchoReplyChecked frame ident = some (isMatchingEchoReply frame ident)) ∧
    (∀ (frame : Ipv4Frame) (code : UInt8) (checksum ident seq ident' : UInt16)
      (payload : List UInt8),
      isMatchingEchoReply (frame.carrying (echoReply code checksum ident seq payload)).bytes
        ident' = decide (ident' = ident)) ∧
    (∀ (frame : Ipv4Frame) (ident seq ident' : UInt16),
      isMatchingEchoReply (frame.carrying (buildIcmpEcho ident seq)).bytes ident' = false ∧
      isMatchingEchoReply (buildIcmpEcho ident seq) ident' = false) ∧
    (∀ (frame : Ipv4Frame) (kind : UInt8) (later : List UInt8) (ident : UInt16), kind ≠ 0 →
      isMatchingEchoReply (frame.carrying (kind :: later)).bytes ident = false) ∧
    ∀ (frame : Ipv4Frame) (room : Nat) (ident : UInt16), room < frame.ihl * 4 + 6 →
      isMatchingEchoReply (frame.bytes.take room) ident = false := by
  refine ⟨isMatchingEchoReplyChecked_eq, fun frame code checksum ident seq ident' payload => ?_,
    fun frame ident seq ident' => ⟨?_, ?_⟩, fun frame kind later ident hkind => ?_,
    fun frame room ident hroom => isMatchingEchoReply_cut frame hroom ident⟩
  · rw [isMatchingEchoReply_carrying, repliesTo_echoReply]
  · rw [isMatchingEchoReply_carrying]
    exact repliesTo_of_ne (by decide : (8 : UInt8) ≠ 0) ident' _
  · -- without a header the type of the request is taken for the first byte of one
    rfl
  · rw [isMatchingEchoReply_carrying, repliesTo_of_ne hkind]

/-- A destination-unreachable message, and a reply cut inside its ident. -/
theorem echo_reply_matching_own :
    isMatchingEchoReply (ownReply.carrying [3, 1, 0, 0, 0, 1]).bytes 1 = false ∧
      isMatchingEchoReply (ownReply.bytes.take 25) 1 = false :=
  ⟨echo_reply_matching.2.2.2.1 ownReply 3 [1, 0, 0, 0, 1] 1 (by decide),
    echo_reply_matching.2.2.2.2 ownReply 25 1 (by decide)⟩

end FwVerify
