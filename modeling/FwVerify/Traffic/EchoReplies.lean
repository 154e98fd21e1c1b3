import FwVerify.Rules.Network
import FwVerify.Traffic.Packets

/-!
# Echo replies

A raw ICMP socket hands over every ICMP message that reaches the host. The attempt takes one
of them and asks it for the ident of the process, not for the sequence number of the attempt.

## Main definitions

* `Ipv4Frame` — an IPv4 packet with an ICMP message
* `Ipv4Frame.Answers` — the echo reply to an attempt
* `receive` — the one receive of an attempt

## Main results

* `isMatchingEchoReply_bytes` — what the check of the worker reads from a frame
* `icmpAttempt_receive` — the outcome of an attempt by the first frame that arrives
* `judgedByOwnReply_iff` — when the outcome follows the attempt's own reply
-/

set_option autoImplicit false

namespace FwVerify

/-! ## Frames -/

/-- An IPv4 packet as a raw socket hands it over: a header of five to fifteen words whose first
byte tells the version and the number of words, and an ICMP message. -/
structure Ipv4Frame where
  /-- The header length in 32-bit words. -/
  ihl : Nat
  /-- The header after its first byte. -/
  header : List UInt8
  /-- The ICMP message. -/
  message : List UInt8
  ihl_ge : 5 ≤ ihl
  ihl_le : ihl ≤ 15
  header_length : header.length + 1 = ihl * 4

namespace Ipv4Frame

/-- The bytes of a frame, version 4 first. -/
def bytes (frame : Ipv4Frame) : List UInt8 :=
  UInt8.ofNat (4 * 16 + frame.ihl) :: (frame.header ++ frame.message)

/-- The frame is the echo reply to the request with `ident` and `seq`. -/
def Answers (ident seq : UInt16) (frame : Ipv4Frame) : Prop :=
  ∃ reply, IcmpMessage.decode frame.message = some reply ∧
    reply.type = 0 ∧ reply.ident = ident ∧ reply.seq = seq

/-- The header length is read back from the first byte. -/
theorem ihl_of_first (frame : Ipv4Frame) :
    (UInt8.ofNat (4 * 16 + frame.ihl) &&& 0x0f).toNat = frame.ihl := by
  have hle := frame.ihl_le
  rw [UInt8.toNat_and, UInt8.toNat_ofNat']
  change (4 * 16 + frame.ihl) % 2 ^ 8 &&& 2 ^ 4 - 1 = frame.ihl
  rw [Nat.and_two_pow_sub_one_eq_mod]
  omega

/-- The receive buffer has room for the header and the first words of the message. -/
theorem take_bytes (frame : Ipv4Frame) {room : Nat} (hroom : 60 ≤ room) :
    frame.bytes.take room = UInt8.ofNat (4 * 16 + frame.ihl) ::
      (frame.header ++ frame.message.take (room - frame.ihl * 4)) := by
  have hheader := frame.header_length
  have hle := frame.ihl_le
  obtain ⟨room, rfl⟩ : ∃ r, room = r + 1 := ⟨room - 1, by omega⟩
  rw [bytes, List.take_succ_cons, List.take_append, List.take_of_length_le (by omega)]
  congr 3
  omega

end Ipv4Frame

/-- What the check of the worker reads from an ICMP message. -/
def repliesTo (ident : UInt16) (message : List UInt8) : Bool :=
  match message with
  | kind :: _ :: _ :: _ :: high :: low :: _ =>
    kind == 0 && high.toNat * 256 + low.toNat == ident.toNat
  | _ => false

theorem isMatchingEchoReply_cons (first : UInt8) (later : List UInt8) (ident : UInt16) :
    isMatchingEchoReply (first :: later) ident =
      repliesTo ident ((first :: later).drop
        (min ((first &&& 0x0f).toNat * 4) (first :: later).length)) := rfl

/-- The check looks behind the header, however long it is. -/
theorem isMatchingEchoReply_frame (frame : Ipv4Frame) (message : List UInt8) (ident : UInt16) :
    isMatchingEchoReply
      (UInt8.ofNat (4 * 16 + frame.ihl) :: (frame.header ++ message)) ident =
        repliesTo ident message := by
  have hheader := frame.header_length
  have hlen : frame.ihl * 4 ≤
      (UInt8.ofNat (4 * 16 + frame.ihl) :: (frame.header ++ message)).length := by
    rw [List.length_cons, List.length_append]
    omega
  rw [isMatchingEchoReply_cons, frame.ihl_of_first, Nat.min_eq_left hlen, ← hheader,
    List.drop_succ_cons, List.drop_left]

/-- Six bytes of a message are all the check reads. -/
theorem repliesTo_take {room : Nat} (hroom : 6 ≤ room) (ident : UInt16) (message : List UInt8) :
    repliesTo ident (message.take room) = repliesTo ident message := by
  obtain ⟨room, rfl⟩ : ∃ r, room = r + 6 := ⟨room - 6, by omega⟩
  rcases message with _ | ⟨b₀, _ | ⟨b₁, _ | ⟨b₂, _ | ⟨b₃, _ | ⟨b₄, _ | ⟨b₅, later⟩⟩⟩⟩⟩⟩ <;> rfl

theorem isMatchingEchoReply_bytes (frame : Ipv4Frame) (ident : UInt16) {room : Nat}
    (hroom : 66 ≤ room) :
    isMatchingEchoReply (frame.bytes.take room) ident = repliesTo ident frame.message := by
  have hle := frame.ihl_le
  rw [frame.take_bytes (by omega), isMatchingEchoReply_frame, repliesTo_take (by omega)]

/-- The reply to an attempt passes the check. -/
theorem Ipv4Frame.Answers.repliesTo {ident seq : UInt16} {frame : Ipv4Frame}
    (h : frame.Answers ident seq) : repliesTo ident frame.message = true := by
  obtain ⟨reply, hdecode, htype, hident, -⟩ := h
  unfold IcmpMessage.decode at hdecode
  split at hdecode
  · cases hdecode
    rename_i hmessage
    subst htype hident
    rw [hmessage, FwVerify.repliesTo]
    rw [toNat_u16FromBe]
    simp
  · cases hdecode

/-! ## The attempt -/

/-- The length of the receive buffer. -/
def recvRoom : Nat := 1500

/-- The one receive of an attempt: the first frame that arrives in time, cut at the length of the
buffer, or the timeout of the socket. -/
def receive : List Ipv4Frame → Except IoError (List UInt8)
  | [] => .error ⟨.wouldBlock, "Resource temporarily unavailable (os error 11)"⟩
  | frame :: _ => .ok (frame.bytes.take recvRoom)

/-- The calls of an attempt whose request is sent, with the frames that arrive in time. -/
structure EchoSent (calls : SocketCalls) (frames : List Ipv4Frame) : Prop where
  socket : calls.socket = .ok ()
  setReadTimeout : calls.setReadTimeout = .ok ()
  send : calls.send = .ok ()
  recv : calls.recv = receive frames

section Attempt

variable {ip : Ipv4Addr} {ident seq : UInt16} {calls : SocketCalls} {frames : List Ipv4Frame}

/-- An attempt that receives nothing has timed out. -/
theorem icmpAttempt_nil (h : EchoSent calls []) :
    icmpAttempt (.v4 ip) ident .echo calls = .ok .timeout := by
  rw [icmpAttempt, h.socket, h.setReadTimeout, h.send, h.recv]
  rfl

/-- The first frame that arrives settles an attempt. -/
theorem icmpAttempt_cons {frame : Ipv4Frame} (h : EchoSent calls (frame :: frames)) :
    icmpAttempt (.v4 ip) ident .echo calls =
      .ok (if repliesTo ident frame.message then .success else .other) := by
  have hcheck := isMatchingEchoReply_bytes frame ident (by decide : 66 ≤ recvRoom)
  rw [icmpAttempt, h.socket, h.setReadTimeout, h.send, h.recv]
  rw [← hcheck]
  rfl

/-- The attempt succeeds exactly on its own echo reply, and times out without one. -/
def JudgedByOwnReply (ip : Ipv4Addr) (ident seq : UInt16) (calls : SocketCalls)
    (frames : List Ipv4Frame) : Prop :=
  (icmpAttempt (.v4 ip) ident .echo calls = .ok .success ↔
    ∃ frame ∈ frames, frame.Answers ident seq) ∧
  ((∀ frame ∈ frames, ¬ frame.Answers ident seq) →
    icmpAttempt (.v4 ip) ident .echo calls = .ok .timeout)

/-- An attempt is judged by its own reply exactly when nothing arrives in time, or the first
frame is an echo reply to the process and the attempt's own reply is among the frames. -/
theorem judgedByOwnReply_iff (ip : Ipv4Addr) (ident seq : UInt16) (calls : SocketCalls)
    (frames : List Ipv4Frame) (h : EchoSent calls frames) :
    JudgedByOwnReply ip ident seq calls frames ↔
      frames = [] ∨
        (∃ first ∈ frames.head?, isMatchingEchoReply first.bytes ident = true) ∧
          ∃ frame ∈ frames, frame.Answers ident seq := by
  rcases frames with _ | ⟨first, later⟩
  · have hattempt : icmpAttempt (.v4 ip) ident .echo calls = .ok .timeout := icmpAttempt_nil h
    refine iff_of_true ⟨?_, fun _ => hattempt⟩ (.inl rfl)
    rw [hattempt]
    simp
  · have hattempt : icmpAttempt (.v4 ip) ident .echo calls =
      .ok (if repliesTo ident first.message then .success else .other) := icmpAttempt_cons h
    have hcheck : isMatchingEchoReply first.bytes ident = repliesTo ident first.message :=
      isMatchingEchoReply_frame first first.message ident
    simp only [JudgedByOwnReply, hattempt, List.head?_cons, Option.mem_some, exists_eq_left',
      reduceCtorEq, false_or, hcheck]
    by_cases hreplies : repliesTo ident first.message
    · -- a success: it has to be the attempt's own
      simp only [hreplies, if_true, true_and, true_iff]
      refine ⟨fun hjudged => hjudged.1, fun hown => ⟨hown, fun hnone => ?_⟩⟩
      obtain ⟨frame, hframe, hanswers⟩ := hown
      exact absurd hanswers (hnone frame hframe)
    · -- neither a success nor a timeout: no reading of the property allows it
      simp only [hreplies, if_false, false_and, iff_false, Bool.false_eq_true]
      rintro ⟨hsuccess, htimeout⟩
      have hnone : ∀ frame ∈ first :: later, ¬ frame.Answers ident seq := by
        intro frame hframe hanswers
        cases hsuccess.mpr ⟨frame, hframe, hanswers⟩
      cases htimeout hnone

end Attempt

/-- What follows the first byte in the headers below. -/
def headerTail : List UInt8 :=
  [0, 0, 28, 0, 0, 0, 0, 64, 1, 0, 0, 10, 123, 0, 2, 10, 123, 0, 1]

/-- The echo reply to the first probe of the process with ident 1. -/
def staleReply : Ipv4Frame :=
  ⟨5, headerTail, [0, 0, 0xff, 0xfd, 0, 1, 0, 1], by decide, by decide, rfl⟩

/-- The echo reply to its second probe. -/
def ownReply : Ipv4Frame :=
  ⟨5, headerTail, [0, 0, 0xff, 0xfc, 0, 1, 0, 2], by decide, by decide, rfl⟩

/-- A host-unreachable message. -/
def unreachable : Ipv4Frame :=
  ⟨5, headerTail, [3, 1, 0xfc, 0xfe, 0, 0, 0, 0], by decide, by decide, rfl⟩

theorem echoSent_answering (frames : List Ipv4Frame) :
    EchoSent (answering (.ok ()) (receive frames)) frames := ⟨rfl, rfl, rfl, rfl⟩

theorem ownReply_answers : ownReply.Answers 1 2 := ⟨_, rfl, by decide⟩

theorem not_staleReply_answers : ¬ staleReply.Answers 1 2 := by
  rintro ⟨reply, hdecode, -, -, hseq⟩
  cases hdecode
  exact absurd hseq (by decide)

/-- The second probe succeeds on the late reply to the first, and misses its own reply behind
a stray message. -/
theorem judgedByOwnReply_fails :
    (∃ frames, EchoSent (answering (.ok ()) (receive frames)) frames ∧
      icmpAttempt (.v4 ⟨10, 123, 0, 1⟩) 1 .echo (answering (.ok ()) (receive frames)) =
        .ok .success ∧ ¬ ∃ frame ∈ frames, frame.Answers 1 2) ∧
    (∃ frames, EchoSent (answering (.ok ()) (receive frames)) frames ∧
      icmpAttempt (.v4 ⟨10, 123, 0, 1⟩) 1 .echo (answering (.ok ()) (receive frames)) =
        .ok .other ∧ ∃ frame ∈ frames, frame.Answers 1 2) ∧
    ¬ ∀ ip ident seq calls frames, EchoSent calls frames →
        JudgedByOwnReply ip ident seq calls frames := by
  have hsuccess : icmpAttempt (.v4 ⟨10, 123, 0, 1⟩) 1 .echo
      (answering (.ok ()) (receive [staleReply])) = .ok .success := rfl
  have hnot : ¬ ∃ frame ∈ [staleReply], frame.Answers 1 2 := by
    rintro ⟨frame, hframe, hanswers⟩
    rw [List.mem_singleton.mp hframe] at hanswers
    exact not_staleReply_answers hanswers
  refine ⟨⟨[staleReply], echoSent_answering _, hsuccess, hnot⟩,
    ⟨[unreachable, ownReply], echoSent_answering _, rfl, ownReply, by simp, ownReply_answers⟩,
    fun hall => hnot ?_⟩
  exact (hall _ 1 2 _ _ (echoSent_answering [staleReply])).1.mp hsuccess

/-- An attempt whose own reply arrives first. -/
theorem judgedByOwnReply_iff_own :
    JudgedByOwnReply ⟨10, 123, 0, 1⟩ 1 2 (answering (.ok ()) (receive [ownReply, unreachable]))
      [ownReply, unreachable] :=
  (judgedByOwnReply_iff _ 1 2 _ _ (echoSent_answering [ownReply, unreachable])).mpr
    (.inr ⟨⟨ownReply, rfl, by decide⟩, ownReply, by simp, ownReply_answers⟩)

end FwVerify
