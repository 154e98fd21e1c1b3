import FwVerify.Model.Connections
import Mathlib.Algebra.Order.Group.Multiset

/-!
# The wire between a worker and a listener

Datagrams on their way from the probes of a worker to a listener, and their echoes on the way back.
A datagram is in one place at a time; it may be lost in each of them, and nothing is on the wire
that was not sent.

## Main definitions

* `Wire` — the datagrams that are on their way, and the probes that were let through
* `WireKept` — what every use of the wire keeps
* `Between` — how many datagrams a listener may have echoed

## Main results

* `WireKept.lose`, `WireKept.send`, `WireKept.enter`, `WireKept.echo`, `WireKept.leave` — what
  happens on the wire
-/

set_option autoImplicit false

namespace FwVerify

/-- A datagram of a probe, with the address of the worker's socket. -/
structure Datagram where
  probe : Nat
  peer : String
  bytes : List UInt8
  deriving DecidableEq

/-- What a probe sends. -/
def probeBytes : List UInt8 := "fw-agent-probe".toList.map fun c => UInt8.ofNat c.toNat

/-- What is between the two sides. -/
structure Wire where
  /-- On their way to the listener. -/
  requests : Multiset Datagram
  /-- In the listener's socket. -/
  queue : List Datagram
  /-- On their way to the worker. -/
  replies : Multiset Datagram
  /-- The probes whose datagrams were let in to the listener, and whose echoes were let out. -/
  letIn : List Nat
  letOut : List Nat

namespace Wire

def send (d : Datagram) (wire : Wire) : Wire := { wire with requests := d ::ₘ wire.requests }

def enter (d : Datagram) (wire : Wire) : Wire :=
  { wire with
    requests := wire.requests.erase d
    queue := wire.queue ++ [d]
    letIn := wire.letIn ++ [d.probe] }

/-- The head of the queue is taken out, and this is sent back for it. -/
def echo (back : List (String × List UInt8)) (wire : Wire) : Wire :=
  { wire with
    queue := wire.queue.tail
    replies := wire.replies + Multiset.ofList
      ((wire.queue.zip back).map fun entry => ⟨entry.1.probe, entry.2.1, entry.2.2⟩) }

/-- The socket is closed, and what waits in it is lost. -/
def close (wire : Wire) : Wire := { wire with queue := [] }

def leave (d : Datagram) (wire : Wire) : Wire :=
  { wire with replies := wire.replies.erase d, letOut := wire.letOut ++ [d.probe] }

end Wire

/-! ## What is kept -/

section Kept

variable (listen : ListenArgs) (targets : List UInt16) (addr : Nat → String)

/-- The datagrams that are on their way. -/
def Wire.onWay (wire : Wire) : Multiset Datagram :=
  wire.requests + (wire.queue : Multiset Datagram) + wire.replies

/-- The probes whose datagrams or echoes are on their way, or have come to the worker's side. -/
def Wire.probes (wire : Wire) : Multiset Nat :=
  wire.onWay.map (·.probe) + (wire.letOut : Multiset Nat)

/-- A datagram is in one place, carries what its probe has sent, and is let in before its echo is
let out. -/
structure WireKept (sent : Nat) (wire : Wire) : Prop where
  once : wire.probes.Nodup
  own : ∀ d ∈ wire.onWay, d.peer = addr d.probe ∧ d.bytes = probeBytes
  outside : ∀ d ∈ wire.requests, d.probe < sent ∧ d.probe ∉ wire.letIn
  inside : ∀ d ∈ (wire.queue : Multiset Datagram) + wire.replies, d.probe ∈ wire.letIn
  letOut : ∀ i ∈ wire.letOut, i ∈ wire.letIn
  letIn_once : wire.letIn.Nodup
  letIn_port : ∀ i ∈ wire.letIn, i < sent ∧ targets[i]? = some listen.port

variable {listen targets addr} {sent : Nat} {wire wire' : Wire} {d : Datagram}

/-- Losing datagrams breaks nothing. -/
theorem WireKept.lose (h : WireKept listen targets addr sent wire)
    (hrequests : wire'.requests ≤ wire.requests)
    (hqueue : (wire'.queue : Multiset Datagram) ≤ wire.queue)
    (hreplies : wire'.replies ≤ wire.replies) (hletIn : wire'.letIn = wire.letIn)
    (hletOut : wire'.letOut = wire.letOut) : WireKept listen targets addr sent wire' := by
  have honWay : wire'.onWay ≤ wire.onWay := add_le_add (add_le_add hrequests hqueue) hreplies
  constructor
  · refine Multiset.nodup_of_le ?_ h.once
    rw [Wire.probes, Wire.probes, hletOut]
    exact add_le_add (Multiset.map_le_map honWay) le_rfl
  · exact fun d hd => h.own d (Multiset.mem_of_le honWay hd)
  · rw [hletIn]
    exact fun d hd => h.outside d (Multiset.mem_of_le hrequests hd)
  · rw [hletIn]
    exact fun d hd => h.inside d (Multiset.mem_of_le (add_le_add hqueue hreplies) hd)
  · rw [hletIn, hletOut]
    exact h.letOut
  · rw [hletIn]
    exact h.letIn_once
  · rw [hletIn]
    exact h.letIn_port

/-- Every probe that has left a trace was sent. -/
theorem WireKept.lt_sent (h : WireKept listen targets addr sent wire) {i : Nat}
    (hi : i ∈ wire.probes) : i < sent := by
  rw [Wire.probes, Wire.onWay, add_assoc, Multiset.mem_add] at hi
  rcases hi with hi | hi
  · obtain ⟨d, hd, rfl⟩ := Multiset.mem_map.mp hi
    rcases Multiset.mem_add.mp hd with hd | hd
    · exact (h.outside d hd).1
    · exact (h.letIn_port _ (h.inside d hd)).1
  · exact (h.letIn_port i (h.letOut i (Multiset.mem_coe.mp hi))).1

/-- The next probe is sent. -/
theorem WireKept.send (h : WireKept listen targets addr sent wire) :
    WireKept listen targets addr (sent + 1) (wire.send ⟨sent, addr sent, probeBytes⟩) := by
  have honWay : (wire.send ⟨sent, addr sent, probeBytes⟩).onWay =
      ⟨sent, addr sent, probeBytes⟩ ::ₘ wire.onWay := by
    simp only [Wire.onWay, Wire.send, Multiset.cons_add]
  constructor
  · rw [Wire.probes, honWay, Multiset.map_cons, Multiset.cons_add]
    exact Multiset.nodup_cons.mpr ⟨fun hmem => absurd (h.lt_sent hmem) (lt_irrefl sent), h.once⟩
  · rw [honWay]
    exact Multiset.forall_mem_cons.mpr ⟨⟨rfl, rfl⟩, h.own⟩
  · refine Multiset.forall_mem_cons.mpr ⟨⟨Nat.lt_succ_self sent, fun hmem => ?_⟩, fun d hd => ?_⟩
    · exact absurd (h.letIn_port sent hmem).1 (lt_irrefl sent)
    · exact ⟨Nat.lt_succ_of_lt (h.outside d hd).1, (h.outside d hd).2⟩
  · exact h.inside
  · exact h.letOut
  · exact h.letIn_once
  · exact fun i hi => ⟨Nat.lt_succ_of_lt (h.letIn_port i hi).1, (h.letIn_port i hi).2⟩

/-- Nothing is sent back from an empty queue. -/
theorem Wire.echo_of_empty (hqueue : wire.queue = []) (back : List (String × List UInt8)) :
    wire.echo back = wire := by
  obtain ⟨requests, queue, replies, letIn, letOut⟩ := wire
  obtain rfl : queue = [] := hqueue
  simp [Wire.echo]

theorem coe_append_singleton {α : Type} (xs : List α) (x : α) :
    ((xs ++ [x] : List α) : Multiset α) = x ::ₘ (xs : Multiset α) :=
  Multiset.coe_eq_coe.mpr (List.perm_append_singleton x xs)

/-- A datagram for the listener is let in to it. -/
theorem WireKept.enter (h : WireKept listen targets addr sent wire) (hd : d ∈ wire.requests)
    (hport : targets[d.probe]? = some listen.port) :
    WireKept listen targets addr sent (wire.enter d) := by
  obtain ⟨hsent, hnew⟩ := h.outside d hd
  have honWay : (wire.enter d).onWay = wire.onWay := by
    rw [Wire.onWay, Wire.onWay, ← Multiset.cons_erase hd]
    simp [Wire.enter, coe_append_singleton, -Multiset.cons_coe]
  have honce : (d ::ₘ (wire.requests.erase d)).map (·.probe) ≤ wire.probes := by
    rw [Multiset.cons_erase hd, Wire.probes, Wire.onWay, Multiset.map_add, Multiset.map_add,
      add_assoc, add_assoc]
    exact Multiset.le_add_right _ _
  have hother : ∀ d' ∈ wire.requests.erase d, d'.probe ≠ d.probe := by
    have hnodup := Multiset.nodup_of_le honce h.once
    rw [Multiset.map_cons, Multiset.nodup_cons] at hnodup
    exact fun d' hd' heq => hnodup.1 (heq ▸ Multiset.mem_map_of_mem _ hd')
  -- the datagram changes its place, so the wire carries the same ones
  constructor
  · rw [Wire.probes, honWay]
    exact h.once
  · rw [honWay]
    exact h.own
  · refine fun d' hd' => ⟨(h.outside d' (Multiset.mem_of_mem_erase hd')).1, fun hmem => ?_⟩
    rcases List.mem_append.mp hmem with hmem | hmem
    · exact (h.outside d' (Multiset.mem_of_mem_erase hd')).2 hmem
    · exact hother d' hd' (List.mem_singleton.mp hmem)
  · intro d' hd'
    simp only [Wire.enter, coe_append_singleton, Multiset.cons_add, Multiset.mem_cons] at hd'
    rcases hd' with rfl | hd'
    · exact List.mem_append_right _ List.mem_cons_self
    · exact List.mem_append_left _ (h.inside d' hd')
  · exact fun i hi => List.mem_append_left _ (h.letOut i hi)
  · exact h.letIn_once.append (List.nodup_singleton _) (List.disjoint_singleton.mpr hnew)
  · intro i hi
    rcases List.mem_append.mp hi with hi | hi
    · exact h.letIn_port i hi
    · rw [List.mem_singleton.mp hi]
      exact ⟨hsent, hport⟩

/-- The head of the queue is sent back as it came, since it fits the buffer. -/
theorem WireKept.echo (h : WireKept listen targets addr sent wire) {later : List Datagram}
    (hqueue : wire.queue = d :: later) :
    WireKept listen targets addr sent (wire.echo [(d.peer, d.bytes.take 2048)]) ∧
      (wire.echo [(d.peer, d.bytes.take 2048)]).replies = d ::ₘ wire.replies := by
  obtain ⟨-, hbytes⟩ := h.own d (by simp [Wire.onWay, hqueue])
  have hreplies : (wire.echo [(d.peer, d.bytes.take 2048)]).replies = d ::ₘ wire.replies := by
    have hfits : d.bytes.take 2048 = d.bytes := by
      rw [hbytes]
      decide
    simp [Wire.echo, hqueue, hfits, ← Multiset.singleton_add, add_comm]
  have hmoved : ((wire.echo [(d.peer, d.bytes.take 2048)]).queue : Multiset Datagram) +
      (wire.echo [(d.peer, d.bytes.take 2048)]).replies =
        (wire.queue : Multiset Datagram) + wire.replies := by
    rw [hreplies]
    simp [Wire.echo, hqueue, ← Multiset.cons_coe]
  have honWay : (wire.echo [(d.peer, d.bytes.take 2048)]).onWay = wire.onWay := by
    rw [Wire.onWay, Wire.onWay, add_assoc, add_assoc, hmoved]
    rfl
  refine ⟨⟨?_, ?_, h.outside, ?_, h.letOut, h.letIn_once, h.letIn_port⟩, hreplies⟩
  · rw [Wire.probes, honWay]
    exact h.once
  · rw [honWay]
    exact h.own
  · rw [hmoved]
    exact h.inside

/-- An echo is let out to the worker's side. -/
theorem WireKept.leave (h : WireKept listen targets addr sent wire) (hd : d ∈ wire.replies) :
    WireKept listen targets addr sent (wire.leave d) := by
  have hprobes : (wire.leave d).probes = wire.probes := by
    rw [Wire.probes, Wire.probes, Wire.onWay, Wire.onWay, ← Multiset.cons_erase hd]
    simp [Wire.leave, coe_append_singleton, -Multiset.cons_coe]
  have hless : (wire.leave d).replies ≤ wire.replies := Multiset.erase_le d wire.replies
  refine ⟨?_, ?_, h.outside, ?_, ?_, h.letIn_once, h.letIn_port⟩
  · rw [hprobes]
    exact h.once
  · exact fun d' hd' => h.own d' (Multiset.mem_of_le (add_le_add le_rfl hless) hd')
  · exact fun d' hd' => h.inside d' (Multiset.mem_of_le (add_le_add le_rfl hless) hd')
  · intro i hi
    rcases List.mem_append.mp hi with hi | hi
    · exact h.letOut i hi
    · rw [List.mem_singleton.mp hi]
      exact h.inside d (Multiset.mem_add.mpr (.inr hd))

/-! ## What is counted -/

/-- What the listener counts is between what came out and what was let in. -/
def Between (wire : Wire) (echoed : Nat) : Prop :=
  wire.letOut.length + wire.replies.card ≤ echoed ∧
    echoed + wire.queue.length ≤ wire.letIn.length

theorem Between.lose {echoed : Nat} (h : Between wire echoed)
    (hqueue : wire'.queue.length ≤ wire.queue.length) (hreplies : wire'.replies ≤ wire.replies)
    (hletIn : wire'.letIn = wire.letIn) (hletOut : wire'.letOut = wire.letOut) :
    Between wire' echoed := by
  have hcard := Multiset.card_le_card hreplies
  obtain ⟨hout, hin⟩ := h
  rw [Between, hletIn, hletOut]
  omega

theorem Between.enter {echoed : Nat} (h : Between wire echoed) (d : Datagram) :
    Between (wire.enter d) echoed := by
  obtain ⟨hout, hin⟩ := h
  simp only [Between, Wire.enter, List.length_append, List.length_singleton]
  omega

theorem Between.leave {echoed : Nat} (h : Between wire echoed) (hd : d ∈ wire.replies) :
    Between (wire.leave d) echoed := by
  have hcard := Multiset.card_erase_add_one hd
  obtain ⟨hout, hin⟩ := h
  simp only [Between, Wire.leave, List.length_append, List.length_singleton]
  omega

end Kept

end FwVerify
