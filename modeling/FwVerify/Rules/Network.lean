import FwVerify.Model.Attempts
import FwVerify.Model.Catalog
import FwVerify.Rules.Language

/-!
# Probes on the network

What becomes of a probe between its sender, the rules on the target and the listeners of the
case, and how the sender's socket calls end for it. What the documents leave open stands as
a parameter.

## Main definitions

* `Surroundings` — what is left open
* `probeFate` — what becomes of a probe under a rule set
* `Answers` — how the calls of an attempt end for a fate

## Main results

* `Answers.attempt` — the outcome of the attempt
-/

set_option autoImplicit false

namespace FwVerify

/-- What the documents leave open about idps-fw and the system around the probes. -/
structure Surroundings where
  /-- The identity key idps-fw has for a uid. -/
  identity : UInt32 → Option String
  /-- The uid of a worker that drops to no other. -/
  ownUid : UInt32
  /-- The source port the kernel picks for the `i`-th attempt. -/
  ephemeral : Nat → UInt16
  /-- Whether `NLD` lets a packet after the first through. -/
  nldLater : Nat → Bool
  /-- What happens on ingress without a default line. -/
  undocumented : RuleAction

/-! ## Packets -/

def Side.other : Side → Side
  | .peer => .target
  | .target => .peer

/-- The chain on the target that traffic of a side passes. -/
def chainOf : Side → Chain
  | .peer => .localin
  | .target => .output

namespace Probe

def proto : Probe → Proto
  | .connect .. => .tcp
  | .fin .. => .tcp
  | .datagram .. => .udp
  | .icmp .. => .icmp

def dport : Probe → Option UInt16
  | .connect dport _ => some dport
  | .fin dport _ _ => some dport
  | .datagram dport _ _ => some dport
  | .icmp .. => none

/-- The source port: the given one, else the one the kernel picks. -/
def sport (ephemeral : UInt16) : Probe → Option UInt16
  | .connect _ sport => some (sport.getD ephemeral)
  | .fin _ sport _ => some sport
  | .datagram _ sport _ => some (sport.getD ephemeral)
  | .icmp .. => none

/-- Whether the sender connects a socket. -/
def connects : Probe → Bool
  | .connect .. => true
  | .datagram .. => true
  | _ => false

/-- The packet of a probe as the target's chain sees it. -/
def packet (chain : Chain) (ephemeral : UInt16) (probe : Probe) : Packet where
  chain := chain
  proto := probe.proto
  sport := probe.sport ephemeral
  dport := probe.dport

end Probe

/-! ## Fates -/

/-- What becomes of a probe. -/
inductive Fate
  /-- The connect is denied by an app policy. -/
  | denied
  | dropped
  /-- It arrives and is answered. -/
  | reached
  /-- It arrives where nobody listens. -/
  | refused
  deriving DecidableEq, Repr

/-- Whether an action lets the `i`-th packet of a run through. -/
def RuleAction.passes (nldLater : Nat → Bool) : RuleAction → Nat → Bool
  | .p, _ => true
  | .lp, _ => true
  | .ld, _ => false
  | .nld, 0 => true
  | .nld, later + 1 => nldLater later

/-- Whether a listener of the case is on the receiving side, protocol and port of a probe;
an ICMP echo is answered by the kernel. -/
def listens (c : FwCase) : Probe → Bool
  | .icmp _ _ kind => kind == .echo
  | probe => c.listen.any fun spec =>
      spec.side == c.origin.other && spec.proto == probe.proto.lowercase &&
        some spec.port == probe.dport

/-- What becomes of the `i`-th probe of a case under a rule set: `addr` tests the address
patterns of a tuple rule, `mine` the keys of the sender. -/
def probeFate {α κ : Type} (world : Surroundings) (addr : α → α → Bool) (mine : κ → Bool)
    (rules : List (Rule α κ)) (c : FwCase) (index : Nat) (probe : Probe) : Fate :=
  -- the connect hook comes before any packet is sent
  if probe.connects && appDenies mine rules then .denied
  else
    let packet := probe.packet (chainOf c.origin) (world.ephemeral index)
    if (ruling world.undocumented addr packet rules).action.passes world.nldLater index then
      if listens c probe then .reached else .refused
    else .dropped

/-! ## Answers of the kernel -/

/-- How a call that waits for the other side ends. -/
inductive Ends {α : Type} (accept : α → Prop) : Fate → Except IoError α → Prop
  | denied (error : IoError) (kind : error.kind = .permissionDenied) :
      Ends accept .denied (.error error)
  | dropped (error : IoError) (kind : error.kind = .timedOut ∨ error.kind = .wouldBlock) :
      Ends accept .dropped (.error error)
  | reached (answer : α) (accepted : accept answer) : Ends accept .reached (.ok answer)
  | refused (error : IoError) (kind : error.kind = .connectionRefused) :
      Ends accept .refused (.error error)

/-- The calls that involve no packet succeed. -/
structure LocalCalls (calls : SocketCalls) : Prop where
  socket : calls.socket = .ok ()
  reuseAddress : calls.reuseAddress = .ok ()
  bind : calls.bind = .ok ()
  setReadTimeout : calls.setReadTimeout = .ok ()
  probeBind : calls.probeBind = .ok ()
  probeConnect : calls.probeConnect = .ok ()
  localAddr : ∃ ip, calls.localAddr = .ok (.v4 ip)

/-- How the calls of an attempt end for a fate of its probe. A datagram or a bare FIN leaves
whatever becomes of it later. -/
structure Answers (fate : Fate) (probe : Probe) (calls : SocketCalls) : Prop
    extends LocalCalls calls where
  connect : ∀ dport sport, probe = .connect dport sport → Ends (fun _ => True) fate calls.connect
  associate : ∀ dport sport awaitReply, probe = .datagram dport sport awaitReply →
    if fate = .denied then Ends (fun _ => True) .denied calls.connect else calls.connect = .ok ()
  send : calls.send = .ok ()
  reply : ∀ dport sport, probe = .datagram dport sport true →
    Ends (fun _ => True) fate calls.recv
  echo : ∀ ident seq, probe = .icmp ident seq .echo →
    Ends (fun frame => isMatchingEchoReply frame ident = true) fate calls.recv

/-- The frame of an echo reply for `ident`, its IP header left empty. -/
def echoFrame (ident : UInt16) : List UInt8 :=
  [0, 0, 0, 0, UInt8.ofNat (ident.toNat / 256), UInt8.ofNat (ident.toNat % 256)]

theorem isMatchingEchoReply_echoFrame (ident : UInt16) :
    isMatchingEchoReply (echoFrame ident) ident = true := by
  have hident := ident.toNat_lt
  have hhigh : (UInt8.ofNat (ident.toNat / 256)).toNat = ident.toNat / 256 := by
    rw [UInt8.toNat_ofNat_of_lt']
    change ident.toNat / 256 < 256
    omega
  have hlow : (UInt8.ofNat (ident.toNat % 256)).toNat = ident.toNat % 256 := by
    rw [UInt8.toNat_ofNat_of_lt']
    change ident.toNat % 256 < 256
    omega
  have hvalue : ident.toNat / 256 * 256 + ident.toNat % 256 = ident.toNat := by omega
  simp [isMatchingEchoReply, echoFrame, hhigh, hlow, hvalue]

/-- Every fate of a waiting call can come about. -/
theorem exists_ends {α : Type} {accept : α → Prop} (answer : α) (haccept : accept answer)
    (fate : Fate) : ∃ call, Ends accept fate call := by
  cases fate with
  | denied => exact ⟨_, .denied ⟨.permissionDenied, ""⟩ rfl⟩
  | dropped => exact ⟨_, .dropped ⟨.timedOut, ""⟩ (.inl rfl)⟩
  | reached => exact ⟨_, .reached answer haccept⟩
  | refused => exact ⟨_, .refused ⟨.connectionRefused, ""⟩ rfl⟩

/-- Calls of which only the connect and the receive are left to end in some way. -/
def answering (connect : Except IoError Unit) (recv : Except IoError (List UInt8)) :
    SocketCalls where
  socket := .ok ()
  reuseAddress := .ok ()
  bind := .ok ()
  connect := connect
  setReadTimeout := .ok ()
  send := .ok ()
  recv := recv
  probeBind := .ok ()
  probeConnect := .ok ()
  localAddr := .ok (.v4 ⟨0, 0, 0, 0⟩)

theorem localCalls_answering (connect : Except IoError Unit)
    (recv : Except IoError (List UInt8)) : LocalCalls (answering connect recv) :=
  ⟨rfl, rfl, rfl, rfl, rfl, rfl, ⟨_, rfl⟩⟩

/-- The kernel has answers for every fate of every probe. -/
theorem exists_answers (fate : Fate) (probe : Probe) : ∃ calls, Answers fate probe calls := by
  obtain ⟨connect, hconnect⟩ : ∃ connect, Ends (fun _ : Unit => True) fate connect :=
    exists_ends () trivial fate
  obtain ⟨recv, hrecv⟩ : ∃ recv, Ends (fun _ : List UInt8 => True) fate recv :=
    exists_ends [] trivial fate
  cases probe with
  | connect dport sport =>
    exact ⟨answering connect recv, localCalls_answering .., fun _ _ _ => hconnect, nofun, rfl,
      nofun, nofun⟩
  | fin dport sport seq =>
    exact ⟨answering connect recv, localCalls_answering .., nofun, nofun, rfl, nofun, nofun⟩
  | datagram dport sport awaitReply =>
    refine ⟨answering (if fate = .denied then connect else .ok ()) recv,
      localCalls_answering .., nofun, fun _ _ _ _ => ?_, rfl, fun _ _ _ => hrecv, nofun⟩
    by_cases hfate : fate = .denied
    · subst hfate
      exact hconnect
    · rw [if_neg hfate]
      exact if_neg hfate
  | icmp ident seq kind =>
    obtain ⟨echo, hecho⟩ :
        ∃ echo, Ends (fun frame => isMatchingEchoReply frame ident = true) fate echo :=
      exists_ends (echoFrame ident) (isMatchingEchoReply_echoFrame ident) fate
    refine ⟨answering connect echo, localCalls_answering .., nofun, nofun, rfl, nofun, ?_⟩
    rintro _ _ ⟨⟩
    exact hecho

/-- The outcome of an attempt whose packet operation ends for a fate. -/
def Fate.outcome : Fate → Outcome
  | .denied => .denied
  | .dropped => .timeout
  | .reached => .success
  | .refused => .refused

/-- The outcome of a probe: one that awaits nothing is just sent. -/
def Probe.outcome (fate : Fate) : Probe → Outcome
  | .fin .. => .sent
  | .datagram _ _ false => .sent
  | .icmp _ _ .timestamp => .sent
  | _ => fate.outcome

/-- An error that ends a waiting call is classified as the fate. -/
theorem Ends.classify {α : Type} {accept : α → Prop} {fate : Fate} {error : IoError}
    (h : Ends accept fate (.error error)) : classifyIo error = fate.outcome := by
  cases h with
  | denied _ kind => simp [classifyIo, kind, Fate.outcome]
  | dropped _ kind => rcases kind with kind | kind <;> simp [classifyIo, kind, Fate.outcome]
  | refused _ kind => simp [classifyIo, kind, Fate.outcome]

/-- An attempt that succeeds on an accepted answer and classifies an error comes to the fate of
the call it waits for. -/
theorem Ends.attempt {α : Type} {accept : α → Prop} {fate : Fate} {call : Except IoError α}
    {attempt : Except String Outcome} (h : Ends accept fate call)
    (hanswer : ∀ answer, call = .ok answer → accept answer → attempt = .ok .success)
    (herror : ∀ error, call = .error error → attempt = .ok (classifyIo error)) :
    attempt = .ok fate.outcome := by
  cases hcall : call with
  | ok answer =>
    subst hcall
    cases h with
    | reached _ accepted => exact hanswer answer rfl accepted
  | error error =>
    subst hcall
    rw [herror error rfl, h.classify]

section Attempts

variable {calls : SocketCalls} (h : LocalCalls calls)
include h

/-- What a TCP attempt comes to is up to its connect. -/
theorem LocalCalls.tcpAttempt (sport : Option UInt16) {accept : Unit → Prop} {fate : Fate}
    (hconnect : Ends accept fate calls.connect) :
    tcpAttempt sport calls = .ok fate.outcome := by
  apply hconnect.attempt
  · intro answer hanswer _
    cases sport <;>
      simp [FwVerify.tcpAttempt, h.socket, h.reuseAddress, h.bind, hanswer]
  · intro error herror
    cases sport <;>
      simp [FwVerify.tcpAttempt, h.socket, h.reuseAddress, h.bind, herror]

/-- What a datagram with a reply comes to is up to the reply. -/
theorem LocalCalls.udpAttempt_reply (hconnect : calls.connect = .ok ())
    (hsend : calls.send = .ok ()) {accept : List UInt8 → Prop} {fate : Fate}
    (hrecv : Ends accept fate calls.recv) : udpAttempt true calls = .ok fate.outcome := by
  apply hrecv.attempt
  · intro answer hanswer _
    simp [udpAttempt, h.bind, hconnect, hsend, h.setReadTimeout, hanswer]
  · intro error herror
    simp [udpAttempt, h.bind, hconnect, hsend, h.setReadTimeout, herror]

/-- What an echo comes to is up to the reply, which has to carry its ident. -/
theorem LocalCalls.icmpAttempt_echo (dst : Ipv4Addr) {ident : UInt16}
    (hsend : calls.send = .ok ()) {fate : Fate}
    (hrecv : Ends (fun frame => isMatchingEchoReply frame ident = true) fate calls.recv) :
    icmpAttempt (.v4 dst) ident .echo calls = .ok fate.outcome := by
  apply hrecv.attempt
  · intro frame hframe hmatch
    simp [icmpAttempt, h.socket, h.setReadTimeout, hsend, hframe, hmatch]
  · intro error herror
    simp [icmpAttempt, h.socket, h.setReadTimeout, hsend, herror]

/-- A bare FIN awaits nothing. -/
theorem LocalCalls.finAttempt (dst : Ipv4Addr) (hsend : calls.send = .ok ()) :
    finAttempt (.v4 dst) calls = .ok .sent := by
  obtain ⟨ip, hip⟩ := h.localAddr
  have hsource : localSrcIpv4 calls = .ok ip := by
    simp [localSrcIpv4, h.probeBind, h.probeConnect, hip]
  simp only [FwVerify.finAttempt, hsource, h.socket, hsend]
  rfl

end Attempts

/-- **The outcome of an attempt** is that of its probe's fate; only a denied datagram is a
local error instead. -/
theorem Answers.attempt {fate : Fate} {probe : Probe} {calls : SocketCalls}
    (h : Answers fate probe calls) (dst : Ipv4Addr)
    (hdenied : fate = .denied → probe.proto = .tcp) :
    probe.attempt (.v4 dst) calls = .ok (probe.outcome fate) := by
  have hlocal := h.toLocalCalls
  cases probe with
  | connect dport sport => exact hlocal.tcpAttempt sport (h.connect dport sport rfl)
  | fin dport sport seq => exact hlocal.finAttempt dst h.send
  | datagram dport sport awaitReply =>
    -- only a connect hook keeps a datagram socket from its peer
    have hconnect : calls.connect = .ok () := by
      have hassociate := h.associate dport sport awaitReply rfl
      have hnot : fate ≠ .denied := by
        intro hfate
        simpa [Probe.proto] using hdenied hfate
      rwa [if_neg hnot] at hassociate
    cases awaitReply with
    | true => exact hlocal.udpAttempt_reply hconnect h.send (h.reply dport sport rfl)
    | false =>
      simp [Probe.attempt, udpAttempt, h.bind, hconnect, h.send, Probe.outcome]
  | icmp ident seq kind =>
    cases kind with
    | echo => exact hlocal.icmpAttempt_echo dst h.send (h.echo ident seq rfl)
    | timestamp =>
      simp [Probe.attempt, icmpAttempt, h.socket, h.setReadTimeout, h.send,
        Probe.outcome]

end FwVerify
