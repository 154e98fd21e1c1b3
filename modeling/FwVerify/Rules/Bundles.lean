import FwVerify.Model.Catalog
import FwVerify.Rules.Language

/-!
# What the bundle texts say

The rules that the text of each bundle is read as, over the places a rule can name instead
of addresses: with IPv4 addresses on both sides and an identity key that fits in a field,
every bundle text is well formed and says what its table here says.

## Main definitions

* `Place` — the addresses a bundle names
* `bundleRules` — the rules of a bundle

## Main results

* `readRules_firewallText` — a bundle text is read as the rules of the bundle
-/

set_option autoImplicit false

namespace FwVerify

open Text Records

/-- The addresses a bundle names. -/
inductive Place
  | any | peer | peer24 | target
  deriving DecidableEq, Repr

/-- The pattern of a place for given addresses. -/
def Place.resolve (peer target : Ipv4Addr) : Place → AddrPattern
  | .any => .any
  | .peer => .net peer 32
  | .peer24 => .net { peer with d := 0 } 24
  | .target => .net target 32

/-- A tuple rule for a range of destination ports. -/
def tupleRule (sip dip : Place) (low high : UInt16) (proto : ProtoPattern) (action : RuleAction)
    (chain : Chain) : Rule Place Unit :=
  .tuple { sip, dip, sport := .any, dport := .range low high, proto, action, chain }

/-- The rules of a bundle. -/
def bundleRules : Bundle → List (Rule Place Unit)
  | .ingressTuple =>
    [.default .p,
      tupleRule .peer .target 5001 5001 (.only .tcp) .p .localin,
      tupleRule .peer .target 5002 5002 (.only .tcp) .lp .localin,
      tupleRule .peer .target 5003 5003 (.only .tcp) .ld .localin,
      tupleRule .peer .target 5004 5004 (.only .tcp) .nld .localin]
  | .defaultDeny =>
    [.default .ld, tupleRule .peer .target 5101 5101 (.only .tcp) .p .localin]
  | .defaultAllow => [.default .p]
  | .egressTuple =>
    [.default .p,
      tupleRule .target .peer 6001 6001 (.only .tcp) .ld .output,
      tupleRule .target .peer 6002 6002 (.only .tcp) .lp .output,
      tupleRule .target .peer 6003 6003 (.only .udp) .ld .output]
  | .appDeny => [.default .p, .app () .ld]
  | .appAllow => [.default .p, .app () .lp]
  | .matchFields =>
    [.default .p,
      tupleRule .peer .target 7001 7001 (.only .tcp) .ld .localin,
      tupleRule .peer24 .target 7002 7002 (.only .tcp) .ld .localin,
      tupleRule .any .target 7100 7110 (.only .tcp) .ld .localin,
      .tuple {
        sip := .any, dip := .target, sport := .range 8000 8005, dport := .range 7200 7200
        proto := .only .udp, action := .ld, chain := .localin },
      .tuple {
        sip := .any, dip := .target, sport := .any, dport := .any
        proto := .only .icmp, action := .ld, chain := .localin },
      tupleRule .any .target 7300 7300 .any .ld .localin]
  | .detection => [.default .ld]
  | .priority =>
    [.default .p,
      tupleRule .peer .target 8001 8001 (.only .tcp) .p .localin,
      tupleRule .peer .target 8001 8001 (.only .tcp) .ld .localin,
      tupleRule .peer .target 8002 8002 (.only .tcp) .p .localin]
  | .traffic =>
    [.default .p, .app () .lp,
      tupleRule .peer .target 5301 5301 (.only .udp) .p .localin]

/-! ## The records of a text -/

def defaultRecord (action : String) : Record := [("chain", "localin"), ("action", action)]

def appRecord (key action : String) : Record := [("prog", key), ("action", action)]

def tupleRecord (sip dip dport proto action chain : String) : Record :=
  [("sip", sip), ("dip", dip), ("dport", dport), ("proto", proto), ("action", action),
    ("chain", chain)]

/-- A block of UDP from any address and a range of source ports. -/
def sportRecord (dip sport dport : String) : Record :=
  [("sip", "*"), ("sport", sport), ("dip", dip), ("dport", dport), ("proto", "udp"),
    ("action", "LD"), ("chain", "localin")]

/-- A block of ICMP from any address. -/
def icmpRecord (dip : String) : Record :=
  [("sip", "*"), ("dip", dip), ("proto", "icmp"), ("action", "LD"), ("chain", "localin")]

/-- The lines of a bundle text as records. -/
def bundleRecords (peer target : Ipv4Addr) (key : String) : Bundle → List Record
  | .ingressTuple =>
    [defaultRecord "P",
      tupleRecord peer.display target.display "5001" "tcp" "P" "localin",
      tupleRecord peer.display target.display "5002" "tcp" "LP" "localin",
      tupleRecord peer.display target.display "5003" "tcp" "LD" "localin",
      tupleRecord peer.display target.display "5004" "tcp" "NLD" "localin"]
  | .defaultDeny =>
    [defaultRecord "LD", tupleRecord peer.display target.display "5101" "tcp" "P" "localin"]
  | .defaultAllow => [defaultRecord "P"]
  | .egressTuple =>
    [defaultRecord "P",
      tupleRecord target.display peer.display "6001" "tcp" "LD" "output",
      tupleRecord target.display peer.display "6002" "tcp" "LP" "output",
      tupleRecord target.display peer.display "6003" "udp" "LD" "output"]
  | .appDeny => [defaultRecord "P", appRecord key "LD"]
  | .appAllow => [defaultRecord "P", appRecord key "LP"]
  | .matchFields =>
    [defaultRecord "P",
      tupleRecord (peer.display ++ "/32") target.display "7001" "tcp" "LD" "localin",
      tupleRecord ({ peer with d := 0 }.display ++ "/24") target.display "7002" "tcp" "LD"
        "localin",
      tupleRecord "*" target.display "7100-7110" "tcp" "LD" "localin",
      sportRecord target.display "8000-8005" "7200",
      icmpRecord target.display,
      tupleRecord "*" target.display "7300" "*" "LD" "localin"]
  | .detection => [defaultRecord "LD"]
  | .priority =>
    [defaultRecord "P",
      tupleRecord peer.display target.display "8001" "tcp" "P" "localin",
      tupleRecord peer.display target.display "8001" "tcp" "LD" "localin",
      tupleRecord peer.display target.display "8002" "tcp" "P" "localin"]
  | .traffic =>
    [defaultRecord "P", appRecord key "LP",
      tupleRecord peer.display target.display "5301" "udp" "P" "localin"]

/-- The line of a tuple rule; what follows its addresses stands apart. -/
theorem line_tuple (sip dip dport proto action chain : String) :
    writeRecord ruleFormat (tupleRecord sip dip dport proto action chain) ++ "\n" =
      "sip=" ++ sip ++ ",dip=" ++ dip ++
        (",dport=" ++ dport ++ ",proto=" ++ proto ++ ",action=" ++ action ++ ",chain=" ++ chain ++
          "\n") := by
  apply String.toList_inj.mp
  simp [writeRecord, tupleRecord, writeField, ruleFormat]

theorem line_sport (dip sport dport : String) :
    writeRecord ruleFormat (sportRecord dip sport dport) ++ "\n" =
      "sip=*,sport=" ++ sport ++ ",dip=" ++ dip ++
        (",dport=" ++ dport ++ ",proto=udp,action=LD,chain=localin\n") := by
  apply String.toList_inj.mp
  simp [writeRecord, sportRecord, writeField, ruleFormat]

theorem line_icmp (dip : String) :
    writeRecord ruleFormat (icmpRecord dip) ++ "\n" =
      "sip=*,dip=" ++ dip ++ ",proto=icmp,action=LD,chain=localin\n" := by
  apply String.toList_inj.mp
  simp [writeRecord, icmpRecord, writeField, ruleFormat]

theorem line_default (action : String) :
    writeRecord ruleFormat (defaultRecord action) ++ "\n" =
      "chain=localin,action=" ++ action ++ "\n" := by
  apply String.toList_inj.mp
  simp [writeRecord, defaultRecord, writeField, ruleFormat]

theorem line_app (key action : String) :
    writeRecord ruleFormat (appRecord key action) ++ "\n" =
      "prog=" ++ key ++ (",action=" ++ action ++ "\n") := by
  apply String.toList_inj.mp
  simp [writeRecord, appRecord, writeField, ruleFormat]

theorem write_cons (record : Record) (later : List Record) :
    write ruleFormat (record :: later) =
      writeRecord ruleFormat record ++ "\n" ++ write ruleFormat later := rfl

/-- The text of the `/24` network of an address. -/
theorem display_slash24 (ip : Ipv4Addr) :
    s!"{ip.a}.{ip.b}.{ip.c}.0/24" = { ip with d := 0 }.display ++ "/24" := by
  have hzero : toString (0 : UInt8) = "0" := rfl
  apply String.toList_inj.mp
  simp [Ipv4Addr.display, hzero, toString_string]

/-- The text of a bundle is its records, written line by line. -/
theorem firewallText_eq_write {cfg : RunConfig} {peer target : Ipv4Addr}
    (hpeer : cfg.peerIp = .v4 peer) (htarget : cfg.targetIp = .v4 target) (bundle : Bundle) :
    firewallText bundle cfg =
      write ruleFormat (bundleRecords peer target cfg.appIdentityKey bundle) := by
  have hdisplay (ip : Ipv4Addr) : toString (IpAddr.v4 ip) = ip.display := rfl
  have hpeer24 : cfg.peerSlash24 = { peer with d := 0 }.display ++ "/24" := by
    rw [RunConfig.peerSlash24, hpeer]
    exact display_slash24 peer
  have hend : write ruleFormat [] = "" := rfl
  have hslash32 (s : String) : s ++ "/32" ++ ",dip=" = s ++ "/32,dip=" := by
    simp only [String.append_assoc, String.reduceAppend]
  -- the equation of the text is too large to rewrite with, its definition is not
  cases bundle <;> delta firewallText <;> dsimp only <;>
    simp only [hpeer, htarget, hpeer24, hdisplay, toString_string, bundleRecords, write_cons, line_default,
      line_tuple, line_app, line_sport, line_icmp, hend, String.reduceAppend,
      String.append_empty] <;>
    simp only [← String.append_assoc, String.reduceAppend, hslash32]

/-! ## Well-formed lines -/

/-- A value that fits in a field. -/
def Fits (value : String) : Prop := '\n' ∉ value.toList ∧ ',' ∉ value.toList

instance (value : String) : Decidable (Fits value) :=
  inferInstanceAs (Decidable ('\n' ∉ value.toList ∧ ',' ∉ value.toList))

theorem fits_display (ip : Ipv4Addr) : Fits ip.display :=
  ⟨ip.not_mem_display (by decide) (by decide), ip.not_mem_display (by decide) (by decide)⟩

theorem Fits.append {s t : String} (hs : Fits s) (ht : Fits t) : Fits (s ++ t) := by
  constructor
  · simp [hs.1, ht.1]
  · simp [hs.2, ht.2]

/-- A record of rule keys with fitting values can be told apart. -/
theorem plain_of_fits {record : Record} (hne : record ≠ [])
    (hkeys : ∀ field ∈ record, field.1 ∈ ruleKeys) (hvalues : ∀ field ∈ record, Fits field.2) :
    Plain ruleFormat record where
  nonempty := hne
  keys := by
    have hall : ∀ key ∈ ruleKeys, Fits key ∧ '=' ∉ key.toList := by decide
    intro field hfield
    obtain ⟨⟨hline, hcomma⟩, hvalue⟩ := hall field.1 (hkeys field hfield)
    simp [ruleFormat, hline, hcomma, hvalue]
  values := by
    intro field hfield
    obtain ⟨hline, hcomma⟩ := hvalues field hfield
    simp [ruleFormat, hline, hcomma]

/-- Every line of a bundle text is well formed. -/
theorem plain_bundleRecords (peer target : Ipv4Addr) {key : String} (hkey : Fits key)
    (bundle : Bundle) :
    ∀ record ∈ bundleRecords peer target key bundle, Plain ruleFormat record := by
  have hpeer := fits_display peer
  have htarget := fits_display target
  have hpeer32 : Fits (peer.display ++ "/32") := hpeer.append (by decide)
  have hpeer24 : Fits ({ peer with d := 0 }.display ++ "/24") :=
    (fits_display _).append (by decide)
  have hshape : ∀ record ∈ bundleRecords peer target key bundle,
      record ≠ [] ∧ (∀ field ∈ record, field.1 ∈ ruleKeys) ∧ ∀ field ∈ record, Fits field.2 := by
    cases bundle <;>
      simp +decide only [bundleRecords, defaultRecord, appRecord, tupleRecord, sportRecord,
        icmpRecord, List.forall_mem_cons, and_true, ne_eq, reduceCtorEq, not_false_eq_true, hpeer,
        htarget, hpeer32, hpeer24, hkey]
  intro record hrecord
  obtain ⟨hne, hkeys, hvalues⟩ := hshape record hrecord
  exact plain_of_fits hne hkeys hvalues

/-! ## Reading -/

theorem parse_display (ip : Ipv4Addr) : AddrPattern.parse ip.display = some (.net ip 32) := by
  have hstar : ip.display ≠ "*" := by
    intro h
    have hfree : '*' ∉ ip.display.toList := ip.not_mem_display (by decide) (by decide)
    simp [h] at hfree
  have hslash : splitOnce '/' ip.display = none :=
    splitOnce_eq_none _ _ (ip.not_mem_display (by decide) (by decide))
  rw [AddrPattern.parse, if_neg hstar, hslash, Ipv4Addr.parse_display]
  rfl

theorem parse_display_bits (ip : Ipv4Addr) (bits : String) {n : Nat}
    (hbits : parseUnsigned 33 bits = some n) :
    AddrPattern.parse (ip.display ++ String.singleton '/' ++ bits) = some (.net ip n) := by
  have hstar : ip.display ++ String.singleton '/' ++ bits ≠ "*" := by
    intro h
    have hslash : '/' ∈ "*".toList := by simp [← h]
    simp at hslash
  have hsplit := splitOnce_append '/' ip.display bits
    (ip.not_mem_display (by decide) (by decide))
  rw [AddrPattern.parse, if_neg hstar, hsplit]
  simp [Ipv4Addr.parse_display, hbits]

theorem readRule_default {action : String} {a : RuleAction}
    (haction : RuleAction.parse action = some a) :
    readRule (defaultRecord action) = some (.default a) := by
  have hlookup : List.lookup "action" (defaultRecord action) = some action := rfl
  have hread : readRule (defaultRecord action) =
      ((List.lookup "action" (defaultRecord action)).bind RuleAction.parse).bind fun a =>
        some (.default a) := rfl
  rw [hread, hlookup, Option.bind_some, haction, Option.bind_some]

theorem readRule_app {key action : String} {a : RuleAction}
    (haction : RuleAction.parse action = some a) :
    readRule (appRecord key action) = some (.app key a) := by
  have hread : readRule (appRecord key action) =
      (RuleAction.parse action).bind fun a => some (.app key a) := rfl
  rw [hread, haction, Option.bind_some]

theorem readRule_tuple {sip dip dport proto action chain : String} {s d : AddrPattern}
    {p : PortPattern} {q : ProtoPattern} {a : RuleAction} {c : Chain}
    (hsip : AddrPattern.parse sip = some s) (hdip : AddrPattern.parse dip = some d)
    (hdport : PortPattern.parse dport = some p) (hproto : ProtoPattern.parse proto = some q)
    (haction : RuleAction.parse action = some a) (hchain : Chain.parse chain = some c) :
    readRule (tupleRecord sip dip dport proto action chain) =
      some (.tuple ⟨s, d, .any, p, q, a, c⟩) := by
  have hread : readRule (tupleRecord sip dip dport proto action chain) = do
      let action ← RuleAction.parse action
      let chain ← Chain.parse chain
      if chain = .localin ∧ 6 = 2 then
        return .default action
      return .tuple {
        sip := ← AddrPattern.parse sip
        dip := ← AddrPattern.parse dip
        sport := .any
        dport := ← PortPattern.parse dport
        proto := ← ProtoPattern.parse proto
        action, chain } := rfl
  simp [hread, haction, hchain, hsip, hdip, hdport, hproto]

theorem readRule_sport {dip sport dport : String} {d : AddrPattern} {p q : PortPattern}
    (hdip : AddrPattern.parse dip = some d) (hsport : PortPattern.parse sport = some p)
    (hdport : PortPattern.parse dport = some q) :
    readRule (sportRecord dip sport dport) =
      some (.tuple ⟨.any, d, p, q, .only .udp, .ld, .localin⟩) := by
  have hread : readRule (sportRecord dip sport dport) = do
      let dip ← AddrPattern.parse dip
      let sport ← PortPattern.parse sport
      let dport ← PortPattern.parse dport
      return .tuple ⟨.any, dip, sport, dport, .only .udp, .ld, .localin⟩ := rfl
  simp [hread, hdip, hsport, hdport]

theorem readRule_icmp {dip : String} {d : AddrPattern} (hdip : AddrPattern.parse dip = some d) :
    readRule (icmpRecord dip) =
      some (.tuple ⟨.any, d, .any, .any, .only .icmp, .ld, .localin⟩) := by
  have hread : readRule (icmpRecord dip) = do
      let dip ← AddrPattern.parse dip
      return .tuple ⟨.any, dip, .any, .any, .only .icmp, .ld, .localin⟩ := rfl
  simp [hread, hdip]

/-- **A bundle text is read as the rules of the bundle.** -/
theorem readRules_firewallText {cfg : RunConfig} {peer target : Ipv4Addr}
    (hpeer : cfg.peerIp = .v4 peer) (htarget : cfg.targetIp = .v4 target)
    (hkey : Fits cfg.appIdentityKey) (bundle : Bundle) :
    readRules (firewallText bundle cfg) =
      some ((bundleRules bundle).map
        (Rule.map (Place.resolve peer target) fun _ => cfg.appIdentityKey)) := by
  rw [readRules, firewallText_eq_write hpeer htarget,
    read_write (plain_bundleRecords peer target hkey bundle)]
  -- line by line, each record is read as the rule of its line
  refine mapM_of_forall₂ ?_
  have hpeer' := parse_display peer
  have htarget' := parse_display target
  have hbits (ip : Ipv4Addr) (bits : String) :
      ip.display ++ String.singleton '/' ++ bits = ip.display ++ ("/" ++ bits) :=
    String.append_assoc ..
  have hpeer32 : AddrPattern.parse (peer.display ++ "/32") = some (.net peer 32) := by
    have hread := parse_display_bits peer "32" rfl
    rwa [hbits] at hread
  have hpeer24 : AddrPattern.parse ({ peer with d := 0 }.display ++ "/24") =
      some (.net { peer with d := 0 } 24) := by
    have hread := parse_display_bits { peer with d := 0 } "24" rfl
    rwa [hbits] at hread
  cases bundle with
  | ingressTuple =>
    exact .cons (readRule_default rfl) <|
      .cons (readRule_tuple hpeer' htarget' rfl rfl rfl rfl) <|
      .cons (readRule_tuple hpeer' htarget' rfl rfl rfl rfl) <|
      .cons (readRule_tuple hpeer' htarget' rfl rfl rfl rfl) <|
      .cons (readRule_tuple hpeer' htarget' rfl rfl rfl rfl) .nil
  | defaultDeny =>
    exact .cons (readRule_default rfl) <|
      .cons (readRule_tuple hpeer' htarget' rfl rfl rfl rfl) .nil
  | defaultAllow => exact .cons (readRule_default rfl) .nil
  | egressTuple =>
    exact .cons (readRule_default rfl) <|
      .cons (readRule_tuple htarget' hpeer' rfl rfl rfl rfl) <|
      .cons (readRule_tuple htarget' hpeer' rfl rfl rfl rfl) <|
      .cons (readRule_tuple htarget' hpeer' rfl rfl rfl rfl) .nil
  | appDeny => exact .cons (readRule_default rfl) <| .cons (readRule_app rfl) .nil
  | appAllow => exact .cons (readRule_default rfl) <| .cons (readRule_app rfl) .nil
  | matchFields =>
    exact .cons (readRule_default rfl) <|
      .cons (readRule_tuple hpeer32 htarget' rfl rfl rfl rfl) <|
      .cons (readRule_tuple hpeer24 htarget' rfl rfl rfl rfl) <|
      .cons (readRule_tuple rfl htarget' rfl rfl rfl rfl) <|
      .cons (readRule_sport htarget' rfl rfl) <|
      .cons (readRule_icmp htarget') <|
      .cons (readRule_tuple rfl htarget' rfl rfl rfl rfl) .nil
  | detection => exact .cons (readRule_default rfl) .nil
  | priority =>
    exact .cons (readRule_default rfl) <|
      .cons (readRule_tuple hpeer' htarget' rfl rfl rfl rfl) <|
      .cons (readRule_tuple hpeer' htarget' rfl rfl rfl rfl) <|
      .cons (readRule_tuple hpeer' htarget' rfl rfl rfl rfl) .nil
  | traffic =>
    exact .cons (readRule_default rfl) <| .cons (readRule_app rfl) <|
      .cons (readRule_tuple hpeer' htarget' rfl rfl rfl rfl) .nil

end FwVerify
