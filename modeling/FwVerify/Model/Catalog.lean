import FwVerify.Model.Config

/-!
# Test-case catalog

The data-driven cases, the provisioning bundles they are grouped into, and the firewall
rule text of each bundle. A bundle is one firewall rule set shared by several cases; rule
lines are emitted with no blanks or comments, so that a tuple rule's id equals its 1-based
line number.
-/

set_option autoImplicit false

namespace FwVerify

/-- Logical case group (also the `run-group` argument). -/
inductive Group
  | ingress | default | egress | app | match | detection | traffic | monitor
  deriving DecidableEq, Repr

/-- The group's name. -/
def Group.asStr : Group → String
  | .ingress => "ingress"
  | .default => "default"
  | .egress => "egress"
  | .app => "app"
  | .match => "match"
  | .detection => "detection"
  | .traffic => "traffic"
  | .monitor => "monitor"

/-- The group of a name. -/
def Group.parse (value : String) : Except String Group :=
  match value with
  | "ingress" => .ok .ingress
  | "default" => .ok .default
  | "egress" => .ok .egress
  | "app" => .ok .app
  | "match" => .ok .match
  | "detection" => .ok .detection
  | "traffic" => .ok .traffic
  | "monitor" => .ok .monitor
  | other => .error (s!"unknown group \x60{other}\x60 " ++
      "(ingress|default|egress|app|match|detection|traffic|monitor)")

/-- A provisioning bundle: one firewall rule set shared by several cases. -/
inductive Bundle
  | ingressTuple | defaultDeny | defaultAllow | egressTuple | appDeny | appAllow
  | matchFields | detection | traffic | priority
  deriving DecidableEq, Repr

/-- Which device performs an action. -/
inductive Side
  | peer | target
  deriving DecidableEq, Repr

/-- How traffic is generated for a case. -/
inductive TrafficKind
  | tcp (dport : UInt16)
  | icmp
  | udp (dport : UInt16) (awaitReply : Bool)
  | tcpScan (dports : List UInt16)
  | udpScan (dports : List UInt16)
  | tcpBurst (dport : UInt16) (count : UInt32)
  | udpVolume (dport : UInt16) (count : UInt32)
  | tcpFinScan (dports : List UInt16)
  deriving DecidableEq, Repr

/-- Expected enforcement outcome. -/
inductive Enforce
  | blocked | allowed | sent | refused
  deriving DecidableEq, Repr

/-- Expected firewall event of a case. -/
structure ExpectEvent where
  kind : String
  action : String
  proto : String
  ruleId : Option Int64
  matchDport : Option UInt16
  detail : Option String
  deriving DecidableEq, Repr

/-- A listener to start before generating traffic. -/
structure Listen where
  side : Side
  proto : String
  port : UInt16
  deriving DecidableEq, Repr

/-- A single test case. -/
structure FwCase where
  id : String
  group : Group
  bundle : Bundle
  origin : Side
  uid : Bool
  sport : Option UInt16
  listen : List Listen
  traffic : TrafficKind
  expectEnforce : Enforce
  /-- `none` asserts that no event is recorded. -/
  expectEvent : Option ExpectEvent
  skip : Option String
  deriving DecidableEq, Repr

/-- Firewall rule text (fun=1) for a bundle, rendered for the live addresses. -/
def firewallText (bundle : Bundle) (cfg : RunConfig) : String :=
  let peer := cfg.peerIp
  let target := cfg.targetIp
  let peer24 := cfg.peerSlash24
  let key := cfg.appIdentityKey
  match bundle with
  | .ingressTuple =>
    "chain=localin,action=P\n" ++
    s!"sip={peer},dip={target},dport=5001,proto=tcp,action=P,chain=localin\n" ++
    s!"sip={peer},dip={target},dport=5002,proto=tcp,action=LP,chain=localin\n" ++
    s!"sip={peer},dip={target},dport=5003,proto=tcp,action=LD,chain=localin\n" ++
    s!"sip={peer},dip={target},dport=5004,proto=tcp,action=NLD,chain=localin\n"
  | .defaultDeny =>
    "chain=localin,action=LD\n" ++
    s!"sip={peer},dip={target},dport=5101,proto=tcp,action=P,chain=localin\n"
  | .defaultAllow => "chain=localin,action=P\n"
  | .egressTuple =>
    "chain=localin,action=P\n" ++
    s!"sip={target},dip={peer},dport=6001,proto=tcp,action=LD,chain=output\n" ++
    s!"sip={target},dip={peer},dport=6002,proto=tcp,action=LP,chain=output\n" ++
    s!"sip={target},dip={peer},dport=6003,proto=udp,action=LD,chain=output\n"
  | .appDeny => s!"chain=localin,action=P\nprog={key},action=LD\n"
  | .appAllow => s!"chain=localin,action=P\nprog={key},action=LP\n"
  | .matchFields =>
    "chain=localin,action=P\n" ++
    s!"sip={peer}/32,dip={target},dport=7001,proto=tcp,action=LD,chain=localin\n" ++
    s!"sip={peer24},dip={target},dport=7002,proto=tcp,action=LD,chain=localin\n" ++
    s!"sip=*,dip={target},dport=7100-7110,proto=tcp,action=LD,chain=localin\n" ++
    s!"sip=*,sport=8000-8005,dip={target},dport=7200,proto=udp,action=LD,chain=localin\n" ++
    s!"sip=*,dip={target},proto=icmp,action=LD,chain=localin\n" ++
    s!"sip=*,dip={target},dport=7300,proto=*,action=LD,chain=localin\n"
  | .detection => "chain=localin,action=LD\n"
  -- later lines rank higher, so the line-3 block must win over the line-2 pass
  | .priority =>
    "chain=localin,action=P\n" ++
    s!"sip={peer},dip={target},dport=8001,proto=tcp,action=P,chain=localin\n" ++
    s!"sip={peer},dip={target},dport=8001,proto=tcp,action=LD,chain=localin\n" ++
    s!"sip={peer},dip={target},dport=8002,proto=tcp,action=P,chain=localin\n"
  -- the app policy only registers the mapped uid as a known identity
  | .traffic =>
    "chain=localin,action=P\n" ++
    s!"prog={key},action=LP\n" ++
    s!"sip={peer},dip={target},dport=5301,proto=udp,action=P,chain=localin\n"

/-- Traffic-policy cycle (fun=4) in seconds for a bundle, if any. -/
def trafficCycle (bundle : Bundle) : Option UInt64 :=
  if bundle = .traffic then some 5 else none

/-- An expected event with no vendor detail to assert. -/
def event (kind action proto : String) (ruleId : Option Int64) (matchDport : Option UInt16) :
    Option ExpectEvent :=
  some { kind, action, proto, ruleId, matchDport, detail := none }

/-- Like `event`, but also asserts the exact vendor `detail` string. -/
def eventD (kind action proto : String) (ruleId : Option Int64) (matchDport : Option UInt16)
    (detail : String) : Option ExpectEvent :=
  some { kind, action, proto, ruleId, matchDport, detail := some detail }

/-- A single listener. -/
def listen (side : Side) (proto : String) (port : UInt16) : List Listen :=
  [{ side, proto, port }]

/-- The full case catalog. -/
def allCases : List FwCase :=
  [
    -- INGRESS_TUPLE
    { id := "ingress-tuple-pass"
      group := .ingress, bundle := .ingressTuple, origin := .peer, uid := false, sport := none
      listen := listen .target "tcp" 5001
      traffic := .tcp 5001
      expectEnforce := .allowed
      expectEvent := none
      skip := none },
    { id := "ingress-tuple-alert"
      group := .ingress, bundle := .ingressTuple, origin := .peer, uid := false, sport := none
      listen := listen .target "tcp" 5002
      traffic := .tcp 5002
      expectEnforce := .allowed
      expectEvent := none
      skip := none },
    { id := "ingress-tuple-block"
      group := .ingress, bundle := .ingressTuple, origin := .peer, uid := false, sport := none
      listen := []
      traffic := .tcp 5003
      expectEnforce := .blocked
      expectEvent := none
      skip := none },
    { id := "ingress-tuple-blocksilent"
      group := .ingress, bundle := .ingressTuple, origin := .peer, uid := false, sport := none
      listen := []
      traffic := .tcp 5004
      expectEnforce := .refused
      expectEvent := none
      skip := none },
    -- DEFAULT policy
    { id := "default-deny-blocks"
      group := .default, bundle := .defaultDeny, origin := .peer, uid := false, sport := none
      listen := []
      traffic := .tcp 5102
      expectEnforce := .blocked
      expectEvent := none
      skip := none },
    { id := "default-deny-carveout"
      group := .default, bundle := .defaultDeny, origin := .peer, uid := false, sport := none
      listen := listen .target "tcp" 5101
      traffic := .tcp 5101
      expectEnforce := .allowed
      expectEvent := none
      skip := none },
    { id := "default-allow"
      group := .default, bundle := .defaultAllow, origin := .peer, uid := false, sport := none
      listen := listen .target "tcp" 5201
      traffic := .tcp 5201
      expectEnforce := .allowed
      expectEvent := none
      skip := none },
    -- EGRESS_TUPLE
    { id := "egress-tcp-block"
      group := .egress, bundle := .egressTuple, origin := .target, uid := false, sport := none
      listen := listen .peer "tcp" 6001
      traffic := .tcp 6001
      expectEnforce := .blocked
      expectEvent := eventD "NetworkBlock" "Block" "tcp" (some 2) (some 6001)
        "connection state invalid attack"
      skip := none },
    { id := "egress-tcp-alert"
      group := .egress, bundle := .egressTuple, origin := .target, uid := false, sport := none
      listen := listen .peer "tcp" 6002
      traffic := .tcp 6002
      expectEnforce := .allowed
      expectEvent := none
      skip := none },
    { id := "egress-udp-block"
      group := .egress, bundle := .egressTuple, origin := .target, uid := false, sport := none
      listen := listen .peer "udp" 6003
      traffic := .udp 6003 true
      expectEnforce := .blocked
      expectEvent := eventD "NetworkBlock" "Block" "udp" (some 4) (some 6003)
        "connection state invalid attack"
      skip := none },
    -- APP/UID policy
    { id := "app-policy-deny"
      group := .app, bundle := .appDeny, origin := .target, uid := true, sport := none
      listen := listen .peer "tcp" 6101
      traffic := .tcp 6101
      expectEnforce := .blocked
      expectEvent := event "PolicyDeny" "Block" "tcp" none none
      skip := none },
    { id := "app-policy-allow"
      group := .app, bundle := .appAllow, origin := .target, uid := true, sport := none
      listen := listen .peer "tcp" 6101
      traffic := .tcp 6101
      expectEnforce := .allowed
      expectEvent := none
      skip := none },
    -- MATCH_FIELDS (full 5-tuple coverage)
    { id := "match-sip-host"
      group := .match, bundle := .matchFields, origin := .peer, uid := false, sport := none
      listen := []
      traffic := .tcp 7001
      expectEnforce := .blocked
      expectEvent := none
      skip := none },
    { id := "match-sip-cidr"
      group := .match, bundle := .matchFields, origin := .peer, uid := false, sport := none
      listen := []
      traffic := .tcp 7002
      expectEnforce := .blocked
      expectEvent := none
      skip := none },
    { id := "match-dport-range-lo"
      group := .match, bundle := .matchFields, origin := .peer, uid := false, sport := none
      listen := []
      traffic := .tcp 7100
      expectEnforce := .blocked
      expectEvent := none
      skip := none },
    { id := "match-dport-range-hi"
      group := .match, bundle := .matchFields, origin := .peer, uid := false, sport := none
      listen := []
      traffic := .tcp 7110
      expectEnforce := .blocked
      expectEvent := none
      skip := none },
    { id := "match-dport-range-out"
      group := .match, bundle := .matchFields, origin := .peer, uid := false, sport := none
      listen := listen .target "tcp" 7111
      traffic := .tcp 7111
      expectEnforce := .allowed
      expectEvent := none
      skip := none },
    { id := "match-sport-range"
      group := .match, bundle := .matchFields, origin := .peer, uid := false, sport := some 8000
      listen := []
      traffic := .udp 7200 true
      expectEnforce := .blocked
      expectEvent := none
      skip := none },
    { id := "match-proto-icmp"
      group := .match, bundle := .matchFields, origin := .peer, uid := false, sport := none
      listen := []
      traffic := .icmp
      expectEnforce := .blocked
      expectEvent := none
      skip := none },
    { id := "match-proto-any-tcp"
      group := .match, bundle := .matchFields, origin := .peer, uid := false, sport := none
      listen := []
      traffic := .tcp 7300
      expectEnforce := .blocked
      expectEvent := none
      skip := none },
    { id := "match-proto-any-udp"
      group := .match, bundle := .matchFields, origin := .peer, uid := false, sport := none
      listen := []
      traffic := .udp 7300 true
      expectEnforce := .blocked
      expectEvent := none
      skip := none },
    -- DETECTION (port-scan / connection-abnormality)
    { id := "detect-portscan-tcp"
      group := .detection, bundle := .detection, origin := .peer, uid := false, sport := none
      listen := []
      traffic := .tcpScan [9001, 9002, 9003, 9004, 9005]
      expectEnforce := .blocked
      expectEvent := eventD "PortScan" "Block" "tcp" none none "tcp portscan attack"
      skip := none },
    { id := "detect-portscan-udp"
      group := .detection, bundle := .detection, origin := .peer, uid := false, sport := none
      listen := []
      traffic := .udpScan [9001, 9002, 9003, 9004, 9005]
      expectEnforce := .sent
      expectEvent := eventD "PortScan" "Block" "udp" none none "udp portscan attack"
      skip := none },
    { id := "detect-portscan-tcp-fin"
      group := .detection, bundle := .detection, origin := .peer, uid := false, sport := none
      listen := []
      traffic := .tcpFinScan [9011, 9012, 9013, 9014, 9015]
      expectEnforce := .sent
      expectEvent := eventD "PortScan" "Block" "tcp" none none "tcp fin portscan attack"
      skip := none },
    { id := "detect-conn-abnormal"
      group := .detection, bundle := .detection, origin := .peer, uid := false, sport := none
      listen := []
      traffic := .tcpBurst 9100 5
      expectEnforce := .blocked
      expectEvent := eventD "ConnectionAbnormal" "Block" "tcp" none (some 9100)
        "translation layer --tcp state unnormal"
      skip := none },
    { id := "detect-below-threshold"
      group := .detection, bundle := .detection, origin := .peer, uid := false, sport := none
      listen := []
      traffic := .tcpScan [9201, 9202]
      expectEnforce := .blocked
      expectEvent := none
      skip := none },
    -- TRAFFIC statistics
    { id := "traffic-global"
      group := .traffic, bundle := .traffic, origin := .peer, uid := false, sport := none
      listen := []
      traffic := .udpVolume 5301 200
      expectEnforce := .allowed
      expectEvent := none
      skip := none },
    { id := "traffic-per-app"
      group := .traffic, bundle := .traffic, origin := .target, uid := true, sport := none
      listen := []
      traffic := .udpVolume 5301 200
      expectEnforce := .allowed
      expectEvent := none
      skip := none },
    -- PRIORITY (rule precedence)
    { id := "priority-later-wins"
      group := .match, bundle := .priority, origin := .peer, uid := false, sport := none
      listen := listen .target "tcp" 8001
      traffic := .tcp 8001
      expectEnforce := .blocked
      expectEvent := none
      skip := none },
    { id := "priority-control-pass"
      group := .match, bundle := .priority, origin := .peer, uid := false, sport := none
      listen := listen .target "tcp" 8002
      traffic := .tcp 8002
      expectEnforce := .allowed
      expectEvent := none
      skip := none } ]

/-- Bundle provisioning order for `run-all` and `run-group`. -/
def bundleOrder : List Bundle :=
  [.ingressTuple, .defaultDeny, .defaultAllow, .egressTuple, .appDeny, .appAllow,
    .matchFields, .detection, .traffic, .priority]

/-- Look up a case by id. -/
def caseById (id : String) : Option FwCase :=
  allCases.find? (·.id == id)

/-- Every case's bundle is provisioned by some step of the order. -/
theorem bundle_mem_bundleOrder (bundle : Bundle) : bundle ∈ bundleOrder := by
  cases bundle <;> decide

theorem bundleOrder_nodup : bundleOrder.Nodup := by decide

/-- Case ids are unique. -/
theorem allCases_ids_nodup : (allCases.map (·.id)).Nodup := by decide +kernel

/-- Group names read back as the group. -/
theorem Group.parse_asStr (group : Group) : Group.parse group.asStr = .ok group := by
  cases group <;> rfl

end FwVerify
