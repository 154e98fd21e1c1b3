import FwVerify.Lib.LastMatch
import FwVerify.Lib.Records
import FwVerify.Model.Worker

/-!
# The rule language

What a firewall rule text means, as far as it is documented: one rule a line, numbered from
1; an ingress default, app policies and five-tuple rules; of the matching tuple rules the
last one decides, and where none does ingress falls to its default and egress passes. This is
the purpose of the texts the tool delivers, not a translation of a program.

Rules are generic in their address patterns and identity keys, so that a rule set can be
talked about before its addresses are known.

## Main definitions

* `Rule` — the three kinds of rules
* `readRules` — the rules of a text
* `ruling` — the rule that decides about a packet
* `appDenies` — whether the app policies deny a connect

## Main results

* `ruling_of_last` — the last matching tuple rule decides
* `ruling_map`, `appDenies_map` — the meaning of a rule set under a change of its addresses
-/

set_option autoImplicit false

namespace FwVerify

open Text Records LastMatch

/-! ## Rules -/

/-- What a rule says: `P` and `LP` permit, `LD` drops, `NLD` lets the first packet through. -/
inductive RuleAction
  | p | lp | ld | nld
  deriving DecidableEq, Repr

inductive Chain
  | localin | output
  deriving DecidableEq, Repr

/-- An address pattern: anything, or the addresses that share the first `bits` bits. -/
inductive AddrPattern
  | any
  | net (addr : Ipv4Addr) (bits : Nat)
  deriving DecidableEq, Repr

/-- A port pattern: anything, or a range with both ends. -/
inductive PortPattern
  | any
  | range (low high : UInt16)
  deriving DecidableEq, Repr

inductive ProtoPattern
  | any
  | only (proto : Proto)
  deriving DecidableEq, Repr

/-- A five-tuple rule over a type of address patterns. -/
structure TupleRule (α : Type) where
  sip : α
  dip : α
  sport : PortPattern
  dport : PortPattern
  proto : ProtoPattern
  action : RuleAction
  chain : Chain
  deriving DecidableEq, Repr

/-- A rule over a type of address patterns and a type of identity keys. -/
inductive Rule (α κ : Type)
  /-- The ingress default. -/
  | default (action : RuleAction)
  | app (key : κ) (action : RuleAction)
  | tuple (rule : TupleRule α)
  deriving DecidableEq, Repr

/-- Rename address patterns and keys. -/
def Rule.map {α β κ μ : Type} (addr : α → β) (key : κ → μ) : Rule α κ → Rule β μ
  | .default action => .default action
  | .app k action => .app (key k) action
  | .tuple rule => .tuple { rule with sip := addr rule.sip, dip := addr rule.dip }

/-! ## Reading a rule text -/

/-- Lines of `key=value` fields. -/
def ruleFormat : Format where
  line := '\n'
  field := ','
  value := '='
  field_ne_value := by decide
  line_ne_field := by decide
  line_ne_value := by decide

def RuleAction.parse : String → Option RuleAction
  | "P" => some .p
  | "LP" => some .lp
  | "LD" => some .ld
  | "NLD" => some .nld
  | _ => none

def Chain.parse : String → Option Chain
  | "localin" => some .localin
  | "output" => some .output
  | _ => none

/-- `*`, `a.b.c.d` or `a.b.c.d/n`. -/
def AddrPattern.parse (value : String) : Option AddrPattern :=
  if value = "*" then some .any
  else
    match splitOnce '/' value with
    | some (addr, bits) => do
      let addr ← Ipv4Addr.parse addr
      let bits ← parseUnsigned 33 bits
      return .net addr bits
    | none => (Ipv4Addr.parse value).map (.net · 32)

/-- `*`, a port or `lo-hi`. -/
def PortPattern.parse (value : String) : Option PortPattern :=
  if value = "*" then some .any
  else
    match splitOnce '-' value with
    | some (low, high) => do return .range (← parseU16 low) (← parseU16 high)
    | none => (parseU16 value).map fun port => .range port port

/-- `*` or a protocol. -/
def ProtoPattern.parse (value : String) : Option ProtoPattern :=
  if value = "*" then some .any else (Proto.parse value).map .only

/-- Read a field with `parse`; an absent one matches anything. -/
def readPattern {π : Type} (any : π) (parse : String → Option π) (record : Record)
    (key : String) : Option π :=
  match record.lookup key with
  | none => some any
  | some value => parse value

/-- The keys a rule may have. -/
def ruleKeys : List String :=
  ["chain", "action", "prog", "sip", "dip", "sport", "dport", "proto"]

/-- The rule of a line. A `prog` field makes an app policy; a line of nothing but
`chain=localin` and an action is the ingress default. -/
def readRule (record : Record) : Option (Rule AddrPattern String) := do
  guard (record.all fun field => ruleKeys.contains field.1)
  let action ← (record.lookup "action").bind RuleAction.parse
  match record.lookup "prog" with
  | some key => return .app key action
  | none =>
    let chain ← (record.lookup "chain").bind Chain.parse
    -- nothing but the chain and the action
    if chain = .localin ∧ record.length = 2 then
      return .default action
    return .tuple {
      sip := ← readPattern .any AddrPattern.parse record "sip"
      dip := ← readPattern .any AddrPattern.parse record "dip"
      sport := ← readPattern .any PortPattern.parse record "sport"
      dport := ← readPattern .any PortPattern.parse record "dport"
      proto := ← readPattern .any ProtoPattern.parse record "proto"
      action, chain }

/-- The rules of a text, in the order of their lines. -/
def readRules (text : String) : Option (List (Rule AddrPattern String)) := do
  (← read ruleFormat text).mapM readRule

/-! ## Meaning -/

/-- Whether an address is in the pattern. -/
def AddrPattern.matches : AddrPattern → Ipv4Addr → Bool
  | .any, _ => true
  | .net addr bits, ip => addr.toU32 / 2 ^ (32 - bits) == ip.toU32 / 2 ^ (32 - bits)

/-- Whether a port is in the pattern; a packet without ports is in the unbounded one only. -/
def PortPattern.matches : PortPattern → Option UInt16 → Bool
  | .any, _ => true
  | .range low high, some port => decide (low ≤ port) && decide (port ≤ high)
  | .range .., none => false

def ProtoPattern.matches : ProtoPattern → Proto → Bool
  | .any, _ => true
  | .only proto, other => proto == other

/-- A packet apart from its addresses. -/
structure Packet where
  chain : Chain
  proto : Proto
  sport : Option UInt16
  dport : Option UInt16
  deriving DecidableEq, Repr

section Meaning

variable {α β κ μ : Type}

/-- Whether a tuple rule matches a packet; `addr` tests its two address patterns. -/
def TupleRule.matches (addr : α → α → Bool) (packet : Packet) (rule : TupleRule α) : Bool :=
  rule.chain == packet.chain && rule.proto.matches packet.proto &&
    rule.dport.matches packet.dport && rule.sport.matches packet.sport && addr rule.sip rule.dip

/-- What decides about a packet: a line, if it is one, and the action. -/
structure Ruling where
  line : Option Nat
  action : RuleAction
  deriving DecidableEq, Repr

/-- Whether a rule is a tuple rule that matches. -/
def Rule.isMatch (addr : α → α → Bool) (packet : Packet) : Rule α κ → Bool
  | .tuple rule => rule.matches addr packet
  | _ => false

def Rule.isDefault : Rule α κ → Bool
  | .default _ => true
  | _ => false

/-- Whether a rule is an app policy of one of the keys. -/
def Rule.isApp (mine : κ → Bool) : Rule α κ → Bool
  | .app key _ => mine key
  | _ => false

def Rule.action : Rule α κ → RuleAction
  | .default action => action
  | .app _ action => action
  | .tuple rule => rule.action

/-- The rule that decides about a packet: the last matching tuple rule, else the ingress
default; egress passes. Ingress without a default line is not documented: `undocumented`
stands for what happens there. -/
def ruling (undocumented : RuleAction) (addr : α → α → Bool) (packet : Packet)
    (rules : List (Rule α κ)) : Ruling :=
  match lastMatch (Rule.isMatch addr packet) rules with
  | some (line, rule) => ⟨some line, rule.action⟩
  | none =>
    match packet.chain with
    -- egress has no default line
    | .output => ⟨none, .p⟩
    | .localin =>
      match lastMatch Rule.isDefault rules with
      | some (line, rule) => ⟨some line, rule.action⟩
      | none => ⟨none, undocumented⟩

/-- Whether the app policies deny the connects of a process with one of the keys. -/
def appDenies (mine : κ → Bool) (rules : List (Rule α κ)) : Bool :=
  match lastMatch (Rule.isApp mine) rules with
  | some (_, rule) => rule.action == .ld
  | none => false

/-- A matching tuple rule decides, under its line number, when no later one matches. -/
theorem ruling_of_last {undocumented : RuleAction} {addr : α → α → Bool} {packet : Packet}
    {rules : List (Rule α κ)} {k : Nat} {rule : TupleRule α} (hat : rules[k]? = some (.tuple rule))
    (hmatch : rule.matches addr packet = true)
    (hlater : ∀ m later, k < m → rules[m]? = some (.tuple later) →
      later.matches addr packet = false) :
    ruling undocumented addr packet rules = ⟨some (k + 1), rule.action⟩ := by
  have hfound : lastMatch (Rule.isMatch addr packet) rules = some (k + 1, .tuple rule) := by
    refine lastMatch_of_getElem? hat hmatch fun m later hm hlater' => ?_
    cases later with
    | tuple later => exact hlater m later hm hlater'
    | default action => rfl
    | app key action => rfl
  rw [ruling, hfound]
  rfl

@[simp] theorem Rule.action_map (f : α → β) (g : κ → μ) (rule : Rule α κ) :
    (rule.map f g).action = rule.action := by
  cases rule <;> rfl

/-- The ruling over renamed address patterns. -/
theorem ruling_map (undocumented : RuleAction) (addr : β → β → Bool) (packet : Packet)
    (f : α → β) (g : κ → μ) (rules : List (Rule α κ)) :
    ruling undocumented addr packet (rules.map (Rule.map f g)) =
      ruling undocumented (fun sip dip => addr (f sip) (f dip)) packet rules := by
  have hmatch : Rule.isMatch addr packet ∘ Rule.map f g =
      Rule.isMatch (κ := κ) (fun sip dip => addr (f sip) (f dip)) packet := by
    funext rule
    cases rule <;> rfl
  have hdefault : Rule.isDefault ∘ Rule.map f g = Rule.isDefault (α := α) (κ := κ) := by
    funext rule
    cases rule <;> rfl
  simp only [ruling, lastMatch_map, hmatch, hdefault]
  cases lastMatch (Rule.isMatch (fun sip dip => addr (f sip) (f dip)) packet) rules with
  | some found => simp
  | none =>
    cases packet.chain with
    | output => rfl
    | localin => cases lastMatch Rule.isDefault rules <;> simp

/-- The app policies over renamed keys. -/
theorem appDenies_map (mine : μ → Bool) (f : α → β) (g : κ → μ) (rules : List (Rule α κ)) :
    appDenies mine (rules.map (Rule.map f g)) = appDenies (mine ∘ g) rules := by
  have happ : Rule.isApp mine ∘ Rule.map f g = Rule.isApp (α := α) (mine ∘ g) := by
    funext rule
    cases rule <;> rfl
  simp only [appDenies, lastMatch_map, happ]
  cases lastMatch (Rule.isApp (mine ∘ g)) rules <;> simp

/-- Rulings agree when the address tests agree on the rules of the packet's chain. -/
theorem ruling_congr {undocumented : RuleAction} {addr addr' : α → α → Bool} {packet : Packet}
    {rules : List (Rule α κ)}
    (h : ∀ rule, .tuple rule ∈ rules → rule.chain = packet.chain →
      addr rule.sip rule.dip = addr' rule.sip rule.dip) :
    ruling undocumented addr packet rules = ruling undocumented addr' packet rules := by
  have hmatch : ∀ rule ∈ rules, rule.isMatch addr packet = rule.isMatch addr' packet := by
    intro rule hrule
    cases rule with
    | tuple rule =>
      by_cases hchain : rule.chain = packet.chain
      · simp only [Rule.isMatch, TupleRule.matches, h rule hrule hchain]
      · -- a rule of the other chain matches under neither test
        have hother : (rule.chain == packet.chain) = false := beq_eq_false_iff_ne.mpr hchain
        simp only [Rule.isMatch, TupleRule.matches, hother, Bool.false_and]
    | default action => rfl
    | app key action => rfl
  rw [ruling, ruling, lastMatch_congr hmatch]

end Meaning

end FwVerify
