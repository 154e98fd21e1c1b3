import FwVerify.Lib.Runs
import FwVerify.Model.Provision

/-!
# Provisioning beside a running idps-fw

The tool's calls of `provision_firewall`, one after the other, interleaved with idps-fw: it
reads the depot at any time and later loads what it read if the version is above the loaded
one. In host mode VSOC and idps-server put what was upserted into the depot at some later
time. Health snapshots show the loaded version whenever a query succeeds.

## Main definitions

* `System` — idps-fw, the depot, and where the tool stands in its call
* `System.step` — one action of any party
-/

set_option autoImplicit false

namespace FwVerify

open Polling

/-- A rule set under its version. -/
structure RuleSet where
  ver : Int64
  text : String
  deriving DecidableEq

/-- Where the tool stands, with the answers its call has had. -/
inductive CallState
  | idle
  | started (text : String)
  | queried (text : String) (health : Option Value)
  | waiting (text : String) (ver : Int64) (delivery : Delivery) (seen : List (Option Value))
  | reached (text : String) (ver : Int64) (steps : ProvisionSteps)
  | returned (text : String) (ver : Int64) (steps : ProvisionSteps)

/-- The parties. -/
structure System where
  mode : Mode
  loaded : Option RuleSet
  /-- Read from the depot by idps-fw and not loaded yet. -/
  reads : List RuleSet
  depot : Option RuleSet
  /-- Accepted by VSOC and not in the depot yet. -/
  upserted : List RuleSet
  call : CallState

/-- One action. -/
inductive Action
  -- idps-fw and idps-server
  | read
  | load (ruleSet : RuleSet)
  | sync (ruleSet : RuleSet)
  -- the tool
  | start (text : String)
  | query (answers : Bool)
  | write (out : Except String Value)
  | upsert (ver : Int64)
  /-- VSOC fails, or accepts under a version and its answer is lost. -/
  | upsertFails (accepted : Option Int64)
  | poll (answers expired : Bool)
  | ret

namespace System

/-- The version is above the loaded one. -/
def exceeds (s : System) (ruleSet : RuleSet) : Bool :=
  match s.loaded with
  | none => true
  | some current => decide (current.ver < ruleSet.ver)

/-- The health snapshot of idps-fw. -/
def health (s : System) : Value :=
  match s.loaded with
  | none => .object []
  | some current => .object [("firewall_rule_ver", .ofInt64 current.ver)]

/-- What a health query returns. -/
def snapshot (s : System) (answers : Bool) : Option Value :=
  if answers then some s.health else none

/-- The polls of a loop that ends with `last`. -/
def pollsOf (seen : List (Option Value)) (last : Option Value) : Polls (Option Value) :=
  match seen with
  | [] => ⟨last, []⟩
  | first :: later => ⟨first, later ++ [last]⟩

/-- One round of the waiting loop: the deadline counts only when the version is not there. -/
def pollRound (s : System) (answers expired : Bool) : Option System :=
  match s.call with
  | .waiting text ver delivery seen =>
    let last := s.snapshot answers
    if reaches "firewall_rule_ver" ver last then
      some { s with
        call := .reached text ver { toDelivery := delivery, polls := pollsOf seen last } }
    else if expired then some { s with call := .idle }
    else some { s with call := .waiting text ver delivery (seen ++ [last]) }
  | _ => none

/-- The depot write of a call; a write without a runtime key stores the rule all the same. -/
def writeRule (s : System) (out : Except String Value) : Option System :=
  match s.mode, s.call with
  | .android, .queried text health =>
    let ver := nextVer health
    -- the depot gets less of the version than the call waits for
    let depot := match out with
      | .ok _ => some ⟨depotVer ver, text⟩
      | .error _ => s.depot
    match writeDepotRule out with
    | .ok () => some { s with
        depot, call := .waiting text ver ⟨health, out, .error "not in this mode"⟩ [] }
    | .error _ => some { s with depot, call := .idle }
  | _, _ => none

/-- The system after an action, if it is possible. -/
def step (s : System) : Action → Option System
  | .read => s.depot.map fun ruleSet => { s with reads := ruleSet :: s.reads }
  | .load ruleSet =>
    if ruleSet ∈ s.reads ∧ s.exceeds ruleSet then
      some { s with loaded := some ruleSet, reads := s.reads.erase ruleSet }
    else none
  | .sync ruleSet =>
    if s.mode = .host ∧ ruleSet ∈ s.upserted then
      some { s with depot := some ruleSet, upserted := s.upserted.erase ruleSet }
    else none
  | .start text =>
    match s.call with
    | .idle | .returned .. => some { s with call := .started text }
    | _ => none
  | .query answers =>
    match s.mode, s.call with
    | .android, .started text => some { s with call := .queried text (s.snapshot answers) }
    | _, _ => none
  | .write out => s.writeRule out
  | .upsert ver =>
    match s.mode, s.call with
    | .host, .started text => some { s with
        upserted := ⟨ver, text⟩ :: s.upserted
        call := .waiting text ver ⟨none, .error "not in this mode", .ok ver⟩ [] }
    | _, _ => none
  | .upsertFails accepted =>
    match s.mode, s.call with
    | .host, .started text => some { s with
        upserted := (accepted.map (⟨·, text⟩)).toList ++ s.upserted
        call := .idle }
    | _, _ => none
  | .poll answers expired => s.pollRound answers expired
  | .ret =>
    match s.call with
    | .reached text ver steps => some { s with call := .returned text ver steps }
    | _ => none

end System

end FwVerify
