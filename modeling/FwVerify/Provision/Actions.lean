import FwVerify.Model.RuleSync

/-!
# What an action can do

The step function of the system, said once as a relation with a constructor for each way an
action can go, its guards included. What an action preserves is shown by cases on it.

## Main definitions

* `System.Steps` — one action from one state to the next

## Main results

* `System.step_iff` — the relation is the step function
-/

set_option autoImplicit false

namespace FwVerify

namespace System

variable {s t : System} {a : Action}

/-- What one action can do, guards included. -/
inductive Steps (s : System) : Action → System → Prop
  | read {ruleSet : RuleSet} (depot : s.depot = some ruleSet) :
      Steps s .read { s with reads := ruleSet :: s.reads }
  | load {ruleSet : RuleSet} (mem : ruleSet ∈ s.reads) (exceeds : s.exceeds ruleSet = true) :
      Steps s (.load ruleSet)
        { s with loaded := some ruleSet, reads := s.reads.erase ruleSet }
  | sync {ruleSet : RuleSet} (mode : s.mode = .host) (mem : ruleSet ∈ s.upserted) :
      Steps s (.sync ruleSet)
        { s with depot := some ruleSet, upserted := s.upserted.erase ruleSet }
  | start {text : String}
      (free : s.call = .idle ∨ ∃ text ver steps, s.call = .returned text ver steps) :
      Steps s (.start text) { s with call := .started text }
  | query {text : String} {answers : Bool} (mode : s.mode = .android)
      (call : s.call = .started text) :
      Steps s (.query answers) { s with call := .queried text (s.snapshot answers) }
  | write {text : String} {health : Option Value} {out : Value} (mode : s.mode = .android)
      (call : s.call = .queried text health) (key : requireKeyPresent out = .ok ()) :
      Steps s (.write (.ok out)) { s with
        depot := some ⟨depotVer (nextVer health), text⟩
        call := .waiting text (nextVer health) ⟨health, .ok out, .error "not in this mode"⟩ [] }
  /-- Without a runtime key the rule is in the depot and the call fails all the same. -/
  | keyless {text error : String} {health : Option Value} {out : Value} (mode : s.mode = .android)
      (call : s.call = .queried text health) (key : requireKeyPresent out = .error error) :
      Steps s (.write (.ok out)) { s with
        depot := some ⟨depotVer (nextVer health), text⟩, call := .idle }
  | writeFails {text error : String} {health : Option Value} (mode : s.mode = .android)
      (call : s.call = .queried text health) :
      Steps s (.write (.error error)) { s with call := .idle }
  | upsert {text : String} {ver : Int64} (mode : s.mode = .host) (call : s.call = .started text) :
      Steps s (.upsert ver) { s with
        upserted := ⟨ver, text⟩ :: s.upserted
        call := .waiting text ver ⟨none, .error "not in this mode", .ok ver⟩ [] }
  | upsertFails {text : String} {accepted : Option Int64} (mode : s.mode = .host)
      (call : s.call = .started text) :
      Steps s (.upsertFails accepted) { s with
        upserted := (accepted.map (⟨·, text⟩)).toList ++ s.upserted, call := .idle }
  | reach {text : String} {ver : Int64} {delivery : Delivery} {seen : List (Option Value)}
      {answers expired : Bool} (call : s.call = .waiting text ver delivery seen)
      (reach : reaches "firewall_rule_ver" ver (s.snapshot answers) = true) :
      Steps s (.poll answers expired) { s with
        call := .reached text ver ⟨delivery, pollsOf seen (s.snapshot answers)⟩ }
  | expire {text : String} {ver : Int64} {delivery : Delivery} {seen : List (Option Value)}
      {answers : Bool} (call : s.call = .waiting text ver delivery seen)
      (miss : reaches "firewall_rule_ver" ver (s.snapshot answers) = false) :
      Steps s (.poll answers true) { s with call := .idle }
  | again {text : String} {ver : Int64} {delivery : Delivery} {seen : List (Option Value)}
      {answers : Bool} (call : s.call = .waiting text ver delivery seen)
      (miss : reaches "firewall_rule_ver" ver (s.snapshot answers) = false) :
      Steps s (.poll answers false) { s with
        call := .waiting text ver delivery (seen ++ [s.snapshot answers]) }
  | ret {text : String} {ver : Int64} {steps : ProvisionSteps}
      (call : s.call = .reached text ver steps) :
      Steps s .ret { s with call := .returned text ver steps }

/-- Every case of the relation is a step. -/
theorem Steps.step_eq (h : s.Steps a t) : s.step a = some t := by
  cases h with
  | read depot => simp [step, depot]
  | load mem exceeds => simp [step, mem, exceeds]
  | sync mode mem => simp [step, mode, mem]
  | start free => rcases free with call | ⟨_, _, _, call⟩ <;> simp [step, call]
  | query mode call => simp [step, mode, call]
  | write mode call key => simp [step, writeRule, mode, call, writeDepotRule, key]
  | keyless mode call key => simp [step, writeRule, mode, call, writeDepotRule, key]
  | writeFails mode call => simp [step, writeRule, mode, call, writeDepotRule]
  | upsert mode call => simp [step, mode, call]
  | upsertFails mode call => simp [step, mode, call]
  | reach call reach => simp [step, pollRound, call, reach]
  | expire call miss => simp [step, pollRound, call, miss]
  | again call miss => simp [step, pollRound, call, miss]
  | ret call => simp [step, call]

/-- Every step is a case of the relation. -/
theorem Steps.of_step (h : s.step a = some t) : s.Steps a t := by
  cases a with
  | read =>
    obtain ⟨ruleSet, depot, rfl⟩ := Option.map_eq_some_iff.mp h
    exact .read depot
  | load ruleSet =>
    simp only [step, Option.ite_none_right_eq_some, Option.some.injEq] at h
    obtain ⟨⟨mem, exceeds⟩, rfl⟩ := h
    exact .load mem exceeds
  | sync ruleSet =>
    simp only [step, Option.ite_none_right_eq_some, Option.some.injEq] at h
    obtain ⟨⟨mode, mem⟩, rfl⟩ := h
    exact .sync mode mem
  | start text =>
    simp only [step] at h
    split at h <;> cases h
    · next call => exact .start (.inl call)
    · next call => exact .start (.inr ⟨_, _, _, call⟩)
  | query answers =>
    simp only [step] at h
    split at h <;> cases h
    next mode call => exact .query mode call
  | write out =>
    simp only [step, writeRule] at h
    split at h
    · next text health mode call =>
      cases out with
      | error error =>
        obtain rfl := by simpa [writeDepotRule] using h
        exact .writeFails mode call
      | ok out =>
        cases key : requireKeyPresent out with
        | ok =>
          obtain rfl := by simpa [writeDepotRule, key] using h
          exact .write mode call key
        | error error =>
          obtain rfl := by simpa [writeDepotRule, key] using h
          exact .keyless mode call key
    · cases h
  | upsert ver =>
    simp only [step] at h
    split at h <;> cases h
    next mode call => exact .upsert mode call
  | upsertFails accepted =>
    simp only [step] at h
    split at h <;> cases h
    next mode call => exact .upsertFails mode call
  | poll answers expired =>
    simp only [step, pollRound] at h
    split at h
    · next call =>
      split_ifs at h with reach hexpired
      · cases h
        exact .reach call reach
      · cases h
        subst hexpired
        exact .expire call (by simpa using reach)
      · cases h
        obtain rfl : expired = false := by simpa using hexpired
        exact .again call (by simpa using reach)
    · cases h
  | ret =>
    simp only [step] at h
    split at h <;> cases h
    next call => exact .ret call

theorem step_iff : s.step a = some t ↔ s.Steps a t := ⟨.of_step, Steps.step_eq⟩

end System

end FwVerify
