import FwVerify.Model.Depot
import Mathlib.Algebra.Group.Int.Defs

/-!
# What a depot write leaves behind

A depot write either fails before its save, and leaves the depot alone, or saves the rule.
The runtime key is only looked at after the save, so a write that is refused for want of a key
has stored its rule all the same. Versions are computed in 64 bits and stored in 32.

## Main results

* `Depot.writeDepotRule_cases` — how a write ends, and the depot it leaves
* `rejected_write_untouched_iff` — when a refused write leaves the depot untouched
* `versions_kept_iff` — when the stored version is the computed one and above the previous one
-/

set_option autoImplicit false

namespace FwVerify

open Fallible Polling

/-- Every step up to the save succeeds, and the save too. -/
structure DepotSteps.Saves (steps : DepotSteps) : Prop where
  loadConfig : ∃ path, steps.loadConfig = .ok path
  deviceInfo : steps.deviceInfo = .ok ()
  openKeystore : steps.openKeystore = .ok ()
  resolveKeys : ∃ key, steps.resolveKeys = .ok key
  openDepot : steps.openDepot = .ok ()
  save : steps.save = .ok ()

/-- The metadata a call finds under a key. -/
def Depot.previous (s : Depot) (reads : Bool) (key : RuleKey) : RuleMetadata :=
  (if reads then (s.rules key).map (·.metadata) else none).getD .default

/-- The rule a call would store. -/
def Depot.pendingRule (s : Depot) (sha256Hex : List UInt8 → String) (key : RuleKey)
    (ver : Option Int32) (bytes : List UInt8) (reads : Bool) : StoredRule :=
  ⟨bytes, nextMetadata sha256Hex key.2.2 ver bytes (s.previous reads key)⟩

section Writes

variable (sha256Hex : List UInt8 → String) (steps : DepotSteps) (s : Depot)

/-- A call stops with an error and the depot as it was, or stores its rule and says whether
there was a key. -/
theorem provisionRule_cases (acd fun_ protVer : Int32) (ver : Option Int32)
    (bytes : List UInt8) (configPath keystorePath : String) :
    (¬ steps.Saves ∧ ∃ error,
      exec (provisionRule sha256Hex acd fun_ protVer ver bytes configPath keystorePath steps) s =
        (.error error, s)) ∨
    (steps.Saves ∧ ∃ key out, steps.resolveKeys = .ok key ∧
      out.get "key_present" = some (.bool key.isSome) ∧
      exec (provisionRule sha256Hex acd fun_ protVer ver bytes configPath keystorePath steps) s =
        (.ok out, s.store (acd, fun_, max protVer 1)
          (s.pendingRule sha256Hex (acd, fun_, max protVer 1) ver bytes steps.metadataReads))) := by
  rw [provisionRule]
  rcases exec_check_bind s (Fallible.context _ steps.loadConfig) _ with
    ⟨error, hfail, hrun⟩ | ⟨path, hconfig, hrun⟩
  · refine .inl ⟨fun ⟨⟨path, h⟩, _, _, _, _, _⟩ => hfail path (context_eq_ok.mpr h), error, hrun⟩
  rw [hrun]
  rcases exec_check_bind s (Fallible.context _ steps.deviceInfo) _ with
    ⟨error, hfail, hrun⟩ | ⟨_, hdevice, hrun⟩
  · refine .inl ⟨fun ⟨_, h, _, _, _, _⟩ => hfail () (context_eq_ok.mpr h), error, hrun⟩
  rw [hrun]
  rcases exec_check_bind s (Fallible.context _ steps.openKeystore) _ with
    ⟨error, hfail, hrun⟩ | ⟨_, hkeystore, hrun⟩
  · refine .inl ⟨fun ⟨_, _, h, _, _, _⟩ => hfail () (context_eq_ok.mpr h), error, hrun⟩
  rw [hrun]
  rcases exec_check_bind s (Fallible.context _ steps.resolveKeys) _ with
    ⟨error, hfail, hrun⟩ | ⟨key, hkeys, hrun⟩
  · refine .inl ⟨fun ⟨_, _, _, ⟨key, h⟩, _, _⟩ => hfail key (context_eq_ok.mpr h), error, hrun⟩
  rw [hrun]
  rcases exec_check_bind s (Fallible.context _ steps.openDepot) _ with
    ⟨error, hfail, hrun⟩ | ⟨_, hdepot, hrun⟩
  · refine .inl ⟨fun ⟨_, _, _, _, h, _⟩ => hfail () (context_eq_ok.mpr h), error, hrun⟩
  rw [hrun]
  -- reading the metadata changes nothing; only the save is left
  simp only [loadMetadata, saveRule, exec_bind, exec_get, exec_pure, exec_withContext, exec_check]
  rcases hsave : steps.save with error | _
  · exact .inl ⟨fun h => by simpa [hsave] using h.save, s!"failed to write depot rule: {error}",
      rfl⟩
  · refine .inr ⟨⟨⟨path, context_eq_ok.mp hconfig⟩, context_eq_ok.mp hdevice,
      context_eq_ok.mp hkeystore, ⟨key, context_eq_ok.mp hkeys⟩, context_eq_ok.mp hdepot, hsave⟩,
      key, _, context_eq_ok.mp hkeys, ?_, rfl⟩
    rfl

/-- A document that denies the key is refused, one that confirms it is not. -/
theorem requireKeyPresent_missing {out : Value}
    (hkey : out.get "key_present" = some (.bool false)) :
    ∃ error, requireKeyPresent out = .error error := by
  rw [requireKeyPresent, hkey]
  exact ⟨_, rfl⟩

theorem requireKeyPresent_present {out : Value}
    (hkey : out.get "key_present" = some (.bool true)) : requireKeyPresent out = .ok () := by
  rw [requireKeyPresent, hkey]
  rfl

/-- The rule a depot write of the orchestrator would store. -/
def Depot.pendingWrite (s : Depot) (sha256Hex : List UInt8 → String) (cfg : RunConfig)
    (fun_ : Int32) (ver : Int64) (text : String) (reads : Bool) : StoredRule :=
  s.pendingRule sha256Hex (cfg.acd, fun_, 1) (some ver.toInt32) (ruleBytes text) reads

/-- A write stops before its save and leaves the depot as it was, or stores its rule; without
a runtime key it is refused after that. -/
theorem Depot.writeDepotRule_cases (cfg : RunConfig) (fun_ : Int32) (ver : Int64)
    (text : String) :
    let stored := s.store (cfg.acd, fun_, 1)
      (s.pendingWrite sha256Hex cfg fun_ ver text steps.metadataReads)
    (¬ steps.Saves ∧ ∃ error,
      exec (writeDepotRule sha256Hex cfg fun_ ver text steps) s = (.error error, s)) ∨
    (steps.Saves ∧ steps.resolveKeys = .ok none ∧ ∃ error,
      exec (writeDepotRule sha256Hex cfg fun_ ver text steps) s = (.error error, stored)) ∨
    (steps.Saves ∧ (∃ key, steps.resolveKeys = .ok (some key)) ∧
      exec (writeDepotRule sha256Hex cfg fun_ ver text steps) s = (.ok (), stored)) := by
  intro stored
  rw [writeDepotRule, exec_bind, exec_withContext]
  rcases provisionRule_cases sha256Hex steps s cfg.acd fun_ 1 (some ver.toInt32)
    (ruleBytes text) defaultConfig defaultKeystore with
    ⟨hstops, error, hrun⟩ | ⟨hsaves, key, out, hkeys, hpresent, hrun⟩
  · rw [hrun, context_error]
    exact .inl ⟨hstops, _, rfl⟩
  · rw [hrun, context_ok]
    dsimp only
    rw [exec_check]
    right
    cases key with
    | none =>
      obtain ⟨error, hrefused⟩ := requireKeyPresent_missing hpresent
      rw [hrefused]
      exact .inl ⟨hsaves, hkeys, error, rfl⟩
    | some key =>
      rw [requireKeyPresent_present hpresent]
      exact .inr ⟨hsaves, ⟨key, hkeys⟩, rfl⟩

theorem Depot.store_rules_eq_iff {s : Depot} {key : RuleKey} {rule : StoredRule} :
    (s.store key rule).rules = s.rules ↔ s.rules key = some rule := by
  rw [store, Function.update_eq_self_iff, eq_comm]

/-- A depot write that ends with an error leaves the depot as it was, exactly unless every
step succeeds, the save included, with no runtime key, and the depot did not hold just that
rule before. -/
theorem rejected_write_untouched_iff (cfg : RunConfig) (fun_ : Int32) (ver : Int64)
    (text : String) :
    ((∃ error, (exec (Depot.writeDepotRule sha256Hex cfg fun_ ver text steps) s).1 =
        .error error) →
      (exec (Depot.writeDepotRule sha256Hex cfg fun_ ver text steps) s).2.rules = s.rules) ↔
    ¬ (steps.Saves ∧ steps.resolveKeys = .ok none ∧
      s.rules (cfg.acd, fun_, 1) ≠
        some (s.pendingWrite sha256Hex cfg fun_ ver text steps.metadataReads)) := by
  rcases Depot.writeDepotRule_cases sha256Hex steps s cfg fun_ ver text with
    ⟨hstops, error, hrun⟩ | ⟨hsaves, hkeys, error, hrun⟩ | ⟨hsaves, ⟨key, hkeys⟩, hrun⟩
  · rw [hrun]
    exact iff_of_true (fun _ => rfl) fun h => hstops h.1
  · rw [hrun]
    simp only [Depot.store_rules_eq_iff, hsaves, hkeys, true_and, not_not, Except.error.injEq,
      exists_eq', forall_const]
  · rw [hrun]
    refine iff_of_true (fun ⟨error, h⟩ => nomatch h) fun ⟨_, hnone, _⟩ => ?_
    rw [hkeys] at hnone
    cases hnone

end Writes

/-! ## A refused rule in the depot -/

/-- A bench device in Android mode. -/
def benchConfig : RunConfig where
  mode := .android
  target := .local
  peer := .netns "fwpeer"
  peerIface := "fwp0"
  targetIp := .v4 ⟨10, 123, 0, 1⟩
  peerIp := .v4 ⟨10, 123, 0, 2⟩
  acd := 1
  funFw := 1
  funTraffic := 4
  reloadTimeoutSecs := 30
  eventSettleMs := 1500
  reportConfirm := .local
  vsoc := none
  idpsFw := "idps-fw"
  stateDb := "/data/idd/idps-fw/state.sqlite3"
  appUid := 2000
  appIdentityKey := "com.demo.browser"

/-- Every step succeeds, and the keystore resolves `key`. -/
def DepotSteps.succeeding (key : Option String) : DepotSteps where
  loadConfig := .ok "/data/idd/rule/depot"
  deviceInfo := .ok ()
  openKeystore := .ok ()
  resolveKeys := .ok key
  openDepot := .ok ()
  metadataReads := true
  save := .ok ()

theorem DepotSteps.succeeding_saves (key : Option String) : (succeeding key).Saves :=
  ⟨⟨_, rfl⟩, rfl, rfl, ⟨_, rfl⟩, rfl, rfl⟩

/-- A depot without rules. -/
def Depot.empty : Depot := ⟨fun _ => none, []⟩

/-- Without a runtime key the write into an empty depot is refused, and the rule is in the
depot. -/
theorem rejected_write_stores :
    ¬ ∀ (sha256Hex : List UInt8 → String) (cfg : RunConfig) (fun_ : Int32) (ver : Int64)
      (text : String) (steps : DepotSteps) (s : Depot),
      (∃ error, (exec (Depot.writeDepotRule sha256Hex cfg fun_ ver text steps) s).1 =
        .error error) →
      (exec (Depot.writeDepotRule sha256Hex cfg fun_ ver text steps) s).2.rules = s.rules := by
  intro huntouched
  have hrules := huntouched (fun _ => "") benchConfig 1 1 "chain=localin,action=D\n"
    (.succeeding none) .empty
  rcases Depot.writeDepotRule_cases (fun _ => "") (.succeeding none) .empty benchConfig 1 1
    "chain=localin,action=D\n" with
    ⟨hstops, _⟩ | ⟨_, _, error, hrun⟩ | ⟨_, ⟨key, hkey⟩, _⟩
  · exact hstops (DepotSteps.succeeding_saves none)
  · rw [hrun] at hrules
    have hheld := Depot.store_rules_eq_iff.mp (hrules ⟨error, rfl⟩)
    cases hheld
  · cases hkey

/-! ## Versions -/

section Versions

/-- The version after a reported one, in 64 bits. -/
theorem toInt_targetVer {before : Int64} (hmax : before.toInt < 2 ^ 63 - 1) :
    (targetVer before).toInt = max before.toInt 0 + 1 := by
  have hge := before.le_toInt
  rw [targetVer, Int64.toInt_add]
  by_cases hneg : before ≤ 0
  · have hle : before.toInt ≤ 0 := Int64.le_iff_toInt_le.mp hneg
    have hzero : max before 0 = 0 := if_pos hneg
    rw [hzero, max_eq_right hle]
    rfl
  · have hpos : ¬ before.toInt ≤ 0 := fun h => hneg (Int64.le_iff_toInt_le.mpr h)
    have hself : max before 0 = before := if_neg hneg
    rw [hself, max_eq_left (by omega)]
    change (before.toInt + 1).bmod (2 ^ 64) = _
    rw [Int.bmod_def]
    split_ifs <;> omega

/-- The low 32 bits of a computed version are that version exactly below `i32::MAX`. -/
theorem targetVer_faithful_iff (before : Int64) :
    (targetVer before).toInt32.toInt = (targetVer before).toInt ∧
      (targetVer before).toInt = max before.toInt 0 + 1 ↔
    before.toInt ≤ 2 ^ 31 - 2 := by
  have hlt := before.toInt_lt
  rw [Int64.toInt_toInt32]
  by_cases hmax : before.toInt < 2 ^ 63 - 1
  · rw [toInt_targetVer hmax, Int.bmod_def]
    constructor
    · rintro ⟨hfaithful, -⟩
      split_ifs at hfaithful <;> omega
    · intro hsmall
      refine ⟨?_, rfl⟩
      split_ifs <;> omega
  · -- the increment wraps around
    have hwrap : before = Int64.maxValue := by
      apply Int64.toInt_inj.mp
      change before.toInt = 2 ^ 63 - 1
      omega
    subst hwrap
    decide

/-- A call that computed `ver` after the reported version `current` fails without writing, or
stores one rule under just that version, one past the current one. -/
def VersionKept {α : Type} (current : Option Int64) (ver : Int64) (s : Depot)
    (run : Except String α × Depot) : Prop :=
  (∃ error, run = (.error error, s)) ∨
  ∃ key rule, run.2.log = s.log ++ [(key, rule)] ∧
    rule.metadata.ver.toInt = ver.toInt ∧
    ver.toInt = max (current.getD (-1)).toInt 0 + 1 ∧
    ∀ c, current = some c → c.toInt < rule.metadata.ver.toInt

/-- A call stops with the depot as it was, or stores the rule, exactly as its steps go. -/
def Stores {α : Type} (steps : DepotSteps) (s : Depot) (key : RuleKey) (rule : StoredRule)
    (run : Except String α × Depot) : Prop :=
  ¬ steps.Saves ∧ (∃ error, run = (.error error, s)) ∨ steps.Saves ∧ run.2 = s.store key rule

theorem Depot.store_log_inj {s t : Depot} {key key' : RuleKey} {rule rule' : StoredRule}
    (hstored : t = s.store key rule) (hlog : t.log = s.log ++ [(key', rule')]) :
    rule' = rule := by
  rw [hstored] at hlog
  have hsaved := List.append_cancel_left hlog
  exact (Prod.mk.inj (List.singleton_inj.mp hsaved)).2.symm

theorem Depot.store_ne (s : Depot) (key : RuleKey) (rule : StoredRule) :
    s.store key rule ≠ s := by
  intro hsame
  have hlog := congrArg (·.log.length) hsame
  simp [store] at hlog

variable {steps : DepotSteps} {s : Depot} {key : RuleKey} {rule : StoredRule}

/-- The version is kept exactly while the reported one leaves room below `i32::MAX`. -/
theorem versionKept_iff {α : Type} {run : Except String α × Depot} {current : Option Int64}
    {ver : Int64} (hver : ver = targetVer (current.getD (-1)))
    (hrule : rule.metadata.ver = ver.toInt32) (hrun : Stores steps s key rule run) :
    VersionKept current ver s run ↔
      (steps.Saves → ∀ c, current = some c → c.toInt ≤ 2 ^ 31 - 2) := by
  subst hver
  have hfaithful := targetVer_faithful_iff (current.getD (-1))
  rcases hrun with ⟨hstops, herror⟩ | ⟨hsaves, hstored⟩
  · exact iff_of_true (.inl herror) fun hsaves => absurd hsaves hstops
  constructor
  · rintro (⟨error, rfl⟩ | ⟨key', rule', hlog, hver, hexact, -⟩) - c rfl
    · exact absurd hstored.symm (s.store_ne key rule)
    · rw [Depot.store_log_inj hstored hlog, hrule] at hver
      exact hfaithful.mp ⟨hver, hexact⟩
  · intro hroom
    have hsmall : (current.getD (-1)).toInt ≤ 2 ^ 31 - 2 := by
      cases current with
      | none => decide
      | some c => exact hroom hsaves c rfl
    obtain ⟨hver, hexact⟩ := hfaithful.mpr hsmall
    refine .inr ⟨key, rule, by rw [hstored, Depot.store], hrule ▸ hver, hexact, ?_⟩
    rintro c rfl
    rw [hrule, hver, hexact, Option.getD_some]
    omega

theorem Depot.writeDepotRule_stores (sha256Hex : List UInt8 → String) (cfg : RunConfig)
    (fun_ : Int32) (ver : Int64) (text : String) :
    Stores steps s (cfg.acd, fun_, 1)
      (s.pendingWrite sha256Hex cfg fun_ ver text steps.metadataReads)
      (exec (writeDepotRule sha256Hex cfg fun_ ver text steps) s) := by
  rcases writeDepotRule_cases sha256Hex steps s cfg fun_ ver text with
    ⟨hstops, herror⟩ | ⟨hsaves, -, error, hrun⟩ | ⟨hsaves, -, hrun⟩
  · exact .inl ⟨hstops, herror⟩
  · exact .inr ⟨hsaves, by rw [hrun]⟩
  · exact .inr ⟨hsaves, by rw [hrun]⟩

/-- Waiting for the load writes nothing more. -/
theorem Depot.provisionFirewallAndroid_stores (sha256Hex : List UInt8 → String)
    (cfg : RunConfig) (text : String) (health : Option Value) (polls : Polls (Option Value)) :
    Stores steps s (cfg.acd, cfg.funFw, 1)
      (s.pendingWrite sha256Hex cfg cfg.funFw (nextVer health) text steps.metadataReads)
      (exec (provisionFirewallAndroid sha256Hex cfg text health steps polls) s) := by
  rw [provisionFirewallAndroid, exec_bind]
  have hwrite : Stores steps s (cfg.acd, cfg.funFw, 1) _
      (exec (writeDepotRule sha256Hex cfg cfg.funFw (nextVer health) text steps) s) :=
    writeDepotRule_stores sha256Hex cfg cfg.funFw (nextVer health) text
  rcases hwrite with ⟨hstops, error, hrun⟩ | ⟨hsaves, hstored⟩
  · rw [hrun]
    exact .inl ⟨hstops, error, rfl⟩
  · right
    rcases hrun : exec (writeDepotRule sha256Hex cfg cfg.funFw (nextVer health) text steps) s with
      ⟨error | _, s'⟩
    · rw [hrun] at hstored
      exact ⟨hsaves, hstored⟩
    · rw [hrun] at hstored
      dsimp only
      rw [exec_bind, exec_check]
      cases waitFor "firewall_rule_ver" (nextVer health) polls with
      | error error => exact ⟨hsaves, hstored⟩
      | ok _ => exact ⟨hsaves, hstored⟩

/-- The version computed from a snapshot is the one past the reported version. -/
theorem nextVer_eq (health : Option Value) :
    nextVer health = targetVer ((Depot.reportedVer "firewall_rule_ver" health).getD (-1)) := by
  cases health <;> rfl

/-- A call without an explicit version fails without writing, or stores a rule above the one
that was there. -/
def PreviousExceeded {α : Type} (key : RuleKey) (s : Depot) (run : Except String α × Depot) :
    Prop :=
  (∃ error, run = (.error error, s)) ∨
  ∃ rule, run.2.log = s.log ++ [(key, rule)] ∧
    ∀ stored, s.rules key = some stored → stored.metadata.ver.toInt < rule.metadata.ver.toInt

/-- The saturating increment grows exactly below its end. -/
theorem lt_saturatingSucc_iff (ver : Int32) :
    ver.toInt < (saturatingSucc ver).toInt ↔ ver ≠ Int32.maxValue := by
  rw [saturatingSucc]
  by_cases hmax : ver = Int32.maxValue
  · rw [if_pos hmax]
    exact iff_of_false (lt_irrefl _) fun h => h hmax
  · have hlt : ver.toInt ≠ 2 ^ 31 - 1 := fun h => hmax (Int32.toInt_inj.mp h)
    have hge := ver.le_toInt
    have hle := ver.toInt_lt
    rw [if_neg hmax, Int32.toInt_add]
    refine iff_of_true ?_ hmax
    change _ < (ver.toInt + 1).bmod (2 ^ 32)
    rw [Int.bmod_def]
    split_ifs <;> omega

theorem provisionRule_stores (sha256Hex : List UInt8 → String) (acd fun_ protVer : Int32)
    (ver : Option Int32) (bytes : List UInt8) (configPath keystorePath : String) :
    Stores steps s (acd, fun_, max protVer 1)
      (s.pendingRule sha256Hex (acd, fun_, max protVer 1) ver bytes steps.metadataReads)
      (exec (provisionRule sha256Hex acd fun_ protVer ver bytes configPath keystorePath steps)
        s) := by
  rcases provisionRule_cases sha256Hex steps s acd fun_ protVer ver bytes configPath
    keystorePath with ⟨hstops, herror⟩ | ⟨hsaves, _, _, _, _, hrun⟩
  · exact .inl ⟨hstops, herror⟩
  · exact .inr ⟨hsaves, by rw [hrun]⟩

/-- Without an explicit version the stored one grows exactly below `i32::MAX`; a version that
cannot be read counts as zero. -/
theorem previousExceeded_iff (sha256Hex : List UInt8 → String) (bytes : List UInt8)
    {run : Except String Value × Depot}
    (hrun : Stores steps s key (s.pendingRule sha256Hex key none bytes steps.metadataReads)
      run) :
    PreviousExceeded key s run ↔
      (steps.Saves → ∀ stored, s.rules key = some stored →
        if steps.metadataReads then stored.metadata.ver ≠ Int32.maxValue
        else stored.metadata.ver.toInt < 1) := by
  rcases hrun with ⟨hstops, herror⟩ | ⟨hsaves, hstored⟩
  · exact iff_of_true (.inl herror) fun hsaves => absurd hsaves hstops
  -- the stored version against the one that was there
  have hgrows : ∀ stored, s.rules key = some stored →
      (stored.metadata.ver.toInt <
          (s.pendingRule sha256Hex key none bytes steps.metadataReads).metadata.ver.toInt ↔
        if steps.metadataReads then stored.metadata.ver ≠ Int32.maxValue
        else stored.metadata.ver.toInt < 1) := by
    intro stored hheld
    by_cases hreads : steps.metadataReads = true
    · have hprevious : s.previous true key = stored.metadata := by
        simp [Depot.previous, hheld]
      rw [hreads, if_pos rfl, Depot.pendingRule, hprevious]
      exact lt_saturatingSucc_iff stored.metadata.ver
    · rw [Bool.eq_false_iff.mpr hreads]
      exact Iff.rfl
  constructor
  · rintro (⟨error, rfl⟩ | ⟨rule', hlog, habove⟩) - stored hheld
    · exact absurd hstored.symm (s.store_ne key _)
    · have hsame := Depot.store_log_inj hstored hlog
      exact (hgrows stored hheld).mp (hsame ▸ habove stored hheld)
  · intro hroom
    refine .inr ⟨_, by rw [hstored, Depot.store], fun stored hheld => ?_⟩
    exact (hgrows stored hheld).mpr (hroom hsaves stored hheld)

end Versions

/-- Both callers store the version they computed, above the reported one, or fail without
writing, exactly when no version above `i32::MAX - 1` is reported while the write goes through.
Without an explicit version the stored one is above the previous one exactly when that is
below `i32::MAX` and can be read; one that cannot be read is exceeded only below 1. -/
theorem versions_kept_iff (sha256Hex : List UInt8 → String) :
    (∀ (cfg : RunConfig) (text : String) (health : Option Value) (steps : DepotSteps)
      (polls : Polls (Option Value)) (s : Depot),
      VersionKept (Depot.reportedVer "firewall_rule_ver" health) (nextVer health) s
        (exec (Depot.provisionFirewallAndroid sha256Hex cfg text health steps polls) s) ↔
      (steps.Saves → ∀ c, Depot.reportedVer "firewall_rule_ver" health = some c →
        c.toInt ≤ 2 ^ 31 - 2)) ∧
    (∀ (cfg : RunConfig) (cycle : UInt64) (health : Option Value) (steps : DepotSteps)
      (s : Depot),
      VersionKept (Depot.reportedVer "traffic_rule_ver" health)
        (targetVer ((Depot.reportedVer "traffic_rule_ver" health).getD (-1))) s
        (exec (Depot.writeTrafficRuleAndroid sha256Hex cfg cycle health steps) s) ↔
      (steps.Saves → ∀ c, Depot.reportedVer "traffic_rule_ver" health = some c →
        c.toInt ≤ 2 ^ 31 - 2)) ∧
    (∀ (acd fun_ protVer : Int32) (bytes : List UInt8) (configPath keystorePath : String)
      (steps : DepotSteps) (s : Depot),
      PreviousExceeded (acd, fun_, max protVer 1) s
        (exec (provisionRule sha256Hex acd fun_ protVer none bytes configPath keystorePath
          steps) s) ↔
      (steps.Saves → ∀ stored, s.rules (acd, fun_, max protVer 1) = some stored →
        if steps.metadataReads then stored.metadata.ver ≠ Int32.maxValue
        else stored.metadata.ver.toInt < 1)) := by
  refine ⟨fun cfg text health steps polls s => ?_, fun cfg cycle health steps s => ?_,
    fun acd fun_ protVer bytes configPath keystorePath steps s => ?_⟩
  · exact versionKept_iff (nextVer_eq health) rfl
      (Depot.provisionFirewallAndroid_stores sha256Hex cfg text health polls)
  · exact versionKept_iff rfl rfl
      (Depot.writeDepotRule_stores sha256Hex cfg cfg.funTraffic _ _)
  · exact previousExceeded_iff sha256Hex bytes
      (provisionRule_stores sha256Hex acd fun_ protVer none bytes configPath keystorePath)

/-- A health snapshot at `i32::MAX`. -/
def topSnapshot : Value := .object [("firewall_rule_ver", .number (.posInt 2147483647))]

/-- After the version `i32::MAX` the awaited version is `2^31`, and the stored one is
`-2^31`. -/
theorem version_lost_at_top :
    ¬ ∀ (sha256Hex : List UInt8 → String) (cfg : RunConfig) (text : String)
      (health : Option Value) (steps : DepotSteps) (polls : Polls (Option Value)) (s : Depot),
      VersionKept (Depot.reportedVer "firewall_rule_ver" health) (nextVer health) s
        (exec (Depot.provisionFirewallAndroid sha256Hex cfg text health steps polls) s) := by
  intro hkept
  have hsnapshot : Depot.reportedVer "firewall_rule_ver" (some topSnapshot) =
      some 2147483647 := by decide
  have hstores : Stores (.succeeding (some "key")) .empty (benchConfig.acd, benchConfig.funFw, 1)
      _ _ := Depot.provisionFirewallAndroid_stores (fun _ => "") benchConfig
    "chain=localin,action=D\n" (some topSnapshot) ⟨none, []⟩
  have hroom := (versionKept_iff (nextVer_eq (some topSnapshot)) rfl hstores).mp (hkept ..)
    (DepotSteps.succeeding_saves _) _ hsnapshot
  exact absurd hroom (by decide)

end FwVerify
