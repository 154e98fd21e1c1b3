import FwVerify.Provision.Actions

/-!
# Freshness of provisioning

Whether the rule set idps-fw has loaded when `provision_firewall` returns is the one the
call delivered. The call only waits for a version, so this holds as long as, at each
delivery, no other text can be loaded under the version waited for or above it.

## Main definitions

* `CanHold` — the rule sets that are loaded or can still be loaded
* `RivalsBelow` — other texts are below the version of a delivery
* `DeliversAbove` — the condition on the delivery steps of a run

## Main results

* `fresh_of_run` — a run whose deliveries meet the condition returns with the delivered text
* `rival_overtakes` — without the condition a run can return with another text
* `provisionFirewall_of_run` — a call that returns is a run of the provisioning function
-/

set_option autoImplicit false

namespace FwVerify

open Polling Runs

namespace System

/-! ## What can be loaded -/

/-- Where idps-fw takes rule sets from, now or later. -/
def sources (s : System) : List RuleSet :=
  match s.mode with
  | .android => s.reads ++ s.depot.toList
  | .host => s.reads ++ s.depot.toList ++ s.upserted

/-- The rule set is loaded, or can still be loaded. -/
def CanHold (s : System) (ruleSet : RuleSet) : Prop :=
  s.loaded = some ruleSet ∨ ruleSet ∈ s.sources ∧ s.exceeds ruleSet = true

/-- The sources that a delivery leaves: a depot write replaces the rule in the depot. -/
def remaining (s : System) : List RuleSet :=
  match s.mode with
  | .android => s.reads
  | .host => s.sources

/-- Everything else that is or can be loaded counts as a version below `ver`: another text
by its version, and having no rule set as version -1. -/
structure RivalsBelow (s : System) (text : String) (ver : Int64) : Prop where
  rivals : ∀ ruleSet : RuleSet, s.loaded = some ruleSet ∨
      ruleSet ∈ s.remaining ∧ s.exceeds ruleSet = true →
    ruleSet.text ≠ text → ruleSet.ver < ver
  empty : s.loaded = none → -1 < ver

/-- The action hands over the text under the version its call then waits for. -/
inductive Delivers (s : System) : Action → String → Int64 → Prop
  | write {text : String} {health : Option Value} {out : Value} (mode : s.mode = .android)
      (call : s.call = .queried text health) (key : requireKeyPresent out = .ok ()) :
      Delivers s (.write (.ok out)) text (nextVer health)
  | upsert {text : String} {ver : Int64} (mode : s.mode = .host) (call : s.call = .started text) :
      Delivers s (.upsert ver) text ver

/-- A delivery is made under a version that nothing else reaches. -/
def DeliversAbove (s : System) (a : Action) : Prop :=
  ∀ text ver, s.Delivers a text ver → s.RivalsBelow text ver

/-- Only the delivered text is or can be loaded at `ver` or above. -/
structure OnlyOwn (s : System) (text : String) (ver : Int64) : Prop where
  rivals : ∀ ruleSet, s.CanHold ruleSet → ruleSet.text ≠ text → ruleSet.ver < ver
  empty : s.loaded = none → -1 < ver

/-- The loaded version is at least `ver`. -/
def LoadedFrom (s : System) (ver : Int64) : Prop :=
  ∃ current, s.loaded = some current ∧ ver ≤ current.ver

/-- What holds while a call waits, and when it has what it waited for. -/
def Inv (s : System) : Prop :=
  match s.call with
  | .waiting text ver _ _ => s.OnlyOwn text ver
  | .reached text ver _ => s.OnlyOwn text ver ∧ s.LoadedFrom ver
  | .returned text ver _ => s.OnlyOwn text ver ∧ s.LoadedFrom ver
  | _ => True

variable {s t : System} {text : String} {ver : Int64}

theorem OnlyOwn.mono (h : s.OnlyOwn text ver)
    (hsub : ∀ ruleSet, t.CanHold ruleSet → s.CanHold ruleSet)
    (hempty : t.loaded = none → s.loaded = none) : t.OnlyOwn text ver :=
  ⟨fun ruleSet hold hne => h.rivals ruleSet (hsub ruleSet hold) hne,
    fun hnone => h.empty (hempty hnone)⟩

/-- The delivered text is what is loaded once its version is reached. -/
theorem OnlyOwn.loaded_text (h : s.OnlyOwn text ver) (hfrom : s.LoadedFrom ver) :
    ∃ current, s.loaded = some current ∧ current.text = text := by
  obtain ⟨current, hloaded, hver⟩ := hfrom
  refine ⟨current, hloaded, ?_⟩
  by_contra hne
  have hlt := h.rivals current (.inl hloaded) hne
  exact absurd hver (Int64.not_le.mpr hlt)

/-- An action of idps-fw or idps-server brings in nothing new and keeps what is loaded from
being replaced by an older version. -/
theorem Inv.of_sub (h : s.Inv) (hcall : t.call = s.call)
    (hsub : ∀ ruleSet, t.CanHold ruleSet → s.CanHold ruleSet)
    (hempty : t.loaded = none → s.loaded = none)
    (hfrom : ∀ ver, s.LoadedFrom ver → t.LoadedFrom ver) : t.Inv := by
  unfold Inv at h ⊢
  rw [hcall]
  split at h
  · exact h.mono hsub hempty
  · exact ⟨h.1.mono hsub hempty, hfrom _ h.2⟩
  · exact ⟨h.1.mono hsub hempty, hfrom _ h.2⟩
  · exact trivial

/-! ## Steps -/

theorem sources_eq (s : System) :
    s.sources = s.reads ++ s.depot.toList ++
      match s.mode with
      | .android => []
      | .host => s.upserted := by
  unfold sources
  cases s.mode <;> simp

/-- Reading the depot. -/
theorem Inv.read (h : s.Inv) {ruleSet : RuleSet} (hdepot : s.depot = some ruleSet) :
    Inv { s with reads := ruleSet :: s.reads } := by
  refine h.of_sub rfl (fun rule hold => ?_) id fun _ hfrom => hfrom
  rcases hold with hloaded | ⟨hmem, hexceeds⟩
  · exact .inl hloaded
  · refine .inr ⟨?_, hexceeds⟩
    rw [sources_eq] at hmem ⊢
    -- what was read is still what the depot holds
    simp only [hdepot, Option.toList_some, List.cons_append, List.mem_cons, List.mem_append,
      List.not_mem_nil, or_false] at hmem ⊢
    tauto

/-- What exceeds the loaded version after a load exceeded it before. -/
theorem exceeds_of_load {ruleSet rule : RuleSet} (hexceeds : s.exceeds ruleSet = true)
    (hrule : ruleSet.ver < rule.ver) : s.exceeds rule = true := by
  unfold exceeds at hexceeds ⊢
  cases hloaded : s.loaded with
  | none => rfl
  | some current =>
    simp only [hloaded, decide_eq_true_eq] at hexceeds ⊢
    exact Int64.lt_trans hexceeds hrule

/-- Loading what was read: only a version above the loaded one is loaded. -/
theorem Inv.load (h : s.Inv) {ruleSet : RuleSet} (hmem : ruleSet ∈ s.reads)
    (hexceeds : s.exceeds ruleSet = true) :
    Inv { s with loaded := some ruleSet, reads := s.reads.erase ruleSet } := by
  refine h.of_sub rfl ?_ ?_ ?_
  · intro rule hold
    rcases hold with hloaded | ⟨hsource, hover⟩
    · -- what is loaded now was read before
      obtain rfl : ruleSet = rule := by simpa using hloaded
      refine .inr ⟨?_, hexceeds⟩
      rw [sources_eq]
      simp [hmem]
    · refine .inr ⟨?_, exceeds_of_load hexceeds (by simpa [exceeds] using hover)⟩
      rw [sources_eq] at hsource ⊢
      have herase : rule ∈ s.reads.erase ruleSet → rule ∈ s.reads := List.mem_of_mem_erase
      simp only [List.mem_append] at hsource ⊢
      tauto
  · intro hnone
    simp at hnone
  · rintro ver ⟨current, hloaded, hver⟩
    have hlt : current.ver < ruleSet.ver := by simpa [exceeds, hloaded] using hexceeds
    exact ⟨ruleSet, rfl, Int64.le_trans hver (Int64.le_of_lt hlt)⟩

/-- The cloud sync moves what was upserted into the depot. -/
theorem Inv.sync (h : s.Inv) {ruleSet : RuleSet} (hmode : s.mode = .host)
    (hmem : ruleSet ∈ s.upserted) :
    Inv { s with depot := some ruleSet, upserted := s.upserted.erase ruleSet } := by
  refine h.of_sub rfl (fun rule hold => ?_) id fun _ hfrom => hfrom
  rcases hold with hloaded | ⟨hsource, hexceeds⟩
  · exact .inl hloaded
  · refine .inr ⟨?_, hexceeds⟩
    rw [sources_eq] at hsource ⊢
    have herase : rule ∈ s.upserted.erase ruleSet → rule ∈ s.upserted := List.mem_of_mem_erase
    simp only [hmode, Option.toList_some, List.mem_append, List.mem_cons, List.not_mem_nil,
      or_false] at hsource ⊢
    -- what is in the depot now had been upserted
    rcases hsource with (hread | rfl) | hlater
    · exact .inl (.inl hread)
    · exact .inr hmem
    · exact .inr (herase hlater)

/-- A delivery that brings in no other text leaves the rivals below. -/
theorem RivalsBelow.onlyOwn (h : s.RivalsBelow text ver) (hloaded : t.loaded = s.loaded)
    (hsources : ∀ rule ∈ t.sources, rule.text ≠ text → rule ∈ s.remaining) :
    t.OnlyOwn text ver := by
  refine ⟨fun rule hold hne => ?_, fun hnone => h.empty (hloaded ▸ hnone)⟩
  rcases hold with hhere | ⟨hsource, hexceeds⟩
  · exact h.rivals rule (.inl (hloaded ▸ hhere)) hne
  · rw [exceeds, hloaded] at hexceeds
    exact h.rivals rule (.inr ⟨hsources rule hsource hne, hexceeds⟩) hne

/-- A depot write leaves the delivered rule in the depot; the rivals are where they were. -/
theorem RivalsBelow.write (h : s.RivalsBelow text ver) (hmode : s.mode = .android)
    (depotVer : Int64) (call : CallState) :
    OnlyOwn { s with depot := some ⟨depotVer, text⟩, call := call } text ver := by
  refine h.onlyOwn rfl fun rule hsource hne => ?_
  rw [sources_eq] at hsource
  simp only [hmode, Option.toList_some, List.mem_append, List.mem_cons, List.not_mem_nil,
    or_false] at hsource
  -- the old rule of the depot is gone, the new one is no rival
  rcases hsource with hread | rfl
  · simpa [remaining, hmode] using hread
  · exact absurd rfl hne

/-- An upsert adds the delivered rule to what can come into the depot. -/
theorem RivalsBelow.upsert (h : s.RivalsBelow text ver) (hmode : s.mode = .host)
    (call : CallState) :
    OnlyOwn { s with upserted := ⟨ver, text⟩ :: s.upserted, call := call } text ver := by
  refine h.onlyOwn rfl fun rule hsource hne => ?_
  rw [sources_eq] at hsource
  simp only [hmode, List.mem_append, List.mem_cons] at hsource
  have hremaining : s.remaining = s.reads ++ s.depot.toList ++ s.upserted := by
    simp only [remaining, hmode, sources]
  rw [hremaining, List.mem_append]
  rcases hsource with hhere | rfl | hlater
  · exact .inl (by simpa using hhere)
  · exact absurd rfl hne
  · exact .inr hlater

/-- A snapshot that reaches the version was answered by an idps-fw that has it loaded. -/
theorem loadedFrom_of_reaches {answers : Bool} {ver : Int64}
    (hempty : s.loaded = none → -1 < ver)
    (h : reaches "firewall_rule_ver" ver (s.snapshot answers) = true) : s.LoadedFrom ver := by
  cases answers with
  | false => simp [snapshot, reaches] at h
  | true =>
    cases hloaded : s.loaded with
    | none =>
      have hle : ver ≤ -1 := by
        simp only [snapshot, ↓reduceIte, reaches, health, hloaded, Value.get, List.lookup_nil,
          Option.bind_none, Option.getD_none] at h
        exact of_decide_eq_true h
      exact absurd hle (Int64.not_le.mpr (hempty hloaded))
    | some current =>
      refine ⟨current, hloaded, ?_⟩
      simpa [snapshot, health, hloaded, reaches, Value.get] using h

theorem Inv.of_waiting {delivery : Delivery} {seen : List (Option Value)} (h : s.Inv)
    (hcall : s.call = .waiting text ver delivery seen) : s.OnlyOwn text ver := by
  simpa only [Inv, hcall] using h

theorem Inv.of_reached {steps : ProvisionSteps} (h : s.Inv)
    (hcall : s.call = .reached text ver steps) : s.OnlyOwn text ver ∧ s.LoadedFrom ver := by
  simpa only [Inv, hcall] using h

/-- The invariant is kept by every action whose deliveries meet the condition. -/
theorem Inv.step {a : Action} (h : s.Inv) (hok : s.DeliversAbove a)
    (hstep : s.step a = some t) : t.Inv := by
  cases step_iff.mp hstep with
  | read depot => exact h.read depot
  | load mem exceeds => exact h.load mem exceeds
  | sync mode mem => exact h.sync mode mem
  | write mode call key => exact (hok _ _ (.write mode call key)).write mode _ _
  | upsert mode call => exact (hok _ _ (.upsert mode call)).upsert mode _
  | reach call reach =>
    have hown := h.of_waiting call
    exact ⟨hown.mono (fun _ hold => hold) id, loadedFrom_of_reaches hown.empty reach⟩
  | again call miss => exact (h.of_waiting call).mono (fun _ hold => hold) id
  | ret call =>
    obtain ⟨hown, hfrom⟩ := h.of_reached call
    exact ⟨hown.mono (fun _ hold => hold) id, hfrom⟩
  -- no delivery is waited for
  | start free => trivial
  | query mode call => trivial
  | keyless mode call key => trivial
  | writeFails mode call => trivial
  | upsertFails mode call => trivial
  | expire call miss => trivial

end System

/-- **Freshness.** In a run in which every delivery is made above everything else that is or
can still be loaded, a call that returned has its own text loaded. -/
theorem fresh_of_run {s t : System} {acts : List Action} {text : String} {ver : Int64}
    {steps : ProvisionSteps} (hidle : s.call = .idle)
    (hrun : RunUnder System.step System.DeliversAbove s acts t)
    (hreturned : t.call = .returned text ver steps) :
    ∃ current, t.loaded = some current ∧ current.text = text := by
  have hstart : s.Inv := by simp only [System.Inv, hidle]
  have hinv : t.Inv := hrun.invariant (fun _ _ _ hs hok hstep => hs.step hok hstep) hstart
  simp only [System.Inv, hreturned] at hinv
  exact hinv.1.loaded_text hinv.2

/-- The output of a depot write with a runtime key. -/
def keyedOutput : Value := .object [("key_present", .bool true)]

/-- A device on which idps-fw has loaded `loaded` and no call is under way. -/
def quietSystem (mode : Mode) (loaded : Option RuleSet) : System where
  mode := mode
  loaded := loaded
  reads := []
  depot := none
  upserted := []
  call := .idle

/-- A call on a device with another rule set loaded, whose health query is answered. -/
theorem fresh_of_answered_query :
    ∃ t steps, RunUnder System.step System.DeliversAbove
        (quietSystem .android (some ⟨7, "old"⟩))
        [.start "new", .query true, .write (.ok keyedOutput), .poll true false, .read,
          .load ⟨8, "new"⟩, .poll true false, .ret] t ∧
      t.call = .returned "new" 8 steps ∧
      ∃ current, t.loaded = some current ∧ current.text = "new" := by
  have hfree {s : System} {a : Action} (hnone : ∀ text ver, ¬ s.Delivers a text ver) :
      s.DeliversAbove a := fun text ver h => absurd h (hnone text ver)
  have hrun : ∃ t steps, RunUnder System.step System.DeliversAbove
      (quietSystem .android (some ⟨7, "old"⟩))
      [.start "new", .query true, .write (.ok keyedOutput), .poll true false, .read,
        .load ⟨8, "new"⟩, .poll true false, .ret] t ∧ t.call = .returned "new" 8 steps := by
    refine ⟨_, _, .cons rfl (hfree nofun) (.cons rfl (hfree nofun) (.cons rfl ?_
      (.cons rfl (hfree nofun) (.cons rfl (hfree nofun) (.cons rfl (hfree nofun)
        (.cons rfl (hfree nofun) (.cons rfl (hfree nofun) (.nil _)))))))), rfl⟩
    rintro text ver ⟨-, hcall, -⟩
    cases hcall
    refine ⟨fun ruleSet hold _ => ?_, fun h => by cases h⟩
    rcases hold with hloaded | ⟨hmem, -⟩
    · cases hloaded
      decide
    · cases hmem
  obtain ⟨t, steps, hrun, hreturned⟩ := hrun
  exact ⟨t, steps, hrun, hreturned, fresh_of_run rfl hrun hreturned⟩

/-- A health query that fails before the write makes the call accept what was loaded. -/
theorem stale_after_failed_query :
    ¬ ∀ (s t : System) (acts : List Action) (text : String) (ver : Int64)
      (steps : ProvisionSteps), s.call = .idle → Run System.step s acts t →
        t.call = .returned text ver steps →
          ∃ current, t.loaded = some current ∧ current.text = text := by
  intro hclaim
  obtain ⟨current, hloaded, htext⟩ := hclaim (quietSystem .android (some ⟨7, "old"⟩)) _
    [.start "new", .query false, .write (.ok keyedOutput), .poll true false, .ret] "new" 1 _ rfl
    (.cons rfl trivial (.cons rfl trivial (.cons rfl trivial (.cons rfl trivial
      (.cons rfl trivial (.nil _)))))) rfl
  cases hloaded
  exact absurd htext (by decide)

/-! ## The condition is needed -/

namespace System

variable {s : System}

/-- Whatever can still be loaded, some run of idps-fw and idps-server loads. -/
theorem CanHold.run_load {ruleSet : RuleSet} (h : s.CanHold ruleSet) :
    ∃ acts t, Run step s acts t ∧ t.call = s.call ∧ t.loaded = some ruleSet := by
  have hload {s : System} (hmem : ruleSet ∈ s.reads) (hexceeds : s.exceeds ruleSet = true) :=
    (Steps.load hmem hexceeds).step_eq
  have hread {s : System} (hdepot : s.depot = some ruleSet) := (Steps.read hdepot).step_eq
  rcases h with hloaded | ⟨hsource, hexceeds⟩
  · exact ⟨[], s, .nil s, rfl, hloaded⟩
  · rw [sources_eq] at hsource
    simp only [List.mem_append, Option.mem_toList] at hsource
    rcases hsource with (hmem | hdepot) | hlater
    · exact ⟨[.load ruleSet], _, .cons (hload hmem hexceeds) trivial (.nil _), rfl, rfl⟩
    · exact ⟨[.read, .load ruleSet], _,
        .cons (hread hdepot) trivial
          (.cons (hload List.mem_cons_self hexceeds) trivial (.nil _)), rfl, rfl⟩
    · cases hmode : s.mode with
      | android => simp [hmode] at hlater
      | host =>
        have hmem : ruleSet ∈ s.upserted := by simpa only [hmode] using hlater
        exact ⟨[.sync ruleSet, .read, .load ruleSet], _,
          .cons (Steps.sync hmode hmem).step_eq trivial (.cons (hread rfl) trivial
            (.cons (hload List.mem_cons_self hexceeds) trivial (.nil _))), rfl, rfl⟩

/-- A waiting call returns as soon as a snapshot reaches its version. -/
theorem run_return {text : String} {ver : Int64} {delivery : Delivery}
    {seen : List (Option Value)} (hcall : s.call = .waiting text ver delivery seen)
    (hreach : reaches "firewall_rule_ver" ver (some s.health) = true) :
    ∃ t steps, Run step s [.poll true false, .ret] t ∧ t.call = .returned text ver steps ∧
      t.loaded = s.loaded := by
  have hsnapshot : reaches "firewall_rule_ver" ver (s.snapshot true) = true := hreach
  have hpoll : s.step (.poll true false) = _ := (Steps.reach hcall hsnapshot).step_eq
  exact ⟨_, _, .cons hpoll trivial (.cons rfl trivial (.nil _)), rfl, rfl⟩

/-- What a delivery leaves: its call waits, and every rival is still there. -/
theorem Delivers.step {a : Action} {text : String} {ver : Int64} (h : s.Delivers a text ver) :
    ∃ t delivery, s.step a = some t ∧ t.call = .waiting text ver delivery [] ∧
      t.loaded = s.loaded ∧ ∀ ruleSet ∈ s.remaining, ruleSet ∈ t.sources := by
  cases h with
  | write mode call key =>
    refine ⟨_, _, (Steps.write mode call key).step_eq, rfl, rfl, ?_⟩
    intro ruleSet hmem
    rw [remaining, mode] at hmem
    rw [sources_eq]
    exact List.mem_append_left _ (List.mem_append_left _ hmem)
  | upsert mode call =>
    refine ⟨_, _, (Steps.upsert mode call).step_eq, rfl, rfl, ?_⟩
    intro ruleSet hmem
    simp only [remaining, mode, sources, List.mem_append] at hmem ⊢
    exact hmem.imp id (List.mem_cons_of_mem _)

/-- Where the rivals are not all below, one of them is not, or nothing is loaded. -/
theorem not_rivalsBelow {text : String} {ver : Int64} (h : ¬ s.RivalsBelow text ver) :
    (∃ ruleSet : RuleSet,
      (s.loaded = some ruleSet ∨ ruleSet ∈ s.remaining ∧ s.exceeds ruleSet = true) ∧
        ruleSet.text ≠ text ∧ ver ≤ ruleSet.ver) ∨
      s.loaded = none ∧ ver ≤ -1 := by
  by_cases hempty : s.loaded = none → -1 < ver
  · left
    by_contra hnone
    refine h ⟨fun ruleSet hold hne => ?_, hempty⟩
    by_contra hlt
    exact hnone ⟨ruleSet, hold, hne, Int64.not_lt.mp hlt⟩
  · right
    obtain ⟨hnone, hver⟩ := Classical.not_imp.mp hempty
    exact ⟨hnone, Int64.not_lt.mp hver⟩

/-- **Without the condition** another text overtakes the delivered one: some run from the
delivery on returns with it, or with nothing, loaded. -/
theorem Delivers.rival_overtakes {a : Action} {text : String} {ver : Int64}
    (h : s.Delivers a text ver) (hrivals : ¬ s.RivalsBelow text ver) :
    ∃ acts t steps, Run System.step s (a :: acts) t ∧ t.call = .returned text ver steps ∧
      ¬ ∃ current, t.loaded = some current ∧ current.text = text := by
  obtain ⟨t, delivery, hstep, hcall, hsame, hstill⟩ := h.step
  -- the rival, if any, gets loaded; then one poll and the return
  have hends : ∃ acts t', Run System.step t acts t' ∧ t'.call = t.call ∧
      reaches "firewall_rule_ver" ver (some t'.health) = true ∧
      ¬ ∃ current, t'.loaded = some current ∧ current.text = text := by
    rcases not_rivalsBelow hrivals with ⟨ruleSet, hold, hne, hver⟩ | ⟨hnone, hver⟩
    · have hold' : t.CanHold ruleSet := by
        rcases hold with hloaded | ⟨hmem, hexceeds⟩
        · exact .inl (hsame.trans hloaded)
        · refine .inr ⟨hstill ruleSet hmem, ?_⟩
          simpa only [exceeds, hsame] using hexceeds
      obtain ⟨acts, t', hrun, hcall', hloaded⟩ := hold'.run_load
      refine ⟨acts, t', hrun, hcall', ?_, ?_⟩
      · simpa [reaches, health, hloaded, Value.get] using hver
      · rintro ⟨current, hcurrent, rfl⟩
        rw [hloaded] at hcurrent
        cases hcurrent
        exact hne rfl
    · refine ⟨[], t, .nil t, rfl, ?_, ?_⟩
      · simp only [reaches, health, hsame, hnone, Value.get, List.lookup_nil, Option.bind_none,
          Option.getD_none]
        exact decide_eq_true hver
      · rintro ⟨current, hcurrent, -⟩
        rw [hsame, hnone] at hcurrent
        cases hcurrent
  obtain ⟨acts, t', hrun, hcall', hreach, hother⟩ := hends
  obtain ⟨t'', steps, hreturn, hcall'', hloaded⟩ := run_return (hcall'.trans hcall) hreach
  refine ⟨acts ++ [.poll true false, .ret], t'', steps, ?_, hcall'', ?_⟩
  · exact .cons hstep trivial (hrun.append hreturn)
  · rwa [hloaded]

/-! ## The calls are runs of the provisioning function -/

/-- What the call has been answered so far explains where it stands. -/
def Recorded (s : System) : Prop :=
  match s.call with
  | .waiting _ ver delivery _ => ∀ polls, waitFor "firewall_rule_ver" ver polls = .ok () →
      provisionFirewall s.mode ⟨delivery, polls⟩ = .ok ver
  | .reached _ ver steps => provisionFirewall s.mode steps = .ok ver
  | .returned _ ver steps => provisionFirewall s.mode steps = .ok ver
  | _ => True

theorem mem_pollsOf (seen : List (Option Value)) (last : Option Value) :
    last ∈ (pollsOf seen last).toList := by
  cases seen with
  | nil => simp [pollsOf]
  | cons first later => simp [pollsOf]

theorem Recorded.of_same {t : System} (h : s.Recorded) (hmode : t.mode = s.mode)
    (hcall : t.call = s.call) : t.Recorded := by
  unfold Recorded at h ⊢
  rwa [hmode, hcall]

/-- A delivery is recorded: with a wait that succeeds, the call returns its version. -/
theorem Recorded.step {t : System} {a : Action} (h : s.Recorded) (hstep : s.step a = some t) :
    t.Recorded := by
  cases step_iff.mp hstep with
  | read depot => exact h.of_same rfl rfl
  | load mem exceeds => exact h.of_same rfl rfl
  | sync mode mem => exact h.of_same rfl rfl
  | write mode call key =>
    intro polls hwait
    simp [provisionFirewall, mode, provisionFirewallAndroid, writeDepotRule, key, hwait, bind,
      Except.bind, pure, Except.pure]
  | upsert mode call =>
    intro polls hwait
    simp [provisionFirewall, mode, provisionFirewallHost, hwait, bind, Except.bind, pure,
      Except.pure]
  | @reach _ ver delivery _ _ _ call reach =>
    have hwaiting : ∀ polls, waitFor "firewall_rule_ver" ver polls = .ok () →
        provisionFirewall s.mode ⟨delivery, polls⟩ = .ok ver := by
      simpa only [Recorded, call] using h
    exact hwaiting _ ((waitFor_ok_iff ..).mpr ⟨_, mem_pollsOf _ _, reach⟩)
  | again call miss => simpa only [Recorded, call] using h
  | ret call => simpa only [Recorded, call] using h
  -- there is nothing to record before a delivery and after a failure
  | start free => trivial
  | query mode call => trivial
  | keyless mode call key => trivial
  | writeFails mode call => trivial
  | upsertFails mode call => trivial
  | expire call miss => trivial

end System

/-- A call that returned a version in some run is a call of the provisioning function that
returns it on the answers the run gave. -/
theorem provisionFirewall_of_run {s t : System} {acts : List Action} {text : String}
    {ver : Int64} {steps : ProvisionSteps} (hidle : s.call = .idle)
    (hrun : Run System.step s acts t) (hreturned : t.call = .returned text ver steps) :
    provisionFirewall t.mode steps = .ok ver := by
  have hstart : s.Recorded := by simp only [System.Recorded, hidle]
  have hend : t.Recorded := hrun.invariant (fun _ _ _ hs _ hstep => hs.step hstep) hstart
  simpa only [System.Recorded, hreturned] using hend

end FwVerify
