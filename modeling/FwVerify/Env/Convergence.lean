import FwVerify.Model.Topology

/-!
# Setups converge

Whatever a setup leaves when it is cut short, the teardown of the next one removes: at most
one namespace, one veth pair and one policy rule beside what was there before. So the next
setup starts from the network there was before the first one, and so does a clean.

## Main definitions

* `Absent` — none of the objects of a topology is there
* `Residue` — what cut setups may leave

## Main results

* `teardown_safely` — the teardown keeps the residue and ends in the original network
* `create_safely` — a setup that goes through ends in the deployed network
* `setup_converges` — after any history of cut and completed setups
-/

set_option autoImplicit false

namespace FwVerify

open Script

/-- None of the objects of the topology is in the network. -/
structure Absent (topo : Topology) (net : Net) : Prop where
  netns : ∀ ns ∈ net.namespaces, ns.name ≠ topo.netns
  inside : ∀ pair ∈ net.pairs, pair.1.place ≠ some topo.netns ∧ pair.2.place ≠ some topo.netns
  target : ∀ pair ∈ net.pairs, pair.1.isAt none topo.targetIface = false ∧
    pair.2.isAt none topo.targetIface = false
  rule : topo.subnet ∉ net.rules

/-- What cut setups leave beside the network `net₀` there was before. -/
structure Residue (topo : Topology) (net₀ net : Net) : Prop where
  namespaces : net.namespaces = net₀.namespaces ∨
    ∃ loUp, net.namespaces = ⟨topo.netns, loUp⟩ :: net₀.namespaces
  pairs : net.pairs = net₀.pairs ∨
    ∃ pair, pair.1.isAt none topo.targetIface = true ∧ net.pairs = pair :: net₀.pairs
  rules : net.rules = net₀.rules ∨ net.rules = topo.subnet ::ₘ net₀.rules

section Convergence

variable {topo : Topology} {net₀ net net' : Net}

theorem Residue.refl (topo : Topology) (net₀ : Net) : Residue topo net₀ net₀ :=
  ⟨.inl rfl, .inl rfl, .inl rfl⟩

/-- There is never more than one rule for the subnet. -/
theorem Residue.count_le (hres : Residue topo net₀ net) (habsent : Absent topo net₀) :
    net.rules.count topo.subnet ≤ 1 := by
  have hnone : net₀.rules.count topo.subnet = 0 := Multiset.count_eq_zero.mpr habsent.rule
  rcases hres.rules with hrules | hrules
  · rw [hrules, hnone]
    exact Nat.zero_le 1
  · rw [hrules, Multiset.count_cons_self, hnone]

/-! ## Steps -/

theorem IpStep.of_ok {command : IpCmd} (hstep : IpStep command net (.ok ()) net') :
    command.apply net = some net' := by
  cases hstep with
  | succeeds happly => exact happly

/-- A command that fails changes nothing. -/
theorem IpStep.of_error {command : IpCmd} {stderr : String}
    (hstep : IpStep command net (.error stderr) net') : net' = net := by
  cases hstep with
  | fails _ _ => rfl

/-- A deletion does what it says, or there is nothing to delete. -/
theorem IpStep.of_deletion {command : IpCmd} {reply : Except String Unit}
    (hdel : command.refusable = false) (hstep : IpStep command net reply net') :
    reply = .ok () ∧ command.apply net = some net' ∨
      (∃ stderr, reply = .error stderr) ∧ command.apply net = none ∧ net' = net := by
  cases hstep with
  | succeeds happly => exact .inl ⟨rfl, happly⟩
  | fails hfails stderr =>
    rcases hfails with hnone | hrefused
    · exact .inr ⟨⟨stderr, rfl⟩, hnone, rfl⟩
    · rw [hdel] at hrefused
      cases hrefused

theorem Net.hasVeth_iff {place : Option String} {name : String} :
    net.hasVeth place name = true ↔
      ∃ pair ∈ net.pairs, pair.1.isAt place name = true ∨ pair.2.isAt place name = true := by
  simp [hasVeth, ends]

/-- No end of the pairs goes by the name in the place. -/
def Free (pairs : List (VethEnd × VethEnd)) (place : Option String) (name : String) : Prop :=
  ∀ pair ∈ pairs, pair.1.isAt place name = false ∧ pair.2.isAt place name = false

theorem Net.free_of_not_hasVeth {place : Option String} {name : String}
    (hveth : ¬ net.hasVeth place name = true) : Free net.pairs place name := by
  intro pair hpair
  have hother : ¬ (pair.1.isAt place name = true ∨ pair.2.isAt place name = true) :=
    fun h => hveth (hasVeth_iff.mpr ⟨pair, hpair, h⟩)
  simpa only [not_or, Bool.not_eq_true] using hother

/-- Deleting by a free name deletes nothing. -/
theorem Free.filter_eq {pairs : List (VethEnd × VethEnd)} {place : Option String}
    {name : String} (hfree : Free pairs place name) :
    (pairs.filter fun pair => !pair.1.isAt place name && !pair.2.isAt place name) = pairs := by
  rw [List.filter_eq_self]
  intro pair hpair
  rw [(hfree pair hpair).1, (hfree pair hpair).2]
  rfl

/-- After a deletion the namespace is gone; with it, if it was there, every pair that had an
end in it. -/
theorem IpStep.of_netnsDel {name : String} {reply : Except String Unit}
    (hstep : IpStep (.netnsDel name) net reply net') :
    net'.namespaces = net.namespaces.filter (·.name != name) ∧
    net'.rules = net.rules ∧
    (net'.pairs = net.pairs ∨ net'.pairs = net.pairs.filter fun pair =>
      pair.1.place != some name && pair.2.place != some name) := by
  rcases hstep.of_deletion rfl with ⟨-, happly⟩ | ⟨-, hnone, rfl⟩
  · rw [IpCmd.apply] at happly
    split_ifs at happly
    obtain rfl := Option.some.inj happly
    exact ⟨rfl, rfl, .inr rfl⟩
  · rw [IpCmd.apply] at hnone
    split_ifs at hnone with hthere
    refine ⟨?_, rfl, .inl rfl⟩
    symm
    rw [List.filter_eq_self]
    intro ns hns
    simp only [Net.hasNamespace, List.any_eq_true, beq_iff_eq, not_exists, not_and] at hthere
    simpa using hthere ns hns

/-- After a deletion no pair has an end of that name in the root namespace. -/
theorem IpStep.of_linkDel {dev : String} {reply : Except String Unit}
    (hstep : IpStep (.linkDel dev) net reply net') :
    net'.namespaces = net.namespaces ∧ net'.rules = net.rules ∧
    net'.pairs = net.pairs.filter fun pair => !pair.1.isAt none dev && !pair.2.isAt none dev := by
  rcases hstep.of_deletion rfl with ⟨-, happly⟩ | ⟨-, hnone, rfl⟩
  · rw [IpCmd.apply] at happly
    split_ifs at happly
    obtain rfl := Option.some.inj happly
    exact ⟨rfl, rfl, rfl⟩
  · rw [IpCmd.apply] at hnone
    split_ifs at hnone with hthere
    exact ⟨rfl, rfl, (Net.free_of_not_hasVeth hthere).filter_eq.symm⟩

/-- Deleting a rule removes one, or there is none. -/
theorem IpStep.of_ruleDel {subnet : String} {reply : Except String Unit}
    (hstep : IpStep (.ruleDel subnet) net reply net') :
    reply = .ok () ∧ subnet ∈ net.rules ∧
      net' = { net with rules := net.rules.erase subnet } ∨
    (∃ stderr, reply = .error stderr) ∧ subnet ∉ net.rules ∧ net' = net := by
  rcases hstep.of_deletion rfl with ⟨hreply, happly⟩ | ⟨hreply, hnone, hsame⟩
  · rw [IpCmd.apply] at happly
    split_ifs at happly with hthere
    exact .inl ⟨hreply, hthere, (Option.some.inj happly).symm⟩
  · rw [IpCmd.apply] at hnone
    split_ifs at hnone with hthere
    exact .inr ⟨hreply, hthere, hsame⟩

/-! ## The teardown -/

/-- The namespace of the topology goes, and what was there before stays. -/
theorem Absent.filter_namespaces (habsent : Absent topo net₀)
    (hres : Residue topo net₀ net) :
    net.namespaces.filter (·.name != topo.netns) = net₀.namespaces := by
  have hkeep : net₀.namespaces.filter (·.name != topo.netns) = net₀.namespaces := by
    rw [List.filter_eq_self]
    intro ns hns
    simpa using habsent.netns ns hns
  rcases hres.namespaces with hns | ⟨loUp, hns⟩
  · rw [hns, hkeep]
  · rw [hns, List.filter_cons_of_neg (by simp), hkeep]

/-- The pair of the topology may go with its namespace, and what was there before stays. -/
theorem Absent.filter_inside (habsent : Absent topo net₀) (hres : Residue topo net₀ net) :
    (net.pairs.filter fun pair =>
        pair.1.place != some topo.netns && pair.2.place != some topo.netns) = net₀.pairs ∨
    (net.pairs.filter fun pair =>
        pair.1.place != some topo.netns && pair.2.place != some topo.netns) = net.pairs := by
  have hkeep : (net₀.pairs.filter fun pair =>
      pair.1.place != some topo.netns && pair.2.place != some topo.netns) = net₀.pairs := by
    rw [List.filter_eq_self]
    intro pair hpair
    simpa using habsent.inside pair hpair
  rcases hres.pairs with hpairs | ⟨pair, -, hpairs⟩
  · rw [hpairs, hkeep]
    exact .inl rfl
  · rw [hpairs, List.filter_cons, hkeep]
    by_cases hinside : (pair.1.place != some topo.netns && pair.2.place != some topo.netns) = true
    · rw [if_pos hinside]
      exact .inr rfl
    · rw [if_neg hinside]
      exact .inl rfl

/-- The pair of the topology goes with its target end, and what was there before stays. -/
theorem Absent.filter_target (habsent : Absent topo net₀) (hres : Residue topo net₀ net) :
    (net.pairs.filter fun pair =>
      !pair.1.isAt none topo.targetIface && !pair.2.isAt none topo.targetIface) = net₀.pairs := by
  have hkeep : (net₀.pairs.filter fun pair =>
      !pair.1.isAt none topo.targetIface && !pair.2.isAt none topo.targetIface) =
        net₀.pairs := Free.filter_eq habsent.target
  rcases hres.pairs with hpairs | ⟨pair, htarget, hpairs⟩
  · rw [hpairs, hkeep]
  · rw [hpairs, List.filter_cons_of_neg (by simp [htarget]), hkeep]

/-- Removing the namespace keeps the residue. -/
theorem netnsDel_safely (habsent : Absent topo net₀) (hres : Residue topo net₀ net) :
    (Script.ignore (.netnsDel topo.netns)).Safely IpStep (Residue topo net₀)
      (fun result t => result = .ok () ∧ Residue topo net₀ t ∧ t.namespaces = net₀.namespaces)
      net := by
  apply Safely.ignore hres
  intro reply t hstep
  obtain ⟨hns, hrules, hpairs⟩ := hstep.of_netnsDel
  rw [habsent.filter_namespaces hres] at hns
  have hres' : Residue topo net₀ t := by
    refine ⟨.inl hns, ?_, hrules ▸ hres.rules⟩
    rcases hpairs with hpairs | hpairs
    · exact hpairs ▸ hres.pairs
    · rcases habsent.filter_inside hres with hall | hall
      · exact .inl (hpairs.trans hall)
      · rw [hall] at hpairs
        exact hpairs ▸ hres.pairs
  exact ⟨hres', rfl, hres', hns⟩

/-- Removing the target end leaves no pair. -/
theorem linkDel_safely (habsent : Absent topo net₀) (hres : Residue topo net₀ net)
    (hns : net.namespaces = net₀.namespaces) :
    (Script.ignore (.linkDel topo.targetIface)).Safely IpStep (Residue topo net₀)
      (fun result t => result = .ok () ∧ Residue topo net₀ t ∧
        t.namespaces = net₀.namespaces ∧ t.pairs = net₀.pairs) net := by
  apply Safely.ignore hres
  intro reply t hstep
  obtain ⟨hns', hrules, hpairs⟩ := hstep.of_linkDel
  rw [habsent.filter_target hres] at hpairs
  have hres' : Residue topo net₀ t :=
    ⟨.inl (hns'.trans hns), .inl hpairs, hrules ▸ hres.rules⟩
  exact ⟨hres', rfl, hres', hns'.trans hns, hpairs⟩

/-- With no rule left the loop ends at once. -/
theorem deleteRules_none (habsent : Absent topo net₀) (rounds : Nat) :
    (deleteRules topo.subnet rounds).Safely IpStep (Residue topo net₀)
      (fun result t => result = .ok () ∧ t = net₀) net₀ := by
  have hres := Residue.refl topo net₀
  cases rounds with
  | zero => exact ⟨hres, rfl, rfl⟩
  | succ rounds =>
    refine ⟨hres, fun reply t hstep => ?_⟩
    rcases hstep.of_ruleDel with ⟨-, hthere, -⟩ | ⟨⟨stderr, rfl⟩, -, rfl⟩
    · exact absurd hthere habsent.rule
    · exact ⟨hres, rfl, rfl⟩

/-- One round of the loop removes the rule of the topology. -/
theorem deleteRules_safely (habsent : Absent topo net₀) (hres : Residue topo net₀ net)
    (hns : net.namespaces = net₀.namespaces) (hpairs : net.pairs = net₀.pairs)
    (rounds : Nat) :
    (deleteRules topo.subnet (rounds + 1)).Safely IpStep (Residue topo net₀)
      (fun result t => result = .ok () ∧ t = net₀) net := by
  rcases hres.rules with hrules | hrules
  · have hsame : net = net₀ := Net.ext hns hpairs hrules
    rw [hsame]
    exact deleteRules_none habsent (rounds + 1)
  · refine ⟨hres, fun reply t hstep => ?_⟩
    rcases hstep.of_ruleDel with ⟨rfl, -, ht⟩ | ⟨-, hnone, -⟩
    · have hgone : t = net₀ := by
        rw [ht, hns, hpairs, hrules, Multiset.erase_cons_head]
      rw [hgone]
      exact deleteRules_none habsent rounds
    · rw [hrules] at hnone
      exact absurd (Multiset.mem_cons_self _ _) hnone

/-- The teardown keeps the residue and ends in the network there was before. -/
theorem teardown_safely (habsent : Absent topo net₀) (hres : Residue topo net₀ net) :
    (teardownTopology topo).Safely IpStep (Residue topo net₀)
      (fun result t => result = .ok () ∧ t = net₀) net := by
  rw [teardownTopology]
  refine (netnsDel_safely habsent hres).bind ?_ (by rintro _ _ ⟨⟨⟩, -⟩)
  rintro _ t ⟨-, hres, hns⟩
  refine (linkDel_safely habsent hres hns).bind ?_ (by rintro _ _ ⟨⟨⟩, -⟩)
  rintro _ t ⟨-, hres, hns, hpairs⟩
  exact deleteRules_safely habsent hres hns hpairs 15

/-! ## The creation -/

/-- How far a setup has come once its pair is in place. -/
structure Stage where
  loUp : Bool := false
  targetAddrs : List String := []
  targetUp : Bool := false
  peerAddrs : List String := []
  peerUp : Bool := false
  ruleAdded : Bool := false

/-- The network of a stage. -/
def Stage.network (stage : Stage) (topo : Topology) (net₀ : Net) : Net where
  namespaces := ⟨topo.netns, stage.loUp⟩ :: net₀.namespaces
  pairs := (⟨topo.targetIface, none, stage.targetAddrs, stage.targetUp⟩,
    ⟨topo.peerIface, some topo.netns, stage.peerAddrs, stage.peerUp⟩) :: net₀.pairs
  rules := if stage.ruleAdded then topo.subnet ::ₘ net₀.rules else net₀.rules

/-- The network of a setup that went through. -/
def deployed (topo : Topology) (net₀ : Net) : Net :=
  Stage.network {
    loUp := true
    targetAddrs := [s!"{topo.targetIp}/{topo.prefixLen}"]
    targetUp := true
    peerAddrs := [s!"{topo.peerIp}/{topo.prefixLen}"]
    peerUp := true
    ruleAdded := topo.policyRoute } topo net₀

/-- A device goes by its own name. -/
theorem VethEnd.isAt_self (e : VethEnd) : e.isAt e.place e.name = true := by
  simp [isAt]

theorem VethEnd.isAt_of_place {e : VethEnd} {place : Option String} (h : e.place ≠ place)
    (name : String) : e.isAt place name = false := by
  simp [isAt, h]

theorem VethEnd.isAt_of_name {e : VethEnd} {name : String} (h : e.name ≠ name)
    (place : Option String) : e.isAt place name = false := by
  simp [isAt, h]

theorem Stage.residue (stage : Stage) (topo : Topology) (net₀ : Net) :
    Residue topo net₀ (stage.network topo net₀) := by
  refine ⟨.inr ⟨stage.loUp, rfl⟩, .inr ⟨_, VethEnd.isAt_self _, rfl⟩, ?_⟩
  rw [network]
  by_cases hrule : stage.ruleAdded = true
  · rw [if_pos hrule]
    exact .inr rfl
  · rw [if_neg hrule]
    exact .inl rfl

theorem Absent.free_inside (habsent : Absent topo net₀) (name : String) :
    Free net₀.pairs (some topo.netns) name := fun pair hpair =>
  ⟨VethEnd.isAt_of_place (habsent.inside pair hpair).1 name,
    VethEnd.isAt_of_place (habsent.inside pair hpair).2 name⟩

theorem Free.map_eq {pairs : List (VethEnd × VethEnd)} {place : Option String} {name : String}
    (hfree : Free pairs place name) (f : VethEnd → VethEnd) :
    pairs.map (fun pair => (if pair.1.isAt place name then f pair.1 else pair.1,
      if pair.2.isAt place name then f pair.2 else pair.2)) = pairs := by
  conv_rhs => rw [← List.map_id pairs]
  apply List.map_congr_left
  intro pair hpair
  rw [(hfree pair hpair).1, (hfree pair hpair).2]
  rfl

/-- Changing the target end of the newest pair. -/
theorem Net.updateEnd_first {place : Option String} {name : String} {f : VethEnd → VethEnd}
    {a b : VethEnd} {rest : List (VethEnd × VethEnd)} (hpairs : net.pairs = (a, b) :: rest)
    (ha : a.isAt place name = true) (hb : b.isAt place name = false)
    (hrest : Free rest place name) :
    net.updateEnd place name f = { net with pairs := (f a, b) :: rest } := by
  rw [updateEnd]
  dsimp only
  rw [hpairs, List.map_cons, hrest.map_eq, ha, hb]
  rfl

/-- Changing the peer end of the newest pair. -/
theorem Net.updateEnd_second {place : Option String} {name : String} {f : VethEnd → VethEnd}
    {a b : VethEnd} {rest : List (VethEnd × VethEnd)} (hpairs : net.pairs = (a, b) :: rest)
    (ha : a.isAt place name = false) (hb : b.isAt place name = true)
    (hrest : Free rest place name) :
    net.updateEnd place name f = { net with pairs := (a, f b) :: rest } := by
  rw [updateEnd]
  dsimp only
  rw [hpairs, List.map_cons, hrest.map_eq, ha, hb]
  rfl

/-- A script that keeps the residue, and reaches `P` unless it stops with an error. -/
def Brings (topo : Topology) (net₀ : Net) (script : IpScript) (net : Net) (P : Net → Prop) :
    Prop :=
  script.Safely IpStep (Residue topo net₀) (fun result t => result = .ok () → P t) net

theorem Brings.bind {first : IpScript} {next : Unit → IpScript} {P R : Net → Prop}
    (hfirst : Brings topo net₀ first net P)
    (hnext : ∀ t, P t → Brings topo net₀ (next ()) t R) :
    Brings topo net₀ (first >>= next) net R := by
  apply Safely.bind hfirst
  · intro a t hmid
    exact hnext t (hmid rfl)
  · intro error t _ herror
    cases herror

theorem Brings.context {script : IpScript} {P : Net → Prop} (what : String)
    (h : Brings topo net₀ script net P) : Brings topo net₀ (script.context what) net P := by
  apply Safely.context h
  · intro a t hend
    exact hend
  · intro error t _ herror
    cases herror

/-- A command with a known effect. -/
theorem Brings.runIp {command : IpCmd} {P : Net → Prop} (hres : Residue topo net₀ net)
    (happly : ∀ t, command.apply net = some t → Residue topo net₀ t ∧ P t) :
    Brings topo net₀ (FwVerify.runIp command) net P := by
  apply Safely.run hres
  · intro t hstep
    obtain ⟨hres', hP⟩ := happly t hstep.of_ok
    exact ⟨hres', fun _ => hP⟩
  · intro stderr t hstep
    rw [hstep.of_error]
    exact ⟨hres, nofun⟩

/-- A command that leads from one stage to the next. -/
theorem Brings.stage {command : IpCmd} (stage stage' : Stage)
    (happly : ∀ t, command.apply (stage.network topo net₀) = some t →
      t = stage'.network topo net₀) :
    Brings topo net₀ (FwVerify.runIp command) (stage.network topo net₀)
      (· = stage'.network topo net₀) := by
  apply Brings.runIp (stage.residue topo net₀)
  intro t ht
  rw [happly t ht]
  exact ⟨stage'.residue topo net₀, rfl⟩

/-! ### The commands of a creation -/

theorem apply_netnsAdd {t : Net}
    (happly : (IpCmd.netnsAdd topo.netns).apply net₀ = some t) :
    t = { net₀ with namespaces := ⟨topo.netns, false⟩ :: net₀.namespaces } := by
  rw [IpCmd.apply] at happly
  split_ifs at happly
  exact (Option.some.inj happly).symm

theorem Stage.updateEnd_target (stage : Stage) (habsent : Absent topo net₀)
    (f : VethEnd → VethEnd) :
    (stage.network topo net₀).updateEnd none topo.targetIface f =
      { stage.network topo net₀ with
        pairs := (f ⟨topo.targetIface, none, stage.targetAddrs, stage.targetUp⟩,
          ⟨topo.peerIface, some topo.netns, stage.peerAddrs, stage.peerUp⟩) :: net₀.pairs } :=
  Net.updateEnd_first rfl (by simp [VethEnd.isAt]) (by simp [VethEnd.isAt]) habsent.target

theorem Stage.updateEnd_peer (stage : Stage) (habsent : Absent topo net₀)
    (f : VethEnd → VethEnd) :
    (stage.network topo net₀).updateEnd (some topo.netns) topo.peerIface f =
      { stage.network topo net₀ with
        pairs := (⟨topo.targetIface, none, stage.targetAddrs, stage.targetUp⟩,
          f ⟨topo.peerIface, some topo.netns, stage.peerAddrs, stage.peerUp⟩) :: net₀.pairs } :=
  Net.updateEnd_second rfl (by simp [VethEnd.isAt]) (by simp [VethEnd.isAt])
    (habsent.free_inside _)

/-- An address is added to the end that goes by the name. -/
theorem IpCmd.eq_of_addrAdd {net t : Net} {place : Option String} {addr dev : String}
    {found : VethEnd} (hfind : net.ends.find? (·.isAt place dev) = some found)
    (happly : (IpCmd.addrAdd place addr dev).apply net = some t) :
    t = net.updateEnd place dev fun e => { e with addrs := addr :: e.addrs } := by
  rw [IpCmd.apply, hfind] at happly
  dsimp only at happly
  split_ifs at happly
  exact (Option.some.inj happly).symm

theorem Stage.apply_addr_target (stage : Stage) (habsent : Absent topo net₀) {addr : String}
    {t : Net}
    (happly : (IpCmd.addrAdd none addr topo.targetIface).apply (stage.network topo net₀) =
      some t) :
    t = { stage with targetAddrs := addr :: stage.targetAddrs }.network topo net₀ := by
  have hfind : (stage.network topo net₀).ends.find? (·.isAt none topo.targetIface) =
      some ⟨topo.targetIface, none, stage.targetAddrs, stage.targetUp⟩ := by
    simp [Net.ends, network, VethEnd.isAt]
  rw [IpCmd.eq_of_addrAdd hfind happly, stage.updateEnd_target habsent]
  rfl

theorem Stage.apply_addr_peer (stage : Stage) (habsent : Absent topo net₀) {addr : String}
    {t : Net}
    (happly : (IpCmd.addrAdd (some topo.netns) addr topo.peerIface).apply
      (stage.network topo net₀) = some t) :
    t = { stage with peerAddrs := addr :: stage.peerAddrs }.network topo net₀ := by
  have hfind : (stage.network topo net₀).ends.find?
      (·.isAt (some topo.netns) topo.peerIface) =
      some ⟨topo.peerIface, some topo.netns, stage.peerAddrs, stage.peerUp⟩ := by
    simp [Net.ends, network, VethEnd.isAt]
  rw [IpCmd.eq_of_addrAdd hfind happly, stage.updateEnd_peer habsent]
  rfl

theorem Stage.apply_up_target (stage : Stage) (habsent : Absent topo net₀)
    (hlo : topo.targetIface ≠ "lo") {t : Net}
    (happly : (IpCmd.linkSetUp none topo.targetIface).apply (stage.network topo net₀) =
      some t) :
    t = { stage with targetUp := true }.network topo net₀ := by
  rw [IpCmd.apply, if_neg hlo] at happly
  split_ifs at happly
  rw [← Option.some.inj happly, stage.updateEnd_target habsent]
  rfl

theorem Stage.apply_up_peer (stage : Stage) (habsent : Absent topo net₀)
    (hlo : topo.peerIface ≠ "lo") {t : Net}
    (happly : (IpCmd.linkSetUp (some topo.netns) topo.peerIface).apply
      (stage.network topo net₀) = some t) :
    t = { stage with peerUp := true }.network topo net₀ := by
  rw [IpCmd.apply, if_neg hlo] at happly
  split_ifs at happly
  rw [← Option.some.inj happly, stage.updateEnd_peer habsent]
  rfl

theorem Stage.apply_up_lo (stage : Stage) (habsent : Absent topo net₀) {t : Net}
    (happly : (IpCmd.linkSetUp (some topo.netns) "lo").apply (stage.network topo net₀) =
      some t) :
    t = { stage with loUp := true }.network topo net₀ := by
  rw [IpCmd.apply, if_pos rfl] at happly
  split_ifs at happly
  rw [← Option.some.inj happly]
  have hothers : net₀.namespaces.map (fun ns =>
      if some ns.name = some topo.netns then { ns with loUp := true } else ns) =
        net₀.namespaces := by
    conv_rhs => rw [← List.map_id net₀.namespaces]
    apply List.map_congr_left
    intro ns hns
    rw [if_neg fun h => habsent.netns ns hns (Option.some.inj h)]
    rfl
  apply Net.ext
  · dsimp only [network]
    rw [List.map_cons, hothers, if_pos rfl]
  · rfl
  · rfl

theorem Stage.apply_ruleAdd (stage : Stage) (hrule : stage.ruleAdded = false) {t : Net}
    (happly : (IpCmd.ruleAdd topo.subnet).apply (stage.network topo net₀) = some t) :
    t = { stage with ruleAdded := true }.network topo net₀ := by
  rw [← Option.some.inj happly, network, hrule]
  rfl

/-- What a creation of the pair tells of the names: they are not those of the loopback. -/
theorem names_of_linkAdd {dev peer : String} {peerNetns : Option String} {t : Net}
    (happly : (IpCmd.linkAddVeth dev peer peerNetns).apply net = some t) :
    dev ≠ "lo" ∧ peer ≠ "lo" ∧ net.hasVeth peerNetns peer = false ∧
      (peerNetns = none → dev ≠ peer) ∧
      t = { net with
        pairs := (⟨dev, none, [], false⟩, ⟨peer, peerNetns, [], false⟩) :: net.pairs } := by
  rw [IpCmd.apply] at happly
  split_ifs at happly with hrefused
  simp only [Net.hasLink, Bool.or_eq_true, beq_iff_eq, Bool.not_eq_true', Bool.and_eq_true,
    not_or, not_and, Bool.not_eq_true] at hrefused
  obtain ⟨⟨⟨⟨hdev, -⟩, hpeer, hveth⟩, -⟩, hsame⟩ := hrefused
  exact ⟨hdev, hpeer, hveth, hsame, (Option.some.inj happly).symm⟩

/-- The network once the namespace is there. -/
def withNamespace (topo : Topology) (net₀ : Net) : Net :=
  { net₀ with namespaces := ⟨topo.netns, false⟩ :: net₀.namespaces }

theorem withNamespace_residue (topo : Topology) (net₀ : Net) :
    Residue topo net₀ (withNamespace topo net₀) :=
  ⟨.inr ⟨false, rfl⟩, .inl rfl, .inl rfl⟩

/-- The pair with both ends in the root namespace. -/
def withRootPair (topo : Topology) (net₀ : Net) : Net :=
  { withNamespace topo net₀ with
    pairs := (⟨topo.targetIface, none, [], false⟩, ⟨topo.peerIface, none, [], false⟩) ::
      net₀.pairs }

theorem withRootPair_residue (topo : Topology) (net₀ : Net) :
    Residue topo net₀ (withRootPair topo net₀) :=
  ⟨.inr ⟨false, rfl⟩, .inr ⟨_, VethEnd.isAt_self _, rfl⟩, .inl rfl⟩

/-- The pair is in place, and its names are not those of the loopback. -/
def PairReady (topo : Topology) (net₀ t : Net) : Prop :=
  t = ({} : Stage).network topo net₀ ∧ topo.targetIface ≠ "lo" ∧ topo.peerIface ≠ "lo"

/-- Moving the peer end leads to where direct placement leads. -/
theorem fallback_brings :
    Brings topo net₀ (do
      (runIp (.linkAddVeth topo.targetIface topo.peerIface none)).context
        "failed to create veth pair"
      (runIp (.linkSetNetns topo.peerIface topo.netns)).context
        "failed to move peer veth into the namespace")
      (withNamespace topo net₀) (PairReady topo net₀) := by
  have hadd : Brings topo net₀ (runIp (.linkAddVeth topo.targetIface topo.peerIface none))
      (withNamespace topo net₀) (fun t => t = withRootPair topo net₀ ∧
        topo.targetIface ≠ "lo" ∧ topo.peerIface ≠ "lo" ∧ topo.targetIface ≠ topo.peerIface ∧
        Free net₀.pairs none topo.peerIface) := by
    apply Brings.runIp (withNamespace_residue topo net₀)
    intro t happly
    obtain ⟨htarget, hpeer, hveth, hne, rfl⟩ := names_of_linkAdd happly
    exact ⟨withRootPair_residue topo net₀, rfl, htarget, hpeer, hne rfl,
      Net.free_of_not_hasVeth (Bool.eq_false_iff.mp hveth)⟩
  refine (hadd.context _).bind ?_
  rintro t ⟨rfl, htarget, hpeer, hne, hfree⟩
  apply Brings.context
  -- the moved end has no addresses and is down, like one that was created in the namespace
  apply Brings.runIp (withRootPair_residue topo net₀)
  intro t happly
  rw [IpCmd.apply] at happly
  split_ifs at happly
  have hmove : (withRootPair topo net₀).updateEnd none topo.peerIface
      (fun e => { e with place := some topo.netns, addrs := [], up := false }) =
        ({} : Stage).network topo net₀ :=
    Net.updateEnd_second rfl (VethEnd.isAt_of_name hne none)
      (VethEnd.isAt_self ⟨topo.peerIface, none, [], false⟩) hfree
  rw [← Option.some.inj happly, hmove]
  exact ⟨Stage.residue {} topo net₀, rfl, htarget, hpeer⟩

theorem createVeth_brings :
    Brings topo net₀ (createVeth topo) (withNamespace topo net₀) (PairReady topo net₀) := by
  refine ⟨withNamespace_residue topo net₀, fun reply t hstep => ?_⟩
  cases reply with
  | ok _ =>
    obtain ⟨htarget, hpeer, -, -, rfl⟩ := names_of_linkAdd hstep.of_ok
    exact ⟨Stage.residue {} topo net₀, fun _ => ⟨rfl, htarget, hpeer⟩⟩
  | error stderr =>
    rw [hstep.of_error]
    exact fallback_brings

theorem disableIpv6_brings (stage : Stage) :
    Brings topo net₀ (disableIpv6 topo) (stage.network topo net₀)
      (· = stage.network topo net₀) := by
  have hres := stage.residue topo net₀
  apply Safely.ignore hres
  intro reply t hstep
  have hsame : t = stage.network topo net₀ := by
    cases hstep with
    | succeeds happly =>
      rw [IpCmd.apply] at happly
      split_ifs at happly
      exact (Option.some.inj happly).symm
    | fails _ _ => rfl
  rw [hsame]
  exact ⟨hres, fun _ => rfl⟩

/-- From a network without its objects, a creation that goes through ends in the deployed
network, whichever way it creates the pair. -/
theorem createTopology_brings (habsent : Absent topo net₀) :
    Brings topo net₀ (createTopology topo) net₀ (· = deployed topo net₀) := by
  have hnetns : Brings topo net₀ (runIp (.netnsAdd topo.netns)) net₀
      (· = withNamespace topo net₀) := by
    apply Brings.runIp (Residue.refl topo net₀)
    intro t happly
    rw [apply_netnsAdd happly]
    exact ⟨withNamespace_residue topo net₀, rfl⟩
  rw [createTopology]
  refine hnetns.bind ?_
  rintro _ rfl
  refine createVeth_brings.bind ?_
  rintro _ ⟨rfl, htarget, hpeer⟩
  refine (disableIpv6_brings _).bind ?_
  rintro _ rfl
  refine (Brings.stage _ _ fun t => Stage.apply_addr_target _ habsent).bind ?_
  rintro _ rfl
  refine (Brings.stage _ _ fun t => Stage.apply_up_target _ habsent htarget).bind ?_
  rintro _ rfl
  refine (Brings.stage _ _ fun t => Stage.apply_up_lo _ habsent).bind ?_
  rintro _ rfl
  refine (Brings.stage _ _ fun t => Stage.apply_addr_peer _ habsent).bind ?_
  rintro _ rfl
  refine (Brings.stage _ _ fun t => Stage.apply_up_peer _ habsent hpeer).bind ?_
  rintro _ rfl
  by_cases hroute : topo.policyRoute = true
  · rw [if_pos hroute, deployed, hroute]
    exact (Brings.stage _ _ fun t => Stage.apply_ruleAdd _ rfl).context _
  · rw [if_neg hroute, deployed, Bool.eq_false_iff.mpr hroute]
    exact ⟨Stage.residue _ topo net₀, fun _ => rfl⟩

/-! ## Histories -/

/-- A setup keeps the residue wherever it is cut. -/
theorem setup_brings (habsent : Absent topo net₀) (hres : Residue topo net₀ net) :
    Brings topo net₀ (setupTopology topo) net (· = deployed topo net₀) := by
  apply Safely.bind (teardown_safely habsent hres)
  · rintro _ t ⟨-, rfl⟩
    exact createTopology_brings habsent
  · rintro error t ⟨⟨⟩, -⟩

/-- A history of setups, each cut after some of its commands or completed. -/
def History (topo : Topology) : Net → Net → Prop :=
  Relation.ReflTransGen ((setupTopology topo).Cut IpStep)

theorem History.residue (habsent : Absent topo net₀) (hhistory : History topo net₀ net) :
    Residue topo net₀ net := by
  induction hhistory with
  | refl => exact Residue.refl topo net₀
  | tail _ hcut ih => exact (setup_brings habsent ih).cut hcut

/-- From a residue the teardown runs to the network there was before, and nowhere else. -/
theorem teardown_ends_iff (habsent : Absent topo net₀) (hres : Residue topo net₀ net)
    {result : Except String Unit} {t : Net} :
    (teardownTopology topo).Ends IpStep net result t ↔ result = .ok () ∧ t = net₀ := by
  have hsafe := teardown_safely habsent hres
  constructor
  · intro hends
    exact hsafe.ends hends
  · rintro ⟨rfl, rfl⟩
    have hrun := ends_evaluate IpStep.act (teardownTopology topo) net
    obtain ⟨hresult, hnet⟩ := hsafe.ends hrun
    rwa [hresult, hnet] at hrun

/-- A setup after a history runs as one from the network there was before. -/
theorem setup_ends_iff (habsent : Absent topo net₀) (hres : Residue topo net₀ net)
    {result : Except String Unit} {t : Net} :
    (setupTopology topo).Ends IpStep net result t ↔
      (createTopology topo).Ends IpStep net₀ result t := by
  rw [setupTopology, ends_bind]
  constructor
  · rintro (⟨a, u, hteardown, hcreate⟩ | ⟨error, -, hteardown⟩)
    · obtain ⟨-, rfl⟩ := (teardown_ends_iff habsent hres).mp hteardown
      exact hcreate
    · cases ((teardown_ends_iff habsent hres).mp hteardown).1
  · intro hcreate
    exact .inl ⟨(), net₀, (teardown_ends_iff habsent hres).mpr ⟨rfl, rfl⟩, hcreate⟩

theorem count_deployed (habsent : Absent topo net₀) :
    (deployed topo net₀).rules.count topo.subnet = if topo.policyRoute then 1 else 0 := by
  have hnone : net₀.rules.count topo.subnet = 0 := Multiset.count_eq_zero.mpr habsent.rule
  rw [deployed, Stage.network]
  by_cases hroute : topo.policyRoute = true
  · rw [if_pos hroute, if_pos hroute, Multiset.count_cons_self, hnone]
  · rw [if_neg hroute, if_neg hroute, hnone]

end Convergence

/-- After any history of setups, each cut after some of its commands or completed, there is at
most one rule for the subnet. The next setup ends just as one from the original network, in
the deployed network with its one rule if its commands succeed, and a clean ends in the
original network. -/
theorem setup_converges (topo : Topology) (net₀ net : Net) (habsent : Absent topo net₀)
    (hhistory : History topo net₀ net) :
    net.rules.count topo.subnet ≤ 1 ∧
    (∀ result t, (setupTopology topo).Ends IpStep net result t ↔
      (setupTopology topo).Ends IpStep net₀ result t) ∧
    (∀ t, (setupTopology topo).Ends IpStep net (.ok ()) t →
      t = deployed topo net₀ ∧
      t.rules.count topo.subnet = if topo.policyRoute then 1 else 0) ∧
    (∀ result t, (cleanTopology topo).Ends IpStep net result t ↔
      result = .ok () ∧ t = net₀) := by
  have hres := hhistory.residue habsent
  refine ⟨hres.count_le habsent, fun result t => ?_, fun t hends => ?_, fun result t => ?_⟩
  · rw [setup_ends_iff habsent hres, setup_ends_iff habsent (Residue.refl topo net₀)]
  · have hdeployed := (setup_brings habsent hres).ends hends rfl
    rw [hdeployed]
    exact ⟨rfl, count_deployed habsent⟩
  · exact teardown_ends_iff habsent hres

/-- The topology of an Android setup with the default options. -/
def androidTopology : Topology := Topology.ofGlobal { GlobalArgs.default with mode := .android }

/-- A setup cut after it added its namespace, then one that goes through. -/
theorem setup_converges_android :
    ∃ net, net.namespaces ≠ [] ∧
      (setupTopology androidTopology).Cut IpStep ⟨[], [], 0⟩ net ∧
      (setupTopology androidTopology).Ends IpStep net (.ok ())
        (deployed androidTopology ⟨[], [], 0⟩) ∧
      (cleanTopology androidTopology).Ends IpStep net (.ok ()) ⟨[], [], 0⟩ := by
  have habsent : Absent androidTopology ⟨[], [], 0⟩ :=
    ⟨nofun, nofun, nofun, Multiset.notMem_zero _⟩
  have hcut : (setupTopology androidTopology).Cut IpStep ⟨[], [], 0⟩
      (withNamespace androidTopology ⟨[], [], 0⟩) :=
    ⟨_, .call (.fails (.inl rfl) "") <| .call (.fails (.inl rfl) "") <|
      .call (.fails (.inl rfl) "") <| .call (.succeeds rfl) <| .refl _ _⟩
  have hconverges := setup_converges androidTopology ⟨[], [], 0⟩ _ habsent (.single hcut)
  refine ⟨_, List.cons_ne_nil _ _, hcut, (hconverges.2.1 _ _).mpr ?_,
    (hconverges.2.2.2 _ _).mpr ⟨rfl, rfl⟩⟩
  exact ends_evaluate IpStep.act (setupTopology androidTopology) ⟨[], [], 0⟩

end FwVerify
