import FwVerify.Traffic.Scan
import Mathlib.Data.List.Nodup

/-!
# Source ports of FIN probes

Without `--sport` each bare FIN takes the next source port from a base the process id picks;
after the last port the counter starts again from zero, where the privileged ports are moved
up. The ports of one run stay distinct until the moved ports are reached a second time, and
scans with different bases share no flow.

## Main results

* `toNat_finSport` — the source port of a probe by its index
* `fin_flows_fresh` — how long source ports stay distinct, and no flow twice
-/

set_option autoImplicit false

namespace FwVerify

/-! ## The port of an index -/

section Ports

variable {args : TrafficArgs}

/-- The base does not wrap. -/
theorem toNat_finSportBase (pid : UInt32) :
    (finSportBase pid).toNat = 20000 + pid.toNat % 2 ^ 16 % 20000 := by
  rw [finSportBase, UInt16.toNat_add, UInt16.toNat_mod, UInt32.toNat_toUInt16]
  change (20000 + pid.toNat % 2 ^ 16 % 20000) % 2 ^ 16 = _
  omega

/-- Where a port ends up: the privileged ones are moved up. -/
def remap (port : Nat) : Nat := if port < 1024 then port + 16384 else port

theorem toNat_or_high {port : UInt16} (hlow : port.toNat < 1024) :
    (port ||| 0x4000).toNat = port.toNat + 16384 := by
  have hbits : 16384 + port.toNat = 16384 ||| port.toNat :=
    Nat.two_pow_add_eq_or_of_lt (show port.toNat < 2 ^ 14 by omega) 1
  rw [UInt16.toNat_or, Nat.or_comm, Nat.add_comm]
  exact hbits.symm

/-- The source port of the probe with a given index. -/
theorem toNat_finSport (hsport : args.sport = none) (pid : UInt32) (index : Nat) :
    (finSport args pid (UInt16.ofNat index)).toNat =
      remap (((finSportBase pid).toNat + index) % 65536) := by
  have hport : (finSportBase pid + UInt16.ofNat index).toNat =
      ((finSportBase pid).toNat + index) % 65536 := by
    rw [UInt16.toNat_add, UInt16.toNat_ofNat', Nat.add_mod_mod]
  rw [finSport, hsport, Option.getD_none, ← hport, remap]
  by_cases hlow : finSportBase pid + UInt16.ofNat index < 1024
  · have hlow' : (finSportBase pid + UInt16.ofNat index).toNat < 1024 := hlow
    rw [if_pos hlow', if_pos hlow, toNat_or_high hlow']
  · have hlow' : ¬ (finSportBase pid + UInt16.ofNat index).toNat < 1024 := hlow
    rw [if_neg hlow', if_neg hlow]

theorem remap_ge (port : Nat) : 1024 ≤ remap port := by
  rw [remap]
  split_ifs with h <;> omega

/-- The port at which the first one repeats: the moved port 0 is met again as itself. -/
def firstRepeat (pid : UInt32) : Nat := 81920 - (finSportBase pid).toNat

/-- Before the first repeat no two indices share a port. -/
theorem remap_inj {base i j : Nat} (hlow : 20000 ≤ base) (hhigh : base < 40000)
    (hi : i < 81920 - base) (hj : j < 81920 - base)
    (heq : remap ((base + i) % 65536) = remap ((base + j) % 65536)) : i = j := by
  -- the counter wraps at most once: one port below the wrap, one moved or low port after it
  have hwrap : ∀ k, k < 81920 - base →
      (base + k) % 65536 = base + k ∧ base + k < 65536 ∨
        (base + k) % 65536 + 65536 = base + k := by
    intro k hk
    omega
  rw [remap, remap] at heq
  rcases hwrap i hi with ⟨hi', hi''⟩ | hi' <;> rcases hwrap j hj with ⟨hj', hj''⟩ | hj' <;>
    split_ifs at heq <;> omega

theorem finSportBase_bounds (pid : UInt32) :
    20000 ≤ (finSportBase pid).toNat ∧ (finSportBase pid).toNat < 40000 := by
  rw [toNat_finSportBase]
  omega

/-- Before the first repeat source ports are distinct. -/
theorem finSport_inj (hsport : args.sport = none) {pid : UInt32} {i j : Nat}
    (hi : i < firstRepeat pid) (hj : j < firstRepeat pid)
    (heq : finSport args pid (UInt16.ofNat i) = finSport args pid (UInt16.ofNat j)) :
    i = j := by
  have hport := congrArg UInt16.toNat heq
  rw [toNat_finSport hsport, toNat_finSport hsport] at hport
  obtain ⟨hlow, hhigh⟩ := finSportBase_bounds pid
  exact remap_inj hlow hhigh hi hj hport

/-- The first repeat takes the port of the probe that met the moved port 0. -/
theorem finSport_firstRepeat (hsport : args.sport = none) (pid : UInt32) :
    finSport args pid (UInt16.ofNat (firstRepeat pid)) =
      finSport args pid (UInt16.ofNat (65536 - (finSportBase pid).toNat)) := by
  obtain ⟨hlow, hhigh⟩ := finSportBase_bounds pid
  apply UInt16.toNat_inj.mp
  rw [toNat_finSport hsport, toNat_finSport hsport, firstRepeat]
  have hfirst : ((finSportBase pid).toNat + (65536 - (finSportBase pid).toNat)) % 65536 = 0 := by
    omega
  have hagain :
      ((finSportBase pid).toNat + (81920 - (finSportBase pid).toNat)) % 65536 = 16384 := by
    omega
  rw [hfirst, hagain]
  rfl

end Ports

/-! ## Runs -/

/-- The probes of a bare-FIN run without a fixed source port, on either branch. -/
inductive FinRun (args : TrafficArgs) (pid : UInt32) (ports : List UInt16) :
    List Probe → Prop
  | parallel (hfin : args.finOnly = true) (hsport : args.sport = none) :
      FinRun args pid ports (parallelProbes args pid ports)
  | sequential (hproto : args.proto = .tcp) (hfin : args.finOnly = true)
      (hsport : args.sport = none) :
      FinRun args pid ports (sequentialProbes args pid ports)

/-- A run that probes each port of its list once. -/
def FinScan (args : TrafficArgs) (pid : UInt32) (ports : List UInt16)
    (probes : List Probe) : Prop :=
  FinRun args pid ports probes ∧ args.count ≤ 1

/-- The source port of a probe that is given one. -/
def Probe.boundPort : Probe → Option UInt16
  | .connect _ sport => sport
  | .fin _ sport _ => some sport
  | .datagram _ sport _ => sport
  | .icmp _ _ _ => none

/-- The source and the destination port of a FIN probe. -/
def Probe.flow : Probe → Option (UInt16 × UInt16)
  | .fin dport sport _ => some (sport, dport)
  | _ => none

section Runs

variable {args : TrafficArgs} {pid : UInt32} {ports : List UInt16} {probes : List Probe}

theorem FinRun.sport_none (hrun : FinRun args pid ports probes) : args.sport = none := by
  cases hrun with
  | parallel _ hsport => exact hsport
  | sequential _ _ hsport => exact hsport

/-- A run is a list of FINs, each with the source port of its index. -/
theorem FinRun.shape (hrun : FinRun args pid ports probes) :
    ∃ (targets : List UInt16) (seq : Nat → UInt32),
      (args.count ≤ 1 → targets = ports) ∧
      probes = targets.zipIdx.map fun (port, index) =>
        .fin port (finSport args pid (UInt16.ofNat index)) (seq index) := by
  cases hrun with
  | parallel hfin hsport =>
    refine ⟨ports, fun index => UInt32.ofNat index + 1, fun _ => rfl, ?_⟩
    simp only [parallelProbes, hfin, if_true]
  | sequential hproto hfin hsport =>
    refine ⟨_, fun index => (UInt16.ofNat index + 1).toUInt32, fun hcount => ?_,
      sequentialLoop_fin pid hproto hfin _ 0⟩
    have hone : max args.count 1 = 1 := if_pos hcount
    rw [hone]
    exact List.flatMap_singleton' ports

/-- The probe of a run with a given index. -/
theorem FinRun.getElem? (hrun : FinRun args pid ports probes) {index : Nat} {probe : Probe}
    (hprobe : probes[index]? = some probe) :
    ∃ dport seq, probe = .fin dport (finSport args pid (UInt16.ofNat index)) seq ∧
      (args.count ≤ 1 → ports[index]? = some dport) := by
  obtain ⟨targets, seq, htargets, rfl⟩ := hrun.shape
  rw [List.getElem?_map, Option.map_eq_some_iff] at hprobe
  obtain ⟨⟨port, index'⟩, hget, rfl⟩ := hprobe
  rw [List.getElem?_zipIdx, Option.map_eq_some_iff] at hget
  obtain ⟨port', hport, heq⟩ := hget
  obtain ⟨rfl, rfl⟩ := Prod.mk.inj heq
  rw [Nat.zero_add]
  exact ⟨port', _, rfl, fun hcount => htargets hcount ▸ hport⟩

/-- The source ports of the first probes of a run. -/
theorem FinRun.map_boundPort_take (hrun : FinRun args pid ports probes) {n : Nat}
    (hn : n ≤ probes.length) :
    (probes.take n).map Probe.boundPort =
      (List.range n).map fun index => some (finSport args pid (UInt16.ofNat index)) := by
  apply List.ext_getElem
  · simp [hn]
  · intro index hleft hright
    have hindex : index < probes.length := by
      rw [List.length_map, List.length_take] at hleft
      omega
    obtain ⟨dport, seq, hprobe, -⟩ := hrun.getElem? (List.getElem?_eq_getElem hindex)
    rw [List.getElem_map, List.getElem_take, hprobe, List.getElem_map, List.getElem_range]
    rfl

/-- The source ports of the first probes are distinct exactly before the first repeat. -/
theorem FinRun.nodup_iff (hrun : FinRun args pid ports probes) {n : Nat}
    (hn : n ≤ probes.length) :
    ((probes.take n).map Probe.boundPort).Nodup ↔ n ≤ firstRepeat pid := by
  have hsport := hrun.sport_none
  rw [hrun.map_boundPort_take hn, List.nodup_map_iff_inj_on List.nodup_range]
  constructor
  · intro hinj
    by_contra hlong
    obtain ⟨hlow, hhigh⟩ := finSportBase_bounds pid
    have hsame := hinj (firstRepeat pid) (List.mem_range.mpr (by omega))
      (65536 - (finSportBase pid).toNat)
      (List.mem_range.mpr (by rw [firstRepeat] at hlong; omega))
      (congrArg some (finSport_firstRepeat hsport pid))
    rw [firstRepeat] at hsame
    omega
  · intro hle i hi j hj heq
    rw [List.mem_range] at hi hj
    exact finSport_inj hsport (by omega) (by omega) (Option.some.inj heq)

/-- While the counter does not wrap, scans with one flow in common have one base. -/
theorem FinScan.base_eq {args' : TrafficArgs} {pid' : UInt32} {probes' : List Probe}
    (hscan : FinScan args pid ports probes) (hscan' : FinScan args' pid' ports probes')
    (hports : ports.Nodup) (hlen : ports.length ≤ 25537) {probe probe' : Probe}
    (hmem : probe ∈ probes) (hmem' : probe' ∈ probes') (hflow : probe.flow = probe'.flow) :
    finSportBase pid = finSportBase pid' := by
  obtain ⟨i, hi⟩ := List.mem_iff_getElem?.mp hmem
  obtain ⟨j, hj⟩ := List.mem_iff_getElem?.mp hmem'
  obtain ⟨dport, seq, rfl, hdport⟩ := hscan.1.getElem? hi
  obtain ⟨dport', seq', rfl, hdport'⟩ := hscan'.1.getElem? hj
  obtain ⟨hsports, rfl⟩ := Prod.mk.inj (Option.some.inj hflow)
  -- one destination port, so one index in the list
  obtain ⟨hi', hget⟩ := List.getElem?_eq_some_iff.mp (hdport hscan.2)
  obtain ⟨hj', hget'⟩ := List.getElem?_eq_some_iff.mp (hdport' hscan'.2)
  have hindex : i = j := hports.getElem_inj_iff.mp (hget.trans hget'.symm)
  subst hindex
  have hremap := congrArg UInt16.toNat hsports
  rw [toNat_finSport hscan.1.sport_none, toNat_finSport hscan'.1.sport_none] at hremap
  obtain ⟨hlow, hhigh⟩ := finSportBase_bounds pid
  obtain ⟨hlow', hhigh'⟩ := finSportBase_bounds pid'
  rw [Nat.mod_eq_of_lt (by omega), Nat.mod_eq_of_lt (by omega), remap, remap,
    if_neg (by omega), if_neg (by omega)] at hremap
  exact UInt16.toNat_inj.mp (Nat.add_right_cancel hremap)

end Runs

/-- The base never wraps and no source port is privileged. In a run of bare FINs without a
fixed source port, on either branch, the source ports of the first probes are distinct exactly
up to number `81920 - base`, whose port is a repeated one. Scans of one duplicate-free port
list that start from different bases share no pair of source and destination port. -/
theorem fin_flows_fresh :
    (∀ pid : UInt32, (finSportBase pid).toNat = 20000 + pid.toNat % 2 ^ 16 % 20000) ∧
    (∀ (args : TrafficArgs) (pid : UInt32) (ports : List UInt16) (probes : List Probe),
      FinRun args pid ports probes →
      (∀ (index : Nat) (probe : Probe), probes[index]? = some probe →
        ∃ sport : UInt16, probe.boundPort = some sport ∧ 1024 ≤ sport.toNat) ∧
      ∀ n ≤ probes.length,
        (((probes.take n).map Probe.boundPort).Nodup ↔ n ≤ 81920 - (finSportBase pid).toNat)) ∧
    (∀ (args args' : TrafficArgs) (pid pid' : UInt32) (ports : List UInt16)
      (probes probes' : List Probe),
      FinScan args pid ports probes → FinScan args' pid' ports probes' →
      finSportBase pid ≠ finSportBase pid' → ports.Nodup → ports.length ≤ 25537 →
      ∀ probe ∈ probes, ∀ probe' ∈ probes', probe.flow ≠ probe'.flow) := by
  refine ⟨toNat_finSportBase, fun args pid ports probes hrun => ⟨?_, ?_⟩, ?_⟩
  · intro index probe hprobe
    obtain ⟨dport, seq, rfl, -⟩ := hrun.getElem? hprobe
    refine ⟨_, rfl, ?_⟩
    rw [toNat_finSport hrun.sport_none]
    exact remap_ge _
  · intro n hn
    exact hrun.nodup_iff hn
  · intro args args' pid pid' ports probes probes' hscan hscan' hbase hports hlen
      probe hmem probe' hmem' hflow
    exact hbase (hscan.base_eq hscan' hports hlen hmem hmem' hflow)

/-- Two scans of two ports by processes with different bases. -/
theorem fin_flows_fresh_two :
    ((parallelProbes finScan 1 [80, 443]).map Probe.boundPort).Nodup ∧
    ∀ probe ∈ parallelProbes finScan 1 [80, 443],
      ∀ probe' ∈ parallelProbes finScan 2 [80, 443], probe.flow ≠ probe'.flow := by
  have hrun (pid : UInt32) : FinRun finScan pid [80, 443] (parallelProbes finScan pid [80, 443]) :=
    .parallel rfl rfl
  refine ⟨(((fin_flows_fresh.2.1 _ _ _ _ (hrun 1)).2 2 (by decide)).mpr (by decide)), ?_⟩
  exact fin_flows_fresh.2.2 _ _ _ _ _ _ _ ⟨hrun 1, by decide⟩ ⟨hrun 2, by decide⟩
    (by decide) (by decide) (by decide)

end FwVerify
