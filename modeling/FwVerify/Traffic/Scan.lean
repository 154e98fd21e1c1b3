import FwVerify.Lib.Traversals
import FwVerify.Model.Worker
import Mathlib.Data.List.Perm.Basic

/-!
# The two ways to fire a scan

A scan of several TCP ports fires its probes from one thread each and joins the threads in
the order they were started; a run of one port, or of several attempts a port, takes the
sequential loop. For the same arguments both fire the same probes, and with the same
outcomes they report the same.

## Main definitions

* `finishThreads`, `joinThreads` — threads that finish in some order, joined in the order they
  were started
* `parallelBranch`, `sequentialBranch` — the two branches of a run

## Main results

* `parallelProbes_eq_sequentialProbes` — the same probes, index by index
* `parallel_scan_agrees` — the same probes and the same report
-/

set_option autoImplicit false

namespace FwVerify

/-! ## Probes -/

section Probes

variable {args : TrafficArgs} (pid : UInt32)

/-- Bare FINs of the sequential loop, by their index in the run. -/
theorem sequentialLoop_fin (hproto : args.proto = .tcp) (hfin : args.finOnly = true)
    (ports : List UInt16) (k : Nat) :
    sequentialLoop args pid (UInt16.ofNat k) (UInt16.ofNat k) ports =
      (ports.zipIdx k).map fun (port, index) =>
        .fin port (finSport args pid (UInt16.ofNat index)) (UInt16.ofNat index + 1).toUInt32 := by
  induction ports generalizing k with
  | nil => rfl
  | cons port later ih =>
    have hnext : UInt16.ofNat k + 1 = UInt16.ofNat (k + 1) := (UInt16.ofNat_add k 1).symm
    rw [sequentialLoop, hproto]
    simp only [hfin, if_true, List.zipIdx_cons, List.map_cons]
    rw [hnext, ih, ← hnext]

/-- Connects of the sequential loop carry no counter. -/
theorem sequentialLoop_connect (hproto : args.proto = .tcp) (hfin : args.finOnly = false)
    (seq finOffset : UInt16) (ports : List UInt16) :
    sequentialLoop args pid seq finOffset ports = ports.map (.connect · args.sport) := by
  induction ports with
  | nil => rfl
  | cons port later ih =>
    rw [sequentialLoop, hproto]
    simp only [hfin, List.map_cons, ih]
    rfl

/-- With at most one attempt a port the sequential branch goes through the ports once. -/
theorem sequentialProbes_once (hcount : args.count ≤ 1) (ports : List UInt16) :
    sequentialProbes args pid ports = sequentialLoop args pid 0 0 ports := by
  have hone : max args.count 1 = 1 := if_pos hcount
  have hports : (ports.flatMap fun port => List.replicate (1 : UInt32).toNat port) = ports :=
    List.flatMap_singleton' ports
  rw [sequentialProbes, hone, hports]

/-- Up to the largest port number, the 16-bit and the 32-bit counters agree. -/
theorem seq_eq_index {index : Nat} (hindex : index < 65535) :
    (UInt16.ofNat index + 1).toUInt32 = UInt32.ofNat index + 1 := by
  apply UInt32.toNat_inj.mp
  rw [UInt16.toNat_toUInt32, UInt16.toNat_add, UInt16.toNat_ofNat', UInt32.toNat_add,
    UInt32.toNat_ofNat', UInt16.toNat_one, UInt32.toNat_one]
  omega

theorem lt_of_mem_zipIdx {ports : List UInt16} {port : UInt16} {index : Nat}
    (hmem : (port, index) ∈ ports.zipIdx) : index < ports.length :=
  (List.mem_zipIdx' hmem).1

/-- Up to the largest port number, the two branches fire the same probes, index by index. -/
theorem parallelProbes_eq_sequentialProbes (hproto : args.proto = .tcp)
    (hcount : args.count ≤ 1) {ports : List UInt16} (hlen : ports.length ≤ 65535) :
    parallelProbes args pid ports = sequentialProbes args pid ports := by
  rw [sequentialProbes_once pid hcount, parallelProbes]
  by_cases hfin : args.finOnly = true
  · have hloop := sequentialLoop_fin pid hproto hfin ports 0
    change sequentialLoop args pid 0 0 ports = _ at hloop
    rw [hloop]
    apply List.map_congr_left
    rintro ⟨port, index⟩ hmem
    have hindex : index < 65535 := Nat.lt_of_lt_of_le (lt_of_mem_zipIdx hmem) hlen
    simp only [hfin, if_true, seq_eq_index hindex]
  · have hconnect : args.finOnly = false := Bool.eq_false_iff.mpr hfin
    rw [sequentialLoop_connect pid hproto hconnect]
    simp only [hconnect, Bool.false_eq_true, if_false]
    -- the index goes unused
    conv_rhs => rw [← List.zipIdx_map_fst 0 ports, List.map_map]
    rfl

end Probes

/-! ## Threads -/

/-- What the threads leave in their handles when they finish in the given order. -/
def finishThreads (results : List (Except String Outcome)) (order : List Nat) :
    List (Option (Except String Outcome)) :=
  order.foldl (fun handles index => handles.set index results[index]?)
    (List.replicate results.length none)

/-- Join the handles in the order of their threads; an error counts as `other`. -/
def joinThreads (handles : List (Option (Except String Outcome))) : List Outcome :=
  handles.map fun handle => (handle.bind Except.toOption).getD .other

/-- A handle holds its thread's result once that thread has finished. -/
theorem getElem?_foldl_set {results : List (Except String Outcome)} {order : List Nat}
    (hin : ∀ index ∈ order, index < results.length)
    (handles : List (Option (Except String Outcome)))
    (hlen : handles.length = results.length) (i : Nat) :
    (order.foldl (fun handles index => handles.set index results[index]?) handles)[i]? =
      if i ∈ order then some results[i]? else handles[i]? := by
  induction order generalizing handles with
  | nil => simp
  | cons index later ih =>
    have hindex : index < handles.length := by
      rw [hlen]
      exact hin index List.mem_cons_self
    rw [List.foldl_cons, ih (fun j hj => hin j (List.mem_cons_of_mem _ hj)) _
      (by rw [List.length_set, hlen]), List.getElem?_set]
    by_cases hlater : i ∈ later
    · rw [if_pos hlater, if_pos (List.mem_cons_of_mem _ hlater)]
    · by_cases heq : index = i
      · subst heq
        rw [if_neg hlater, if_pos rfl, if_pos hindex, if_pos List.mem_cons_self]
      · have hnot : i ∉ index :: later := by
          rw [List.mem_cons]
          rintro (rfl | hmem)
          · exact heq rfl
          · exact hlater hmem
        rw [if_neg hlater, if_neg heq, if_neg hnot]

/-- In whatever order they finish, the threads leave every result in its own handle. -/
theorem finishThreads_of_perm {results : List (Except String Outcome)} {order : List Nat}
    (horder : order.Perm (List.range results.length)) :
    finishThreads results order = results.map some := by
  have hmem : ∀ i, i ∈ order ↔ i < results.length := fun i =>
    (horder.mem_iff).trans List.mem_range
  apply List.ext_getElem?
  intro i
  rw [finishThreads, getElem?_foldl_set (fun index h => (hmem index).mp h) _
    List.length_replicate, List.getElem?_map]
  by_cases hi : i < results.length
  · rw [if_pos ((hmem i).mpr hi), List.getElem?_eq_getElem hi]
    rfl
  · rw [if_neg fun h => hi ((hmem i).mp h), List.getElem?_eq_none (by simpa using hi),
      List.getElem?_eq_none (by simpa using hi)]
    rfl

/-! ## Branches -/

/-- The sequential branch of a run: a failing attempt ends it. -/
def sequentialBranch (args : TrafficArgs) (pid : UInt32) (ports : List UInt16)
    (attempt : Nat → Probe → Except String Outcome) : Except String TrafficReport := do
  let outcomes ← (sequentialProbes args pid ports).zipIdx.mapM fun (probe, index) =>
    attempt index probe
  return emitTraffic args ports (Tally.ofOutcomes outcomes)

/-- The parallel branch of a run whose threads finish in the given order. -/
def parallelBranch (args : TrafficArgs) (pid : UInt32) (ports : List UInt16)
    (attempt : Nat → Probe → Except String Outcome) (order : List Nat) : TrafficReport :=
  let results := (parallelProbes args pid ports).zipIdx.map fun (probe, index) =>
    attempt index probe
  emitTraffic args ports (Tally.ofOutcomes (joinThreads (finishThreads results order)))

theorem length_parallelProbes (args : TrafficArgs) (pid : UInt32) (ports : List UInt16) :
    (parallelProbes args pid ports).length = ports.length := by
  rw [parallelProbes, List.length_map, List.length_zipIdx]

/-- The outcomes of the parallel branch do not depend on the order. -/
theorem parallelBranch_eq {args : TrafficArgs} {pid : UInt32} {ports : List UInt16}
    (attempt : Nat → Probe → Except String Outcome) {order : List Nat}
    (horder : order.Perm (List.range ports.length)) :
    parallelBranch args pid ports attempt order =
      emitTraffic args ports (Tally.ofOutcomes
        ((parallelProbes args pid ports).zipIdx.map fun (probe, index) =>
          (attempt index probe).toOption.getD .other)) := by
  have hperm : order.Perm (List.range ((parallelProbes args pid ports).zipIdx.map
      fun (probe, index) => attempt index probe).length) := by
    rwa [List.length_map, List.length_zipIdx, length_parallelProbes]
  rw [parallelBranch]
  dsimp only
  rw [finishThreads_of_perm hperm, joinThreads, List.map_map, List.map_map]
  rfl

/-- A run takes one of the two branches. -/
theorem trafficRun_eq_branches (args : TrafficArgs) (pid : UInt32)
    (dropToUid : UInt32 → Except String Unit) (attempt : Nat → Probe → Except String Outcome)
    {order : List UInt16 → List Nat}
    (horder : ∀ ports, (order ports).Perm (List.range ports.length)) :
    trafficRun args pid dropToUid attempt = (do
      if let some uid := args.uid then
        dropToUid uid
      let ports ← args.portList
      if firesParallel args ports then
        return parallelBranch args pid ports attempt (order ports)
      else
        sequentialBranch args pid ports attempt) := by
  rw [trafficRun]
  cases args.uid with
  | none => simp only [sequentialBranch, parallelBranch_eq attempt (horder _)]
  | some uid => simp only [sequentialBranch, parallelBranch_eq attempt (horder _)]

/-- Attempts that all end without an error give the sequential branch their outcomes. -/
theorem mapM_outcomes {probes : List (Probe × Nat)}
    {attempt : Nat → Probe → Except String Outcome}
    (hok : ∀ probe index, (probe, index) ∈ probes →
      ∃ outcome, attempt index probe = .ok outcome) :
    (probes.mapM fun (probe, index) => attempt index probe) =
      .ok (probes.map fun (probe, index) => (attempt index probe).toOption.getD .other) := by
  apply Traversal.mapM_of_forall
  rintro ⟨probe, index⟩ hmem
  obtain ⟨outcome, houtcome⟩ := hok probe index hmem
  simp only [houtcome]
  rfl

/-- A scan of at most the largest port number of ports takes the parallel branch, and fires
the probes the sequential loop would fire, index by index. When no attempt fails locally the
two branches report the same, in whatever order the threads finish. -/
theorem parallel_scan_agrees (args : TrafficArgs) (pid : UInt32) (ports : List UInt16)
    (hproto : args.proto = .tcp) (hcount : args.count ≤ 1) (hlow : 2 ≤ ports.length)
    (hhigh : ports.length ≤ 65535) :
    firesParallel args ports = true ∧
    parallelProbes args pid ports = sequentialProbes args pid ports ∧
    ∀ attempt : Nat → Probe → Except String Outcome,
      (∀ probe index, (parallelProbes args pid ports)[index]? = some probe →
        ∃ outcome, attempt index probe = .ok outcome) →
      ∀ order : List Nat, order.Perm (List.range ports.length) →
        sequentialBranch args pid ports attempt =
          .ok (parallelBranch args pid ports attempt order) := by
  have hprobes := parallelProbes_eq_sequentialProbes pid hproto hcount hhigh
  refine ⟨?_, hprobes, fun attempt hok order horder => ?_⟩
  · simp [firesParallel, hproto, hcount, Nat.lt_of_succ_le hlow]
  · have hlocal : ∀ probe index, (probe, index) ∈ (parallelProbes args pid ports).zipIdx →
        ∃ outcome, attempt index probe = .ok outcome :=
      fun probe index hmem => hok probe index (List.mk_mem_zipIdx_iff_getElem?.mp hmem)
    have houtcomes := mapM_outcomes hlocal
    rw [parallelBranch_eq attempt horder, sequentialBranch, ← hprobes, houtcomes]
    rfl

/-- A bare-FIN scan of two ports. -/
def finScan : TrafficArgs where
  proto := .tcp
  toAddr := .v4 ⟨10, 123, 0, 2⟩
  dport := none
  dports := some "80,443"
  sport := none
  count := 1
  intervalMs := 0
  timeoutMs := 1000
  awaitReply := false
  finOnly := true
  icmpType := .echo
  uid := none

/-- The second thread of the scan finishes first. -/
theorem parallel_scan_agrees_finScan :
    parallelProbes finScan 77 [80, 443] = sequentialProbes finScan 77 [80, 443] ∧
    sequentialBranch finScan 77 [80, 443] (fun _ _ => .ok .sent) =
      .ok (parallelBranch finScan 77 [80, 443] (fun _ _ => .ok .sent) [1, 0]) := by
  have hscan := parallel_scan_agrees finScan 77 [80, 443] rfl (by decide) (by decide) (by decide)
  exact ⟨hscan.2.1, hscan.2.2 _ (fun _ _ _ => ⟨.sent, rfl⟩) [1, 0] (by decide)⟩

end FwVerify
