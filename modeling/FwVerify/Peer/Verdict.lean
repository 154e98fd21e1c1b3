import FwVerify.Lib.Traversals
import FwVerify.Model.Worker

/-!
# The verdict of a run

How the tally of a run follows the outcomes it recorded, and the verdict of a run whose
attempts all end alike.

## Main definitions

* `Tally.count` — the counter of an outcome
* `TrafficArgs.probes` — the probes of a run, on either branch

## Main results

* `Tally.count_ofOutcomes` — a counter is the number of its outcomes
* `trafficRun_of_uniform` — the verdict of a run whose attempts all end alike
-/

set_option autoImplicit false

namespace FwVerify

namespace Tally

/-- The counter of an outcome. -/
def count (tally : Tally) : Outcome → UInt32
  | .success => tally.success
  | .timeout => tally.timeout
  | .refused => tally.refused
  | .denied => tally.denied
  | .sent => tally.sent
  | .other => tally.other

/-- Recording an outcome moves its own counter only. -/
theorem count_record (tally : Tally) (outcome o : Outcome) :
    (tally.record outcome).count o = tally.count o + if outcome = o then 1 else 0 := by
  cases outcome <;> cases o <;> simp [record, count]

theorem count_foldl_record (outcomes : List Outcome) (tally : Tally) (o : Outcome) :
    (outcomes.foldl record tally).count o = tally.count o + UInt32.ofNat (outcomes.count o) := by
  induction outcomes generalizing tally with
  | nil => simp
  | cons outcome outcomes ih =>
    rw [List.foldl_cons, ih, count_record]
    by_cases h : outcome = o
    · subst h
      rw [if_pos rfl, List.count_cons_self, Nat.add_comm, UInt32.ofNat_add, UInt32.add_assoc]
      rfl
    · rw [if_neg h, List.count_cons_of_ne h, UInt32.add_zero]

/-- A counter is the number of its outcomes, modulo the width of the counter. -/
theorem count_ofOutcomes (outcomes : List Outcome) (o : Outcome) :
    (ofOutcomes outcomes).count o = UInt32.ofNat (outcomes.count o) := by
  have hzero : ({} : Tally).count o = 0 := by cases o <;> rfl
  rw [ofOutcomes, count_foldl_record, hzero, UInt32.zero_add]

/-- Fewer outcomes than the counters can hold leave a counter at zero only if none of them
is its own. -/
theorem count_pos_iff {outcomes : List Outcome} (hlen : outcomes.length < 2 ^ 32) (o : Outcome) :
    0 < (ofOutcomes outcomes).count o ↔ o ∈ outcomes := by
  have hbound : outcomes.count o < 2 ^ 32 := lt_of_le_of_lt List.count_le_length hlen
  rw [count_ofOutcomes, UInt32.lt_iff_toNat_lt, UInt32.toNat_ofNat_of_lt' hbound]
  exact List.count_pos_iff

/-- The verdict asks which outcomes there are, in turn. -/
theorem verdict_eq {outcomes : List Outcome} (hlen : outcomes.length < 2 ^ 32) :
    (ofOutcomes outcomes).verdict =
      if .success ∈ outcomes then "allowed"
      else if .timeout ∈ outcomes ∨ .denied ∈ outcomes then "blocked"
      else if .refused ∈ outcomes then "refused"
      else if .sent ∈ outcomes then "sent"
      else "unknown" := by
  have hpos (o : Outcome) : (ofOutcomes outcomes).count o > 0 ↔ o ∈ outcomes :=
    count_pos_iff hlen o
  have hsuccess := hpos .success
  have htimeout := hpos .timeout
  have hrefused := hpos .refused
  have hdenied := hpos .denied
  have hsent := hpos .sent
  simp only [count] at hsuccess htimeout hrefused hdenied hsent
  simp only [verdict, hsuccess, htimeout, hrefused, hdenied, hsent]

end Tally

/-- The verdict that an outcome alone leads to. -/
def Outcome.verdict : Outcome → String
  | .success => "allowed"
  | .timeout => "blocked"
  | .refused => "refused"
  | .denied => "blocked"
  | .sent => "sent"
  | .other => "unknown"

/-- The verdict over outcomes that are all alike. -/
theorem Tally.verdict_of_uniform {outcomes : List Outcome} {o : Outcome} (hne : outcomes ≠ [])
    (hlen : outcomes.length < 2 ^ 32) (hall : ∀ x ∈ outcomes, x = o) :
    (Tally.ofOutcomes outcomes).verdict = o.verdict := by
  have hmem (x : Outcome) : x ∈ outcomes ↔ x = o := by
    refine ⟨hall x, ?_⟩
    rintro rfl
    obtain ⟨y, hy⟩ := List.exists_mem_of_ne_nil _ hne
    exact hall y hy ▸ hy
  rw [Tally.verdict_eq hlen]
  simp only [hmem]
  cases o <;> rfl

/-- The probes of a run, on the branch it takes. -/
def TrafficArgs.probes (args : TrafficArgs) (pid : UInt32) (ports : List UInt16) : List Probe :=
  if firesParallel args ports then parallelProbes args pid ports
  else sequentialProbes args pid ports

/-- The two branches of a run that got its uid and its ports. -/
theorem trafficRun_eq {args : TrafficArgs} {pid : UInt32}
    {dropToUid : UInt32 → Except String Unit} {attempt : Nat → Probe → Except String Outcome}
    {ports : List UInt16} (hdrop : ∀ uid, args.uid = some uid → dropToUid uid = .ok ())
    (hports : args.portList = .ok ports) :
    trafficRun args pid dropToUid attempt =
      if firesParallel args ports then
        .ok (emitTraffic args ports (Tally.ofOutcomes
          ((parallelProbes args pid ports).zipIdx.map fun entry =>
            (attempt entry.2 entry.1).toOption.getD .other)))
      else
        ((sequentialProbes args pid ports).zipIdx.mapM fun entry =>
          attempt entry.2 entry.1).map fun outcomes =>
            emitTraffic args ports (Tally.ofOutcomes outcomes) := by
  unfold trafficRun
  cases huid : args.uid with
  | none => simp [hports]; rfl
  | some uid => simp [hports, hdrop uid huid]; rfl

/-- A run reports the verdict of its only outcome when all attempts end alike. -/
theorem trafficRun_of_uniform {args : TrafficArgs} {pid : UInt32}
    {dropToUid : UInt32 → Except String Unit} {attempt : Nat → Probe → Except String Outcome}
    {ports : List UInt16} {o : Outcome}
    (hdrop : ∀ uid, args.uid = some uid → dropToUid uid = .ok ())
    (hports : args.portList = .ok ports) (hne : args.probes pid ports ≠ [])
    (hlen : (args.probes pid ports).length < 2 ^ 32)
    (hall : ∀ entry ∈ (args.probes pid ports).zipIdx, attempt entry.2 entry.1 = .ok o) :
    ∃ report, trafficRun args pid dropToUid attempt = .ok report ∧ report.verdict = o.verdict := by
  set outcomes := List.replicate (args.probes pid ports).length o with houtcomes
  refine ⟨emitTraffic args ports (Tally.ofOutcomes outcomes), ?_, ?_⟩
  · rw [trafficRun_eq hdrop hports]
    -- both branches record one outcome for each probe
    by_cases hparallel : firesParallel args ports
    · have hprobes : args.probes pid ports = parallelProbes args pid ports := if_pos hparallel
      have hmap : ((parallelProbes args pid ports).zipIdx.map fun entry =>
          (attempt entry.2 entry.1).toOption.getD .other) = outcomes := by
        rw [houtcomes, hprobes, List.eq_replicate_iff]
        refine ⟨by simp, fun x hx => ?_⟩
        obtain ⟨entry, hentry, rfl⟩ := List.mem_map.mp hx
        rw [hall entry (hprobes ▸ hentry)]
        rfl
      rw [if_pos hparallel, hmap]
    · have hprobes : args.probes pid ports = sequentialProbes args pid ports := if_neg hparallel
      have hmapM : ((sequentialProbes args pid ports).zipIdx.mapM fun entry =>
          attempt entry.2 entry.1) = .ok outcomes := by
        rw [← hprobes, Traversal.mapM_of_forall hall, List.map_const', List.length_zipIdx]
      rw [if_neg hparallel, hmapM]
      rfl
  · refine Tally.verdict_of_uniform ?_ ?_ fun x hx => List.eq_of_mem_replicate hx
    · simpa [houtcomes] using hne
    · simpa [houtcomes] using hlen

end FwVerify
