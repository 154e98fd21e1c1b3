import FwVerify.Lib.Traversals
import FwVerify.Peer.Verdict
import FwVerify.Traffic.Scan
import Mathlib.Data.Multiset.Lattice
import Mathlib.Order.Lattice

/-!
# What a tally keeps

The counters of a run add up to its probes, on either branch, and the verdict over them is the
highest level any outcome reaches: a join over the recorded outcomes, so their order does not
matter and more outcomes never lower it.

## Main definitions

* `Level` — the verdicts in their order
* `levelOf` — the join over outcomes

## Main results

* `Tally.verdict_ofOutcomes` — the verdict is the text of the join
* `trafficRun_outcomes` — a run that reports has recorded one outcome for each probe
* `tally_keeps_all` — the counts and the verdict of every run
-/

set_option autoImplicit false

namespace FwVerify

/-! ## Levels -/

/-- The verdicts, the lowest first. -/
inductive Level
  | unknown | sent | refused | blocked | allowed
  deriving DecidableEq, Repr

namespace Level

/-- The verdict as the worker spells it. -/
def text : Level → String
  | .unknown => "unknown"
  | .sent => "sent"
  | .refused => "refused"
  | .blocked => "blocked"
  | .allowed => "allowed"

/-- The place of a level in the order. -/
def rank : Level → Nat
  | .unknown => 0
  | .sent => 1
  | .refused => 2
  | .blocked => 3
  | .allowed => 4

theorem rank_injective : Function.Injective rank := by
  intro a b h
  cases a <;> cases b <;> first | rfl | cases h

instance : LinearOrder Level := LinearOrder.lift' rank rank_injective

instance : OrderBot Level where
  bot := .unknown
  bot_le a := Nat.zero_le a.rank

end Level

/-- The level an outcome reaches. -/
def Outcome.level : Outcome → Level
  | .success => .allowed
  | .timeout => .blocked
  | .refused => .refused
  | .denied => .blocked
  | .sent => .sent
  | .other => .unknown

/-- The highest level among outcomes. -/
def levelOf (outcomes : List Outcome) : Level :=
  (Multiset.map Outcome.level outcomes).sup

theorem levelOf_append (xs ys : List Outcome) : levelOf (xs ++ ys) = levelOf xs ⊔ levelOf ys := by
  rw [levelOf, ← Multiset.coe_add, Multiset.map_add, Multiset.sup_add]
  rfl

/-- A level that is reached, with no outcome above it, is the highest. -/
theorem levelOf_eq {outcomes : List Outcome} {level : Level}
    (habove : ∀ o : Outcome, level < o.level → o ∉ outcomes)
    (hreached : level = ⊥ ∨ ∃ o ∈ outcomes, o.level = level) : levelOf outcomes = level := by
  apply le_antisymm
  · rw [levelOf, Multiset.sup_le]
    intro l hl
    obtain ⟨o, ho, rfl⟩ := Multiset.mem_map.mp hl
    exact not_lt.mp fun hlt => habove o hlt ho
  · rcases hreached with rfl | ⟨o, ho, rfl⟩
    · exact bot_le
    · exact Multiset.le_sup (Multiset.mem_map_of_mem _ ho)

/-! ## The verdict is a join -/

namespace Tally

/-- Below the width of the counters the verdict is the highest level. -/
theorem verdict_ofOutcomes {outcomes : List Outcome} (hlen : outcomes.length < 2 ^ 32) :
    (ofOutcomes outcomes).verdict = (levelOf outcomes).text := by
  -- the cascade goes down the levels: each branch knows that no outcome is above it
  rw [verdict_eq hlen]
  split_ifs with hallowed hblocked hrefuse hsend
  · have hlevel : levelOf outcomes = .allowed := by
      refine levelOf_eq (fun o hlt => ?_) (.inr ⟨_, hallowed, rfl⟩)
      cases o <;> exact absurd hlt (by decide)
    rw [hlevel]
    rfl
  · have hreached : ∃ o ∈ outcomes, o.level = .blocked := by
      rcases hblocked with h | h
      · exact ⟨_, h, rfl⟩
      · exact ⟨_, h, rfl⟩
    have hlevel : levelOf outcomes = .blocked := by
      refine levelOf_eq (fun o hlt => ?_) (.inr hreached)
      cases o <;> first | exact hallowed | exact absurd hlt (by decide)
    rw [hlevel]
    rfl
  · rw [not_or] at hblocked
    have hlevel : levelOf outcomes = .refused := by
      refine levelOf_eq (fun o hlt => ?_) (.inr ⟨_, hrefuse, rfl⟩)
      cases o <;>
        first | exact hallowed | exact hblocked.1 | exact hblocked.2 | exact absurd hlt (by decide)
    rw [hlevel]
    rfl
  · rw [not_or] at hblocked
    have hlevel : levelOf outcomes = .sent := by
      refine levelOf_eq (fun o hlt => ?_) (.inr ⟨_, hsend, rfl⟩)
      cases o <;>
        first
        | exact hallowed | exact hblocked.1 | exact hblocked.2 | exact hrefuse
        | exact absurd hlt (by decide)
    rw [hlevel]
    rfl
  · rw [not_or] at hblocked
    have hlevel : levelOf outcomes = .unknown := by
      refine levelOf_eq (fun o hlt => ?_) (.inl rfl)
      cases o <;>
        first
        | exact hallowed | exact hblocked.1 | exact hblocked.2 | exact hrefuse | exact hsend
        | exact absurd hlt (by decide)
    rw [hlevel]
    rfl

/-! ## The counters -/

section Counters

variable {outcomes : List Outcome}

/-- Below the width of the counters a counter is exact. -/
theorem toNat_count (hlen : outcomes.length < 2 ^ 32) (o : Outcome) :
    ((ofOutcomes outcomes).count o).toNat = outcomes.count o := by
  rw [count_ofOutcomes, UInt32.toNat_ofNat_of_lt' (lt_of_le_of_lt List.count_le_length hlen)]

/-- Each outcome is counted by one of the six counters. -/
theorem sum_count (outcomes : List Outcome) :
    outcomes.count .success + outcomes.count .timeout + outcomes.count .refused +
      outcomes.count .denied + outcomes.count .sent + outcomes.count .other =
        outcomes.length := by
  induction outcomes with
  | nil => rfl
  | cons o later ih =>
    cases o <;> simp only [List.count_cons, List.length_cons] <;> simp <;> omega

/-- The sum of the counters as natural numbers. -/
def total (tally : Tally) : Nat :=
  tally.success.toNat + tally.timeout.toNat + tally.refused.toNat + tally.denied.toNat +
    tally.sent.toNat + tally.other.toNat

theorem total_ofOutcomes (hlen : outcomes.length < 2 ^ 32) :
    (ofOutcomes outcomes).total = outcomes.length := by
  have hcount := toNat_count hlen
  have hsuccess := hcount .success
  have htimeout := hcount .timeout
  have hrefused := hcount .refused
  have hdenied := hcount .denied
  have hsent := hcount .sent
  have hother := hcount .other
  simp only [count] at hsuccess htimeout hrefused hdenied hsent hother
  rw [total, hsuccess, htimeout, hrefused, hdenied, hsent, hother, sum_count]

/-- The sum of the counters does not overflow while it fits. -/
theorem toNat_attempts {tally : Tally} (hfits : tally.total < 2 ^ 32) :
    tally.attempts.toNat = tally.total := by
  rw [total] at hfits
  rw [attempts, total]
  simp only [UInt32.toNat_add]
  omega

theorem record_right_comm (tally : Tally) (a b : Outcome) :
    (tally.record a).record b = (tally.record b).record a := by
  cases a <;> cases b <;> rfl

/-- A tally does not depend on the order of the outcomes. -/
theorem ofOutcomes_perm {xs ys : List Outcome} (hperm : xs.Perm ys) :
    ofOutcomes xs = ofOutcomes ys :=
  hperm.foldl_eq' (fun a _ b _ tally => record_right_comm tally a b) {}

end Counters

end Tally

/-! ## Runs -/

section Runs

variable {args : TrafficArgs} {pid : UInt32} {ports : List UInt16}

theorem length_sequentialLoop (seq finOffset : UInt16) (ports : List UInt16) :
    (sequentialLoop args pid seq finOffset ports).length = ports.length := by
  induction ports generalizing seq finOffset with
  | nil => rfl
  | cons port later ih =>
    rw [sequentialLoop]
    split
    · split_ifs
      · rw [List.length_cons, ih, List.length_cons]
      · rw [List.length_cons, ih, List.length_cons]
    · rw [List.length_cons, ih, List.length_cons]
    · rw [List.length_cons, ih, List.length_cons]

theorem length_flatMap_replicate (n : Nat) (ports : List UInt16) :
    (ports.flatMap fun port => List.replicate n port).length = ports.length * n := by
  simp [List.length_flatMap]

/-- Every port is probed as often as the arguments say, on either branch. -/
theorem length_probes (args : TrafficArgs) (pid : UInt32) (ports : List UInt16) :
    (args.probes pid ports).length = ports.length * (max args.count 1).toNat := by
  rw [TrafficArgs.probes]
  split_ifs with hparallel
  · have hcount : args.count ≤ 1 := by
      simp only [firesParallel, Bool.and_eq_true, decide_eq_true_eq] at hparallel
      exact hparallel.2
    have hone : max args.count 1 = 1 := if_pos hcount
    rw [length_parallelProbes, hone]
    exact (Nat.mul_one _).symm
  · rw [sequentialProbes, length_sequentialLoop, length_flatMap_replicate]

/-- A run that reports has got its uid and its ports. -/
theorem trafficRun_ok {dropToUid : UInt32 → Except String Unit}
    {attempt : Nat → Probe → Except String Outcome} {report : TrafficReport}
    (hrun : trafficRun args pid dropToUid attempt = .ok report) :
    (∀ uid, args.uid = some uid → dropToUid uid = .ok ()) ∧
      ∃ ports, args.portList = .ok ports := by
  unfold trafficRun at hrun
  cases hports : args.portList with
  | error error =>
    rw [hports] at hrun
    cases huid : args.uid with
    | none =>
      rw [huid] at hrun
      cases hrun
    | some uid =>
      rw [huid] at hrun
      cases hdrop : dropToUid uid <;>
        · simp only [hdrop] at hrun
          cases hrun
  | ok ports =>
    refine ⟨fun uid huid => ?_, ports, rfl⟩
    rw [huid] at hrun
    cases hdrop : dropToUid uid with
    | ok => rfl
    | error error =>
      simp only [hdrop] at hrun
      cases hrun

/-- A run that reports has recorded one outcome for each of its probes. -/
theorem trafficRun_outcomes {dropToUid : UInt32 → Except String Unit}
    {attempt : Nat → Probe → Except String Outcome} {report : TrafficReport}
    (hrun : trafficRun args pid dropToUid attempt = .ok report) :
    ∃ outcomes, report = emitTraffic args report.ports (Tally.ofOutcomes outcomes) ∧
      outcomes.length = (args.probes pid report.ports).length := by
  obtain ⟨hdrop, ports, hports⟩ := trafficRun_ok hrun
  rw [trafficRun_eq hdrop hports] at hrun
  split_ifs at hrun with hparallel
  · cases hrun
    refine ⟨_, rfl, ?_⟩
    simp [TrafficArgs.probes, emitTraffic, hparallel]
  · cases hmap : (sequentialProbes args pid ports).zipIdx.mapM fun entry =>
        attempt entry.2 entry.1 with
    | error error =>
      rw [hmap] at hrun
      cases hrun
    | ok outcomes =>
      rw [hmap] at hrun
      cases hrun
      refine ⟨outcomes, rfl, ?_⟩
      rw [← (Traversal.mapM_ok_iff.mp hmap).length_eq]
      simp [TrafficArgs.probes, emitTraffic, hparallel]

end Runs

/-! ## The verdicts of sequences -/

/-- The rank of a verdict. -/
def verdictRank : String → Nat
  | "allowed" => 4
  | "blocked" => 3
  | "refused" => 2
  | "sent" => 1
  | _ => 0

/-- The higher-ranked of two verdicts. -/
def higher (v w : String) : String := if verdictRank v ≤ verdictRank w then w else v

theorem verdictRank_text (level : Level) : verdictRank level.text = level.rank := by
  cases level <;> rfl

theorem higher_text (a b : Level) : higher a.text b.text = (a ⊔ b).text := by
  rw [higher, verdictRank_text, verdictRank_text]
  split_ifs with h
  · have hle : a ≤ b := h
    rw [sup_eq_right.mpr hle]
  · have hle : ¬ a ≤ b := h
    rw [sup_eq_left.mpr (le_of_not_ge hle)]

/-- The verdict over two sequences is the higher of their verdicts. -/
theorem verdict_append {xs ys : List Outcome} (hlen : (xs ++ ys).length < 2 ^ 32) :
    (Tally.ofOutcomes (xs ++ ys)).verdict =
      higher (Tally.ofOutcomes xs).verdict (Tally.ofOutcomes ys).verdict := by
  have hsum := hlen
  rw [List.length_append] at hsum
  rw [Tally.verdict_ofOutcomes hlen, Tally.verdict_ofOutcomes (by omega),
    Tally.verdict_ofOutcomes (by omega), higher_text, levelOf_append]

theorem rank_higher (v w : String) :
    verdictRank v ≤ verdictRank (higher v w) ∧ verdictRank w ≤ verdictRank (higher v w) := by
  rw [higher]
  split_ifs with h
  · exact ⟨h, le_refl _⟩
  · exact ⟨le_refl _, by omega⟩

/-- A run that reports fewer than `2^32` probes has counted each of them once, without
overflow, and its verdict does not depend on their order. The verdict over two sequences of
outcomes is the higher-ranked of their verdicts, so more outcomes never lower it. -/
theorem tally_keeps_all :
    (∀ (args : TrafficArgs) (pid : UInt32) (dropToUid : UInt32 → Except String Unit)
      (attempt : Nat → Probe → Except String Outcome) (report : TrafficReport),
      trafficRun args pid dropToUid attempt = .ok report →
      report.ports.length * (max args.count 1).toNat < 2 ^ 32 →
      report.attempts.toNat = report.ports.length * (max args.count 1).toNat ∧
      report.tally.total = report.attempts.toNat ∧
      ∃ outcomes : List Outcome,
        outcomes.length = report.ports.length * (max args.count 1).toNat ∧
        report.tally = Tally.ofOutcomes outcomes ∧
        (∀ n o, ((Tally.ofOutcomes (outcomes.take n)).count o).toNat =
          (outcomes.take n).count o) ∧
        ∀ order : List Outcome, order.Perm outcomes →
          (Tally.ofOutcomes order).verdict = report.verdict) ∧
    (∀ xs ys : List Outcome, (xs ++ ys).length < 2 ^ 32 →
      (Tally.ofOutcomes (xs ++ ys)).verdict =
        higher (Tally.ofOutcomes xs).verdict (Tally.ofOutcomes ys).verdict ∧
      verdictRank (Tally.ofOutcomes xs).verdict ≤
        verdictRank (Tally.ofOutcomes (xs ++ ys)).verdict ∧
      verdictRank (Tally.ofOutcomes ys).verdict ≤
        verdictRank (Tally.ofOutcomes (xs ++ ys)).verdict) := by
  refine ⟨fun args pid dropToUid attempt report hrun hfew => ?_, fun xs ys hlen => ?_⟩
  · obtain ⟨outcomes, hreport, hlength⟩ := trafficRun_outcomes hrun
    rw [length_probes] at hlength
    rw [← hlength] at hfew ⊢
    have htally : report.tally = Tally.ofOutcomes outcomes := by rw [hreport, emitTraffic]
    have htotal : report.tally.total = outcomes.length := by
      rw [htally, Tally.total_ofOutcomes hfew]
    have hattempts : report.attempts.toNat = outcomes.length := by
      have hsum : report.attempts = report.tally.attempts := by rw [hreport, emitTraffic]
      rw [hsum, Tally.toNat_attempts (htotal ▸ hfew), htotal]
    refine ⟨hattempts, htotal.trans hattempts.symm, outcomes, rfl, htally, fun n o => ?_,
      fun order hperm => ?_⟩
    · exact Tally.toNat_count (lt_of_le_of_lt (List.length_take_le' n outcomes) hfew) o
    · rw [Tally.ofOutcomes_perm hperm, hreport, emitTraffic]
  · rw [verdict_append hlen]
    exact ⟨rfl, rank_higher _ _⟩

/-- Connects to two ports, twice each. -/
def connectTwice : TrafficArgs where
  proto := .tcp
  toAddr := .v4 ⟨10, 123, 0, 1⟩
  dport := none
  dports := some "80,443"
  sport := none
  count := 2
  intervalMs := 0
  timeoutMs := 1000
  awaitReply := false
  finOnly := false
  icmpType := .echo
  uid := none

/-- Four connects of which all but one time out, and a verdict that goes up. -/
theorem tally_keeps_all_four :
    (∃ report, trafficRun connectTwice 1 (fun _ => .ok ())
        (fun index _ => .ok (if index = 2 then .success else .timeout)) = .ok report ∧
      report.attempts.toNat = 4) ∧
    (Tally.ofOutcomes ([.timeout] ++ [.success])).verdict = higher "blocked" "allowed" :=
  ⟨⟨_, rfl, (tally_keeps_all.1 connectTwice 1 (fun _ => .ok ())
      (fun index _ => .ok (if index = 2 then .success else .timeout)) _ rfl (by decide)).1⟩,
    (tally_keeps_all.2 [.timeout] [.success] (by decide)).1⟩

end FwVerify
