import FwVerify.Lib.Batching
import FwVerify.Model.Runner

/-!
# The batched run

What every run over the catalog keeps to, whatever is selected and however the outside
world answers: each selected case has one result, each needed bundle one provisioning
attempt, and a case is executed only under the rules of its own bundle.

## Main definitions

* `Batched` — the shape of the events of a batched run
* `Ready` — a provisioning attempt that went through for a bundle
* `lastAttempt` — the most recent provisioning attempt

## Main results

* `runFiltered_batched` — a run has that shape, and its results and counter follow its events
* `runFiltered_discipline` — what follows for the results, the attempts and the cases
* `runOne_eq_runFiltered` — running one case by its id is a batched run
-/

set_option autoImplicit false

namespace FwVerify

open Batching

namespace Event

/-- The case an event settles. -/
def settled : Event → Option FwCase
  | .ran c _ => some c
  | .refused c _ => some c
  | _ => none

/-- The result of a settled case. -/
def result (cfg : RunConfig) : Event → Option CaseResult
  | .ran c steps => some (runCase cfg c steps).1
  | .refused c error => some (provisionError c error)
  | _ => none

/-- The bundle of a provisioning attempt. -/
def attempted : Event → Option Bundle
  | .provision bundle .. => some bundle
  | _ => none

/-- The event is an attempt that provisioned the bundle: its own rule text was delivered,
and its traffic cycle too when it has one. -/
inductive Ready (cfg : RunConfig) (bundle : Bundle) : Event → Prop
  | intro (ver : Int64) (cycle : Option (UInt64 × Except String Unit))
      (delivered : ∀ secs, trafficCycle bundle = some secs → cycle = some (secs, .ok ())) :
      Ready cfg bundle (.provision bundle (firewallText bundle cfg) (.ok ver) cycle)

end Event

/-- An attempt says in its event whether it went through. -/
theorem provisionBundle_cases (cfg : RunConfig) (world : World) (trace : List Event)
    (bundle : Bundle) :
    (provisionBundle cfg world trace bundle).1.attempted = some bundle ∧
      (((provisionBundle cfg world trace bundle).2 = .ok () ∧
          (provisionBundle cfg world trace bundle).1.Ready cfg bundle) ∨
        ∃ error, (provisionBundle cfg world trace bundle).2 = .error error ∧
          ¬ (provisionBundle cfg world trace bundle).1.Ready cfg bundle) := by
  unfold provisionBundle
  dsimp only
  -- delivery fails; or it goes through and there is no cycle; or the cycle decides
  cases provisionFirewall cfg.mode (world.firewall trace bundle (firewallText bundle cfg)) with
  | error error => exact ⟨rfl, .inr ⟨error, rfl, nofun⟩⟩
  | ok ver =>
    cases hcycle : trafficCycle bundle with
    | none => exact ⟨rfl, .inl ⟨rfl, .intro ver none fun secs h => by simp [hcycle] at h⟩⟩
    | some secs =>
      dsimp only
      cases houtcome : provisionTrafficCycle cfg.mode secs (world.cycle trace bundle) with
      | error error =>
        refine ⟨rfl, .inr ⟨error, rfl, ?_⟩⟩
        rintro ⟨-, -, hdelivered⟩
        simpa using hdelivered secs hcycle
      | ok =>
        refine ⟨rfl, .inl ⟨rfl, .intro ver _ fun secs' h => ?_⟩⟩
        obtain rfl : secs = secs' := by simpa [hcycle] using h
        rfl

/-! ## The shape of a run -/

/-- An event of executing the case. -/
def Runs (c : FwCase) (ev : Event) : Prop := ∃ steps, ev = .ran c steps

/-- An event of refusing the case. -/
def Refuses (c : FwCase) (ev : Event) : Prop := ∃ error, ev = .refused c error

/-- The events of a batched run over some bundles: a bundle with no selected case leaves
none; any other has one attempt, and then its members in order, all executed or all
refused. -/
inductive Batched (cfg : RunConfig) (keep : FwCase → Bool) : List Bundle → List Event → Prop
  | nil : Batched cfg keep [] []
  | skip {bundle : Bundle} {bundles : List Bundle} {later : List Event}
      (none : members keep bundle = []) (rest : Batched cfg keep bundles later) :
      Batched cfg keep (bundle :: bundles) later
  | ran {bundle : Bundle} {bundles : List Bundle} {attempt : Event} {evs later : List Event}
      (some : members keep bundle ≠ []) (attempted : attempt.attempted = .some bundle)
      (ready : attempt.Ready cfg bundle) (each : List.Forall₂ Runs (members keep bundle) evs)
      (rest : Batched cfg keep bundles later) :
      Batched cfg keep (bundle :: bundles) (attempt :: (evs ++ later))
  | refused {bundle : Bundle} {bundles : List Bundle} {attempt : Event} {evs later : List Event}
      (some : members keep bundle ≠ []) (attempted : attempt.attempted = .some bundle)
      (failed : ¬ attempt.Ready cfg bundle)
      (each : List.Forall₂ Refuses (members keep bundle) evs)
      (rest : Batched cfg keep bundles later) :
      Batched cfg keep (bundle :: bundles) (attempt :: (evs ++ later))

/-- A run grew by some events: its results and its counter follow them. -/
structure Grew (cfg : RunConfig) (s t : RunState) (evs : List Event) : Prop where
  trace : t.trace = s.trace ++ evs
  results : t.results = s.results ++ evs.filterMap (Event.result cfg)
  completed : t.completed = s.completed + (evs.filterMap Event.settled).length

section Grew

variable {cfg : RunConfig} {keep : FwCase → Bool} {world : World}

theorem Grew.refl (s : RunState) : Grew cfg s s [] := ⟨by simp, by simp, by simp⟩

theorem Grew.trans {s t u : RunState} {evs evs' : List Event} (h : Grew cfg s t evs)
    (h' : Grew cfg t u evs') : Grew cfg s u (evs ++ evs') where
  trace := by rw [h'.trace, h.trace, List.append_assoc]
  results := by rw [h'.results, h.results, List.filterMap_append, List.append_assoc]
  completed := by
    rw [h'.completed, h.completed, List.filterMap_append, List.length_append, Nat.add_assoc]

/-- Steps that each add an event of their case to a run. -/
theorem grew_each {step : RunState → FwCase → RunState} {R : FwCase → Event → Prop}
    (hstep : ∀ s c, ∃ ev, Grew cfg s (step s c) [ev] ∧ R c ev) (cases : List FwCase)
    (s : RunState) :
    ∃ evs, Grew cfg s (cases.foldl step s) evs ∧ List.Forall₂ R cases evs := by
  induction cases generalizing s with
  | nil => exact ⟨[], .refl s, .nil⟩
  | cons c cases ih =>
    obtain ⟨ev, hfirst, hev⟩ := hstep s c
    obtain ⟨evs, hgrew, heach⟩ := ih (step s c)
    exact ⟨_, hfirst.trans hgrew, .cons hev heach⟩

theorem grew_runMembers (cases : List FwCase) (s : RunState) :
    ∃ evs, Grew cfg s (cases.foldl (runMember cfg world) s) evs ∧
      List.Forall₂ Runs cases evs :=
  grew_each (fun s c => ⟨.ran c (world.steps s.trace c), ⟨rfl, rfl, rfl⟩, _, rfl⟩) cases s

theorem grew_refuseMembers (error : String) (cases : List FwCase) (s : RunState) :
    ∃ evs, Grew cfg s (cases.foldl (refuseMember error) s) evs ∧
      List.Forall₂ Refuses cases evs :=
  grew_each (fun _ c => ⟨.refused c error, ⟨rfl, rfl, rfl⟩, _, rfl⟩) cases s

/-- One round adds an attempt and its members, or nothing. -/
theorem grew_runBundles (bundles : List Bundle) (s : RunState) :
    ∃ evs, Grew cfg s (bundles.foldl (runBundle cfg keep world) s) evs ∧
      Batched cfg keep bundles evs := by
  induction bundles generalizing s with
  | nil => exact ⟨[], .refl s, .nil⟩
  | cons bundle bundles ih =>
    rw [List.foldl_cons]
    -- the round is skipped, or its attempt goes through or fails; the rest is by induction
    by_cases hmembers : members keep bundle = []
    · have hsame : runBundle cfg keep world s bundle = s := by simp [runBundle, hmembers]
      obtain ⟨evs, hgrew, hrest⟩ := ih s
      rw [hsame]
      exact ⟨evs, hgrew, .skip hmembers hrest⟩
    · rcases hrun : provisionBundle cfg world s.trace bundle with ⟨attempt, outcome⟩
      obtain ⟨hattempted, hends⟩ := provisionBundle_cases cfg world s.trace bundle
      rw [hrun] at hattempted hends
      have hstart : Grew cfg s { s with trace := s.trace ++ [attempt] } [attempt] := by
        cases attempt <;> simp [Event.attempted] at hattempted
        exact ⟨rfl, by simp [Event.result], by simp [Event.settled]⟩
      rcases hends with ⟨houtcome, hready⟩ | ⟨error, houtcome, hfailed⟩
      · obtain rfl : outcome = .ok () := houtcome
        have hround : runBundle cfg keep world s bundle =
            (members keep bundle).foldl (runMember cfg world)
              { s with trace := s.trace ++ [attempt] } := by
          simp [runBundle, hmembers, hrun]
        obtain ⟨evs, hgrew, heach⟩ := grew_runMembers (members keep bundle)
          { s with trace := s.trace ++ [attempt] }
        obtain ⟨later, hlater, hrest⟩ := ih (runBundle cfg keep world s bundle)
        rw [hround] at hlater ⊢
        exact ⟨attempt :: (evs ++ later), hstart.trans (hgrew.trans hlater),
          .ran hmembers hattempted hready heach hrest⟩
      · obtain rfl : outcome = .error error := houtcome
        have hround : runBundle cfg keep world s bundle =
            (members keep bundle).foldl (refuseMember error)
              { s with trace := s.trace ++ [attempt] } := by
          simp [runBundle, hmembers, hrun]
        obtain ⟨evs, hgrew, heach⟩ := grew_refuseMembers error (members keep bundle)
          { s with trace := s.trace ++ [attempt] }
        obtain ⟨later, hlater, hrest⟩ := ih (runBundle cfg keep world s bundle)
        rw [hround] at hlater ⊢
        exact ⟨attempt :: (evs ++ later), hstart.trans (hgrew.trans hlater),
          .refused hmembers hattempted hfailed heach hrest⟩

end Grew

/-! ## What the shape says -/

section Settled

theorem Runs.settled {c : FwCase} {ev : Event} (h : Runs c ev) : ev.settled = some c := by
  obtain ⟨steps, rfl⟩ := h
  rfl

theorem Refuses.settled {c : FwCase} {ev : Event} (h : Refuses c ev) : ev.settled = some c := by
  obtain ⟨error, rfl⟩ := h
  rfl

/-- No case is both executed and refused by one event. -/
theorem Refuses.not_runs {c c' : FwCase} {ev : Event} (h : Refuses c ev) : ¬ Runs c' ev := by
  obtain ⟨error, rfl⟩ := h
  rintro ⟨steps, hsteps⟩
  cases hsteps

/-- An event that settles a case is no attempt. -/
theorem attempted_of_settled {ev : Event} {c : FwCase} (h : ev.settled = some c) :
    ev.attempted = none := by
  cases ev <;> simp [Event.settled, Event.attempted] at h ⊢

theorem settled_of_attempted {ev : Event} {bundle : Bundle} (h : ev.attempted = some bundle) :
    ev.settled = none := by
  cases ev <;> simp [Event.settled, Event.attempted] at h ⊢

variable {R : FwCase → Event → Prop} {cases : List FwCase} {evs : List Event}

/-- Events that settle the cases one by one settle them in order. -/
theorem settled_of_each (hR : ∀ {c ev}, R c ev → ev.settled = some c)
    (h : List.Forall₂ R cases evs) : evs.filterMap Event.settled = cases := by
  induction h with
  | nil => rfl
  | cons hfirst _ ih => rw [List.filterMap_cons_some (hR hfirst), ih]

theorem attempted_of_each (hR : ∀ {c ev}, R c ev → ev.settled = some c)
    (h : List.Forall₂ R cases evs) : evs.filterMap Event.attempted = [] := by
  induction h with
  | nil => rfl
  | cons hfirst _ ih =>
    rw [List.filterMap_cons_none (attempted_of_settled (hR hfirst)), ih]

end Settled

theorem bundle_of_mem_members {keep : FwCase → Bool} {bundle : Bundle} {c : FwCase}
    (hc : c ∈ members keep bundle) : c.bundle = bundle := by
  have hkey := (List.mem_filter.mp hc).2
  simp only [Bool.and_eq_true, beq_iff_eq] at hkey
  exact hkey.1

namespace Batched

variable {cfg : RunConfig} {keep : FwCase → Bool} {bundles : List Bundle} {evs : List Event}

/-- The settled cases are the members of the bundles, in order. -/
theorem settled_eq (h : Batched cfg keep bundles evs) :
    evs.filterMap Event.settled = bundles.flatMap (members keep) := by
  induction h with
  | nil => rfl
  | skip hnone _ ih => rw [ih, List.flatMap_cons, hnone, List.nil_append]
  | ran _ hattempted _ heach _ ih =>
    rw [List.filterMap_cons_none (settled_of_attempted hattempted), List.filterMap_append,
      settled_of_each Runs.settled heach, ih, List.flatMap_cons]
  | refused _ hattempted _ heach _ ih =>
    rw [List.filterMap_cons_none (settled_of_attempted hattempted), List.filterMap_append,
      settled_of_each Refuses.settled heach, ih, List.flatMap_cons]

/-- The attempted bundles are those of the bundles that have members, in order. -/
theorem attempted_eq (h : Batched cfg keep bundles evs) :
    evs.filterMap Event.attempted = bundles.filter fun b => !(members keep b).isEmpty := by
  induction h with
  | nil => rfl
  | skip hnone _ ih => rw [ih, List.filter_cons_of_neg (by simp [hnone])]
  | ran hsome hattempted _ heach _ ih =>
    rw [List.filterMap_cons_some hattempted, List.filterMap_append,
      attempted_of_each Runs.settled heach, List.nil_append, ih,
      List.filter_cons_of_pos (by simpa using hsome)]
  | refused hsome hattempted _ heach _ ih =>
    rw [List.filterMap_cons_some hattempted, List.filterMap_append,
      attempted_of_each Refuses.settled heach, List.nil_append, ih,
      List.filter_cons_of_pos (by simpa using hsome)]

end Batched

/-! ## Executed under their own rules -/

/-- The attempt that is in force after an event. -/
def inForce (last : Option Event) (ev : Event) : Option Event :=
  if ev.attempted.isSome then some ev else last

/-- The most recent provisioning attempt. -/
def lastAttempt (evs : List Event) : Option Event := evs.foldl inForce none

/-- Every executed case finds an attempt in force that provisioned its bundle; `last` is in
force at the start. -/
def UnderOwn (cfg : RunConfig) : Option Event → List Event → Prop
  | _, [] => True
  | last, ev :: later =>
    (∀ c, Runs c ev → ∃ attempt, last = some attempt ∧ attempt.Ready cfg c.bundle) ∧
      UnderOwn cfg (inForce last ev) later

section UnderOwn

variable {cfg : RunConfig} {keep : FwCase → Bool}

theorem inForce_of_settled {last : Option Event} {ev : Event} {c : FwCase}
    (h : ev.settled = some c) : inForce last ev = last := by
  simp [inForce, attempted_of_settled h]

theorem inForce_of_attempted {last : Option Event} {ev : Event} {bundle : Bundle}
    (h : ev.attempted = some bundle) : inForce last ev = some ev := by
  simp [inForce, h]

/-- An attempt executes nothing itself. -/
theorem not_runs_of_attempted {ev : Event} {bundle : Bundle} (h : ev.attempted = some bundle)
    (c : FwCase) : ¬ Runs c ev := by
  intro hrun
  have hsettled := hrun.settled
  rw [settled_of_attempted h] at hsettled
  cases hsettled

/-- The members of a bundle leave the attempt in force that they were settled under. -/
theorem UnderOwn.of_each {R : FwCase → Event → Prop} {cases : List FwCase}
    {last : Option Event} {evs later : List Event}
    (hR : ∀ {c ev}, R c ev → ev.settled = some c)
    (hready : ∀ c ∈ cases, ∀ ev, R c ev → Runs c ev →
      ∃ attempt, last = some attempt ∧ attempt.Ready cfg c.bundle)
    (heach : List.Forall₂ R cases evs) (hlater : UnderOwn cfg last later) :
    UnderOwn cfg last (evs ++ later) := by
  induction heach with
  | nil => exact hlater
  | @cons c ev cases evs hfirst _ ih =>
    refine ⟨fun c' hrun => ?_, ?_⟩
    · obtain rfl : c = c' := Option.some.inj ((hR hfirst).symm.trans hrun.settled)
      exact hready c List.mem_cons_self ev hfirst hrun
    · rw [inForce_of_settled (hR hfirst)]
      exact ih fun c hc => hready c (List.mem_cons_of_mem _ hc)

theorem Batched.underOwn {bundles : List Bundle} {evs : List Event}
    (h : Batched cfg keep bundles evs) (last : Option Event) : UnderOwn cfg last evs := by
  induction h generalizing last with
  | nil => exact trivial
  | skip _ _ ih => exact ih last
  | @ran bundle bundles attempt evs later _ hattempted hready heach _ ih =>
    refine ⟨fun c hrun => absurd hrun (not_runs_of_attempted hattempted c), ?_⟩
    rw [inForce_of_attempted hattempted]
    refine .of_each Runs.settled (fun c hc _ _ _ => ⟨attempt, rfl, ?_⟩) heach (ih _)
    rwa [bundle_of_mem_members hc]
  | refused _ hattempted _ heach _ ih =>
    refine ⟨fun c hrun => absurd hrun (not_runs_of_attempted hattempted c), ?_⟩
    rw [inForce_of_attempted hattempted]
    exact .of_each Refuses.settled (fun _ _ _ hrefuse hrun => absurd hrun hrefuse.not_runs)
      heach (ih _)

/-- At every executed case the attempt in force is the most recent one. -/
theorem UnderOwn.ready {last : Option Event} {before after : List Event} {c : FwCase}
    {steps : CaseSteps} (h : UnderOwn cfg last (before ++ .ran c steps :: after)) :
    ∃ attempt, before.foldl inForce last = some attempt ∧ attempt.Ready cfg c.bundle := by
  induction before generalizing last with
  | nil => exact h.1 c ⟨steps, rfl⟩
  | cons ev before ih => exact ih h.2

/-- The attempt in force is one of the events. -/
theorem mem_of_inForce {last : Option Event} {evs : List Event} {attempt : Event}
    (h : evs.foldl inForce last = some attempt) : last = some attempt ∨ attempt ∈ evs := by
  induction evs generalizing last with
  | nil => exact .inl h
  | cons ev evs ih =>
    rcases ih h with hlast | hmem
    · by_cases hattempted : ev.attempted.isSome
      · obtain rfl : ev = attempt := by simpa [inForce, hattempted] using hlast
        exact .inr List.mem_cons_self
      · exact .inl (by simpa [inForce, hattempted] using hlast)
    · exact .inr (List.mem_cons_of_mem _ hmem)

end UnderOwn

theorem Event.Ready.attempted {cfg : RunConfig} {bundle : Bundle} {ev : Event}
    (h : ev.Ready cfg bundle) : ev.attempted = some bundle := by
  cases h
  rfl

/-- Two elements with the same image are one when the images have no duplicates. -/
theorem eq_of_nodup_filterMap {α β : Type} {f : α → Option β} {xs : List α} {x y : α} {b : β}
    (h : (xs.filterMap f).Nodup) (hx : x ∈ xs) (hy : y ∈ xs) (hfx : f x = some b)
    (hfy : f y = some b) : x = y := by
  induction xs with
  | nil => cases hx
  | cons z xs ih =>
    have hmem {w : α} (hw : w ∈ xs) (hfw : f w = some b) : b ∈ xs.filterMap f :=
      List.mem_filterMap.mpr ⟨w, hw, hfw⟩
    cases hz : f z with
    | none =>
      rw [List.filterMap_cons_none hz] at h
      have hne {w : α} (hfw : f w = some b) : w ≠ z := by
        rintro rfl
        rw [hz] at hfw
        cases hfw
      exact ih h (List.mem_of_ne_of_mem (hne hfx) hx) (List.mem_of_ne_of_mem (hne hfy) hy)
    | some b' =>
      rw [List.filterMap_cons_some hz, List.nodup_cons] at h
      -- the head's image occurs once, so either both are the head or neither is
      rcases List.mem_cons.mp hx with rfl | hx'
      · rcases List.mem_cons.mp hy with rfl | hy'
        · rfl
        · obtain rfl : b' = b := Option.some.inj (hz.symm.trans hfx)
          exact absurd (hmem hy' hfy) h.1
      · rcases List.mem_cons.mp hy with rfl | hy'
        · obtain rfl : b' = b := Option.some.inj (hz.symm.trans hfy)
          exact absurd (hmem hx' hfx) h.1
        · exact ih h.2 hx' hy'

/-! ## The discipline -/

@[simp] theorem result_id (c : FwCase) (status detail : String) :
    (result c status detail).id = c.id := rfl

theorem runTrafficCase_id (cfg : RunConfig) (c : FwCase) (steps : CaseSteps) :
    (runTrafficCase cfg c steps).id = c.id := by
  unfold runTrafficCase
  split
  · rfl
  · split
    · rfl
    · split <;> rfl

/-- A result carries the id of its case. -/
theorem runCase_id (cfg : RunConfig) (c : FwCase) (steps : CaseSteps) :
    (runCase cfg c steps).1.id = c.id := by
  unfold runCase
  split
  · rfl
  · split
    · exact runTrafficCase_id cfg c steps
    · split
      · rfl
      · split
        · rfl
        · split <;> rfl

theorem Event.result_id (cfg : RunConfig) (ev : Event) :
    (ev.result cfg).map (·.id) = ev.settled.map (·.id) := by
  cases ev with
  | ran c steps => simp [Event.result, Event.settled, runCase_id]
  | refused c error => rfl
  | trafficRule => rfl
  | provision => rfl

/-- A settled case has its result among the results. -/
theorem results_ids (cfg : RunConfig) (evs : List Event) :
    (evs.filterMap (Event.result cfg)).map (·.id) =
      (evs.filterMap Event.settled).map (·.id) := by
  induction evs with
  | nil => rfl
  | cons ev evs ih =>
    have hev := ev.result_id cfg
    cases hresult : ev.result cfg <;> cases hsettled : ev.settled <;>
      simp [hresult, hsettled] at hev <;> simp [hresult, hsettled, ih, hev]

/-- The selected cases in bundle order. -/
def selected (keep : FwCase → Bool) : List FwCase := bundleOrder.flatMap (members keep)

theorem selected_eq_batches (keep : FwCase → Bool) :
    selected keep = batches (·.bundle) bundleOrder (allCases.filter keep) := by
  refine congrArg (bundleOrder.flatMap ·) (funext fun bundle => ?_)
  rw [members, batch, List.filter_filter]

theorem selected_perm (keep : FwCase → Bool) : (selected keep).Perm (allCases.filter keep) := by
  rw [selected_eq_batches]
  exact batches_perm bundleOrder_nodup fun c _ => bundle_mem_bundleOrder c.bundle

theorem selected_ids_nodup (keep : FwCase → Bool) : ((selected keep).map (·.id)).Nodup := by
  rw [((selected_perm keep).map _).nodup_iff]
  exact allCases_ids_nodup.sublist (List.filter_sublist.map _)

/-- The run grew by the events of a batched run over all bundles. -/
def BatchedRun (cfg : RunConfig) (keep : FwCase → Bool) (run : RunState) : Prop :=
  ∃ world evs, Grew cfg (runStart cfg world) run evs ∧ Batched cfg keep bundleOrder evs

theorem runFiltered_batched (cfg : RunConfig) (keep : FwCase → Bool) (world : World) :
    BatchedRun cfg keep (runFiltered cfg keep world) :=
  ⟨world, grew_runBundles bundleOrder (runStart cfg world)⟩

namespace BatchedRun

variable {cfg : RunConfig} {keep : FwCase → Bool} {run : RunState}

/-- The first event settles nothing and attempts nothing. -/
theorem trace_eq (h : BatchedRun cfg keep run) :
    ∃ outcome evs, run.trace = .trafficRule outcome :: evs ∧ Batched cfg keep bundleOrder evs := by
  obtain ⟨world, evs, hgrew, hbatched⟩ := h
  exact ⟨_, evs, hgrew.trace, hbatched⟩

theorem settled_eq (h : BatchedRun cfg keep run) :
    run.trace.filterMap Event.settled = selected keep := by
  obtain ⟨outcome, evs, htrace, hbatched⟩ := h.trace_eq
  rw [htrace]
  exact hbatched.settled_eq

theorem results_eq (h : BatchedRun cfg keep run) :
    run.results = run.trace.filterMap (Event.result cfg) := by
  obtain ⟨world, evs, hgrew, -⟩ := h
  rw [hgrew.trace]
  exact hgrew.results

theorem ids_eq (h : BatchedRun cfg keep run) :
    run.results.map (·.id) = (selected keep).map (·.id) := by
  rw [h.results_eq, results_ids, h.settled_eq]

theorem counter_eq (h : BatchedRun cfg keep run) : run.completed = total keep := by
  obtain ⟨world, evs, hgrew, hbatched⟩ := h
  rw [hgrew.completed, hbatched.settled_eq]
  change 0 + (selected keep).length = total keep
  rw [Nat.zero_add, (selected_perm keep).length_eq, total]

theorem attempted_eq (h : BatchedRun cfg keep run) :
    run.trace.filterMap Event.attempted =
      bundleOrder.filter fun b => !(members keep b).isEmpty := by
  obtain ⟨outcome, evs, htrace, hbatched⟩ := h.trace_eq
  rw [htrace]
  exact hbatched.attempted_eq

theorem attempted_nodup (h : BatchedRun cfg keep run) :
    (run.trace.filterMap Event.attempted).Nodup := by
  rw [h.attempted_eq]
  exact bundleOrder_nodup.filter _

/-- An attempted bundle has a selected case. -/
theorem needed (h : BatchedRun cfg keep run) {bundle : Bundle}
    (hmem : bundle ∈ run.trace.filterMap Event.attempted) :
    ∃ c ∈ allCases, keep c = true ∧ c.bundle = bundle := by
  rw [h.attempted_eq] at hmem
  obtain ⟨c, hc⟩ := List.exists_mem_of_ne_nil _ (by simpa using (List.mem_filter.mp hmem).2)
  obtain ⟨hcase, hkey⟩ := List.mem_filter.mp hc
  simp only [Bool.and_eq_true, beq_iff_eq] at hkey
  exact ⟨c, hcase, hkey.2, hkey.1⟩

/-- A settled case is a selected case of the catalog. -/
theorem mem_settled (h : BatchedRun cfg keep run) {c : FwCase} :
    c ∈ run.trace.filterMap Event.settled ↔ c ∈ allCases ∧ keep c = true := by
  rw [h.settled_eq, (selected_perm keep).mem_iff]
  exact List.mem_filter

/-- A settled case is settled by one event only. -/
theorem settled_once (h : BatchedRun cfg keep run) {ev ev' : Event} {c : FwCase}
    (hev : ev ∈ run.trace) (hev' : ev' ∈ run.trace) (hc : ev.settled = some c)
    (hc' : ev'.settled = some c) : ev = ev' := by
  refine eq_of_nodup_filterMap ?_ hev hev' hc hc'
  rw [h.settled_eq]
  exact (selected_ids_nodup keep).of_map _

/-- An executed case finds its own rules in force. -/
theorem own_rules (h : BatchedRun cfg keep run) {before after : List Event} {c : FwCase}
    {steps : CaseSteps} (hsplit : run.trace = before ++ .ran c steps :: after) :
    ∃ attempt, lastAttempt before = some attempt ∧ attempt.Ready cfg c.bundle := by
  obtain ⟨outcome, evs, htrace, hbatched⟩ := h.trace_eq
  have hunder : UnderOwn cfg none (.trafficRule outcome :: evs) := by
    refine ⟨?_, hbatched.underOwn _⟩
    rintro c ⟨steps, hsteps⟩
    cases hsteps
  rw [← htrace, hsplit] at hunder
  exact hunder.ready

/-- No case is executed in a run whose attempt at its bundle failed. -/
theorem not_ran (h : BatchedRun cfg keep run) {attempt : Event} (hmem : attempt ∈ run.trace)
    {c : FwCase} (hattempted : attempt.attempted = some c.bundle)
    (hfailed : ¬ attempt.Ready cfg c.bundle) (steps : CaseSteps) :
    .ran c steps ∉ run.trace := by
  intro hran
  obtain ⟨before, after, hsplit⟩ := List.append_of_mem hran
  obtain ⟨own, hlast, hready⟩ := h.own_rules hsplit
  have hown : own ∈ run.trace := by
    rw [hsplit]
    rcases mem_of_inForce hlast with hnone | hbefore
    · cases hnone
    · exact List.mem_append_left _ hbefore
  -- the attempt in force is the only one of the bundle
  obtain rfl := eq_of_nodup_filterMap h.attempted_nodup hown hmem hready.attempted hattempted
  exact hfailed hready

/-- A selected case that is not executed is reported as a provisioning failure. -/
theorem refused (h : BatchedRun cfg keep run) {c : FwCase} (hc : c ∈ allCases)
    (hkeep : keep c = true) (hnone : ∀ steps, .ran c steps ∉ run.trace) :
    ∃ error, provisionError c error ∈ run.results := by
  obtain ⟨ev, hev, hsettled⟩ := List.mem_filterMap.mp (h.mem_settled.mpr ⟨hc, hkeep⟩)
  cases ev with
  | ran c' steps =>
    obtain rfl : c' = c := Option.some.inj hsettled
    exact absurd hev (hnone steps)
  | refused c' error =>
    obtain rfl : c' = c := Option.some.inj hsettled
    refine ⟨error, ?_⟩
    rw [h.results_eq]
    exact List.mem_filterMap.mpr ⟨_, hev, rfl⟩
  | trafficRule => cases hsettled
  | provision => cases hsettled

end BatchedRun

/-- What a batched run keeps to. -/
structure Discipline (cfg : RunConfig) (keep : FwCase → Bool) (run : RunState) : Prop where
  /-- The selected cases are settled in bundle order and, inside a bundle, in catalog order. -/
  settled : run.trace.filterMap Event.settled = selected keep
  results : run.results = run.trace.filterMap (Event.result cfg)
  ids : run.results.map (·.id) = (selected keep).map (·.id)
  /-- No selected case is lost, and none has two results. -/
  complete : (selected keep).Perm (allCases.filter keep)
  distinct : (run.results.map (·.id)).Nodup
  attemptedOnce : (run.trace.filterMap Event.attempted).Nodup
  attemptedNeeded : ∀ bundle ∈ run.trace.filterMap Event.attempted,
    ∃ c ∈ allCases, keep c = true ∧ c.bundle = bundle
  /-- A case is executed under the rules of its own bundle. -/
  ownRules : ∀ before c steps after, run.trace = before ++ .ran c steps :: after →
    ∃ attempt, lastAttempt before = some attempt ∧ attempt.Ready cfg c.bundle
  /-- The cases of a bundle whose provisioning failed are not executed and fail. -/
  refused : ∀ attempt ∈ run.trace, ∀ bundle, attempt.attempted = some bundle →
    ¬ attempt.Ready cfg bundle → ∀ c ∈ allCases, keep c = true → c.bundle = bundle →
      (∀ steps, .ran c steps ∉ run.trace) ∧
        ∃ error, provisionError c error ∈ run.results ∧ (provisionError c error).result = "FAIL"
  counter : run.completed = total keep

/-- **Every batched run keeps its discipline**, whatever is selected and however the outside
world answers. -/
theorem runFiltered_discipline (cfg : RunConfig) (keep : FwCase → Bool) (world : World) :
    Discipline cfg keep (runFiltered cfg keep world) := by
  have hrun := runFiltered_batched cfg keep world
  refine {
    settled := hrun.settled_eq
    results := hrun.results_eq
    ids := hrun.ids_eq
    complete := selected_perm keep
    distinct := ?_
    attemptedOnce := hrun.attempted_nodup
    attemptedNeeded := fun bundle hmem => hrun.needed hmem
    ownRules := fun before c steps after hsplit => hrun.own_rules hsplit
    refused := ?_
    counter := hrun.counter_eq }
  · rw [hrun.ids_eq]
    exact selected_ids_nodup keep
  · rintro attempt hmem _ hattempted hfailed c hc hkeep rfl
    have hnone := hrun.not_ran hmem hattempted hfailed
    obtain ⟨error, hrefused⟩ := hrun.refused hc hkeep hnone
    exact ⟨hnone, error, hrefused, rfl⟩

/-! ## A single case -/

/-- With one id selected, the members of a bundle are the case of that id, or nothing. -/
theorem members_of_id {id : String} {c : FwCase} (hfound : caseById id = some c)
    (bundle : Bundle) :
    members (·.id == id) bundle = if c.bundle = bundle then [c] else [] := by
  have hbatch : allCases.filter (·.id == id) = [c] :=
    batch_eq_singleton allCases_ids_nodup hfound
  rw [members, ← List.filter_filter, hbatch]
  by_cases hbundle : c.bundle = bundle <;> simp [hbundle]

/-- **A case run by its id** is the batched run of that one case. -/
theorem runOne_eq_runFiltered (cfg : RunConfig) (world : World)
    (runMonitor : String → List CaseResult) {id : String} {c : FwCase}
    (hmonitor : id ∉ monitorIds) (hfound : caseById id = some c) :
    runOne cfg world runMonitor id = runFiltered cfg (·.id == id) world := by
  -- the rounds of all other bundles are skipped
  have hother : ∀ s, ∀ bundle ≠ c.bundle, runBundle cfg (·.id == id) world s bundle = s := by
    intro s bundle hne
    simp [runBundle, members_of_id hfound, hne.symm]
  rw [runFiltered, foldl_eq_of_single bundleOrder_nodup (bundle_mem_bundleOrder c.bundle) hother]
  rcases hattempt : provisionBundle cfg world (runStart cfg world).trace c.bundle with
    ⟨attempt, outcome⟩
  cases outcome <;> simp [runOne, hmonitor, hfound, runBundle, members_of_id hfound, hattempt]

end FwVerify
