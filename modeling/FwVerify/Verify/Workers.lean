import FwVerify.Model.Monitor
import FwVerify.Verify.Soundness

/-!
# Background workers

The workers a case starts have to be killed on every path it returns by. The common end of a run
kills them all; a listener that does not start returns past it and leaves those before it
running.

## Main definitions

* `Reaped` — every spawned worker is killed later
* `LeavesListeners` — a later listener of the case does not start

## Main results

* `startListeners_eq` — the listeners started up to the first that fails
* `workers_reaped_iff` — when a case kills its workers, and that the connection monitor does
-/

set_option autoImplicit false

namespace FwVerify

/-! ## Spawns and kills -/

section Reaping

variable {ω ε : Type} {spawn kill : ω → ε}

/-- Every spawn among the effects is followed by a kill of the same worker. -/
def Reaped (spawn kill : ω → ε) (effects : List ε) : Prop :=
  ∀ before worker after, effects = before ++ spawn worker :: after → kill worker ∈ after

theorem reaped_of_no_spawn {effects : List ε} (h : ∀ worker, spawn worker ∉ effects) :
    Reaped spawn kill effects := by
  rintro before worker after rfl
  exact absurd (List.mem_append_right _ List.mem_cons_self) (h worker)

/-- Effects that are followed by the kills of what they spawn, and by no further spawn. -/
theorem reaped_append {effects later : List ε}
    (hkilled : ∀ worker, spawn worker ∈ effects → kill worker ∈ later)
    (hnone : ∀ worker, spawn worker ∉ later) : Reaped spawn kill (effects ++ later) := by
  intro before worker after heq
  rcases List.append_eq_append_iff.mp heq with ⟨between, -, hlater⟩ | ⟨between, heffects, hafter⟩
  · refine absurd ?_ (hnone worker)
    rw [hlater]
    exact List.mem_append_right _ List.mem_cons_self
  · cases between with
    | nil =>
      refine absurd ?_ (hnone worker)
      rw [← List.nil_append later, ← hafter]
      exact List.mem_cons_self
    | cons first between =>
      rw [List.cons_append] at hafter
      obtain ⟨rfl, rfl⟩ := List.cons.inj hafter
      refine List.mem_append_right _ (hkilled worker ?_)
      rw [heffects]
      exact List.mem_append_right _ List.mem_cons_self

/-- Workers that are spawned and nothing else are not reaped. -/
theorem reaped_map_spawn_iff (hne : ∀ worker worker', kill worker ≠ spawn worker')
    (workers : List ω) : Reaped spawn kill (workers.map spawn) ↔ workers = [] := by
  constructor
  · intro h
    cases workers with
    | nil => rfl
    | cons worker workers =>
      obtain ⟨worker', -, heq⟩ := List.mem_map.mp (h [] worker (workers.map spawn) rfl)
      exact absurd heq.symm (hne worker worker')
  · rintro rfl
    exact reaped_of_no_spawn fun _ => List.not_mem_nil

end Reaping

/-! ## The listeners of a case -/

/-- Listeners are started in turn up to the first that fails. -/
theorem startListeners_eq (spawn : Nat → Except String Unit) (specs : List Listen) (first : Nat) :
    ∃ started ≤ specs.length, (startListeners spawn specs first).1 = List.range' first started ∧
      (∀ index < started, spawn (first + index) = .ok ()) ∧
      ∀ error, (startListeners spawn specs first).2 = some error →
        started < specs.length ∧ spawn (first + started) = .error error := by
  -- the children are numbered on from `first`
  induction specs generalizing first with
  | nil => exact ⟨0, le_refl 0, rfl, nofun, nofun⟩
  | cons spec later ih =>
    cases hspawn : spawn first with
    | error error =>
      refine ⟨0, Nat.zero_le _, by simp [startListeners, hspawn], nofun, fun error' herror => ?_⟩
      rw [startListeners, hspawn] at herror
      cases herror
      exact ⟨Nat.succ_pos _, hspawn⟩
    | ok =>
      obtain ⟨started, hle, hchildren, hok, hfail⟩ := ih (first + 1)
      have hnext (index : Nat) : first + (index + 1) = first + 1 + index := by omega
      refine ⟨started + 1, Nat.succ_le_succ hle, ?_, fun index hindex => ?_, fun error herror => ?_⟩
      · rw [startListeners, hspawn, List.range'_succ, ← hchildren]
      · cases index with
        | zero => exact hspawn
        | succ index =>
          rw [hnext]
          exact hok index (Nat.lt_of_succ_lt_succ hindex)
      · rw [startListeners, hspawn] at herror
        obtain ⟨hlt, herror⟩ := hfail error herror
        refine ⟨Nat.succ_lt_succ hlt, ?_⟩
        rw [hnext]
        exact herror

/-- A listener of the case does not start, and it is not the first one. -/
def LeavesListeners (c : FwCase) (steps : CaseSteps) : Prop :=
  c.skip = none ∧ c.group ≠ .traffic ∧ ∃ index, 0 < index ∧ index < c.listen.length ∧
    (∀ earlier < index, steps.listeners earlier = .ok ()) ∧
    ∃ error, steps.listeners index = .error error

section Case

variable {cfg : RunConfig} {c : FwCase} {steps : CaseSteps}

/-- The common end of a run kills every worker it is given. -/
theorem reaped_finishWith (c : FwCase) (children : List Nat) (res : CaseResult) :
    Reaped Effect.spawn Effect.kill (finishWith c children res).2 := by
  rw [finishWith, List.append_assoc]
  refine reaped_append (fun worker hspawn => ?_) fun worker hspawn => ?_
  · obtain ⟨worker', hworker, ⟨⟩⟩ := List.mem_map.mp hspawn
    exact List.mem_append_left _ (List.mem_map_of_mem hworker)
  · rcases List.mem_append.mp hspawn with hkill | hstop
    · obtain ⟨_, -, ⟨⟩⟩ := List.mem_map.mp hkill
    · obtain ⟨_, -, ⟨⟩⟩ := List.mem_map.mp hstop

/-- A case whose listeners all start ends by the common end. -/
theorem reaped_of_started {children : List Nat} (hskip : c.skip = none)
    (hgroup : c.group ≠ .traffic)
    (hstart : startListeners steps.listeners c.listen 0 = (children, none)) :
    Reaped Effect.spawn Effect.kill (runCase cfg c steps).2 := by
  rw [runCase, hskip]
  simp only [if_neg hgroup, hstart]
  cases steps.nowMs with
  | error error => exact reaped_finishWith c children _
  | ok since =>
    cases steps.caseTraffic cfg c with
    | error error => exact reaped_finishWith c children _
    | ok outcome => exact reaped_finishWith c children _

/-- A case whose listener does not start kills nothing. -/
theorem reaped_of_listener_fails_iff {children : List Nat} {error : String} (hskip : c.skip = none)
    (hgroup : c.group ≠ .traffic)
    (hstart : startListeners steps.listeners c.listen 0 = (children, some error)) :
    Reaped Effect.spawn Effect.kill (runCase cfg c steps).2 ↔ children = [] := by
  have heffects : (runCase cfg c steps).2 = children.map Effect.spawn := by
    rw [runCase, hskip]
    simp only [if_neg hgroup, hstart]
  have hne (worker worker' : Nat) : Effect.kill worker ≠ Effect.spawn worker' := by
    intro h
    cases h
  rw [heffects]
  exact reaped_map_spawn_iff hne children

/-- **A case kills the workers it has spawned exactly when** none of its listeners but the first
fails to start. -/
theorem reaped_iff (cfg : RunConfig) (c : FwCase) (steps : CaseSteps) :
    Reaped Effect.spawn Effect.kill (runCase cfg c steps).2 ↔ ¬ LeavesListeners c steps := by
  have hempty (heffects : (runCase cfg c steps).2 = []) :
      Reaped Effect.spawn Effect.kill (runCase cfg c steps).2 := by
    rw [heffects]
    exact reaped_of_no_spawn fun _ => List.not_mem_nil
  cases hskip : c.skip with
  | some reason =>
    refine iff_of_true (hempty (by rw [runCase, hskip])) ?_
    rintro ⟨hnone, -⟩
    rw [hskip] at hnone
    cases hnone
  | none =>
    by_cases hgroup : c.group = .traffic
    · refine iff_of_true (hempty ?_) fun h => h.2.1 hgroup
      rw [runCase, hskip]
      simp only [if_pos hgroup]
    · obtain ⟨started, hle, hchildren, hok, hfail⟩ :=
        startListeners_eq steps.listeners c.listen 0
      simp only [Nat.zero_add] at hok hfail
      rcases hstart : startListeners steps.listeners c.listen 0 with ⟨children, failure⟩
      rw [hstart] at hchildren hfail
      cases failure with
      | none =>
        -- the run goes on to its common end
        refine iff_of_true (reaped_of_started hskip hgroup hstart) ?_
        rintro ⟨-, -, index, -, hindex, -, error, herror⟩
        have hall := (startListeners_none_iff steps.listeners c.listen 0).mp (by rw [hstart])
        rw [← Nat.zero_add index, hall index hindex] at herror
        cases herror
      | some error =>
        -- the run ends here, and what it has started goes on
        obtain ⟨hlt, herror⟩ := hfail error rfl
        obtain rfl : children = List.range' 0 started := hchildren
        rw [reaped_of_listener_fails_iff hskip hgroup hstart, List.range'_eq_nil_iff]
        constructor
        · -- the first listener fails, so no later one is reached
          rintro rfl ⟨-, -, index, hpos, -, hearlier, -⟩
          rw [hearlier 0 hpos] at herror
          cases herror
        · intro hleaves
          by_contra hpos
          exact hleaves ⟨hskip, hgroup, started, Nat.pos_of_ne_zero hpos, hlt, hok, error, herror⟩

end Case

/-- The connection monitor kills its workers, whatever fails. -/
theorem reaped_runConnPerip (cfg : RunConfig) (c : MonitorCase) (steps : MonitorSteps) :
    Reaped MonitorEffect.spawn MonitorEffect.kill (runConnPerip cfg c steps).2 := by
  have hnone : Reaped MonitorEffect.spawn MonitorEffect.kill [] :=
    reaped_of_no_spawn fun _ => List.not_mem_nil
  have hlistener : Reaped MonitorEffect.spawn MonitorEffect.kill
      ([.spawn .listener] ++ [.kill .listener]) := by
    refine reaped_append (fun worker => ?_) fun worker => ?_
    · cases worker <;> simp
    · cases worker <;> simp
  have hboth : Reaped MonitorEffect.spawn MonitorEffect.kill
      ([.spawn .listener, .spawn .flood] ++ [.kill .flood, .kill .listener]) := by
    refine reaped_append (fun worker => ?_) fun worker => ?_
    · cases worker <;> simp
    · cases worker <;> simp
  rw [runConnPerip]
  -- a failure leaves no worker, the listener, or both behind, and each end kills what is there
  cases steps.nowMs with
  | error error => exact hnone
  | ok since =>
    cases steps.agentSpawn cfg.peer floodListenArgs with
    | error error => exact hnone
    | ok =>
      cases steps.agentSpawn cfg.target (connFloodArgs cfg) with
      | error error => exact hlistener
      | ok =>
        dsimp only
        split_ifs
        · exact hboth
        · exact hboth

/-- **No worker outlives its case exactly when** the case leaves no listeners; none ever outlives
the connection monitor. -/
theorem workers_reaped_iff (cfg : RunConfig) :
    (∀ (c : FwCase) (steps : CaseSteps),
      Reaped Effect.spawn Effect.kill (runCase cfg c steps).2 ↔ ¬ LeavesListeners c steps) ∧
    (∀ (c : MonitorCase) (steps : MonitorSteps),
      Reaped MonitorEffect.spawn MonitorEffect.kill (runConnPerip cfg c steps).2) :=
  ⟨reaped_iff cfg, reaped_runConnPerip cfg⟩

/-- A case with a listener on either side. -/
def twoListeners : FwCase :=
  { egressTcpBlock with listen := [⟨.target, "tcp", 6001⟩, ⟨.peer, "tcp", 6001⟩] }

/-- Steps in which the worker of the second listener cannot be spawned. -/
def secondListenerFails : CaseSteps :=
  { sampleSteps "blocked" [] with
    listeners := fun index => if index = 0 then .ok () else .error "failed to spawn nsenter" }

/-- The first of two listeners is left running when the second does not start. -/
theorem workers_reaped_fails :
    (runCase sampleConfig twoListeners secondListenerFails).2 = [.spawn 0] ∧
    ¬ ∀ cfg c steps, Reaped Effect.spawn Effect.kill (runCase cfg c steps).2 := by
  refine ⟨rfl, fun hall => ?_⟩
  have hkill := hall sampleConfig twoListeners secondListenerFails [] 0 [] rfl
  exact absurd hkill List.not_mem_nil

end FwVerify
