import FwVerify.Model.Endpoints

/-!
# Where programs run

A program is run on the side it is meant for, and as it is. Whatever fails, no attempt to start it
is made elsewhere, at most one of the attempts starts it, and the second way into a namespace is
tried only where the first one is not there.

## Main definitions

* `Endpoint.Runs` — a command line that runs a program on a side
* `Host.Starts` — the machine starts a program on a side
* `RunsOnly`, `RunsWorker` — attempts to start one program on one side, and a worker there

## Main results

* `spawnProgram_spec` — how a program is started
* `worker_runs_on_side` — where a worker runs, and when its document is read
-/

set_option autoImplicit false

namespace FwVerify

open Fallible

/-- The command line that enters a namespace by its mount. -/
def nsenterArgv (name : String) (program : List String) : List String :=
  ["nsenter", "--net=" ++ ("/run/netns/" ++ name), "--"] ++ program

/-- The command line that has `ip` enter a namespace. -/
def ipArgv (name : String) (program : List String) : List String :=
  ["ip", "netns", "exec", name] ++ program

/-- A command line that runs a program on a side. -/
def Endpoint.Runs (program argv : List String) : Endpoint → Prop
  | .local => argv = program
  | .netns name => argv = nsenterArgv name program ∨ argv = ipArgv name program

/-- The namespace cannot be entered by its mount: it has none, or the program for it is missing. -/
def Host.NoNsenter (host : Host) (name : String) (program : List String) : Prop :=
  host.pathExists ("/run/netns/" ++ name) = true →
    ∃ error, host.spawn (nsenterArgv name program) = .error error ∧ error.notFound = true

/-- The machine starts a program on a side. -/
def Host.Starts (host : Host) (program : List String) (child : Child) : Endpoint → Prop
  | .local => host.spawn program = .ok child
  | .netns name =>
    (host.pathExists ("/run/netns/" ++ name) = true ∧
      host.spawn (nsenterArgv name program) = .ok child) ∨
    (host.NoNsenter name program ∧ host.spawn (ipArgv name program) = .ok child)

/-- Attempts to start a program on a side, of which the last one may have started it. -/
structure RunsOnly (endpoint : Endpoint) (program : List String) (started : Bool)
    (attempts : List SpawnAttempt) : Prop where
  runs : ∀ attempt ∈ attempts, endpoint.Runs program attempt.argv
  few : attempts.length ≤ 2
  once : attempts.countP (·.started) = if started then 1 else 0

section Spawn

variable (host : Host) (before : List SpawnAttempt)

theorem exec_make (argv : List String) :
    exec (host.make argv) before =
      (.ok (host.spawn argv), before ++ [⟨argv, (host.spawn argv).toOption.isSome⟩]) := rfl

/-- One attempt, and how it went. -/
theorem runsOnly_one {endpoint : Endpoint} {program argv : List String}
    (hruns : endpoint.Runs program argv) (started : Bool) :
    RunsOnly endpoint program started [⟨argv, started⟩] := by
  refine ⟨?_, by simp, by cases started <;> rfl⟩
  intro attempt hattempt
  rw [List.mem_singleton.mp hattempt]
  exact hruns

/-- The way into a namespace by `ip`. -/
theorem viaIp_spec (name : String) (program : List String) :
    ∃ result : Except String Child, exec (Endpoint.viaIp host name program) before =
      (result, before ++ [⟨ipArgv name program, result.toOption.isSome⟩]) ∧
      ∀ child, result = .ok child ↔ host.spawn (ipArgv name program) = .ok child := by
  rw [Endpoint.viaIp, exec_bind, exec_make, ← ipArgv]
  cases hspawn : host.spawn (ipArgv name program) with
  | ok child => exact ⟨.ok child, rfl, fun child' => by simp⟩
  | error error => exact ⟨_, rfl, fun child' => by simp⟩

/-- How a program is started. -/
theorem spawnProgram_spec (program : List String) (endpoint : Endpoint) :
    ∃ (result : Except String Child) (attempts : List SpawnAttempt),
      exec (endpoint.spawnProgram host program) before = (result, before ++ attempts) ∧
      RunsOnly endpoint program result.toOption.isSome attempts ∧
      ∀ child, result = .ok child ↔ host.Starts program child endpoint := by
  cases endpoint with
  | «local» =>
    have hruns : Endpoint.local.Runs program program := rfl
    rw [Endpoint.spawnProgram, exec_bind, exec_make]
    cases hspawn : host.spawn program with
    | ok child =>
      exact ⟨.ok child, _, rfl, runsOnly_one hruns true, fun child' => by simp [Host.Starts, hspawn]⟩
    | error error =>
      exact ⟨_, _, rfl, runsOnly_one hruns false, fun child' => by simp [Host.Starts, hspawn]⟩
  | netns name =>
    have hnsenter : (Endpoint.netns name).Runs program (nsenterArgv name program) := .inl rfl
    have hip : (Endpoint.netns name).Runs program (ipArgv name program) := .inr rfl
    rw [Endpoint.spawnProgram]
    by_cases hpath : host.pathExists ("/run/netns/" ++ name) = true
    · rw [if_pos hpath, exec_bind, exec_make, ← nsenterArgv]
      cases hspawn : host.spawn (nsenterArgv name program) with
      | ok child =>
        refine ⟨.ok child, _, rfl, runsOnly_one hnsenter true, fun child' => ?_⟩
        simp [Host.Starts, Host.NoNsenter, hpath, hspawn]
      | error error =>
        by_cases hmissing : error.notFound = true
        · -- the second attempt is the one that counts
          obtain ⟨result, hexec, hstarts⟩ := viaIp_spec host
            (before ++ [⟨nsenterArgv name program, false⟩]) name program
          refine ⟨result, [⟨nsenterArgv name program, false⟩,
            ⟨ipArgv name program, result.toOption.isSome⟩], ?_, ⟨?_, le_refl 2, ?_⟩, fun child => ?_⟩
          · dsimp only
            rw [if_pos hmissing]
            refine hexec.trans ?_
            rw [List.append_assoc]
            rfl
          · intro attempt hattempt
            simp only [List.mem_cons, List.not_mem_nil, or_false] at hattempt
            rcases hattempt with rfl | rfl
            · exact hnsenter
            · exact hip
          · cases result.toOption.isSome <;> rfl
          · rw [hstarts]
            simp [Host.Starts, Host.NoNsenter, hpath, hspawn, hmissing]
        · dsimp only
          rw [if_neg hmissing]
          refine ⟨.error _, _, rfl, runsOnly_one hnsenter false, fun child => ?_⟩
          simp [Host.Starts, Host.NoNsenter, hpath, hspawn, hmissing]
    · rw [if_neg hpath]
      obtain ⟨result, hexec, hstarts⟩ := viaIp_spec host before name program
      refine ⟨result, _, hexec, runsOnly_one hip _, fun child => ?_⟩
      rw [hstarts]
      simp [Host.Starts, Host.NoNsenter, hpath]

end Spawn

/-! ## Programs that are waited for -/

/-- A program on a side runs to its end. -/
def Host.Ends (host : Host) (program : List String) (out : ProgramOutput) (endpoint : Endpoint) :
    Prop :=
  host.Starts program (.ok out) endpoint

section Run

variable (host : Host) (before : List SpawnAttempt)

theorem runProgram_spec (program : List String) (endpoint : Endpoint) :
    ∃ (result : Except String ProgramOutput) (attempts : List SpawnAttempt) (started : Bool),
      exec (endpoint.runProgram host program) before = (result, before ++ attempts) ∧
      RunsOnly endpoint program started attempts ∧
      ∀ out, result = .ok out ↔ host.Ends program out endpoint := by
  obtain ⟨result, attempts, hexec, honly, hstarts⟩ := spawnProgram_spec host before program endpoint
  rw [Endpoint.runProgram, exec_bind, hexec]
  cases result with
  | error error =>
    refine ⟨_, attempts, _, rfl, honly, fun out => iff_of_false (fun h => by cases h) fun hends => ?_⟩
    cases (hstarts _).mpr hends
  | ok child =>
    refine ⟨_, attempts, _, exec_check _ _, honly, fun out => ?_⟩
    rw [context_eq_ok, Host.Ends, ← hstarts, Except.ok.injEq]

/-- Attempts to start a worker: this program with the worker's command line, and none when this
program cannot be told. -/
structure RunsWorker (host : Host) (endpoint : Endpoint) (args : List String)
    (attempts : List SpawnAttempt) : Prop where
  runs : ∀ exe, host.currentExe = .ok exe →
    ∃ started, RunsOnly endpoint (exe :: "agent" :: args) started attempts
  unknown : host.currentExe.toOption = none → attempts = []

/-- The program of a worker, with its command line, or the reason why there is none. -/
theorem agentArgv_cases (args : List String) :
    (∃ error text, host.currentExe = .error error ∧ Endpoint.agentArgv host args = .error text) ∨
      ∃ exe, host.currentExe = .ok exe ∧
        Endpoint.agentArgv host args = .ok (exe :: "agent" :: args) := by
  rw [Endpoint.agentArgv]
  cases hexe : host.currentExe with
  | error error => exact .inl ⟨error, _, rfl, rfl⟩
  | ok exe => exact .inr ⟨exe, rfl, rfl⟩

/-- A worker that is waited for: its document is what it printed. -/
theorem runAgent_spec (json : JsonParser) (args : List String) (endpoint : Endpoint) :
    ∃ (result : Except String Value) (attempts : List SpawnAttempt),
      exec (endpoint.runAgent host json args) before = (result, before ++ attempts) ∧
      RunsWorker host endpoint args attempts ∧
      ∀ value, result = .ok value ↔ ∃ exe out, host.currentExe = .ok exe ∧
        host.Ends (exe :: "agent" :: args) out endpoint ∧ parseJson json out.stdout = .ok value := by
  rw [Endpoint.runAgent, exec_bind, exec_check]
  obtain ⟨error, text, hexe, hargv⟩ | ⟨exe, hexe, hargv⟩ := agentArgv_cases host args
  · rw [hargv]
    refine ⟨_, [], by rw [List.append_nil], ⟨fun exe h => ?_, fun _ => rfl⟩, fun value => ?_⟩
    · rw [hexe] at h
      cases h
    · refine iff_of_false (fun h => by cases h) ?_
      rintro ⟨exe, out, hok, -⟩
      rw [hexe] at hok
      cases hok
  · rw [hargv]
    dsimp only
    obtain ⟨result, attempts, started, hexec, honly, hends⟩ :=
      runProgram_spec host before (exe :: "agent" :: args) endpoint
    have hworker : RunsWorker host endpoint args attempts := by
      refine ⟨fun exe' h => ?_, fun hnone => ?_⟩
      · rw [hexe] at h
        cases h
        exact ⟨started, honly⟩
      · rw [hexe] at hnone
        cases hnone
    rw [exec_bind, hexec]
    cases result with
    | error error =>
      refine ⟨_, attempts, rfl, hworker, fun value => iff_of_false (fun h => by cases h) ?_⟩
      rintro ⟨exe', out, hok, hout, -⟩
      rw [hexe] at hok
      cases hok
      cases (hends out).mpr hout
    | ok out =>
      refine ⟨_, attempts, exec_check _ _, hworker, fun value => ?_⟩
      rw [agentJson, outputJson_ok_iff]
      constructor
      · rintro ⟨out', ⟨⟩, hparse⟩
        exact ⟨exe, out, hexe, (hends out).mp rfl, hparse⟩
      · rintro ⟨exe', out', hok, hout, hparse⟩
        rw [hexe] at hok
        cases hok
        obtain rfl := Except.ok.inj ((hends out').mpr hout)
        exact ⟨out, rfl, hparse⟩

/-- A worker in the background. -/
theorem agentSpawn_spec (args : List String) (endpoint : Endpoint) :
    ∃ (result : Except String Child) (attempts : List SpawnAttempt),
      exec (endpoint.agentSpawn host args) before = (result, before ++ attempts) ∧
      RunsWorker host endpoint args attempts ∧
      ∀ child, result = .ok child ↔ ∃ exe, host.currentExe = .ok exe ∧
        host.Starts (exe :: "agent" :: args) child endpoint := by
  rw [Endpoint.agentSpawn, exec_bind, exec_check]
  obtain ⟨error, text, hexe, hargv⟩ | ⟨exe, hexe, hargv⟩ := agentArgv_cases host args
  · rw [hargv]
    refine ⟨_, [], by rw [List.append_nil], ⟨fun exe h => ?_, fun _ => rfl⟩, fun child => ?_⟩
    · rw [hexe] at h
      cases h
    · refine iff_of_false (fun h => by cases h) ?_
      rintro ⟨exe, hok, -⟩
      rw [hexe] at hok
      cases hok
  · rw [hargv]
    dsimp only
    obtain ⟨result, attempts, hexec, honly, hstarts⟩ :=
      spawnProgram_spec host before (exe :: "agent" :: args) endpoint
    refine ⟨result, attempts, hexec, ⟨fun exe' h => ?_, fun hnone => ?_⟩, fun child => ?_⟩
    · rw [hexe] at h
      cases h
      exact ⟨_, honly⟩
    · rw [hexe] at hnone
      cases hnone
    · rw [hstarts]
      constructor
      · exact fun hstarted => ⟨exe, hexe, hstarted⟩
      · rintro ⟨exe', hok, hstarted⟩
        rw [hexe] at hok
        cases hok
        exact hstarted

/-- **Where a worker runs**, waited for or in the background. Every attempt to start it runs this
program with the worker's command line on its side, and at most one of them starts it; when this
program cannot be told, there is none. A document is what the started worker printed, and a worker
in the background is the one that was started. -/
theorem worker_runs_on_side (json : JsonParser) (args : List String) (endpoint : Endpoint) :
    (∃ (result : Except String Value) (attempts : List SpawnAttempt),
      exec (endpoint.runAgent host json args) before = (result, before ++ attempts) ∧
      RunsWorker host endpoint args attempts ∧
      ∀ value, result = .ok value ↔ ∃ exe out, host.currentExe = .ok exe ∧
        host.Ends (exe :: "agent" :: args) out endpoint ∧
        parseJson json out.stdout = .ok value) ∧
    ∃ (result : Except String Child) (attempts : List SpawnAttempt),
      exec (endpoint.agentSpawn host args) before = (result, before ++ attempts) ∧
      RunsWorker host endpoint args attempts ∧
      ∀ child, result = .ok child ↔ ∃ exe, host.currentExe = .ok exe ∧
        host.Starts (exe :: "agent" :: args) child endpoint :=
  ⟨runAgent_spec host before json args endpoint, agentSpawn_spec host before args endpoint⟩

end Run

end FwVerify
