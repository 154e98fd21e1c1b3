import FwVerify.Model.Preflight
import FwVerify.Peer.Sides
import FwVerify.Provision.VsocDelivery

/-!
# What preflight checks

Preflight makes all of its checks whatever it finds, each with a program on its own side, and starts
nothing else. Each line says whether its check holds, and the process succeeds when all of them do.

## Main definitions

* `CheckKind`, `Holds` — the checks, and when one holds
* `PreflightRuns` — the command lines of preflight

## Main results

* `preflight_spec` — what preflight starts, prints and returns
-/

set_option autoImplicit false

namespace FwVerify

open Fallible Text

/-- The checks of preflight. -/
inductive CheckKind
  | health
  | depot
  | worker
  | link
  | vsoc
  deriving DecidableEq

namespace CheckKind

def label : CheckKind → String
  | health => "idps-fw health"
  | depot => "target depot dir"
  | worker => "peer worker re-exec"
  | link => "peer->target link"
  | vsoc => "vsoc api"

end CheckKind

/-- The checks of a mode. -/
def checkKinds : Mode → List CheckKind
  | .android => [.health, .depot, .worker, .link]
  | .host => [.health, .depot, .worker, .link, .vsoc]

section Checks

variable (host : Host) (json : JsonParser) (cfg : RunConfig)

/-- A shell snippet on a side prints a text. -/
def Host.Prints (host : Host) (cmd : String) (endpoint : Endpoint) (text : String) : Prop :=
  ∃ out, host.Ends ["sh", "-c", cmd] out endpoint ∧ trim out.stdout = text

/-- A shell snippet on a side prints a text with something in it. -/
def Host.Shows (host : Host) (cmd : String) (endpoint : Endpoint) (needle : String) : Prop :=
  ∃ text, host.Prints cmd endpoint text ∧ contains text needle = true

/-- The arguments of a request for the stored events. -/
def eventsArgs (vsoc : VsocApi) : List String :=
  vsoc.baseArgs ++ [vsoc.url "/api/events?limit=100"]

/-- When a check holds. -/
def Holds : CheckKind → Prop
  | .health => ∃ out value, host.Ends ["sh", "-c", healthCommand cfg] out cfg.target ∧
      parseJson json out.stdout = .ok value
  | .depot => host.Shows depotCommand cfg.target "yes"
  | .worker => ∃ exe out value, host.currentExe = .ok exe ∧
      host.Ends [exe, "agent", "now"] out cfg.peer ∧ parseJson json out.stdout = .ok value
  | .link => host.Shows (linkCommand cfg) cfg.peer "ok"
  | .vsoc => ∃ vsoc stdout, cfg.vsoc = some vsoc ∧ host.Curls (eventsArgs vsoc) stdout

/-- The command lines of preflight. -/
inductive PreflightRuns (argv : List String) : Prop
  | health (runs : cfg.target.Runs ["sh", "-c", healthCommand cfg] argv)
  | depot (runs : cfg.target.Runs ["sh", "-c", depotCommand] argv)
  | worker (exe : String) (program : host.currentExe = .ok exe)
      (runs : cfg.peer.Runs [exe, "agent", "now"] argv)
  | link (runs : cfg.peer.Runs ["sh", "-c", linkCommand cfg] argv)
  | vsoc (vsoc : VsocApi) (mode : cfg.mode = .host) (api : cfg.vsoc = some vsoc)
      (runs : argv = "curl" :: eventsArgs vsoc)
  | keystore (runs : cfg.target.Runs ["sh", "-c", keystoreCommand] argv)

variable {host json cfg}

/-- Nothing but the empty text is in the empty text. -/
theorem contains_empty {needle : String} (hneedle : needle ≠ "") : contains "" needle = false := by
  refine decide_eq_false fun hinfix => hneedle ?_
  exact String.toList_inj.mp (List.eq_nil_of_infix_nil hinfix)

section Steps

variable (before : List SpawnAttempt)

/-- What a snippet prints is what its program printed. -/
theorem shell_spec (cmd : String) (endpoint : Endpoint) :
    ∃ (result : Except String String) (attempts : List SpawnAttempt),
      exec (endpoint.shell host cmd) before = (result, before ++ attempts) ∧
      (∀ attempt ∈ attempts, endpoint.Runs ["sh", "-c", cmd] attempt.argv) ∧
      ∀ text, result = .ok text ↔ host.Prints cmd endpoint text := by
  obtain ⟨result, attempts, started, hexec, honly, hends⟩ :=
    runProgram_spec host before ["sh", "-c", cmd] endpoint
  rw [Endpoint.shell, exec_bind, Endpoint.shellFull, hexec]
  cases result with
  | error error =>
    refine ⟨_, attempts, rfl, honly.runs, fun text => iff_of_false (fun h => by cases h) ?_⟩
    rintro ⟨out, hout, -⟩
    cases (hends out).mpr hout
  | ok out =>
    refine ⟨.ok (trim out.stdout), attempts, rfl, honly.runs, fun text => ?_⟩
    rw [Except.ok.injEq]
    constructor
    · exact fun htext => ⟨out, (hends out).mp rfl, htext⟩
    · rintro ⟨out', hout, htext⟩
      obtain rfl := Except.ok.inj ((hends out').mpr hout)
      exact htext

/-- A snippet that cannot be run shows nothing. -/
theorem shellOrEmpty_spec (cmd : String) (endpoint : Endpoint) :
    ∃ (text : String) (attempts : List SpawnAttempt),
      exec (endpoint.shellOrEmpty host cmd) before = (.ok text, before ++ attempts) ∧
      (∀ attempt ∈ attempts, endpoint.Runs ["sh", "-c", cmd] attempt.argv) ∧
      ∀ needle, needle ≠ "" → (contains text needle = true ↔ host.Shows cmd endpoint needle) := by
  obtain ⟨result, attempts, hexec, hruns, hprints⟩ := @shell_spec host before cmd endpoint
  rw [Endpoint.shellOrEmpty, exec_bind, exec_caught, hexec]
  refine ⟨_, attempts, rfl, hruns, fun needle hneedle => ?_⟩
  cases result with
  | error error =>
    refine iff_of_false (fun hcontains => ?_) ?_
    · exact Bool.false_ne_true ((contains_empty hneedle).symm.trans hcontains)
    · rintro ⟨text, htext, -⟩
      cases (hprints text).mpr htext
  | ok text =>
    constructor
    · exact fun hcontains => ⟨text, (hprints text).mp rfl, hcontains⟩
    · rintro ⟨text', htext, hcontains⟩
      obtain rfl := Except.ok.inj ((hprints text').mpr htext)
      exact hcontains

/-- A document is what was parsed from what a snippet printed. -/
theorem runShellJson_spec (cmd : String) (endpoint : Endpoint) :
    ∃ (result : Except String Value) (attempts : List SpawnAttempt),
      exec (endpoint.runShellJson host json cmd) before = (result, before ++ attempts) ∧
      (∀ attempt ∈ attempts, endpoint.Runs ["sh", "-c", cmd] attempt.argv) ∧
      ∀ value, result = .ok value ↔ ∃ out, host.Ends ["sh", "-c", cmd] out endpoint ∧
        parseJson json out.stdout = .ok value := by
  obtain ⟨result, attempts, started, hexec, honly, hends⟩ :=
    runProgram_spec host before ["sh", "-c", cmd] endpoint
  rw [Endpoint.runShellJson, exec_bind, Endpoint.shellFull, hexec]
  cases result with
  | error error =>
    refine ⟨_, attempts, rfl, honly.runs, fun value => iff_of_false (fun h => by cases h) ?_⟩
    rintro ⟨out, hout, -⟩
    cases (hends out).mpr hout
  | ok out =>
    refine ⟨_, attempts, exec_check _ _, honly.runs, fun value => ?_⟩
    rw [shellJson, outputJson_ok_iff]
    constructor
    · rintro ⟨_, ⟨⟩, hparse⟩
      exact ⟨out, (hends out).mp rfl, hparse⟩
    · rintro ⟨out', hout, hparse⟩
      obtain rfl := Except.ok.inj ((hends out').mpr hout)
      exact ⟨out, rfl, hparse⟩

/-- The stored events are asked for with one request, when there is a VSOC at all. -/
theorem askEvents_spec (needle : String) :
    ∃ (result : Except String Bool) (attempts : List SpawnAttempt),
      exec (askEvents host cfg needle) before = (result, before ++ attempts) ∧
      (∀ attempt ∈ attempts, ∃ vsoc, cfg.vsoc = some vsoc ∧
        attempt.argv = "curl" :: eventsArgs vsoc) ∧
      ∀ mentioned, result = .ok mentioned ↔ ∃ vsoc stdout, cfg.vsoc = some vsoc ∧
        host.Curls (eventsArgs vsoc) stdout ∧ contains stdout needle = mentioned := by
  rw [askEvents, exec_bind, exec_check, RunConfig.api]
  cases hvsoc : cfg.vsoc with
  | none =>
    refine ⟨_, [], by rw [List.append_nil], fun _ h => (by cases h), fun mentioned => ?_⟩
    refine iff_of_false (fun h => by cases h) ?_
    rintro ⟨_, _, ⟨⟩, -⟩
  | some vsoc =>
    obtain ⟨result, started, hexec, hcurls⟩ := runCurl_spec host (eventsArgs vsoc) before
    dsimp only
    rw [exec_bind, ← eventsArgs, hexec]
    have hargv : ∀ attempt ∈ [(⟨"curl" :: eventsArgs vsoc, started⟩ : SpawnAttempt)],
        ∃ vsoc', some vsoc = some vsoc' ∧ attempt.argv = "curl" :: eventsArgs vsoc' := by
      intro attempt hattempt
      rw [List.mem_singleton.mp hattempt]
      exact ⟨vsoc, rfl, rfl⟩
    cases result with
    | error error =>
      refine ⟨_, _, rfl, hargv, fun mentioned => iff_of_false (fun h => by cases h) ?_⟩
      rintro ⟨_, stdout, ⟨⟩, hstdout, -⟩
      cases (hcurls stdout).mpr hstdout
    | ok stdout =>
      refine ⟨.ok (contains stdout needle), _, rfl, hargv, fun mentioned => ?_⟩
      rw [Except.ok.injEq]
      constructor
      · exact fun h => ⟨vsoc, stdout, rfl, (hcurls stdout).mp rfl, h⟩
      · rintro ⟨_, stdout', ⟨⟩, hstdout, h⟩
        obtain rfl := Except.ok.inj ((hcurls stdout').mpr hstdout)
        exact h

/-- A check: what is asked for it, and what it means that it passes. -/
def Decides (host : Host) (json : JsonParser) (cfg : RunConfig) (kind : CheckKind)
    (check : PreflightCheck) : Prop :=
  check.label = kind.label ∧ (check.pass = true ↔ Holds host json cfg kind)

/-- All checks pass when all of them hold. -/
theorem all_pass_iff {kinds : List CheckKind} {checks : List PreflightCheck}
    (h : List.Forall₂ (Decides host json cfg) kinds checks) :
    checks.all (·.pass) = true ↔ ∀ kind ∈ kinds, Holds host json cfg kind := by
  induction h with
  | nil => simp
  | cons hdecides _ ih => rw [List.all_cons, Bool.and_eq_true, ih, hdecides.2, List.forall_mem_cons]

/-- The worker of preflight is this program. -/
theorem RunsWorker.preflight {attempts : List SpawnAttempt}
    (hworker : RunsWorker host cfg.peer ["now"] attempts) :
    ∀ attempt ∈ attempts, PreflightRuns host cfg attempt.argv := by
  intro attempt hattempt
  cases hexe : host.currentExe with
  | error error =>
    rw [hworker.unknown (by rw [hexe]; rfl)] at hattempt
    cases hattempt
  | ok exe =>
    obtain ⟨started, honly⟩ := hworker.runs exe hexe
    exact .worker exe hexe (honly.runs attempt hattempt)

/-- All checks of a mode are made, in their order. -/
theorem preflightChecks_spec :
    ∃ (checks : List PreflightCheck) (attempts : List SpawnAttempt),
      exec (preflightChecks host json cfg) before = (.ok checks, before ++ attempts) ∧
      (∀ attempt ∈ attempts, PreflightRuns host cfg attempt.argv) ∧
      List.Forall₂ (Decides host json cfg) (checkKinds cfg.mode) checks := by
  obtain ⟨health, attempts₁, hexec₁, hruns₁, hhealth⟩ :=
    @runShellJson_spec host json before (healthCommand cfg) cfg.target
  obtain ⟨depot, attempts₂, hexec₂, hruns₂, hdepot⟩ :=
    @shellOrEmpty_spec host (before ++ attempts₁) depotCommand cfg.target
  obtain ⟨worker, attempts₃, hexec₃, hruns₃, hworker⟩ :=
    runAgent_spec host (before ++ attempts₁ ++ attempts₂) json ["now"] cfg.peer
  obtain ⟨reachable, attempts₄, hexec₄, hruns₄, hlink⟩ :=
    @shellOrEmpty_spec host (before ++ attempts₁ ++ attempts₂ ++ attempts₃) (linkCommand cfg) cfg.peer
  have hruns : ∀ attempt ∈ attempts₁ ++ attempts₂ ++ attempts₃ ++ attempts₄,
      PreflightRuns host cfg attempt.argv := by
    intro attempt hattempt
    simp only [List.mem_append] at hattempt
    rcases hattempt with ((h | h) | h) | h
    · exact .health (hruns₁ attempt h)
    · exact .depot (hruns₂ attempt h)
    · exact hruns₃.preflight attempt h
    · exact .link (hruns₄ attempt h)
  have hfour : List.Forall₂ (Decides host json cfg) [.health, .depot, .worker, .link]
      [⟨"idps-fw health", health.toOption.isSome, healthInfo health⟩,
        ⟨"target depot dir", contains depot "yes", depot⟩,
        ⟨"peer worker re-exec", worker.toOption.isSome, workerInfo worker⟩,
        ⟨"peer->target link", contains reachable "ok", reachable⟩] := by
    refine .cons ⟨rfl, ?_⟩ (.cons ⟨rfl, hdepot "yes" (by decide)⟩ (.cons ⟨rfl, ?_⟩
      (.cons ⟨rfl, hlink "ok" (by decide)⟩ .nil)))
    · refine isSome_toOption_iff.trans ?_
      simp only [hhealth, Holds]
      exact exists_comm
    · refine isSome_toOption_iff.trans ?_
      simp only [hworker, Holds]
      constructor
      · rintro ⟨value, exe, out, h⟩
        exact ⟨exe, out, value, h⟩
      · rintro ⟨exe, out, value, h⟩
        exact ⟨value, exe, out, h⟩
  rw [preflightChecks, exec_bind, exec_caught, readHealth, hexec₁]
  dsimp only
  rw [exec_bind, hexec₂]
  dsimp only
  rw [exec_bind, exec_caught, hexec₃]
  dsimp only
  rw [exec_bind, hexec₄]
  dsimp only
  cases hmode : cfg.mode with
  | android =>
    rw [if_neg (fun h => by cases h)]
    refine ⟨_, attempts₁ ++ attempts₂ ++ attempts₃ ++ attempts₄, ?_, hruns, hfour⟩
    simp only [List.append_assoc]
    rfl
  | host =>
    obtain ⟨events, attempts₅, hexec₅, hruns₅, hevents⟩ := @askEvents_spec host cfg
      (before ++ attempts₁ ++ attempts₂ ++ attempts₃ ++ attempts₄) ""
    have hvsoc : Decides host json cfg .vsoc ⟨"vsoc api", events.toOption.isSome,
        if events.toOption.isSome then "reachable" else "unreachable"⟩ := by
      refine ⟨rfl, isSome_toOption_iff.trans ?_⟩
      simp only [hevents, Holds]
      constructor
      · rintro ⟨_, vsoc, stdout, hvsoc, hcurls, -⟩
        exact ⟨vsoc, stdout, hvsoc, hcurls⟩
      · rintro ⟨vsoc, stdout, hvsoc, hcurls⟩
        exact ⟨_, vsoc, stdout, hvsoc, hcurls, rfl⟩
    rw [if_pos rfl, exec_bind, exec_caught, hexec₅]
    refine ⟨_, attempts₁ ++ attempts₂ ++ attempts₃ ++ attempts₄ ++ attempts₅, ?_, ?_,
      List.rel_append hfour (.cons hvsoc .nil)⟩
    · simp only [List.append_assoc]
      rfl
    · intro attempt hattempt
      rcases List.mem_append.mp hattempt with h | h
      · exact hruns attempt h
      · obtain ⟨vsoc, hvsoc, hargv⟩ := hruns₅ attempt h
        exact .vsoc vsoc hmode hvsoc hargv

/-- **What preflight does.** Whatever fails, all checks of the mode are made, in their order, and
each one that does not hold is the only one to fail. Nothing is started but their programs, each on
its own side, and the look for the keystore, whose lack changes nothing but its line. Preflight
succeeds when all checks hold. -/
theorem preflight_spec (host : Host) (json : JsonParser) (cfg : RunConfig)
    (before : List SpawnAttempt) :
    ∃ (checks : List PreflightCheck) (keystore : String) (outcome : Except String Unit)
      (attempts : List SpawnAttempt),
      exec (preflight host json cfg) before =
        (.ok (checks.map PreflightCheck.line ++ [keystoreLine keystore, sidesLine cfg], outcome),
          before ++ attempts) ∧
      (∀ attempt ∈ attempts, PreflightRuns host cfg attempt.argv) ∧
      List.Forall₂ (Decides host json cfg) (checkKinds cfg.mode) checks ∧
      (outcome = .ok () ↔ ∀ kind ∈ checkKinds cfg.mode, Holds host json cfg kind) := by
  obtain ⟨checks, attempts, hexec, hruns, hdecides⟩ := @preflightChecks_spec host json cfg before
  obtain ⟨keystore, attempts', hexec', hruns', -⟩ :=
    @shellOrEmpty_spec host (before ++ attempts) keystoreCommand cfg.target
  rw [preflight, exec_bind, hexec]
  dsimp only
  rw [exec_bind, hexec', List.append_assoc]
  refine ⟨checks, keystore, _, attempts ++ attempts', rfl, ?_, hdecides, ?_⟩
  · intro attempt hattempt
    rcases List.mem_append.mp hattempt with h | h
    · exact hruns attempt h
    · exact .keystore (hruns' attempt h)
  · rw [← all_pass_iff hdecides]
    cases checks.all (·.pass) with
    | false => exact iff_of_false (fun h => by cases h) (fun h => by cases h)
    | true => exact iff_of_true rfl rfl

end Steps

end Checks

end FwVerify
