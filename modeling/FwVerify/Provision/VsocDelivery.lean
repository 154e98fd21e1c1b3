import FwVerify.Model.Vsoc
import FwVerify.Peer.EndToEnd
import FwVerify.Peer.Sides
import FwVerify.Provision.Waiting
import FwVerify.Verify.Judging

/-!
# Delivery by way of VSOC

In host mode a rule text goes into VSOC with a single request, whose body reads back as this very
text whatever characters it has. Nothing is taken for a version that VSOC did not answer with, and
the rule counts as delivered only when idps-fw shows that version.

## Main definitions

* `Host.Curls` — a request that goes through
* `Puts` — the command line of a request that puts a content for a rule
* `Takes` — VSOC takes a content for a rule, as a version

## Main results

* `upsertRule_spec` — the request of an upsert, and what it returns
* `vsoc_delivery` — the delivery of a rule in host mode
-/

set_option autoImplicit false

namespace FwVerify

open Fallible Text

/-! ## Requests -/

/-- A request goes through, and prints an answer. -/
def Host.Curls (host : Host) (args : List String) (stdout : String) : Prop :=
  ∃ out, host.spawn ("curl" :: args) = .ok (.ok out) ∧ out.code = 0 ∧ out.stdout = stdout

/-- A request is one attempt to start `curl`. -/
theorem runCurl_spec (host : Host) (args : List String) (before : List SpawnAttempt) :
    ∃ (result : Except String String) (started : Bool),
      exec (runCurl host args) before = (result, before ++ [⟨"curl" :: args, started⟩]) ∧
      ∀ stdout, result = .ok stdout ↔ host.Curls args stdout := by
  rw [runCurl, exec_bind, exec_make]
  cases hspawn : host.spawn ("curl" :: args) with
  | error error => exact ⟨_, _, rfl, fun stdout => by simp [Host.Curls, hspawn]⟩
  | ok child =>
    dsimp only
    rw [exec_bind, exec_check]
    cases child with
    | error error => exact ⟨_, _, rfl, fun stdout => by simp [Host.Curls, hspawn]⟩
    | ok out =>
      dsimp only [context_ok]
      by_cases hcode : out.code = 0
      · refine ⟨.ok out.stdout, true, ?_, fun stdout => by simp [Host.Curls, hspawn, hcode]⟩
        rw [if_neg (not_not_intro hcode)]
        rfl
      · refine ⟨.error s!"curl failed: {trim out.stderr}", true, ?_,
          fun stdout => by simp [Host.Curls, hspawn, hcode]⟩
        rw [if_pos hcode]
        rfl

/-! ## Upserts -/

/-- The address of a rule, with the path right behind what the base address has before its last
slashes. -/
theorem url_spec (vsoc : VsocApi) (path : String) :
    ∃ dir slashes : String, vsoc.baseUrl = dir ++ slashes ∧ (∀ c ∈ slashes.toList, c = '/') ∧
      dir.toList.getLast? ≠ some '/' ∧ vsoc.url path = dir ++ path := by
  refine ⟨String.ofList (vsoc.baseUrl.toList.rdropWhile (· == '/')),
    String.ofList (vsoc.baseUrl.toList.rtakeWhile (· == '/')), ?_, fun c hc => ?_, fun hlast => ?_,
    rfl⟩
  · rw [← String.toList_inj, String.toList_append, String.toList_ofList, String.toList_ofList]
    exact (List.rdropWhile_append_rtakeWhile ..).symm
  · rw [String.toList_ofList] at hc
    simpa using List.mem_rtakeWhile_imp hc
  · rw [String.toList_ofList] at hlast
    have hne : vsoc.baseUrl.toList.rdropWhile (· == '/') ≠ [] := by
      intro hnil
      rw [hnil] at hlast
      cases hlast
    have hlast' := List.rdropWhile_last_not (· == '/') vsoc.baseUrl.toList hne
    rw [List.getLast?_eq_some_getLast hne, Option.some.injEq] at hlast
    exact hlast' (beq_iff_eq.mpr hlast)

/-- The answer to an upsert is a version when it is a document with one, and with no objection. -/
theorem upsertAnswer_eq_ok {json : JsonParser} {acd fun_ : Int32} {stdout : String} {ver : Int64} :
    upsertAnswer json acd fun_ stdout = .ok ver ↔
      ∃ value, json.fromStr (trim stdout) = .ok value ∧
        (value.get "detail").bind Value.asStr = none ∧
        (value.get "ver").bind Value.asI64 = some ver := by
  rw [upsertAnswer]
  refine Iff.trans bind_eq_ok (exists_congr fun value => ?_)
  rw [context_eq_ok]
  refine and_congr_right fun _ => ?_
  cases hdetail : (value.get "detail").bind Value.asStr with
  | some detail => exact iff_of_false (fun h => by cases h) fun h => by cases h.1
  | none =>
    rw [and_iff_right rfl]
    cases hver : (value.get "ver").bind Value.asI64 with
    | none => exact iff_of_false (fun h => by cases h) fun h => by cases h
    | some ver' =>
      rw [Option.some.injEq]
      exact ⟨Except.ok.inj, congrArg _⟩

/-- The command line of a request that puts a content for a rule: the path of the rule stands right
behind the base address without its last slashes, and the body, which `curl` does not take for the
name of a file, is a document with the content. -/
def Puts (json : JsonParser) (vsoc : VsocApi) (acd fun_ : Int32) (content : String)
    (argv : List String) : Prop :=
  ∃ dir slashes body : String, vsoc.baseUrl = dir ++ slashes ∧ (∀ c ∈ slashes.toList, c = '/') ∧
    dir.toList.getLast? ≠ some '/' ∧
    argv = "curl" :: (vsoc.baseArgs ++
      upsertArgs body (dir ++ s!"/api/rules/{acd.toInt}/{fun_.toInt}")) ∧
    body.toList.head? ≠ some '@' ∧ json.fromStr body = .ok (upsertBody content)

/-- VSOC takes a content for a rule, as a version: a request that puts it goes through, and its
answer is a document with the version and no objection. -/
def Takes (host : Host) (json : JsonParser) (vsoc : VsocApi) (acd fun_ : Int32) (content : String)
    (ver : Int64) : Prop :=
  ∃ stdout value, host.Curls (vsoc.baseArgs ++ upsertArgs (upsertBody content).compact
      (vsoc.url s!"/api/rules/{acd.toInt}/{fun_.toInt}")) stdout ∧
    json.fromStr (trim stdout) = .ok value ∧ (value.get "detail").bind Value.asStr = none ∧
    (value.get "ver").bind Value.asI64 = some ver

section Upsert

variable {host : Host} {json : JsonParser} (cfg : RunConfig) (fun_ : Int32) (content : String)

theorem sorted_upsertBody : (upsertBody content).sorted = upsertBody content := by
  have hascend : "content" < "enabled" := by decide
  have hcanonical : Canonical 1 (upsertBody content) := by
    refine .object (List.pairwise_pair.mpr hascend) fun field hfield => ?_
    rcases List.mem_pair.mp hfield with rfl | rfl
    · exact .string _
    · exact .bool _
  exact sorted_eq_self hcanonical

/-- The body of an upsert reads back as it was meant, whatever the content is. -/
theorem upsertBody_reads (hjson : json.ReadsPrinted) :
    json.fromStr (upsertBody content).compact = .ok (upsertBody content) := by
  have hintegral : (upsertBody content).Integral maxLevels := by
    refine .object fun field hfield => ?_
    rcases List.mem_pair.mp hfield with rfl | rfl
    · exact .string _
    · exact .bool _
  rw [Value.compact, hjson.printed .compact hintegral, sorted_upsertBody]

theorem puts_upsertArgs (hjson : json.ReadsPrinted) (vsoc : VsocApi) (acd : Int32) :
    Puts json vsoc acd fun_ content ("curl" :: (vsoc.baseArgs ++
      upsertArgs (upsertBody content).compact
        (vsoc.url s!"/api/rules/{acd.toInt}/{fun_.toInt}"))) := by
  obtain ⟨dir, slashes, hbase, hslashes, hlast, hurl⟩ :=
    url_spec vsoc s!"/api/rules/{acd.toInt}/{fun_.toInt}"
  refine ⟨dir, slashes, (upsertBody content).compact, hbase, hslashes, hlast, by rw [hurl], ?_,
    upsertBody_reads content hjson⟩
  have hhead : (upsertBody content).compact.toList.head? = some '\x7b' := by
    rw [Value.compact, Value.print, sorted_upsertBody, String.toList_ofList]
    rfl
  rw [hhead]
  decide

/-- What an upsert asks of VSOC, and what it returns. -/
theorem upsertRule_spec (before : List SpawnAttempt) :
    ∃ (result : Except String Int64) (attempts : List SpawnAttempt),
      exec (upsertRule host json cfg fun_ content) before = (result, before ++ attempts) ∧
      (cfg.vsoc = none → attempts = []) ∧
      (∀ vsoc, cfg.vsoc = some vsoc → ∃ started, attempts =
        [⟨"curl" :: (vsoc.baseArgs ++ upsertArgs (upsertBody content).compact
          (vsoc.url s!"/api/rules/{cfg.acd.toInt}/{fun_.toInt}")), started⟩]) ∧
      ∀ ver, result = .ok ver ↔
        ∃ vsoc, cfg.vsoc = some vsoc ∧ Takes host json vsoc cfg.acd fun_ content ver := by
  rw [upsertRule, exec_bind, exec_check, RunConfig.api]
  cases hvsoc : cfg.vsoc with
  | none =>
    refine ⟨_, [], by rw [List.append_nil], fun _ => rfl, fun _ h => (by cases h), fun ver => ?_⟩
    refine iff_of_false (fun h => by cases h) ?_
    rintro ⟨vsoc, ⟨⟩, -⟩
  | some vsoc =>
    dsimp only
    obtain ⟨result, started, hexec, hcurls⟩ := runCurl_spec host (vsoc.baseArgs ++
      upsertArgs (upsertBody content).compact
        (vsoc.url s!"/api/rules/{cfg.acd.toInt}/{fun_.toInt}")) before
    rw [exec_bind, hexec]
    cases result with
    | error error =>
      refine ⟨_, _, rfl, fun h => (by cases h), ?_, fun ver => ?_⟩
      · rintro _ ⟨⟩
        exact ⟨started, rfl⟩
      · refine iff_of_false (fun h => by cases h) ?_
        rintro ⟨_, ⟨⟩, stdout, value, hstdout, -⟩
        cases (hcurls stdout).mpr hstdout
    | ok stdout =>
      refine ⟨_, _, exec_check _ _, fun h => (by cases h), ?_, fun ver => ?_⟩
      · rintro _ ⟨⟩
        exact ⟨started, rfl⟩
      · rw [upsertAnswer_eq_ok]
        constructor
        · rintro ⟨value, hvalue⟩
          exact ⟨vsoc, rfl, stdout, value, (hcurls stdout).mp rfl, hvalue⟩
        · rintro ⟨_, ⟨⟩, stdout', value, hstdout, hvalue⟩
          obtain rfl := Except.ok.inj ((hcurls stdout').mpr hstdout)
          exact ⟨value, hvalue⟩

end Upsert

/-! ## Delivery -/

/-- The steps of a delivery by way of VSOC. -/
def viaVsoc (host : Host) (json : JsonParser) (cfg : RunConfig) (fun_ : Int32) (content : String)
    (before : List SpawnAttempt) (steps : ProvisionSteps) : ProvisionSteps :=
  { steps with upsert := (exec (upsertRule host json cfg fun_ content) before).1 }

/-- **Delivery by way of VSOC.** Whatever the text of a rule is, delivering it in host mode is one
request at most, which puts this very text for the rule; and it ends with a version exactly when
VSOC took the text as this version and idps-fw later showed the version or a higher one. -/
theorem vsoc_delivery (host : Host) {json : JsonParser} (hjson : json.ReadsPrinted)
    {cfg : RunConfig} (hmode : cfg.mode = .host) (text : String) (before : List SpawnAttempt)
    (steps : ProvisionSteps) :
    (∃ attempts, (exec (upsertRule host json cfg cfg.funFw text) before).2 = before ++ attempts ∧
      attempts.length ≤ 1 ∧ ∀ attempt ∈ attempts, ∃ vsoc, cfg.vsoc = some vsoc ∧
        Puts json vsoc cfg.acd cfg.funFw text attempt.argv) ∧
    ∀ ver, provisionFirewall cfg.mode (viaVsoc host json cfg cfg.funFw text before steps) =
        .ok ver ↔
      (∃ vsoc, cfg.vsoc = some vsoc ∧ Takes host json vsoc cfg.acd cfg.funFw text ver) ∧
      ∃ snapshot ∈ steps.polls.toList,
        ShowsAtLeast "firewall_rule_ver" ver snapshot ∨
          ver ≤ -1 ∧ LacksField "firewall_rule_ver" Value.asI64 snapshot := by
  obtain ⟨result, attempts, hexec, hnone, hsome, htakes⟩ :=
    @upsertRule_spec host json cfg cfg.funFw text before
  refine ⟨⟨attempts, by rw [hexec], ?_, ?_⟩, fun ver => ?_⟩
  · cases hvsoc : cfg.vsoc with
    | none => simp [hnone hvsoc]
    | some vsoc =>
      obtain ⟨started, rfl⟩ := hsome vsoc hvsoc
      exact le_refl 1
  · intro attempt hattempt
    cases hvsoc : cfg.vsoc with
    | none =>
      rw [hnone hvsoc] at hattempt
      cases hattempt
    | some vsoc =>
      obtain ⟨started, rfl⟩ := hsome vsoc hvsoc
      rw [List.mem_singleton.mp hattempt]
      exact ⟨vsoc, rfl, puts_upsertArgs cfg.funFw text hjson vsoc cfg.acd⟩
  · have hupsert : (viaVsoc host json cfg cfg.funFw text before steps).upsert = result := by
      rw [viaVsoc, hexec]
    have hpolls : (viaVsoc host json cfg cfg.funFw text before steps).polls = steps.polls := rfl
    simp only [← reaches_iff]
    rw [hmode, provisionFirewall, provisionFirewallHost, hupsert, hpolls]
    refine Iff.trans bind_eq_ok ?_
    constructor
    · rintro ⟨ver', hresult, hwait⟩
      obtain ⟨⟨⟩, hloaded, hver⟩ := bind_eq_ok.mp hwait
      cases hver
      exact ⟨(htakes ver).mp hresult, (waitFor_ok_iff ..).mp hloaded⟩
    · rintro ⟨htaken, hloaded⟩
      exact ⟨ver, (htakes ver).mpr htaken, bind_eq_ok.mpr ⟨(), (waitFor_ok_iff ..).mpr hloaded, rfl⟩⟩

/-- A configuration with a VSOC, whose address ends in slashes. -/
def vsocConfig : RunConfig :=
  { sampleConfig with vsoc := some ⟨"https://127.0.0.1:8443//", none, none, none⟩ }

/-- A machine on which every program prints that VSOC has taken a rule as version 7. -/
def takingHost : Host where
  pathExists _ := false
  spawn _ := .ok (.ok ⟨0, "\x7b\"ver\":7\x7d\n", ""⟩)
  currentExe := .error "no path"

/-- A snapshot of idps-fw with version 7. -/
def versionSteps : ProvisionSteps where
  health := none
  depotWrite := .error "no depot"
  upsert := .error "no answer"
  polls := ⟨none, [some (.object [("firewall_rule_ver", .number (.posInt 7))])]⟩

/-- A rule with quotes and line ends is delivered as version 7. -/
theorem vsoc_delivery_version :
    provisionFirewall vsocConfig.mode (viaVsoc takingHost jsonParser vsocConfig vsocConfig.funFw
      "chain=localin,action=\"P\"\n" [] versionSteps) = .ok 7 := by
  refine ((vsoc_delivery takingHost jsonParser_readsPrinted rfl _ [] versionSteps).2 7).mpr
    ⟨⟨_, rfl, _, .object [("ver", .number (.posInt 7))], ⟨_, rfl, rfl, rfl⟩, rfl, rfl, rfl⟩, ?_⟩
  exact ⟨_, List.mem_cons_of_mem _ (List.mem_singleton_self _), .inl ⟨_, _, rfl, rfl, by decide⟩⟩

end FwVerify
