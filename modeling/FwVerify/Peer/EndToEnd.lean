import FwVerify.Json.RoundTrip
import FwVerify.Model.Reexec
import FwVerify.Peer.CommandLine
import FwVerify.Traffic.Tallies

/-!
# Traffic from end to end

Between the request and the judgement lie a command line, a process and a line of JSON. None of
them changes what the orchestrator learns: the outcome it reads is the tally and the verdict of the
run it asked for, sent with the credentials it asked for, and it reads none when there was no run.

## Main definitions

* `JsonParser.ReadsPrinted` — a parser that reads what is printed
* `TrafficReport.outcome` — what the orchestrator takes from a report
* `Creds.droppedTo` — the credentials a run is asked to have

## Main results

* `parseJson_line` — a document on a line of its own
* `traffic_end_to_end` — the outcome of a request
-/

set_option autoImplicit false

namespace FwVerify

open Fallible Text

/-- A parser that reads a printed document of integers that is not too deep, and no empty text. -/
structure JsonParser.ReadsPrinted (json : JsonParser) : Prop where
  printed : ∀ {value : Value} (layout : Layout), value.Integral maxLevels →
    json.fromStr (value.print layout) = .ok value.sorted
  empty : ∃ error, json.fromStr "" = .error error

theorem jsonParser_readsPrinted : jsonParser.ReadsPrinted where
  printed layout h := by simp only [jsonParser, readDocument_print h]
  empty := ⟨_, rfl⟩

/-! ## A line of output -/

theorem exists_enclose_eq (layout : Layout) (depth : Nat) (first last : Char)
    (texts : List (List Char)) :
    ∃ inner, enclose layout depth first last texts = first :: (inner ++ [last]) := by
  cases texts with
  | nil => exact ⟨[], rfl⟩
  | cons text later => exact ⟨_, rfl⟩

/-- A printed object has a brace at either end. -/
theorem bare_print_object (layout : Layout) (fields : List (String × Value)) :
    Bare isWhite ((Value.object fields).print layout) := by
  obtain ⟨inner, henclose⟩ := exists_enclose_eq layout 0 '\x7b' '\x7d'
    (writeFields layout (0 + 1) (sortFields (sortedFields fields)))
  have htext : ((Value.object fields).print layout).toList = '\x7b' :: (inner ++ ['\x7d']) := by
    rw [Value.print, Value.sorted, writeValue, henclose, String.toList_ofList]
  constructor
  · intro c hc
    rw [htext] at hc
    cases hc
    decide
  · intro c hc
    rw [htext, ← List.cons_append, List.getLast?_concat] at hc
    cases hc
    decide

/-- An object on a line of its own is what is found in the output. -/
theorem parseJson_line {json : JsonParser} (hjson : json.ReadsPrinted)
    {fields : List (String × Value)} (h : (Value.object fields).Integral maxLevels) :
    parseJson json ((Value.object fields).compact ++ "\n") = .ok (Value.object fields).sorted := by
  have hline : String.ofList ([] ++ (Value.object fields).compact.toList ++ ['\n']) =
      (Value.object fields).compact ++ "\n" := by
    rw [List.nil_append, String.ofList_append, String.ofList_toList]
  have htrim : trim ((Value.object fields).compact ++ "\n") = (Value.object fields).compact := by
    rw [trim_eq_trimEnds, ← hline]
    refine trimEnds_pad (List.forall_mem_nil _) (fun c hc => ?_) (bare_print_object .compact fields)
    rw [List.mem_singleton.mp hc]
    rfl
  rw [parseJson, htrim, Value.compact, hjson.printed .compact h]

theorem agentJson_line {json : JsonParser} (hjson : json.ReadsPrinted) (args : List String)
    {fields : List (String × Value)} (h : (Value.object fields).Integral maxLevels) (code : Int32)
    (stderr : String) :
    agentJson json args (.ok ⟨code, (Value.object fields).compact ++ "\n", stderr⟩) =
      .ok (Value.object fields).sorted :=
  outputJson_ok_iff.mpr ⟨_, rfl, parseJson_line hjson h⟩

/-- Nothing is found in an empty output. -/
theorem agentJson_empty {json : JsonParser} (hjson : json.ReadsPrinted) (args : List String)
    (code : Int32) (stderr : String) :
    ∃ error, agentJson json args (.ok ⟨code, "", stderr⟩) = .error error := by
  obtain ⟨error, hempty⟩ := hjson.empty
  cases hread : agentJson json args (.ok ⟨code, "", stderr⟩) with
  | error error => exact ⟨error, rfl⟩
  | ok value =>
    obtain ⟨out, hout, hparse⟩ := outputJson_ok_iff.mp hread
    cases hout
    have htrim : trim "" = "" := rfl
    rw [parseJson, htrim, hempty] at hparse
    cases hparse

/-! ## The outcome -/

/-- What the orchestrator takes from a report. -/
def TrafficReport.outcome (report : TrafficReport) : TrafficOutcome where
  verdict := report.verdict
  success := report.tally.success
  timeout := report.tally.timeout
  refused := report.tally.refused
  denied := report.tally.denied
  sent := report.tally.sent
  other := report.tally.other

theorem recordFields_sorted (names : List String) {fields : List (String × Value)}
    (hnodup : (fields.map Prod.fst).Nodup) :
    recordFields names (Value.object fields).sorted =
      some fun name => (fields.lookup name).map Value.sorted := by
  have hget (name : String) := get_sorted hnodup name
  rw [Value.sorted] at hget ⊢
  exact congrArg some (funext hget)

@[simp] theorem asOptI64_ofInt64 (n : Int64) : (Value.ofInt64 n).asOptI64 = some (some n) := by
  have hread := Value.asI64_ofInt64 n
  rw [Value.ofInt64] at hread ⊢
  split_ifs at hread ⊢ with h
  · exact congrArg (Option.map some) hread
  · exact congrArg (Option.map some) hread

@[simp] theorem asU32_jsonU32 (n : UInt32) : (jsonU32 n).asU32 = some n := by
  have hlt := n.toNat_lt
  rw [jsonU32, Value.asU32, UInt32.toNat_toUInt64, if_pos hlt, UInt32.toUInt32_toUInt64]

@[simp] theorem sorted_jsonU32 (n : UInt32) : (jsonU32 n).sorted = jsonU32 n := rfl

@[simp] theorem sorted_string (s : String) : (Value.string s).sorted = .string s := rfl

theorem integral_toJson (report : TrafficReport) : report.toJson.Integral maxLevels := by
  refine .object fun f hf => ?_
  simp only [List.mem_cons, List.not_mem_nil, or_false] at hf
  rcases hf with rfl | rfl | rfl | rfl | rfl | rfl | rfl | rfl | rfl | rfl | rfl
  · exact .string _
  · exact .string _
  · refine .array fun item hitem => ?_
    obtain ⟨port, -, rfl⟩ := List.mem_map.mp hitem
    exact .posInt _
  all_goals first | exact .posInt _ | exact .string _

/-- The outcome of a report is read off its document. -/
theorem ofJson_toJson (report : TrafficReport) :
    TrafficOutcome.ofJson report.toJson.sorted = some report.outcome := by
  rw [TrafficOutcome.ofJson, TrafficReport.toJson, recordFields_sorted _ (by simp)]
  simp [required, defaulted, List.lookup_cons, Value.asStr]
  rfl

/-- The orchestrator reads the outcome off a report's line. -/
theorem peerTraffic_line {json : JsonParser} (hjson : json.ReadsPrinted)
    (noOutcome : Value → String) (cmd : TrafficCmd) (uid : Option UInt32) (report : TrafficReport)
    (code : Int32) (stderr : String) :
    peerTraffic json noOutcome cmd uid (.ok ⟨code, report.toJson.compact ++ "\n", stderr⟩) =
      .ok report.outcome := by
  have hread := agentJson_line hjson (cmd.argv uid) (integral_toJson report) code stderr
  have hofJson := ofJson_toJson report
  rw [TrafficReport.toJson] at hofJson ⊢
  rw [peerTraffic, hread]
  dsimp only [bind, Except.bind]
  rw [hofJson]

theorem peerTraffic_empty {json : JsonParser} (hjson : json.ReadsPrinted)
    (noOutcome : Value → String) (cmd : TrafficCmd) (uid : Option UInt32) (code : Int32)
    (stderr : String) :
    (peerTraffic json noOutcome cmd uid (.ok ⟨code, "", stderr⟩)).toOption = none := by
  obtain ⟨error, hread⟩ := agentJson_empty hjson (cmd.argv uid) code stderr
  rw [peerTraffic, hread]
  rfl

/-! ## Credentials -/

/-- The credentials a run is asked to have. -/
def Creds.droppedTo (creds : Creds) : Option UInt32 → Creds
  | none => creds
  | some uid => { groups := [], gid := uid, uid }

/-- All the calls a uid takes succeed. -/
def CredCalls.Allow (calls : CredCalls) (uid : UInt32) : Prop :=
  calls.setgroups = .ok () ∧ calls.setgid uid = .ok () ∧ calls.setuid uid = .ok ()

/-- Dropping to a uid leaves nothing of the old credentials. -/
theorem exec_dropToUid {calls : CredCalls} {uid : UInt32} (h : calls.Allow uid) (creds : Creds) :
    exec (dropToUid calls uid) creds = (.ok (), creds.droppedTo (some uid)) := by
  obtain ⟨hgroups, hgid, huid⟩ := h
  simp [dropToUid, callFailed, hgroups, hgid, huid, Except.mapError, Creds.droppedTo]

theorem dropToUid_fails {calls : CredCalls} {uid : UInt32} (h : ¬ calls.Allow uid)
    (creds : Creds) : ∃ error, (exec (dropToUid calls uid) creds).1 = .error error := by
  rw [dropToUid, exec_bind, exec_check]
  cases hgroups : calls.setgroups with
  | error error => exact ⟨_, rfl⟩
  | ok _ =>
    dsimp only [callFailed, Except.mapError]
    rw [exec_bind, exec_modify]
    dsimp only
    rw [exec_bind, exec_check]
    cases hgid : calls.setgid uid with
    | error error => exact ⟨_, rfl⟩
    | ok _ =>
      dsimp only [callFailed, Except.mapError]
      rw [exec_bind, exec_modify]
      dsimp only
      rw [exec_bind, exec_check]
      cases huid : calls.setuid uid with
      | error error => exact ⟨_, rfl⟩
      | ok _ => exact absurd ⟨hgroups, hgid, huid⟩ h

/-! ## From request to outcome -/

section Request

variable {json : JsonParser} {noOutcome : Value → String} {system : WorkerSystem} {creds : Creds}
  {cmd : TrafficCmd} {uid : Option UInt32} {p : Proto}

/-- The run a request asks for, with the credentials it asks for. -/
def requestedRun (system : WorkerSystem) (creds : Creds) (cmd : TrafficCmd) (uid : Option UInt32)
    (p : Proto) : Except String TrafficReport :=
  trafficRun (cmd.args uid p) system.pid (fun _ => .ok ()) (system.attempt (creds.droppedTo uid))

/-- A worker that gets its credentials prints the report of the requested run. -/
theorem trafficProcess_allowed (hproto : cmd.proto = p.lowercase)
    (hallow : ∀ user, uid = some user → system.calls.Allow user) {report : TrafficReport}
    (hrun : requestedRun system creds cmd uid p = .ok report) :
    trafficProcess system creds (cmd.argv uid) =
      ⟨0, report.toJson.compact ++ "\n", ""⟩ := by
  have hcreds : system.credentials creds uid = (.ok (), creds.droppedTo uid) := by
    cases uid with
    | none => rfl
    | some user => exact exec_dropToUid (hallow user rfl) creds
  rw [trafficProcess, parse_argv IpAddr.parse cmd uid hproto (IpAddr.parse_display _)]
  dsimp only [TrafficCmd.args]
  rw [hcreds]
  dsimp only
  rw [requestedRun, TrafficCmd.args] at hrun
  rw [hrun]

/-- A worker that prints anything has got its credentials and has carried out the request. -/
theorem exists_report_of_printed (hproto : cmd.proto = p.lowercase)
    (hprinted : (trafficProcess system creds (cmd.argv uid)).stdout ≠ "") :
    (∀ user, uid = some user → system.calls.Allow user) ∧
      ∃ report, requestedRun system creds cmd uid p = .ok report := by
  have hparse := parse_argv IpAddr.parse cmd uid hproto (IpAddr.parse_display _)
  have hallow : ∀ user, uid = some user → system.calls.Allow user := by
    rintro user rfl
    by_contra hrefused
    obtain ⟨error, hdrop⟩ := dropToUid_fails hrefused creds
    apply hprinted
    rw [trafficProcess, hparse]
    dsimp only [TrafficCmd.args, WorkerSystem.credentials]
    rw [hdrop]
    cases hrun : trafficRun _ system.pid _ _ with
    | error error => rfl
    | ok report =>
      obtain ⟨hdropped, -⟩ := trafficRun_ok hrun
      cases hdropped user rfl
  refine ⟨hallow, ?_⟩
  have hcreds : system.credentials creds uid = (.ok (), creds.droppedTo uid) := by
    cases uid with
    | none => rfl
    | some user => exact exec_dropToUid (hallow user rfl) creds
  cases hrun : requestedRun system creds cmd uid p with
  | ok report => exact ⟨report, rfl⟩
  | error error =>
    refine absurd ?_ hprinted
    rw [trafficProcess, hparse]
    dsimp only [TrafficCmd.args]
    rw [hcreds]
    dsimp only
    rw [requestedRun, TrafficCmd.args] at hrun
    rw [hrun]

/-- An outcome is that of the requested run. -/
theorem exists_report_of_peerTraffic (hjson : json.ReadsPrinted) (hproto : cmd.proto = p.lowercase)
    {outcome : TrafficOutcome}
    (houtcome : peerTraffic json noOutcome cmd uid
      (.ok (trafficProcess system creds (cmd.argv uid))) = .ok outcome) :
    (∀ user, uid = some user → system.calls.Allow user) ∧
      ∃ report, requestedRun system creds cmd uid p = .ok report ∧ report.outcome = outcome := by
  have hprinted : (trafficProcess system creds (cmd.argv uid)).stdout ≠ "" := by
    intro hempty
    have hnone := peerTraffic_empty hjson noOutcome cmd uid
      (trafficProcess system creds (cmd.argv uid)).code
      (trafficProcess system creds (cmd.argv uid)).stderr
    rw [← hempty, houtcome] at hnone
    cases hnone
  obtain ⟨hallow, report, hrun⟩ := exists_report_of_printed hproto hprinted
  rw [trafficProcess_allowed hproto hallow hrun, peerTraffic_line hjson] at houtcome
  cases houtcome
  exact ⟨hallow, report, hrun, rfl⟩

/-- The outcome of the requested run arrives. -/
theorem peerTraffic_of_report (hjson : json.ReadsPrinted) (hproto : cmd.proto = p.lowercase)
    (hallow : ∀ user, uid = some user → system.calls.Allow user) {report : TrafficReport}
    (hrun : requestedRun system creds cmd uid p = .ok report) :
    peerTraffic json noOutcome cmd uid (.ok (trafficProcess system creds (cmd.argv uid))) =
      .ok report.outcome := by
  rw [trafficProcess_allowed hproto hallow hrun, peerTraffic_line hjson]

/-- **Traffic from end to end.** An outcome reaches the orchestrator exactly when the worker gets
the credentials of the request and its run reports, and it is then the tally and the verdict of
that run. -/
theorem traffic_end_to_end (hjson : json.ReadsPrinted) (hproto : cmd.proto = p.lowercase)
    (outcome : TrafficOutcome) :
    peerTraffic json noOutcome cmd uid (.ok (trafficProcess system creds (cmd.argv uid))) =
        .ok outcome ↔
      (∀ user, uid = some user → system.calls.Allow user) ∧
        ∃ report, requestedRun system creds cmd uid p = .ok report ∧ report.outcome = outcome := by
  constructor
  · exact exists_report_of_peerTraffic hjson hproto
  · rintro ⟨hallow, report, hrun, rfl⟩
    exact peerTraffic_of_report hjson hproto hallow hrun

end Request

/-- A connect as another user that is answered. -/
def appConnect : TrafficCmd where
  proto := "tcp"
  toAddr := .v4 ⟨10, 123, 0, 2⟩
  dport := some 7001
  dports := none
  sport := none
  count := 1
  timeoutMs := 1500
  intervalMs := 0
  awaitReply := false
  finOnly := false
  icmpTimestamp := false

/-- A kernel that lets the worker change its credentials, and only the user's connects out. -/
def userSystem (user : UInt32) : WorkerSystem where
  pid := 4242
  calls := ⟨.ok (), fun _ => .ok (), fun _ => .ok ()⟩
  attempt creds _ _ := .ok (if creds.uid = user then .success else .denied)
  usage := "error: usage"

/-- The connect of a user that is allowed comes back as allowed. -/
theorem traffic_end_to_end_user :
    peerTraffic jsonParser (fun _ => "no outcome") appConnect (some 2000)
        (.ok (trafficProcess (userSystem 2000) ⟨[0], 0, 0⟩ (appConnect.argv (some 2000)))) =
      .ok { verdict := "allowed", success := 1 } :=
  (traffic_end_to_end (p := .tcp) jsonParser_readsPrinted rfl _).mpr
    ⟨fun _ _ => ⟨rfl, rfl, rfl⟩, _, rfl, rfl⟩

end FwVerify
