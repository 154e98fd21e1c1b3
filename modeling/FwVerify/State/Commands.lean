import FwVerify.Model.Report
import FwVerify.State.Rows

/-!
# The worker's view of the state

The orchestrator asks the database itself. The worker's commands `dump-events` and `report-status`
ask it as well, and print what they find. Read back from the line that is printed, both agree with
what the orchestrator sees: the one lists the very events of a run, the other counts them.

## Main definitions

* `EventsDump`, `StatusReport` — what the two lines say
* `StatusReport.Agrees` — a report on the events a run sees
* `QueueReadable` — the queue of reports can be told

## Main results

* `agentJson_document` — the document of a worker arrives, or none does
* `dump_events_agrees` — the worker dumps the events the orchestrator sees
* `report_status_agrees` — the worker's report agrees with them
-/

set_option autoImplicit false

namespace FwVerify

open Fallible Selection Traversal

/-! ## Documents of a worker -/

section Documents

variable {json : JsonParser} (hjson : json.ReadsPrinted) (args : List String)

include hjson in
/-- The document of a worker arrives in order, and none does when there is none. -/
theorem agentJson_document {document : Except String Value}
    (hdocument : ∀ value, document = .ok value →
      ∃ fields, value = .object fields ∧ value.Integral maxLevels) :
    (agentJson json args (.ok (documentProcess document))).toOption =
      document.toOption.map Value.sorted := by
  cases document with
  | error error =>
    obtain ⟨reason, hreason⟩ := agentJson_empty hjson args 1 s!"fw-verify error: {error}\n"
    rw [documentProcess, hreason]
    rfl
  | ok value =>
    obtain ⟨fields, rfl, hintegral⟩ := hdocument value rfl
    rw [documentProcess, agentJson_line hjson args hintegral]
    rfl

/-- Reading a field does not depend on the order of what stands in it. -/
theorem required_sorted {α : Type} (field : String → Option Value) (name : String)
    {decode : Value → Option α} (hdecode : ∀ value, decode value.sorted = decode value) :
    required (fun name => (field name).map Value.sorted) name decode =
      required field name decode := by
  rw [required, required]
  cases field name with
  | none => rfl
  | some value => exact hdecode value

theorem defaulted_sorted {α : Type} (field : String → Option Value) (name : String)
    {decode : Value → Option α} (default : α)
    (hdecode : ∀ value, decode value.sorted = decode value) :
    defaulted (fun name => (field name).map Value.sorted) name decode default =
      defaulted field name decode default := by
  rw [defaulted, defaulted]
  cases field name with
  | none => rfl
  | some value => exact hdecode value

theorem asStr_sorted (value : Value) : value.sorted.asStr = value.asStr := by
  cases value <;> rfl

theorem asI64_sorted (value : Value) : value.sorted.asI64 = value.asI64 := by
  cases value <;> rfl

theorem asOptI64_sorted (value : Value) : value.sorted.asOptI64 = value.asOptI64 := by
  cases value <;> rfl

theorem bind_eq_bind {α β : Type} {o o' : Option α} {f f' : α → Option β} (ho : o = o')
    (hf : ∀ a, f a = f' a) : (o >>= f) = o' >>= f' := by
  rw [ho]
  exact congrArg _ (funext hf)

/-- An event is read off its fields in any order. -/
theorem FwEvent.ofJson_sorted {fields : List (String × Value)}
    (hnodup : (fields.map Prod.fst).Nodup) :
    FwEvent.ofJson (Value.object fields).sorted = FwEvent.ofJson (.object fields) := by
  have hfields (names : List String) :
      recordFields names (.object fields) = some fun name => fields.lookup name := rfl
  rw [FwEvent.ofJson, FwEvent.ofJson, recordFields_sorted _ hnodup, hfields]
  dsimp only [Option.bind_eq_bind, Option.bind_some]
  refine bind_eq_bind (required_sorted _ _ asStr_sorted) fun eventId => ?_
  refine bind_eq_bind (required_sorted _ _ asI64_sorted) fun eventTimeMs => ?_
  refine bind_eq_bind (required_sorted _ _ asStr_sorted) fun eventType => ?_
  refine bind_eq_bind (required_sorted _ _ asStr_sorted) fun action => ?_
  refine bind_eq_bind (required_sorted _ _ asStr_sorted) fun srcIp => ?_
  refine bind_eq_bind (required_sorted _ _ asI64_sorted) fun srcPort => ?_
  refine bind_eq_bind (required_sorted _ _ asStr_sorted) fun dstIp => ?_
  refine bind_eq_bind (required_sorted _ _ asI64_sorted) fun dstPort => ?_
  refine bind_eq_bind (required_sorted _ _ asStr_sorted) fun proto => ?_
  refine bind_eq_bind (defaulted_sorted _ _ _ asOptI64_sorted) fun ruleId => ?_
  refine bind_eq_bind (defaulted_sorted _ _ _ asStr_sorted) fun detail => ?_
  exact bind_eq_bind (required_sorted _ _ asStr_sorted) fun reportState => rfl

end Documents

/-! ## The dump of the events -/

/-- The line of `dump-events`. -/
structure EventsDump where
  since : Int64
  count : UInt64
  events : List FwEvent
  deriving DecidableEq

def EventsDump.ofJson (value : Value) : Option EventsDump := do
  let field ← recordFields ["since", "count", "events"] value
  let since ← required field "since" Value.asI64
  let count ← required field "count" Value.asU64
  let items ← required field "events" Value.asArray
  let events ← items.mapM FwEvent.ofJson
  return { since, count, events }

section Dump

variable {json : JsonParser} {order : StateOrder} {db : StateDb} {since : Int64}

theorem integral_jsonOptInt {levels : Nat} (n : Option Int64) : (jsonOptInt n).Integral levels := by
  cases n with
  | none => exact .null
  | some n => exact integral_ofInt64 n

theorem integral_jsonOptText {levels : Nat} (s : Option String) :
    (jsonOptText s).Integral levels := by
  cases s with
  | none => exact .null
  | some s => exact .string s

/-- A row's document is an object of integers and texts that gives each name once. -/
theorem EventRow.toJson_object {levels : Nat} {row : EventRow} {value : Value}
    (h : row.toJson json = .ok value) :
    value.Integral (levels + 1) ∧
      ∃ fields, value = .object fields ∧ (fields.map Prod.fst).Nodup := by
  rw [EventRow.toJson] at h
  obtain ⟨eventId, -, h⟩ := bind_eq_ok.mp h
  obtain ⟨eventType, -, h⟩ := bind_eq_ok.mp h
  obtain ⟨action, -, h⟩ := bind_eq_ok.mp h
  obtain ⟨appId, -, h⟩ := bind_eq_ok.mp h
  obtain ⟨ifindex, -, h⟩ := bind_eq_ok.mp h
  obtain ⟨srcIp, -, h⟩ := bind_eq_ok.mp h
  obtain ⟨srcPort, -, h⟩ := bind_eq_ok.mp h
  obtain ⟨dstIp, -, h⟩ := bind_eq_ok.mp h
  obtain ⟨dstPort, -, h⟩ := bind_eq_ok.mp h
  obtain ⟨proto, -, h⟩ := bind_eq_ok.mp h
  obtain ⟨ruleId, -, h⟩ := bind_eq_ok.mp h
  obtain ⟨detail, -, h⟩ := bind_eq_ok.mp h
  obtain ⟨reportState, -, h⟩ := bind_eq_ok.mp h
  cases h
  refine ⟨.object fun f hf => ?_, _, rfl, by simp⟩
  simp only [List.mem_cons, List.not_mem_nil, or_false] at hf
  rcases hf with rfl | rfl | rfl | rfl | rfl | rfl | rfl | rfl | rfl | rfl | rfl | rfl | rfl | rfl
  all_goals first | exact .string _ | exact integral_ofInt64 _ | exact integral_jsonOptInt _

theorem queryEvents_objects {levels : Nat} {rows : List Value}
    (hrows : queryEvents json order db since = .ok rows) :
    ∀ value ∈ rows, value.Integral (levels + 1) ∧ ∃ fields, value = .object fields ∧
      (fields.map Prod.fst).Nodup := by
  rw [queryEvents] at hrows
  obtain ⟨-, -, hread⟩ := bind_eq_ok.mp hrows
  intro value hvalue
  obtain ⟨row, -, hrow⟩ := exists_of_mem_right (mapM_ok_iff.mp (context_eq_ok.mp hread)) hvalue
  exact EventRow.toJson_object hrow

variable (since) in
/-- The fields of the line of a dump. -/
theorem dump_fields (name : String) (hsince : name ≠ "since") (hcount : name ≠ "count")
    (rows : List Value) :
    ∃ field, recordFields ["since", "count", name] (Value.object [("since", .ofInt64 since),
        ("count", .number (.posInt (UInt64.ofNat rows.length))), (name, .array rows)]).sorted =
          some field ∧
      required field "since" Value.asI64 = some since ∧
      required field "count" Value.asU64 = some (UInt64.ofNat rows.length) ∧
      required field name Value.asArray = some (rows.map Value.sorted) := by
  refine ⟨_, recordFields_sorted _ (by simp [hsince.symm, hcount.symm]), ?_, ?_, ?_⟩
  · exact (required_sorted _ _ asI64_sorted).trans (Value.asI64_ofInt64 since)
  · rfl
  · rw [← sortedItems_eq_map, required, List.lookup_cons, List.lookup_cons, List.lookup_cons_self,
      beq_eq_false_iff_ne.mpr hsince, beq_eq_false_iff_ne.mpr hcount]
    rfl

/-- The line of a dump says what the rows say. -/
theorem EventsDump.ofJson_sorted {rows : List Value}
    (hrows : ∀ value ∈ rows, ∃ fields, value = .object fields ∧ (fields.map Prod.fst).Nodup) :
    EventsDump.ofJson (Value.object [("since", .ofInt64 since),
        ("count", .number (.posInt (UInt64.ofNat rows.length))), ("events", .array rows)]).sorted =
      (rows.mapM FwEvent.ofJson).map fun events => ⟨since, UInt64.ofNat rows.length, events⟩ := by
  have hitems : (rows.map Value.sorted).mapM FwEvent.ofJson = rows.mapM FwEvent.ofJson := by
    refine mapM_map_congr fun value hvalue => ?_
    obtain ⟨fields, rfl, hnodup⟩ := hrows value hvalue
    exact FwEvent.ofJson_sorted hnodup
  obtain ⟨field, hfields, hsince, hcount, hevents⟩ :=
    dump_fields since "events" (by decide) (by decide) rows
  rw [EventsDump.ofJson, hfields]
  simp only [Option.bind_eq_bind, Option.bind_some, hsince, hcount, hevents, hitems]
  cases rows.mapM FwEvent.ofJson <;> rfl

/-- The worker has a document to print whenever the query goes through. -/
theorem eventsDocument_object :
    ∀ value, eventsDocument json order db since = .ok value →
      ∃ fields, value = .object fields ∧ value.Integral maxLevels := by
  intro value hvalue
  rw [eventsDocument] at hvalue
  obtain ⟨rows, hrows, hvalue⟩ := bind_eq_ok.mp hvalue
  cases hvalue
  refine ⟨_, rfl, .object fun f hf => ?_⟩
  simp only [List.mem_cons, List.not_mem_nil, or_false] at hf
  rcases hf with rfl | rfl | rfl
  · exact integral_ofInt64 since
  · exact .posInt _
  · exact .array fun item hitem => (queryEvents_objects hrows item hitem).1

/-- **The worker dumps what the orchestrator sees.** Read back from its line, `dump-events` gives
the events the orchestrator takes from the database itself, with their number and the watermark, and
it gives nothing exactly when the orchestrator's own query fails. -/
theorem dump_events_agrees (hjson : json.ReadsPrinted) (args : List String)
    (noRecord : List Value → String) :
    (agentJson json args
        (.ok (documentProcess (eventsDocument json order db since)))).toOption.bind
      EventsDump.ofJson =
    (dumpEvents json order db since noRecord).toOption.map fun events =>
      ⟨since, UInt64.ofNat events.length, events⟩ := by
  rw [agentJson_document hjson args eventsDocument_object, eventsDocument, dumpEvents,
    toOption_bind, toOption_bind]
  cases hrows : queryEvents json order db since with
  | error error => rfl
  | ok rows =>
    have hobjects : ∀ value ∈ rows, value.Integral 1 ∧ ∃ fields, value = .object fields ∧
        (fields.map Prod.fst).Nodup := queryEvents_objects hrows
    refine (EventsDump.ofJson_sorted fun value hvalue => (hobjects value hvalue).2).trans ?_
    change _ = (fromDocuments _ FwEvent.ofJson noRecord rows).toOption.map _
    rw [toOption_fromDocuments]
    cases hevents : rows.mapM FwEvent.ofJson with
    | none => rfl
    | some events => rw [Option.map_some, Option.map_some, (mapM_eq_some_iff.mp hevents).length_eq]

end Dump

/-- The line of a dump of the probe. -/
theorem dump_events_agrees_probe :
    (agentJson jsonParser ["dump-events"] (.ok (documentProcess
        (eventsDocument jsonParser .stable (probeDb [probeAt 15]) 10)))).toOption.bind
      EventsDump.ofJson = some ⟨10, 1, [probeAt 15]⟩ := by
  have hnewer : (10 : Int64) < (probeAt 15).eventTimeMs := by decide
  refine (dump_events_agrees jsonParser_readsPrinted _ fun _ => "no record").trans ?_
  rw [dumpEvents_probe _ hnewer]
  rfl

/-! ## The report on the events -/

/-- What `report-status` says of an event. -/
structure EventStatus where
  eventId : String
  eventTimeMs : Int64
  eventType : String
  reportState : String
  deriving DecidableEq

def EventStatus.of (ev : FwEvent) : EventStatus where
  eventId := ev.eventId
  eventTimeMs := ev.eventTimeMs
  eventType := ev.eventType
  reportState := ev.reportState

def EventStatus.toJson (status : EventStatus) : Value :=
  .object [("event_id", .string status.eventId), ("event_time_ms", .ofInt64 status.eventTimeMs),
    ("event_type", .string status.eventType), ("report_state", .string status.reportState)]

def EventStatus.ofJson (value : Value) : Option EventStatus := do
  let field ← recordFields ["event_id", "event_time_ms", "event_type", "report_state"] value
  let eventId ← required field "event_id" Value.asStr
  let eventTimeMs ← required field "event_time_ms" Value.asI64
  let eventType ← required field "event_type" Value.asStr
  let reportState ← required field "report_state" Value.asStr
  return { eventId, eventTimeMs, eventType, reportState }

/-- A document's text, or nothing when it is null. -/
def Value.asOptStr : Value → Option (Option String)
  | .null => some none
  | value => value.asStr.map some

/-- What `report-status` says of the reports in one state. -/
structure QueueState where
  state : String
  count : Int64
  maxRetry : Option Int64
  lastError : Option String
  deriving DecidableEq

def QueueState.toJson (entry : QueueState) : Value :=
  .object [("state", .string entry.state), ("count", .ofInt64 entry.count),
    ("max_retry", jsonOptInt entry.maxRetry), ("last_error", jsonOptText entry.lastError)]

def QueueState.ofJson (value : Value) : Option QueueState := do
  let field ← recordFields ["state", "count", "max_retry", "last_error"] value
  let state ← required field "state" Value.asStr
  let count ← required field "count" Value.asI64
  let maxRetry ← required field "max_retry" Value.asOptI64
  let lastError ← required field "last_error" Value.asOptStr
  return { state, count, maxRetry, lastError }

/-- The line of `report-status`. -/
structure StatusReport where
  since : Int64
  total : UInt64
  sent : UInt64
  pending : UInt64
  events : List EventStatus
  outbox : List QueueState
  deriving DecidableEq

def StatusReport.ofJson (value : Value) : Option StatusReport := do
  let field ← recordFields
    ["since", "events_total", "events_sent", "events_pending", "events", "outbox"] value
  let since ← required field "since" Value.asI64
  let total ← required field "events_total" Value.asU64
  let sent ← required field "events_sent" Value.asU64
  let pending ← required field "events_pending" Value.asU64
  let events ← (← required field "events" Value.asArray).mapM EventStatus.ofJson
  let outbox ← (← required field "outbox" Value.asArray).mapM QueueState.ofJson
  return { since, total, sent, pending, events, outbox }

section Status

variable {json : JsonParser} {order : StateOrder} {db : StateDb} {since : Int64}

variable (json) in
/-- What a row says of its event's report. -/
def EventRow.status (row : EventRow) : Option EventStatus := do
  let eventId ← row.eventId.asText
  let eventType ← row.eventType.asText
  let reportState ← row.reportState.asText
  return {
    eventId, eventTimeMs := row.eventTimeMs, eventType := unquote json eventType, reportState }

theorem EventRow.statusJson_toOption (row : EventRow) :
    (row.statusJson json).toOption = (row.status json).map EventStatus.toJson := by
  rw [EventRow.statusJson, EventRow.status]
  simp only [toOption_bind, toOption_getText]
  cases row.eventId.asText <;> cases row.eventType.asText <;> cases row.reportState.asText <;> rfl

/-- A row that stands for an event says the same of it. -/
theorem EventRow.status_of_event {row : EventRow} {ev : FwEvent} (h : row.event json = some ev) :
    row.status json = some (.of ev) := by
  simp only [EventRow.event, Option.bind_eq_bind, Option.bind_eq_some_iff] at h
  obtain ⟨eventId, hid, eventType, htype, _, -, _, -, _, -, _, -, _, -, _, -, _, -, _, -, _, -,
    _, -, reportState, hstate, hev⟩ := h
  cases hev
  rw [EventRow.status, hid, htype, hstate]
  rfl

theorem EventStatus.ofJson_toJson (status : EventStatus) :
    EventStatus.ofJson status.toJson.sorted = some status := by
  rw [EventStatus.ofJson, EventStatus.toJson, recordFields_sorted _ (by simp)]
  simp [required, List.lookup_cons, Value.asStr, sorted_ofInt64, Value.asI64_ofInt64]

theorem QueueState.ofJson_toJson (entry : QueueState) :
    QueueState.ofJson entry.toJson.sorted = some entry := by
  have hretry : (jsonOptInt entry.maxRetry).sorted.asOptI64 = some entry.maxRetry := by
    rw [asOptI64_sorted, asOptI64_jsonOptInt]
  have herror : (jsonOptText entry.lastError).sorted.asOptStr = some entry.lastError := by
    cases entry.lastError <;> rfl
  rw [QueueState.ofJson, QueueState.toJson, recordFields_sorted _ (by simp)]
  simp [required, List.lookup_cons, Value.asStr, sorted_ofInt64, Value.asI64_ofInt64, hretry,
    herror]

variable (order) in
/-- What a state's reports say, when the values that are told of them are of the right types. -/
def QueueState.of (group : SqlValue × List OutboxRow) : Option QueueState := do
  let state ← group.1.asText
  let maxRetry ← (order.maximum.max (group.2.map (·.retryCount))).asOptInt
  let lastError ← (order.maximum.max (group.2.map (·.lastError))).asOptText
  return { state, count := Int64.ofNat group.2.length, maxRetry, lastError }

theorem outboxJson_toOption (group : SqlValue × List OutboxRow) :
    (outboxJson order group).toOption = (QueueState.of order group).map QueueState.toJson := by
  rw [outboxJson, QueueState.of]
  simp only [toOption_bind, toOption_getText, toOption_getOptInt, toOption_getOptText]
  cases group.1.asText with
  | none => rfl
  | some state =>
    cases (order.maximum.max (group.2.map (·.retryCount))).asOptInt with
    | none => rfl
    | some maxRetry =>
      cases (order.maximum.max (group.2.map (·.lastError))).asOptText <;> rfl

/-- The document of a report on some events and some states of the queue. -/
def statusValue (since : Int64) (total sent pending : UInt64) (statuses : List EventStatus)
    (queue : List QueueState) : Value :=
  .object [("since", .ofInt64 since), ("events_total", .number (.posInt total)),
    ("events_sent", .number (.posInt sent)), ("events_pending", .number (.posInt pending)),
    ("events", .array (statuses.map EventStatus.toJson)),
    ("outbox", .array (queue.map QueueState.toJson))]

/-- The document of a report, when the events it lists are readable. -/
theorem toOption_statusDocument (hquery : db.query "firewall_event" = .ok ())
    {statuses : List EventStatus}
    (hstatuses : (selectEvents order db since).mapM (EventRow.status json) = some statuses) :
    (statusDocument json order db since).toOption =
      (db.prepared "report_outbox").toOption.bind fun _ =>
        ((groups order.states (·.state) db.outbox).mapM (QueueState.of order)).map
          (statusValue since (UInt64.ofNat statuses.length)
            (UInt64.ofNat (statuses.countP (·.reportState = "sent")))
            (UInt64.ofNat (statuses.countP (·.reportState = "pending"))) statuses) := by
  obtain ⟨⟨⟩, hconnect, hprepare⟩ := bind_eq_ok.mp hquery
  have hrows : (selectEvents order db since).mapM (EventRow.statusJson json) =
      .ok (statuses.map EventStatus.toJson) := by
    rw [← toOption_eq_some, toOption_mapM, funext EventRow.statusJson_toOption, mapM_map_right,
      hstatuses]
    rfl
  have hcount (state : String) : countState state (statuses.map EventStatus.toJson) =
      statuses.countP (·.reportState = state) := by
    rw [countState, List.countP_map]
    rfl
  have hqueue : ((groups order.states (·.state) db.outbox).mapM (outboxJson order)).toOption =
      ((groups order.states (·.state) db.outbox).mapM (QueueState.of order)).map
        (List.map QueueState.toJson) := by
    rw [toOption_mapM, funext outboxJson_toOption, mapM_map_right]
  rw [statusDocument, hconnect, context_eq_ok.mp hprepare, hrows]
  change ((Fallible.context _ (db.prepared "report_outbox")) >>= _).toOption = _
  rw [toOption_bind, toOption_context]
  congr 1
  funext prepared
  rw [toOption_bind, toOption_context, hqueue, hcount, hcount, List.length_map]
  cases (groups order.states (·.state) db.outbox).mapM (QueueState.of order) <;> rfl

/-- The document of a report is an object of integers and texts. -/
theorem statusValue_object (total sent pending : UInt64) (statuses : List EventStatus)
    (queue : List QueueState) :
    ∃ fields, statusValue since total sent pending statuses queue = .object fields ∧
      (statusValue since total sent pending statuses queue).Integral maxLevels := by
  have hstatus {levels : Nat} (status : EventStatus) :
      status.toJson.Integral (levels + 1) := by
    refine .object fun f hf => ?_
    simp only [List.mem_cons, List.not_mem_nil, or_false] at hf
    rcases hf with rfl | rfl | rfl | rfl
    all_goals first | exact .string _ | exact integral_ofInt64 _
  have hentry {levels : Nat} (entry : QueueState) : entry.toJson.Integral (levels + 1) := by
    refine .object fun f hf => ?_
    simp only [List.mem_cons, List.not_mem_nil, or_false] at hf
    rcases hf with rfl | rfl | rfl | rfl
    · exact .string _
    · exact integral_ofInt64 _
    · exact integral_jsonOptInt _
    · exact integral_jsonOptText _
  refine ⟨_, rfl, .object fun f hf => ?_⟩
  simp only [List.mem_cons, List.not_mem_nil, or_false] at hf
  rcases hf with rfl | rfl | rfl | rfl | rfl | rfl
  · exact integral_ofInt64 _
  · exact .posInt _
  · exact .posInt _
  · exact .posInt _
  · refine .array fun item hitem => ?_
    obtain ⟨status, -, rfl⟩ := List.mem_map.mp hitem
    exact hstatus status
  · refine .array fun item hitem => ?_
    obtain ⟨entry, -, rfl⟩ := List.mem_map.mp hitem
    exact hentry entry

/-- The line of a report is read back. -/
theorem StatusReport.ofJson_sorted (total sent pending : UInt64) (statuses : List EventStatus)
    (queue : List QueueState) :
    StatusReport.ofJson (statusValue since total sent pending statuses queue).sorted =
      some ⟨since, total, sent, pending, statuses, queue⟩ := by
  have hstatuses : ((statuses.map EventStatus.toJson).map Value.sorted).mapM EventStatus.ofJson =
      some statuses := by
    rw [List.map_map]
    exact mapM_map_of_undoes EventStatus.ofJson_toJson statuses
  have hqueue : ((queue.map QueueState.toJson).map Value.sorted).mapM QueueState.ofJson =
      some queue := by
    rw [List.map_map]
    exact mapM_map_of_undoes QueueState.ofJson_toJson queue
  generalize hfield : (fun name => ((List.lookup name [("since", Value.ofInt64 since),
    ("events_total", .number (.posInt total)), ("events_sent", .number (.posInt sent)),
    ("events_pending", .number (.posInt pending)),
    ("events", .array (statuses.map EventStatus.toJson)),
    ("outbox", .array (queue.map QueueState.toJson))]).map Value.sorted)) = field
  have hsince : required field "since" Value.asI64 = some since := by
    rw [← hfield]
    exact (required_sorted _ _ asI64_sorted).trans (Value.asI64_ofInt64 since)
  have hnumber (name : String) (n : UInt64) (hn : field name = some (.number (.posInt n))) :
      required field name Value.asU64 = some n := by
    rw [required, hn]
    rfl
  have hevents : required field "events" Value.asArray =
      some ((statuses.map EventStatus.toJson).map Value.sorted) := by
    rw [← hfield, ← sortedItems_eq_map]
    rfl
  have houtbox : required field "outbox" Value.asArray =
      some ((queue.map QueueState.toJson).map Value.sorted) := by
    rw [← hfield, ← sortedItems_eq_map]
    rfl
  rw [StatusReport.ofJson, statusValue, recordFields_sorted _ (by simp), hfield]
  simp only [Option.bind_eq_bind, Option.bind_some, hsince,
    hnumber "events_total" total (by rw [← hfield]; rfl),
    hnumber "events_sent" sent (by rw [← hfield]; rfl),
    hnumber "events_pending" pending (by rw [← hfield]; rfl), hevents, hstatuses, houtbox, hqueue]
  rfl

/-- A report that agrees with the events of a run and with the queue. -/
structure StatusReport.Agrees (status : StatusReport) (events : List FwEvent)
    (outbox : List OutboxRow) : Prop where
  listed : status.events.Perm (events.map EventStatus.of)
  total : status.total.toNat = events.length
  sent : status.sent.toNat = events.countP (·.reportState = "sent")
  pending : status.pending.toNat = events.countP (·.reportState = "pending")
  /-- A state has one entry, which counts its reports. -/
  states : (status.outbox.map (·.state)).Nodup
  counts : ∀ entry ∈ status.outbox,
    entry.count.toInt = outbox.countP fun row => row.state = .text entry.state
  /-- Every report is counted. -/
  all : (status.outbox.map (·.count.toInt.toNat)).sum = outbox.length
  /-- No report of a state was tried again more often than its entry says. -/
  retries : ∀ row ∈ outbox, ∀ n, row.retryCount = .integer n →
    ∃ entry ∈ status.outbox, row.state = .text entry.state ∧
      ∃ worst, entry.maxRetry = some worst ∧ n ≤ worst
  /-- No error of a state is behind the one its entry tells. -/
  errors : ∀ row ∈ outbox, ∀ s, row.lastError = .text s →
    ∃ entry ∈ status.outbox, row.state = .text entry.state ∧
      ∃ last, entry.lastError = some last ∧ s ≤ last

/-! ### The queue -/

theorem SqlValue.asText_eq_some {value : SqlValue} {s : String} :
    value.asText = some s ↔ value = .text s := by
  cases value <;> simp [SqlValue.asText]

/-- What is above an integer and may be told as one is an integer that is not less. -/
theorem SqlValue.Below.integer {n : Int64} {value : SqlValue} {largest : Option Int64}
    (h : (SqlValue.integer n).Below value) (htold : value.asOptInt = some largest) :
    ∃ worst, largest = some worst ∧ n ≤ worst := by
  cases value with
  | integer worst =>
    obtain hless | ⟨-, hle, -⟩ := h
    · exact absurd hless (Nat.lt_irrefl 1)
    · exact ⟨worst, (Option.some.inj htold).symm, hle n worst rfl rfl⟩
  | null =>
    obtain hless | ⟨heq, -⟩ := h
    · cases hless
    · cases heq
  | real | text | blob => cases htold

theorem SqlValue.Below.text {s : String} {value : SqlValue} {largest : Option String}
    (h : (SqlValue.text s).Below value) (htold : value.asOptText = some largest) :
    ∃ last, largest = some last ∧ s ≤ last := by
  cases value with
  | text last =>
    obtain hless | ⟨-, -, hle⟩ := h
    · exact absurd hless (Nat.lt_irrefl 2)
    · exact ⟨last, (Option.some.inj htold).symm, hle s last rfl rfl⟩
  | null =>
    obtain hless | ⟨heq, -⟩ := h
    · cases hless
    · cases heq
  | real | integer | blob => cases htold

/-- The queue can be asked for, and of the reports in each state the values that are told are of the
right types. -/
structure QueueReadable (order : StateOrder) (db : StateDb) : Prop where
  prepared : db.prepared "report_outbox" = .ok ()
  states : ∀ row ∈ db.outbox, row.state.asText.isSome
  retries : ∀ row ∈ db.outbox, (order.maximum.max
    ((db.outbox.filter fun other => other.state = row.state).map (·.retryCount))).asOptInt.isSome
  errors : ∀ row ∈ db.outbox, (order.maximum.max
    ((db.outbox.filter fun other => other.state = row.state).map (·.lastError))).asOptText.isSome

/-- A queue of the right types throughout is readable. -/
theorem QueueReadable.of_columns (hprepared : db.prepared "report_outbox" = .ok ())
    (hstates : ∀ row ∈ db.outbox, row.state.asText.isSome)
    (hretries : ∀ row ∈ db.outbox, row.retryCount.asOptInt.isSome)
    (herrors : ∀ row ∈ db.outbox, row.lastError.asOptText.isSome) : QueueReadable order db where
  prepared := hprepared
  states := hstates
  retries row _ := by
    rcases order.maximum.null_or_mem
      ((db.outbox.filter fun other => other.state = row.state).map (·.retryCount)) with hnull | hmem
    · rw [hnull]
      rfl
    · obtain ⟨other, hother, hvalue⟩ := List.mem_map.mp hmem
      rw [← hvalue]
      exact hretries other (List.mem_of_mem_filter hother)
  errors row _ := by
    rcases order.maximum.null_or_mem
      ((db.outbox.filter fun other => other.state = row.state).map (·.lastError)) with hnull | hmem
    · rw [hnull]
      rfl
    · obtain ⟨other, hother, hvalue⟩ := List.mem_map.mp hmem
      rw [← hvalue]
      exact herrors other (List.mem_of_mem_filter hother)

theorem isSome_queueState_iff {group : SqlValue × List OutboxRow} :
    (QueueState.of order group).isSome ↔ group.1.asText.isSome ∧
      (order.maximum.max (group.2.map (·.retryCount))).asOptInt.isSome ∧
      (order.maximum.max (group.2.map (·.lastError))).asOptText.isSome := by
  rw [QueueState.of]
  cases group.1.asText with
  | none => simp
  | some state =>
    cases (order.maximum.max (group.2.map (·.retryCount))).asOptInt with
    | none => simp
    | some maxRetry =>
      cases (order.maximum.max (group.2.map (·.lastError))).asOptText <;> simp

/-- The states of a queue are told when it is readable. -/
theorem exists_queue_iff :
    ((db.prepared "report_outbox").toOption.bind fun _ =>
      (groups order.states (·.state) db.outbox).mapM (QueueState.of order)).isSome ↔
        QueueReadable order db := by
  cases hprepared : db.prepared "report_outbox" with
  | error error =>
    refine iff_of_false Bool.false_ne_true fun h => ?_
    rw [h.prepared] at hprepared
    cases hprepared
  | ok prepared =>
    change ((groups order.states (·.state) db.outbox).mapM (QueueState.of order)).isSome ↔ _
    rw [mapM_isSome_iff]
    constructor
    · intro h
      have hgroup := fun row hrow => isSome_queueState_iff.mp
        (h (row.state, db.outbox.filter fun other => other.state = row.state)
          (mem_groups.mpr ⟨⟨row, hrow, rfl⟩, rfl⟩))
      exact ⟨hprepared, fun row hrow => (hgroup row hrow).1, fun row hrow => (hgroup row hrow).2.1,
        fun row hrow => (hgroup row hrow).2.2⟩
    · rintro h ⟨state, rows⟩ hgroup
      obtain ⟨⟨row, hrow, rfl⟩, rfl⟩ := mem_groups.mp hgroup
      exact isSome_queueState_iff.mpr ⟨h.states row hrow, h.retries row hrow, h.errors row hrow⟩

section Queue

variable {shuffle : Shuffle SqlValue} {outbox : List OutboxRow} {queue : List QueueState}

/-- What an entry tells of its group. -/
structure QueueState.Tells (order : StateOrder) (group : SqlValue × List OutboxRow)
    (entry : QueueState) : Prop where
  state : group.1 = .text entry.state
  count : entry.count = Int64.ofNat group.2.length
  retry : (order.maximum.max (group.2.map (·.retryCount))).asOptInt = some entry.maxRetry
  error : (order.maximum.max (group.2.map (·.lastError))).asOptText = some entry.lastError

theorem QueueState.tells {group : SqlValue × List OutboxRow} {entry : QueueState}
    (h : QueueState.of order group = some entry) : entry.Tells order group := by
  simp only [QueueState.of, Option.bind_eq_bind, Option.bind_eq_some_iff] at h
  obtain ⟨state, hstate, maxRetry, hretry, lastError, herror, hentry⟩ := h
  cases hentry
  exact ⟨SqlValue.asText_eq_some.mp hstate, rfl, hretry, herror⟩

variable (hqueue : (groups shuffle (·.state) outbox).mapM (QueueState.of order) = some queue)

include hqueue

theorem states_queue_nodup : (queue.map (·.state)).Nodup := by
  have hkeys : (groups shuffle (·.state) outbox).map Prod.fst =
      (queue.map (·.state)).map SqlValue.text := by
    rw [List.map_map, ← List.forall₂_eq_eq_eq, List.forall₂_map_left_iff,
      List.forall₂_map_right_iff]
    exact (mapM_eq_some_iff.mp hqueue).imp fun group entry h => (QueueState.tells h).state
  exact (hkeys ▸ keys_groups_nodup).of_map _

/-- The entry of a report's state is told of a group that holds the report. -/
theorem exists_entry {row : OutboxRow} (hrow : row ∈ outbox) :
    ∃ entry ∈ queue, ∃ rows, row ∈ rows ∧ entry.Tells order (row.state, rows) := by
  have hgroup : (row.state, outbox.filter fun other => other.state = row.state) ∈
      groups shuffle (·.state) outbox := mem_groups.mpr ⟨⟨row, hrow, rfl⟩, rfl⟩
  obtain ⟨entry, hentry⟩ := Option.isSome_iff_exists.mp
    (mapM_isSome_iff.mp (Option.isSome_of_eq_some hqueue) _ hgroup)
  exact ⟨entry, (mem_of_mapM hqueue).mpr ⟨_, hgroup, hentry⟩, _,
    List.mem_filter.mpr ⟨hrow, decide_eq_true rfl⟩, QueueState.tells hentry⟩

theorem exists_worst_retry {row : OutboxRow} (hrow : row ∈ outbox) {n : Int64}
    (hn : row.retryCount = .integer n) :
    ∃ entry ∈ queue, row.state = .text entry.state ∧
      ∃ worst, entry.maxRetry = some worst ∧ n ≤ worst := by
  obtain ⟨entry, hentry, rows, hmem, htells⟩ := exists_entry hqueue hrow
  have hbelow := order.maximum.below _ _ (List.mem_map_of_mem (f := (·.retryCount)) hmem)
  rw [hn] at hbelow
  exact ⟨entry, hentry, htells.state, hbelow.integer htells.retry⟩

theorem exists_last_error {row : OutboxRow} (hrow : row ∈ outbox) {s : String}
    (hs : row.lastError = .text s) :
    ∃ entry ∈ queue, row.state = .text entry.state ∧
      ∃ last, entry.lastError = some last ∧ s ≤ last := by
  obtain ⟨entry, hentry, rows, hmem, htells⟩ := exists_entry hqueue hrow
  have hbelow := order.maximum.below _ _ (List.mem_map_of_mem (f := (·.lastError)) hmem)
  rw [hs] at hbelow
  exact ⟨entry, hentry, htells.state, hbelow.text htells.error⟩

variable (hfew : outbox.length < 2 ^ 63)

include hfew

/-- An entry counts the reports of its state. -/
theorem count_of_mem_queue {entry : QueueState} (hentry : entry ∈ queue) :
    entry.count.toInt = outbox.countP fun row => row.state = .text entry.state := by
  obtain ⟨⟨state, rows⟩, hgroup, hof⟩ := (mem_of_mapM hqueue).mp hentry
  obtain ⟨-, rfl⟩ := mem_groups.mp hgroup
  have htells := QueueState.tells hof
  have hstate : state = .text entry.state := htells.state
  rw [htells.count, hstate, ← List.countP_eq_length_filter]
  exact Int64.toInt_ofNat_of_lt (lt_of_le_of_lt List.countP_le_length hfew)

/-- The entries of a queue count all of it. -/
theorem sum_counts : (queue.map (·.count.toInt.toNat)).sum = outbox.length := by
  have hshort : ∀ group ∈ groups shuffle (·.state) outbox, group.2.length < 2 ^ 63 := by
    rintro ⟨state, rows⟩ hgroup
    obtain ⟨-, rfl⟩ := mem_groups.mp hgroup
    exact lt_of_le_of_lt (List.length_filter_le _ _) hfew
  have hcounts : (groups shuffle (·.state) outbox).map (fun group => group.2.length) =
      queue.map (·.count.toInt.toNat) := by
    rw [← List.forall₂_eq_eq_eq, List.forall₂_map_left_iff, List.forall₂_map_right_iff]
    refine ((List.forall₂_and_left _ _).mpr ⟨hshort, mapM_eq_some_iff.mp hqueue⟩).imp ?_
    rintro group entry ⟨hlength, hof⟩
    rw [(QueueState.tells hof).count, Int64.toInt_ofNat_of_lt hlength, Int.toNat_natCast]
  rw [← hcounts, sum_length_groups]

end Queue

/-- The events of a dump and of a report come from the same rows. -/
theorem statuses_of_dumpEvents {noRecord : List Value → String} {events : List FwEvent}
    (hdump : dumpEvents json order db since noRecord = .ok events) (order' : StateOrder) :
    ∃ statuses, (selectEvents order' db since).mapM (EventRow.status json) = some statuses ∧
      statuses.Perm (events.map EventStatus.of) := by
  have hread := mapM_of_dumpEvents hdump
  have hall := ((exists_dumpEvents_iff ..).mp ⟨events, hdump⟩).rows
  have hperm : (selectEvents order' db since).Perm (selectEvents order db since) :=
    select_perm.trans select_perm.symm
  -- each of the rows that are listed stands for an event
  have hstatus : ∀ row ∈ selectEvents order' db since,
      row.status json = (row.event json).map EventStatus.of := by
    intro row hrow
    obtain ⟨hmem, hnewer⟩ := mem_select.mp hrow
    obtain ⟨ev, hev⟩ := Option.isSome_iff_exists.mp (hall row hmem (of_decide_eq_true hnewer))
    rw [hev, EventRow.status_of_event hev]
    rfl
  have hsome : ((selectEvents order' db since).mapM (EventRow.status json)).isSome := by
    refine mapM_isSome_iff.mpr fun row hrow => ?_
    obtain ⟨hmem, hnewer⟩ := mem_select.mp hrow
    rw [hstatus row hrow, Option.isSome_map]
    exact hall row hmem (of_decide_eq_true hnewer)
  obtain ⟨statuses, hstatuses⟩ := Option.isSome_iff_exists.mp hsome
  refine ⟨statuses, hstatuses, ?_⟩
  rw [← filterMap_of_mapM hstatuses, ← filterMap_of_mapM hread, List.map_filterMap]
  rw [List.filterMap_congr hstatus]
  exact hperm.filterMap _

/-- **The worker's report agrees with the run.** When the orchestrator can read its events,
`report-status` prints a line exactly when the queue is readable. It reads back as a report on these
very events: it lists them, counts how many of them are sent and pending, and counts each report of
the queue once, under its state. -/
theorem report_status_agrees (hjson : json.ReadsPrinted) (args : List String)
    {noRecord : List Value → String} {events : List FwEvent} (order' : StateOrder)
    (hdump : dumpEvents json order db since noRecord = .ok events)
    (hevents : db.events.length < 2 ^ 64) (houtbox : db.outbox.length < 2 ^ 63) :
    ((∃ status, (agentJson json args
        (.ok (documentProcess (statusDocument json order' db since)))).toOption.bind
          StatusReport.ofJson = some status) ↔ QueueReadable order' db) ∧
      ∀ status, (agentJson json args
        (.ok (documentProcess (statusDocument json order' db since)))).toOption.bind
          StatusReport.ofJson = some status →
        status.since = since ∧ status.Agrees events db.outbox := by
  obtain ⟨statuses, hstatuses, hperm⟩ := statuses_of_dumpEvents hdump order'
  have hdocument := toOption_statusDocument (query_of_dumpEvents hdump) hstatuses
  have hlength : statuses.length < 2 ^ 64 := by
    rw [← (mapM_eq_some_iff.mp hstatuses).length_eq, selectEvents, select_perm.length_eq]
    exact lt_of_le_of_lt (List.length_filter_le _ _) hevents
  have hcount (state : String) :
      (UInt64.ofNat (statuses.countP (·.reportState = state))).toNat =
        events.countP (·.reportState = state) := by
    rw [UInt64.toNat_ofNat_of_lt' (lt_of_le_of_lt List.countP_le_length hlength), hperm.countP_eq,
      List.countP_map]
    rfl
  have hobject : ∀ value, statusDocument json order' db since = .ok value →
      ∃ fields, value = .object fields ∧ value.Integral maxLevels := by
    intro value hvalue
    rw [hvalue] at hdocument
    obtain ⟨-, -, hqueue⟩ := Option.bind_eq_some_iff.mp hdocument.symm
    obtain ⟨queue, -, rfl⟩ := Option.map_eq_some_iff.mp hqueue
    exact statusValue_object ..
  -- the line is a report on the states of the queue, when they can be told
  have hline : (agentJson json args
      (.ok (documentProcess (statusDocument json order' db since)))).toOption.bind
        StatusReport.ofJson =
      ((db.prepared "report_outbox").toOption.bind fun _ =>
        (groups order'.states (·.state) db.outbox).mapM (QueueState.of order')).map fun queue =>
          ⟨since, UInt64.ofNat statuses.length,
            UInt64.ofNat (statuses.countP (·.reportState = "sent")),
            UInt64.ofNat (statuses.countP (·.reportState = "pending")), statuses, queue⟩ := by
    rw [agentJson_document hjson args hobject, hdocument]
    cases (db.prepared "report_outbox").toOption with
    | none => rfl
    | some prepared =>
      cases (groups order'.states (·.state) db.outbox).mapM (QueueState.of order') with
      | none => rfl
      | some queue => exact StatusReport.ofJson_sorted ..
  rw [hline]
  constructor
  · rw [← exists_queue_iff, ← Option.isSome_iff_exists, Option.isSome_map]
  · intro status hstatus
    obtain ⟨queue, hqueue, rfl⟩ := Option.map_eq_some_iff.mp hstatus
    obtain ⟨-, -, hqueue⟩ := Option.bind_eq_some_iff.mp hqueue
    refine ⟨rfl, hperm, ?_, hcount "sent", hcount "pending", states_queue_nodup hqueue,
      fun entry hentry => count_of_mem_queue hqueue houtbox hentry, sum_counts hqueue houtbox,
      fun row hrow n hn => exists_worst_retry hqueue hrow hn,
      fun row hrow s hs => exists_last_error hqueue hrow hs⟩
    rw [UInt64.toNat_ofNat_of_lt' hlength, hperm.length_eq, List.length_map]

end Status

/-- The report on the probe and two queued reports. -/
theorem report_status_agrees_probe :
    ∃ status, (agentJson jsonParser ["report-status"] (.ok (documentProcess
        (statusDocument jsonParser .stable (probeDb [probeAt 15]) 10)))).toOption.bind
          StatusReport.ofJson = some status ∧
      status.since = 10 ∧ status.Agrees [probeAt 15] (probeDb [probeAt 15]).outbox := by
  have hreadable : QueueReadable .stable (probeDb [probeAt 15]) :=
    .of_columns rfl (by decide) (by decide) (by decide)
  have hnewer : (10 : Int64) < (probeAt 15).eventTimeMs := by decide
  have hfew : (probeDb [probeAt 15]).events.length < 2 ^ 64 := by decide
  have hqueued : (probeDb [probeAt 15]).outbox.length < 2 ^ 63 := by decide
  obtain ⟨hprints, hagrees⟩ := report_status_agrees jsonParser_readsPrinted ["report-status"]
    .stable (dumpEvents_probe (fun _ => "no record") hnewer) hfew hqueued
  obtain ⟨status, hstatus⟩ := hprints.mpr hreadable
  exact ⟨status, hstatus, hagrees status hstatus⟩

end FwVerify
