import FwVerify.Lib.Traversals
import FwVerify.Model.StateDb
import FwVerify.Peer.EndToEnd

/-!
# The rows of a query

On its way to the orchestrator a row is made a document and the document a record. What arrives is
what the columns of the row say: the records of a query are its rows, one for one and in order of
time, and a query fails when one of the rows it selects holds a value of the wrong type.

## Main definitions

* `EventRow.event`, `OutboxRow.report` — the record a row stands for
* `EventRow.of` — the row an event is stored as

## Main results

* `dumpEvents_toOption`, `dumpReports_toOption` — the records of a query
* `dumped_events_iff` — which events are dumped, and when the dump fails
* `event_of` — an event is stored and read back
-/

set_option autoImplicit false

namespace FwVerify

open Fallible Selection Traversal

/-! ## Columns -/

namespace SqlValue

def asText : SqlValue → Option String
  | .text s => some s
  | _ => none

def asInt : SqlValue → Option Int64
  | .integer n => some n
  | _ => none

def asOptInt : SqlValue → Option (Option Int64)
  | .null => some none
  | .integer n => some (some n)
  | _ => none

def asOptText : SqlValue → Option (Option String)
  | .null => some none
  | .text s => some (some s)
  | _ => none

end SqlValue

section Columns

variable (index : Nat) (name : String) (value : SqlValue)

@[simp] theorem toOption_getText : (getText index name value).toOption = value.asText := by
  cases value <;> rfl

@[simp] theorem toOption_getInt : (getInt index name value).toOption = value.asInt := by
  cases value <;> rfl

@[simp] theorem toOption_getOptInt : (getOptInt index name value).toOption = value.asOptInt := by
  cases value <;> rfl

@[simp] theorem toOption_getOptText : (getOptText index name value).toOption = value.asOptText := by
  cases value <;> rfl

end Columns

/-! ## Events -/

section Events

variable (json : JsonParser)

/-- The event a row stands for, when its columns hold values of the right types. -/
def EventRow.event (row : EventRow) : Option FwEvent := do
  let eventId ← row.eventId.asText
  let eventType ← row.eventType.asText
  let action ← row.action.asText
  let _ ← row.appId.asOptInt
  let _ ← row.ifindex.asOptInt
  let srcIp ← row.srcIp.asText
  let srcPort ← row.srcPort.asInt
  let dstIp ← row.dstIp.asText
  let dstPort ← row.dstPort.asInt
  let proto ← row.proto.asText
  let ruleId ← row.ruleId.asOptInt
  let detail ← row.detail.asText
  let reportState ← row.reportState.asText
  return {
    eventId, eventTimeMs := row.eventTimeMs, eventType := unquote json eventType
    action := unquote json action, srcIp, srcPort, dstIp, dstPort, proto, ruleId, detail
    reportState }

@[simp] theorem asOptI64_jsonOptInt (n : Option Int64) : (jsonOptInt n).asOptI64 = some n := by
  cases n with
  | none => rfl
  | some n => exact asOptI64_ofInt64 n

/-- An event has the time of its row. -/
theorem event_time {json : JsonParser} {row : EventRow} {ev : FwEvent}
    (h : row.event json = some ev) : ev.eventTimeMs = row.eventTimeMs := by
  simp only [EventRow.event, Option.bind_eq_bind, Option.bind_eq_some_iff] at h
  obtain ⟨_, -, _, -, _, -, _, -, _, -, _, -, _, -, _, -, _, -, _, -, _, -, _, -, _, -, hev⟩ := h
  cases hev
  rfl

/-- A record with all its fields. -/
theorem FwEvent.ofJson_eq {value : Value} {field : String → Option Value} {ev : FwEvent}
    (hfields : recordFields
      ["event_id", "event_time_ms", "event_type", "action", "src_ip", "src_port", "dst_ip",
        "dst_port", "proto", "rule_id", "detail", "report_state"] value = some field)
    (heventId : required field "event_id" Value.asStr = some ev.eventId)
    (htime : required field "event_time_ms" Value.asI64 = some ev.eventTimeMs)
    (htype : required field "event_type" Value.asStr = some ev.eventType)
    (haction : required field "action" Value.asStr = some ev.action)
    (hsrcIp : required field "src_ip" Value.asStr = some ev.srcIp)
    (hsrcPort : required field "src_port" Value.asI64 = some ev.srcPort)
    (hdstIp : required field "dst_ip" Value.asStr = some ev.dstIp)
    (hdstPort : required field "dst_port" Value.asI64 = some ev.dstPort)
    (hproto : required field "proto" Value.asStr = some ev.proto)
    (hruleId : defaulted field "rule_id" Value.asOptI64 none = some ev.ruleId)
    (hdetail : defaulted field "detail" Value.asStr "" = some ev.detail)
    (hstate : required field "report_state" Value.asStr = some ev.reportState) :
    FwEvent.ofJson value = some ev := by
  rw [FwEvent.ofJson, hfields]
  simp only [Option.bind_eq_bind, Option.bind_some, heventId, htime, htype, haction, hsrcIp,
    hsrcPort, hdstIp, hdstPort, hproto, hruleId, hdetail, hstate]
  rfl

/-- A row arrives as the event it stands for. -/
theorem EventRow.ofJson_toJson (row : EventRow) :
    (row.toJson json).toOption.bind FwEvent.ofJson = row.event json := by
  rw [EventRow.toJson, EventRow.event]
  refine bind_step (toOption_getText ..) fun eventId => ?_
  refine bind_step (toOption_getText ..) fun eventType => ?_
  refine bind_step (toOption_getText ..) fun action => ?_
  refine bind_step (toOption_getOptInt ..) fun appId => ?_
  refine bind_step (toOption_getOptInt ..) fun ifindex => ?_
  refine bind_step (toOption_getText ..) fun srcIp => ?_
  refine bind_step (toOption_getInt ..) fun srcPort => ?_
  refine bind_step (toOption_getText ..) fun dstIp => ?_
  refine bind_step (toOption_getInt ..) fun dstPort => ?_
  refine bind_step (toOption_getText ..) fun proto => ?_
  refine bind_step (toOption_getOptInt ..) fun ruleId => ?_
  refine bind_step (toOption_getText ..) fun detail => ?_
  refine bind_step (toOption_getText ..) fun reportState => ?_
  have hread (value : Value) : (pure value : Except String Value).toOption.bind FwEvent.ofJson =
      FwEvent.ofJson value := rfl
  rw [hread]
  refine FwEvent.ofJson_eq rfl rfl (Value.asI64_ofInt64 _) rfl rfl rfl (Value.asI64_ofInt64 _) rfl
    (Value.asI64_ofInt64 _) rfl (asOptI64_jsonOptInt _) rfl rfl

end Events

/-! ## Reports -/

section Reports

variable (json : JsonParser)

/-- The report a row stands for, when its columns hold texts. -/
def OutboxRow.report (row : OutboxRow) : Option FwReport := do
  let payload ← row.payload.asText
  let _ ← row.reportId.asText
  let reportType ← row.reportType.asText
  return { reportType, payload := payloadValue json payload }

/-- A row arrives as the report it stands for. -/
theorem OutboxRow.ofJson_toJson (row : OutboxRow) :
    (row.toJson json).toOption.bind FwReport.ofJson = row.report json := by
  rw [OutboxRow.toJson, OutboxRow.report]
  refine bind_step (toOption_getText ..) fun payload => ?_
  refine bind_step (toOption_getText ..) fun reportId => ?_
  refine bind_step (toOption_getText ..) fun reportType => ?_
  have htime := Value.asI64_ofInt64 row.createdAtMs
  change FwReport.ofJson _ = _
  simp [FwReport.ofJson, recordFields, required, List.lookup_cons, Value.asStr, htime]

end Reports

/-! ## The records of a query -/

section Queries

variable {json : JsonParser} {order : StateOrder} {db : StateDb} {since : Int64}
  {noRecord : List Value → String}

theorem toOption_fromDocuments {α : Type} (what : String) (ofJson : Value → Option α)
    (rows : List Value) :
    (fromDocuments what ofJson noRecord rows).toOption = rows.mapM ofJson := by
  rw [fromDocuments]
  cases rows.mapM ofJson <;> rfl

/-- The documents of rows are read as the records the rows stand for. -/
theorem toOption_read {α ρ : Type} {toJson : ρ → Except String Value} {ofJson : Value → Option α}
    {record : ρ → Option α} (hrow : ∀ row, (toJson row).toOption.bind ofJson = record row)
    (what context : String) (rows : List ρ) :
    ((Fallible.context context (rows.mapM toJson)) >>=
      fromDocuments what ofJson noRecord).toOption = rows.mapM record := by
  rw [toOption_bind, toOption_context, toOption_mapM]
  have hread : (fun documents => (fromDocuments what ofJson noRecord documents).toOption) =
      fun documents => documents.mapM ofJson := funext (toOption_fromDocuments what ofJson)
  rw [hread, mapM_bind_mapM]
  exact congrArg (fun read => rows.mapM read) (funext hrow)

/-- The events of a query on an accessible database. -/
theorem dumpEvents_toOption (noRecord : List Value → String)
    (hquery : db.query "firewall_event" = .ok ()) :
    (dumpEvents json order db since noRecord).toOption =
      (selectEvents order db since).mapM (EventRow.event json) := by
  rw [dumpEvents, queryEvents, hquery]
  exact toOption_read (EventRow.ofJson_toJson json) _ _ _

/-- The reports of a query on an accessible database. -/
theorem dumpReports_toOption (noRecord : List Value → String)
    (hquery : db.query "report_outbox" = .ok ()) :
    (dumpReports json order db since noRecord).toOption =
      (selectReports order db since none).mapM (OutboxRow.report json) := by
  rw [dumpReports, queryReports, hquery]
  exact toOption_read (OutboxRow.ofJson_toJson json) _ _ _

/-- Nothing is read from a database that is not accessible. -/
theorem query_of_dumpEvents {events : List FwEvent}
    (hdump : dumpEvents json order db since noRecord = .ok events) :
    db.query "firewall_event" = .ok () := by
  cases hquery : db.query "firewall_event" with
  | ok _ => rfl
  | error error =>
    rw [dumpEvents, queryEvents, hquery] at hdump
    cases hdump

/-- The row an event is stored as: its type and action stand there as JSON strings. -/
def EventRow.of (ev : FwEvent) (appId ifindex : Option Int64) : EventRow where
  eventTimeMs := ev.eventTimeMs
  eventId := .text ev.eventId
  eventType := .text (Value.string ev.eventType).compact
  action := .text (Value.string ev.action).compact
  appId := appId.elim .null .integer
  ifindex := ifindex.elim .null .integer
  srcIp := .text ev.srcIp
  srcPort := .integer ev.srcPort
  dstIp := .text ev.dstIp
  dstPort := .integer ev.dstPort
  proto := .text ev.proto
  ruleId := ev.ruleId.elim .null .integer
  detail := .text ev.detail
  reportState := .text ev.reportState

/-- The quotes of a stored enum are stripped, and nothing else is. -/
theorem unquote_compact (hjson : json.ReadsPrinted) (name : String) :
    unquote json (Value.string name).compact = name := by
  rw [unquote, Value.compact, hjson.printed .compact (.string name)]
  rfl

/-- An event is stored and read back. -/
theorem event_of (hjson : json.ReadsPrinted) (ev : FwEvent) (appId ifindex : Option Int64) :
    (EventRow.of ev appId ifindex).event json = some ev := by
  have hopt (n : Option Int64) : (n.elim SqlValue.null SqlValue.integer).asOptInt = some n := by
    cases n <;> rfl
  rw [EventRow.event, EventRow.of]
  simp [SqlValue.asText, SqlValue.asInt, hopt, unquote_compact hjson]

section Dumped

variable {events : List FwEvent} (hdump : dumpEvents json order db since noRecord = .ok events)

include hdump

theorem mapM_of_dumpEvents :
    (selectEvents order db since).mapM (EventRow.event json) = some events := by
  rw [← dumpEvents_toOption noRecord (query_of_dumpEvents hdump), hdump]
  rfl

/-- The dumped events are those of the newer rows. -/
theorem mem_dumpEvents {ev : FwEvent} :
    ev ∈ events ↔ ∃ row ∈ db.events, since < row.eventTimeMs ∧ row.event json = some ev := by
  rw [mem_of_mapM (mapM_of_dumpEvents hdump)]
  simp only [selectEvents, mem_select, decide_eq_true_eq, and_assoc]

end Dumped

/-- The database can be asked for its events, and every row newer than a time stands for one. -/
structure Readable (json : JsonParser) (db : StateDb) (since : Int64) : Prop where
  query : db.query "firewall_event" = .ok ()
  rows : ∀ row ∈ db.events, since < row.eventTimeMs → (row.event json).isSome

variable (json order db since noRecord) in
theorem exists_dumpEvents_iff :
    (∃ events, dumpEvents json order db since noRecord = .ok events) ↔ Readable json db since := by
  have hsome : ((selectEvents order db since).mapM (EventRow.event json)).isSome ↔
      ∀ row ∈ db.events, since < row.eventTimeMs → (row.event json).isSome := by
    rw [selectEvents, mapM_select_isSome_iff]
    simp only [decide_eq_true_eq]
  constructor
  · rintro ⟨events, hdump⟩
    refine ⟨query_of_dumpEvents hdump, hsome.mp ?_⟩
    rw [mapM_of_dumpEvents hdump, Option.isSome_some]
  · rintro ⟨hquery, hall⟩
    obtain ⟨events, hevents⟩ := Option.isSome_iff_exists.mp (hsome.mpr hall)
    rw [← dumpEvents_toOption noRecord hquery] at hevents
    exact ⟨events, toOption_eq_some.mp hevents⟩

/-- **Which events are dumped.** A dump goes through when the database is accessible and every row
newer than the watermark holds values of the right types, older rows playing no part. It then
lists the events of these rows, row by row and in order of time. -/
theorem dumped_events_iff (json : JsonParser) (order : StateOrder) (db : StateDb) (since : Int64)
    (noRecord : List Value → String) :
    ((∃ events, dumpEvents json order db since noRecord = .ok events) ↔ Readable json db since) ∧
    ∀ events, dumpEvents json order db since noRecord = .ok events →
      events.Pairwise (fun ev later => ev.eventTimeMs ≤ later.eventTimeMs) ∧
      (∃ rows, rows.Perm (db.events.filter fun row => since < row.eventTimeMs) ∧
        List.Forall₂ (fun row ev => row.event json = some ev) rows events) ∧
      events.length = db.events.countP (fun row => since < row.eventTimeMs) ∧
      ∀ ev, ev ∈ events ↔
        ∃ row ∈ db.events, since < row.eventTimeMs ∧ row.event json = some ev := by
  refine ⟨exists_dumpEvents_iff .., fun events hdump =>
    ⟨?_, ⟨_, select_perm, mapM_eq_some_iff.mp (mapM_of_dumpEvents hdump)⟩, ?_,
      fun ev => mem_dumpEvents hdump⟩⟩
  · refine pairwise_of_mapM (mapM_of_dumpEvents hdump) select_ascends
      fun row row' ev ev' hle hev hev' => ?_
    rwa [event_time hev, event_time hev']
  · have hlength := (mapM_eq_some_iff.mp (mapM_of_dumpEvents hdump)).length_eq
    rw [← hlength, selectEvents, select_perm.length_eq, List.countP_eq_length_filter]

end Queries

/-- A blocked probe at a time. -/
def probeAt (eventTimeMs : Int64) : FwEvent where
  eventId := "e1"
  eventTimeMs := eventTimeMs
  eventType := "Block"
  action := "Drop"
  srcIp := "10.0.0.2"
  srcPort := 40000
  dstIp := "10.0.0.1"
  dstPort := 8080
  proto := "tcp"
  ruleId := none
  detail := ""
  reportState := "sent"

/-- A database that holds some events, one report that is sent and one that is tried again. -/
def probeDb (events : List FwEvent) : StateDb where
  path := "state.db"
  opened := .ok ()
  prepared _ := .ok ()
  events := events.map (EventRow.of · none none)
  outbox := [
    ⟨12, .text "sent", .text "r1", .text "conn_total", .text "7", .integer 0, .null⟩,
    ⟨13, .text "pending", .text "r2", .text "conn_total", .text "9", .integer 3, .text "refused"⟩]

theorem dumpEvents_probe (noRecord : List Value → String) {ev : FwEvent} {since : Int64}
    (hnewer : since < ev.eventTimeMs) :
    dumpEvents jsonParser .stable (probeDb [ev]) since noRecord = .ok [ev] := by
  have hselect : selectEvents .stable (probeDb [ev]) since = [EventRow.of ev none none] :=
    select_eq_singleton (List.filter_cons_of_pos (decide_eq_true hnewer))
  rw [← toOption_eq_some, dumpEvents_toOption noRecord rfl, hselect, List.mapM_cons,
    event_of jsonParser_readsPrinted]
  rfl

end FwVerify
