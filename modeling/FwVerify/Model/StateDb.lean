import Mathlib.Data.List.MinMax
import Mathlib.Data.Prod.Lex
import Mathlib.Data.String.Basic
import FwVerify.Lib.Fallible
import FwVerify.Lib.Selections
import FwVerify.Model.Decode
import FwVerify.Model.JsonPrint

/-!
# The state of idps-fw

The database idps-fw keeps its firewall events and its queue of reports in, and the queries that
read it. An event's type and action stand in it as JSON strings. The times of the rows are integers;
any other column may hold any value, and a row with a value of the wrong type fails the query it is
selected by. Opening a database and preparing a query may fail, a query that is prepared comes to
its last row.

## Main definitions

* `EventRow`, `OutboxRow`, `StateDb` — the rows of the two tables
* `StateOrder` — what a query leaves open
* `queryEvents`, `queryReports` — the rows newer than a time, as documents
* `dumpEvents`, `dumpReports` — the records the orchestrator takes from them
* `eventsDocument`, `reportsDocument`, `statusDocument` — what the worker prints of them
-/

set_option autoImplicit false

namespace FwVerify

open Selection

/-! ## Columns -/

/-- A value of a column. -/
inductive SqlValue
  | null
  | integer (n : Int64)
  | real (text : String)
  | text (s : String)
  | blob (bytes : List UInt8)
  deriving DecidableEq

def SqlValue.typeName : SqlValue → String
  | .null => "Null"
  | .integer _ => "Integer"
  | .real _ => "Real"
  | .text _ => "Text"
  | .blob _ => "Blob"

/-- How values of different types compare: null first, then numbers, texts and blobs. -/
def SqlValue.rank : SqlValue → Nat
  | .null => 0
  | .integer _ => 1
  | .real _ => 1
  | .text _ => 2
  | .blob _ => 3

/-- A value is not above another, as far as the order of the database is told here: that of reals
and that of blobs are left open. -/
def SqlValue.Below (value other : SqlValue) : Prop :=
  value.rank < other.rank ∨ value.rank = other.rank ∧
    (∀ m n, value = .integer m → other = .integer n → m ≤ n) ∧
    ∀ s t, value = .text s → other = .text t → s ≤ t

section Columns

variable {α : Type} (index : Nat) (name : String)

def invalidColumnType (value : SqlValue) : Except String α :=
  let typeName := value.typeName
  .error s!"Invalid column type {typeName} at index: {index}, name: {name}"

/-- The text of a column. -/
def getText : SqlValue → Except String String
  | .text s => .ok s
  | value => invalidColumnType index name value

/-- The integer of a column. -/
def getInt : SqlValue → Except String Int64
  | .integer n => .ok n
  | value => invalidColumnType index name value

/-- The integer of a column that may be null. -/
def getOptInt : SqlValue → Except String (Option Int64)
  | .null => .ok none
  | .integer n => .ok (some n)
  | value => invalidColumnType index name value

/-- The text of a column that may be null. -/
def getOptText : SqlValue → Except String (Option String)
  | .null => .ok none
  | .text s => .ok (some s)
  | value => invalidColumnType index name value

end Columns

/-! ## Tables -/

/-- A row of `firewall_event`. -/
structure EventRow where
  eventTimeMs : Int64
  eventId : SqlValue
  eventType : SqlValue
  action : SqlValue
  appId : SqlValue
  ifindex : SqlValue
  srcIp : SqlValue
  srcPort : SqlValue
  dstIp : SqlValue
  dstPort : SqlValue
  proto : SqlValue
  ruleId : SqlValue
  detail : SqlValue
  reportState : SqlValue
  deriving DecidableEq

/-- A row of `report_outbox`. -/
structure OutboxRow where
  createdAtMs : Int64
  state : SqlValue
  reportId : SqlValue
  reportType : SqlValue
  payload : SqlValue
  retryCount : SqlValue
  lastError : SqlValue
  deriving DecidableEq

/-- A state database: how opening it and preparing a query on a table end, and its tables. -/
structure StateDb where
  path : String
  opened : Except String Unit
  prepared : String → Except String Unit
  events : List EventRow
  outbox : List OutboxRow

/-- The `MAX` of a column over some rows: one of its values that no other is above, and null over no
rows. -/
structure Maximum where
  max : List SqlValue → SqlValue
  null_or_mem : ∀ values, max values = .null ∨ max values ∈ values
  below : ∀ (values : List SqlValue), ∀ value ∈ values, value.Below (max values)

/-- The ways a database orders what it selects, and the largest values it finds. -/
structure StateOrder where
  events : Sorter EventRow.eventTimeMs
  outbox : Sorter OutboxRow.createdAtMs
  states : Shuffle SqlValue
  maximum : Maximum

/-- The lexicographic order, from orders that are computed. -/
local instance placePreorder : Preorder (ℕ ×ₗ ℤ ×ₗ String) :=
  @Prod.Lex.instPreorder _ _ Nat.instPreorder
    (@Prod.Lex.instPreorder _ _ Int.instLinearOrder.toPreorder _)

/-- Where a value stands in an order of all values that puts the reals before the integers. -/
def SqlValue.place : SqlValue → ℕ ×ₗ ℤ ×ₗ String
  | .null => toLex (0, toLex (0, ""))
  | .real digits => toLex (1, toLex (0, digits))
  | .integer n => toLex (2, toLex (n.toInt, ""))
  | .text s => toLex (3, toLex (0, s))
  | .blob _ => toLex (4, toLex (0, ""))

theorem SqlValue.below_of_place_le {value other : SqlValue} (h : value.place ≤ other.place) :
    value.Below other := by
  cases value <;> cases other <;>
    simp_all [SqlValue.place, SqlValue.Below, SqlValue.rank, Prod.Lex.toLex_le_toLex,
      Int64.le_iff_toInt_le, ← le_iff_lt_or_eq]

/-- The largest in the order of all values. -/
def Maximum.placed : Maximum where
  max values := (values.argmax SqlValue.place).getD .null
  null_or_mem values := by
    cases hmax : values.argmax SqlValue.place with
    | none => exact .inl rfl
    | some value => exact .inr (List.argmax_mem hmax)
  below values value hvalue := by
    cases hmax : values.argmax SqlValue.place with
    | none =>
      rw [List.argmax_eq_none.mp hmax] at hvalue
      exact absurd hvalue List.not_mem_nil
    | some largest => exact SqlValue.below_of_place_le (List.le_of_mem_argmax hvalue hmax)

/-- Rows of one time and the groups come in the order they are stored in. -/
def StateOrder.stable : StateOrder where
  events := .stable _ (fun _ _ _ => Int64.le_trans) Int64.le_total
  outbox := .stable _ (fun _ _ _ => Int64.le_trans) Int64.le_total
  states := ⟨id, List.Perm.refl⟩
  maximum := .placed

/-! ## Queries -/

/-- An integer that may be missing, as JSON. -/
def jsonOptInt : Option Int64 → Value
  | none => .null
  | some n => .ofInt64 n

/-- A text that may be missing, as JSON. -/
def jsonOptText : Option String → Value
  | none => .null
  | some s => .string s

/-- Strip the JSON quotes from a stored enum. -/
def unquote (json : JsonParser) (text : String) : String :=
  match json.fromStr text with
  | .ok (.string s) => s
  | _ => text

/-- A selected event as JSON. -/
def EventRow.toJson (json : JsonParser) (row : EventRow) : Except String Value := do
  let eventId ← getText 0 "event_id" row.eventId
  let eventType ← getText 2 "event_type" row.eventType
  let action ← getText 3 "action" row.action
  let appId ← getOptInt 4 "app_id" row.appId
  let ifindex ← getOptInt 5 "ifindex" row.ifindex
  let srcIp ← getText 6 "src_ip" row.srcIp
  let srcPort ← getInt 7 "src_port" row.srcPort
  let dstIp ← getText 8 "dst_ip" row.dstIp
  let dstPort ← getInt 9 "dst_port" row.dstPort
  let proto ← getText 10 "proto" row.proto
  let ruleId ← getOptInt 11 "rule_id" row.ruleId
  let detail ← getText 12 "detail" row.detail
  let reportState ← getText 13 "report_state" row.reportState
  return .object [("event_id", .string eventId), ("event_time_ms", .ofInt64 row.eventTimeMs),
    ("event_type", .string (unquote json eventType)), ("action", .string (unquote json action)),
    ("app_id", jsonOptInt appId), ("ifindex", jsonOptInt ifindex), ("src_ip", .string srcIp),
    ("src_port", .ofInt64 srcPort), ("dst_ip", .string dstIp), ("dst_port", .ofInt64 dstPort),
    ("proto", .string proto), ("rule_id", jsonOptInt ruleId), ("detail", .string detail),
    ("report_state", .string reportState)]

/-- The document of a payload; one that is no document is kept as text. -/
def payloadValue (json : JsonParser) (payload : String) : Value :=
  match json.fromStr payload with
  | .ok value => value
  | .error _ => .string payload

/-- A selected report as JSON. -/
def OutboxRow.toJson (json : JsonParser) (row : OutboxRow) : Except String Value := do
  let payload ← getText 2 "payload" row.payload
  let parsed := payloadValue json payload
  let reportId ← getText 0 "report_id" row.reportId
  let reportType ← getText 1 "report_type" row.reportType
  return .object [("report_id", .string reportId), ("report_type", .string reportType),
    ("payload", parsed), ("created_at_ms", .ofInt64 row.createdAtMs)]

section Queries

variable (json : JsonParser) (order : StateOrder) (db : StateDb) (since : Int64)

def StateDb.connect : Except String Unit :=
  let path := db.path
  Fallible.context s!"failed to open idps-fw state db {path}" db.opened

/-- The connection to the database, for a query on a table. -/
def StateDb.query (table : String) : Except String Unit := do
  db.connect
  Fallible.context s!"failed to prepare {table} query" (db.prepared table)

/-- The events newer than a time, the oldest first. -/
def selectEvents : List EventRow :=
  select order.events (fun row => decide (since < row.eventTimeMs)) db.events

/-- The reports newer than a time, of a type if one is given, the oldest first. -/
def selectReports (reportType : Option String) : List OutboxRow :=
  select order.outbox (fun row => decide (since < row.createdAtMs) &&
    reportType.all fun wanted => row.reportType == .text wanted) db.outbox

def queryEvents : Except String (List Value) := do
  db.query "firewall_event"
  Fallible.context "failed to read firewall_event rows"
    ((selectEvents order db since).mapM (EventRow.toJson json))

def queryReports (reportType : Option String) : Except String (List Value) := do
  db.query "report_outbox"
  Fallible.context "failed to read report_outbox rows"
    ((selectReports order db since reportType).mapM (OutboxRow.toJson json))

/-! ## The orchestrator's end -/

/-- The records of some documents. What is said of a document that is none is given from outside. -/
def fromDocuments {α : Type} (what : String) (ofJson : Value → Option α)
    (noRecord : List Value → String) (rows : List Value) : Except String (List α) :=
  match rows.mapM ofJson with
  | some records => .ok records
  | none =>
    let reason := noRecord rows
    .error s!"failed to parse {what} rows: {reason}"

/-- Firewall events newer than a time. -/
def dumpEvents (noRecord : List Value → String) : Except String (List FwEvent) := do
  fromDocuments "firewall_event" FwEvent.ofJson noRecord (← queryEvents json order db since)

/-- Monitor reports newer than a time. -/
def dumpReports (noRecord : List Value → String) : Except String (List FwReport) := do
  fromDocuments "report_outbox" FwReport.ofJson noRecord (← queryReports json order db since none)

/-! ## The worker's documents -/

/-- The document of `dump-events`. -/
def eventsDocument : Except String Value := do
  let rows ← queryEvents json order db since
  return .object [("since", .ofInt64 since),
    ("count", .number (.posInt (UInt64.ofNat rows.length))), ("events", .array rows)]

/-- The document of `dump-reports`. -/
def reportsDocument (reportType : Option String) : Except String Value := do
  let rows ← queryReports json order db since reportType
  return .object [("since", .ofInt64 since),
    ("count", .number (.posInt (UInt64.ofNat rows.length))), ("reports", .array rows)]

/-- The report state of a selected event as JSON. -/
def EventRow.statusJson (row : EventRow) : Except String Value := do
  let eventId ← getText 0 "event_id" row.eventId
  let eventType ← getText 2 "event_type" row.eventType
  let reportState ← getText 3 "report_state" row.reportState
  return .object [("event_id", .string eventId), ("event_time_ms", .ofInt64 row.eventTimeMs),
    ("event_type", .string (unquote json eventType)), ("report_state", .string reportState)]

/-- The queue in one state: how many reports, the most retries and the last error of them. -/
def outboxJson (entry : SqlValue × List OutboxRow) : Except String Value := do
  let state ← getText 0 "state" entry.1
  let maxRetry ← getOptInt 2 "MAX(retry_count)" (order.maximum.max (entry.2.map (·.retryCount)))
  let lastError ← getOptText 3 "MAX(last_error)" (order.maximum.max (entry.2.map (·.lastError)))
  return .object [("state", .string state), ("count", .ofInt64 (Int64.ofNat entry.2.length)),
    ("max_retry", jsonOptInt maxRetry), ("last_error", jsonOptText lastError)]

/-- How many events are in a report state. -/
def countState (state : String) (events : List Value) : Nat :=
  events.countP fun event => (event.get "report_state").bind Value.asStr == some state

/-- The document of `report-status`. -/
def statusDocument : Except String Value := do
  db.connect
  Fallible.context "failed to prepare report_state query" (db.prepared "firewall_event")
  let events ← Fallible.context "failed to read report_state rows"
    ((selectEvents order db since).mapM (EventRow.statusJson json))
  Fallible.context "failed to prepare report_outbox query" (db.prepared "report_outbox")
  let outbox ← Fallible.context "failed to read report_outbox rows"
    ((groups order.states (·.state) db.outbox).mapM (outboxJson order))
  return .object [("since", .ofInt64 since),
    ("events_total", .number (.posInt (UInt64.ofNat events.length))),
    ("events_sent", .number (.posInt (UInt64.ofNat (countState "sent" events)))),
    ("events_pending", .number (.posInt (UInt64.ofNat (countState "pending" events)))),
    ("events", .array events), ("outbox", .array outbox)]

end Queries

end FwVerify
