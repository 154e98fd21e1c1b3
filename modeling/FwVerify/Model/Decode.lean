import FwVerify.Model.Monitor

/-!
# Records in documents

What a document is read as when a record is expected: an object gives the fields by name, an array
by place, fields of other names are passed over, and a field with a default may be missing.

## Main definitions

* `recordFields` — the fields of a record
* `TrafficOutcome.ofJson`, `FwEvent.ofJson`, `FwReport.ofJson` — the records of the tool
-/

set_option autoImplicit false

namespace FwVerify

namespace Value

/-- The document's number as a `u32`. -/
def asU32 : Value → Option UInt32
  | .number (.posInt n) => if n.toNat < 2 ^ 32 then some n.toUInt32 else none
  | _ => none

/-- The document's number as an `i64`, or nothing when it is null. -/
def asOptI64 : Value → Option (Option Int64)
  | .null => some none
  | value => value.asI64.map some

end Value

/-- The fields of a record that declares some names. -/
def recordFields (names : List String) : Value → Option (String → Option Value)
  | .object fields => some fun name => fields.lookup name
  | .array items =>
    if items.length ≤ names.length then some fun name => (names.zip items).lookup name else none
  | _ => none

section Fields

variable {α : Type} (field : String → Option Value) (name : String) (decode : Value → Option α)

/-- A field that has to be there. -/
def required : Option α := (field name).bind decode

/-- A field that may be missing. -/
def defaulted (default : α) : Option α :=
  match field name with
  | none => some default
  | some value => decode value

end Fields

def TrafficOutcome.ofJson (value : Value) : Option TrafficOutcome := do
  let field ← recordFields
    ["verdict", "success", "timeout", "refused", "denied", "sent", "other"] value
  let verdict ← required field "verdict" Value.asStr
  let success ← defaulted field "success" Value.asU32 0
  let timeout ← defaulted field "timeout" Value.asU32 0
  let refused ← defaulted field "refused" Value.asU32 0
  let denied ← defaulted field "denied" Value.asU32 0
  let sent ← defaulted field "sent" Value.asU32 0
  let other ← defaulted field "other" Value.asU32 0
  return { verdict, success, timeout, refused, denied, sent, other }

def FwEvent.ofJson (value : Value) : Option FwEvent := do
  let field ← recordFields
    ["event_id", "event_time_ms", "event_type", "action", "src_ip", "src_port", "dst_ip",
      "dst_port", "proto", "rule_id", "detail", "report_state"] value
  let eventId ← required field "event_id" Value.asStr
  let eventTimeMs ← required field "event_time_ms" Value.asI64
  let eventType ← required field "event_type" Value.asStr
  let action ← required field "action" Value.asStr
  let srcIp ← required field "src_ip" Value.asStr
  let srcPort ← required field "src_port" Value.asI64
  let dstIp ← required field "dst_ip" Value.asStr
  let dstPort ← required field "dst_port" Value.asI64
  let proto ← required field "proto" Value.asStr
  let ruleId ← defaulted field "rule_id" Value.asOptI64 none
  let detail ← defaulted field "detail" Value.asStr ""
  let reportState ← required field "report_state" Value.asStr
  return {
    eventId, eventTimeMs, eventType, action, srcIp, srcPort, dstIp, dstPort, proto, ruleId, detail
    reportState }

/-- The time a report was queued at has to be there, but is not kept. -/
def FwReport.ofJson (value : Value) : Option FwReport := do
  let field ← recordFields ["report_type", "payload", "created_at_ms"] value
  let reportType ← required field "report_type" Value.asStr
  let payload ← required field "payload" some
  let _ ← required field "created_at_ms" Value.asI64
  return { reportType, payload }

/-- The counts of an outcome may be missing. -/
example : TrafficOutcome.ofJson (.object [("sent", .number (.posInt 3)), ("verdict", .string "sent")]) =
    some { verdict := "sent", sent := 3 } := by
  decide

end FwVerify
