import FwVerify.State.Commands

/-!
# The worker's dump of the reports

The reports of the monitor are dumped as the events are, with a payload each. A payload is a
document of its own that is put into the line of the dump; as long as it is not too deep for that,
the worker's `dump-reports` gives the reports the orchestrator takes from the database itself, or
those of them that have the type it was asked for.

## Main definitions

* `FwReport.sorted` — a report as a line of JSON gives it
* `ReportsDump` — what the line says

## Main results

* `dump_reports_agrees` — the worker dumps the reports the orchestrator sees
-/

set_option autoImplicit false

namespace FwVerify

open Fallible Selection Traversal

/-- The report with the fields of its payload in order. -/
def FwReport.sorted (report : FwReport) : FwReport :=
  { report with payload := report.payload.sorted }

/-- The line of `dump-reports`. -/
structure ReportsDump where
  since : Int64
  count : UInt64
  reports : List FwReport

def ReportsDump.ofJson (value : Value) : Option ReportsDump := do
  let field ← recordFields ["since", "count", "reports"] value
  let since ← required field "since" Value.asI64
  let count ← required field "count" Value.asU64
  let items ← required field "reports" Value.asArray
  let reports ← items.mapM FwReport.ofJson
  return { since, count, reports }

/-- The report is of the type that is asked for, if one is. -/
def FwReport.hasType (reportType : Option String) (report : FwReport) : Bool :=
  reportType.all fun wanted => report.reportType == wanted

/-! ## Documents -/

/-- A report is read off its fields in any order. -/
theorem FwReport.ofJson_sorted {fields : List (String × Value)}
    (hnodup : (fields.map Prod.fst).Nodup) :
    FwReport.ofJson (Value.object fields).sorted =
      (FwReport.ofJson (.object fields)).map FwReport.sorted := by
  have hfields (names : List String) :
      recordFields names (.object fields) = some fun name => fields.lookup name := rfl
  rw [FwReport.ofJson, FwReport.ofJson, recordFields_sorted _ hnodup, hfields]
  dsimp only [Option.bind_eq_bind, Option.bind_some]
  have hpayload : required (fun name => (fields.lookup name).map Value.sorted) "payload" some =
      (required (fun name => fields.lookup name) "payload" some).map Value.sorted := by
    rw [required, required, Option.bind_fun_some, Option.bind_fun_some]
  rw [required_sorted _ _ asStr_sorted, required_sorted _ _ asI64_sorted, hpayload]
  generalize required (fun name => fields.lookup name) "report_type" Value.asStr = reportType
  generalize required (fun name => fields.lookup name) "payload" some = payload
  generalize required (fun name => fields.lookup name) "created_at_ms" Value.asI64 = createdAtMs
  cases reportType <;> cases payload <;> cases createdAtMs <;> rfl

section Dump

variable {json : JsonParser} {order : StateOrder} {db : StateDb} {since : Int64}

/-- A row's document is an object that gives each name once, around the payload's. -/
theorem OutboxRow.toJson_object {levels : Nat} {row : OutboxRow} {value : Value}
    (h : row.toJson json = .ok value)
    (hpayload : ∀ payload, row.payload = .text payload →
      (payloadValue json payload).Integral levels) :
    value.Integral (levels + 1) ∧ ∃ fields, value = .object fields ∧
      (fields.map Prod.fst).Nodup := by
  rw [OutboxRow.toJson] at h
  obtain ⟨payload, htext, h⟩ := bind_eq_ok.mp h
  obtain ⟨reportId, -, h⟩ := bind_eq_ok.mp h
  obtain ⟨reportType, -, h⟩ := bind_eq_ok.mp h
  cases h
  have htext : row.payload = .text payload := by
    have hread := toOption_eq_some.mpr htext
    rw [toOption_getText] at hread
    exact SqlValue.asText_eq_some.mp hread
  refine ⟨.object fun f hf => ?_, _, rfl, by simp⟩
  simp only [List.mem_cons, List.not_mem_nil, or_false] at hf
  rcases hf with rfl | rfl | rfl | rfl
  · exact .string _
  · exact .string _
  · exact hpayload payload htext
  · exact integral_ofInt64 _

/-- The line of a dump says what the rows say. -/
theorem ReportsDump.ofJson_sorted {rows : List Value}
    (hrows : ∀ value ∈ rows, ∃ fields, value = .object fields ∧ (fields.map Prod.fst).Nodup) :
    ReportsDump.ofJson (Value.object [("since", .ofInt64 since),
        ("count", .number (.posInt (UInt64.ofNat rows.length))), ("reports", .array rows)]).sorted =
      (rows.mapM FwReport.ofJson).map fun reports =>
        ⟨since, UInt64.ofNat rows.length, reports.map FwReport.sorted⟩ := by
  have hitems : (rows.map Value.sorted).mapM FwReport.ofJson =
      (rows.mapM FwReport.ofJson).map (List.map FwReport.sorted) := by
    rw [← mapM_map_right]
    refine mapM_map_congr fun value hvalue => ?_
    obtain ⟨fields, rfl, hnodup⟩ := hrows value hvalue
    exact FwReport.ofJson_sorted hnodup
  obtain ⟨field, hfields, hsince, hcount, hreports⟩ :=
    dump_fields since "reports" (by decide) (by decide) rows
  rw [ReportsDump.ofJson, hfields]
  simp only [Option.bind_eq_bind, Option.bind_some, hsince, hcount, hreports, hitems]
  cases rows.mapM FwReport.ofJson <;> rfl

/-! ## The dump of the reports -/

/-- A row is of a type exactly when its report is. -/
theorem OutboxRow.hasType_report {row : OutboxRow} {report : FwReport}
    (h : row.report json = some report) (reportType : Option String) :
    report.hasType reportType = reportType.all fun wanted => row.reportType == .text wanted := by
  simp only [OutboxRow.report, Option.bind_eq_bind, Option.bind_eq_some_iff] at h
  obtain ⟨payload, -, reportId, -, name, hname, hreport⟩ := h
  cases hreport
  rw [FwReport.hasType, SqlValue.asText_eq_some.mp hname]
  cases reportType with
  | none => rfl
  | some wanted =>
    rw [Option.all_some, Option.all_some, Bool.eq_iff_iff, beq_iff_eq, beq_iff_eq,
      SqlValue.text.injEq]

/-- The reports of a type among those of all types. -/
theorem reports_of_type (order order' : StateOrder) (reportType : Option String) :
    ((selectReports order' db since reportType).filterMap (OutboxRow.report json)).Perm
      (((selectReports order db since none).filterMap (OutboxRow.report json)).filter
        (FwReport.hasType reportType)) := by
  refine (select_perm.filterMap _).trans (.trans ?_ ((select_perm.filterMap _).filter _).symm)
  rw [List.filter_filterMap, List.filterMap_filter, List.filterMap_filter]
  refine .of_eq (List.filterMap_congr fun row _ => ?_)
  rw [Option.all_none, Bool.and_true]
  by_cases hnewer : decide (since < row.createdAtMs) = true
  · rw [hnewer, Bool.true_and, if_pos rfl]
    cases hreport : row.report json with
    | none => simp
    | some report => rw [Option.filter_some, OutboxRow.hasType_report hreport]
  · rw [Bool.eq_false_of_not_eq_true hnewer, Bool.false_and, if_neg Bool.false_ne_true,
      if_neg Bool.false_ne_true]

variable {noRecord : List Value → String} {reports : List FwReport}
  (hdump : dumpReports json order db since noRecord = .ok reports)

include hdump

/-- What the rows of a type are read as, when all reports can be read. -/
theorem reports_of_dumpReports (order' : StateOrder) (reportType : Option String) :
    db.query "report_outbox" = .ok () ∧
      ∃ listed, (selectReports order' db since reportType).mapM (OutboxRow.report json) =
        some listed ∧ listed.Perm (reports.filter (FwReport.hasType reportType)) := by
  have hquery : db.query "report_outbox" = .ok () := by
    cases hquery : db.query "report_outbox" with
    | ok _ => rfl
    | error error =>
      rw [dumpReports, queryReports, hquery] at hdump
      cases hdump
  have hread : (selectReports order db since none).mapM (OutboxRow.report json) = some reports := by
    rw [← dumpReports_toOption noRecord hquery, hdump]
    rfl
  have hall := mapM_select_isSome_iff.mp (Option.isSome_of_eq_some hread)
  have hsome :
      ((selectReports order' db since reportType).mapM (OutboxRow.report json)).isSome := by
    refine mapM_select_isSome_iff.mpr fun row hrow hselected => hall row hrow ?_
    rw [Option.all_none, Bool.and_true]
    exact (Bool.and_eq_true_iff.mp hselected).1
  obtain ⟨listed, hlisted⟩ := Option.isSome_iff_exists.mp hsome
  refine ⟨hquery, listed, hlisted, ?_⟩
  rw [← filterMap_of_mapM hlisted, ← filterMap_of_mapM hread]
  exact reports_of_type order order' reportType

/-- **The worker dumps the reports the orchestrator sees.** When the orchestrator can read its
reports and none of their payloads is too deep for a line, `dump-reports` gives them, with their
number and the watermark, and with a type only those of the type. -/
theorem dump_reports_agrees (hjson : json.ReadsPrinted) (args : List String) (order' : StateOrder)
    (reportType : Option String) (hfew : db.outbox.length < 2 ^ 64)
    (hpayloads : ∀ row ∈ db.outbox, since < row.createdAtMs → ∀ payload,
      row.payload = .text payload → (payloadValue json payload).Integral (maxLevels - 3)) :
    ∃ dump, (agentJson json args
        (.ok (documentProcess (reportsDocument json order' db since reportType)))).toOption.bind
          ReportsDump.ofJson = some dump ∧
      dump.since = since ∧ dump.count.toNat = dump.reports.length ∧
      dump.reports.Perm
        ((reports.filter (FwReport.hasType reportType)).map FwReport.sorted) := by
  obtain ⟨hquery, listed, hlisted, hperm⟩ := reports_of_dumpReports hdump order' reportType
  -- the rows have documents, since they are read as reports by way of them
  have hread :
      ((selectReports order' db since reportType).mapM (OutboxRow.toJson json)).toOption.bind
        (fun rows => rows.mapM FwReport.ofJson) = some listed := by
    rw [toOption_mapM, mapM_bind_mapM, ← hlisted]
    exact congrArg (fun read => List.mapM read _) (funext (OutboxRow.ofJson_toJson json))
  obtain ⟨rows, hrows, hreports⟩ := Option.bind_eq_some_iff.mp hread
  have hdocuments : (selectReports order' db since reportType).mapM (OutboxRow.toJson json) =
      .ok rows := toOption_eq_some.mp hrows
  have hobjects : ∀ value ∈ rows, value.Integral (maxLevels - 2) ∧ ∃ fields,
      value = .object fields ∧ (fields.map Prod.fst).Nodup := by
    intro value hvalue
    obtain ⟨row, hrow, hvalue⟩ := exists_of_mem_right (mapM_ok_iff.mp hdocuments) hvalue
    obtain ⟨hmem, hselected⟩ := mem_select.mp hrow
    exact OutboxRow.toJson_object hvalue
      (hpayloads row hmem (of_decide_eq_true (Bool.and_eq_true_iff.mp hselected).1))
  have hdocument : reportsDocument json order' db since reportType = .ok (.object
      [("since", .ofInt64 since), ("count", .number (.posInt (UInt64.ofNat rows.length))),
        ("reports", .array rows)]) := by
    rw [reportsDocument, queryReports, hquery, hdocuments]
    rfl
  have hobject : ∀ value, reportsDocument json order' db since reportType = .ok value →
      ∃ fields, value = .object fields ∧ value.Integral maxLevels := by
    intro value hvalue
    rw [hdocument] at hvalue
    cases hvalue
    refine ⟨_, rfl, .object fun f hf => ?_⟩
    simp only [List.mem_cons, List.not_mem_nil, or_false] at hf
    rcases hf with rfl | rfl | rfl
    · exact integral_ofInt64 since
    · exact .posInt _
    · exact .array fun item hitem => (hobjects item hitem).1
  have hlength : rows.length = listed.length := (mapM_eq_some_iff.mp hreports).length_eq
  rw [agentJson_document hjson args hobject, hdocument]
  refine ⟨_, (ReportsDump.ofJson_sorted fun value hvalue => (hobjects value hvalue).2).trans
    (congrArg (Option.map _) hreports), rfl, ?_, hperm.map _⟩
  have hshort : rows.length ≤ db.outbox.length := by
    rw [← (mapM_ok_iff.mp hdocuments).length_eq, selectReports, select_perm.length_eq]
    exact List.length_filter_le _ _
  rw [UInt64.toNat_ofNat_of_lt' (lt_of_le_of_lt hshort hfew), List.length_map, hlength]

end Dump

/-- The newer one of the queued reports, with the number it has as payload. -/
theorem dump_reports_agrees_probe :
    ∃ dump, (agentJson jsonParser ["dump-reports"] (.ok (documentProcess
        (reportsDocument jsonParser .stable (probeDb []) 12 (some "conn_total"))))).toOption.bind
          ReportsDump.ofJson = some dump ∧
      dump.since = 12 ∧ dump.count.toNat = dump.reports.length ∧
      dump.reports.Perm [⟨"conn_total", .number (.posInt 9)⟩] := by
  have hpayload : payloadValue jsonParser "9" = .number (.posInt 9) := rfl
  have hselect : selectReports .stable (probeDb []) 12 none = [⟨13, .text "pending", .text "r2",
      .text "conn_total", .text "9", .integer 3, .text "refused"⟩] :=
    select_eq_singleton (by decide)
  have hdump : dumpReports jsonParser .stable (probeDb []) 12 (fun _ => "no record") =
      .ok [⟨"conn_total", .number (.posInt 9)⟩] := by
    rw [← toOption_eq_some, dumpReports_toOption _ rfl, hselect, List.mapM_cons]
    rfl
  have hfew : (probeDb []).outbox.length < 2 ^ 64 := by decide
  refine dump_reports_agrees hdump jsonParser_readsPrinted _ .stable (some "conn_total") hfew ?_
  simp only [probeDb, List.forall_mem_cons]
  refine ⟨fun hnewer => absurd hnewer (by decide), fun _ payload hpayload => ?_,
    fun _ hrow => absurd hrow List.not_mem_nil⟩
  cases hpayload
  exact .posInt 9

end FwVerify
