import TableSync.Engine.Context

/-!
The JSON form each record takes when written out: its field names in declaration order, with
optional values as `null`.
-/

namespace TableSync

def DateRange.toJson (r : DateRange) : Json :=
  .object [("start", .string r.start.text), ("end", .string r.finish.text)]

def optRangeJson : Option DateRange → Json
  | some r => r.toJson
  | none => .null

def FetchWindow.toJson (w : FetchWindow) : Json :=
  .object [("table", .string w.table), ("range", optRangeJson w.range), ("offset", Json.nat w.offset),
    ("limit", Json.nat w.limit)]

def TableSplit.toJson (s : TableSplit) : Json :=
  .object [("table", .string s.table), ("index", Json.nat s.index), ("offset", Json.nat s.offset),
    ("limit", Json.nat s.limit), ("expected_rows", Json.nat s.expectedRows), ("range", optRangeJson s.range)]

def SkippedRecord.toJson (s : SkippedRecord) : Json :=
  .object [("request_id", .string s.requestId), ("table", .string s.table), ("reason", .string s.reason.name),
    ("status_code", Json.nat s.statusCode), ("message", .string s.message), ("detail", Json.optString s.detail)]

def Column.toJson (c : Column) : Json :=
  .object [("name", .string c.name), ("kind", .string c.kind.name), ("ordinal", Json.nat c.ordinal),
    ("source", .string c.source.name)]

def TableSchema.toJson (s : TableSchema) : Json :=
  .object [("table", .string s.table), ("columns", .array (s.columns.map Column.toJson))]

def WriteSummary.toJson (s : WriteSummary) : Json :=
  .object [("table", .string s.table), ("written", Json.nat s.written), ("batches", Json.nat s.batches),
    ("rounds", Json.nat s.rounds), ("skipped", .array (s.skipped.map SkippedRecord.toJson))]

def BatchReport.toJson (r : BatchReport) : Json :=
  .object [("table", .string r.table), ("rounds", Json.nat r.rounds), ("attempts", Json.nat r.attempts),
    ("resolved", .array (r.resolved.map .string)), ("written", Json.nat r.written),
    ("skipped", .array (r.skipped.map SkippedRecord.toJson))]

def Metrics.toJson (m : Metrics) : Json := .object (m.snapshot.map fun (n, v) => (n, Json.nat v))

def Page.toJson (p : Page) : Json :=
  .object [("rows", .array (p.rows.map fun r => .object r.fields)),
    ("entities", .array (p.rows.map fun r => .string r.entity)), ("offset", Json.nat p.offset),
    ("row_count", Json.nat p.rowCount), ("reached_end", .bool p.reachedEnd), ("is_empty", .bool p.isEmpty)]

end TableSync
