import TableSync.Engine.Metrics
import TableSync.Model.Window
import TableSync.Service.Batch
import TableSync.Service.Fetch
import TableSync.Settings.Validate

/-!
A service context holds validated settings and the client built from them; its table readers and
batched writers share the run metrics. A failed split or submission counts a failure, and a writer
whose submission failed refuses all further use.
-/

namespace TableSync

/-- A failure of a run. -/
inductive EngineError where
  | connector (cause : ConnectorError)
  | settings (cause : SettingsError)
  | window (cause : WindowError)
  | writerAborted (table : String)

namespace EngineError

def ofFetch (e : FetchError) : EngineError := .connector (.fetch e)

def ofBatch (e : BatchError) : EngineError := .connector (.batch e)

def ofSchema (e : SchemaError) : EngineError := .connector (.schema e)

def ofTransport (e : TransportError) : EngineError := .connector (.transport e)

def text : EngineError → String
  | .connector c => "Connector error: " ++ c.text
  | .settings c => "Settings error: " ++ c.text
  | .window c => "Invalid read window: " ++ c.text
  | .writerAborted table => "Writer for '" ++ table ++ "' was aborted by an earlier failure"

def kind : EngineError → String
  | .connector c => "EngineError::Connector/" ++ c.kind
  | .settings c => "EngineError::Settings/" ++ c.kind
  | .window c => "EngineError::Window/" ++ c.kind
  | .writerAborted _ => "EngineError::WriterAborted"

def retryable? : EngineError → Option Bool
  | .connector c => some c.isRetryable
  | _ => none

end EngineError

abbrev Metered := StateT Metrics Net

def count (c : Counter) (n : Nat) : Metered Unit := modify fun m => m.add c n

/-- Validated settings and the client built from them. -/
structure ServiceContext where
  settings : ServiceSettings
  client : ServiceClient

namespace ServiceContext

def make (settings : ServiceSettings) : Except EngineError ServiceContext :=
  match settings.validate with
  | .error e => .error (.settings e)
  | .ok () =>
    .ok { settings,
          client := ServiceClient.make settings.serviceEndpoint settings.credentials settings.retry.auth.policy }

def fetcher (ctx : ServiceContext) : PageFetcher :=
  { client := ctx.client, displayValue := ctx.settings.valueType, retry := ctx.settings.retry.fetch.policy }

def coordinator (ctx : ServiceContext) (table : String) (envelopes : List WriteEnvelope) :
    Except BatchError Coordinator :=
  (Coordinator.make ctx.client table envelopes).map fun c =>
    (c.withRetry ctx.settings.retry.batch.policy).withMaxRounds ctx.settings.maxBatchRounds

end ServiceContext

structure TableReader where
  fetcher : PageFetcher
  table : String
  range : Option DateRange
  pageSize : Nat
  schema : Option TableSchema
  splits : List TableSplit

def ServiceContext.reader (ctx : ServiceContext) (table : String) (range : Option DateRange) : TableReader :=
  { fetcher := ctx.fetcher, table, range, pageSize := ctx.settings.pageSize, schema := none, splits := [] }

namespace TableReader

def prepare (r : TableReader) : Net (Except EngineError TableReader) := do
  match ← r.fetcher.schemaProbe r.table .read with
  | .error e => pure (.error (.ofFetch e))
  | .ok schema =>
    match ← r.fetcher.recordCount r.table r.range with
    | .error e => pure (.error (.ofFetch e))
    | .ok total =>
      match planSplits r.table total r.pageSize with
      | .error e => pure (.error (.window e))
      | .ok splits => pure (.ok { r with schema := some schema, splits := splits.map (·.withRange r.range) })

def readSplit (r : TableReader) (split : TableSplit) : Metered (Except EngineError Page) := do
  match ← liftM (r.fetcher.fetchPageWithRetry split.window) with
  | .error e =>
    count .failureCount 1
    pure (.error (.ofFetch e))
  | .ok page =>
    count .pagesFetched 1
    count .recordsRead page.rowCount
    pure (.ok page)

def readSplits (r : TableReader) : List TableSplit → List Row → Metered (Except EngineError (List Row))
  | [], rows => pure (.ok rows)
  | s :: rest, rows => do
    match ← r.readSplit s with
    | .error e => pure (.error e)
    | .ok page => r.readSplits rest (rows ++ page.rows)

def readAll (r : TableReader) : Metered (Except EngineError (List Row) × TableReader) := do
  let prepared ← match r.schema with
    | some _ => pure (.ok r)
    | none => liftM r.prepare
  match prepared with
  | .error e => pure (.error e, r)
  | .ok r => pure (← r.readSplits r.splits [], r)

end TableReader

structure WriteSummary where
  table : String
  written : Nat
  skipped : List SkippedRecord
  batches : Nat
  rounds : Nat

/-- Buffers encoded records and writes them in batches. -/
structure BatchedWriter where
  context : ServiceContext
  codec : RequestCodec
  batchSize : Nat
  buffer : List WriteEnvelope
  schema : Option TableSchema
  summary : WriteSummary
  aborted : Bool

def ServiceContext.writer (ctx : ServiceContext) (table : String) (mode : WriteMode) : BatchedWriter :=
  { context := ctx, codec := { table, mode }, batchSize := max ctx.settings.batchSize 1, buffer := [],
    schema := none, summary := { table, written := 0, skipped := [], batches := 0, rounds := 0 },
    aborted := false }

abbrev WriterRun := StateT BatchedWriter Metered

namespace BatchedWriter

def table (w : BatchedWriter) : String := w.codec.table

def buffered (w : BatchedWriter) : Nat := w.buffer.length

def prepare : WriterRun (Except EngineError TableSchema) := do
  let w ← get
  match ← (w.context.fetcher.schemaProbe w.table .write : Net _) with
  | .error e => pure (.error (.ofFetch e))
  | .ok schema =>
    set { w with schema := some schema }
    pure (.ok schema)

def flush : WriterRun (Except EngineError Unit) := do
  let w ← get
  if w.aborted then return .error (.writerAborted w.table)
  if w.buffer.isEmpty then return .ok ()
  set { w with buffer := [] }
  let result ← match w.context.coordinator w.table w.buffer with
    | .error e => pure (.error e)
    | .ok c => (Prod.fst <$> Coordinator.submitWithRetry.run c : Net _)
  match result with
  | .error e =>
    modify fun w => { w with aborted := true }
    liftM (count .failureCount 1 : Metered Unit)
    pure (.error (.ofBatch e))
  | .ok report =>
    liftM (do
      count .batchesSubmitted 1
      count .batchRounds report.rounds
      count .batchRetries (report.attempts - 1)
      count .recordsWritten report.written
      count .recordsSkipped report.skipped.length : Metered Unit)
    modify fun w => { w with summary :=
      { w.summary with written := w.summary.written + report.written, batches := w.summary.batches + 1,
                       rounds := w.summary.rounds + report.rounds,
                       skipped := w.summary.skipped ++ report.skipped } }
    pure (.ok ())

def write (record : Row) : WriterRun (Except EngineError Unit) := do
  let w ← get
  if w.aborted then return .error (.writerAborted w.table)
  let id ← liftM freshId
  match w.codec.encode id record with
  | .error e => pure (.error (.ofSchema e))
  | .ok envelope =>
    set { w with buffer := w.buffer ++ [envelope] }
    if w.buffer.length + 1 ≥ w.batchSize then flush else pure (.ok ())

def writeAll : List Row → WriterRun (Except EngineError Unit)
  | [] => pure (.ok ())
  | r :: rest => do
    match ← write r with
    | .error e => pure (.error e)
    | .ok () => writeAll rest

def close : WriterRun (Except EngineError WriteSummary) := do
  match ← flush with
  | .error e => pure (.error e)
  | .ok () => pure (.ok (← get).summary)

end BatchedWriter

end TableSync
