import TableSync.Service.Auth
import TableSync.Service.Classify
import TableSync.Service.Query
import TableSync.Service.Schema
import TableSync.Text.Unicode

/-!
Reading pages: a window is checked, a token acquired and a GET sent; the reply is judged as a read,
and the retrying forms try again after retryable failures only.
-/

namespace TableSync

def tableResponseShape : Shape := .record "TableResponse" [.mk "result" [] (.list .value) none]

structure PageResponse where
  rows : List Row
  totalCount : Option Nat

inductive ProbePurpose where
  | read
  | write
  deriving DecidableEq, Repr

def checkRead (table : String) (offset status : Nat) (body : String) : Except FetchError Unit :=
  match classifyRead status body with
  | .success => .ok ()
  | .retryable failure => .error (.retryable table offset (failure.describe status))
  | .dropped _ failure => .error (.nonRetryable table offset status (failure.describe status))
  | .terminal _ detail => .error (.nonRetryable table offset status detail)

def readRows (table : String) (offset : Nat) (r : HttpResponse) : Except FetchError (List Row) :=
  let refuse := fun (detail : String) => FetchError.nonRetryable table offset r.status detail
  match tableResponseShape.readText r.body with
  | .error e => .error (refuse ("invalid response body: " ++ e.text))
  | .ok v =>
    match v.field? "result" with
    | some (.array items) =>
      items.mapM fun
        | .object fields => .ok { entity := table, fields }
        | other => .error (refuse ("expected a row object, got " ++ other.render))
    | _ => .ok []

def totalCountOf (r : HttpResponse) : Option Nat :=
  (r.header totalCountHeader).bind fun v => parseUnsigned (trimText v)

def fetchDisposition (e : FetchError) : Disposition := if e.isRetryable then .retry else .stop

def settleRetry {α : Type} (w : FetchWindow) : Except (RetryError FetchError) α → Except FetchError α
  | .ok v => .ok v
  | .error (.fatal e) => .error e
  | .error (.attemptsExceeded attempts last) =>
    .error (.exhausted w.table w.offset w.finish attempts last)

structure PageFetcher where
  client : ServiceClient
  displayValue : DisplayValue
  retry : RetryPolicy

namespace PageFetcher

def fetchUrl (f : PageFetcher) (table : String) (offset : Nat) (url : String) :
    Net (Except FetchError HttpResponse) := do
  match ← f.client.authorize (HttpRequest.get url) with
  | .error e => pure (.error (.auth e))
  | .ok req =>
    match ← send req with
    | .error e => pure (.error (.retryable table offset e.text))
    | .ok r => pure (.ok r)

def read (f : PageFetcher) (w : FetchWindow) : Net (Except FetchError PageResponse) := do
  match w.validate with
  | .error e => pure (.error (.invalidWindow e))
  | .ok () =>
    match ← f.fetchUrl w.table w.offset (tableReadUrl f.client.endpoint w f.displayValue) with
    | .error e => pure (.error e)
    | .ok r => pure do
      checkRead w.table w.offset r.status r.body
      let rows ← readRows w.table w.offset r
      return { rows, totalCount := totalCountOf r }

def readWithRetry (f : PageFetcher) (w : FetchWindow) : Net (Except FetchError PageResponse) := do
  pure (settleRetry w (← f.retry.run (f.read w) fetchDisposition))

def fetchPage (f : PageFetcher) (w : FetchWindow) : Net (Except FetchError Page) := do
  pure ((← f.read w).map fun p => Page.make p.rows w.offset w.limit)

/-- Read one page, trying again after retryable failures. -/
def fetchPageWithRetry (f : PageFetcher) (w : FetchWindow) : Net (Except FetchError Page) := do
  pure (settleRetry w (← f.retry.run (f.fetchPage w) fetchDisposition))

def recordCount (f : PageFetcher) (table : String) (range : Option DateRange) :
    Net (Except FetchError Nat) := do
  let w := { FetchWindow.make table 0 1 with range }
  let read ← f.readWithRetry w
  pure do
    let p ← read
    match p.totalCount with
    | some n => .ok n
    | none => .error (.nonRetryable table 0 200 ("response carries no " ++ totalCountHeader ++ " header"))

def readMetadata (f : PageFetcher) (table : String) : Net (Except FetchError (List MetadataColumn)) := do
  match ← f.fetchUrl table 0 (f.client.endpoint.tableSchemaUrl table) with
  | .error e => pure (.error e)
  | .ok r => pure do
    checkRead table 0 r.status r.body
    match metadataResponseShape.readText r.body with
    | .error e => .error (.nonRetryable table 0 r.status ("invalid metadata response: " ++ e.text))
    | .ok v => .ok (metadataColumns ((v.field? "result").getD (.array [])))

def schemaProbe (f : PageFetcher) (table : String) (purpose : ProbePurpose) :
    Net (Except FetchError TableSchema) := do
  let w := FetchWindow.make table 0 1
  match ← f.readWithRetry w with
  | .error e => pure (.error e)
  | .ok p =>
    let schema := TableSchema.fromProbe table p.rows.head?
    match purpose with
    | .read => pure (.ok schema)
    | .write =>
      pure ((settleRetry w (← f.retry.run (f.readMetadata table) fetchDisposition)).map schema.mergeMetadata)

end PageFetcher

end TableSync
