import TableSync.Service.Auth
import TableSync.Service.Classify
import TableSync.Service.Codec

/-!
Batched writes: a batch is submitted in rounds, each posting the pending sub-requests and settling
what the service serviced. A retryable failure keeps the pending requests, so submitting again
resumes.
-/

namespace TableSync

structure BatchEnvelope where
  batchRequestId : String
  restRequests : List WriteEnvelope

namespace BatchEnvelope

def make (restRequests : List WriteEnvelope) : Net BatchEnvelope := do
  return { batchRequestId := ← freshId, restRequests }

def requestIds (e : BatchEnvelope) : List String := e.restRequests.map (·.id)

def len (e : BatchEnvelope) : Nat := e.restRequests.length

def isEmpty (e : BatchEnvelope) : Bool := e.restRequests.isEmpty

def toJson (e : BatchEnvelope) : Json :=
  .object [("batch_request_id", .string e.batchRequestId),
    ("rest_requests", .array (e.restRequests.map WriteEnvelope.toJson))]

end BatchEnvelope

def servicedRequestShape : Shape :=
  .record "ServicedRequest"
    [.mk "id" [] .text none, .mk "status_code" [] (.unsigned "u16" 65535) none,
     .mk "body" [] (.optional .text) (some .null)]

def batchOutcomeShape : Shape :=
  .record "BatchOutcome"
    [.mk "batch_request_id" [] (.optional .text) (some .null),
     .mk "serviced_requests" [] (.list servicedRequestShape) (some (.array [])),
     .mk "unserviced_requests" [] (.list .text) (some (.array []))]

structure ServicedRequest where
  id : String
  statusCode : Nat
  body : Option String

def ServicedRequest.classify (s : ServicedRequest) : Classification :=
  let body := match s.body with
    | some encoded => (decodeText encoded).toOption.getD ""
    | none => ""
  classifyWrite s.statusCode body

structure BatchOutcome where
  serviced : List ServicedRequest
  unserviced : List String

def BatchOutcome.ofJson (v : Json) : BatchOutcome :=
  let list := fun (key : String) => match v.field? key with
    | some (.array xs) => xs
    | _ => []
  { serviced := (list "serviced_requests").map fun s =>
      { id := ((s.field? "id").bind Json.str?).getD "",
        statusCode := match s.field? "status_code" with
          | some (.number (.nat n)) => n
          | _ => 0,
        body := (s.field? "body").bind Json.str? },
    unserviced := (list "unserviced_requests").filterMap Json.str? }

structure BatchReport where
  table : String
  rounds : Nat
  attempts : Nat
  resolved : List String
  skipped : List SkippedRecord

def BatchReport.written (r : BatchReport) : Nat := r.resolved.length

def defaultMaxRounds : Nat := 10

/-- The state of a batched write. -/
structure Coordinator where
  client : ServiceClient
  table : String
  retry : RetryPolicy
  maxRounds : Nat
  order : List String
  pending : List (String × WriteEnvelope)
  resolved : List String
  skipped : List SkippedRecord
  rounds : Nat

abbrev BatchRun := StateT Coordinator Net

namespace Coordinator

def addUnique (acc : List (String × WriteEnvelope)) (e : WriteEnvelope) :
    Except BatchError (List (String × WriteEnvelope)) :=
  if acc.any (·.1 == e.id) then throw (BatchError.duplicateRequestId e.id) else pure (acc ++ [(e.id, e)])

def make (client : ServiceClient) (table : String) (envelopes : List WriteEnvelope) :
    Except BatchError Coordinator := do
  let pending ← envelopes.foldlM addUnique []
  return { client, table, retry := RetryPolicy.forBatch, maxRounds := defaultMaxRounds,
           order := pending.map (·.1), pending, resolved := [], skipped := [], rounds := 0 }

def withRetry (c : Coordinator) (retry : RetryPolicy) : Coordinator := { c with retry }

def withMaxRounds (c : Coordinator) (maxRounds : Nat) : Coordinator := { c with maxRounds := max maxRounds 1 }

def isPending (c : Coordinator) (id : String) : Bool := c.pending.any (·.1 == id)

def pendingIds (c : Coordinator) : List String := c.order.filter c.isPending

def isComplete (c : Coordinator) : Bool := c.pending.isEmpty

def abort : BatchRun Unit :=
  modify fun c => { c with pending := [], order := [], resolved := [], skipped := [] }

def post (envelope : BatchEnvelope) : BatchRun (Except BatchError BatchOutcome) := do
  let c ← get
  let batchId := envelope.batchRequestId
  let request := HttpRequest.postJson c.client.endpoint.batchUrl envelope.toJson
  match ← liftM (c.client.authorize request) with
  | .error e => pure (.error (.auth e))
  | .ok request =>
    match ← liftM (send request) with
    | .error e => pure (.error (.retryable batchId e.text))
    | .ok r =>
      if !r.isSuccess then
        pure (.error (.retryable batchId ("batch endpoint returned HTTP " ++ toString r.status)))
      else
        match batchOutcomeShape.readText r.body with
        | .error e => pure (.error (.invalidResponse batchId e.text))
        | .ok v => pure (.ok (BatchOutcome.ofJson v))

def settle : List ServicedRequest → List String → BatchRun (Except BatchError (List String))
  | [], retry => pure (.ok retry)
  | s :: rest, retry => do
    let c ← get
    if !c.isPending s.id then settle rest retry
    else
      match s.classify with
      | .success =>
        set { c with pending := c.pending.filter (·.1 != s.id), resolved := c.resolved ++ [s.id] }
        settle rest retry
      | .dropped reason failure =>
        let record : SkippedRecord :=
          { requestId := s.id, table := c.table, reason, statusCode := s.statusCode,
            message := failure.messageOrEmpty, detail := failure.detail }
        set { c with pending := c.pending.filter (·.1 != s.id), skipped := c.skipped ++ [record] }
        settle rest retry
      | .retryable _ => settle rest (retry ++ [s.id])
      | .terminal kind detail => pure (.error (.terminal c.table s.id s.statusCode kind detail))

def envelopesOf (c : Coordinator) (ids : List String) : List WriteEnvelope :=
  ids.filterMap fun id => (c.pending.find? (·.1 == id)).map (·.2)

def settleOutcome (ids : List String) (outcome : BatchOutcome) :
    BatchRun (Except BatchError (List String)) := do
  match ← settle outcome.serviced [] with
  | .error e => pure (.error e)
  | .ok retry =>
    let c ← get
    let retry := retry ++ outcome.unserviced.filter c.isPending
    let retry := retry ++ ids.filter fun id => c.isPending id && !retry.contains id
    pure (.ok (c.order.filter retry.contains))

/-- Submit one round of the given ids; answers the ids that need another, in submission
order. -/
def runRound (ids : List String) : BatchRun (Except BatchError (List String)) := do
  let c ← get
  let envelope ← liftM (BatchEnvelope.make (c.envelopesOf ids))
  match ← post envelope with
  | .error e => pure (.error e)
  | .ok outcome => settleOutcome ids outcome

def roundsFrom : List String → Nat → BatchRun (Except BatchError Unit)
  | [], _ => pure (.ok ())
  | ids@(_ :: _), 0 => do
    let c ← get
    abort
    pure (.error (.roundsExhausted c.table c.maxRounds ids.length))
  | ids@(_ :: _), left + 1 => do
    modify fun c => { c with rounds := c.rounds + 1 }
    match ← runRound ids with
    | .ok next => roundsFrom next left
    | .error e =>
      if !e.isRetryable then abort
      pure (.error e)

def submit : BatchRun (Except BatchError BatchReport) := do
  let c ← get
  match ← roundsFrom c.pendingIds c.maxRounds with
  | .error e => pure (.error e)
  | .ok () =>
    let c ← get
    set { c with resolved := [], skipped := [] }
    pure (.ok { table := c.table, rounds := c.rounds, attempts := 1, resolved := c.resolved,
                skipped := c.skipped })

def giveUp (attempt : Nat) (e : BatchError) : BatchRun (Except BatchError BatchReport) := do
  if !e.isRetryable then pure (.error e)
  else
    let c ← get
    abort
    pure (.error (.retriesExhausted c.table (attempt + 1) e))

def submitFrom : Nat → Nat → BatchRun (Except BatchError BatchReport)
  | attempt, 0 => do
    match ← submit with
    | .ok report => pure (.ok { report with attempts := attempt + 1 })
    | .error e => giveUp attempt e
  | attempt, left + 1 => do
    match ← submit with
    | .ok report => pure (.ok { report with attempts := attempt + 1 })
    | .error e => if e.isRetryable then submitFrom (attempt + 1) left else pure (.error e)

/-- Submit, trying again after retryable failures as the retry policy allows: attempt `a`
may be followed by another while `a + 1 < maxAttempts`. -/
def submitWithRetry : BatchRun (Except BatchError BatchReport) := do
  submitFrom 0 ((← get).retry.maxAttempts - 1)

end Coordinator

end TableSync
