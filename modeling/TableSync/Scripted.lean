import TableSync.Exchange
import TableSync.Model.Records
import TableSync.Service.Codec

/-!
Canned replies for a scripted service: user rows, failure bodies, a table prelude, and batch replies
built from the ids of the submitted request.
-/

namespace TableSync

def hex32 (n : Nat) : String :=
  let digit (d : Nat) : Char := if d < 10 then Char.ofNat (48 + d) else Char.ofNat (87 + d)
  String.ofList ((List.range 32).reverse.map fun k => digit (n / Nat.pow 16 k % 16))

/-- `count` user rows numbered from `start`. -/
def userRows (start count : Nat) : Json :=
  .object [("result", .array ((List.range count).map fun k =>
    let i := start + k
    .object [("sys_id", .string (hex32 i)), ("user_name", .string ("user." ++ toString i)),
      ("active", .string "true")]))]

def failureBody (message detail : String) : Json :=
  .object [("status", .string "failure"),
    ("error", .object [("message", .string message), ("detail", .string detail)])]

def jsonResponse (status : Nat) (body : Json) : HttpResponse := HttpResponse.make status body.render

def tablePrelude (total : String) : List Reply :=
  [.fixed (.ok (jsonResponse 200 (userRows 0 1))),
   .fixed (.ok ((jsonResponse 200 (userRows 0 1)).withHeader totalCountHeader total))]

def incident (description : String) : Row :=
  { entity := "", fields := [("short_description", .string description), ("urgency", .string "2")] }

def submittedRequests (req : HttpRequest) : List Json :=
  match req.body with
  | .json body =>
    match body.field? "rest_requests" with
    | some (.array items) => items
    | _ => []
  | _ => []

def batchRequestIds (req : HttpRequest) : List String :=
  (submittedRequests req).filterMap fun r => (r.field? "id").bind Json.str?

def servicedEntry (id : String) (status : Nat) (body : Json) : Json :=
  .object [("id", .string id), ("status_code", Json.nat status), ("body", .string (encodeBody body))]

def createdEntry (id : String) : Json :=
  servicedEntry id 201 (.object [("result", .object [("sys_id", .string id)])])

def batchResponse (serviced : List Json) (unserviced : List String) : HttpResponse :=
  jsonResponse 200 (.object [("batch_request_id", .string "response"), ("serviced_requests", .array serviced),
    ("unserviced_requests", .array (unserviced.map .string))])

def resolveRef (ids : List Json) (n : Int) : Json :=
  if n < 0 then .string ("missing-ref-" ++ toString n)
  else ((ids[n.toNat]?).bind fun r => r.field? "id").getD (.string ("missing-ref-" ++ toString n))

inductive EntryId where
  | ref (n : Int)
  | given (id : Json)
  | absent

def EntryId.text (ids : List String) : EntryId → String
  | .ref n => if n < 0 then "missing-ref-" ++ toString n else (ids[n.toNat]?).getD ("missing-ref-" ++ toString n)
  | .given (.string s) => s
  | .given v => v.render
  | .absent => ""

inductive CannedEntry where
  | created (id : EntryId)
  | serviced (id : EntryId) (status : Nat) (body : Json)

structure CannedBatch where
  serviced : List CannedEntry
  unserviced : List EntryId

def CannedBatch.answer (b : CannedBatch) (req : HttpRequest) : HttpResponse :=
  let ids := batchRequestIds req
  batchResponse
    (b.serviced.map fun
      | .created id => createdEntry (id.text ids)
      | .serviced id status body => servicedEntry (id.text ids) status body)
    (b.unserviced.map (·.text ids))

inductive EntryBody where
  | text (s : String)
  | json (v : Json)
  | raw (v : Json)
  | absent

structure EntrySpec where
  id : EntryId
  statusCode : Option Json
  body : EntryBody

inductive ServicedSpec where
  | entries (items : List EntrySpec)
  | raw (v : Json)

inductive UnservicedItem where
  | ref (n : Int)
  | given (v : Json)

inductive UnservicedSpec where
  | items (xs : List UnservicedItem)
  | raw (v : Json)

/-- A batch reply described field by field; each key is present only if given. -/
structure BatchSpec where
  status : Nat
  batchRequestId : Option Json
  serviced : Option ServicedSpec
  unserviced : Option UnservicedSpec

def EntrySpec.toJson (ids : List Json) (e : EntrySpec) : Json :=
  let id := match e.id with
    | .ref n => [("id", resolveRef ids n)]
    | .given v => [("id", v)]
    | .absent => []
  let status := match e.statusCode with
    | some v => [("status_code", v)]
    | none => []
  let body := match e.body with
    | .text s => [("body", .string (base64Encode s.toUTF8))]
    | .json v => [("body", .string (encodeBody v))]
    | .raw v => [("body", v)]
    | .absent => []
  .object (id ++ status ++ body)

def BatchSpec.answer (b : BatchSpec) (req : HttpRequest) : HttpResponse :=
  let ids := submittedRequests req
  let requestId := match b.batchRequestId with
    | some v => [("batch_request_id", v)]
    | none => []
  let serviced := match b.serviced with
    | some (.entries items) => [("serviced_requests", .array (items.map (EntrySpec.toJson ids)))]
    | some (.raw v) => [("serviced_requests", v)]
    | none => []
  let unserviced := match b.unserviced with
    | some (.items xs) => [("unserviced_requests", .array (xs.map fun
        | .ref n => resolveRef ids n
        | .given v => v))]
    | some (.raw v) => [("unserviced_requests", v)]
    | none => []
  jsonResponse b.status (.object (requestId ++ serviced ++ unserviced))

end TableSync
