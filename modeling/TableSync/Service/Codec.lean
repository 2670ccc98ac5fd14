import TableSync.Json.Parse
import TableSync.Text.Base64
import TableSync.Text.Utf8
import TableSync.Http
import TableSync.Service.Endpoint
import TableSync.Service.Errors
import TableSync.Model.Records

/-!
A record becomes one batch sub-request: a POST to the table without the identifier, or a PUT to the
row; an update with no identifier is refused. `decodeText` reads a body back.
-/

namespace TableSync

inductive WriteMode where
  | insert
  | update
  | upsert
  deriving DecidableEq, Repr

def writeModeNames : List String := ["insert", "update", "upsert"]

def WriteMode.ofName : String → WriteMode
  | "update" => .update
  | "upsert" => .upsert
  | _ => .insert

def WriteMode.name : WriteMode → String
  | .insert => "insert"
  | .update => "update"
  | .upsert => "upsert"

structure WriteEnvelope where
  id : String
  url : String
  method : HttpMethod
  headers : List (String × String)
  body : String
  excludeResponseHeaders : Bool

def WriteEnvelope.toJson (e : WriteEnvelope) : Json :=
  .object [("id", .string e.id), ("url", .string e.url), ("method", .string e.method.name),
    ("headers", .array (e.headers.map fun (n, v) => .object [("name", .string n), ("value", .string v)])),
    ("body", .string e.body), ("exclude_response_headers", .bool e.excludeResponseHeaders)]

def jsonHeaders : List (String × String) :=
  [("Content-Type", "application/json"), ("Accept", "application/json")]

def encodeBody (payload : Json) : String := base64Encode payload.render.toUTF8

def decodeText (encoded : String) : Except SchemaError String :=
  match base64Decode (trimText encoded) with
  | .error e => .error (.decode e.text)
  | .ok bytes =>
    match checkUtf8 bytes with
    | .error e => .error (.decode e.text)
    | .ok text => .ok text

def WriteEnvelope.decodeBody (e : WriteEnvelope) : Except SchemaError Json := do
  let text ← decodeText e.body
  match Json.parse text with
  | .ok v => pure v
  | .error err => throw (.encode err)

structure RequestCodec where
  table : String
  mode : WriteMode

def withoutIdentifier (fields : List (String × Json)) : List (String × Json) :=
  fields.filter fun (name, _) => name != rowIdField

def RequestCodec.target (c : RequestCodec) (record : Row) :
    Except SchemaError (HttpMethod × String × List (String × Json)) :=
  match c.mode, record.rowId with
  | .insert, _ | .upsert, none => .ok (.post, Endpoint.tablePath c.table, withoutIdentifier record.fields)
  | .update, some id | .upsert, some id => .ok (.put, Endpoint.rowPath c.table id, record.fields)
  | .update, none => .error (.missingIdentifier c.table rowIdField)

/-- The sub-request writing a record, under the identifier `id`. -/
def RequestCodec.encode (c : RequestCodec) (id : String) (record : Row) :
    Except SchemaError WriteEnvelope := do
  let (method, url, payload) ← c.target record
  return { id, url, method, headers := jsonHeaders, body := encodeBody (.object payload),
           excludeResponseHeaders := true }

end TableSync
