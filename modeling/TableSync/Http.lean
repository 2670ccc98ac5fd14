import TableSync.Json.Value
import TableSync.Text.Unicode

/-!
HTTP requests and responses. Response header names are stored lower-cased, a later header replacing
an earlier one of the same name, and a status from 200 to 299 is a success.
-/

namespace TableSync

inductive HttpMethod where
  | get
  | post
  | put
  deriving DecidableEq, Repr

def HttpMethod.name : HttpMethod → String
  | .get => "GET"
  | .post => "POST"
  | .put => "PUT"

inductive RequestBody where
  | empty
  | json (value : Json)
  | form (fields : List (String × String))

/-- An HTTP request. -/
structure HttpRequest where
  method : HttpMethod
  url : String
  headers : List (String × String)
  bearer : Option String
  body : RequestBody

namespace HttpRequest

def defaultHeaders : List (String × String) := [("Accept", "application/json")]

def make (method : HttpMethod) (url : String) (body : RequestBody) : HttpRequest :=
  { method, url, headers := defaultHeaders, bearer := none, body }

def get (url : String) : HttpRequest := make .get url .empty

def postJson (url : String) (body : Json) : HttpRequest := make .post url (.json body)

def postForm (url : String) (fields : List (String × String)) : HttpRequest :=
  make .post url (.form fields)

def withBearer (r : HttpRequest) (token : String) : HttpRequest := { r with bearer := some token }

def toJson (r : HttpRequest) : Json :=
  let pair := fun (p : String × String) => Json.array [.string p.1, .string p.2]
  .object [("method", .string r.method.name), ("url", .string r.url), ("headers", .array (r.headers.map pair)),
    ("bearer", Json.optString r.bearer), ("body", match r.body with
      | .empty => .null
      | .json v => v
      | .form fs => .array (fs.map pair))]

end HttpRequest

structure HttpResponse where
  status : Nat
  headers : List (String × String)
  body : String

namespace HttpResponse

def make (status : Nat) (body : String) : HttpResponse := { status, headers := [], body }

def setHeader : List (String × String) → String → String → List (String × String)
  | [], name, value => [(name, value)]
  | (n, v) :: rest, name, value =>
    if n = name then (n, value) :: rest else (n, v) :: setHeader rest name value

def withHeader (r : HttpResponse) (name value : String) : HttpResponse :=
  { r with headers := setHeader r.headers (asciiLower name) value }

def header (r : HttpResponse) (name : String) : Option String :=
  (r.headers.find? fun (n, _) => n == asciiLower name).map (·.2)

def isSuccess (r : HttpResponse) : Bool := 200 ≤ r.status && r.status < 300

end HttpResponse

inductive TransportError where
  | http (message : String)
  | connection (message : String)
  deriving DecidableEq, Repr

def TransportError.text : TransportError → String
  | .http m => "HTTP error: " ++ m
  | .connection m => "Connection error: " ++ m

def TransportError.kind : TransportError → String
  | .http _ => "TransportError::Http"
  | .connection _ => "TransportError::Connection"

end TableSync
