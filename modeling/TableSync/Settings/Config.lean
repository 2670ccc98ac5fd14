import TableSync.Json.Shape
import TableSync.Retry
import TableSync.Service.Query
import TableSync.Service.Endpoint
import TableSync.Service.Auth
import TableSync.Text.Unicode

/-!
The settings of a service connection, read from a JSON document in which every field has a default,
then overridden by environment variables.
-/

namespace TableSync

/-- A set of environment variables. -/
structure EnvContext where
  vars : List (String × String)
  deriving DecidableEq, Repr

namespace EnvContext

def empty : EnvContext := { vars := [] }

def setVar : List (String × String) → String → String → List (String × String)
  | [], key, value => [(key, value)]
  | (k, v) :: rest, key, value => if k = key then (k, value) :: rest else (k, v) :: setVar rest key value

def set (ctx : EnvContext) (key value : String) : EnvContext := { vars := setVar ctx.vars key value }

def ofPairs (pairs : List (String × String)) : EnvContext :=
  pairs.foldl (fun ctx (k, v) => ctx.set k v) empty

def merge (ctx : EnvContext) (pairs : List (String × String)) : EnvContext :=
  pairs.foldl (fun ctx (k, v) => ctx.set k v) ctx

def get (ctx : EnvContext) (key : String) : Option String :=
  ((ctx.vars.find? (·.1 == key)).map fun (_, v) => trimText v).filter fun v => !v.isEmpty

def getOr (ctx : EnvContext) (key fallback : String) : String := (ctx.get key).getD fallback

end EnvContext

/-- The retry configuration of one kind of call. -/
structure RetryConfig where
  maxAttempts : Nat
  delayMs : Nat
  backoff : Backoff
  deriving DecidableEq, Repr

namespace RetryConfig

def fixed (maxAttempts delayMs : Nat) : RetryConfig := { maxAttempts, delayMs, backoff := .fixed }

def exponential (maxAttempts delayMs : Nat) : RetryConfig :=
  { maxAttempts, delayMs, backoff := .exponential }

def policy (c : RetryConfig) : RetryPolicy :=
  match c.backoff with
  | .fixed => RetryPolicy.fixed c.maxAttempts (millis c.delayMs)
  | .exponential => RetryPolicy.exponential c.maxAttempts (millis c.delayMs)

def toJson (c : RetryConfig) : Json :=
  .object [("max_attempts", Json.nat c.maxAttempts), ("delay_ms", Json.nat c.delayMs),
    ("backoff", .string c.backoff.name)]

def debugText (c : RetryConfig) : String :=
  "RetryConfig \x7b max_attempts: " ++ toString c.maxAttempts ++ ", delay_ms: " ++ toString c.delayMs ++
    ", backoff: " ++ c.backoff.debugName ++ " \x7d"

def ofJson (v : Json) : RetryConfig :=
  let nat := fun (key : String) => match v.field? key with
    | some (.number (.nat n)) => n
    | _ => 0
  { maxAttempts := nat "max_attempts", delayMs := nat "delay_ms",
    backoff := if v.field? "backoff" matches some (.string "exponential") then .exponential else .fixed }

end RetryConfig

structure RetrySettings where
  auth : RetryConfig
  fetch : RetryConfig
  batch : RetryConfig
  deriving DecidableEq, Repr

namespace RetrySettings

def defaults : RetrySettings :=
  { auth := .fixed 5 5000, fetch := .exponential 5 120000, batch := .fixed 5 5000 }

def immediate : RetrySettings :=
  { auth := .fixed defaults.auth.maxAttempts 0, fetch := .fixed defaults.fetch.maxAttempts 0,
    batch := .fixed defaults.batch.maxAttempts 0 }

def toJson (r : RetrySettings) : Json :=
  .object [("auth", r.auth.toJson), ("fetch", r.fetch.toJson), ("batch", r.batch.toJson)]

def debugText (r : RetrySettings) : String :=
  "RetrySettings \x7b auth: " ++ r.auth.debugText ++ ", fetch: " ++ r.fetch.debugText ++
    ", batch: " ++ r.batch.debugText ++ " \x7d"

def ofJson (v : Json) : RetrySettings :=
  { auth := RetryConfig.ofJson ((v.field? "auth").getD .null),
    fetch := RetryConfig.ofJson ((v.field? "fetch").getD .null),
    batch := RetryConfig.ofJson ((v.field? "batch").getD .null) }

end RetrySettings

def retryConfigShape : Shape :=
  .record "RetryConfig"
    [.mk "max_attempts" [] (.unsigned "usize" u64Bound) none,
     .mk "delay_ms" [] (.unsigned "u64" u64Bound) none,
     .mk "backoff" [] (.choice ["fixed", "exponential"]) (some (.string "fixed"))]

def retrySettingsShape : Shape :=
  .record "RetrySettings"
    [.mk "auth" [] retryConfigShape (some RetrySettings.defaults.auth.toJson),
     .mk "fetch" [] retryConfigShape (some RetrySettings.defaults.fetch.toJson),
     .mk "batch" [] retryConfigShape (some RetrySettings.defaults.batch.toJson)]

/-- The settings of a service connection. -/
structure ServiceSettings where
  endpoint : String
  clientId : String
  clientSecret : String
  username : String
  password : String
  valueType : DisplayValue
  pageSize : Nat
  batchSize : Nat
  maxBatchRounds : Nat
  requestTimeoutSecs : Nat
  retry : RetrySettings
  deriving DecidableEq, Repr

namespace ServiceSettings

def defaults : ServiceSettings :=
  { endpoint := "", clientId := "", clientSecret := "", username := "", password := "",
    valueType := .actual, pageSize := maxPageSize, batchSize := 200, maxBatchRounds := 10,
    requestTimeoutSecs := 300, retry := RetrySettings.defaults }

def toJson (s : ServiceSettings) : Json :=
  .object [("endpoint", .string s.endpoint), ("client_id", .string s.clientId),
    ("client_secret", .string s.clientSecret), ("username", .string s.username),
    ("password", .string s.password), ("value_type", .string s.valueType.name),
    ("page_size", Json.nat s.pageSize), ("batch_size", Json.nat s.batchSize),
    ("max_batch_rounds", Json.nat s.maxBatchRounds),
    ("request_timeout_secs", Json.nat s.requestTimeoutSecs), ("retry", s.retry.toJson)]

def shape : Shape :=
  let d := defaults.toJson
  let text := fun (key : String) => Field.mk key [] .text (d.field? key)
  let size := fun (key name : String) => Field.mk key [] (.unsigned name u64Bound) (d.field? key)
  .record "ServiceSettings"
    [text "endpoint", text "client_id", text "client_secret", text "username", text "password",
     .mk "value_type" [] (.choice displayValueNames) (d.field? "value_type"),
     size "page_size" "usize", size "batch_size" "usize", size "max_batch_rounds" "usize",
     size "request_timeout_secs" "u64",
     .mk "retry" [] retrySettingsShape (d.field? "retry")]

def ofJson (v : Json) : ServiceSettings :=
  let text := fun (key : String) => ((v.field? key).bind Json.str?).getD ""
  let nat := fun (key : String) => match v.field? key with
    | some (.number (.nat n)) => n
    | _ => 0
  { endpoint := text "endpoint", clientId := text "client_id", clientSecret := text "client_secret",
    username := text "username", password := text "password",
    valueType := DisplayValue.ofName (text "value_type"), pageSize := nat "page_size",
    batchSize := nat "batch_size", maxBatchRounds := nat "max_batch_rounds",
    requestTimeoutSecs := nat "request_timeout_secs",
    retry := RetrySettings.ofJson ((v.field? "retry").getD .null) }

def debugText (s : ServiceSettings) : String :=
  "ServiceSettings \x7b endpoint: " ++ debugQuote s.endpoint ++ ", client_id: " ++ debugQuote s.clientId ++
    ", client_secret: \"<redacted>\", username: " ++ debugQuote s.username ++
    ", password: \"<redacted>\", value_type: " ++ s.valueType.debugName ++ ", page_size: " ++
    toString s.pageSize ++ ", batch_size: " ++ toString s.batchSize ++ ", max_batch_rounds: " ++
    toString s.maxBatchRounds ++ ", request_timeout_secs: " ++ toString s.requestTimeoutSecs ++
    ", retry: " ++ s.retry.debugText ++ " \x7d"

def serviceEndpoint (s : ServiceSettings) : Endpoint := Endpoint.make s.endpoint

def credentials (s : ServiceSettings) : Credentials :=
  { clientId := s.clientId, clientSecret := s.clientSecret, username := s.username, password := s.password }

def requestTimeout (s : ServiceSettings) : Nat := seconds s.requestTimeoutSecs

end ServiceSettings

inductive SettingsError where
  | read (path message : String)
  | parse (cause : DecodeError)
  | invalidEnv (key value : String)
  | validationFailed (violations : List String)

namespace SettingsError

def text : SettingsError → String
  | .read path message => "Failed to read settings file " ++ path ++ ": " ++ message
  | .parse cause => "Failed to parse settings: " ++ cause.text
  | .invalidEnv key value => "Invalid value '" ++ value ++ "' for environment variable " ++ key
  | .validationFailed violations => "Settings validation failed: " ++ "; ".intercalate violations

def kind : SettingsError → String
  | .read .. => "SettingsError::Read"
  | .parse _ => "SettingsError::Parse"
  | .invalidEnv .. => "SettingsError::InvalidEnv"
  | .validationFailed _ => "SettingsError::ValidationFailed"

end SettingsError

def ServiceSettings.parse (text : String) : Except SettingsError ServiceSettings :=
  match ServiceSettings.shape.readText text with
  | .ok v => .ok (ServiceSettings.ofJson v)
  | .error e => .error (.parse e)

def envEndpoint : String := "SERVICENOW_ENDPOINT"
def envClientId : String := "SERVICENOW_CLIENT_ID"
def envClientSecret : String := "SERVICENOW_CLIENT_SECRET"
def envUsername : String := "SERVICENOW_USERNAME"
def envPassword : String := "SERVICENOW_PASSWORD"
def envPageSize : String := "SERVICENOW_PAGE_SIZE"
def envBatchSize : String := "SERVICENOW_BATCH_SIZE"
def envMaxBatchRounds : String := "SERVICENOW_MAX_BATCH_ROUNDS"

def overrideSize (env : EnvContext) (key : String) (current : Nat) : Except SettingsError Nat :=
  match env.get key with
  | none => .ok current
  | some raw =>
    match parseUnsigned raw with
    | some n => .ok n
    | none => .error (.invalidEnv key raw)

def ServiceSettings.applyEnv (s : ServiceSettings) (env : EnvContext) :
    Except SettingsError ServiceSettings := do
  let s := { s with
    endpoint := env.getOr envEndpoint s.endpoint,
    clientId := env.getOr envClientId s.clientId,
    clientSecret := env.getOr envClientSecret s.clientSecret,
    username := env.getOr envUsername s.username,
    password := env.getOr envPassword s.password }
  let pageSize ← overrideSize env envPageSize s.pageSize
  let batchSize ← overrideSize env envBatchSize s.batchSize
  let maxBatchRounds ← overrideSize env envMaxBatchRounds s.maxBatchRounds
  return { s with pageSize, batchSize, maxBatchRounds }

end TableSync
