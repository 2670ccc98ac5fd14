import TableSync.Settings.Config
import TableSync.Text.Url

/-!
Every settings rule is checked and every violation reported, in the rules' order.
-/

namespace TableSync

namespace ServiceSettings

def endpointViolations (s : ServiceSettings) : List String :=
  let endpoint := trimText s.endpoint
  if endpoint.isEmpty then ["endpoint is required"]
  else
    match urlScheme endpoint with
    | .ok scheme =>
      if scheme == "http" || scheme == "https" then []
      else ["endpoint must use http or https, got '" ++ scheme ++ "'"]
    | .error p => ["endpoint '" ++ endpoint ++ "' is not a valid URL: " ++ p.text]

def credentialViolations (s : ServiceSettings) : List String :=
  [("client_id", s.clientId), ("client_secret", s.clientSecret), ("username", s.username),
    ("password", s.password)].filterMap fun (name, value) =>
    if (trimText value).isEmpty then some (name ++ " is required") else none

def sizeViolations (s : ServiceSettings) : List String :=
  (match validatePageSize s.pageSize with
    | .error e => ["page_size: " ++ e.text]
    | .ok () => []) ++
  (if s.batchSize == 0 then ["batch_size must be at least 1"] else []) ++
  (if s.maxBatchRounds == 0 then ["max_batch_rounds must be at least 1"] else []) ++
  (if s.requestTimeoutSecs == 0 then ["request_timeout_secs must be at least 1"] else [])

def retryViolations (s : ServiceSettings) : List String :=
  [("retry.auth", s.retry.auth), ("retry.fetch", s.retry.fetch), ("retry.batch", s.retry.batch)].filterMap
    fun (name, c) => if c.maxAttempts == 0 then some (name ++ ".max_attempts must be at least 1") else none

def violations (s : ServiceSettings) : List String :=
  s.endpointViolations ++ s.credentialViolations ++ s.sizeViolations ++ s.retryViolations

/-- The settings pass when nothing is violated. -/
def validate (s : ServiceSettings) : Except SettingsError Unit :=
  match s.violations with
  | [] => .ok ()
  | vs => .error (.validationFailed vs)

def load (text : String) (env : EnvContext) : Except SettingsError ServiceSettings := do
  let s ← ServiceSettings.parse text
  let s ← s.applyEnv env
  s.validate
  return s

end ServiceSettings

end TableSync
