import TableSync.Exchange
import TableSync.Retry
import TableSync.Json.Shape
import TableSync.Service.Errors
import TableSync.Text.Debug

/-!
Token exchange: a password grant to the token endpoint for every request. Statuses of 429 and from
500 up are transient and retried as the auth policy allows; any other failure is a rejection.
-/

namespace TableSync

structure Credentials where
  clientId : String
  clientSecret : String
  username : String
  password : String
  deriving DecidableEq, Repr

def Credentials.debugText (c : Credentials) : String :=
  "Credentials \x7b client_id: " ++ debugQuote c.clientId ++ ", client_secret: \"***\", username: " ++
    debugQuote c.username ++ ", password: \"***\" \x7d"

structure AccessToken where
  token : String
  deriving DecidableEq, Repr

def AccessToken.debugText (_ : AccessToken) : String := "AccessToken(***)"

def tokenResponseShape : Shape :=
  .record "TokenResponse" [.mk "access_token" [] (.optional .text) none]

def tokenRefusalShape : Shape :=
  .record "TokenErrorBody"
    [.mk "error" [] (.optional .text) none, .mk "error_description" [] (.optional .text) none]

def readTokenReply (r : HttpResponse) : Except AuthError AccessToken :=
  if r.isSuccess then
    match tokenResponseShape.readText r.body with
    | .error e => .error (.invalidResponse e.text)
    | .ok v =>
      match v.field? "access_token" with
      | some (.string t) =>
        if t.isEmpty then .error (.invalidResponse "response carries no access_token") else .ok ⟨t⟩
      | _ => .error (.invalidResponse "response carries no access_token")
  else if r.status == 429 || r.status ≥ 500 then .error (.unavailable r.status r.body)
  else
    let refusal := match tokenRefusalShape.readText r.body with
      | .ok v => v
      | .error _ => .null
    let text := fun (key : String) => (refusal.field? key).bind Json.str?
    .error (.rejected r.status ((text "error").getD "unknown_error") ((text "error_description").getD ""))

structure TokenProvider where
  endpoint : Endpoint
  credentials : Credentials
  retry : RetryPolicy

namespace TokenProvider

def grantRequest (p : TokenProvider) : HttpRequest :=
  HttpRequest.postForm p.endpoint.tokenUrl
    [("grant_type", "password"), ("client_id", p.credentials.clientId),
      ("client_secret", p.credentials.clientSecret), ("username", p.credentials.username),
      ("password", p.credentials.password)]

def acquire (p : TokenProvider) : Net (Except AuthError AccessToken) := do
  match ← send p.grantRequest with
  | .error e => pure (.error (.transport e))
  | .ok r => pure (readTokenReply r)

/-- Exchange the credentials for a token, trying again after transient failures. -/
def acquireWithRetry (p : TokenProvider) : Net (Except AuthError AccessToken) := do
  let result ← p.retry.run p.acquire fun e => if e.isTransient then .retry else .stop
  pure <| match result with
    | .ok t => .ok t
    | .error (.fatal e) => .error e
    | .error (.attemptsExceeded attempts last) => .error (.exhausted attempts last)

end TokenProvider

structure ServiceClient where
  endpoint : Endpoint
  tokens : TokenProvider

namespace ServiceClient

def make (endpoint : Endpoint) (credentials : Credentials) (authRetry : RetryPolicy) : ServiceClient :=
  { endpoint, tokens := { endpoint, credentials, retry := authRetry } }

def authorize (c : ServiceClient) (req : HttpRequest) : Net (Except AuthError HttpRequest) := do
  match ← c.tokens.acquireWithRetry with
  | .ok t => pure (.ok (req.withBearer t.token))
  | .error e => pure (.error e)

end ServiceClient

end TableSync
