import TableSync.Http
import TableSync.Text.Url
import TableSync.Text.Base64

/-!
An HTTP client against a loopback server that answers each connection with its next scripted reply.
The client builds and sends requests as a general HTTP client does, follows at most ten redirects,
and keeps the authorization only on the same host and port.
-/

namespace TableSync

inductive ServerReply where
  | respond (status : Nat) (headers : List (String × String)) (body : String)
  | drop

structure ReceivedRequest where
  method : String
  path : String
  contentType : Option String
  accept : Option String
  authorization : Option String
  body : String

structure Loopback where
  replies : List ServerReply
  received : Array ReceivedRequest

def loopbackPort : Nat := 65535

def loopbackBase : String := "http://127.0.0.1:" ++ toString loopbackPort

def isTokenChar (c : Char) : Bool := c.isAlphanum || "!#$%&'*+-.^_|~".toList.contains c || c.toNat == 96

def validHeader (name value : String) : Bool :=
  !name.isEmpty && name.all isTokenChar &&
    value.all fun c => (c.toNat ≥ 32 && c.toNat != 127) || c == '\t'

structure WireRequest where
  method : HttpMethod
  url : Url
  headers : List (String × String)
  body : String

def firstHeader (headers : List (String × String)) (name : String) : Option String :=
  (headers.find? fun (n, _) => asciiLower n == name).map (·.2)

def formBody (fields : List (String × String)) : String :=
  "&".intercalate (fields.map fun (n, v) => formEncode n ++ "=" ++ formEncode v)

def wireRequest (req : HttpRequest) (url : Url) : WireRequest :=
  let headers := req.headers ++ ((req.bearer.map fun t => [("Authorization", "Bearer " ++ t)]).getD [])
  let withType := fun (kind : String) =>
    if (firstHeader headers "content-type").isSome then headers else headers ++ [("Content-Type", kind)]
  match req.body with
  | .empty => { method := req.method, url, headers, body := "" }
  | .json v => { method := req.method, url, headers := withType "application/json", body := v.render }
  | .form fs => { method := req.method, url, headers := withType "application/x-www-form-urlencoded", body := formBody fs }

def loopbackAddress : Nat := 0x7F000001

def basicAuthorization (user : String) (pass : Option String) : String :=
  "Basic " ++ base64Encode (user ++ ":" ++ pass.getD "").toUTF8

def reachesServer (u : Url) : Bool := u.host == some (.ipv4 loopbackAddress) && u.port == some loopbackPort

def sendingFailure (u : Url) : String := "error sending request for url (" ++ u.text ++ ")"

def isRedirect (status : Nat) : Bool := [301, 302, 303, 307, 308].contains status

def resolveLocation (base : Url) (loc : String) : Option Url := (base.join loc).toOption

def bodyHeaders : List String := ["content-type", "content-length", "content-encoding", "transfer-encoding"]

def redirected (w : WireRequest) (status : Nat) (next : Url) : WireRequest :=
  let sameHost := next.host == w.url.host &&
    (next.port <|> defaultPort next.scheme) == (w.url.port <|> defaultPort w.url.scheme)
  let headers := if sameHost then w.headers else w.headers.filter fun (n, _) => asciiLower n != "authorization"
  if status == 307 || status == 308 then { w with url := next, headers }
  else
    { method := .get, url := next, body := "",
      headers := headers.filter fun (n, _) =>
        !bodyHeaders.contains (asciiLower n) }

def replyHeaders (headers : List (String × String)) (body : String) : List (String × String) :=
  let all := headers ++ [("content-length", toString body.utf8ByteSize), ("connection", "close")]
  (all.foldl (fun r (n, v) => r.withHeader n v) (HttpResponse.make 0 "")).headers

def deliver : Nat → WireRequest → StateM Loopback (Except String HttpResponse)
  | hops, w => do
    if !reachesServer w.url then return .error (sendingFailure w.url)
    let server ← get
    match server.replies with
    | [] => return .error (sendingFailure w.url)
    | reply :: rest =>
      let seen : ReceivedRequest :=
        { method := w.method.name, path := w.url.target, contentType := firstHeader w.headers "content-type",
          accept := firstHeader w.headers "accept", authorization := firstHeader w.headers "authorization",
          body := w.body }
      set { server with replies := rest, received := server.received.push seen }
      match reply with
      | .drop => return .error (sendingFailure w.url)
      | .respond status headers body =>
        let response : HttpResponse :=
          { status, headers := replyHeaders headers body,
            body := if status == 204 || status == 304 then "" else body }
        match (if isRedirect status then (response.header "location").bind (resolveLocation w.url) else none) with
        | none => return .ok response
        | some next =>
          match hops with
          | 0 => return .error ("error following redirect for url (" ++ w.url.text ++ ")")
          | hops + 1 => deliver hops (redirected w status next)

/-- Send a request to its URL. -/
def sendLoopback (req : HttpRequest) : StateM Loopback (Except String HttpResponse) := do
  match Url.parse req.url with
  | .error _ => return .error "builder error"
  | .ok parsed =>
    if !parsed.hasHost then return .error ("builder error for url (" ++ parsed.text ++ ")")
    let (u, credentials) := parsed.takeCredentials
    let basic := credentials.map fun (user, pass) => ("Authorization", basicAuthorization user pass)
    if !req.headers.all (fun (n, v) => validHeader n v) || !(req.bearer.all fun t => validHeader "Authorization" ("Bearer " ++ t))
    then return .error "builder error"
    if u.scheme != "http" && u.scheme != "https" then
      return .error ("builder error for url (" ++ u.text ++ ")")
    deliver 10 (wireRequest { req with headers := basic.toList ++ req.headers } u)

def sortedHeaders (r : HttpResponse) : List (String × String) :=
  r.headers.mergeSort fun a b => decide (a.1 ≤ b.1)

end TableSync
