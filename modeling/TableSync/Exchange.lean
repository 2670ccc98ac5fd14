import TableSync.Http
import TableSync.Service.Endpoint

/-!
The service is modelled by the replies it will give, in order, so a run is a function of its script.
Token requests take the next token reply (by default a `200` with `mock-access-token`), other
requests the next reply (by default a connection failure), and every request is recorded.
-/

namespace TableSync

inductive Reply where
  | fixed (answer : Except TransportError HttpResponse)
  | computed (answer : HttpRequest → Except TransportError HttpResponse)

/-- The state of a scripted exchange. -/
structure Exchange where
  tokenReplies : List (Except TransportError HttpResponse)
  replies : List Reply
  sent : Array HttpRequest
  issued : Nat

abbrev Net := StateM Exchange

def defaultToken : String := "mock-access-token"

def defaultTokenReply : HttpResponse :=
  HttpResponse.make 200
    ("\x7b\"access_token\":\"" ++ defaultToken ++ "\",\"token_type\":\"Bearer\"\x7d")

def isTokenUrl (url : String) : Bool := url.endsWith tokenPath

namespace Exchange

def make (tokenReplies : List (Except TransportError HttpResponse)) (replies : List Reply) :
    Exchange :=
  { tokenReplies, replies, sent := #[], issued := 0 }

def answer (ex : Exchange) (req : HttpRequest) : Except TransportError HttpResponse × Exchange :=
  let ex := { ex with sent := ex.sent.push req }
  if isTokenUrl req.url then
    match ex.tokenReplies with
    | r :: rest => (r, { ex with tokenReplies := rest })
    | [] => (.ok defaultTokenReply, ex)
  else
    match ex.replies with
    | .fixed r :: rest => (r, { ex with replies := rest })
    | .computed f :: rest => (f req, { ex with replies := rest })
    | [] => (.error (.connection ("no scripted reply for " ++ req.url)), ex)

def serviceRequests (ex : Exchange) : List HttpRequest :=
  ex.sent.toList.filter fun r => !isTokenUrl r.url

def tokenRequests (ex : Exchange) : Nat :=
  (ex.sent.toList.filter fun r => isTokenUrl r.url).length

end Exchange

def send (req : HttpRequest) : Net (Except TransportError HttpResponse) :=
  modifyGet fun ex => ex.answer req

def hex12 (n : Nat) : String :=
  let digit (d : Nat) : Char := if d < 10 then Char.ofNat (48 + d) else Char.ofNat (87 + d)
  String.ofList ((List.range 12).reverse.map fun k => digit (n / Nat.pow 16 k % 16))

def uuidOf (n : Nat) : String := "00000000-0000-4000-8000-" ++ hex12 n

def freshId : Net String :=
  modifyGet fun ex => (uuidOf (ex.issued + 1), { ex with issued := ex.issued + 1 })

end TableSync
