import TableSync.Json.Shape
import TableSync.Service.Errors
import TableSync.Model.Records

/-!
A response is judged by its status and the failure its body reports; four signatures in a failure's
text, ignoring ASCII case, decide between a retry, a dropped record and a terminal failure.
-/

namespace TableSync

def executionBudgetSignature : String := "maximum execution time exceeded"

def aclDenialSignature : String := "ACL Exception"

def duplicateInsertSignature : String := "Unique Key violation detected by database"

def missingTargetSignature : String := "No Record found"

structure ServiceFailure where
  message : Option String
  detail : Option String
  deriving DecidableEq, Repr

namespace ServiceFailure

def messageOrEmpty (f : ServiceFailure) : String := f.message.getD ""

def mentions (f : ServiceFailure) (signature : String) : Bool :=
  let needle := asciiLower signature
  [f.message, f.detail].any fun text =>
    match text with
    | some t => containsText (asciiLower t) needle
    | none => false

def exceededExecutionBudget (f : ServiceFailure) : Bool := f.mentions executionBudgetSignature

def describe (f : ServiceFailure) (status : Nat) : String :=
  let message := f.messageOrEmpty
  match f.detail.filter (fun d => !d.isEmpty) with
  | none => if message.isEmpty then "HTTP " ++ toString status else message
  | some detail => if message.isEmpty then detail else message ++ ": " ++ detail

end ServiceFailure

def jsonText : Json → Option String
  | .null => none
  | .string s => some s
  | other => some other.render

def ServiceFailure.ofJson : Json → ServiceFailure
  | .string s => { message := some s, detail := none }
  | .object fields =>
    { message := (Json.lookup fields "message").bind jsonText,
      detail := (Json.lookup fields "detail").bind jsonText }
  | .null => { message := none, detail := none }
  | other => { message := some other.render, detail := none }

def failureEnvelopeShape : Shape :=
  .record "ErrorEnvelope"
    [.mk "status" [] (.optional .value) (some .null), .mk "error" [] (.optional .value) (some .null)]

/-- The failure a response body reports, if any. -/
def embeddedFailure (body : String) : Option ServiceFailure :=
  match failureEnvelopeShape.readText body with
  | .error _ => none
  | .ok envelope =>
    let failed :=
      match envelope.field? "status" with
      | some (.string s) => sameIgnoringAsciiCase s "failure"
      | _ => false
    match envelope.field? "error" with
    | none | some .null => if failed then some { message := none, detail := none } else none
    | some e => some (ServiceFailure.ofJson e)

inductive Classification where
  | success
  | retryable (failure : ServiceFailure)
  | dropped (reason : DropReason) (failure : ServiceFailure)
  | terminal (kind : TerminalKind) (detail : String)
  deriving DecidableEq, Repr

def snippet (body : String) : String := String.ofList ((trimText body).toList.take 512)

def isSuccessStatus (status : Nat) : Bool := 200 ≤ status && status < 300

/-- What a response to a read means. -/
def classifyRead (status : Nat) (body : String) : Classification :=
  let success := isSuccessStatus status
  match embeddedFailure body with
  | none =>
    if success then .success else .terminal .unrecognized ("HTTP " ++ toString status ++ ": " ++ snippet body)
  | some failure =>
    if success && failure.exceededExecutionBudget then .retryable failure
    else
      .terminal (if failure.mentions aclDenialSignature then .permissionDenied else .unrecognized)
        (failure.describe status)

def classifyWrite (status : Nat) (body : String) : Classification :=
  if isSuccessStatus status then .success
  else
    let failure := (embeddedFailure body).getD
      { message := none, detail := if (trimText body).isEmpty then none else some (snippet body) }
    if failure.mentions aclDenialSignature then .terminal .permissionDenied (failure.describe status)
    else if failure.mentions duplicateInsertSignature then .dropped .duplicateInsert failure
    else if failure.mentions missingTargetSignature then .dropped .missingUpdateTarget failure
    else if failure.exceededExecutionBudget then .retryable failure
    else .terminal .unrecognized (failure.describe status)

end TableSync
