import TableSync.Http
import TableSync.Model.Window
import TableSync.Json.Error

/-!
Each family of service failures has its message, the name of its kind and whether it is worth
another attempt.
-/

namespace TableSync

inductive AuthError where
  | rejected (status : Nat) (error description : String)
  | unavailable (status : Nat) (body : String)
  | transport (cause : TransportError)
  | invalidResponse (message : String)
  | exhausted (attempts : Nat) (last : AuthError)
  deriving Repr

namespace AuthError

def text : AuthError → String
  | .rejected status error description =>
    "Authentication rejected (HTTP " ++ toString status ++ "): " ++ error ++ ": " ++ description
  | .unavailable status body => "Token endpoint unavailable (HTTP " ++ toString status ++ "): " ++ body
  | .transport cause => "Token endpoint unreachable: " ++ cause.text
  | .invalidResponse message => "Invalid token response: " ++ message
  | .exhausted attempts last =>
    "Token acquisition failed after " ++ toString attempts ++ " attempts: " ++ last.text

def kind : AuthError → String
  | .rejected .. => "AuthError::Rejected"
  | .unavailable .. => "AuthError::Unavailable"
  | .transport _ => "AuthError::Transport"
  | .invalidResponse _ => "AuthError::InvalidResponse"
  | .exhausted .. => "AuthError::Exhausted"

def isTransient : AuthError → Bool
  | .transport _ | .unavailable .. => true
  | _ => false

end AuthError

inductive FetchError where
  | retryable (table : String) (offset : Nat) (message : String)
  | nonRetryable (table : String) (offset status : Nat) (detail : String)
  | auth (cause : AuthError)
  | invalidWindow (cause : WindowError)
  | exhausted (table : String) (start finish attempts : Nat) (last : FetchError)
  deriving Repr

namespace FetchError

def text : FetchError → String
  | .retryable table offset message =>
    "Retryable fetch failure on '" ++ table ++ "' at offset " ++ toString offset ++ ": " ++ message
  | .nonRetryable table offset status detail =>
    "Fetch failed on '" ++ table ++ "' at offset " ++ toString offset ++ " (HTTP " ++
      toString status ++ "): " ++ detail
  | .auth cause => "Authentication failed: " ++ cause.text
  | .invalidWindow cause => "Invalid fetch window: " ++ cause.text
  | .exhausted table start finish attempts last =>
    "I/O failure: rows [" ++ toString start ++ ", " ++ toString finish ++ ") of '" ++ table ++
      "' could not be read after " ++ toString attempts ++ " attempts: " ++ last.text

def kind : FetchError → String
  | .retryable .. => "FetchError::Retryable"
  | .nonRetryable .. => "FetchError::NonRetryable"
  | .auth cause => "FetchError::Auth/" ++ cause.kind
  | .invalidWindow cause => "FetchError::InvalidWindow/" ++ cause.kind
  | .exhausted _ _ _ _ last => "FetchError::Exhausted/" ++ last.kind

def isRetryable : FetchError → Bool
  | .retryable .. => true
  | _ => false

end FetchError

inductive SchemaError where
  | missingIdentifier (table field : String)
  | encode (cause : DecodeError)
  | decode (message : String)

namespace SchemaError

def text : SchemaError → String
  | .missingIdentifier table field => "Update on '" ++ table ++ "' requires the '" ++ field ++ "' field"
  | .encode cause => "Failed to encode request body: " ++ cause.text
  | .decode message => "Failed to decode request body: " ++ message

def kind : SchemaError → String
  | .missingIdentifier .. => "SchemaError::MissingIdentifier"
  | .encode _ => "SchemaError::Encode"
  | .decode _ => "SchemaError::Decode"

end SchemaError

inductive TerminalKind where
  | permissionDenied
  | unrecognized
  deriving DecidableEq, Repr

def TerminalKind.name : TerminalKind → String
  | .permissionDenied => "PermissionDenied"
  | .unrecognized => "Unrecognized"

/-- A failure of a batch write. -/
inductive BatchError where
  | retryable (batchId message : String)
  | terminal (table requestId : String) (status : Nat) (kind : TerminalKind) (detail : String)
  | auth (cause : AuthError)
  | schema (cause : SchemaError)
  | duplicateRequestId (id : String)
  | invalidResponse (batchId message : String)
  | roundsExhausted (table : String) (rounds pending : Nat)
  | retriesExhausted (table : String) (attempts : Nat) (last : BatchError)

namespace BatchError

def text : BatchError → String
  | .retryable batchId message => "Retryable batch failure (" ++ batchId ++ "): " ++ message
  | .terminal table requestId status _ detail =>
    "Batch write to '" ++ table ++ "' aborted by request " ++ requestId ++ " (HTTP " ++
      toString status ++ "): " ++ detail
  | .auth cause => "Authentication failed: " ++ cause.text
  | .schema cause => "Schema error: " ++ cause.text
  | .duplicateRequestId id => "Duplicate request id in batch: " ++ id
  | .invalidResponse batchId message => "Invalid batch response (" ++ batchId ++ "): " ++ message
  | .roundsExhausted table rounds pending =>
    "Batch write to '" ++ table ++ "' still had " ++ toString pending ++ " pending requests after " ++
      toString rounds ++ " rounds"
  | .retriesExhausted table attempts last =>
    "Batch write to '" ++ table ++ "' failed after " ++ toString attempts ++ " attempts: " ++ last.text

def kind : BatchError → String
  | .retryable .. => "BatchError::Retryable"
  | .terminal _ _ _ k _ => "BatchError::Terminal(" ++ k.name ++ ")"
  | .auth cause => "BatchError::Auth/" ++ cause.kind
  | .schema cause => "BatchError::Schema/" ++ cause.kind
  | .duplicateRequestId _ => "BatchError::DuplicateRequestId"
  | .invalidResponse .. => "BatchError::InvalidResponse"
  | .roundsExhausted .. => "BatchError::RoundsExhausted"
  | .retriesExhausted _ _ last => "BatchError::RetriesExhausted/" ++ last.kind

def isRetryable : BatchError → Bool
  | .retryable .. => true
  | _ => false

end BatchError

inductive ConnectorError where
  | auth (cause : AuthError)
  | fetch (cause : FetchError)
  | schema (cause : SchemaError)
  | batch (cause : BatchError)
  | transport (cause : TransportError)

namespace ConnectorError

def text : ConnectorError → String
  | .auth c => "Authentication error: " ++ c.text
  | .fetch c => "Fetch error: " ++ c.text
  | .schema c => "Schema error: " ++ c.text
  | .batch c => "Batch write error: " ++ c.text
  | .transport c => "Transport error: " ++ c.text

def kind : ConnectorError → String
  | .auth c => "ConnectorError::Auth/" ++ c.kind
  | .fetch c => "ConnectorError::Fetch/" ++ c.kind
  | .schema c => "ConnectorError::Schema/" ++ c.kind
  | .batch c => "ConnectorError::Batch/" ++ c.kind
  | .transport _ => "ConnectorError::Transport"

def isRetryable : ConnectorError → Bool
  | .auth c => c.isTransient
  | .fetch c => c.isRetryable
  | .batch c => c.isRetryable
  | .schema _ => false
  | .transport _ => true

end ConnectorError

end TableSync
