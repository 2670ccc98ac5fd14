import TableSync.Text.Host
import TableSync.Text.Unicode

/-!
Every URL of the service derives from its base URL, trimmed and without trailing slashes; table
names and row identifiers are percent-encoded as path segments.
-/

namespace TableSync

def tokenPath : String := "/oauth_token.do"

def tableApiPath : String := "/api/now/table"

def batchApiPath : String := "/api/now/v1/batch"

def tableSchemaPath : String := "/api/now/doc/table/schema"

def totalCountHeader : String := "X-Total-Count"

def dropTrailingSlashes (cs : List Char) : List Char :=
  (cs.reverse.dropWhile (· == '/')).reverse

/-- The base URL of a service instance. -/
structure Endpoint where
  baseUrl : String
  deriving DecidableEq, Repr

namespace Endpoint

def make (base : String) : Endpoint :=
  { baseUrl := String.ofList (dropTrailingSlashes (trimText base).toList) }

def tokenUrl (e : Endpoint) : String := e.baseUrl ++ tokenPath

def tablePath (table : String) : String := tableApiPath ++ "/" ++ percentEncode table

def rowPath (table rowId : String) : String := tablePath table ++ "/" ++ percentEncode rowId

def tableUrl (e : Endpoint) (table : String) : String := e.baseUrl ++ tablePath table

def batchUrl (e : Endpoint) : String := e.baseUrl ++ batchApiPath

def tableSchemaUrl (e : Endpoint) (table : String) : String :=
  e.baseUrl ++ tableSchemaPath ++ "/" ++ percentEncode table

end Endpoint

end TableSync
