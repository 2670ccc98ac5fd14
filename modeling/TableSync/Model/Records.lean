import TableSync.Json.Value
import TableSync.Text.Unicode

/-!
A row carries its table and its fields in the order the service sent them; a page is the rows of one
window, and a skipped record is a write refused for a reason that does not stop the batch.
-/

namespace TableSync

def rowIdField : String := "sys_id"

/-- A row of a table. -/
structure Row where
  entity : String
  fields : List (String × Json)
  deriving Inhabited

namespace Row

def get (r : Row) (name : String) : Option Json := Json.lookup r.fields name

def getStr (r : Row) (name : String) : Option String := (r.get name).bind Json.str?

def insert (r : Row) (name : String) (value : Json) : Row :=
  { r with fields := Json.setField r.fields name value }

def rowId (r : Row) : Option String :=
  (r.getStr rowIdField).filter fun id => !(trimText id).isEmpty

def columnNames (r : Row) : List String := r.fields.map (·.1)

def sizeBytes (r : Row) : Nat := (Json.render (.object r.fields)).utf8ByteSize

end Row

structure Page where
  rows : List Row
  offset : Nat
  rowCount : Nat
  reachedEnd : Bool

def Page.make (rows : List Row) (offset limit : Nat) : Page :=
  { rows, offset, rowCount := rows.length, reachedEnd := rows.length < limit }

def Page.isEmpty (p : Page) : Bool := p.rows.isEmpty

inductive DropReason where
  | duplicateInsert
  | missingUpdateTarget
  deriving DecidableEq, Repr

def DropReason.name : DropReason → String
  | .duplicateInsert => "DuplicateInsert"
  | .missingUpdateTarget => "MissingUpdateTarget"

def DropReason.text : DropReason → String
  | .duplicateInsert => "duplicate insert"
  | .missingUpdateTarget => "missing update target"

structure SkippedRecord where
  requestId : String
  table : String
  reason : DropReason
  statusCode : Nat
  message : String
  detail : Option String
  deriving DecidableEq, Repr

end TableSync
