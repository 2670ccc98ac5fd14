import TableSync.Model.Date

/-!
A read window is a table, an optional date range and `limit` rows from `offset`; a page holds from
one to `maxPageSize` rows. A table of counted rows is read in the splits `planSplits` gives.
-/

namespace TableSync

def maxPageSize : Nat := 5000

inductive WindowError where
  | invalidRange (start finish : Date)
  | invalidPageSize (limit : Nat)
  deriving DecidableEq, Repr

def WindowError.text : WindowError → String
  | .invalidRange start finish =>
    "Invalid date range: start " ++ start.text ++ " must be before end " ++ finish.text
  | .invalidPageSize limit =>
    "Invalid page size " ++ toString limit ++ ": must be between 1 and " ++ toString maxPageSize

def WindowError.kind : WindowError → String
  | .invalidRange .. => "WindowError::InvalidRange"
  | .invalidPageSize _ => "WindowError::InvalidPageSize"

def validatePageSize (limit : Nat) : Except WindowError Unit :=
  if limit == 0 || limit > maxPageSize then .error (.invalidPageSize limit) else .ok ()

structure DateRange where
  start : Date
  finish : Date
  deriving DecidableEq, Repr

def DateRange.make (start finish : Date) : Except WindowError DateRange :=
  if Date.before start finish then .ok { start, finish } else .error (.invalidRange start finish)

/-- A slice of a table's rows. -/
structure FetchWindow where
  table : String
  range : Option DateRange
  offset : Nat
  limit : Nat
  deriving DecidableEq, Repr

def FetchWindow.make (table : String) (offset limit : Nat) : FetchWindow :=
  { table, range := none, offset, limit }

def FetchWindow.finish (w : FetchWindow) : Nat := (w.offset + w.limit) % Nat.pow 2 64

def FetchWindow.validate (w : FetchWindow) : Except WindowError Unit := validatePageSize w.limit

structure TableSplit where
  table : String
  index : Nat
  offset : Nat
  limit : Nat
  expectedRows : Nat
  range : Option DateRange
  deriving DecidableEq, Repr

namespace TableSplit

def withRange (s : TableSplit) (range : Option DateRange) : TableSplit := { s with range }

def window (s : TableSplit) : FetchWindow := { FetchWindow.make s.table s.offset s.limit with range := s.range }

end TableSplit

def splitCount (recordCount pageSize : Nat) : Nat := (recordCount + pageSize - 1) / pageSize

/-- The splits that read a table of `recordCount` rows `pageSize` at a time. -/
def planSplits (table : String) (recordCount pageSize : Nat) : Except WindowError (List TableSplit) := do
  validatePageSize pageSize
  return (List.range (splitCount recordCount pageSize)).map fun index =>
    { table, index, offset := index * pageSize, limit := pageSize,
      expectedRows := min pageSize (recordCount - index * pageSize), range := none }

end TableSync
