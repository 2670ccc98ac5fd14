import TableSync.Service.Endpoint
import TableSync.Model.Window

/-!
The URL of a page read: `limit` rows from `offset`, the value type of reference fields, and a date
range as a created-or-updated filter.
-/

namespace TableSync

inductive DisplayValue where
  | actual
  | display
  | all
  deriving DecidableEq, Repr

def displayValueNames : List String := ["actual", "display", "all"]

def DisplayValue.ofName : String → DisplayValue
  | "display" => .display
  | "all" => .all
  | _ => .actual

def DisplayValue.name : DisplayValue → String
  | .actual => "actual"
  | .display => "display"
  | .all => "all"

def DisplayValue.debugName : DisplayValue → String
  | .actual => "Actual"
  | .display => "Display"
  | .all => "All"

def DisplayValue.param : DisplayValue → String
  | .actual => "false"
  | .display => "true"
  | .all => "all"

def createdField : String := "sys_created_on"

def updatedField : String := "sys_updated_on"

def dateFilter (range : DateRange) : String :=
  let start := range.start.text
  let finish := range.finish.text
  let block := fun (field : String) =>
    field ++ ">=javascript:gs.dateGenerate('" ++ start ++ "','00:00:00')^" ++ field ++
      "<javascript:gs.dateGenerate('" ++ finish ++ "','00:00:00')"
  block createdField ++ "^NQ" ++ block updatedField

/-- The URL reading one window of a table. -/
def tableReadUrl (e : Endpoint) (w : FetchWindow) (shown : DisplayValue) : String :=
  let base := e.tableUrl w.table ++ "?sysparm_offset=" ++ toString w.offset ++ "&sysparm_limit=" ++
    toString w.limit ++ "&sysparm_display_value=" ++ shown.param ++
    "&sysparm_exclude_reference_link=true"
  match w.range with
  | some range => base ++ "&sysparm_query=" ++ percentEncode (dateFilter range)
  | none => base

end TableSync
