import TableSync.Json.Shape
import TableSync.Model.Records

/-!
A table's columns are guessed from one sampled row, then refined by schema metadata entries.
-/

namespace TableSync

inductive ColumnKind where
  | string
  | integer
  | decimal
  | boolean
  | dateTime
  | reference
  | unknown
  deriving DecidableEq, Repr

def ColumnKind.name : ColumnKind → String
  | .string => "String"
  | .integer => "Integer"
  | .decimal => "Decimal"
  | .boolean => "Boolean"
  | .dateTime => "DateTime"
  | .reference => "Reference"
  | .unknown => "Unknown"

def ColumnKind.ofValue : Json → ColumnKind
  | .string _ => .string
  | .number (.float _) => .decimal
  | .number _ => .integer
  | .bool _ => .boolean
  | .object _ => .reference
  | .null | .array _ => .unknown

def ColumnKind.ofInternalType (internalType : String) : ColumnKind :=
  let t := asciiLower internalType
  if ["integer", "longint", "count"].contains t then .integer
  else if ["decimal", "float", "currency", "price", "percent_complete"].contains t then .decimal
  else if t == "boolean" then .boolean
  else if ["glide_date_time", "glide_date", "due_date", "calendar_date_time"].contains t then .dateTime
  else if ["reference", "document_id"].contains t then .reference
  else if ["string", "guid", "sys_class_name", "journal", "journal_input", "html", "choice",
      "translated_text", "url", "email"].contains t then .string
  else .unknown

inductive ColumnSource where
  | probe
  | metadata
  deriving DecidableEq, Repr

def ColumnSource.name : ColumnSource → String
  | .probe => "Probe"
  | .metadata => "Metadata"

structure Column where
  name : String
  kind : ColumnKind
  ordinal : Nat
  source : ColumnSource
  deriving DecidableEq, Repr

structure TableSchema where
  table : String
  columns : List Column
  deriving DecidableEq, Repr

structure MetadataColumn where
  name : String
  internalType : Option String
  deriving DecidableEq, Repr

def metadataColumnShape : Shape :=
  .record "MetadataColumn"
    [.mk "name" ["value", "element"] .text none,
     .mk "internal_type" ["type"] (.optional .text) (some .null)]

def metadataResponseShape : Shape :=
  .record "MetadataResponse" [.mk "result" [] (.list metadataColumnShape) (some (.array []))]

def MetadataColumn.ofJson (v : Json) : MetadataColumn :=
  { name := ((v.field? "name").bind Json.str?).getD "",
    internalType := (v.field? "internal_type").bind Json.str? }

def metadataColumns : Json → List MetadataColumn
  | .array xs => xs.map MetadataColumn.ofJson
  | _ => []

namespace TableSchema

/-- The columns a sampled row suggests. -/
def fromProbe (table : String) (sample : Option Row) : TableSchema :=
  let fields := (sample.map Row.fields).getD []
  { table,
    columns := (List.range fields.length).zip fields |>.map fun (i, (name, value)) =>
      { name, kind := ColumnKind.ofValue value, ordinal := i, source := .probe } }

def column? (s : TableSchema) (name : String) : Option Column := s.columns.find? (·.name == name)

def columnNames (s : TableSchema) : List String := s.columns.map (·.name)

def isEmpty (s : TableSchema) : Bool := s.columns.isEmpty

/-- `columns` refined by one metadata entry. -/
def mergeColumn (columns : List Column) (entry : MetadataColumn) : List Column :=
  let kind := (entry.internalType.map ColumnKind.ofInternalType).getD .unknown
  if columns.any (·.name == entry.name) then
    let rec update : List Column → List Column
      | [] => []
      | c :: rest =>
        if c.name == entry.name then
          { c with kind := if kind == .unknown then c.kind else kind, source := .metadata } :: rest
        else c :: update rest
    update columns
  else columns ++ [{ name := entry.name, kind, ordinal := columns.length, source := .metadata }]

def mergeMetadata (s : TableSchema) (entries : List MetadataColumn) : TableSchema :=
  { s with columns := entries.foldl mergeColumn s.columns }

end TableSchema

end TableSync
