import TableSync.Json.Value
import TableSync.Text.Debug

/-!
An error of reading JSON is its text and, when it was found in text, its line and column: lines
count from one, and the column counts the bytes read on the line. Faults of the text are
`SyntaxFault`s; a shape mismatch is placed where the reader stands after the value.
-/

namespace TableSync

inductive SyntaxFault where
  | eofWhileParsingList
  | eofWhileParsingObject
  | eofWhileParsingString
  | eofWhileParsingValue
  | expectedColon
  | expectedListCommaOrEnd
  | expectedObjectCommaOrEnd
  | expectedSomeIdent
  | expectedSomeValue
  | invalidEscape
  | invalidNumber
  | numberOutOfRange
  | controlCharacterWhileParsingString
  | keyMustBeAString
  | loneLeadingSurrogateInHexEscape
  | trailingComma
  | trailingCharacters
  | unexpectedEndOfHexEscape
  | recursionLimitExceeded
  deriving DecidableEq, Repr

def SyntaxFault.text : SyntaxFault → String
  | .eofWhileParsingList => "EOF while parsing a list"
  | .eofWhileParsingObject => "EOF while parsing an object"
  | .eofWhileParsingString => "EOF while parsing a string"
  | .eofWhileParsingValue => "EOF while parsing a value"
  | .expectedColon => "expected `:`"
  | .expectedListCommaOrEnd => "expected `,` or `]`"
  | .expectedObjectCommaOrEnd => "expected `,` or `\x7d`"
  | .expectedSomeIdent => "expected ident"
  | .expectedSomeValue => "expected value"
  | .invalidEscape => "invalid escape"
  | .invalidNumber => "invalid number"
  | .numberOutOfRange => "number out of range"
  | .controlCharacterWhileParsingString =>
    "control character (\\u0000-\\u001F) found while parsing a string"
  | .keyMustBeAString => "key must be a string"
  | .loneLeadingSurrogateInHexEscape => "lone leading surrogate in hex escape"
  | .trailingComma => "trailing comma"
  | .trailingCharacters => "trailing characters"
  | .unexpectedEndOfHexEscape => "unexpected end of hex escape"
  | .recursionLimitExceeded => "recursion limit exceeded"

/-- An error of reading a document, with the line and column where it was found when it
was found in text. -/
structure DecodeError where
  message : String
  place : Option (Nat × Nat)
  deriving Inhabited

def DecodeError.text (e : DecodeError) : String :=
  match e.place with
  | some (line, column) => e.message ++ " at line " ++ toString line ++ " column " ++ toString column
  | none => e.message

def placeOf (src : ByteArray) (i : Nat) : Nat × Nat :=
  let step := fun (acc : Nat × Nat) (k : Nat) =>
    if (src[k]?).getD 0 == 10 then (acc.1 + 1, k + 1) else acc
  let (line, start) := (List.range i).foldl step (1, 0)
  (line, i - start)

def faultAt (src : ByteArray) (i : Nat) (fault : SyntaxFault) : DecodeError :=
  { message := fault.text, place := some (placeOf src i) }

/-- A fault found while looking at the byte at index `i`, which is not yet read. -/
def faultAhead (src : ByteArray) (i : Nat) (fault : SyntaxFault) : DecodeError :=
  faultAt src (min src.size (i + 1)) fault

def DecodeError.placeAt (e : DecodeError) (src : ByteArray) (i : Nat) : DecodeError :=
  match e.place with
  | some _ => e
  | none => { e with place := some (placeOf src i) }

inductive Unexpected where
  | bool (value : Bool)
  | unsigned (value : Nat)
  | signed (value : Int)
  | float (value : Float)
  | str (value : String)
  | unit
  | seq
  | map

def Unexpected.text : Unexpected → String
  | .bool b => "boolean `" ++ toString b ++ "`"
  | .unsigned n => "integer `" ++ toString n ++ "`"
  | .signed n => "integer `" ++ toString n ++ "`"
  | .float f => "floating point `" ++ floatPointText f ++ "`"
  | .str s => "string " ++ debugQuote s
  | .unit => "null"
  | .seq => "sequence"
  | .map => "map"

def JsonNumber.unexpected : JsonNumber → Unexpected
  | .nat n => .unsigned n
  | .neg n => .signed n
  | .float f => .float f

def Json.unexpected : Json → Unexpected
  | .null => .unit
  | .bool b => .bool b
  | .number n => n.unexpected
  | .string s => .str s
  | .array _ => .seq
  | .object _ => .map

def invalidType (found : Unexpected) (expected : String) : DecodeError :=
  { message := "invalid type: " ++ found.text ++ ", expected " ++ expected, place := none }

def invalidValue (found : Unexpected) (expected : String) : DecodeError :=
  { message := "invalid value: " ++ found.text ++ ", expected " ++ expected, place := none }

def invalidLength (len : Nat) (expected : String) : DecodeError :=
  { message := "invalid length " ++ toString len ++ ", expected " ++ expected, place := none }

def missingField (name : String) : DecodeError :=
  { message := "missing field `" ++ name ++ "`", place := none }

def duplicateField (name : String) : DecodeError :=
  { message := "duplicate field `" ++ name ++ "`", place := none }

def oneOf (names : List String) : String :=
  let tick := fun (n : String) => "`" ++ n ++ "`"
  match names with
  | [] => ""
  | [a] => tick a
  | [a, b] => tick a ++ " or " ++ tick b
  | _ => "one of " ++ ", ".intercalate (names.map tick)

def unknownVariant (found : String) (names : List String) : DecodeError :=
  { message := "unknown variant `" ++ found ++ "`, expected " ++ oneOf names, place := none }

end TableSync
