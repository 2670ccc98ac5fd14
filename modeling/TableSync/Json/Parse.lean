import TableSync.Json.Lexer

/-!
`Json.parse` reads a whole document; objects and arrays nest at most 127 deep, and a repeated key
keeps its first place and its last value. `skipValue` passes over a value with no nesting bound.
Fuel of twice the text's length bounds the recursion.
-/

namespace TableSync

open Lexer

def nestingBudget : Nat := 128

def fuelFor (src : ByteArray) : Nat := 2 * src.size + 8

mutual
/-- Read one value at `pos` (after blanks) with `depth` nesting levels left. -/
def parseValue (src : ByteArray) : Nat → Nat → Nat → Except DecodeError (Json × Nat)
  | 0, _, pos => .error (faultAt src pos .eofWhileParsingValue)
  | fuel + 1, depth, pos =>
    let pos := skipBlanks src pos
    match peek src pos with
    | none => .error (faultAhead src pos .eofWhileParsingValue)
    | some c =>
      if c == 110 then (readWord src (pos + 1) [117, 108, 108]).map fun p => (.null, p)
      else if c == 116 then (readWord src (pos + 1) [114, 117, 101]).map fun p => (.bool true, p)
      else if c == 102 then (readWord src (pos + 1) [97, 108, 115, 101]).map fun p => (.bool false, p)
      else if c == 45 then (readNumber src (pos + 1) false).map fun (n, p) => (.number n, p)
      else if isDigit c then (readNumber src pos true).map fun (n, p) => (.number n, p)
      else if c == 34 then (readString src (pos + 1)).map fun (s, p) => (.string s, p)
      else if c == 91 then
        if depth ≤ 1 then .error (faultAhead src pos .recursionLimitExceeded)
        else (parseItems src fuel (depth - 1) (pos + 1) true []).map fun (xs, p) => (.array xs, p)
      else if c == 123 then
        if depth ≤ 1 then .error (faultAhead src pos .recursionLimitExceeded)
        else (parseMembers src fuel (depth - 1) (pos + 1) true []).map fun (fs, p) => (.object fs, p)
      else .error (faultAhead src pos .expectedSomeValue)

def parseItems (src : ByteArray) : Nat → Nat → Nat → Bool → List Json →
    Except DecodeError (List Json × Nat)
  | 0, _, pos, _, _ => .error (faultAt src pos .eofWhileParsingList)
  | fuel + 1, depth, pos, first, acc =>
    let pos := skipBlanks src pos
    match peek src pos with
    | none => .error (faultAhead src pos .eofWhileParsingList)
    | some 93 => .ok (acc.reverse, pos + 1)
    | some c =>
      let start : Except DecodeError Nat :=
        if first then .ok pos
        else if c == 44 then
          let q := skipBlanks src (pos + 1)
          match peek src q with
          | some 93 => .error (faultAhead src q .trailingComma)
          | some _ => .ok q
          | none => .error (faultAhead src q .eofWhileParsingValue)
        else .error (faultAhead src pos .expectedListCommaOrEnd)
      match start with
      | .error e => .error e
      | .ok q =>
        match parseValue src fuel depth q with
        | .ok (v, r) => parseItems src fuel depth r false (v :: acc)
        | .error e => .error e

def parseMembers (src : ByteArray) : Nat → Nat → Nat → Bool → List (String × Json) →
    Except DecodeError (List (String × Json) × Nat)
  | 0, _, pos, _, _ => .error (faultAt src pos .eofWhileParsingObject)
  | fuel + 1, depth, pos, first, acc =>
    let pos := skipBlanks src pos
    match peek src pos with
    | none => .error (faultAhead src pos .eofWhileParsingObject)
    | some 125 => .ok (acc, pos + 1)
    | some c =>
      let start : Except DecodeError Nat :=
        if c == 44 && !first then .ok (skipBlanks src (pos + 1))
        else if first then .ok pos
        else .error (faultAhead src pos .expectedObjectCommaOrEnd)
      match start with
      | .error e => .error e
      | .ok k =>
        match readKey src k with
        | .error e => .error e
        | .ok (key, r) =>
          match readColon src r with
          | .error e => .error e
          | .ok q =>
            match parseValue src fuel depth q with
            | .ok (v, r) => parseMembers src fuel depth r false (Json.setField acc key v)
            | .error e => .error e

def readKey (src : ByteArray) (k : Nat) : Except DecodeError (String × Nat) :=
  match peek src k with
  | some 34 => readString src (k + 1)
  | some 125 => .error (faultAhead src k .trailingComma)
  | some _ => .error (faultAhead src k .keyMustBeAString)
  | none => .error (faultAhead src k .eofWhileParsingValue)

def readColon (src : ByteArray) (r : Nat) : Except DecodeError Nat :=
  let r := skipBlanks src r
  match peek src r with
  | some 58 => .ok (r + 1)
  | some _ => .error (faultAhead src r .expectedColon)
  | none => .error (faultAhead src r .eofWhileParsingObject)
end

mutual
def skipValue (src : ByteArray) : Nat → Nat → Except DecodeError Nat
  | 0, pos => .error (faultAt src pos .eofWhileParsingValue)
  | fuel + 1, pos =>
    let pos := skipBlanks src pos
    match peek src pos with
    | none => .error (faultAhead src pos .eofWhileParsingValue)
    | some c =>
      if c == 110 then readWord src (pos + 1) [117, 108, 108]
      else if c == 116 then readWord src (pos + 1) [114, 117, 101]
      else if c == 102 then readWord src (pos + 1) [97, 108, 115, 101]
      else if c == 45 then skipNumber src (pos + 1)
      else if isDigit c then skipNumber src pos
      else if c == 34 then skipString src (pos + 1)
      else if c == 91 then skipItems src fuel (pos + 1) false
      else if c == 123 then skipMembers src fuel (pos + 1) false
      else .error (faultAhead src pos .expectedSomeValue)

def skipItems (src : ByteArray) : Nat → Nat → Bool → Except DecodeError Nat
  | 0, pos, _ => .error (faultAt src pos .eofWhileParsingList)
  | fuel + 1, pos, afterItem =>
    let pos := skipBlanks src pos
    match peek src pos with
    | none => .error (faultAhead src pos .eofWhileParsingList)
    | some 93 => .ok (pos + 1)
    | some c =>
      if afterItem then
        if c == 44 then
          match skipValue src fuel (pos + 1) with
          | .ok r => skipItems src fuel r true
          | .error e => .error e
        else .error (faultAhead src pos .expectedListCommaOrEnd)
      else
        match skipValue src fuel pos with
        | .ok r => skipItems src fuel r true
        | .error e => .error e

def skipMembers (src : ByteArray) : Nat → Nat → Bool → Except DecodeError Nat
  | 0, pos, _ => .error (faultAt src pos .eofWhileParsingObject)
  | fuel + 1, pos, afterMember =>
    let pos := skipBlanks src pos
    match peek src pos with
    | none => .error (faultAhead src pos .eofWhileParsingObject)
    | some 125 => .ok (pos + 1)
    | some c =>
      let keyAt : Except DecodeError Nat :=
        if afterMember then
          if c == 44 then .ok (skipBlanks src (pos + 1))
          else .error (faultAhead src pos .expectedObjectCommaOrEnd)
        else .ok pos
      match keyAt with
      | .error e => .error e
      | .ok k =>
        match peek src k with
        | some 34 =>
          match skipString src (k + 1) with
          | .error e => .error e
          | .ok r =>
            match readColon src r with
            | .error e => .error e
            | .ok q =>
              match skipValue src fuel q with
              | .ok r => skipMembers src fuel r true
              | .error e => .error e
        | some _ => .error (faultAhead src k .keyMustBeAString)
        | none => .error (faultAhead src k .eofWhileParsingObject)
end

def expectEnd (src : ByteArray) (pos : Nat) : Except DecodeError Unit :=
  let pos := skipBlanks src pos
  match peek src pos with
  | some _ => .error (faultAhead src pos .trailingCharacters)
  | none => .ok ()

/-- Read a whole JSON document. -/
def Json.parse (text : String) : Except DecodeError Json :=
  let src := text.toUTF8
  match parseValue src (fuelFor src) nestingBudget 0 with
  | .error e => .error e
  | .ok (v, pos) =>
    match expectEnd src pos with
    | .ok () => .ok v
    | .error e => .error e

end TableSync
