import TableSync.Json.Parse

/-!
A `Shape` says what a document must hold. Reading a document as a shape fails at the first mismatch
or answers the value in normal form, a record with every field in order; `decodeAt` reads text and
`decodeValue` a built value.
-/

namespace TableSync

mutual
/-- What a document must hold. -/
inductive Shape where
  | value
  | text
  | unsigned (name : String) (bound : Nat)
  | optional (inner : Shape)
  | list (item : Shape)
  | choice (names : List String)
  | record (name : String) (fields : List Field)

/-- A field of a record: its name, other names it is known under, its shape, and the
value it takes when absent, if it has one. -/
inductive Field where
  | mk (name : String) (aliases : List String) (shape : Shape) (fallback : Option Json)
end

namespace Field

def name : Field → String
  | .mk n _ _ _ => n

def answersTo (f : Field) (key : String) : Bool :=
  match f with
  | .mk n aliases _ _ => n == key || aliases.contains key

def shape : Field → Shape
  | .mk _ _ s _ => s

def fallback : Field → Option Json
  | .mk _ _ _ d => d

def whenAbsent (f : Field) : Option Json :=
  match f.fallback, f.shape with
  | some d, _ => some d
  | none, .optional _ => some .null
  | none, _ => none

end Field

def fieldIndex (fields : List Field) (key : String) : Option Nat :=
  fields.findIdx? fun f => f.answersTo key

def recordArity (name : String) (n : Nat) : String :=
  "struct " ++ name ++ " with " ++ toString n ++ (if n == 1 then " element" else " elements")

def completeRecord (fields : List Field) (slots : List (Option Json)) :
    Except DecodeError Json := do
  let pairs ← (fields.zip slots).mapM fun (f, slot) =>
    match slot with
    | some v => pure (f.name, v)
    | none =>
      match f.whenAbsent with
      | some d => pure (f.name, d)
      | none => throw (missingField f.name)
  return .object pairs

def setSlot (slots : List (Option Json)) (i : Nat) (v : Json) : List (Option Json) :=
  slots.set i (some v)

def checkUnsigned (name : String) (bound : Nat) : JsonNumber → Except DecodeError Json
  | .nat n => if n ≤ bound then .ok (.number (.nat n)) else .error (invalidValue (.unsigned n) name)
  | .neg n => .error (invalidValue (.signed n) name)
  | .float f => .error (invalidType (.float f) name)

open Lexer

def mismatchAt (src : ByteArray) (pos : Nat) (expected : String) : DecodeError :=
  let found : Except DecodeError (Unexpected × Nat) :=
    match peek src pos with
    | some 110 => (readWord src (pos + 1) [117, 108, 108]).map fun p => (.unit, p)
    | some 116 => (readWord src (pos + 1) [114, 117, 101]).map fun p => (.bool true, p)
    | some 102 => (readWord src (pos + 1) [97, 108, 115, 101]).map fun p => (.bool false, p)
    | some 45 => (readNumber src (pos + 1) false).map fun (n, p) => (n.unexpected, p)
    | some 34 => (readString src (pos + 1)).map fun (s, p) => (.str s, p)
    | some 91 => .ok (.seq, pos)
    | some 123 => .ok (.map, pos)
    | some c =>
      if isDigit c then (readNumber src pos true).map fun (n, p) => (n.unexpected, p)
      else .error (faultAhead src pos .expectedSomeValue)
    | none => .error (faultAhead src pos .expectedSomeValue)
  match found with
  | .ok (u, p) => (invalidType u expected).placeAt src p
  | .error e => e

def afterArrayEnd (src : ByteArray) (pos : Nat) : Nat :=
  let w := skipBlanks src pos
  match peek src w with
  | some 93 => w + 1
  | some 44 => skipBlanks src (w + 1)
  | _ => w

def afterObjectEnd (src : ByteArray) (pos : Nat) : Nat :=
  let w := skipBlanks src pos
  match peek src w with
  | some 125 => w + 1
  | _ => w

def closeArray (src : ByteArray) (pos : Nat) : Except DecodeError Nat :=
  let w := skipBlanks src pos
  match peek src w with
  | some 93 => .ok (w + 1)
  | some 44 =>
    let q := skipBlanks src (w + 1)
    match peek src q with
    | some 93 => .error (faultAhead src q .trailingComma)
    | _ => .error (faultAhead src q .trailingCharacters)
  | some _ => .error (faultAhead src w .trailingCharacters)
  | none => .error (faultAhead src w .eofWhileParsingList)

def nextItem (src : ByteArray) (pos : Nat) (first : Bool) : Except DecodeError (Option Nat) :=
  let pos := skipBlanks src pos
  match peek src pos with
  | none => .error (faultAhead src pos .eofWhileParsingList)
  | some 93 => .ok none
  | some c =>
    if first then .ok (some pos)
    else if c == 44 then
      let q := skipBlanks src (pos + 1)
      match peek src q with
      | some 93 => .error (faultAhead src q .trailingComma)
      | some _ => .ok (some q)
      | none => .error (faultAhead src q .eofWhileParsingValue)
    else .error (faultAhead src pos .expectedListCommaOrEnd)

def nextKey (src : ByteArray) (pos : Nat) (first : Bool) : Except DecodeError (Option Nat) :=
  let pos := skipBlanks src pos
  match peek src pos with
  | none => .error (faultAhead src pos .eofWhileParsingObject)
  | some 125 => .ok none
  | some c =>
    if c == 44 && !first then .ok (some (skipBlanks src (pos + 1)))
    else if first then .ok (some pos)
    else .error (faultAhead src pos .expectedObjectCommaOrEnd)

def fillFallbacks : List Field → Nat → List Json → Except Nat (List Json)
  | [], _, acc => .ok acc.reverse
  | f :: rest, index, acc =>
    match f.fallback with
    | some d => fillFallbacks rest (index + 1) (d :: acc)
    | none => .error index

mutual
/-- Read `shape` at `pos` with `depth` nesting levels left. -/
def decodeAt (src : ByteArray) : Nat → Nat → Shape → Nat → Except DecodeError (Json × Nat)
  | 0, _, _, pos => .error (faultAt src pos .eofWhileParsingValue)
  | fuel + 1, depth, shape, pos =>
    match shape with
    | .value => parseValue src (fuel + 1) depth pos
    | .text =>
      let pos := skipBlanks src pos
      match peek src pos with
      | none => .error (faultAhead src pos .eofWhileParsingValue)
      | some 34 => (readString src (pos + 1)).map fun (s, p) => (.string s, p)
      | some _ => .error (mismatchAt src pos "a string")
    | .unsigned name bound =>
      let pos := skipBlanks src pos
      let checked (r : Except DecodeError (JsonNumber × Nat)) :=
        match r with
        | .error e => .error e
        | .ok (n, p) =>
          match checkUnsigned name bound n with
          | .ok v => .ok (v, p)
          | .error e => .error (e.placeAt src p)
      match peek src pos with
      | none => .error (faultAhead src pos .eofWhileParsingValue)
      | some 45 => checked (readNumber src (pos + 1) false)
      | some c =>
        if isDigit c then checked (readNumber src pos true) else .error (mismatchAt src pos name)
    | .optional inner =>
      let pos := skipBlanks src pos
      match peek src pos with
      | some 110 => (readWord src (pos + 1) [117, 108, 108]).map fun p => (.null, p)
      | _ => decodeAt src fuel depth inner pos
    | .list item =>
      let pos := skipBlanks src pos
      match peek src pos with
      | none => .error (faultAhead src pos .eofWhileParsingValue)
      | some 91 =>
        if depth ≤ 1 then .error (faultAhead src pos .recursionLimitExceeded)
        else
          match decodeItems src fuel (depth - 1) item (pos + 1) true [] with
          | .ok (xs, p) =>
            match closeArray src p with
            | .ok q => .ok (.array xs, q)
            | .error e => .error e
          | .error e => .error e
      | some _ => .error (mismatchAt src pos "a sequence")
    | .choice names => decodeChoice src fuel depth names pos
    | .record name fields =>
      let pos := skipBlanks src pos
      match peek src pos with
      | none => .error (faultAhead src pos .eofWhileParsingValue)
      | some 91 =>
        if depth ≤ 1 then .error (faultAhead src pos .recursionLimitExceeded)
        else
          match decodeFieldItems src fuel (depth - 1) name fields.length fields (pos + 1) 0 [] with
          | .error e => .error e
          | .ok (.inl (e, stop)) => .error (e.placeAt src (afterArrayEnd src stop))
          | .ok (.inr (values, p)) =>
            match closeArray src p with
            | .ok q => .ok (.object ((fields.map Field.name).zip values), q)
            | .error e => .error e
      | some 123 =>
        if depth ≤ 1 then .error (faultAhead src pos .recursionLimitExceeded)
        else
          match decodeMembers src fuel (depth - 1) fields (pos + 1) true
              (fields.map fun _ => none) with
          | .error e => .error e
          | .ok (.inl (e, stop)) => .error (e.placeAt src (afterObjectEnd src stop))
          | .ok (.inr (slots, stop)) =>
            match completeRecord fields slots with
            | .ok v => .ok (v, stop + 1)
            | .error e => .error (e.placeAt src (afterObjectEnd src stop))
      | some _ => .error (mismatchAt src pos ("struct " ++ name))

def decodeItems (src : ByteArray) : Nat → Nat → Shape → Nat → Bool → List Json →
    Except DecodeError (List Json × Nat)
  | 0, _, _, pos, _, _ => .error (faultAt src pos .eofWhileParsingList)
  | fuel + 1, depth, item, pos, first, acc =>
    match nextItem src pos first with
    | .error e => .error e
    | .ok none => .ok (acc.reverse, pos)
    | .ok (some q) =>
      match decodeAt src fuel depth item q with
      | .ok (v, r) => decodeItems src fuel depth item r false (v :: acc)
      | .error e => .error e

def decodeFieldItems (src : ByteArray) : Nat → Nat → String → Nat → List Field → Nat → Nat →
    List Json → Except DecodeError ((DecodeError × Nat) ⊕ (List Json × Nat))
  | 0, _, _, _, _, pos, _, _ => .error (faultAt src pos .eofWhileParsingList)
  | _, _, _, _, [], pos, _, acc => .ok (.inr (acc.reverse, pos))
  | fuel + 1, depth, name, arity, f :: rest, pos, index, acc =>
    match nextItem src pos (index == 0) with
    | .error e => .error e
    | .ok none =>
      match fillFallbacks (f :: rest) index acc with
      | .ok values => .ok (.inr (values, pos))
      | .error missing => .ok (.inl (invalidLength missing (recordArity name arity), pos))
    | .ok (some q) =>
      match decodeAt src fuel depth f.shape q with
      | .ok (v, r) => decodeFieldItems src fuel depth name arity rest r (index + 1) (v :: acc)
      | .error e => .error e

def decodeMembers (src : ByteArray) : Nat → Nat → List Field → Nat → Bool →
    List (Option Json) → Except DecodeError ((DecodeError × Nat) ⊕ (List (Option Json) × Nat))
  | 0, _, _, pos, _, _ => .error (faultAt src pos .eofWhileParsingObject)
  | fuel + 1, depth, fields, pos, first, slots =>
    match nextKey src pos first with
    | .error e => .error e
    | .ok none => .ok (.inr (slots, skipBlanks src pos))
    | .ok (some k) =>
      match readKey src k with
      | .error e => .error e
      | .ok (key, r) =>
        match fieldIndex fields key with
        | some i =>
          match slots[i]? with
          | some (some _) =>
            .ok (.inl (duplicateField ((fields[i]?.map Field.name).getD key), r))
          | _ =>
            match readColon src r with
            | .error e => .error e
            | .ok q =>
              match decodeAt src fuel depth ((fields[i]?.map Field.shape).getD .value) q with
              | .ok (v, p) => decodeMembers src fuel depth fields p false (setSlot slots i v)
              | .error e => .error e
        | none =>
          match readColon src r with
          | .error e => .error e
          | .ok q =>
            match skipValue src (fuelFor src) q with
            | .ok p => decodeMembers src fuel depth fields p false slots
            | .error e => .error e

def decodeChoice (src : ByteArray) : Nat → Nat → List String → Nat →
    Except DecodeError (Json × Nat)
  | 0, _, _, pos => .error (faultAt src pos .eofWhileParsingValue)
  | _ + 1, depth, names, pos =>
    let pos := skipBlanks src pos
    let variant (q : Nat) : Except DecodeError (String × Nat) :=
      let q := skipBlanks src q
      match peek src q with
      | none => .error (faultAhead src q .eofWhileParsingValue)
      | some 34 =>
        match readString src (q + 1) with
        | .ok (s, r) =>
          if names.contains s then .ok (s, r) else .error ((unknownVariant s names).placeAt src r)
        | .error e => .error e
      | some _ => .error (mismatchAt src q "variant identifier")
    match peek src pos with
    | some 34 => (variant pos).map fun (s, r) => (.string s, r)
    | some 123 =>
      if depth ≤ 1 then .error (faultAhead src pos .recursionLimitExceeded)
      else do
        let (s, r) ← variant (pos + 1)
        let q ← readColon src r
        let q := skipBlanks src q
        let q ← match peek src q with
          | none => throw (faultAhead src q .eofWhileParsingValue)
          | some 110 => readWord src (q + 1) [117, 108, 108]
          | some _ => throw (mismatchAt src q "unit")
        let q := skipBlanks src q
        match peek src q with
        | some 125 => pure (.string s, q + 1)
        | some _ => throw (faultAt src q .expectedSomeValue)
        | none => throw (faultAt src q .eofWhileParsingObject)
    | some _ => .error (faultAhead src pos .expectedSomeValue)
    | none => .error (faultAhead src pos .eofWhileParsingValue)
end

def Shape.readText (shape : Shape) (text : String) : Except DecodeError Json :=
  let src := text.toUTF8
  match decodeAt src (fuelFor src) nestingBudget shape 0 with
  | .error e => .error e
  | .ok (v, pos) =>
    match expectEnd src pos with
    | .ok () => .ok v
    | .error e => .error e

mutual
/-- Read an already-built value as `shape`. -/
def decodeValue : Shape → Json → Except DecodeError Json
  | .value, v => .ok v
  | .text, v =>
    match v with
    | .string s => .ok (.string s)
    | other => .error (invalidType other.unexpected "a string")
  | .unsigned name bound, v =>
    match v with
    | .number n => checkUnsigned name bound n
    | other => .error (invalidType other.unexpected name)
  | .optional inner, v =>
    match v with
    | .null => .ok .null
    | other => decodeValue inner other
  | .list item, v =>
    match v with
    | .array xs => (decodeValues item xs).map Json.array
    | other => .error (invalidType other.unexpected "a sequence")
  | .choice names, v =>
    match v with
    | .string s => if names.contains s then .ok (.string s) else .error (unknownVariant s names)
    | .object [(k, inner)] =>
      if names.contains k then
        match inner with
        | .null => .ok (.string k)
        | other => .error (invalidType other.unexpected "unit")
      else .error (unknownVariant k names)
    | .object _ => .error (invalidValue .map "map with a single key")
    | other => .error (invalidType other.unexpected "string or map")
  | .record name fields, v =>
    match v with
    | .object members =>
      match decodeValueMembers fields members (fields.map fun _ => none) with
      | .ok slots => completeRecord fields slots
      | .error e => .error e
    | .array xs =>
      match decodeValueItems name fields.length fields xs 0 with
      | .ok values =>
        if xs.length > fields.length then .error (invalidLength xs.length "fewer elements in array")
        else .ok (.object ((fields.map Field.name).zip values))
      | .error e => .error e
    | other => .error (invalidType other.unexpected ("struct " ++ name))
termination_by shape v => (sizeOf shape, sizeOf v)

def decodeValues (item : Shape) : List Json → Except DecodeError (List Json)
  | [] => .ok []
  | x :: rest =>
    match decodeValue item x with
    | .ok v => (decodeValues item rest).map (v :: ·)
    | .error e => .error e
termination_by xs => (sizeOf item, sizeOf xs)

def decodeValueMembers (fields : List Field) : List (String × Json) → List (Option Json) →
    Except DecodeError (List (Option Json))
  | [], slots => .ok slots
  | (key, x) :: rest, slots =>
    match fieldIndex fields key with
    | some i =>
      match slots[i]? with
      | some (some _) => .error (duplicateField ((fields[i]?.map Field.name).getD key))
      | _ =>
        match decodeFieldValue fields i x with
        | .ok v => decodeValueMembers fields rest (setSlot slots i v)
        | .error e => .error e
    | none => decodeValueMembers fields rest slots
termination_by members => (sizeOf fields, sizeOf members)

def decodeFieldValue : List Field → Nat → Json → Except DecodeError Json
  | [], _, x => .ok x
  | .mk _ _ shape _ :: _, 0, x => decodeValue shape x
  | _ :: rest, i + 1, x => decodeFieldValue rest i x
termination_by fields _ x => (sizeOf fields, sizeOf x)

def decodeValueItems (name : String) (arity : Nat) : List Field → List Json → Nat →
    Except DecodeError (List Json)
  | [], _, _ => .ok []
  | f :: rest, [], index =>
    match f.fallback with
    | some d => (decodeValueItems name arity rest [] (index + 1)).map (d :: ·)
    | none => .error (invalidLength index (recordArity name arity))
  | .mk _ _ shape _ :: rest, x :: xs, index =>
    match decodeValue shape x with
    | .ok v => (decodeValueItems name arity rest xs (index + 1)).map (v :: ·)
    | .error e => .error e
termination_by fields xs => (sizeOf fields, sizeOf xs)
end

end TableSync
