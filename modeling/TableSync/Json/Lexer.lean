import TableSync.Json.Error

/-!
Reading the pieces of JSON text from a byte index: blanks, literal words, numbers and strings. Each
reader answers the index after its piece or the error found where it stood. Integers stay integers
while they fit in 64 bits; any other number becomes a float.
-/

namespace TableSync

namespace Lexer

def isBlank (b : UInt8) : Bool := b == 32 || b == 10 || b == 9 || b == 13

def isDigit (b : UInt8) : Bool := 48 ≤ b && b ≤ 57

def digitValue (b : UInt8) : Nat := b.toNat - 48

def u64Max : Nat := Nat.pow 2 64 - 1

def i32Max : Int := Int.pow 2 31 - 1

def i32Min : Int := -(Int.pow 2 31)

def skipBlanks (src : ByteArray) (pos : Nat) : Nat :=
  if h : pos < src.size then
    if isBlank src[pos] then skipBlanks src (pos + 1) else pos
  else pos
termination_by src.size - pos

def peek (src : ByteArray) (pos : Nat) : Option UInt8 := src[pos]?

def skipDigits (src : ByteArray) (pos : Nat) : Nat :=
  if h : pos < src.size then
    if isDigit src[pos] then skipDigits src (pos + 1) else pos
  else pos
termination_by src.size - pos

def readWord (src : ByteArray) : Nat → List UInt8 → Except DecodeError Nat
  | pos, [] => .ok pos
  | pos, b :: bs =>
    match peek src pos with
    | none => .error (faultAt src pos .eofWhileParsingValue)
    | some c => if c == b then readWord src (pos + 1) bs else .error (faultAt src (pos + 1) .expectedSomeIdent)

def powerOfTen (k : Nat) : Float := Float.ofScientific 1 false k

/-- The float `significand * 10 ^ exponent` as the reader computes it: the significand rounded,
then one multiplication or division by an exact power of ten. -/
def floatFromParts (src : ByteArray) (pos : Nat) (positive : Bool) (significand : Nat)
    (exponent : Int) : Except DecodeError Float :=
  let rec go : Nat → Float → Int → Except DecodeError Float
    | 0, f, _ => .ok f
    | fuel + 1, f, e =>
      if e.natAbs ≤ 308 then
        if e ≥ 0 then
          let g := f * powerOfTen e.natAbs
          if g.isInf then .error (faultAt src pos .numberOutOfRange) else .ok g
        else .ok (f / powerOfTen e.natAbs)
      else if f == 0 then .ok f
      else if e ≥ 0 then .error (faultAt src pos .numberOutOfRange)
      else go fuel (f / powerOfTen 308) (e + 308)
  match go 8 (UInt64.ofNat significand).toFloat exponent with
  | .ok f => .ok (if positive then f else -f)
  | .error e => .error e

def exponentOverflow (src : ByteArray) (pos : Nat) (positive zeroSignificand positiveExp : Bool) :
    Except DecodeError (Float × Nat) :=
  if !zeroSignificand && positiveExp then .error (faultAt src pos .numberOutOfRange)
  else
    let pos := skipDigits src pos
    .ok (if positive then 0.0 else -0.0, pos)

def exponentDigits (src : ByteArray) (pos : Nat) (positive : Bool) (significand : Nat)
    (startExp : Int) (positiveExp : Bool) (exp : Nat) : Except DecodeError (Float × Nat) :=
  if h : pos < src.size then
    let c := src[pos]
    if isDigit c then
      let next := exp * 10 + digitValue c
      if (next : Int) > i32Max then
        exponentOverflow src (pos + 1) positive (significand == 0) positiveExp
      else exponentDigits src (pos + 1) positive significand startExp positiveExp next
    else finish pos
  else finish pos
termination_by src.size - pos
where
  finish (pos : Nat) : Except DecodeError (Float × Nat) :=
    let total := if positiveExp then startExp + exp else startExp - exp
    let clamped := max i32Min (min i32Max total)
    match floatFromParts src pos positive significand clamped with
    | .ok f => .ok (f, pos)
    | .error e => .error e

def readExponent (src : ByteArray) (pos : Nat) (positive : Bool) (significand : Nat)
    (startExp : Int) : Except DecodeError (Float × Nat) :=
  let pos := pos + 1
  let (positiveExp, pos) :=
    match peek src pos with
    | some 43 => (true, pos + 1)
    | some 45 => (false, pos + 1)
    | _ => (true, pos)
  match peek src pos with
  | none => .error (faultAt src pos .eofWhileParsingValue)
  | some c =>
    if isDigit c then exponentDigits src (pos + 1) positive significand startExp positiveExp (digitValue c)
    else .error (faultAt src (pos + 1) .invalidNumber)

def exponentOrEnd (src : ByteArray) (pos : Nat) (positive : Bool) (significand : Nat)
    (exponent : Int) : Except DecodeError (Float × Nat) :=
  match peek src pos with
  | some 101 | some 69 => readExponent src pos positive significand exponent
  | _ =>
    match floatFromParts src pos positive significand exponent with
    | .ok f => .ok (f, pos)
    | .error e => .error e

def fractionOverflow (src : ByteArray) (pos : Nat) (positive : Bool) (significand : Nat)
    (exponent : Int) : Except DecodeError (Float × Nat) :=
  exponentOrEnd src (skipDigits src pos) positive significand exponent

def fractionDigits (src : ByteArray) (pos : Nat) (positive : Bool) (significand : Nat)
    (before : Int) (count : Nat) : Except DecodeError (Float × Nat) :=
  if h : pos < src.size then
    let c := src[pos]
    if isDigit c then
      let next := significand * 10 + digitValue c
      if next > u64Max then fractionOverflow src pos positive significand (before - count)
      else fractionDigits src (pos + 1) positive next before (count + 1)
    else finish pos
  else finish pos
termination_by src.size - pos
where
  finish (pos : Nat) : Except DecodeError (Float × Nat) :=
    if count == 0 then
      match peek src pos with
      | some _ => .error (faultAhead src pos .invalidNumber)
      | none => .error (faultAhead src pos .eofWhileParsingValue)
    else exponentOrEnd src pos positive significand (before - count)

def readFraction (src : ByteArray) (pos : Nat) (positive : Bool) (significand : Nat)
    (before : Int) : Except DecodeError (Float × Nat) :=
  fractionDigits src (pos + 1) positive significand before 0

def longInteger (src : ByteArray) (pos : Nat) (positive : Bool) (significand : Nat)
    (exponent : Nat) : Except DecodeError (Float × Nat) :=
  if h : pos < src.size then
    let c := src[pos]
    if isDigit c then longInteger src (pos + 1) positive significand (exponent + 1)
    else if c == 46 then readFraction src pos positive significand exponent
    else exponentOrEnd src pos positive significand exponent
  else exponentOrEnd src pos positive significand exponent
termination_by src.size - pos

def floatNumber : Except DecodeError (Float × Nat) → Except DecodeError (JsonNumber × Nat)
  | .ok (f, pos) => .ok (.float f, pos)
  | .error e => .error e

def numberTail (src : ByteArray) (pos : Nat) (positive : Bool) (significand : Nat) :
    Except DecodeError (JsonNumber × Nat) :=
  match peek src pos with
  | some 46 => floatNumber (readFraction src pos positive significand 0)
  | some 101 | some 69 => floatNumber (readExponent src pos positive significand 0)
  | _ =>
    if positive then .ok (.nat significand, pos)
    else if significand == 0 || significand > Nat.pow 2 63 then
      .ok (.float (-(UInt64.ofNat significand).toFloat), pos)
    else .ok (.neg (-(significand : Int)), pos)

def integerDigits (src : ByteArray) (pos : Nat) (positive : Bool) (significand : Nat) :
    Except DecodeError (JsonNumber × Nat) :=
  if h : pos < src.size then
    let c := src[pos]
    if isDigit c then
      let next := significand * 10 + digitValue c
      if next > u64Max then floatNumber (longInteger src pos positive significand 0)
      else integerDigits src (pos + 1) positive next
    else numberTail src pos positive significand
  else numberTail src pos positive significand
termination_by src.size - pos

/-- A number whose sign, if any, is already read. -/
def readNumber (src : ByteArray) (pos : Nat) (positive : Bool) :
    Except DecodeError (JsonNumber × Nat) :=
  match peek src pos with
  | none => .error (faultAt src pos .eofWhileParsingValue)
  | some c =>
    if c == 48 then
      match peek src (pos + 1) with
      | some d => if isDigit d then .error (faultAhead src (pos + 1) .invalidNumber)
                  else numberTail src (pos + 1) positive 0
      | none => numberTail src (pos + 1) positive 0
    else if isDigit c then integerDigits src (pos + 1) positive (digitValue c)
    else .error (faultAt src (pos + 1) .invalidNumber)

def hexValue (b : UInt8) : Option Nat :=
  if 48 ≤ b && b ≤ 57 then some (b.toNat - 48)
  else if 65 ≤ b && b ≤ 70 then some (b.toNat - 55)
  else if 97 ≤ b && b ≤ 102 then some (b.toNat - 87)
  else none

def readHex4 (src : ByteArray) (pos : Nat) : Except DecodeError (Nat × Nat) :=
  if pos + 4 > src.size then .error (faultAt src src.size .eofWhileParsingString)
  else
    let digits := [0, 1, 2, 3].map fun k => hexValue ((src[pos + k]?).getD 0)
    match digits with
    | [some a, some b, some c, some d] => .ok (((a * 16 + b) * 16 + c) * 16 + d, pos + 4)
    | _ => .error (faultAt src (pos + 4) .invalidEscape)

def utf8Bytes (cp : Nat) : List UInt8 :=
  if cp < 0x80 then [cp.toUInt8]
  else if cp < 0x800 then [(0xC0 + cp / 64).toUInt8, (0x80 + cp % 64).toUInt8]
  else if cp < 0x10000 then
    [(0xE0 + cp / 4096).toUInt8, (0x80 + cp / 64 % 64).toUInt8, (0x80 + cp % 64).toUInt8]
  else
    [(0xF0 + cp / 262144).toUInt8, (0x80 + cp / 4096 % 64).toUInt8,
     (0x80 + cp / 64 % 64).toUInt8, (0x80 + cp % 64).toUInt8]

def pushAll (acc : ByteArray) (bs : List UInt8) : ByteArray := bs.foldl ByteArray.push acc

def readUnicodeEscape (src : ByteArray) (pos : Nat) (acc : ByteArray) :
    Except DecodeError (ByteArray × Nat) := do
  let (n, pos) ← readHex4 src pos
  if 0xDC00 ≤ n && n ≤ 0xDFFF then throw (faultAt src pos .loneLeadingSurrogateInHexEscape)
  if n < 0xD800 || n > 0xDBFF then return (pushAll acc (utf8Bytes n), pos)
  let pos ← match peek src pos with
    | none => throw (faultAt src pos .eofWhileParsingString)
    | some 92 => pure (pos + 1)
    | some _ => throw (faultAt src (pos + 1) .unexpectedEndOfHexEscape)
  let pos ← match peek src pos with
    | none => throw (faultAt src pos .eofWhileParsingString)
    | some 117 => pure (pos + 1)
    | some _ => throw (faultAt src (pos + 1) .unexpectedEndOfHexEscape)
  let (n2, pos) ← readHex4 src pos
  if n2 < 0xDC00 || n2 > 0xDFFF then throw (faultAt src pos .loneLeadingSurrogateInHexEscape)
  let cp := (n - 0xD800) * 1024 + (n2 - 0xDC00) + 0x10000
  return (pushAll acc (utf8Bytes cp), pos)

def readEscape (src : ByteArray) (pos : Nat) (acc : ByteArray) :
    Except DecodeError (ByteArray × Nat) :=
  match peek src pos with
  | none => .error (faultAt src pos .eofWhileParsingString)
  | some c =>
    let next := pos + 1
    if c == 34 then .ok (acc.push 34, next)
    else if c == 92 then .ok (acc.push 92, next)
    else if c == 47 then .ok (acc.push 47, next)
    else if c == 98 then .ok (acc.push 8, next)
    else if c == 102 then .ok (acc.push 12, next)
    else if c == 110 then .ok (acc.push 10, next)
    else if c == 114 then .ok (acc.push 13, next)
    else if c == 116 then .ok (acc.push 9, next)
    else if c == 117 then readUnicodeEscape src next acc
    else .error (faultAt src next .invalidEscape)

/-- The bytes of a string up to its closing quote, whose opening quote is read. -/
def stringBytes (src : ByteArray) (pos : Nat) (acc : ByteArray) :
    Except DecodeError (ByteArray × Nat) :=
  if h : pos < src.size then
    let b := src[pos]
    if b == 34 then .ok (acc, pos + 1)
    else if b == 92 then
      match readEscape src (pos + 1) acc with
      | .ok (acc', pos') =>
        if pos < pos' then stringBytes src pos' acc'
        else .error (faultAt src pos .invalidEscape)
      | .error e => .error e
    else if b < 32 then .error (faultAt src (pos + 1) .controlCharacterWhileParsingString)
    else stringBytes src (pos + 1) (acc.push b)
  else .error (faultAt src src.size .eofWhileParsingString)
termination_by src.size - pos

def readString (src : ByteArray) (pos : Nat) : Except DecodeError (String × Nat) :=
  match stringBytes src pos ByteArray.empty with
  | .ok (bytes, pos) => .ok ((String.fromUTF8? bytes).getD "", pos)
  | .error e => .error e

def skipEscape (src : ByteArray) (pos : Nat) : Except DecodeError Nat :=
  match peek src pos with
  | none => .error (faultAt src pos .eofWhileParsingString)
  | some c =>
    if c == 34 || c == 92 || c == 47 || c == 98 || c == 102 || c == 110 || c == 114 || c == 116 then
      .ok (pos + 1)
    else if c == 117 then
      match readHex4 src (pos + 1) with
      | .ok (_, pos) => .ok pos
      | .error e => .error e
    else .error (faultAt src (pos + 1) .invalidEscape)

def skipString (src : ByteArray) (pos : Nat) : Except DecodeError Nat :=
  if h : pos < src.size then
    let b := src[pos]
    if b == 34 then .ok (pos + 1)
    else if b == 92 then
      match skipEscape src (pos + 1) with
      | .ok pos' => if pos < pos' then skipString src pos' else .error (faultAt src pos .invalidEscape)
      | .error e => .error e
    else if b < 32 then .error (faultAt src pos .controlCharacterWhileParsingString)
    else skipString src (pos + 1)
  else .error (faultAt src src.size .eofWhileParsingString)
termination_by src.size - pos

def skipNumber (src : ByteArray) (pos : Nat) : Except DecodeError Nat := do
  let pos ← match peek src pos with
    | some 48 =>
      match peek src (pos + 1) with
      | some d => if isDigit d then throw (faultAhead src (pos + 1) .invalidNumber) else pure (pos + 1)
      | none => pure (pos + 1)
    | some c => if 49 ≤ c && c ≤ 57 then pure (skipDigits src (pos + 1))
                else throw (faultAt src (pos + 1) .invalidNumber)
    | none => throw (faultAt src pos .invalidNumber)
  let skipExponent (pos : Nat) : Except DecodeError Nat :=
    let pos := pos + 1
    let pos := match peek src pos with
      | some 43 | some 45 => pos + 1
      | _ => pos
    match peek src pos with
    | some c => if isDigit c then .ok (skipDigits src (pos + 1)) else .error (faultAt src (pos + 1) .invalidNumber)
    | none => .error (faultAt src pos .invalidNumber)
  match peek src pos with
  | some 46 =>
    let after := skipDigits src (pos + 1)
    if after == pos + 1 then throw (faultAhead src after .invalidNumber)
    match peek src after with
    | some 101 | some 69 => skipExponent after
    | _ => pure after
  | some 101 | some 69 => skipExponent pos
  | _ => pure pos

end Lexer

end TableSync
