/-!
A JSON number is an unsigned integer below `2 ^ 64`, a negative integer from `-2 ^ 63`, or a
binary64 float. A float is written with the shortest decimal that reads back as itself, computed
from its bits with exact arithmetic.
-/

namespace TableSync

def decimalDigits (n : Nat) : Nat :=
  if n < 10 then 1 else decimalDigits (n / 10) + 1
termination_by n
decreasing_by omega

structure BinaryParts where
  negative : Bool
  significand : Nat
  exponent : Int
  narrowBelow : Bool

def binaryParts (f : Float) : BinaryParts :=
  let bits := f.toBits.toNat
  let fraction : Nat := bits % Nat.pow 2 52
  let biased : Nat := (bits / Nat.pow 2 52) % 2048
  let negative := bits / Nat.pow 2 63 == 1
  if biased == 0 then
    { negative, significand := fraction, exponent := -1074, narrowBelow := false }
  else
    { negative, significand := fraction + Nat.pow 2 52, exponent := Int.ofNat biased - 1075,
      narrowBelow := fraction == 0 && biased > 1 }

structure Decimal where
  digits : Nat
  exponent : Int

def powTenFraction (k : Int) : Nat × Nat :=
  if k ≥ 0 then (Nat.pow 10 k.toNat, 1) else (1, Nat.pow 10 (-k).toNat)

def ceilDiv (a b : Nat) : Nat := (a + b - 1) / b

def roundHalfEven (a b : Nat) : Nat :=
  let q := a / b
  let r := a % b
  if 2 * r > b then q + 1
  else if 2 * r < b then q
  else if q % 2 == 0 then q else q + 1

def floorLogTen (n d : Nat) : Int :=
  if n ≥ d then (decimalDigits (n / d) : Int) - 1
  else
    let j := decimalDigits d - decimalDigits n
    if n * Nat.pow 10 j ≥ d then -(j : Int) else -((j + 1 : Nat) : Int)

def roundingInterval (p : BinaryParts) : Nat × Nat × Nat × Nat × Nat :=
  let value := 4 * p.significand
  let high := value + 2
  let low := if p.narrowBelow then value - 1 else value - 2
  let shift := p.exponent - 2
  if shift ≥ 0 then (low, value, high, Nat.pow 2 shift.toNat, 1)
  else (low, value, high, 1, Nat.pow 2 (-shift).toNat)

def candidateAt (p : BinaryParts) (t : Int) : Option Nat :=
  let (low, value, high, num, den) := roundingInterval p
  let (tenNum, tenDen) := powTenFraction t
  let scaledDen := den * tenNum
  let inclusive := p.significand % 2 == 0
  let lowNum := low * num * tenDen
  let highNum := high * num * tenDen
  let cLow := if inclusive then ceilDiv lowNum scaledDen else lowNum / scaledDen + 1
  let cHigh := if inclusive then highNum / scaledDen else ceilDiv highNum scaledDen - 1
  if cLow ≤ cHigh then
    let nearest := roundHalfEven (value * num * tenDen) scaledDen
    some (max cLow (min cHigh nearest))
  else none

def searchCandidate (p : BinaryParts) : Nat → Int → Decimal
  | 0, t => { digits := 0, exponent := t }
  | fuel + 1, t =>
    match candidateAt p t with
    | some c => { digits := c, exponent := t }
    | none => searchCandidate p fuel (t - 1)

def Decimal.normalize (d : Decimal) : Decimal :=
  go (decimalDigits d.digits) d
where
  go : Nat → Decimal → Decimal
    | 0, d => d
    | fuel + 1, d =>
      if d.digits != 0 && d.digits % 10 == 0 then
        go fuel { digits := d.digits / 10, exponent := d.exponent + 1 }
      else d

/-- The shortest decimal inside the float's rounding interval, the closest to it among
the shortest: the digits a shortest round-trip writer prints. Zero gives digits `0`. -/
def shortestDecimal (p : BinaryParts) : Decimal :=
  if p.significand = 0 then { digits := 0, exponent := 0 }
  else
    let (_, _, high, num, den) := roundingInterval p
    let top := floorLogTen (high * num) den
    (searchCandidate p 40 top).normalize

def zeros (n : Nat) : String := String.ofList (List.replicate n '0')

/-- The JSON layout of a non-negative decimal: positional for moderate exponents, otherwise one
digit, a fraction and a signed exponent. -/
def Decimal.jsonText (d : Decimal) : String :=
  if d.digits = 0 then "0.0"
  else
    let s := toString d.digits
    let n := s.length
    let kk : Int := (n : Int) + d.exponent
    if 0 ≤ d.exponent ∧ kk ≤ 16 then s ++ zeros d.exponent.toNat ++ ".0"
    else if 0 < kk ∧ kk ≤ 16 then
      String.ofList (s.toList.take kk.toNat) ++ "." ++ String.ofList (s.toList.drop kk.toNat)
    else if -5 < kk ∧ kk ≤ 0 then "0." ++ zeros (-kk).toNat ++ s
    else
      let e := kk - 1
      let mantissa :=
        if n = 1 then s
        else String.ofList (s.toList.take 1) ++ "." ++ String.ofList (s.toList.drop 1)
      mantissa ++ "e" ++ (if e ≥ 0 then "+" ++ toString e else toString e)

def Decimal.plainText (d : Decimal) : String :=
  if d.digits = 0 then "0"
  else
    let s := toString d.digits
    let kk : Int := (s.length : Int) + d.exponent
    if 0 ≤ d.exponent then s ++ zeros d.exponent.toNat
    else if 0 < kk then
      String.ofList (s.toList.take kk.toNat) ++ "." ++ String.ofList (s.toList.drop kk.toNat)
    else "0." ++ zeros (-kk).toNat ++ s

def floatJsonText (f : Float) : String :=
  if f.isNaN || f.isInf then "null"
  else
    let p := binaryParts f
    (if p.negative then "-" else "") ++ (shortestDecimal p).jsonText

def floatPlainText (f : Float) : String :=
  if f.isNaN then "NaN"
  else if f.isInf then (if f < 0 then "-inf" else "inf")
  else
    let p := binaryParts f
    (if p.negative then "-" else "") ++ (shortestDecimal p).plainText

def floatPointText (f : Float) : String :=
  let s := floatPlainText f
  if f.isNaN || f.isInf || s.toList.contains '.' then s else s ++ ".0"

inductive JsonNumber where
  | nat (value : Nat)
  | neg (value : Int)
  | float (value : Float)
  deriving Inhabited

def JsonNumber.text : JsonNumber → String
  | .nat n => toString n
  | .neg n => toString n
  | .float f => floatJsonText f

def JsonNumber.ofInt (i : Int) : JsonNumber :=
  if i ≥ 0 then .nat i.toNat else .neg i

def JsonNumber.isInteger : JsonNumber → Bool
  | .float _ => false
  | _ => true

end TableSync
