/-!
Base64 with the standard alphabet and padding; decoding accepts exactly the canonical form and
reports the first problem.
-/

namespace TableSync

def base64Symbol (v : Nat) : UInt8 :=
  if v < 26 then (65 + v).toUInt8
  else if v < 52 then (71 + v).toUInt8
  else if v < 62 then (v - 4).toUInt8
  else if v == 62 then 43
  else 47

def base64Value (b : UInt8) : Option Nat :=
  if 65 ≤ b && b ≤ 90 then some (b.toNat - 65)
  else if 97 ≤ b && b ≤ 122 then some (b.toNat - 71)
  else if 48 ≤ b && b ≤ 57 then some (b.toNat + 4)
  else if b == 43 then some 62
  else if b == 47 then some 63
  else none

def padSymbol : UInt8 := 61

def encodeGroups : List UInt8 → List UInt8
  | a :: b :: c :: rest =>
    let n := a.toNat * 65536 + b.toNat * 256 + c.toNat
    [base64Symbol (n / 262144), base64Symbol (n / 4096 % 64), base64Symbol (n / 64 % 64),
      base64Symbol (n % 64)] ++ encodeGroups rest
  | [a, b] =>
    let n := a.toNat * 65536 + b.toNat * 256
    [base64Symbol (n / 262144), base64Symbol (n / 4096 % 64), base64Symbol (n / 64 % 64), padSymbol]
  | [a] =>
    let n := a.toNat * 65536
    [base64Symbol (n / 262144), base64Symbol (n / 4096 % 64), padSymbol, padSymbol]
  | [] => []

def base64Encode (bytes : ByteArray) : String :=
  String.ofList ((encodeGroups bytes.toList).map fun b => Char.ofNat b.toNat)

inductive Base64Error where
  | invalidByte (offset : Nat) (symbol : UInt8)
  | invalidLength (length : Nat)
  | invalidLastSymbol (offset : Nat) (symbol : UInt8)
  | invalidPadding
  deriving DecidableEq, Repr

def Base64Error.text : Base64Error → String
  | .invalidByte offset symbol =>
    "Invalid symbol " ++ toString symbol.toNat ++ ", offset " ++ toString offset ++ "."
  | .invalidLength length => "Invalid input length: " ++ toString length
  | .invalidLastSymbol offset symbol =>
    "Invalid last symbol " ++ toString symbol.toNat ++ ", offset " ++ toString offset ++ "."
  | .invalidPadding => "Invalid padding"

def decodeBody : List UInt8 → Nat → Except Base64Error (List Nat)
  | [], _ => .ok []
  | b :: rest, offset =>
    match base64Value b with
    | some v => (decodeBody rest (offset + 1)).map (v :: ·)
    | none => .error (.invalidByte offset b)

def packGroups : List Nat → List UInt8
  | a :: b :: c :: d :: rest =>
    let n := ((a * 64 + b) * 64 + c) * 64 + d
    [(n / 65536).toUInt8, (n / 256 % 256).toUInt8, (n % 256).toUInt8] ++ packGroups rest
  | _ => []

def scanLastGroup (offset : Nat) : List UInt8 → Nat → List (Nat × UInt8) → Nat → Option Nat →
    Except Base64Error (List (Nat × UInt8) × Nat)
  | [], _, symbols, pads, _ => .ok (symbols.reverse, pads)
  | b :: rest, index, symbols, pads, firstPad =>
    if b == padSymbol then
      if index < 2 then .error (.invalidByte (offset + index) b)
      else scanLastGroup offset rest (index + 1) symbols (pads + 1) (firstPad.getD index)
    else
      match firstPad with
      | some p => .error (.invalidByte (offset + p) padSymbol)
      | none =>
        match base64Value b with
        | some v => scanLastGroup offset rest (index + 1) ((v, b) :: symbols) pads none
        | none => .error (.invalidByte (offset + index) b)

def decodeLastGroup (offset : Nat) (group : List UInt8) (inputEmpty : Bool) :
    Except Base64Error (List UInt8) := do
  let (symbols, pads) ← scanLastGroup offset group 0 [] 0 none
  let count := symbols.length
  if !inputEmpty && count < 2 then throw (.invalidLength (offset + count))
  if (pads + count) % 4 != 0 then throw .invalidPadding
  let values := symbols.map (·.1) ++ List.replicate (4 - count) 0
  let n := values.foldl (fun acc v => acc * 64 + v) 0
  let keep := count * 6 / 8
  let unused := n % Nat.pow 2 (24 - 8 * keep)
  if unused != 0 then
    match symbols.getLast? with
    | some (_, b) => throw (.invalidLastSymbol (offset + count - 1) b)
    | none => throw .invalidPadding
  let bytes := [(n / 65536).toUInt8, (n / 256 % 256).toUInt8, (n % 256).toUInt8]
  return bytes.take keep

/-- Decode canonical padded base64. -/
def base64Decode (text : String) : Except Base64Error ByteArray := do
  let input := text.toUTF8.toList
  let len := input.length
  let rem := len % 4
  if rem == 1 then
    match input.getLast? with
    | some b => if b != padSymbol && (base64Value b).isNone then throw (.invalidByte (len - 1) b)
    | none => pure ()
  let bodyLength := if rem == 0 then len - 4 else len - rem
  let values ← decodeBody (input.take bodyLength) 0
  let tail ← decodeLastGroup bodyLength (input.drop bodyLength) input.isEmpty
  return ⟨(packGroups values ++ tail).toArray⟩

end TableSync
