/-!
`checkUtf8` reads bytes as UTF-8 text, or reports where the first ill-formed sequence starts and how
long it is.
-/

namespace TableSync

structure Utf8Error where
  validUpTo : Nat
  errorLength : Option Nat
  deriving DecidableEq, Repr

def Utf8Error.text (e : Utf8Error) : String :=
  match e.errorLength with
  | some n =>
    "invalid utf-8 sequence of " ++ toString n ++ " bytes from index " ++ toString e.validUpTo
  | none => "incomplete utf-8 byte sequence from index " ++ toString e.validUpTo

def isContinuation (b : UInt8) : Bool := 0x80 ≤ b && b ≤ 0xBF

def secondAllowed (first second : UInt8) : Bool :=
  if first == 0xE0 then 0xA0 ≤ second && second ≤ 0xBF
  else if first == 0xED then 0x80 ≤ second && second ≤ 0x9F
  else if first == 0xF0 then 0x90 ≤ second && second ≤ 0xBF
  else if first == 0xF4 then 0x80 ≤ second && second ≤ 0x8F
  else isContinuation second

def sequenceWidth (b : UInt8) : Nat :=
  if b < 0x80 then 1
  else if 0xC2 ≤ b && b ≤ 0xDF then 2
  else if 0xE0 ≤ b && b ≤ 0xEF then 3
  else if 0xF0 ≤ b && b ≤ 0xF4 then 4
  else 0

def checkSequence (bytes : ByteArray) (i : Nat) : Except Utf8Error Nat :=
  let at? := fun (k : Nat) => bytes[i + k]?
  match at? 0 with
  | none => .ok 0
  | some first =>
    let width := sequenceWidth first
    if width == 1 then .ok 1
    else if width == 0 then .error ⟨i, some 1⟩
    else
      match at? 1 with
      | none => .error ⟨i, none⟩
      | some b1 =>
        if !secondAllowed first b1 then .error ⟨i, some 1⟩
        else if width == 2 then .ok 2
        else
          match at? 2 with
          | none => .error ⟨i, none⟩
          | some b2 =>
            if !isContinuation b2 then .error ⟨i, some 2⟩
            else if width == 3 then .ok 3
            else
              match at? 3 with
              | none => .error ⟨i, none⟩
              | some b3 => if !isContinuation b3 then .error ⟨i, some 3⟩ else .ok 4

def checkFrom (bytes : ByteArray) (i : Nat) : Except Utf8Error Unit :=
  if _h : i < bytes.size then
    match checkSequence bytes i with
    | .ok n => if 0 < n then checkFrom bytes (i + n) else .ok ()
    | .error e => .error e
  else .ok ()
termination_by bytes.size - i

/-- The bytes as text, or why they are not UTF-8. -/
def checkUtf8 (bytes : ByteArray) : Except Utf8Error String :=
  match checkFrom bytes 0 with
  | .ok () => .ok ((String.fromUTF8? bytes).getD "")
  | .error e => .error e

end TableSync
