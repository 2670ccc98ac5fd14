import TableSync.Unicode.GeneralCategory
import TableSync.Unicode.GraphemeExtend

/-!
Quoted text in messages: escapes for the characters that would not read back, by the tables of
Unicode 17.0, the default-ignorable code points among them.
-/

namespace TableSync

def GeneralCategory.hidden : GeneralCategory → Bool
  | .control | .format | .surrogate | .privateUse | .unassigned
  | .spaceSeparator | .lineSeparator | .paragraphSeparator => true
  | _ => false

def defaultIgnorableRanges : List (Nat × Nat) :=
  [(0xAD, 0xAD), (0x34F, 0x34F), (0x61C, 0x61C), (0x115F, 0x1160), (0x17B4, 0x17B5),
   (0x180B, 0x180F), (0x200B, 0x200F), (0x202A, 0x202E), (0x2060, 0x206F), (0x3164, 0x3164),
   (0xFE00, 0xFE0F), (0xFEFF, 0xFEFF), (0xFFA0, 0xFFA0), (0xFFF0, 0xFFF8), (0x1BCA0, 0x1BCA3),
   (0x1D173, 0x1D17A), (0xE0000, 0xE0FFF)]

def isDefaultIgnorable (cp : Nat) : Bool :=
  defaultIgnorableRanges.any fun (lo, hi) => lo ≤ cp && cp ≤ hi

def writtenAsEscape (n : Nat) : Bool :=
  n != 0x20 && (isGraphemeExtend n || (generalCategory n).hidden || isDefaultIgnorable n)

def hexDigits (n : Nat) : String :=
  let digit (d : Nat) : Char := if d < 10 then Char.ofNat (48 + d) else Char.ofNat (87 + d)
  let rec go : Nat → Nat → List Char → List Char
    | 0, _, acc => acc
    | fuel + 1, m, acc => if m < 16 then digit m :: acc else go fuel (m / 16) (digit (m % 16) :: acc)
  String.ofList (go 8 n [])

def debugChar (c : Char) : String :=
  let n := c.toNat
  if c = '"' then "\\\""
  else if c = '\\' then "\\\\"
  else if c = '\t' then "\\t"
  else if c = '\r' then "\\r"
  else if c = '\n' then "\\n"
  else if n = 0 then "\\0"
  else if writtenAsEscape n then "\\u\x7b" ++ hexDigits n ++ "\x7d"
  else String.singleton c

/-- `s` between double quotes, escaped as messages quote it. -/
def debugQuote (s : String) : String :=
  "\"" ++ String.join (s.toList.map debugChar) ++ "\""

end TableSync
