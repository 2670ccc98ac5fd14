import TableSync.Text.Unicode

/-!
Proleptic Gregorian dates, read from `year-month-day` with a year from -262143 to 262142, and
written with a four-digit year, or with a sign and at least four digits outside 0 to 9999.
-/

namespace TableSync

/-- A calendar date. -/
structure Date where
  year : Int
  month : Nat
  day : Nat
  deriving DecidableEq, Repr

namespace Date

def isLeapYear (y : Int) : Bool := (y % 4 == 0 && y % 100 != 0) || y % 400 == 0

def daysInMonth (y : Int) (m : Nat) : Nat :=
  if m == 2 then (if isLeapYear y then 29 else 28)
  else if m == 4 || m == 6 || m == 9 || m == 11 then 30
  else 31

def before (a b : Date) : Bool :=
  a.year < b.year || (a.year == b.year && (a.month < b.month || (a.month == b.month && a.day < b.day)))

def padded (n : Nat) (width : Nat) : String :=
  let s := toString n
  String.ofList (List.replicate (width - s.length) '0') ++ s

def text (d : Date) : String :=
  let year :=
    if 0 ≤ d.year && d.year ≤ 9999 then padded d.year.toNat 4
    else (if d.year < 0 then "-" else "+") ++ padded d.year.natAbs 4
  year ++ "-" ++ padded d.month 2 ++ "-" ++ padded d.day 2

inductive ParseProblem where
  | outOfRange
  | invalid
  | tooShort
  | tooLong
  deriving DecidableEq, Repr

def ParseProblem.text : ParseProblem → String
  | .outOfRange => "input is out of range"
  | .invalid => "input contains invalid characters"
  | .tooShort => "premature end of input"
  | .tooLong => "trailing input"

def numberLimit : Nat := Nat.pow 2 63 - 1

def scanNumber (cs : List Char) (least most : Nat) : Except ParseProblem (Nat × List Char) :=
  if cs.length < least then .error .tooShort
  else
    let rec go : Nat → List Char → Nat → Nat → Except ParseProblem (Nat × List Char)
      | 0, rest, _, n => .ok (n, rest)
      | _ + 1, [], _, n => .ok (n, [])
      | fuel + 1, c :: rest, i, n =>
        if c.isDigit then
          let next := n * 10 + (c.toNat - 48)
          if next > numberLimit then .error .outOfRange else go fuel rest (i + 1) next
        else if i < least then .error .invalid
        else .ok (n, c :: rest)
    go most cs 0 0

def scanYear (cs : List Char) : Except ParseProblem (Int × List Char) :=
  match cs with
  | '-' :: rest => (scanNumber rest 1 rest.length).map fun (n, r) => (-(n : Int), r)
  | '+' :: rest => (scanNumber rest 1 rest.length).map fun (n, r) => ((n : Int), r)
  | _ => (scanNumber cs 1 4).map fun (n, r) => ((n : Int), r)

def expectDash (cs : List Char) : Except ParseProblem (List Char) :=
  match cs with
  | [] => .error .tooShort
  | '-' :: rest => .ok rest
  | _ => .error .invalid

/-- Read a date. -/
def parse (s : String) : Except ParseProblem Date := do
  let cs := dropWhiteSpace s.toList
  let (year, cs) ← scanYear cs
  let cs ← expectDash (dropWhiteSpace cs)
  let (month, cs) ← scanNumber (dropWhiteSpace cs) 1 2
  let cs ← expectDash (dropWhiteSpace cs)
  let (day, cs) ← scanNumber (dropWhiteSpace cs) 1 2
  let cs := dropWhiteSpace cs
  if !cs.isEmpty then throw .tooLong
  if year < -262143 || year > 262142 then throw .outOfRange
  if month < 1 || month > 12 then throw .outOfRange
  if day < 1 || day > daysInMonth year month then throw .outOfRange
  return { year, month, day }

end Date

end TableSync
