/-!
Properties of code points as tables of closed ranges, ascending and apart, written as text
(`start-stop:value` in lower-case hex) and looked up by halving.
-/

namespace TableSync

def hexDigitValue (c : Char) : Nat :=
  if '0' ≤ c && c ≤ '9' then c.toNat - 48
  else if 'a' ≤ c && c ≤ 'f' then c.toNat - 87
  else if 'A' ≤ c && c ≤ 'F' then c.toNat - 55
  else 0

def readHex (s : String) : Nat := s.foldl (fun n c => n * 16 + hexDigitValue c) 0

/-- Closed ranges of code points, ascending and apart, each with a value. -/
structure RangeTable where
  entries : Array (Nat × Nat × Nat)
  deriving Inhabited

namespace RangeTable

def readEntry (word : String) : Nat × Nat × Nat :=
  let (span, value) := match word.splitOn ":" with
    | [span, value] => (span, readHex value)
    | _ => (word, 1)
  match span.splitOn "-" with
  | [lo, hi] => (readHex lo, readHex hi, value)
  | _ => (readHex span, readHex span, value)

def decode (text : String) : RangeTable :=
  ⟨((text.splitOn " ").filter (!·.isEmpty)).toArray.map readEntry⟩

def findBetween (entries : Array (Nat × Nat × Nat)) (cp lo hi : Nat) : Option Nat :=
  if lo < hi then
    let mid := (lo + hi) / 2
    match entries[mid]? with
    | some (first, last, value) =>
      if cp < first then findBetween entries cp lo mid
      else if last < cp then findBetween entries cp (mid + 1) hi
      else some value
    | none => none
  else none
termination_by hi - lo

def find? (t : RangeTable) (cp : Nat) : Option Nat := findBetween t.entries cp 0 t.entries.size

def contains (t : RangeTable) (cp : Nat) : Bool := (t.find? cp).isSome

end RangeTable

end TableSync
