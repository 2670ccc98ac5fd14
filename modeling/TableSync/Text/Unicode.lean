/-!
Text helpers: Unicode white space and trimming, ASCII lower-casing, substring search, and unsigned
decimal numbers.
-/

namespace TableSync

def isWhiteSpace (c : Char) : Bool :=
  let n := c.toNat
  (9 ≤ n && n ≤ 13) || n == 32 || n == 0x85 || n == 0xA0 || n == 0x1680 ||
    (0x2000 ≤ n && n ≤ 0x200A) || n == 0x2028 || n == 0x2029 || n == 0x202F ||
    n == 0x205F || n == 0x3000

def dropWhiteSpace : List Char → List Char
  | [] => []
  | c :: rest => if isWhiteSpace c then dropWhiteSpace rest else c :: rest

/-- The text without leading and trailing white space. -/
def trimText (s : String) : String :=
  String.ofList (dropWhiteSpace (dropWhiteSpace s.toList).reverse).reverse

def trimEndText (s : String) : String :=
  String.ofList (dropWhiteSpace s.toList.reverse).reverse

def asciiLowerChar (c : Char) : Char :=
  if 'A' ≤ c && c ≤ 'Z' then Char.ofNat (c.toNat + 32) else c

def asciiLower (s : String) : String := String.ofList (s.toList.map asciiLowerChar)

def sameIgnoringAsciiCase (a b : String) : Bool := asciiLower a == asciiLower b

def startsWithChars : List Char → List Char → Bool
  | _, [] => true
  | [], _ :: _ => false
  | h :: hs, n :: ns => h == n && startsWithChars hs ns

def occursIn (needle : List Char) : List Char → Bool
  | [] => needle.isEmpty
  | h :: hs => startsWithChars (h :: hs) needle || occursIn needle hs

def containsText (hay needle : String) : Bool := occursIn needle.toList hay.toList

def u64Bound : Nat := Nat.pow 2 64 - 1

def parseUnsigned (s : String) : Option Nat :=
  let digits := match s.toList with
    | '+' :: rest => rest
    | cs => cs
  if digits.isEmpty || !digits.all Char.isDigit then none
  else
    let n := digits.foldl (fun n d => n * 10 + (d.toNat - 48)) 0
    if n > u64Bound then none else some n

end TableSync
