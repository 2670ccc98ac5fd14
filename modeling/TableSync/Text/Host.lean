import TableSync.Text.Idna
import TableSync.Text.Utf8

/-!
Percent-encoding, and the hosts of URLs: an IPv6 address in brackets, an IPv4 address or a domain
through `domainToAscii` for the special schemes, and an opaque host otherwise.
-/

namespace TableSync

def isUnreservedByte (b : UInt8) : Bool :=
  (65 ≤ b && b ≤ 90) || (97 ≤ b && b ≤ 122) || (48 ≤ b && b ≤ 57) ||
    b == 45 || b == 46 || b == 95 || b == 126

def upperHexDigit (d : Nat) : Char :=
  if d < 10 then Char.ofNat (48 + d) else Char.ofNat (55 + d)

def percentByte (b : UInt8) : List Char :=
  if isUnreservedByte b then [Char.ofNat b.toNat]
  else ['%', upperHexDigit (b.toNat / 16), upperHexDigit (b.toNat % 16)]

def percentEncodeChar (c : Char) : String :=
  String.ofList ((String.singleton c).toUTF8.toList.flatMap fun b =>
    ['%', upperHexDigit (b.toNat / 16), upperHexDigit (b.toNat % 16)])

def formEncode (s : String) : String :=
  String.ofList (s.toUTF8.toList.flatMap fun b =>
    if (65 ≤ b && b ≤ 90) || (97 ≤ b && b ≤ 122) || (48 ≤ b && b ≤ 57) || b == 42 || b == 45 || b == 46 || b == 95
    then [Char.ofNat b.toNat]
    else if b == 32 then ['+']
    else ['%', upperHexDigit (b.toNat / 16), upperHexDigit (b.toNat % 16)])

/-- The percent-encoded form of a segment. -/
def percentEncode (s : String) : String :=
  String.ofList (s.toUTF8.toList.flatMap percentByte)

inductive UrlProblem where
  | emptyHost
  | idnaError
  | invalidPort
  | invalidIpv4Address
  | invalidIpv6Address
  | invalidDomainCharacter
  | relativeUrlWithoutBase
  | relativeUrlWithCannotBeABaseBase
  deriving DecidableEq, Repr

def UrlProblem.text : UrlProblem → String
  | .emptyHost => "empty host"
  | .idnaError => "invalid international domain name"
  | .invalidPort => "invalid port number"
  | .invalidIpv4Address => "invalid IPv4 address"
  | .invalidIpv6Address => "invalid IPv6 address"
  | .invalidDomainCharacter => "invalid domain character"
  | .relativeUrlWithoutBase => "relative URL without a base"
  | .relativeUrlWithCannotBeABaseBase => "relative URL with a cannot-be-a-base base"

inductive Host where
  | domain (name : String)
  | ipv4 (address : Nat)
  | ipv6 (pieces : List Nat)
  deriving DecidableEq, Repr

def ipv4Number (part : List Char) : Option Nat :=
  let digitsIn (base : Nat) (ds : List Char) : Option Nat :=
    ds.foldl (fun acc d =>
      acc.bind fun n =>
        let v := if d.isDigit then some (d.toNat - 48)
          else if 'a' ≤ d && d ≤ 'f' then some (d.toNat - 87)
          else if 'A' ≤ d && d ≤ 'F' then some (d.toNat - 55)
          else none
        v.bind fun v => if v < base then some (n * base + v) else none) (some 0)
  match part with
  | '0' :: 'x' :: rest | '0' :: 'X' :: rest => digitsIn 16 rest
  | '0' :: rest@(_ :: _) => digitsIn 8 rest
  | [] => none
  | _ => digitsIn 10 part

def splitOn (sep : Char) (cs : List Char) : List (List Char) :=
  cs.foldr (fun c acc =>
    if c == sep then [] :: acc
    else match acc with
      | part :: rest => (c :: part) :: rest
      | [] => [[c]]) [[]]

def hostLabels (host : List Char) : List (List Char) :=
  let labels := splitOn '.' host
  match labels.getLast? with
  | some [] => if labels.length > 1 then labels.dropLast else labels
  | _ => labels

def endsInNumber (host : List Char) : Bool :=
  match (hostLabels host).getLast? with
  | some last => (!last.isEmpty && last.all Char.isDigit) || (ipv4Number last).isSome
  | none => false

def parseIpv4 (host : List Char) : Except UrlProblem Nat :=
  let parts := hostLabels host
  if parts.length > 4 then .error .invalidIpv4Address
  else
    match parts.mapM ipv4Number with
    | none => .error .invalidIpv4Address
    | some values =>
      let front := values.dropLast
      let last := values.getLast?.getD 0
      if last ≥ Nat.pow 256 (5 - values.length) then .error .invalidIpv4Address
      else if front.any (· > 255) then .error .invalidIpv4Address
      else .ok (front.zipIdx.foldl (fun acc (v, i) => acc + v * Nat.pow 256 (3 - i)) last)

def dottedQuad (n : Nat) : String :=
  ".".intercalate ([3, 2, 1, 0].map fun k => toString (n / Nat.pow 256 k % 256))

def hexValue (c : Char) : Option Nat :=
  if c.isDigit then some (c.toNat - 48)
  else if 'a' ≤ c && c ≤ 'f' then some (c.toNat - 87)
  else if 'A' ≤ c && c ≤ 'F' then some (c.toNat - 55)
  else none

def hexRun (cs : List Char) : Nat × Nat × List Char :=
  let ds := (cs.takeWhile fun c => (hexValue c).isSome).take 4
  (ds.foldl (fun v c => v * 16 + (hexValue c).getD 0) 0, ds.length, cs.drop ds.length)

def embeddedIpv4 (cs : List Char) : Option (List Nat) :=
  let parts := splitOn '.' cs
  if parts.length != 4 then none
  else parts.mapM fun p =>
    if p.isEmpty || !p.all Char.isDigit || (p.length > 1 && p.head? == some '0') then none
    else
      let n := p.foldl (fun n d => n * 10 + (d.toNat - 48)) 0
      if n > 255 then none else some n

def ipv6Pieces : Nat → List Char → Array Nat → Nat → Option Nat →
    Except UrlProblem (Array Nat × Nat × Option Nat)
  | 0, _, _, _, _ => .error .invalidIpv6Address
  | fuel + 1, cs, pieces, idx, compress =>
    match cs with
    | [] => .ok (pieces, idx, compress)
    | c :: rest =>
      if idx == 8 then .error .invalidIpv6Address
      else if c == ':' then
        if compress.isSome then .error .invalidIpv6Address
        else ipv6Pieces fuel rest pieces (idx + 1) (some (idx + 1))
      else
        let (value, len, after) := hexRun cs
        match after with
        | '.' :: _ =>
          if len == 0 || idx > 6 then .error .invalidIpv6Address
          else
            match embeddedIpv4 cs with
            | some [a, b, c, d] =>
              .ok ((pieces.setIfInBounds idx (a * 256 + b)).setIfInBounds (idx + 1) (c * 256 + d), idx + 2, compress)
            | _ => .error .invalidIpv6Address
        | ':' :: more =>
          if len == 0 || more.isEmpty then .error .invalidIpv6Address
          else ipv6Pieces fuel more (pieces.setIfInBounds idx value) (idx + 1) compress
        | [] => if len == 0 then .error .invalidIpv6Address else .ok (pieces.setIfInBounds idx value, idx + 1, compress)
        | _ => .error .invalidIpv6Address

def parseIpv6 (cs : List Char) : Except UrlProblem (List Nat) := do
  if cs.length < 2 then throw .invalidIpv6Address
  let (start, idx, compress) ← match cs with
    | ':' :: ':' :: rest => pure (rest, 1, some 1)
    | ':' :: _ => throw .invalidIpv6Address
    | _ => pure (cs, 0, none)
  let (pieces, idx, compress) ← ipv6Pieces (start.length + 1) start (Array.replicate 8 0) idx compress
  match compress with
  | some gap =>
    let front := pieces.toList.take gap
    let moved := (pieces.toList.take idx).drop gap
    return front ++ List.replicate (8 - front.length - moved.length) 0 ++ moved
  | none => if idx == 8 then return pieces.toList else throw .invalidIpv6Address

def longestZeroRun (pieces : List Nat) : Option (Nat × Nat) :=
  let runs := (List.range pieces.length).filterMap fun i =>
    let n := ((pieces.drop i).takeWhile (· == 0)).length
    if n ≥ 2 && (i == 0 || pieces[i - 1]? != some 0) then some (i, n) else none
  runs.foldl (fun best r => match best with
    | some b => if r.2 > b.2 then some r else some b
    | none => some r) none

def hexText (n : Nat) : String :=
  String.ofList ((Nat.toDigits 16 n).map fun c => if 'A' ≤ c && c ≤ 'F' then Char.ofNat (c.toNat + 32) else c)

def ipv6Text (pieces : List Nat) : String :=
  match longestZeroRun pieces with
  | none => ":".intercalate (pieces.map hexText)
  | some (start, len) =>
    ":".intercalate ((pieces.take start).map hexText) ++ "::" ++
      ":".intercalate ((pieces.drop (start + len)).map hexText)

def Host.text : Host → String
  | .domain name => name
  | .ipv4 address => dottedQuad address
  | .ipv6 pieces => "[" ++ ipv6Text pieces ++ "]"

def percentDecodeBytes : List Char → List UInt8
  | '%' :: h :: l :: rest =>
    match hexValue h, hexValue l with
    | some a, some b => (a * 16 + b).toUInt8 :: percentDecodeBytes rest
    | _, _ => 37 :: percentDecodeBytes (h :: l :: rest)
  | c :: rest => (String.singleton c).toUTF8.toList ++ percentDecodeBytes rest
  | [] => []

/-- The host of a URL whose scheme has special handling. -/
def parseHost (text : List Char) : Except UrlProblem Host := do
  match text with
  | '[' :: inner =>
    if inner.getLast? != some ']' then throw .invalidIpv6Address
    return .ipv6 (← parseIpv6 inner.dropLast)
  | _ =>
    let decoded ← match checkUtf8 (ByteArray.mk (percentDecodeBytes text).toArray) with
      | .ok s => pure s.toList
      | .error _ => throw .idnaError
    let ascii ← match domainToAscii decoded with
      | some a => pure a
      | none => throw .idnaError
    if ascii.isEmpty then throw .emptyHost
    if endsInNumber ascii.toList then return .ipv4 (← parseIpv4 ascii.toList)
    return .domain ascii

def isForbiddenHostChar (c : Char) : Bool :=
  "\x00\t\n\r #/:<>?@[\\]^|".toList.contains c

def encodeControls (cs : List Char) : String :=
  String.join (cs.map fun c => if c.toNat < 32 || c.toNat ≥ 127 then percentEncodeChar c else String.singleton c)

def parsePlainHost (text : List Char) : Except UrlProblem Host := do
  match text with
  | '[' :: inner =>
    if inner.getLast? != some ']' then throw .invalidIpv6Address
    return .ipv6 (← parseIpv6 inner.dropLast)
  | _ =>
    if text.any isForbiddenHostChar then throw .invalidDomainCharacter
    return .domain (encodeControls text)

end TableSync
