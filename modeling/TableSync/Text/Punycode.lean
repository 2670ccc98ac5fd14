/-!
Punycode (RFC 3492): a label's non-ASCII characters as ASCII letters and digits, and back, with
32-bit numbers in decoding.
-/

namespace TableSync

namespace Punycode

def digitChar (d : Nat) : Char :=
  if d < 26 then Char.ofNat (97 + d) else Char.ofNat (22 + d)

def threshold (k bias : Nat) : Nat :=
  if k ≤ bias then 1 else if bias + 26 ≤ k then 26 else k - bias

theorem threshold_pos (k bias : Nat) : 1 ≤ threshold k bias := by
  unfold threshold
  split
  · omega
  · split <;> omega

theorem threshold_le (k bias : Nat) : threshold k bias ≤ 26 := by
  unfold threshold
  split
  · omega
  · split <;> omega

def adaptLoop (delta k : Nat) : Nat × Nat :=
  if 455 < delta then adaptLoop (delta / 35) (k + 36) else (delta, k)
termination_by delta
decreasing_by exact Nat.div_lt_self (by omega) (by omega)

def adapt (delta points : Nat) (first : Bool) : Nat :=
  let d := if first then delta / 700 else delta / 2
  let d := d + d / points
  let (d, k) := adaptLoop d 0
  k + 36 * d / (d + 38)

def encodeDigits (bias k q : Nat) : List Char :=
  let t := threshold k bias
  if q < t then [digitChar q]
  else digitChar (t + (q - t) % (36 - t)) :: encodeDigits bias (k + 36) ((q - t) / (36 - t))
termination_by q
decreasing_by
  have _h1 := threshold_pos k bias
  have _h2 := threshold_le k bias
  calc (q - threshold k bias) / (36 - threshold k bias)
      ≤ q - threshold k bias := Nat.div_le_self _ _
    _ < q := by omega

structure State where
  out : List Char
  delta : Nat
  bias : Nat
  handled : Nat

def visit (basic m : Nat) (st : State) (c : Char) : State :=
  if c.toNat < m then { st with delta := st.delta + 1 }
  else if c.toNat == m then
    { out := st.out ++ encodeDigits st.bias 36 st.delta, delta := 0,
      bias := adapt st.delta (st.handled + 1) (st.handled == basic), handled := st.handled + 1 }
  else st

def insertAll (input : List Char) (basic : Nat) : List Nat → Nat → State → State
  | [], _, st => st
  | m :: rest, n, st =>
    let st := input.foldl (visit basic m) { st with delta := st.delta + (m - n) * (st.handled + 1) }
    insertAll input basic rest (m + 1) { st with delta := st.delta + 1 }

def insertSorted (x : Nat) : List Nat → List Nat
  | [] => [x]
  | y :: ys => if x < y then x :: y :: ys else if x == y then y :: ys else y :: insertSorted x ys

/-- The label's encoding, without the `xn--` prefix. -/
def encode (input : List Char) : String :=
  let basic := input.filter (·.toNat < 128)
  let points := ((input.filter (128 ≤ ·.toNat)).map Char.toNat).foldr insertSorted []
  let st := insertAll input basic.length points 128
    { out := [], delta := 0, bias := 72, handled := basic.length }
  String.ofList (basic ++ (if basic.isEmpty then [] else ['-']) ++ st.out)

def digitValue (c : Char) : Option Nat :=
  if '0' ≤ c && c ≤ '9' then some (c.toNat - 48 + 26)
  else if 'A' ≤ c && c ≤ 'Z' then some (c.toNat - 65)
  else if 'a' ≤ c && c ≤ 'z' then some (c.toNat - 97)
  else none

def wordMax : Nat := Nat.pow 2 32 - 1

def readNumber (bias : Nat) : Nat → List Char → Nat → Nat → Nat → Option (Nat × List Char)
  | 0, _, _, _, _ => none
  | _ + 1, [], _, _, _ => none
  | fuel + 1, c :: rest, i, w, k =>
    match digitValue c with
    | none => none
    | some digit =>
      if digit > (wordMax - i) / w then none
      else
        let i := i + digit * w
        let t := threshold k bias
        if digit < t then some (i, rest)
        else if w > wordMax / (36 - t) then none
        else readNumber bias fuel rest i (w * (36 - t)) (k + 36)

def insertDecoded : Nat → List Char → List Nat → Nat → Nat → Nat → Option (List Nat)
  | _, [], out, _, _, _ => some out
  | 0, _ :: _, _, _, _, _ => none
  | fuel + 1, digits, out, n, i, bias =>
    match readNumber bias (digits.length + 1) digits i 1 36 with
    | none => none
    | some (next, rest) =>
      let len := out.length + 1
      let bias := adapt (next - i) len (i == 0)
      let n := n + next / len
      if n > 0x10FFFF || (0xD800 ≤ n && n ≤ 0xDFFF) then none
      else
        let pos := next % len
        insertDecoded fuel rest (out.take pos ++ n :: out.drop pos) n (pos + 1) bias

/-- The code points a label's encoding stands for, without the `xn--` prefix. -/
def decode (input : List Char) : Option (List Nat) :=
  let (basic, digits) := match input.reverse.findIdx? (· == '-') with
    | some k =>
      let p := input.length - 1 - k
      if p == 0 then ([], input) else (input.take p, input.drop (p + 1))
    | none => ([], input)
  if basic.any (128 ≤ ·.toNat) then none
  else insertDecoded digits.length digits (basic.map Char.toNat) 128 0 72

end Punycode

def asciiLabel (label : List Char) : String :=
  if label.all (·.toNat < 128) then String.ofList label else "xn--" ++ Punycode.encode label

end TableSync
