import TableSync.Unicode.CombiningClass
import TableSync.Unicode.Decomposition

/-!
Canonical normalization of code points: full decomposition, a stable canonical ordering of
non-starters, and composition with the last starter nothing blocks.
-/

namespace TableSync

def decompositionTable : Array Decomposition :=
  ((decompositionText.splitOn " ").filter (!·.isEmpty)).toArray.map readDecomposition

def decompositionBetween (cp lo hi : Nat) : Option Decomposition :=
  if lo < hi then
    let mid := (lo + hi) / 2
    match decompositionTable[mid]? with
    | some d =>
      if cp < d.codePoint then decompositionBetween cp lo mid
      else if d.codePoint < cp then decompositionBetween cp (mid + 1) hi
      else some d
    | none => none
  else none
termination_by hi - lo

def decompositionOf (cp : Nat) : Option Decomposition :=
  decompositionBetween cp 0 decompositionTable.size

def hangulFirst : Nat := 0xAC00

def leadFirst : Nat := 0x1100
def vowelFirst : Nat := 0x1161
def trailBefore : Nat := 0x11A7

def vowelCount : Nat := 21
def trailCount : Nat := 28
def syllableCount : Nat := 11172

def isHangulSyllable (cp : Nat) : Bool := hangulFirst ≤ cp && cp < hangulFirst + syllableCount

def hangulParts (cp : Nat) : List Nat :=
  let s := cp - hangulFirst
  let lead := leadFirst + s / (vowelCount * trailCount)
  let vowel := vowelFirst + s % (vowelCount * trailCount) / trailCount
  let trail := s % trailCount
  if trail = 0 then [lead, vowel] else [lead, vowel, trailBefore + trail]

def decomposeWith : Nat → Nat → List Nat
  | 0, cp => [cp]
  | fuel + 1, cp =>
    if isHangulSyllable cp then hangulParts cp
    else
      match decompositionOf cp with
      | some d => d.parts.flatMap (decomposeWith fuel)
      | none => [cp]

def canonicalDecomposition (cp : Nat) : List Nat := decomposeWith 8 cp

def sortRun (run : List Nat) : List Nat :=
  run.mergeSort fun a b => combiningClass a ≤ combiningClass b

def orderRuns : List Nat → List Nat → List Nat
  | [], run => sortRun run.reverse
  | cp :: rest, run =>
    if combiningClass cp = 0 then sortRun run.reverse ++ cp :: orderRuns rest []
    else orderRuns rest (cp :: run)

def canonicalOrder (cps : List Nat) : List Nat := orderRuns cps []

def nfd (cps : List Nat) : List Nat := canonicalOrder (cps.flatMap canonicalDecomposition)

def pairKey (first second : Nat) : Nat := first * 0x110000 + second

def compositionTable : Array (Nat × Nat) :=
  let pairs := decompositionTable.toList.filterMap fun d =>
    match d.composes, d.parts with
    | true, [a, b] => some (pairKey a b, d.codePoint)
    | _, _ => none
  (pairs.mergeSort fun x y => x.1 ≤ y.1).toArray

def compositeBetween (key lo hi : Nat) : Option Nat :=
  if lo < hi then
    let mid := (lo + hi) / 2
    match compositionTable[mid]? with
    | some (k, composite) =>
      if key < k then compositeBetween key lo mid
      else if k < key then compositeBetween key (mid + 1) hi
      else some composite
    | none => none
  else none
termination_by hi - lo

def composePair (first second : Nat) : Option Nat :=
  if leadFirst ≤ first && first < leadFirst + 19 && vowelFirst ≤ second && second < vowelFirst + vowelCount then
    some (hangulFirst + ((first - leadFirst) * vowelCount + (second - vowelFirst)) * trailCount)
  else if isHangulSyllable first && (first - hangulFirst) % trailCount = 0 &&
      trailBefore < second && second < trailBefore + trailCount then
    some (first + (second - trailBefore))
  else compositeBetween (pairKey first second) 0 compositionTable.size

structure Composing where
  written : Array Nat
  starter : Nat
  lastClass : Nat

def composeStep (st : Composing) (cp : Nat) : Composing :=
  let cls := combiningClass cp
  let joined :=
    if st.lastClass < cls || st.lastClass = 0 then composePair (st.written.getD st.starter 0) cp
    else none
  match joined with
  | some composite => { st with written := st.written.set! st.starter composite }
  | none =>
    if cls = 0 then { written := st.written.push cp, starter := st.written.size, lastClass := 0 }
    else { st with written := st.written.push cp, lastClass := cls }

def compose : List Nat → List Nat
  | [] => []
  | first :: rest =>
    let start : Composing :=
      { written := #[first], starter := 0, lastClass := if combiningClass first = 0 then 0 else 256 }
    (rest.foldl composeStep start).written.toList

/-- Normalization form C: canonical decomposition, then canonical composition. -/
def nfc (cps : List Nat) : List Nat := compose (nfd cps)

def isNfc (cps : List Nat) : Bool := nfc cps == cps

end TableSync
