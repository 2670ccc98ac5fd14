import TableSync.Text.Punycode
import TableSync.Unicode.IdnaMapping
import TableSync.Unicode.Normalization
import TableSync.Unicode.GeneralCategory
import TableSync.Unicode.BidiClass
import TableSync.Unicode.JoiningType

/-!
`domainToAscii` turns a domain name into its ASCII form by the processing of UTS 46, keeping
deviations and applying the joiner and bidirectional rules, or refuses it as a whole.
-/

namespace TableSync

def isDeniedAscii (cp : Nat) : Bool :=
  cp ≤ 0x20 || cp == 0x7F || "%#/:<>?@[\\]^|".toList.any (·.toNat == cp)

def mapCodePoints : List Nat → Option (List Nat)
  | [] => some []
  | cp :: rest =>
    match idnaStatus cp with
    | .valid | .deviation => (mapCodePoints rest).map (cp :: ·)
    | .ignored => mapCodePoints rest
    | .mapped image => (mapCodePoints rest).map (image ++ ·)
    | .disallowed => none

def splitLabels (cps : List Nat) : List (List Nat) :=
  cps.foldr (fun cp acc =>
    if cp == 0x2E then [] :: acc
    else match acc with
      | label :: rest => (cp :: label) :: rest
      | [] => [[cp]]) [[]]

def acePrefix : List Nat := [0x78, 0x6E, 0x2D, 0x2D]

def keptByMapping (cp : Nat) : Bool :=
  match idnaStatus cp with
  | .valid | .deviation => true
  | _ => false

def labelToUnicode (label : List Nat) : Option (List Nat) :=
  if label.take 4 == acePrefix then
    let digits := label.drop 4
    if digits.any (128 ≤ ·) then none
    else
      match Punycode.decode (digits.map Char.ofNat) with
      | none => none
      | some decoded =>
        if decoded.isEmpty || decoded.all (· < 128) || !isNfc decoded || !decoded.all keptByMapping then none
        else some decoded
  else some label

def joinerAllowed (label : List Nat) (i : Nat) : Bool :=
  let before := label.take i
  let after := label.drop (i + 1)
  if before.getLast?.map (fun cp => combiningClass cp == viramaClass) == some true then true
  else if label[i]? == some 0x200C then
    let joinsLeft := match (before.reverse.dropWhile (joiningType · == .transparent)).head? with
      | some cp => joiningType cp == .leftJoining || joiningType cp == .dualJoining
      | none => false
    let joinsRight := match (after.dropWhile (joiningType · == .transparent)).head? with
      | some cp => joiningType cp == .rightJoining || joiningType cp == .dualJoining
      | none => false
    joinsLeft && joinsRight
  else false

def joinersAllowed (label : List Nat) : Bool :=
  (List.range label.length).all fun i =>
    match label[i]? with
    | some 0x200C | some 0x200D => joinerAllowed label i
    | _ => true

def labelValid (label : List Nat) : Bool :=
  label.take 4 != acePrefix &&
    (label.head?.map fun cp => !(generalCategory cp).isMark).getD true &&
    joinersAllowed label

def isRightToLeft (cp : Nat) : Bool :=
  match bidiClass cp with
  | .rightToLeft | .arabicLetter | .arabicNumber => true
  | _ => false

def leftToRightAllowed : BidiClass → Bool
  | .leftToRight | .europeanNumber | .europeanSeparator | .commonSeparator | .europeanTerminator
  | .otherNeutral | .boundaryNeutral | .nonspacingMark => true
  | _ => false

def rightToLeftAllowed : BidiClass → Bool
  | .rightToLeft | .arabicLetter | .arabicNumber | .europeanNumber | .europeanSeparator
  | .commonSeparator | .europeanTerminator | .otherNeutral | .boundaryNeutral
  | .nonspacingMark => true
  | _ => false

def lastNonMarkClass (label : List Nat) : Option BidiClass :=
  (label.reverse.map bidiClass).find? (· != .nonspacingMark)

def bidiLabelValid (label : List Nat) : Bool :=
  match label with
  | [] => true
  | first :: rest =>
    let classes := rest.map bidiClass
    match bidiClass first with
    | .leftToRight =>
      classes.all leftToRightAllowed &&
        (match lastNonMarkClass label with
         | some .leftToRight | some .europeanNumber | none => true
         | _ => false)
    | .rightToLeft | .arabicLetter =>
      classes.all rightToLeftAllowed &&
        (match lastNonMarkClass label with
         | some .rightToLeft | some .arabicLetter | some .europeanNumber | some .arabicNumber => true
         | _ => false) &&
        !(classes.contains .europeanNumber && classes.contains .arabicNumber)
    | _ => false

def labelToAscii (label : List Nat) : String :=
  if label.all (· < 128) then String.ofList (label.map Char.ofNat)
  else "xn--" ++ Punycode.encode (label.map Char.ofNat)

/-- The ASCII form of a domain name, or none when the processing refuses it. -/
def domainToAscii (name : List Char) : Option String := do
  let mapped ← mapCodePoints (name.map Char.toNat)
  let normalized := nfc mapped
  if normalized.any fun cp => cp < 128 && isDeniedAscii cp then none
  let labels := splitLabels normalized
  let decoded ← labels.mapM labelToUnicode
  if !decoded.all labelValid then none
  if decoded.any (·.any isRightToLeft) && !decoded.all bidiLabelValid then none
  return ".".intercalate (labels.map labelToAscii)

end TableSync
