import TableSync.Text.Host
import TableSync.Text.Unicode

/-!
`Url.parse` reads an absolute URL and `Url.text` writes it in normal form, following the URL
standard; `Url.join` reads a URL relative to another.
-/

namespace TableSync

def specialSchemes : List (String × Option Nat) :=
  [("http", some 80), ("https", some 443), ("ws", some 80), ("wss", some 443), ("ftp", some 21),
    ("file", none)]

def isSpecialScheme (scheme : String) : Bool := (specialSchemes.lookup scheme).isSome

def defaultPort (scheme : String) : Option Nat := (specialSchemes.lookup scheme).bind id

inductive UrlPath where
  | unsegmented (text : String)
  | segments (parts : List String)
  deriving DecidableEq, Repr

/-- An absolute URL in parts. -/
structure Url where
  scheme : String
  username : String
  password : String
  host : Option Host
  port : Option Nat
  path : UrlPath
  query : Option String
  fragment : Option String
  deriving DecidableEq, Repr

namespace Url

def userinfo (u : Url) : String :=
  if u.username.isEmpty && u.password.isEmpty then ""
  else u.username ++ (if u.password.isEmpty then "" else ":" ++ u.password) ++ "@"

def pathText (u : Url) : String :=
  match u.path with
  | .unsegmented text => text
  | .segments parts =>
    let guard := if u.host.isNone && parts.length > 1 && parts.head? == some "" then "/." else ""
    guard ++ String.join (parts.map ("/" ++ ·))

def target (u : Url) : String := u.pathText ++ ((u.query.map ("?" ++ ·)).getD "")

def text (u : Url) : String :=
  u.scheme ++ ":" ++
    (match u.host with
     | some h => "//" ++ u.userinfo ++ h.text ++ ((u.port.map fun p => ":" ++ toString p).getD "")
     | none => "") ++
    u.target ++ ((u.fragment.map ("#" ++ ·)).getD "")

end Url

def isSchemeChar (c : Char) : Bool := c.isAlphanum || c == '+' || c == '-' || c == '.'

def splitScheme (cs : List Char) : Option (String × List Char) :=
  match cs with
  | c :: rest =>
    if c.isAlpha then
      let body := rest.takeWhile isSchemeChar
      match rest.drop body.length with
      | ':' :: after => some (asciiLower (String.ofList (c :: body)), after)
      | _ => none
    else none
  | [] => none

def cleanUrlText (text : String) : List Char :=
  let blank := fun (c : Char) => c.toNat ≤ 32
  let cs := ((text.toList.dropWhile blank).reverse.dropWhile blank).reverse
  cs.filter fun c => c != '\t' && c != '\n' && c != '\r'

def encodeComponent (keep : Char → Bool) (cs : List Char) : String :=
  String.join (cs.map fun c => if keep c then String.singleton c else percentEncodeChar c)

def fragmentKeeps (c : Char) : Bool :=
  32 < c.toNat && c.toNat < 127 && !"\"<>`".toList.contains c

def pathKeeps (c : Char) : Bool :=
  fragmentKeeps c && !"#?\x7b\x7d".toList.contains c

def userinfoKeeps (c : Char) : Bool :=
  pathKeeps c && !"/:;=@[\\]^|".toList.contains c

def queryKeeps (special : Bool) (c : Char) : Bool :=
  32 < c.toNat && c.toNat < 127 && !"\"#<>".toList.contains c && !(special && c == '\'')

def unsegmentedKeeps (c : Char) : Bool := 32 ≤ c.toNat && c.toNat < 127

def isDotSegment (s : String) : Bool := s == "." || asciiLower s == "%2e"

def isDoubleDotSegment (s : String) : Bool :=
  [".." , ".%2e", "%2e.", "%2e%2e"].contains (asciiLower s)

def isDriveLetter (s : String) : Bool :=
  match s.toList with
  | [a, b] => a.isAlpha && (b == ':' || b == '|')
  | _ => false

def isNormalizedDriveLetter (s : String) : Bool :=
  match s.toList with
  | [a, b] => a.isAlpha && b == ':'
  | _ => false

structure PathMode where
  special : Bool
  file : Bool

def PathMode.isSlash (m : PathMode) (c : Char) : Bool := c == '/' || (m.special && c == '\\')

def shortenPath (m : PathMode) (path : List String) : List String :=
  match path.getLast? with
  | some last => if m.file && isNormalizedDriveLetter last then path else path.dropLast
  | none => path

def readSegment (m : PathMode) (pathEmpty : Bool) : List Char → List Char → List Char × List Char × Bool
  | acc, [] => (acc.reverse, [], false)
  | acc, c :: rest =>
    if m.isSlash c || c == '?' || c == '#' then (acc.reverse, c :: rest, false)
    else if m.file && pathEmpty && isNormalizedDriveLetter (String.ofList acc.reverse) then
      (acc.reverse, c :: rest, true)
    else readSegment m pathEmpty (c :: acc) rest

def addSegment (m : PathMode) (path : List String) (segment : String) (ended : Bool) :
    List String × Bool :=
  if isDoubleDotSegment segment then
    let path := shortenPath m path
    (if ended then path else path ++ [""], false)
  else if isDotSegment segment then
    (if ended then path else path ++ [""], false)
  else if m.file && path.isEmpty && isDriveLetter segment then
    (path ++ [String.ofList (segment.toList.take 1) ++ ":"], true)
  else (path ++ [segment], false)

def readSegments (m : PathMode) : Nat → List String → Bool → List Char → List String × Bool × List Char
  | 0, path, drive, rest => (path, drive, rest)
  | fuel + 1, path, drive, input =>
    let (raw, rest, cut) := readSegment m path.isEmpty [] input
    let segment := encodeComponent pathKeeps raw
    if cut then readSegments m fuel (path ++ [segment]) drive rest
    else
      match rest with
      | c :: more =>
        if m.isSlash c then
          let (path, d) := addSegment m path segment true
          readSegments m fuel path (drive || d) more
        else
          let (path, d) := addSegment m path segment false
          (path, drive || d, rest)
      | [] =>
        let (path, d) := addSegment m path segment false
        (path, drive || d, [])

def trimFilePath : List String → List String
  | "" :: rest@(_ :: _) => trimFilePath rest
  | path => path

def readPath (m : PathMode) (path : List String) (input : List Char) :
    List String × Bool × List Char :=
  let (path, drive, rest) := readSegments m (input.length + 1) path false input
  ((if m.file then trimFilePath path else path), drive, rest)

def readQueryFragment (special : Bool) (input : List Char) : Option String × Option String :=
  let (queryPart, afterQuery) := match input with
    | '?' :: more =>
      let q := more.takeWhile (· != '#')
      (some (encodeComponent (queryKeeps special) q), more.drop q.length)
    | _ => (none, input)
  let fragment := match afterQuery with
    | '#' :: frag => some (encodeComponent fragmentKeeps frag)
    | _ => none
  (queryPart, fragment)

def readUserinfo (info : List Char) : String × String :=
  let user := info.takeWhile (· != ':')
  let pass := (info.drop user.length).drop 1
  (encodeComponent userinfoKeeps user, encodeComponent userinfoKeeps pass)

def endsAuthority (special : Bool) (c : Char) : Bool :=
  c == '/' || c == '?' || c == '#' || (special && c == '\\')

def readHostText (special : Bool) : Bool → List Char → List Char → List Char × List Char
  | _, acc, [] => (acc.reverse, [])
  | inside, acc, c :: rest =>
    if (c == ':' && !inside) || endsAuthority special c then (acc.reverse, c :: rest)
    else readHostText special (if c == '[' then true else if c == ']' then false else inside) (c :: acc) rest

def readPort (scheme : String) (input : List Char) : Except UrlProblem (Option Nat × List Char) := do
  let digits := input.takeWhile Char.isDigit
  let rest := input.drop digits.length
  let value := digits.foldl (fun (n : Nat) d => n * 10 + (d.toNat - 48)) 0
  if value > 65535 then throw .invalidPort
  match rest with
  | c :: _ => if !(c == '/' || c == '\\' || c == '?' || c == '#') then throw .invalidPort
  | [] => pure ()
  if digits.isEmpty || defaultPort scheme == some value then return (none, rest)
  return (some value, rest)

def readAuthority (scheme : String) (input : List Char) : Except UrlProblem Url := do
  let special := isSpecialScheme scheme
  let scope := input.takeWhile fun c => !endsAuthority special c
  let (info, afterInfo) ← match scope.reverse.findIdx? (· == '@') with
    | none => pure ([], input)
    | some k =>
      let sign := scope.length - 1 - k
      let after := input.drop (sign + 1)
      if sign == 0 then
        match after with
        | c :: _ => if endsAuthority special c then throw .emptyHost else pure ([], after)
        | [] => pure ([], after)
      else pure (input.take sign, after)
  let (username, password) := readUserinfo info
  let hasInfo := !username.isEmpty || !password.isEmpty
  let (hostText, afterHost) := readHostText special false [] afterInfo
  if special && hostText.isEmpty then throw .emptyHost
  let host ← if special then parseHost hostText else parsePlainHost hostText
  if host == .domain "" && afterHost.head? == some ':' then throw .emptyHost
  let (port, afterPort) ← match afterHost with
    | ':' :: more => readPort scheme more
    | _ => pure (none, afterHost)
  if host == .domain "" && hasInfo then throw .emptyHost
  let mode : PathMode := { special, file := false }
  let (path, _, rest) ← pure <|
    if special then
      match afterPort with
      | c :: more => if mode.isSlash c then readPath mode [] more else readPath mode [] afterPort
      | [] => readPath mode [] []
    else
      match afterPort with
      | [] => ([], false, [])
      | '?' :: _ | '#' :: _ => ([], false, afterPort)
      | '/' :: more => readPath mode [] more
      | _ => readPath mode [] afterPort
  let (query, fragment) := readQueryFragment special rest
  return { scheme, username, password, host := some host, port, path := .segments path, query, fragment }

def readFile (input : List Char) : Except UrlProblem Url := do
  let mode : PathMode := { special := true, file := true }
  let finish := fun (host : Option Host) (path : List String) (rest : List Char) =>
    let (query, fragment) := readQueryFragment true rest
    ({ scheme := "file", username := "", password := "", host, port := none,
       path := .segments path, query, fragment } : Url)
  match input with
  | a :: b :: more =>
    if mode.isSlash a && mode.isSlash b then
      let hostText := more.takeWhile fun c => !(mode.isSlash c || c == '?' || c == '#')
      let afterHost := more.drop hostText.length
      if isDriveLetter (String.ofList hostText) then
        let (path, _, rest) := readPath mode [] more
        return finish (some (.domain "")) path rest
      let host ← if hostText.isEmpty then pure none
        else
          match ← parseHost hostText with
          | .domain "localhost" => pure none
          | h => pure (some h)
      let pathInput := match afterHost with
        | c :: rest => if mode.isSlash c then rest else afterHost
        | [] => afterHost
      let (path, drive, rest) := readPath mode [] pathInput
      let host := if drive then none else host
      return finish (some (host.getD (.domain ""))) path rest
    else if mode.isSlash a then
      let (path, _, rest) := readPath mode [] (b :: more)
      return finish (some (.domain "")) path rest
    else
      let (path, _, rest) := readPath mode [] input
      return finish (some (.domain "")) path rest
  | a :: more =>
    let (path, _, rest) := readPath mode [] (if mode.isSlash a then more else input)
    return finish (some (.domain "")) path rest
  | [] =>
    let (path, _, rest) := readPath mode [] []
    return finish (some (.domain "")) path rest

def readPlain (scheme : String) (input : List Char) : Url :=
  match input with
  | '/' :: more =>
    let (path, _, rest) := readPath { special := false, file := false } [] more
    let (query, fragment) := readQueryFragment false rest
    { scheme, username := "", password := "", host := none, port := none, path := .segments path,
      query, fragment }
  | _ =>
    let whole := input.takeWhile fun c => c != '?' && c != '#'
    let (query, fragment) := readQueryFragment false (input.drop whole.length)
    { scheme, username := "", password := "", host := none, port := none,
      path := .unsegmented (encodeComponent unsegmentedKeeps whole), query, fragment }

def readAfterScheme (scheme : String) (rest : List Char) : Except UrlProblem Url :=
  if scheme == "file" then readFile rest
  else if isSpecialScheme scheme then
    readAuthority scheme (rest.dropWhile fun c => c == '/' || c == '\\')
  else
    match rest with
    | '/' :: '/' :: more => readAuthority scheme more
    | _ => .ok (readPlain scheme rest)

namespace Url

/-- Read an absolute URL. -/
def parse (text : String) : Except UrlProblem Url :=
  match splitScheme (cleanUrlText text) with
  | none => .error .relativeUrlWithoutBase
  | some (scheme, rest) => readAfterScheme scheme rest

def resolve (base : Url) (input : List Char) : Except UrlProblem Url := do
  let special := isSpecialScheme base.scheme
  let mode : PathMode := { special, file := base.scheme == "file" }
  let basePath := match base.path with
    | .segments parts => parts
    | .unsegmented _ => []
  match input with
  | [] => return { base with fragment := none }
  | '?' :: _ =>
    let (query, fragment) := readQueryFragment special input
    return { base with query, fragment }
  | '#' :: _ =>
    let (_, fragment) := readQueryFragment special input
    return { base with fragment }
  | c :: more =>
    if c == '/' || c == '\\' then
      let slashes := input.takeWhile fun c => c == '/' || c == '\\'
      if slashes.length ≥ 2 then
        match input with
        | '/' :: '/' :: after => readAuthority base.scheme after
        | _ => readAuthority base.scheme (input.drop slashes.length)
      else
        let (path, _, rest) := readPath mode [] more
        let (query, fragment) := readQueryFragment special rest
        return { base with path := .segments path, query, fragment }
    else
      let (path, _, rest) := readPath mode (shortenPath mode basePath) input
      let (query, fragment) := readQueryFragment special rest
      return { base with path := .segments path, query, fragment }

/-- Read a URL relative to this one: an absolute URL as it is, anything else against
this URL's parts. -/
def join (base : Url) (text : String) : Except UrlProblem Url :=
  let cs := cleanUrlText text
  match splitScheme cs with
  | some (scheme, rest) =>
    let slashes := rest.takeWhile fun c => c == '/' || c == '\\'
    if scheme == base.scheme && isSpecialScheme scheme && scheme != "file" && slashes.length < 2 then
      base.resolve rest
    else readAfterScheme scheme rest
  | none =>
    match cs, base.path with
    | '#' :: _, _ => base.resolve cs
    | _, .unsegmented _ => .error .relativeUrlWithCannotBeABaseBase
    | _, _ => base.resolve cs

/-- A percent-encoded text decoded, when the bytes are UTF-8. -/
def decodedText (s : String) : Option String :=
  match checkUtf8 (ByteArray.mk (percentDecodeBytes s.toList).toArray) with
  | .ok t => some t
  | .error _ => none

def hasHost (u : Url) : Bool :=
  match u.host with
  | some (.domain "") | none => false
  | some _ => true

def takeCredentials (u : Url) : Url × Option (String × Option String) :=
  match u.host, decodedText u.username with
  | some _, some user =>
    let pass := if u.password.isEmpty then none else decodedText u.password
    if !user.isEmpty || pass.isSome then
      ({ u with username := "", password := if pass.isSome then "" else u.password }, some (user, pass))
    else (u, none)
  | _, _ => (u, none)

end Url

def urlScheme (text : String) : Except UrlProblem String := (Url.parse text).map (·.scheme)

end TableSync
