import TableSync.Settings.Validate

/-!
A file system given as data, read by the rules of a POSIX `open` and `read`.
-/

namespace TableSync

inductive FileEntry where
  | missing
  | directory
  | file (text : String)
  deriving DecidableEq, Repr

structure FileSystem where
  entry : String → FileEntry

inductive IoProblem where
  | notFound
  | isDirectory
  | notDirectory
  | nameTooLong
  | nulInName
  deriving DecidableEq, Repr

def IoProblem.text : IoProblem → String
  | .notFound => "No such file or directory (os error 2)"
  | .isDirectory => "Is a directory (os error 21)"
  | .notDirectory => "Not a directory (os error 20)"
  | .nameTooLong => "File name too long (os error 36)"
  | .nulInName => "file name contained an unexpected NUL byte"

namespace FileSystem

def systemDirectories : List String :=
  ["/bin", "/boot", "/dev", "/etc", "/home", "/lib", "/lib64", "/media", "/mnt", "/opt", "/proc",
    "/root", "/run", "/sbin", "/srv", "/sys", "/tmp", "/usr", "/var"]

def bare : FileSystem where
  entry path :=
    if path == "/" || systemDirectories.contains path then .directory
    else if path == "/dev/null" then .file ""
    else if path == "/etc/passwd" then .file "root:x:0:0:root:/root:/bin/bash\n"
    else .missing

def pathOf (names : List String) : String :=
  if names.isEmpty then "/" else String.join (names.map ("/" ++ ·))

def walk (fs : FileSystem) : List String → List String → Except IoProblem (FileEntry × List String)
  | here, [] => .ok (fs.entry (pathOf here), here)
  | here, name :: rest =>
    if name.utf8ByteSize > 255 then .error .nameTooLong
    else if name == ".." then walk fs here.dropLast rest
    else
      let next := here ++ [name]
      match fs.entry (pathOf next) with
      | .missing => .error .notFound
      | .directory => walk fs next rest
      | .file text =>
        if rest.isEmpty then .ok (.file text, next) else .error .notDirectory

def read (fs : FileSystem) (path : String) : Except IoProblem String :=
  if path.toList.contains (Char.ofNat 0) then .error .nulInName
  else if path.isEmpty then .error .notFound
  else if path.utf8ByteSize ≥ 4096 then .error .nameTooLong
  else
    let names := (path.splitOn "/").filter fun n => !n.isEmpty && n != "."
    let relative := !path.startsWith "/"
    if relative && names.all (· == "..") then .error .isDirectory
    else if relative then .error .notFound
    else
      match fs.walk [] names with
      | .error p => .error p
      | .ok (.missing, _) => .error .notFound
      | .ok (.directory, _) => .error .isDirectory
      | .ok (.file text, _) => if path.endsWith "/" then .error .notDirectory else .ok text

end FileSystem

namespace ServiceSettings

/-- Read and parse a settings file. -/
def fromFile (fs : FileSystem) (path : String) : Except SettingsError ServiceSettings :=
  match fs.read path with
  | .error p => .error (.read path p.text)
  | .ok text => ServiceSettings.parse text

def loadFile (fs : FileSystem) (path : String) (env : EnvContext) : Except SettingsError ServiceSettings := do
  let s ← fromFile fs path
  let s ← s.applyEnv env
  s.validate
  return s

end ServiceSettings

end TableSync
