import DiskUploader.Fault.Basic

/-!
# Files

The files a run of the uploader can see: a tree of regular files and directories under absolute
paths, a home directory and a working directory that relative paths start from. Reading a path
that does not exist, or whose parent is a regular file, or that is a directory, fails with the
operating system's error; so does writing into a directory that does not exist.

An operating-system error shows as its text followed by its number; an I/O failure becomes a
fault through `Fault.ofIo`, which wraps it as an I/O error.
-/

namespace DiskUploader

inductive OsError where
  | notFound
  | isDirectory
  | notDirectory
  | permissionDenied
  | alreadyExists
  deriving DecidableEq, Repr, Inhabited

def OsError.message : OsError → String
  | notFound => "No such file or directory (os error 2)"
  | isDirectory => "Is a directory (os error 21)"
  | notDirectory => "Not a directory (os error 20)"
  | permissionDenied => "Permission denied (os error 13)"
  | alreadyExists => "File exists (os error 17)"

def Fault.ofIo (cause : List Layer) : Fault := Fault.wrap cause .unidentified "I/O error"

inductive Entry where
  | file (bytes : ByteArray)
  | directory

/-- A tree of files under absolute paths. Directories that hold an entry exist without being
listed. -/
structure FileSystem where
  entries : List (String × Entry) := []
  home : String := "/"
  cwd : String := "/"

namespace FileSystem

/-- Resolves the segments of a path: empty segments and `.` are dropped, `..` drops the segment
before it. -/
def normalize (segments : List String) : List String :=
  (segments.foldl (fun acc s =>
    if s.isEmpty || s == "." then acc else if s == ".." then acc.drop 1 else s :: acc) []).reverse

def absolute (fs : FileSystem) (path : String) : String :=
  let full := if path.startsWith "/" then path else fs.cwd ++ "/" ++ path
  "/" ++ "/".intercalate (normalize (full.splitOn "/"))

def parent (path : String) : String :=
  "/" ++ "/".intercalate (normalize (path.splitOn "/")).dropLast

def below (dir path : String) : Bool :=
  dir == "/" && path != "/" || path.startsWith (dir ++ "/")

inductive Kind where
  | file (bytes : ByteArray)
  | directory
  | missing
  /-- A path through a regular file. -/
  | blocked

def kind (fs : FileSystem) (path : String) : Kind :=
  let p := fs.absolute path
  if fs.entries.any fun (q, _) => below q p && (fs.entries.lookup q matches some (.file _)) then
    .blocked
  else match fs.entries.lookup p with
    | some (.file b) => .file b
    | some .directory => .directory
    | none =>
      if p == "/" || fs.entries.any fun (q, _) => below p q then .directory else .missing

/-- Opens a path for reading: directories open too. -/
def openFile (fs : FileSystem) (path : String) : Except OsError Unit :=
  match fs.kind path with
  | .missing => .error .notFound
  | .blocked => .error .notDirectory
  | _ => .ok ()

def read (fs : FileSystem) (path : String) : Except OsError ByteArray :=
  match fs.kind path with
  | .file b => .ok b
  | .directory => .error .isDirectory
  | .missing => .error .notFound
  | .blocked => .error .notDirectory

def existsAt (fs : FileSystem) (path : String) : Bool :=
  match fs.kind path with
  | .file _ | .directory => true
  | _ => false

/-- Writes a regular file; its directory must exist. -/
def write (fs : FileSystem) (path : String) (bytes : ByteArray) : Except OsError FileSystem :=
  let p := fs.absolute path
  match fs.kind (parent p), fs.kind p with
  | .directory, .directory => .error .isDirectory
  | .directory, _ => .ok { fs with entries := (fs.entries.filter (·.1 != p)) ++ [(p, .file bytes)] }
  | .missing, _ => .error .notFound
  | _, _ => .error .notDirectory

def createDirAll (fs : FileSystem) (path : String) : Except OsError FileSystem :=
  let p := fs.absolute path
  match fs.kind p with
  | .directory => .ok fs
  | .missing => .ok { fs with entries := fs.entries ++ [(p, .directory)] }
  | _ => .error .alreadyExists

def fileName (path : String) : String :=
  ((path.splitOn "/").filter (!·.isEmpty)).getLastD ""

end FileSystem

end DiskUploader
