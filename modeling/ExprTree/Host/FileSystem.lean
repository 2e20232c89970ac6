/-!
# Files

The files a command reads and writes: a file system of texts by absolute
path, and the directories that exist besides those holding files.

* A path is cleaned (`Path.clean`) by dropping empty and `.` elements and
  resolving `..` against the element before it; a relative path is taken
  from a working directory (`Path.absolute`).
* A directory exists when it is listed or holds a file or a listed
  directory (`FileSystem.isDir`).
* A file is written only into an existing directory (`FileSystem.write`);
  directories are made with all their parents (`FileSystem.mkdirAll`).

Failures are told as the system tells them (`FileError.message`): the
operation, the path as it was given, and the reason.
-/

namespace ExprTree.Host

namespace Path

/-- The elements of a path after cleaning, `..` beyond the start kept only
    for relative paths. -/
def cleanElems (rooted : Bool) (es : List String) : List String :=
  (es.foldl (fun acc e =>
    if e.isEmpty || e == "." then acc
    else if e == ".." then
      match acc with
      | x :: rest => if x == ".." then e :: acc else rest
      | [] => if rooted then [] else [e]
    else e :: acc) []).reverse

/-- A path without empty and `.` elements and with `..` resolved (see the
    module header); the empty path is `.`. -/
def clean (p : String) : String :=
  let rooted := p.startsWith "/"
  let body := "/".intercalate (cleanElems rooted (p.splitOn "/"))
  if rooted then "/" ++ body else if body.isEmpty then "." else body

/-- A path taken from the working directory `cwd` when it is relative,
    cleaned. -/
def absolute (cwd p : String) : String :=
  if p.startsWith "/" then clean p else clean (cwd ++ "/" ++ p)

/-- A path under a directory. -/
def join (dir name : String) : String := clean (dir ++ "/" ++ name)

/-- The directory holding a path. -/
def parent (p : String) : String :=
  match (p.splitOn "/").dropLast with
  | [] => "."
  | [""] => "/"
  | es => "/".intercalate es

end Path

/-- A failure of an operation on a file. -/
inductive FileError where
  /-- Nothing is at the path. -/
  | notFound (op path : String)
  /-- A directory is where a file was wanted. -/
  | isDirectory (op path : String)
  deriving Repr

/-- The text of a failure: the operation, the path and the reason. -/
def FileError.message : FileError → String
  | .notFound op path => op ++ " " ++ path ++ ": no such file or directory"
  | .isDirectory op path => op ++ " " ++ path ++ ": is a directory"

/-- Files by absolute path with their texts, and directories. -/
structure FileSystem where
  /-- The files, each path once. -/
  files : List (String × String) := []
  /-- Directories that exist, besides those holding files. -/
  dirs : List String := []
  deriving Repr, Inhabited

namespace FileSystem

/-- The text of the file at a path. -/
def read? (fs : FileSystem) (path : String) : Option String := fs.files.lookup path

/-- Whether a directory is at a path (see the module header). -/
def isDir (fs : FileSystem) (path : String) : Bool :=
  path == "/" || fs.dirs.contains path ||
    fs.files.any (·.1.startsWith (path ++ "/")) || fs.dirs.any (·.startsWith (path ++ "/"))

/-- Whether anything is at a path. -/
def has (fs : FileSystem) (path : String) : Bool := (fs.read? path).isSome || fs.isDir path

/-- The file system with a directory and its parents made. -/
def mkdirAll (fs : FileSystem) (path : String) : FileSystem :=
  if fs.isDir path then fs else { fs with dirs := fs.dirs ++ [path] }

/-- The file system with the text of a file set, or the failure when its
    directory is missing or a directory is at its path; `name` is the path
    as given. -/
def write (fs : FileSystem) (name path text : String) : Except FileError FileSystem :=
  if fs.isDir path then .error (.isDirectory "open" name)
  else if !fs.isDir (Path.parent path) then .error (.notFound "open" name)
  else if (fs.read? path).isSome then
    .ok { fs with files := fs.files.map fun (p, t) => if p == path then (p, text) else (p, t) }
  else .ok { fs with files := fs.files ++ [(path, text)] }

end FileSystem

end ExprTree.Host
