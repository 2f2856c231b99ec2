/-!
# Files

What reading and opening files can run into, and a directory of files as a value, in which a
path is followed name by name: every name in front of the last has to lead to a directory that
is there, also where two dots lead back from it.
-/

namespace JoinBench

/-- Why a file cannot be used. -/
inductive FileProblem where
  | notFound
  | exists
  | notDirectory
  | isDirectory
  | nameTooLong
  | nulInPath
  | notText
  /-- A problem in the words of the operating system. -/
  | stated (reason : String)
deriving DecidableEq, Inhabited, Repr

/-- The words for a file problem. -/
def FileProblem.message : FileProblem → String
  | .notFound => "No such file or directory (os error 2)"
  | .exists => "File exists (os error 17)"
  | .notDirectory => "Not a directory (os error 20)"
  | .isDirectory => "Is a directory (os error 21)"
  | .nameTooLong => "File name too long (os error 36)"
  | .nulInPath => "file name contained an unexpected NUL byte"
  | .notText => "stream did not contain valid UTF-8"
  | .stated reason => reason

/-! ### Paths -/

namespace Path

/-- The names in a path; dots count as names. -/
def names (path : String) : List String :=
  ((path.toList.splitOn '/').map String.ofList).filter (· ≠ "")

/-- Whether a path starts at the topmost directory. -/
def isRooted (path : String) : Bool :=
  path.startsWith "/"

/-- Whether a path ends with a slash. -/
def endsInSlash (path : String) : Bool :=
  path.endsWith "/"

/-- The names on the way to the directory that a path starts at. -/
def start (path : String) : List String :=
  if isRooted path then ["/"] else []

/-- The names on the way to the directory above one; those above the directory at hand are
known by their dots only. -/
def above (place : List String) : List String :=
  match place.reverse with
  | [] => [".."]
  | "/" :: _ => place
  | ".." :: _ => place ++ [".."]
  | _ :: rest => rest.reverse

/-- Where a name leads from a directory. -/
def next (place : List String) (name : String) : List String :=
  if name = "." then place
  else if name = ".." then above place
  else place ++ [name]

/-- The places that a path passes, the last of which is its end. -/
def places (path : String) : List (List String) :=
  (names path).foldl (fun passed name => passed ++ [next (passed.getLastD (start path)) name]) []

/-- The names in a path of which each leads on: a single dot only counts at the very start. -/
def leadingNames (path : String) : List String :=
  match names path with
  | [] => []
  | first :: rest =>
    (if isRooted path && first = "." then [] else [first]) ++ rest.filter (· ≠ ".")

/-- The paths of all but the last of some names, then of all but the last two, and so on; the
names are given in reverse. -/
def shorter (root : String) : (reversed : List String) → List String
  | [] => []
  | _ :: rest =>
    if rest.isEmpty && root = "" then []
    else (root ++ String.intercalate "/" rest.reverse) :: shorter root rest

/-- The directories on the way to the end of a path, the innermost first. -/
def parents (path : String) : List String :=
  shorter (if isRooted path then "/" else "") (leadingNames path).reverse

end Path

/-! ### Folders -/

/-- A directory with all that is below it. -/
structure Folder where
  /-- The files, by the names on the way to them. -/
  files : List (List String × ByteArray)
  /-- Directories without files, by the names on the way to them. -/
  folders : List (List String)
deriving Inhabited

/-- What stands at a place. -/
inductive Entry where
  | file (content : ByteArray)
  | folder

/-- What a path names. -/
inductive Target where
  /-- A directory that is there, named by dots. -/
  | dots
  /-- A name in a directory that is there, perhaps with a slash behind it. -/
  | name (folder : List String) (name : String) (slash : Bool)

namespace Folder

/-- The folder of the given files, known by their paths. -/
def ofFiles (files : List (String × ByteArray)) : Folder :=
  ⟨files.map fun f => ((Path.names f.1).filter (· ≠ "."), f.2), []⟩

/-- The file at the end of some names. -/
def file? (folder : Folder) (place : List String) : Option ByteArray :=
  (folder.files.find? (·.1 = place)).map (·.2)

/-- Whether there is a directory at the end of some names: the one at hand, one above it, or one
with something in it. -/
def isFolder (folder : Folder) (place : List String) : Bool :=
  place.all (· = "..") || place = ["/"]
    || folder.files.any (fun f => place.isPrefixOf f.1 && place ≠ f.1)
    || folder.folders.any (fun f => place.isPrefixOf f)

/-- What stands under a name in a directory. -/
def entry? (folder : Folder) (place : List String) (name : String) :
  Except FileProblem (Option Entry) :=
  if 255 < name.utf8ByteSize then .error .nameTooLong
  else
    let place := place ++ [name]
    match folder.file? place with
    | some content => .ok (some (.file content))
    | none => .ok (if folder.isFolder place then some .folder else none)

/-- Goes from one directory to the next. -/
def enter (folder : Folder) (place : List String) (name : String) :
  Except FileProblem (List String) :=
  if name = "." || name = ".." then .ok (Path.next place name)
  else
    match folder.entry? place name with
    | .error problem => .error problem
    | .ok none => .error .notFound
    | .ok (some (.file _)) => .error .notDirectory
    | .ok (some .folder) => .ok (Path.next place name)

/-- What a path names, if it can be followed up to its last name. -/
def target (folder : Folder) (path : String) : Except FileProblem Target :=
  if path.toList.contains '\x00' then .error .nulInPath
  else if path = "" then .error .notFound
  else if 4096 ≤ path.utf8ByteSize then .error .nameTooLong
  else
    match (Path.names path).reverse with
    | [] => .ok .dots
    | last :: way =>
      (way.reverse.foldlM folder.enter (Path.start path)).map fun place =>
        if last = "." || last = ".." then .dots
        else .name place last (Path.endsInSlash path)

/-- Reads a file. -/
def read (folder : Folder) (path : String) : Except FileProblem ByteArray := do
  match ← folder.target path with
  | .dots => throw .isDirectory
  | .name place name slash =>
    match ← folder.entry? place name with
    | none => throw .notFound
    | some .folder => throw .isDirectory
    | some (.file content) => if slash then throw .notDirectory else return content

/-- Whether a path leads to a directory. -/
def hasFolder (folder : Folder) (path : String) : Bool :=
  match folder.target path with
  | .ok .dots => true
  | .ok (.name place name _) =>
    match folder.entry? place name with
    | .ok (some .folder) => true
    | _ => false
  | .error _ => false

/-- Makes a directory. -/
def makeFolder (folder : Folder) (path : String) : Except FileProblem Folder := do
  match ← folder.target path with
  | .dots => throw .exists
  | .name place name _ =>
    match ← folder.entry? place name with
    | some _ => throw .exists
    | none => return { folder with folders := (place ++ [name]) :: folder.folders }

/-- Makes the first of some directories unless it is there.  If it cannot be made because
another one is missing, the others are made before it. -/
def makeFolders (folder : Folder) : (paths : List String) → Except FileProblem Folder
  | [] => .ok folder
  | path :: rest =>
    let settle (folder : Folder) (problem : FileProblem) : Except FileProblem Folder :=
      if folder.hasFolder path then .ok folder else .error problem
    match folder.makeFolder path with
    | .ok folder => .ok folder
    | .error .notFound =>
      match makeFolders folder rest with
      | .error problem => .error problem
      | .ok folder =>
        match folder.makeFolder path with
        | .ok folder => .ok folder
        | .error problem => settle folder problem
    | .error problem => settle folder problem

/-- Opens a file for appending, and makes it and the directories on the way if they are not
there.  The place of the file is given with the folder. -/
def openForAppend (folder : Folder) (path : String) :
  Except FileProblem (Folder × List String) := do
  let folder ← folder.makeFolders (Path.parents path)
  match ← folder.target path with
  | .dots => throw .isDirectory
  | .name place name slash =>
    if slash then throw .isDirectory
    let there := place ++ [name]
    match ← folder.entry? place name with
    | some .folder => throw .isDirectory
    | some (.file _) => return (folder, there)
    | none => return ({ folder with files := (there, .empty) :: folder.files }, there)

/-- The folder with text appended to a file that is there. -/
def append (folder : Folder) (place : List String) (text : String) : Folder :=
  { folder with
    files := folder.files.map fun f => if f.1 = place then (f.1, f.2 ++ text.toUTF8) else f }

end Folder

end JoinBench
