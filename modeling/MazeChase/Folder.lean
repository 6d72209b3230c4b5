/-!
# Folders

Text files held in memory, and how a path leads to one of them. A path is followed name by name,
starting from the folder, or, if it begins with a slash, from somewhere around it. Nothing is known
of what lies around the folder.

* `FileError` and its `message`: why a path leads to no text;
* `Folder`, `Folder.read`: the text to which a path leads.
-/

set_option autoImplicit false

namespace MazeChase

/-- Why a path leads to no text. -/
inductive FileError where
  /-- Nothing has the name. -/
  | missing
  /-- The path goes on after a file. -/
  | notFolder
  /-- The path ends at a folder. -/
  | isFolder
  /-- The path, or a name in it, is too long. -/
  | tooLong
  /-- Another reason, in the words of whoever looked. -/
  | other (text : String)
deriving DecidableEq, Repr

/-- What the player is told. -/
def FileError.message : FileError → String
  | missing => "No such file or directory (os error 2)"
  | notFolder => "Not a directory (os error 20)"
  | isFolder => "Is a directory (os error 21)"
  | tooLong => "File name too long (os error 36)"
  | other text => text

/-- The texts of files, each with the names that lead to it. -/
structure Folder where
  files : List (List String × String)
deriving DecidableEq, Repr

namespace Folder

/-- Where a path has led so far. -/
inductive Place where
  /-- Some folder around the one that is known. -/
  | around
  /-- A folder, with the names that lead to it. -/
  | folder (names : List String)
  /-- A file with its text. -/
  | file (text : String)
deriving DecidableEq, Repr

/-- The largest number of bytes in a name. -/
def maxName : Nat := 255

/-- The largest number of bytes in a path. -/
def maxPath : Nat := 4095

/-- The names in a path, which stand between its slashes. -/
def namesOf (path : String) : List String := (path.toList.splitOn '/').map String.ofList

/-- The folder that holds each file under its path. -/
def ofFiles (files : List (String × String)) : Folder :=
  ⟨files.map fun (path, text) => (namesOf path, text)⟩

/-- What has the names that lead to it. -/
def find (f : Folder) (names : List String) : Except FileError Place :=
  match f.files.lookup names with
  | some text => .ok (.file text)
  | none =>
    if f.files.any fun file => names.isPrefixOf file.1 then .ok (.folder names)
    else .error .missing

/-- Go on by one name. An empty name and a single point stay in a folder, and two points lead out
of it. -/
def enter (f : Folder) (name : String) : Place → Except FileError Place
  | .file _ => .error .notFolder
  | .around =>
    if name = "" ∨ name = "." ∨ name = ".." then .ok .around
    else if maxName < name.utf8ByteSize then .error .tooLong
    else .error .missing
  | .folder names =>
    if name = "" ∨ name = "." then .ok (.folder names)
    else if name = ".." then .ok (if names.isEmpty then .around else .folder names.dropLast)
    else if maxName < name.utf8ByteSize then .error .tooLong
    else f.find (names ++ [name])

/-- The place to which names lead. -/
def follow (f : Folder) : List String → Place → Except FileError Place
  | [], place => .ok place
  | name :: rest, place =>
    match f.enter name place with
    | .ok place => f.follow rest place
    | .error e => .error e

/-- Where a path starts: before its first slash stands nothing if it starts around the folder. -/
def origin (path : String) : Place :=
  if (namesOf path).head? = some "" then .around else .folder []

/-- The text to which a path leads. -/
def read (f : Folder) (path : String) : Except FileError String :=
  if path.isEmpty then .error .missing
  else if maxPath < path.utf8ByteSize then .error .tooLong
  else
    match f.follow (namesOf path) (origin path) with
    | .ok (.file text) => .ok text
    | .ok _ => .error .isFolder
    | .error e => .error e

end Folder

end MazeChase
