/-
HttpSuite/Files.lean

A tree of text files, and the directory that relative paths start from. A path is resolved name by
name, as a system does it: every name but the last has to be a directory that is there, two points
lead to the parent, and what lies outside of the tree is not known (`Place.outside`). Absolute paths
start outside, unless the top of the tree is where they start.
-/
import HttpSuite.Table

namespace HttpSuite

/-- Why a file cannot be read. -/
inductive FileError where
  | notFound
  | notDirectory
  | isDirectory
  | nameTooLong
  | nulByte
deriving DecidableEq, Repr

/-- The text of a cause. -/
def FileError.message : FileError → String
  | notFound => "No such file or directory (os error 2)"
  | notDirectory => "Not a directory (os error 20)"
  | isDirectory => "Is a directory (os error 21)"
  | nameTooLong => "File name too long (os error 36)"
  | nulByte => "file name contained an unexpected NUL byte"

/-- Where the names of a path lead to. -/
inductive Place where
  /-- In the tree, as names from the top. -/
  | inside (names : List String)
  | outside
deriving DecidableEq, Repr

/-- A tree of text files. Files are named by their paths from the top, without a slash in front. -/
structure Files where
  contents : Table String := ∅
  /-- Directories that are there even without a file, as names from the top. -/
  directories : List (List String) := []
  /-- The directory that relative paths start from, as names from the top. -/
  current : List String := []
  /-- Where absolute paths start. -/
  top : Place := .outside

namespace Files

/-- The path of names from the top. -/
def pathOf (names : List String) : String := String.intercalate "/" names

/-- The names of a path. -/
def namesOf (path : String) : List String :=
  (path.toList.splitOn '/').map String.ofList

/-- The text of the file with these names. -/
def file? (f : Files) (names : List String) : Option String := f.contents.get? (pathOf names)

/-- Whether the names lead to a directory. -/
def isDirectory (f : Files) (names : List String) : Bool :=
  names.isEmpty || names.isPrefixOf f.current || f.directories.any names.isPrefixOf ||
    f.contents.keys.any fun key =>
      let inner := namesOf key
      names.isPrefixOf inner && names.length < inner.length

/-- Whether something is at these names. -/
def isThere (f : Files) (names : List String) : Bool :=
  (f.file? names).isSome || f.isDirectory names

/-- One more name of a path. An empty name or a point stays where it is. -/
def enter (f : Files) (name : String) : Place → Except FileError Place
  | .outside => if name = "" ∨ name = "." ∨ name = ".." then .ok .outside else .error .notFound
  | .inside names =>
    if 255 < name.utf8ByteSize then .error .nameTooLong
    else if !f.isDirectory names then
      .error (if (f.file? names).isSome then .notDirectory else .notFound)
    else if name = "" ∨ name = "." then .ok (.inside names)
    else if name = ".." then .ok (if names.isEmpty then .outside else .inside names.dropLast)
    else if f.isThere (names ++ [name]) then .ok (.inside (names ++ [name]))
    else .error .notFound

/-- Where a list of names leads to. -/
def walk (f : Files) : List String → Place → Except FileError Place
  | [], place => .ok place
  | name :: rest, place => do f.walk rest (← f.enter name place)

/-- The text at a path. -/
def read (f : Files) (path : String) : Except FileError String := do
  if path.toList.contains '\x00' then throw .nulByte
  if path = "" then throw .notFound
  if 4096 ≤ path.utf8ByteSize then throw .nameTooLong
  let start := if path.toList.head? = some '/' then f.top else .inside f.current
  match ← f.walk (namesOf path) start with
  | .outside => throw .isDirectory
  | .inside names =>
    match f.file? names with
    | some text => pure text
    | none => throw .isDirectory

/-- The tree with a file written, names from the top. -/
def write (f : Files) (path text : String) : Files :=
  { f with contents := f.contents.insert path text }

/-- The tree without a file. -/
def remove (f : Files) (path : String) : Files := { f with contents := f.contents.erase path }

end Files

/-! ### Paths -/

namespace Path

/-- A path below a directory; an absolute path stays as it is. -/
def join (directory path : String) : String :=
  if path.toList.head? = some '/' then path
  else if directory = "" then path
  else if directory.toList.getLast? = some '/' then directory ++ path
  else directory ++ "/" ++ path

/-- Names without the empty ones and points at the end; the first name stays. -/
def dropIdle (names : List String) : List String :=
  match names with
  | [] => []
  | first :: rest =>
    first :: (rest.reverse.dropWhile fun n => n = "" || n = ".").reverse

/-- The directory of a path: the path without its last name. -/
def parent? (path : String) : Option String :=
  match dropIdle (Files.namesOf path) with
  | [""] => none
  | names =>
    match dropIdle names.dropLast with
    | [""] => some "/"
    | names => some (Files.pathOf names)

end Path

end HttpSuite
