import SerialShare.Text.Utf8

/-!
# Files

The directories and files of a host as far as a program can tell them apart, how a path leads to one
of them, and what keeps a file from being read or made.
-/

namespace SerialShare

/-- A name between the slashes of a path. -/
abbrev FileName := List Char

/-- The directories and files of a host.  Each is known by the names that lead to it from the root,
the innermost first. -/
structure Files where
  /-- The directory that relative paths start from. -/
  current : List FileName
  /-- The directories apart from the root. -/
  directories : List (List FileName)
  /-- The files and what they hold. -/
  contents : List (List FileName × Bytes)
  /-- The directories in which more can be made, and in all that is below them. -/
  writable : List (List FileName)

namespace Files

/-- Why a file cannot be read or made. -/
inductive Refusal where
  /-- A path cannot hold a zero character. -/
  | zeroInPath
  /-- The path or one of its names is too long. -/
  | nameTooLong
  /-- There is nothing at the path. -/
  | missing
  /-- The path leads through something that is no directory. -/
  | notDirectory
  /-- There is a directory at the path. -/
  | isDirectory
  /-- Nothing can be made in the directory. -/
  | sealed
  /-- What the file holds is no text. -/
  | notText
  deriving DecidableEq, Repr

/-- The text shown for a refusal. -/
def Refusal.text : Refusal → String
  | zeroInPath => "file name contained an unexpected NUL byte"
  | nameTooLong => "File name too long (os error 36)"
  | missing => "No such file or directory (os error 2)"
  | notDirectory => "Not a directory (os error 20)"
  | isDirectory => "Is a directory (os error 21)"
  | sealed => "Permission denied (os error 13)"
  | notText => "stream did not contain valid UTF-8"

/-- What stands at a place. -/
inductive Entry where
  /-- A directory. -/
  | directory
  /-- A file and what it holds. -/
  | file (contents : Bytes)

/-- What stands at a place, if there is anything. -/
def entry? (files : Files) (place : List FileName) : Option Entry :=
  if place.isEmpty || files.directories.contains place then some .directory
  else (files.contents.lookup place).map .file

/-- Whether there is a directory at a place. -/
def isDirectory (files : Files) (place : List FileName) : Bool :=
  files.entry? place matches some .directory

/-- The most bytes of a name. -/
def nameLimit : Nat := 255

/-- The most bytes of a path. -/
def pathLimit : Nat := 4095

/-- The number of bytes that characters take. -/
def byteCount (characters : List Char) : Nat :=
  (Text.utf8 (String.ofList characters)).length

/-- Go one name further on a path.  A point stays, and two points go back. -/
def enter (files : Files) (place : List FileName) (name : FileName) :
    Except Refusal (List FileName) :=
  if !files.isDirectory place then .error .notDirectory
  else if name = [] ∨ name = ['.'] then .ok place
  else if name = ['.', '.'] then .ok place.tail
  else if nameLimit < byteCount name then .error .nameTooLong
  else if (files.entry? (name :: place)).isNone then .error .missing
  else .ok (name :: place)

/-- Where a path starts, and the names it goes through. -/
def route (files : Files) (path : List Char) : Except Refusal (List FileName × List FileName) :=
  if path.contains '\x00' then .error .zeroInPath
  else if pathLimit < byteCount path then .error .nameTooLong
  else if path.isEmpty then .error .missing
  else .ok (if path.head? = some '/' then [] else files.current, path.splitOn '/')

/-! ## Reading -/

/-- Where a path leads. -/
def resolve (files : Files) (path : List Char) : Except Refusal (List FileName) :=
  match files.route path with
  | .error refusal => .error refusal
  | .ok (start, names) => names.foldlM files.enter start

/-- The bytes of the file at a path. -/
def read (files : Files) (path : String) : Except Refusal Bytes :=
  match files.resolve path.toList with
  | .error refusal => .error refusal
  | .ok place =>
    match files.entry? place with
    | some (.file contents) => .ok contents
    | some .directory => .error .isDirectory
    | none => .error .missing

/-! ## Making -/

/-- Whether more can be made in the directory at a place. -/
def isWritable (files : Files) (place : List FileName) : Bool :=
  files.writable.any fun directory => directory.isSuffixOf place

/-- Go one name further on a path, and make a directory where there is nothing. -/
def enterOrMake (files : Files) (place : List FileName) (name : FileName) :
    Except Refusal (Files × List FileName) :=
  match files.enter place name with
  | .ok next => .ok (files, next)
  | .error .missing =>
    if files.isWritable place then
      .ok ({ files with directories := (name :: place) :: files.directories }, name :: place)
    else .error .sealed
  | .error refusal => .error refusal

/-- Where a path leads once the directories that are missing on it have been made. -/
def makeDirectory (files : Files) (path : List Char) : Except Refusal (Files × List FileName) :=
  match files.route path with
  | .error refusal => .error refusal
  | .ok (start, names) =>
    names.foldlM (fun (files, place) name => files.enterOrMake place name) (files, start)

/-- The path of a name in a directory. -/
def pathWithin (directory name : List Char) : List Char :=
  if directory.getLast? = some '/' then directory ++ name else directory ++ '/' :: name

/-- Open a file in a directory for more to be put into it.  The directory and the file are made if
they are missing. -/
def extend (files : Files) (directory name : String) : Except Refusal Files := do
  let _ ← files.route (pathWithin directory.toList name.toList)
  let (files, place) ← files.makeDirectory directory.toList
  match files.enter place name.toList with
  | .ok found => if files.isDirectory found then .error .isDirectory else .ok files
  | .error .missing =>
    if files.isWritable place then
      .ok { files with contents := (name.toList :: place, []) :: files.contents }
    else .error .sealed
  | .error refusal => .error refusal

end Files
end SerialShare
