import Custody.Bytes
import Custody.Failure

/-!
# Files of a host

What reading a file gives on a host whose directories and files are known (`Host.read`). A path
is followed name by name, from the root if it begins with a slash and from the working directory
if not (`Host.follow`). The first name that cannot be followed decides why the file is not read,
and the path as a whole is looked at before its names (`Host.resolve`).
-/

namespace Custody

/-- A place in the file tree, by the names that lead to it from the root. -/
abbrev Place := List String

/-- The files of a host. -/
structure Host where
  /-- The directories other than the root. -/
  directories : List Place
  /-- The files with their contents. -/
  files : List (Place × Bytes)
  /-- The directory in which paths start that do not start at the root. -/
  working : Place

namespace Host

/-- Why a host does not read a file. -/
inductive Refusal
  /-- A zero byte would end the path early. -/
  | embeddedZero
  /-- A name or the whole path is longer than the host takes. -/
  | tooLong
  /-- Nothing has that name. -/
  | notFound
  /-- A name stands below something that is no directory. -/
  | notDirectory
  /-- There is a directory and no file. -/
  | isDirectory
  deriving DecidableEq, Repr

/-- The words of the operating system. -/
def Refusal.text : Refusal → String
  | embeddedZero => "file name contained an unexpected NUL byte"
  | tooLong => "File name too long (os error 36)"
  | notFound => "No such file or directory (os error 2)"
  | notDirectory => "Not a directory (os error 20)"
  | isDirectory => "Is a directory (os error 21)"

/-- The most bytes of a name. -/
def nameLimit : Nat := 255

/-- The most bytes of a path. -/
def pathLimit : Nat := 4095

/-- Whether there is a directory at a place. -/
def hasDirectory (host : Host) (place : Place) : Bool := place = [] || place ∈ host.directories

/-- Whether there is anything at a place. -/
def has (host : Host) (place : Place) : Bool :=
  host.hasDirectory place || (host.files.lookup place).isSome

/-- **Follows names from a place.** Every name, also an empty one, asks for a directory to stand
in. -/
def follow (host : Host) : Place → List String → Except Refusal Place
  | here, [] => .ok here
  | here, name :: rest =>
    if !host.hasDirectory here then .error .notDirectory
    else if name = "" ∨ name = "." then follow host here rest
    else if name = ".." then follow host here.dropLast rest
    else if nameLimit < name.utf8ByteSize then .error .tooLong
    else if host.has (here ++ [name]) then follow host (here ++ [name]) rest
    else .error .notFound

/-- The place that a path names. -/
def resolve (host : Host) (path : String) : Except Refusal Place :=
  if '\x00' ∈ path.toList then .error .embeddedZero
  else if path = "" then .error .notFound
  else if pathLimit < path.utf8ByteSize then .error .tooLong
  else host.follow (if path.startsWith "/" then [] else host.working) (path.splitOn "/")

/-- **The contents of the file at a path.** -/
def read (host : Host) (path : String) : Except IoFault Bytes :=
  let contents := (host.resolve path).bind fun place =>
    match host.files.lookup place with
    | some data => .ok data
    | none => .error Refusal.isDirectory
  contents.mapError fun refusal => ⟨false, refusal.text⟩

end Host

end Custody
