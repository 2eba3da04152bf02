import SchemaSieve.Files.Access
import SchemaSieve.Files.Path

/-!
# Folders in memory

Files by their absolute paths, and a current directory. A directory exists if something is in it.
-/

namespace SchemaSieve.Files

/-- The parts of an absolute path. -/
abbrev Location := List String

/-- Files with their bytes, and the directory that relative paths start from. -/
structure Folder where
  current : Location
  files : List (Location × ByteArray) := []

/-- What is at the end of a path. -/
inductive Spot where
  | file (bytes : ByteArray) (location : Location)
  | directory
  | vacant (location : Location)

namespace Folder

/-- How many bytes a part of a path can have. -/
def longestPart : Nat := 255

/-- How many bytes a path can have. -/
def longestPath : Nat := 4095

def bytes? (f : Folder) (location : Location) : Option ByteArray := f.files.lookup location

def isDirectory (f : Folder) (location : Location) : Bool :=
  location.isPrefixOf f.current ||
    f.files.any fun e => location.isPrefixOf e.1 && location != e.1

/-- Follows the parts of a path from a directory. -/
def walk (f : Folder) (directory : Location) : List String → Except FileError Spot
  | [] => .ok .directory
  | part :: rest =>
    if part == "" || part == "." then f.walk directory rest
    else if part == ".." then f.walk directory.dropLast rest
    else if longestPart < part.utf8ByteSize then .error .nameTooLong
    else
      let location := directory ++ [part]
      match f.bytes? location with
      | some bytes => if rest.isEmpty then .ok (.file bytes location) else .error .notDirectory
      | none =>
        if f.isDirectory location then f.walk location rest
        else if rest.isEmpty then .ok (.vacant location)
        else .error .notFound

/-- What is at the end of the parts of a path. -/
def follow (f : Folder) (path : String) (parts : List String) : Except FileError Spot :=
  if path.isEmpty then .error .notFound
  else if path.contains '\x00' then .error .nulInName
  else if longestPath < path.utf8ByteSize then .error .nameTooLong
  else f.walk (if isAbsolute path then [] else f.current) parts

/-- What is at the end of a path. -/
def find (f : Folder) (path : String) : Except FileError Spot := f.follow path (path.splitOn "/")

def read (f : Folder) (path : String) : Except FileError ByteArray := do
  match ← f.find path with
  | .file bytes _ => return bytes
  | .directory => .error .isDirectory
  | .vacant _ => .error .notFound

/-- Puts a file at a location. -/
def put (f : Folder) (location : Location) (bytes : ByteArray) : Folder :=
  { f with files := (location, bytes) :: f.files.filter (·.1 != location) }

/-- The location of the file at a path, if there is one or can be one. A slash at the end means a
directory, which is no file even where there is none yet. -/
def target (f : Folder) (path : String) : Except FileError Location := do
  let parts := ((path.splitOn "/").reverse.dropWhile String.isEmpty).reverse
  match ← f.follow path parts with
  | .directory => .error .isDirectory
  | .file _ location | .vacant location =>
    if path.endsWith "/" then .error .isDirectory else return location

def write (f : Folder) (path text : String) : Except FileError Folder := do
  return f.put (← f.target path) text.toUTF8

/-- The folder as a state. -/
def access : FileAccess (StateM Folder) where
  readBytes path := do return (← get).read path
  writeText path text := do
    match (← get).write path text with
    | .ok f =>
      set f
      return .ok ()
    | .error e => return .error e
  isPresent path := do
    match (← get).find path with
    | .ok (.file ..) | .ok .directory => return true
    | _ => return false

end Folder

end SchemaSieve.Files
