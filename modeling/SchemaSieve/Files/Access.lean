/-!
# Access to files

What the program needs from files, for any monad: a directory of the machine and one held in memory
both give it.
-/

namespace SchemaSieve.Files

/-- Why a file cannot be read or written. -/
inductive FileError where
  | notFound
  | notDirectory
  | isDirectory
  | nameTooLong
  | nulInName
  | notText
  | other (text : String)
  deriving DecidableEq

def FileError.message : FileError → String
  | notFound => "No such file or directory (os error 2)"
  | notDirectory => "Not a directory (os error 20)"
  | isDirectory => "Is a directory (os error 21)"
  | nameTooLong => "File name too long (os error 36)"
  | nulInName => "file name contained an unexpected NUL byte"
  | notText => "stream did not contain valid UTF-8"
  | other text => text

/-- Reading and writing by path. -/
structure FileAccess (m : Type → Type) where
  readBytes : String → m (Except FileError ByteArray)
  writeText : String → String → m (Except FileError Unit)
  isPresent : String → m Bool

/-- The text in some bytes. -/
def textOf (bytes : ByteArray) : Except FileError String :=
  (String.fromUTF8? bytes).elim (.error .notText) .ok

/-- Reads a file as text. -/
def FileAccess.readText {m : Type → Type} [Monad m] (files : FileAccess m) (path : String) :
    m (Except FileError String) := do
  return (← files.readBytes path).bind textOf

end SchemaSieve.Files
