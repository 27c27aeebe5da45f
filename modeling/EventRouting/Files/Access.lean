/-!
# Access to files

What documents need of a file system: to look whether a name stands for something, to read and write
whole files, to append to a file and to create directories. A file system is any monad that offers
this.
-/

namespace EventRouting

/-- Why files cannot be accessed. -/
inductive FileError
  | notFound
  | alreadyExists
  | notDirectory
  | isDirectory
  | nameTooLong
  | zeroInName
  /-- The bytes of a file are no text. -/
  | notText
  | other (text : String)
deriving DecidableEq, Repr

/-- The wording of the operating system. -/
def FileError.message : FileError → String
  | .notFound => "No such file or directory (os error 2)"
  | .alreadyExists => "File exists (os error 17)"
  | .notDirectory => "Not a directory (os error 20)"
  | .isDirectory => "Is a directory (os error 21)"
  | .nameTooLong => "File name too long (os error 36)"
  | .zeroInName => "file name contained an unexpected NUL byte"
  | .notText => "stream did not contain valid UTF-8"
  | .other text => text

/-- A file system. -/
class FileAccess (m : Type → Type) where
  /-- Whether a name stands for a file or a directory. -/
  isThere : String → m Bool
  /-- The content of a file. -/
  read : String → m (Except FileError ByteArray)
  /-- Creates a directory and those around it, as far as they are missing. -/
  createDirectories : String → m (Except FileError Unit)
  /-- Gives a file its content, and creates it if it is missing. -/
  write : String → ByteArray → m (Except FileError Unit)
  /-- Adds to the end of a file, and creates it if it is missing. -/
  append : String → ByteArray → m (Except FileError Unit)

/-- The text of a file. -/
def readText {m : Type → Type} [Monad m] [FileAccess m] (name : String) :
    m (Except FileError String) := do
  match ← FileAccess.read name with
  | .error e => return .error e
  | .ok bytes =>
      match String.fromUTF8? bytes with
      | some text => return .ok text
      | none => return .error .notText

end EventRouting
