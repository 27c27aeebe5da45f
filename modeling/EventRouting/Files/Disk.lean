import EventRouting.FileName
import EventRouting.Files.Access
import EventRouting.Files.Tree

/-!
# Disks

A file tree with a working directory, as a file system. A name is followed part by part: each part
but the last must lead to a directory, `.` stays and `..` goes back to the directory around.
-/

namespace EventRouting

/-- A file tree and the location from where names are followed. -/
structure Disk where
  root : FileTree := .emptyDirectory
  directory : List String := []

namespace Disk

/-- The greatest length of a part of a name, in bytes. -/
def longestPart : Nat := 255

/-- The length that names must stay below, in bytes. -/
def nameLimit : Nat := 4096

/-- Follows one part of a name from a location. -/
def step (d : Disk) (location : List String) (part : String) : Except FileError (List String) :=
  match d.root.get? location with
  | none => .error .notFound
  | some (.file _) => .error .notDirectory
  | some (.directory entries) =>
      if part = "." then .ok location
      else if part = ".." then .ok location.dropLast
      else if longestPart < part.utf8ByteSize then .error .nameTooLong
      else if Entries.contains part entries then .ok (location ++ [part])
      else .error .notFound

/-- Where the parts of a name lead from. -/
def start (d : Disk) (absolute : Bool) : List String :=
  if absolute then [] else d.directory

/-- Follows parts one after the other. -/
def follow (d : Disk) (absolute : Bool) (parts : List String) :
    Except FileError (List String) :=
  parts.foldlM d.step (d.start absolute)

/-- Refuses what is no name at all. -/
def checkName (name : String) : Except FileError Unit :=
  if name.contains '\x00' then .error .zeroInName
  else if name = "" then .error .notFound
  else if nameLimit ≤ name.utf8ByteSize then .error .nameTooLong
  else .ok ()

/-- The location that a name stands for. Behind a slash at the end nothing but a directory may
stand. -/
def locate (d : Disk) (name : String) : Except FileError (List String) := do
  checkName name
  let last := if FileName.endsWithSlash name then ["."] else []
  d.follow (FileName.isAbsolute name) (FileName.allParts name ++ last)

/-- Whether a name stands for something. -/
def isThere (d : Disk) (name : String) : Bool :=
  match d.locate name with
  | .ok _ => true
  | .error _ => false

/-- The content of a file. -/
def read (d : Disk) (name : String) : Except FileError ByteArray := do
  match d.root.get? (← d.locate name) with
  | some (.file content) => .ok content
  | some (.directory _) => .error .isDirectory
  | none => .error .notFound

/-- The entries of the directory at a location. -/
def entriesAt (d : Disk) (location : List String) :
    Except FileError (List (String × FileTree)) :=
  match d.root.get? location with
  | some (.directory entries) => .ok entries
  | some (.file _) => .error .notDirectory
  | none => .error .notFound

/-- The location of a file that is to be written. -/
def locateFile (d : Disk) (name : String) : Except FileError (List String) := do
  checkName name
  let parts := FileName.allParts name
  match parts.getLast? with
  | none => .error .isDirectory
  | some last =>
      let location ← d.follow (FileName.isAbsolute name) parts.dropLast
      let entries ← d.entriesAt location
      if last = "." ∨ last = ".." ∨ FileName.endsWithSlash name then .error .isDirectory
      else if longestPart < last.utf8ByteSize then .error .nameTooLong
      else
        match Entries.get? last entries with
        | some (.directory _) => .error .isDirectory
        | _ => .ok (location ++ [last])

/-- The disk with something else at a location. -/
def set (d : Disk) (location : List String) (t : FileTree) : Disk :=
  { d with root := FileTree.set t location d.root }

/-- The content of the file at a location; a missing file has none. -/
def contentAt (d : Disk) (location : List String) : ByteArray :=
  ((d.root.get? location).bind FileTree.content?).getD .empty

/-- The disk after a file was written: its content becomes `change` of the old one. -/
def update (d : Disk) (name : String) (change : ByteArray → ByteArray) :
    Except FileError Unit × Disk :=
  match d.locateFile name with
  | .ok location => (.ok (), d.set location (.file (change (d.contentAt location))))
  | .error e => (.error e, d)

/-- The location of a directory that is to be created. -/
def locateNew (d : Disk) (absolute : Bool) (parts : List String) :
    Except FileError (List String) := do
  match parts.getLast? with
  | none => .error .alreadyExists
  | some last =>
      let location ← d.follow absolute parts.dropLast
      let entries ← d.entriesAt location
      if last = "." ∨ last = ".." then .error .alreadyExists
      else if longestPart < last.utf8ByteSize then .error .nameTooLong
      else if Entries.contains last entries then .error .alreadyExists
      else .ok (location ++ [last])

/-- The disk after a directory was created. -/
def createDirectory (d : Disk) (absolute : Bool) (parts : List String) :
    Except FileError Unit × Disk :=
  match d.locateNew absolute parts with
  | .ok location => (.ok (), d.set location .emptyDirectory)
  | .error e => (.error e, d)

/-- Whether parts lead to a directory. -/
def isDirectory (d : Disk) (absolute : Bool) (parts : List String) : Bool :=
  match d.follow absolute parts with
  | .ok location => ((d.root.get? location).map FileTree.isDirectory).getD false
  | .error _ => false

/-- Accepts that a directory cannot be created if it is there. -/
def acceptDirectory (absolute : Bool) (parts : List String)
    (result : Except FileError Unit × Disk) : Except FileError Unit × Disk :=
  match result with
  | (.ok (), d) => (.ok (), d)
  | (.error e, d) => (if d.isDirectory absolute parts then .ok () else .error e, d)

/-- Creates a directory whose parts are given from the last to the first: if the directory around
is missing, that one is created before. -/
def createAll (absolute : Bool) : (reversed : List String) → Disk → Except FileError Unit × Disk
  | [], d => (.ok (), d)
  | last :: around, d =>
      let parts := (last :: around).reverse
      match d.createDirectory absolute parts with
      | (.error .notFound, d) =>
          match createAll absolute around d with
          | (.ok (), d) => acceptDirectory absolute parts (d.createDirectory absolute parts)
          | (.error e, d) => (.error e, d)
      | result => acceptDirectory absolute parts result

/-- Creates a directory and those around it, as far as they are missing. -/
def createDirectories (d : Disk) (name : String) : Except FileError Unit × Disk :=
  if name.contains '\x00' then (.error .zeroInName, d)
  else if nameLimit ≤ name.utf8ByteSize then (.error .nameTooLong, d)
  else createAll (FileName.isAbsolute name) (FileName.partNames name).reverse d

instance : FileAccess (StateM Disk) where
  isThere name := fun d => (d.isThere name, d)
  read name := fun d => (d.read name, d)
  createDirectories name := fun d => d.createDirectories name
  write name content := fun d => d.update name fun _ => content
  append name content := fun d => d.update name (· ++ content)

end Disk

end EventRouting
