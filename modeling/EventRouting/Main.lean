import EventRouting.Command.Run

/-!
# The program

Runs on the files and the environment of the process. The log and the failure go to the standard
error.
-/

namespace EventRouting

/-- What an error of the operating system means for a file. -/
def FileError.ofSystem : IO.Error → FileError
  | .noFileOrDirectory .. => .notFound
  | .alreadyExists .. => .alreadyExists
  | .inappropriateType _ 20 _ => .notDirectory
  | .inappropriateType _ 21 _ => .isDirectory
  | e => .other e.toString

/-- The result of an action, or the error that it raises. -/
def accessResult {α : Type} (action : IO α) : IO (Except FileError α) := do
  try return .ok (← action)
  catch e => return .error (.ofSystem e)

instance : FileAccess IO where
  isThere name := do
    try
      let _ ← IO.FS.realPath name
      return true
    catch _ => return false
  read name := accessResult (IO.FS.readBinFile name)
  createDirectories name := accessResult (IO.FS.createDirAll name)
  write name content := accessResult (IO.FS.writeBinFile name content)
  append name content := accessResult do
    let file ← IO.FS.Handle.mk name .append
    file.write content

namespace Command

/-- The variables that a run looks at. -/
def variableNames : List String :=
  [thresholdVariable, publicationVariable] ++ Verb.generate.settings.map Setting.variableName

/-- The values of the variables that a run looks at. -/
def variableValues : IO (List (String × String)) :=
  variableNames.filterMapM fun name => do
    return (← IO.getEnv name).map (name, ·)

/-- Shows what a run leaves behind. -/
def Outcome.show (o : Outcome) : IO Unit := do
  for r in o.records do
    IO.eprintln (if o.json then r.json else r.text)
  IO.print o.output
  if let some text := o.failure then
    IO.eprintln ("❌ Error: " ++ text)

end Command

end EventRouting

open EventRouting.Command in
/-- Runs the program on its arguments. -/
def main (arguments : List String) : IO UInt32 := do
  let values ← variableValues
  let outcome : Outcome ← execute arguments fun name => EventRouting.Entries.get? name values
  outcome.show
  return outcome.exitCode.toUInt32
