import EventRouting.Compilation.Basic

/-!
# Summaries

The lines that tell a person what a compilation would generate and what is wrong with it.
-/

namespace EventRouting

/-- A method and a path as lines name them. -/
def operationText (method path : String) : String :=
  Text.upper method ++ " " ++ path

/-- The line about a destination. -/
def GeneratedDestination.line (d : GeneratedDestination) : String :=
  "      - " ++ d.name ++ " (" ++ operationText d.method d.path ++ ") on '" ++ d.trigger ++ "'"

/-- The line about a skipped operation. -/
def SkippedOperation.line (s : SkippedOperation) : String :=
  "   ⚠️  Skipped " ++ operationText s.method s.path ++ ": " ++ s.reason.message

/-- The line about a reference that points nowhere. -/
def UnresolvedReference.line (u : UnresolvedReference) : String :=
  let place := match u.method with
    | some method => operationText method u.path
    | none => u.path
  "   ⚠️  Unresolved parameter " ++ u.reference ++ " on " ++ place

/-- The line about a name that is used again. -/
def NameCollision.line (c : NameCollision) : String :=
  "      - " ++ c.name ++ " from " ++ c.existing.text ++ " is overwritten by " ++
    c.replacement.text

namespace Compilation

/-- The lines about the destinations. -/
def destinationLines (c : Compilation) : List String :=
  if c.destinations.isEmpty then ["   ⚠️  No API destinations would be generated"]
  else
    ("   ✅ " ++ toString c.destinations.length ++ " API destination(s):") ::
      c.destinations.map GeneratedDestination.line

/-- The lines about names that are used again. -/
def collisionLines (c : Compilation) : List String :=
  if c.collisions.isEmpty then []
  else "   ❌ Resource name collisions:" :: c.collisions.map NameCollision.line

/-- The last line. -/
def verdict (c : Compilation) : String :=
  if c.collisions.isEmpty then "✅ Validation passed!"
  else "❌ Validation failed. Please fix the issues above."

/-- All lines, with an empty one before the last. -/
def summary (c : Compilation) : List String :=
  ("   🌐 Base URL: " ++ c.baseUrl) :: c.destinationLines ++
    c.skipped.map SkippedOperation.line ++ c.unresolved.map UnresolvedReference.line ++
    c.collisionLines ++ ["", c.verdict]

end Compilation

end EventRouting
