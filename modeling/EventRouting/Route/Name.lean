import EventRouting.Route.PathTemplate
import EventRouting.Text.Case
import EventRouting.Text.Split

/-!
# Logical names

The name of a destination is a prefix, the words of its path and its method, with nothing in
between: each word of the path and the method begin with an uppercase letter, and wildcards are left
out.
-/

namespace EventRouting.LogicalName

/-- A word of a path as it enters a name. -/
def word (segment : List Char) : List Char :=
  Text.capitalizeChars (segment.filter (· != PathTemplate.wildcard))

/-- The words of a path without anything in between. -/
def fragmentChars (path : List Char) : List Char :=
  ((Text.pieces '/' path).filter (· != [])).flatMap word

/-- The words of a path without anything in between. -/
def fragment (path : String) : String :=
  String.ofList (fragmentChars path.toList)

/-- The name of the destination for a method of a path. -/
def destination (before path method : String) : String :=
  before ++ fragment (PathTemplate.toWildcards path) ++ Text.capitalize method

/-- The name of the rule that feeds a destination. -/
def rule (destination suffix : String) : String :=
  destination ++ suffix

/-- A slash between two paths leaves no trace in their names. -/
theorem fragmentChars_append_slash (p q : List Char) :
    fragmentChars (p ++ '/' :: q) = fragmentChars p ++ fragmentChars q := by
  simp [fragmentChars, Text.pieces_append_cons]

end EventRouting.LogicalName
