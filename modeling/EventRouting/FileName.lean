import EventRouting.Text.Split

/-!
# File names

A file name is a text whose parts are separated by slashes. Empty parts do not count, and neither do
single points but for one at the very beginning.
-/

namespace EventRouting.FileName

/-- Whether the name starts at the root. -/
def isAbsolute (name : String) : Bool :=
  name.toList.head? == some '/'

/-- The parts that count. -/
def parts (name : String) : List (List Char) :=
  let all := Text.pieces '/' name.toList
  let counted := all.filter fun p => p != [] && p != ['.']
  match all with
  | ['.'] :: _ => ['.'] :: counted
  | _ => counted

/-- The parts that count, as names. -/
def partNames (name : String) : List String :=
  (parts name).map String.ofList

/-- All parts that are not empty, as names. -/
def allParts (name : String) : List String :=
  ((Text.pieces '/' name.toList).filter (· != [])).map String.ofList

/-- Whether the name ends with a slash. -/
def endsWithSlash (name : String) : Bool :=
  name.toList.getLast? == some '/'

/-- Whether a part does not count behind another one. -/
def isVoid (part : List Char) : Bool :=
  part == [] || part == ['.']

/-- The name of the directory that holds the file, as far as it is written: empty for a single part,
and nothing for the root and for the empty name. -/
def parent? (name : String) : Option String :=
  match parts name, Text.pieces '/' name.toList with
  | _ :: _, first :: rest =>
      match rest.reverse.dropWhile isVoid with
      | [] => some ""
      | _ :: before =>
          let around := first :: (before.dropWhile isVoid).reverse
          some (String.ofList (if around = [[]] then ['/'] else List.intercalate ['/'] around))
  | _, _ => none

/-- The last part, if it names something. -/
def last? (name : String) : Option (List Char) :=
  match (parts name).getLast? with
  | some ['.'] => none
  | some ['.', '.'] => none
  | last => last

/-- What stands behind the last point of the last part, unless that point begins it. -/
def extension? (name : String) : Option String := do
  let last ← last? name
  let reversed := last.reverse
  let extension := reversed.takeWhile (· != '.')
  match reversed.drop extension.length with
  | '.' :: _ :: _ => return String.ofList extension.reverse
  | _ => none

example : extension? "out/a.JSON" = some "JSON" := by decide +kernel
example : extension? ".json" = none := by decide +kernel
example : parent? "a/b.yaml" = some "a" := by decide +kernel
example : parent? "b.yaml" = some "" := by decide +kernel
example : parent? "/a//b/./c/" = some "/a//b" := by decide +kernel
example : parent? "/b" = some "/" := by decide +kernel
example : parent? "./b" = some "." := by decide +kernel

end EventRouting.FileName
