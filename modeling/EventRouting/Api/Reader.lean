import EventRouting.Api.Specification
import EventRouting.Yaml.Composition
import EventRouting.Yaml.Reading

/-!
# Reading API descriptions

The fields of an API description are read where they are known, and everything else is passed over
unread. A parameter of a path or an operation is first read as a tree, since its fields decide
whether it is a reference.
-/

namespace EventRouting

open Yaml Yaml.Reading

/-- A text, or nothing. -/
def Yaml.Reading.optionalText (d : Document) (n : Node) : Reading (Option String) :=
  optional d (text d) n

namespace Info

/-- Reads title and version. -/
def read (d : Document) (depth : Nat) (n : Node) : Reading Info := do
  let (fields, _) ← record d ["title", "version"] depth n
  return {
    title := ← field fields "title" none (optionalText d)
    version := ← field fields "version" none (optionalText d) }

end Info

namespace Server

/-- Reads a server. -/
def read (d : Document) (depth : Nat) (n : Node) : Reading Server := do
  let (fields, _) ← record d ["url", "description"] depth n
  return {
    url := ← field fields "url" none (optionalText d)
    description := ← field fields "description" none (optionalText d) }

end Server

namespace ParameterDefinition

/-- Reads a reusable parameter. -/
def read (d : Document) (depth : Nat) (n : Node) : Reading ParameterDefinition := do
  let (fields, _) ← record d ["name", "in"] depth n
  let location ← field fields "in" none (optionalText d)
  return { name := ← field fields "name" "" (text d), location := location.map Location.ofText }

/-- The name and the location that two values give; a missing name is empty. -/
def ofValues? (name location : Option Value) : Option ParameterDefinition := do
  let name ← match name with
    | none => some ""
    | some (.string s) => some s
    | some _ => none
  let location ← match location with
    | none | some .null => some none
    | some (.string s) => some (some (Location.ofText s))
    | some _ => none
  return { name := name, location := location }

end ParameterDefinition

namespace Parameter

/-- What names a field of a parameter: a text, or its place among the known fields. -/
inductive FieldKey
  | name (text : String)
  | place (index : Nat)

/-- The key of a field. Whole numbers count as places unless they are written with a minus sign. -/
def FieldKey.read (d : Document) (n : Node) : Reading FieldKey := do
  match ← resolve d n with
  | .scalar tag plain text =>
      if (tag.bind localTag?).isSome then failure
      else
        match ← (meaning? tag plain text : Option Scalar) with
        | .text s => return .name s
        | .integer false index => return .place index
        | _ => failure
  | _ => failure

/-- Whether a key names the field `name`, whose place is `index`. -/
def FieldKey.isFor (name : String) (index : Nat) : FieldKey → Bool
  | .name text => text == name
  | .place i => i == index

/-- The values of the field `name`, whose place is `index`. -/
def valuesOf (name : String) (index : Nat) (fields : List (FieldKey × Value)) : List Value :=
  (fields.filter fun f => f.1.isFor name index).map (·.2)

/-- The parameter that fields make up. A single text under `$ref` makes a reference, whatever stands
beside it; no field of an own definition may stand twice. -/
def ofFields? (fields : List (FieldKey × Value)) : Option Parameter :=
  match valuesOf "$ref" 0 fields with
  | [.string target] => some (.reference target)
  | _ => do
      let name ← single (valuesOf "name" 0 fields)
      let location ← single (valuesOf "in" 1 fields)
      (ParameterDefinition.ofValues? name location).map .inline
where
  /-- At most one value. -/
  single : List Value → Option (Option Value)
    | [] => some none
    | [v] => some (some v)
    | _ => none

/-- The parameter that a list makes up: a name and a location, of which the last may be missing. -/
def ofItems? : List Value → Option Parameter
  | [] => (ParameterDefinition.ofValues? none none).map .inline
  | [name] => (ParameterDefinition.ofValues? (some name) none).map .inline
  | [name, location] => (ParameterDefinition.ofValues? (some name) (some location)).map .inline
  | _ => none

/-- Reads a parameter of a path or an operation. -/
def read (d : Document) (depth : Nat) (n : Node) : Reading Parameter := do
  match ← resolve d n with
  | .mapping tag entries =>
      if (tag.bind localTag?).isSome then failure
      else
        let depth ← deeper depth
        let fields ← entries.mapM fun e => do
          return (← FieldKey.read d e.1, ← value d .entry depth e.2)
        (ofFields? fields : Option Parameter)
  | .sequence tag items =>
      if (tag.bind localTag?).isSome then failure
      else
        let depth ← deeper depth
        (ofItems? (← items.mapM (value d .entry depth)) : Option Parameter)
  | _ => failure

end Parameter

namespace Operation

/-- Reads an operation. -/
def read (d : Document) (depth : Nat) (n : Node) : Reading Operation := do
  let (fields, depth) ← record d ["operationId", "parameters", "requestBody"] depth n
  return {
    id := ← field fields "operationId" none (optionalText d)
    parameters := ← field fields "parameters" [] (list d (Parameter.read d) depth)
    requestBody := ← field fields "requestBody" none (optional d (value d .document depth)) }

end Operation

namespace PathItem

/-- Reads the entries of a path: its methods in order, and of several lists of parameters the last.
Other entries are passed over. -/
def readEntries (d : Document) (depth : Nat) : List (Node × Node) → PathItem → Reading PathItem
  | [], item => return item
  | (key, n) :: rest, item => do
      let name ← text d key
      if name == "parameters" then
        let parameters ← list d (Parameter.read d) depth n
        readEntries d depth rest { item with parameters := parameters }
      else if isHttpMethod name then
        let operation ← Operation.read d depth n
        readEntries d depth rest { item with operations := item.operations ++ [(name, operation)] }
      else readEntries d depth rest item

/-- Reads what is declared under one path. -/
def read (d : Document) (depth : Nat) (n : Node) : Reading PathItem := do
  let (entries, depth) ← entries d depth n
  readEntries d depth entries {}

end PathItem

namespace Specification

/-- Whether a key of the paths is an extension instead of a path. -/
def isExtension (key : String) : Bool :=
  key.toList.take 2 == ['x', '-']

/-- Reads the paths in order. Extensions are passed over. -/
def readPaths (d : Document) (depth : Nat) :
    List (Node × Node) → Reading (List (String × PathItem))
  | [] => return []
  | (key, n) :: rest => do
      let path ← text d key
      if isExtension path then readPaths d depth rest
      else
        let item ← PathItem.read d depth n
        return (path, item) :: (← readPaths d depth rest)

/-- Reads the reusable parameters in order. -/
def readParameters (d : Document) (depth : Nat) (n : Node) :
    Reading (List (String × ParameterDefinition)) := do
  let (entries, depth) ← entries d depth n
  entries.mapM fun e => do return (← text d e.1, ← ParameterDefinition.read d depth e.2)

/-- Reads the reusable components. -/
def readComponents (d : Document) (depth : Nat) (n : Node) :
    Reading (List (String × ParameterDefinition)) := do
  let (fields, depth) ← record d ["parameters"] depth n
  field fields "parameters" [] (readParameters d depth)

/-- Reads an API description. -/
def read (d : Document) (depth : Nat) (n : Node) : Reading Specification := do
  let (fields, depth) ← record d ["info", "servers", "paths", "components"] depth n
  return {
    info := ← field fields "info" none (optional d (Info.read d depth))
    servers := ← field fields "servers" [] (list d (Server.read d) depth)
    paths := ← field fields "paths" [] fun n => do
      let (entries, depth) ← entries d depth n
      readPaths d depth entries
    parameters := ← field fields "components" [] (readComponents d depth) }

/-- The API description that a document holds. -/
def ofDocument? (d : Document) : Option Specification :=
  Reading.ofDocument? d (read d)

/-- The API description that a text writes. -/
def parse? (text : String) : Option Specification := do
  ofDocument? (← Document.parse? text)

end Specification

end EventRouting
