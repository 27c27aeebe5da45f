import EventRouting.Document.Value
import EventRouting.Text.Case
import EventRouting.Text.Split

/-!
# API descriptions

The parts of an API description that decide where events go: servers, paths with their operations,
and the parameters of both. Paths, methods and reusable parameters keep their order and may repeat.
-/

namespace EventRouting

/-- The methods that name operations of a path. -/
def httpMethods : List String :=
  ["get", "put", "post", "delete", "options", "head", "patch", "trace"]

/-- The ASCII letters of a text in lowercase. -/
def asciiLower (s : String) : List Char :=
  s.toList.map Char.toLower

/-- Whether two texts differ at most in the case of ASCII letters. -/
def sameIgnoringAsciiCase (s t : String) : Bool :=
  asciiLower s == asciiLower t

/-- Whether a name is one of the methods, in letters of either case. -/
def isHttpMethod (name : String) : Bool :=
  httpMethods.any (sameIgnoringAsciiCase name)

/-- Title and version of a description. -/
structure Info where
  title : Option String := none
  version : Option String := none
deriving DecidableEq, Repr, Inhabited

/-- A place where the API is served. Its description doubles as the name of an environment. -/
structure Server where
  url : Option String := none
  description : Option String := none
deriving DecidableEq, Repr, Inhabited

/-- The URL, unless it is missing or empty. -/
def Server.usableUrl? (s : Server) : Option String :=
  s.url.filter (· != "")

/-- Where a request carries a parameter. -/
inductive Location
  | path
  | query
  | header
  | cookie
  | other (text : String)
deriving DecidableEq, Repr

/-- The location that a text names, in letters of either case. -/
def Location.ofText (text : String) : Location :=
  match Text.lower text with
  | "path" => .path
  | "query" => .query
  | "header" => .header
  | "cookie" => .cookie
  | _ => .other text

/-- A declared parameter. -/
structure ParameterDefinition where
  name : String := ""
  location : Option Location := none
deriving DecidableEq, Repr, Inhabited

/-- Whether the parameter is part of the query. -/
def ParameterDefinition.isQuery (p : ParameterDefinition) : Bool :=
  p.location == some .query

/-- A parameter of a path or an operation: a reference to a reusable one, or its own definition. -/
inductive Parameter
  | reference (target : String)
  | inline (definition : ParameterDefinition)
deriving DecidableEq, Repr

/-- The name that a reference points to: what follows its last slash. -/
def referenceName (target : String) : String :=
  String.ofList (Text.lastPiece '/' target.toList)

/-- An operation of a path. -/
structure Operation where
  id : Option String := none
  parameters : List Parameter := []
  requestBody : Option Value := none
deriving Inhabited

namespace Operation

/-- The identifier that events trigger the operation by, unless it is missing or empty. -/
def trigger? (o : Operation) : Option String :=
  o.id.filter (· != "")

/-- Whether the operation declares a request body with content or by reference. -/
def hasRequestBody (o : Operation) : Bool :=
  match o.requestBody with
  | some (.mapping entries) =>
      Entries.contains (.string "content") entries || Entries.contains (.string "$ref") entries
  | _ => false

end Operation

/-- What is declared under one path: parameters for all operations, and the operations by their
methods as written. -/
structure PathItem where
  parameters : List Parameter := []
  operations : List (String × Operation) := []
deriving Inhabited

/-- The first operation of a method, in letters of either case. -/
def PathItem.operation? (item : PathItem) (method : String) : Option Operation :=
  (item.operations.find? fun o => sameIgnoringAsciiCase o.1 method).map (·.2)

/-- An API description. -/
structure Specification where
  info : Option Info := none
  servers : List Server := []
  paths : List (String × PathItem) := []
  parameters : List (String × ParameterDefinition) := []
deriving Inhabited

namespace Specification

/-- The title, if one is declared. -/
def title? (s : Specification) : Option String :=
  s.info.bind (·.title)

/-- The first item of a path. -/
def path? (s : Specification) (path : String) : Option PathItem :=
  Entries.get? path s.paths

/-- How many operations there are under all paths. -/
def operationCount (s : Specification) : Nat :=
  (s.paths.map fun p => p.2.operations.length).foldr (· + ·) 0

end Specification

end EventRouting
