import EventRouting.Api.Specification

/-!
# The base URL

All destinations of a run call the same base URL. An environment selects the first server whose
description is its name, in letters of either case; without one the first server with a URL is
taken.
-/

namespace EventRouting

/-- Why no server can be called. -/
inductive ServerError
  | environmentNotFound (name : String)
  | noServers
deriving DecidableEq, Repr

/-- The wording of why no server can be called. -/
def ServerError.message : ServerError → String
  | .environmentNotFound name =>
      "An environment with the name '" ++ name ++
        "' does not exist in the servers object of the API spec"
  | .noServers =>
      "The API spec does not contain any valid servers; add one or more or provide the " ++
        "environment name"

namespace BaseUrl

/-- The first server of an environment. -/
def find? (servers : List Server) (environment : String) : Option Server :=
  servers.find? fun s => s.description.any fun d => Text.lower d == Text.lower environment

/-- The URL of the selected server. An empty environment counts as none. -/
def select (servers : List Server) (environment : Option String) : Except ServerError String :=
  match environment.filter (· != "") with
  | some name =>
      match (find? servers name).bind Server.usableUrl? with
      | some url => .ok url
      | none => .error (.environmentNotFound name)
  | none =>
      match servers.findSome? Server.usableUrl? with
      | some url => .ok url
      | none => .error .noServers

/-- The URL without a slash at its end; of several slashes one is taken off. -/
def withoutSlash (url : String) : String :=
  match url.toList.reverse with
  | '/' :: rest => String.ofList rest.reverse
  | _ => url

/-- The base URL of a list of servers. -/
def resolve (servers : List Server) (environment : Option String) : Except ServerError String :=
  (select servers environment).map withoutSlash

end BaseUrl

end EventRouting
