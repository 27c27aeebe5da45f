import EventRouting.Compilation.Journal
import EventRouting.Json.Printer

/-!
# Log records

What a run writes down while it works. Every record has a level, and a run shows the records up to a
threshold.
-/

namespace EventRouting.Command

/-- How urgent a record is. -/
inductive Level
  | error
  | warn
  | info
  | debug
deriving DecidableEq, Repr

/-- The least threshold that shows records of the level. -/
def Level.rank : Level → Nat
  | .error => 1
  | .warn => 2
  | .info => 3
  | .debug => 4

/-- The name of a level. -/
def Level.name : Level → String
  | .error => "ERROR"
  | .warn => "WARN"
  | .info => "INFO"
  | .debug => "DEBUG"

/-- The parts of the program that write records. -/
inductive Part
  | reader
  | writer
  | policy
  | server
  | parameters
  | compiler
  | generate
  | validate
deriving DecidableEq, Repr

/-- The name under which a part writes. -/
def Part.name : Part → String
  | .reader => "evgen_spec::reader"
  | .writer => "evgen_spec::writer"
  | .policy => "evgen_iac::policy"
  | .server => "evgen_iac::server"
  | .parameters => "evgen_iac::parameters"
  | .compiler => "evgen_iac::compiler"
  | .generate => "evgen::commands::generate"
  | .validate => "evgen::commands::validate"

/-- A line of the log. -/
structure Record where
  level : Level
  part : Part
  message : String
deriving DecidableEq, Repr

/-- The threshold that a text asks for: the name of a level in letters of either case or its number.
The empty text asks for errors only. -/
def threshold? (text : String) : Option Nat :=
  match String.ofList (asciiLower text) with
  | "off" | "0" => some 0
  | "" | "error" | "1" => some 1
  | "warn" | "2" => some 2
  | "info" | "3" => some 3
  | "debug" | "4" => some 4
  | "trace" | "5" => some 5
  | _ => none

/-- A record as a line of text. -/
def Record.text (r : Record) : String :=
  r.level.name ++ " " ++ r.message

/-- A record as a line of JSON. -/
def Record.json (r : Record) : String :=
  "\x7b\"level\":" ++ Json.Printer.string r.level.name ++
    ",\"fields\":\x7b\"message\":" ++ Json.Printer.string r.message ++
    "\x7d,\"target\":" ++ Json.Printer.string r.part.name ++ "\x7d"

end EventRouting.Command

namespace EventRouting

open Command

/-- How urgent a note is. -/
def Note.level : Note → Level
  | .baseUrl _ | .replaced _ => .debug
  | .creating .. | .finished .. => .info
  | .unresolved _ | .skipped _ | .collision _ | .roleReplaced _ => .warn

/-- The part of the program that a note comes from. -/
def Note.part : Note → Part
  | .baseUrl _ => .server
  | .unresolved _ => .parameters
  | _ => .compiler

/-- The wording of a note. -/
def Note.message : Note → String
  | .baseUrl url => "Resolved base URL " ++ url
  | .unresolved reference =>
      "Parameter reference '" ++ reference ++ "' does not resolve; ignoring it"
  | .skipped name =>
      "Resource " ++ name ++ " does not have an 'operationId' defined. Skipping creation."
  | .creating name trigger =>
      "Creating API destination " ++ name ++ " with trigger '" ++ trigger ++ "'"
  | .collision c =>
      "Resource name " ++ c.name ++ " generated by " ++ c.replacement.text ++
        " replaces the one from " ++ c.existing.text
  | .roleReplaced role =>
      "Execution role " ++ role ++
        " was replaced by a generated resource; invoke permissions were not granted"
  | .replaced name =>
      "Generated resource " ++ name ++ " replaces the blueprint resource of the same name"
  | .finished made omitted =>
      "Generated " ++ toString made ++ " API destinations (" ++ toString omitted ++
        " operations skipped)"

/-- A note as a log record. -/
def Note.record (n : Note) : Record :=
  ⟨n.level, n.part, n.message⟩

end EventRouting
