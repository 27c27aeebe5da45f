import EventRouting.Command.Arguments
import EventRouting.Command.Log
import EventRouting.Command.Summary
import EventRouting.Document.Storage
import EventRouting.Text.Quoted

/-!
# Runs

A run goes through stages, and the first stage that fails ends it and decides the exit code. To
validate, the API description and the policy are loaded, everything is compiled, and names must not
collide. To generate, a blueprint is loaded as well, and the template is stored and made known to
the automation that started the run.
-/

namespace EventRouting.Command

/-- The variable of the environment that names the threshold for records. -/
def thresholdVariable : String := "RUST_LOG"

/-- The variable of the environment that names the file in which a template is made known. -/
def publicationVariable : String := "GITHUB_OUTPUT"

/-- Why a run fails. -/
inductive Failure
  | specification (name : String) (e : DocumentError)
  | policy (name : String) (e : PolicyLoadError)
  | blueprint (name : String) (e : DocumentError)
  | compilation (verb : Verb) (e : CompilationError)
  | problems (count : Nat)
  | template (name : String) (e : DocumentError)
  | publication (e : FileError)
deriving DecidableEq, Repr

/-- What was tried when a compilation failed. -/
def Verb.compilationText : Verb → String
  | .generate => "Failed to compile template"
  | .validate => "Validation failed"

namespace Failure

/-- What was tried, and why it failed, from the outside to the inside. -/
def texts : Failure → List String
  | .specification name e => ("Failed to read API spec " ++ name) :: e.message :: e.causes
  | .policy name e => ("Failed to load policy " ++ name) :: e.message :: e.causes
  | .blueprint name e => ("Failed to read blueprint " ++ name) :: e.message :: e.causes
  | .compilation verb e => [verb.compilationText, e.message]
  | .problems count => ["Validation failed with " ++ toString count ++ " problem(s)"]
  | .template name e => ("Failed to write template " ++ name) :: e.message :: e.causes
  | .publication e => ["Failed to write " ++ publicationVariable, e.message]

/-- The wording of a failure. -/
def message (f : Failure) : String :=
  String.intercalate ": " f.texts

/-- The exit code for a document: missing, not to be accessed, or not to be understood. -/
def documentCode : DocumentError → Nat
  | .notFound _ => 2
  | .file _ => 1
  | .malformed _ | .unwritable _ => 3

/-- The exit code of a failure. -/
def exitCode : Failure → Nat
  | .specification _ e | .blueprint _ e | .template _ e => documentCode e
  | .policy _ (.invalid _) => 3
  | .policy .. => 5
  | .compilation .. | .problems _ => 3
  | .publication _ => 1

end Failure

/-- What a run leaves behind besides files. -/
structure Session where
  records : List Record := []
  output : String := ""

/-- Stages that access files, write to the session and may fail. -/
abbrev Stage (m : Type → Type) := ExceptT Failure (StateT Session m)

namespace Stage

variable {m : Type → Type} [Monad m]

/-- Writes records down. -/
def log (records : List Record) : Stage m Unit :=
  modify fun s => { s with records := s.records ++ records }

/-- Prints lines. -/
def print (lines : List String) : Stage m Unit :=
  modify fun s => { s with output := s.output ++ String.join (lines.map (· ++ "\n")) }

/-- Accesses files. -/
def access {α : Type} (action : m α) : Stage m α :=
  monadLift action

/-- Goes on with a result, or fails. -/
def require {ε α : Type} (failure : ε → Failure) : Except ε α → Stage m α
  | .ok a => return a
  | .error e => throw (failure e)

end Stage

variable {m : Type → Type} [Monad m] [FileAccess m]

/-- The record of a document that is read. What is not there is not read. -/
def readRecords {α : Type} (name : String) : Except DocumentError α → List Record
  | .error (.notFound _) => []
  | _ => [⟨.debug, .reader, "Reading document from " ++ Text.quoted name⟩]

namespace Source

/-- Loads the API description. -/
def loadSpecification (s : Source) : Stage m Specification := do
  let result ← Stage.access (Specification.load s.specification)
  Stage.log (readRecords s.specification result)
  Stage.require (.specification s.specification) result

/-- Loads the policy, if one is named. -/
def loadPolicy (s : Source) : Stage m Policy := do
  match s.policy with
  | none => return {}
  | some name =>
      Stage.log [⟨.debug, .policy,
        "Loading generation policy from " ++ Text.quoted name⟩]
      Stage.require (.policy name) (← Stage.access (Policy.load name))

/-- The options with a policy and a blueprint. -/
def options (s : Source) (policy : Policy) (blueprint : Option Value) : Options where
  methods := .parse s.methods
  namePrefix := s.namePrefix
  environment := s.environment
  blueprint := blueprint
  policy := policy

end Source

/-- Loads the blueprint, if one is named. -/
def loadBlueprint : Option String → Stage m (Option Value)
  | none => return none
  | some name => do
      Stage.log [⟨.debug, .generate, "Using blueprint " ++ name⟩]
      let result ← Stage.access (Value.load name)
      Stage.log (readRecords name result)
      some <$> Stage.require (.blueprint name) result

/-- Compiles, and writes down what there is to say. -/
def compile (verb : Verb) (s : Specification) (o : Options) : Stage m Compilation := do
  Stage.log ((s.journal o).map Note.record)
  Stage.require (.compilation verb) (s.compile o)

/-- Validates an API description. -/
def validate (source : Source) : Stage m Unit := do
  Stage.log [⟨.info, .validate,
    "Validating API spec: " ++ source.specification⟩]
  let s ← source.loadSpecification
  let policy ← source.loadPolicy
  Stage.print ["📋 Compiling " ++ s.title?.getD "API spec" ++ "..."]
  let c ← compile .validate s (source.options policy none)
  Stage.print c.summary
  if c.collisions.isEmpty then return ()
  else throw (.problems c.collisions.length)

/-- The record of a name that is used again. -/
def overwriteRecord (c : NameCollision) : Record :=
  ⟨.warn, .generate,
    c.name ++ " from " ++ c.existing.text ++ " was overwritten by " ++ c.replacement.text⟩

/-- Stores the template. -/
def storeTemplate (output : String) (template : Value) : Stage m Unit := do
  Stage.log [⟨.debug, .writer,
    "Writing " ++ (Format.ofFileName output).name ++ " document to " ++ Text.quoted output⟩]
  Stage.require (.template output) (← Stage.access (template.store output))

/-- The line that makes the template known. -/
def publicationLine (output : String) : String :=
  "template-path=" ++ output ++ "\n"

/-- Makes the template known in a file, if one is named. -/
def publish (output : String) : (file : Option String) → Stage m Unit
  | none => return ()
  | some file => do
      let result ← Stage.access (FileAccess.append file (publicationLine output).toUTF8)
      Stage.require .publication result

/-- Generates a template. -/
def generate (source : Source) (blueprint : Option String) (output : String)
    (publication : Option String) : Stage m Unit := do
  Stage.log [⟨.info, .generate,
    "Generating template from " ++ source.specification⟩]
  let s ← source.loadSpecification
  let policy ← source.loadPolicy
  let blueprint ← loadBlueprint blueprint
  let c ← compile .generate s (source.options policy blueprint)
  Stage.log (c.collisions.map overwriteRecord)
  storeTemplate output c.template
  Stage.log [⟨.info, .generate,
    "Successfully transformed API spec into " ++ output⟩]
  publish output publication

/-- What a run shows when it is over. -/
structure Outcome where
  exitCode : Nat
  output : String := ""
  failure : Option String := none
  /-- The records up to the threshold. -/
  records : List Record := []
  /-- Whether the records are to be shown as JSON. -/
  json : Bool := false
deriving DecidableEq, Repr

/-- The version, under the name of the program and its verb. -/
def versionText (name : String) : String :=
  name ++ " 0.1.0\n"

namespace Invocation

/-- The threshold that the switches ask for. -/
def switchThreshold (i : Invocation) : Nat :=
  if i.switches.contains .verbose then Level.debug.rank
  else if i.switches.contains .quiet then Level.warn.rank
  else Level.info.rank

/-- The threshold for records: the environment's, if it names one. -/
def threshold (i : Invocation) (environment : String → Option String) : Nat :=
  ((environment thresholdVariable).bind threshold?).getD i.switchThreshold

/-- The stages of the task. -/
def stages (i : Invocation) (environment : String → Option String) : Stage m Unit :=
  match i.task with
  | .validate source => validate source
  | .generate source blueprint output =>
      generate source blueprint output (environment publicationVariable)

/-- Carries the task out. -/
def run (i : Invocation) (environment : String → Option String) : m Outcome := do
  let (result, session) ← ((i.stages environment).run).run {}
  let failure := match result with
    | .ok () => none
    | .error f => some f
  return {
    exitCode := (failure.map Failure.exitCode).getD 0
    output := session.output
    failure := failure.map Failure.message
    records := session.records.filter fun r => r.level.rank ≤ i.threshold environment
    json := i.switches.contains .json }

end Invocation

/-- Does what the arguments ask for. Help and refused arguments end the run with their exit codes;
the screens that go with them are left out, so that it shows nothing. -/
def execute (arguments : List String) (environment : String → Option String) : m Outcome :=
  match Request.of arguments environment with
  | .refused => return { exitCode := 2 }
  | .help => return { exitCode := 0 }
  | .version name => return { exitCode := 0, output := versionText name }
  | .run i => i.run environment

end EventRouting.Command
