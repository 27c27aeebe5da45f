import EventRouting.Entries
import EventRouting.Route.MethodSet

/-!
# Arguments

What the arguments and the environment of a run ask for. A command comes with settings, each of
which has a long name and most a letter; what the arguments do not set comes from the environment.
Switches may stand before and behind the command. Arguments are looked at from left to right, and
the first one that is refused or asks for the version decides. That help is asked for, or that an
argument is refused, is all that is told here: the screens that explain commands and errors are left
out.
-/

namespace EventRouting.Command

/-- A switch that is on or off. -/
inductive Switch
  | verbose
  | quiet
  | json
deriving DecidableEq, Repr

/-- A setting with a text as its value. -/
inductive Setting
  | specification
  | namePrefix
  | environment
  | methods
  | policy
  | blueprint
  | output
deriving DecidableEq, Repr

/-- What an argument names. -/
inductive Key
  | switch (s : Switch)
  | setting (s : Setting)
  | version
  | help
deriving DecidableEq, Repr

/-- What a long name stands for. -/
def longKey? : String → Option Key
  | "verbose" => some (.switch .verbose)
  | "quiet" => some (.switch .quiet)
  | "log-json" => some (.switch .json)
  | "spec" => some (.setting .specification)
  | "prefix" => some (.setting .namePrefix)
  | "environment" => some (.setting .environment)
  | "methods" => some (.setting .methods)
  | "policy" => some (.setting .policy)
  | "blueprint" => some (.setting .blueprint)
  | "output" => some (.setting .output)
  | "version" => some .version
  | "help" => some .help
  | _ => none

/-- What a letter stands for. -/
def shortKey? : Char → Option Key
  | 'v' => some (.switch .verbose)
  | 'q' => some (.switch .quiet)
  | 's' => some (.setting .specification)
  | 'p' => some (.setting .namePrefix)
  | 'e' => some (.setting .environment)
  | 'm' => some (.setting .methods)
  | 'b' => some (.setting .blueprint)
  | 'o' => some (.setting .output)
  | 'V' => some .version
  | 'h' => some .help
  | _ => none

namespace Setting

/-- The variable of the environment that a setting falls back to. -/
def variableName : Setting → String
  | .specification => "INPUT_SPECPATH"
  | .namePrefix => "INPUT_RESOURCEPREFIX"
  | .environment => "INPUT_ENVIRONMENT"
  | .methods => "INPUT_HTTPMETHODS"
  | .policy => "INPUT_POLICY"
  | .blueprint => "INPUT_BLUEPRINT"
  | .output => "INPUT_OUTPUTFILENAME"

/-- Whether the value names a file, which it must not do by an empty text. -/
def isFile : Setting → Bool
  | .specification | .policy | .blueprint | .output => true
  | .namePrefix | .environment | .methods => false

/-- Whether the setting can have the value. -/
def accepts (s : Setting) (value : String) : Bool :=
  !(s.isFile && value == "")

end Setting

/-- What is to be done. -/
inductive Verb
  | generate
  | validate
deriving DecidableEq, Repr

/-- The verb that a word names. -/
def Verb.ofName? : String → Option Verb
  | "generate" => some .generate
  | "validate" => some .validate
  | _ => none

/-- The name of a verb. -/
def Verb.name : Verb → String
  | .generate => "generate"
  | .validate => "validate"

/-- The settings that a verb has. -/
def Verb.settings : Verb → List Setting
  | .validate => [.specification, .namePrefix, .environment, .methods, .policy]
  | .generate =>
      [.specification, .namePrefix, .environment, .methods, .policy, .blueprint, .output]

/-- The switches and settings that arguments made. -/
structure Found where
  switches : List Switch := []
  settings : List (Setting × String) := []

/-- What is known when some arguments have been looked at. -/
inductive Progress
  | found (f : Found)
  /-- The next argument has to be the value of a setting. -/
  | wants (s : Setting) (f : Found)
  | version
  | help
  | refused

namespace Found

/-- Turns a switch on, which may be done once. -/
def turnOn (f : Found) (s : Switch) : Progress :=
  if f.switches.contains s then .refused else .found { f with switches := s :: f.switches }

/-- Gives a setting its value, which may be done once. -/
def give (f : Found) (s : Setting) (value : String) : Progress :=
  if Entries.contains s f.settings || !s.accepts value then .refused
  else .found { f with settings := f.settings ++ [(s, value)] }

/-- Whether switches are on that contradict each other. -/
def isContradictory (f : Found) : Bool :=
  f.switches.contains .verbose && f.switches.contains .quiet

end Found

/-- Looks at the letters behind a single dash. A setting takes the letters behind its own as its
value. -/
def letters (known : List Setting) : List Char → Found → Progress
  | [], f => .found f
  | c :: rest, f =>
      match shortKey? c with
      | none => .refused
      | some .version => .version
      | some .help => .help
      | some (.switch s) =>
          match f.turnOn s with
          | .found f => letters known rest f
          | p => p
      | some (.setting s) =>
          if !known.contains s then .refused
          else
            match rest with
            | [] => .wants s f
            | '=' :: value => f.give s (String.ofList value)
            | value => f.give s (String.ofList value)

/-- Looks at a long name, with or without a value behind an equals sign. -/
def longName (known : List Setting) (text : List Char) (f : Found) : Progress :=
  let name := String.ofList (text.takeWhile (· != '='))
  let value := match text.dropWhile (· != '=') with
    | _ :: value => some (String.ofList value)
    | [] => none
  match longKey? name, value with
  | some .version, none => .version
  | some .help, none => .help
  | some (.switch s), none => f.turnOn s
  | some (.setting s), value =>
      if !known.contains s then .refused
      else
        match value with
        | some value => f.give s value
        | none => .wants s f
  | _, _ => .refused

/-- What the form of an argument makes of it. -/
inductive Form
  /-- Two dashes, behind which there are only words. -/
  | separator
  | long (text : List Char)
  | short (letters : List Char)
  | word

/-- The form of an argument. A lone dash is a word. -/
def Form.of (argument : String) : Form :=
  match argument.toList with
  | ['-', '-'] => .separator
  | '-' :: '-' :: text => .long text
  | ['-'] => .word
  | '-' :: letters => .short letters
  | _ => .word

/-- Looks at arguments up to the first word, and gives the arguments from there on. -/
def scan (known : List Setting) : List String → Found → Progress × List String
  | [], f => (.found f, [])
  | argument :: rest, f =>
      let progress : Option Progress := match Form.of argument with
        | .separator => if rest.isEmpty then some (.found f) else some .refused
        | .long text => some (longName known text f)
        | .short cs => some (letters known cs f)
        | .word => none
      match progress, rest with
      | none, rest => (.found f, argument :: rest)
      | some (.found f), rest => scan known rest f
      | some (.wants s f), value :: rest =>
          match Form.of value, f.give s value with
          | .word, .found f => scan known rest f
          | _, _ => (.refused, [])
      | some (.wants ..), [] => (.refused, [])
      | some p, _ => (p, [])

/-- What a template is generated from. -/
structure Source where
  specification : String
  namePrefix : String
  environment : Option String
  methods : String
  policy : Option String
deriving DecidableEq, Repr

/-- A verb with all it needs. -/
inductive Task
  | generate (source : Source) (blueprint : Option String) (output : String)
  | validate (source : Source)
deriving DecidableEq, Repr

/-- A task and the switches that are on. -/
structure Invocation where
  task : Task
  switches : List Switch
deriving DecidableEq, Repr

/-- What a run is asked for. -/
inductive Request
  | run (i : Invocation)
  /-- The version, under the name of the program and its verb. -/
  | version (name : String)
  | help
  | refused
deriving DecidableEq, Repr

/-- The value of a setting: from the arguments, else from the environment. A value of the
environment that the setting cannot have is refused. -/
def valueOf (settings : List (Setting × String)) (environment : String → Option String)
    (s : Setting) : Except Unit (Option String) :=
  match Entries.get? s settings, environment s.variableName with
  | some value, _ => .ok (some value)
  | none, none => .ok none
  | none, some value => if s.accepts value then .ok (some value) else .error ()

/-- The task that a verb and settings make. The API description must be named. -/
def Task.of (verb : Verb) (settings : List (Setting × String))
    (environment : String → Option String) : Except Unit Task := do
  let value := valueOf settings environment
  let some specification ← value .specification | .error ()
  let source : Source := {
    specification := specification
    namePrefix := (← value .namePrefix).getD ""
    environment := ← value .environment
    methods := (← value .methods).getD MethodSet.defaultText
    policy := ← value .policy }
  match verb with
  | .validate => return .validate source
  | .generate =>
      return .generate source (← value .blueprint) ((← value .output).getD "template.yaml")

/-- The name of the program. -/
def programName : String := "evgen"

/-- What the arguments behind a verb ask for, after `before` was found in front of it. -/
def requestBehind (environment : String → Option String) (before : Found) (verb : Verb)
    (arguments : List String) : Request :=
  match scan verb.settings arguments {} with
  | (.version, _) => .version (programName ++ "-" ++ verb.name)
  | (.help, _) => .help
  | (.found f, []) =>
      if f.isContradictory || before.isContradictory then .refused
      else
        match Task.of verb f.settings environment with
        | .ok task => .run ⟨task, before.switches ++ f.switches⟩
        | .error () => .refused
  | _ => .refused

/-- What the arguments ask for. -/
def Request.of (arguments : List String) (environment : String → Option String) : Request :=
  match scan [] arguments {} with
  | (.version, _) => .version programName
  | (.help, _) => .help
  | (.found f, word :: rest) =>
      match Verb.ofName? word with
      | some verb => requestBehind environment f verb rest
      | none => if word = "help" then .help else .refused
  | _ => .refused

end EventRouting.Command
