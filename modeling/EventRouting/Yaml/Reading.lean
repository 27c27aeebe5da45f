import EventRouting.Yaml.Node
import EventRouting.Yaml.Scalar

/-!
# Reading nodes

What a node means where a certain shape is wanted: any value, a text, a list, the entries of a
mapping, or the fields of a record. An aliased node is read where the alias stands, which may happen
only so often; collections may be nested only so deep. Parts that nobody asks for are not read.
-/

namespace EventRouting.Yaml

/-- Reading fails if the shape does not fit. The state is the number of aliases that may still be
followed. -/
abbrev Reading := StateT Nat Option

/-- How deep collections may be nested. -/
def greatestDepth : Nat := 128

namespace Reading

/-- The node itself, or the one that an alias stands for. -/
def resolve (d : Document) : Node → Reading Node
  | .alias anchor => do
      match ← get with
      | 0 => failure
      | budget + 1 =>
          set budget
          match d.anchored? anchor with
          | some n => return n
          | none => failure
  | n => return n

/-- The depth that is left inside of a collection. -/
def deeper : Nat → Reading Nat
  | 0 => failure
  | depth + 1 => return depth

/-- The name of a local tag, without its exclamation marks. -/
def localTag? (tag : String) : Option String :=
  match tag.toList with
  | ['!'] => some "!"
  | ['!', '!'] => some "!"
  | '!' :: '!' :: name => some (String.ofList name)
  | '!' :: name => some (String.ofList name)
  | _ => none

/-- The meaning of a scalar under a tag that is not local. Four tags ask for a kind of scalar, and
every other one makes it a text. -/
def meaning? (tag : Option String) (plain : Bool) (text : String) : Option Scalar :=
  match tag with
  | none => some (if plain then Scalar.resolve text.toList else .text text)
  | some "tag:yaml.org,2002:bool" => (Scalar.bool? text.toList).map .bool
  | some "tag:yaml.org,2002:int" => Scalar.sized? text.toList
  | some "tag:yaml.org,2002:float" => (Scalar.float? text.toList).map .float
  | some "tag:yaml.org,2002:null" => if Scalar.isNull text.toList then some .null else none
  | some _ => some (.text text)

/-- The value of a scalar. A whole number must fit into 64 bits. -/
def scalarValue? : Scalar → Option Value
  | .null => some .null
  | .bool b => some (.bool b)
  | .integer negative n => some (.number (.int (if negative then -(n : Int) else n)))
  | .float x => some (.number (.float x))
  | .text s => some (.string s)
  | .oversized => none

/-- Which values a tree may hold: those of a document may be tagged but have distinct keys, those of
an entry have no local tags but may repeat keys. -/
inductive TreeKind
  | document
  | entry

/-- Adds an entry to those of a mapping, whose keys must be distinct in a document. -/
def addEntry (kind : TreeKind) (entries : List (Value × Value)) (e : Value × Value) :
    Reading (List (Value × Value)) :=
  match kind with
  | .entry => return entries ++ [e]
  | .document => if Entries.contains e.1 entries then failure else return entries ++ [e]

/-- The value of a node inside of as many collections as `depth` allows. -/
def value (d : Document) (kind : TreeKind) : (depth : Nat) → Node → Reading Value
  | depth, n => do
      let n ← resolve d n
      let tag := match n with
        | .alias _ => none
        | .scalar tag _ _ => tag.bind localTag?
        | .sequence tag _ => tag.bind localTag?
        | .mapping tag _ => tag.bind localTag?
      let v ← match n with
        | .alias _ => failure
        | .scalar coreTag plain text =>
            let m ← (meaning? (if tag.isSome then none else coreTag) plain text : Option Scalar)
            (scalarValue? m : Option Value)
        | .sequence _ items =>
            match depth with
            | 0 => failure
            | depth + 1 => .sequence <$> items.mapM (value d kind depth)
        | .mapping _ entries =>
            match depth with
            | 0 => failure
            | depth + 1 =>
                let read := fun (acc : List (Value × Value)) (e : Node × Node) => do
                  let key ← value d kind depth e.1
                  let item ← value d kind depth e.2
                  addEntry kind acc (key, item)
                .mapping <$> entries.foldlM read []
      match tag, kind with
      | none, _ => return v
      | some name, .document => return .tagged name v
      | some _, .entry => failure

/-- The text of a scalar, however it is written. -/
def text (d : Document) (n : Node) : Reading String := do
  match ← resolve d n with
  | .scalar _ _ text => return text
  | _ => failure

/-- Whether a node is nothing: a plain scalar that is empty or a word for nothing. A tag other than
the one for nothing makes it something. -/
def isNothing : Node → Reading Bool
  | .scalar tag true text =>
      match tag with
      | none => return text.isEmpty || Scalar.isNull text.toList
      | some "tag:yaml.org,2002:null" =>
          if Scalar.isNull text.toList then return true else failure
      | some _ => return false
  | _ => return false

/-- Something, or nothing. -/
def optional {α : Type} (d : Document) (read : Node → Reading α) (n : Node) :
    Reading (Option α) := do
  let n ← resolve d n
  if ← isNothing n then return none else some <$> read n

/-- The items of a list, and the depth inside of it. An empty plain scalar is the empty list. -/
def items (d : Document) (depth : Nat) (n : Node) : Reading (List Node × Nat) := do
  match ← resolve d n with
  | .sequence _ items => return (items, ← deeper depth)
  | .scalar _ true "" => return ([], depth)
  | _ => failure

/-- The entries of a mapping, and the depth inside of it. An empty plain scalar is the empty
mapping. -/
def entries (d : Document) (depth : Nat) (n : Node) : Reading (List (Node × Node) × Nat) := do
  match ← resolve d n with
  | .mapping _ entries => return (entries, ← deeper depth)
  | .scalar _ true "" => return ([], depth)
  | _ => failure

/-- Every item of a list. -/
def list {α : Type} (d : Document) (read : Nat → Node → Reading α) (depth : Nat) (n : Node) :
    Reading (List α) := do
  let (items, depth) ← items d depth n
  items.mapM (read depth)

/-- The known fields among the entries of a record. No field may stand twice. -/
def fields (d : Document) (known : List String) :
    List (Node × Node) → Reading (List (String × Node))
  | [] => return []
  | (key, value) :: rest => do
      let name ← text d key
      let others ← fields d known rest
      if !known.contains name then return others
      else if Entries.contains name others then failure
      else return (name, value) :: others

/-- The known fields of a record, and the depth inside of it. -/
def record (d : Document) (known : List String) (depth : Nat) (n : Node) :
    Reading (List (String × Node) × Nat) := do
  let (entries, depth) ← entries d depth n
  return (← fields d known entries, depth)

/-- A field of a record; a missing one has the default value. -/
def field {α : Type} (fields : List (String × Node)) (name : String) (default : α)
    (read : Node → Reading α) : Reading α :=
  match Entries.get? name fields with
  | some n => read n
  | none => return default

/-- Runs a reading on the root of a document. -/
def ofDocument? {α : Type} (d : Document) (read : Nat → Node → Reading α) : Option α :=
  (read greatestDepth d.root).run' d.aliasBudget

end Reading

/-- The value that a document stands for. -/
def Document.value? (d : Document) : Option Value :=
  Reading.ofDocument? d (Reading.value d .document)

end EventRouting.Yaml
