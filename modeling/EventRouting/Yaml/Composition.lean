import EventRouting.Yaml.Node
import EventRouting.Yaml.Token.Lexer

/-!
# From tokens to a document

`Document.ofTokens?` composes the nodes of a single document. Tag handles are resolved here, and
anchors are numbered: an anchor's number is the count of distinct names before it, and an alias
stands for the last node that was anchored under the number its name had then.
-/

namespace EventRouting.Yaml

/-- The state of composing. -/
structure Composer where
  tokens : List Token
  /-- The number of each anchor name. -/
  numbers : List (List Char × Nat) := []
  /-- How many anchors there were, with repeated names. -/
  marks : Nat := 0
  /-- The anchors of each number, the latest first. -/
  holders : List (Nat × Nat) := []
  /-- The nodes of the anchors that are complete. -/
  nodes : List (Nat × Node) := []

/-- A step of composing, which fails if the tokens do not fit. -/
abbrev Compose := StateT Composer Option

namespace Compose

/-- The next token, if there is one. -/
def peek : Compose (Option Token) :=
  return (← get).tokens.head?

/-- Goes behind the next token. -/
def next : Compose Unit :=
  modify fun s => { s with tokens := s.tokens.tail }

/-- Numbers an anchor and returns its mark. -/
def mark (name : List Char) : Compose Nat := do
  let s ← get
  let number := s.numbers.length
  let numbers := match s.numbers.lookup name with
    | some _ => s.numbers.map fun e => if e.1 == name then (name, number) else e
    | none => (name, number) :: s.numbers
  set { s with
    numbers := numbers, marks := s.marks + 1, holders := (number, s.marks) :: s.holders }
  return s.marks

/-- Says which node an anchor belongs to. -/
def fulfil (mark : Nat) (node : Node) : Compose Unit :=
  modify fun s => { s with nodes := (mark, node) :: s.nodes }

/-- The anchor and the tag of a node, in either order. -/
def properties : Compose (Option (List Char) × Option (List Char × List Char)) := do
  match ← peek with
  | some (.anchor name) =>
      next
      match ← peek with
      | some (.tag handle suffix) => next; return (some name, some (handle, suffix))
      | _ => return (some name, none)
  | some (.tag handle suffix) =>
      next
      match ← peek with
      | some (.anchor name) => next; return (some name, some (handle, suffix))
      | _ => return (none, some (handle, suffix))
  | _ => return (none, none)

/-- Resolves the handle of a tag. -/
def tagText (handles : List (List Char × List Char)) (tag : List Char × List Char) :
    Compose String :=
  match tag.1 with
  | [] => return String.ofList tag.2
  | handle =>
      match handles.lookup handle with
      | some expansion => return String.ofList (expansion ++ tag.2)
      | none => failure

mutual

/-- A node. Outside of flow collections it may be a block collection, and where `indentless` holds
also a sequence whose dashes are not indented. -/
def node (handles : List (List Char × List Char)) :
    (fuel : Nat) → (block indentless : Bool) → Compose Node
  | 0, _, _ => failure
  | fuel + 1, block, indentless => do
      match ← peek with
      | some (.alias name) =>
          next
          match (← get).numbers.lookup name with
          | some number => return .alias number
          | none => failure
      | _ =>
          let (anchor, rawTag) ← properties
          let tag ← rawTag.mapM (tagText handles)
          let held ← anchor.mapM mark
          let n ← content handles fuel block indentless (anchor.isSome || tag.isSome) tag
          match held with
          | some m => fulfil m n
          | none => pure ()
          return n

/-- What a node is, behind its properties. With properties it may be empty. -/
def content (handles : List (List Char × List Char)) :
    (fuel : Nat) → (block indentless described : Bool) → Option String → Compose Node
  | 0, _, _, _, _ => failure
  | fuel + 1, block, indentless, described, tag => do
      match ← peek with
      | some (.scalar plain text) =>
          next
          return .scalar (if tag == some "!" then none else tag) plain (String.ofList text)
      | some .flowSequence => next; return .sequence tag (← flowItems handles fuel true)
      | some .flowMapping => next; return .mapping tag (← flowPairs handles fuel true)
      | token =>
          if indentless && token == some .blockEntry then
            return .sequence tag (← looseItems handles fuel)
          else if block && token == some .blockSequence then
            next
            return .sequence tag (← blockItems handles fuel)
          else if block && token == some .blockMapping then
            next
            return .mapping tag (← blockPairs handles fuel)
          else if described then return .scalar tag true ""
          else failure

/-- The items of an indented block sequence. -/
def blockItems (handles : List (List Char × List Char)) : (fuel : Nat) → Compose (List Node)
  | 0 => failure
  | fuel + 1 => do
      match ← peek with
      | some .blockEntry =>
          next
          let item ← match ← peek with
            | some .blockEntry | some .blockEnd => pure .empty
            | _ => node handles fuel true false
          return item :: (← blockItems handles fuel)
      | some .blockEnd => next; return []
      | _ => failure

/-- The items of a block sequence that is not indented. -/
def looseItems (handles : List (List Char × List Char)) : (fuel : Nat) → Compose (List Node)
  | 0 => failure
  | fuel + 1 => do
      match ← peek with
      | some .blockEntry =>
          next
          let item ← match ← peek with
            | some .blockEntry | some .key | some .value | some .blockEnd => pure .empty
            | _ => node handles fuel true false
          return item :: (← looseItems handles fuel)
      | _ => return []

/-- The entries of a block mapping. -/
def blockPairs (handles : List (List Char × List Char)) :
    (fuel : Nat) → Compose (List (Node × Node))
  | 0 => failure
  | fuel + 1 => do
      match ← peek with
      | some .key =>
          next
          let key ← match ← peek with
            | some .key | some .value | some .blockEnd => pure .empty
            | _ => node handles fuel true true
          let value ← match ← peek with
            | some .value => do
                next
                match ← peek with
                | some .key | some .value | some .blockEnd => pure .empty
                | _ => node handles fuel true true
            | _ => pure .empty
          return (key, value) :: (← blockPairs handles fuel)
      | some .blockEnd => next; return []
      | _ => failure

/-- The items of a flow sequence. A key makes a mapping of one entry; where nothing stands between
it and the next indicator, that indicator is passed over. -/
def flowItems (handles : List (List Char × List Char)) :
    (fuel : Nat) → (first : Bool) → Compose (List Node)
  | 0, _ => failure
  | fuel + 1, first => do
      if (← peek) == some .flowSequenceEnd then
        next
        return []
      else
        unless first do
          if (← peek) == some .flowEntry then next else failure
        match ← peek with
        | some .flowSequenceEnd => next; return []
        | some .key =>
            next
            let key ← match ← peek with
              | some .value | some .flowEntry | some .flowSequenceEnd => do next; pure .empty
              | _ => node handles fuel false false
            let value ← match ← peek with
              | some .value => do
                  next
                  match ← peek with
                  | some .flowEntry | some .flowSequenceEnd => pure .empty
                  | _ => node handles fuel false false
              | _ => pure .empty
            return .mapping none [(key, value)] :: (← flowItems handles fuel false)
        | _ =>
            let item ← node handles fuel false false
            return item :: (← flowItems handles fuel false)

/-- The entries of a flow mapping. -/
def flowPairs (handles : List (List Char × List Char)) :
    (fuel : Nat) → (first : Bool) → Compose (List (Node × Node))
  | 0, _ => failure
  | fuel + 1, first => do
      if (← peek) == some .flowMappingEnd then
        next
        return []
      else
        unless first do
          if (← peek) == some .flowEntry then next else failure
        match ← peek with
        | some .flowMappingEnd => next; return []
        | some .key =>
            next
            let key ← match ← peek with
              | some .value | some .flowEntry | some .flowMappingEnd => pure .empty
              | _ => node handles fuel false false
            let value ← match ← peek with
              | some .value => do
                  next
                  match ← peek with
                  | some .flowEntry | some .flowMappingEnd => pure .empty
                  | _ => node handles fuel false false
              | _ => pure .empty
            return (key, value) :: (← flowPairs handles fuel false)
        | _ =>
            let key ← node handles fuel false false
            return (key, .empty) :: (← flowPairs handles fuel false)

end

/-- The handles that every document knows. -/
def defaultHandles : List (List Char × List Char) :=
  [(['!'], ['!']), (['!', '!'], "tag:yaml.org,2002:".toList)]

/-- Reads the directives of a document: at most one version, and one text for a handle. -/
def directives : (versioned : Bool) → List (List Char × List Char) → List Token →
    Option (List (List Char × List Char) × List Token)
  | versioned, handles, .version major minor :: tokens =>
      if versioned || major != 1 || (minor != 1 && minor != 2) then none
      else directives true handles tokens
  | versioned, handles, .tagHandle handle expansion :: tokens =>
      if (handles.lookup handle).isSome then none
      else directives versioned ((handle, expansion) :: handles) tokens
  | _, handles, tokens => some (handles ++ defaultHandles, tokens)

/-- Composes the root from the tokens of its content. Each call takes up a token or stands directly
between two that do, so three calls for each token are enough. -/
def root? (handles : List (List Char × List Char)) (tokens : List Token) :
    Option (Node × Composer) :=
  (node handles (3 * tokens.length + 8) true false).run { tokens := tokens }

end Compose

/-- The document that tokens make up. There must not be a second one. -/
def Document.ofTokens? (tokens : List Token) : Option Document := do
  match tokens with
  | [] => return { root := .empty }
  | .version .. :: _ | .tagHandle .. :: _ | .documentStart :: _ =>
      let (handles, rest) ← Compose.directives false [] tokens
      match rest with
      | .documentStart :: content =>
          match content with
          | [] => return { root := .empty }
          | .version .. :: _ | .tagHandle .. :: _ | .documentStart :: _ | .documentEnd :: _ =>
              finish (.empty, { tokens := content })
          | _ => finish (← Compose.root? handles content)
      | _ => none
  | _ => finish (← Compose.root? Compose.defaultHandles tokens)
where
  /-- Only document ends may follow the root. -/
  finish (r : Node × Composer) : Option Document :=
    if r.2.tokens.all (· == .documentEnd) then
      some
        { root := r.1
          anchors := r.2.holders.filterMap fun h =>
            (r.2.nodes.lookup h.2).map fun n => (h.1, n) }
    else none

/-- The document that a text writes, or nothing if it is malformed. -/
def Document.parse? (text : String) : Option Document := do
  Document.ofTokens? (← Token.scan? text)

end EventRouting.Yaml
