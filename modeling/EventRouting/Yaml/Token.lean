/-!
# Tokens of a document

The indicators, properties and scalars that a text is made of. A block collection has a start and
an end token of its own, which no character writes: they follow from the indentation.
-/

namespace EventRouting.Yaml

/-- A token of a document. -/
inductive Token
  | version (major minor : Nat)
  | tagHandle (handle expansion : List Char)
  | documentStart
  | documentEnd
  | blockSequence
  | blockMapping
  | blockEnd
  | flowSequence
  | flowSequenceEnd
  | flowMapping
  | flowMappingEnd
  | blockEntry
  | flowEntry
  | key
  | value
  | alias (name : List Char)
  | anchor (name : List Char)
  | tag (handle suffix : List Char)
  | scalar (plain : Bool) (text : List Char)
deriving DecidableEq, Repr

end EventRouting.Yaml
