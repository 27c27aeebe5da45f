/-!
# Composed documents

The nodes of a document before anything is known about the shape that is wanted: scalars with their
tags, collections, and aliases of anchored nodes.
-/

namespace EventRouting.Yaml

/-- A node of a document. -/
inductive Node
  /-- The node that is anchored under a number. -/
  | alias (anchor : Nat)
  | scalar (tag : Option String) (plain : Bool) (text : String)
  | sequence (tag : Option String) (items : List Node)
  | mapping (tag : Option String) (entries : List (Node × Node))
deriving Inhabited

namespace Node

/-- The node that stands where nothing is written. -/
def empty : Node :=
  .scalar none true ""

mutual

/-- How many events announce a node: one for a scalar or an alias, a start and an end for a
collection around those of its parts. -/
def eventCount : Node → Nat
  | .alias _ => 1
  | .scalar .. => 1
  | .sequence _ items => 2 + itemEvents items
  | .mapping _ entries => 2 + entryEvents entries

/-- The events of the items of a sequence. -/
def itemEvents : List Node → Nat
  | [] => 0
  | item :: items => item.eventCount + itemEvents items

/-- The events of the entries of a mapping. -/
def entryEvents : List (Node × Node) → Nat
  | [] => 0
  | (key, value) :: entries => key.eventCount + value.eventCount + entryEvents entries

end

end Node

/-- A composed document: its root, which is empty if nothing is written, and the anchored nodes. -/
structure Document where
  root : Node
  /-- The anchored nodes, the latest first. -/
  anchors : List (Nat × Node) := []

namespace Document

/-- The node that an anchor number stands for. -/
def anchored? (d : Document) (anchor : Nat) : Option Node :=
  d.anchors.lookup anchor

/-- How many times aliases may be followed while a document is read, which bounds the size of what
they expand to. -/
def aliasBudget (d : Document) : Nat :=
  100 * d.root.eventCount

end Document

end EventRouting.Yaml
