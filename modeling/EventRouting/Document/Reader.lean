import EventRouting.Yaml.Composition
import EventRouting.Yaml.Reading

/-!
# Reading document values

The value or the mapping that a text writes. Where a mapping is wanted, its tag does not count, and
an empty text is the empty mapping.
-/

namespace EventRouting

open Yaml Yaml.Reading

/-- The value that a text writes. -/
def Value.parse? (text : String) : Option Value := do
  (← Document.parse? text).value?

namespace Mapping

/-- Reads a mapping with distinct keys. -/
def read (d : Document) (depth : Nat) (n : Node) : Reading Mapping := do
  let (entries, depth) ← entries d depth n
  entries.foldlM (fun acc e => do
    let key ← value d .document depth e.1
    let item ← value d .document depth e.2
    addEntry .document acc (key, item)) []

/-- The mapping that a text writes. -/
def parse? (text : String) : Option Mapping := do
  let d ← Document.parse? text
  Reading.ofDocument? d (read d)

end Mapping

end EventRouting
