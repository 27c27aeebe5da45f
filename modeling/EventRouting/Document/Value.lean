import EventRouting.Decimal.Binary64
import EventRouting.Entries

/-!
# Document values

The tree that a document stands for: scalars, sequences, mappings whose entries keep their order,
and values that carry a local tag. Keys of a mapping may be any values. Two values are the same if
they differ at most in the order of mapping entries, in the sign of a zero, or not at all.
-/

namespace EventRouting

/-- A number of a document: a whole number or a floating-point number, never equal to each other. -/
inductive Number
  | int (n : Int)
  | float (x : Binary64)
deriving DecidableEq, Repr

/-- Whole numbers compare by value, and so do floating-point numbers. -/
def Number.same : Number → Number → Bool
  | .int m, .int n => m == n
  | .float x, .float y => x.same y
  | _, _ => false

/-- A document value. -/
inductive Value
  | null
  | bool (b : Bool)
  | number (n : Number)
  | string (s : String)
  | sequence (items : List Value)
  | mapping (entries : List (Value × Value))
  | tagged (tag : String) (value : Value)
deriving Inhabited

namespace Value

mutual

/-- Whether two values are the same. -/
def same : Value → Value → Bool
  | .null, .null => true
  | .bool a, .bool b => a == b
  | .number m, .number n => m.same n
  | .string s, .string t => s == t
  | .sequence xs, .sequence ys => sameItems xs ys
  | .mapping xs, .mapping ys => xs.length == ys.length && within xs ys && ys.all (hasEntry xs)
  | .tagged s x, .tagged t y => s == t && x.same y
  | _, _ => false

/-- Whether two lists have the same values in the same order. -/
def sameItems : List Value → List Value → Bool
  | [], [] => true
  | x :: xs, y :: ys => x.same y && sameItems xs ys
  | _, _ => false

/-- Whether each of the first entries is the same as one of the second. -/
def within : List (Value × Value) → List (Value × Value) → Bool
  | [], _ => true
  | (k, v) :: rest, ys => ys.any (fun e => k.same e.1 && v.same e.2) && within rest ys

/-- Whether one of the entries is the same as `e`. -/
def hasEntry : List (Value × Value) → Value × Value → Bool
  | [], _ => false
  | (k, v) :: rest, e => (k.same e.1 && v.same e.2) || hasEntry rest e

end

instance : BEq Value := ⟨same⟩

theorem beq_eq_same (x y : Value) : (x == y) = x.same y := rfl

/-- A text is the same as itself only. -/
@[simp] theorem beq_string_iff {k : Value} {s : String} :
    (k == Value.string s) = true ↔ k = .string s := by
  cases k <;> simp [beq_eq_same, same]

@[simp] theorem string_beq_iff {s : String} {k : Value} :
    (Value.string s == k) = true ↔ .string s = k := by
  cases k <;> simp [beq_eq_same, same]

instance (s : String) : Entries.Exact (Value.string s) :=
  ⟨fun _ => beq_string_iff, fun _ => string_beq_iff⟩

/-- Whether the value is nothing, possibly under tags. -/
def isNull : Value → Bool
  | .null => true
  | .tagged _ v => v.isNull
  | _ => false

/-- The kind of a value, as messages name it. -/
def kind : Value → String
  | .null => "null"
  | .bool _ => "a boolean"
  | .number _ => "a number"
  | .string _ => "a string"
  | .sequence _ => "a sequence"
  | .mapping _ => "a mapping"
  | .tagged .. => "a tagged value"

/-- The entries of a mapping, possibly under tags. -/
def entries? : Value → Option (List (Value × Value))
  | .mapping entries => some entries
  | .tagged _ v => v.entries?
  | _ => none

/-- A whole number. -/
def nat (n : Nat) : Value :=
  .number (.int n)

/-- A mapping from names. -/
def record (fields : List (String × Value)) : Value :=
  .mapping (fields.map fun f => (.string f.1, f.2))

/-- A sequence of texts. -/
def strings (items : List String) : Value :=
  .sequence (items.map .string)

/-- The value that a mapping has under a name. -/
def field? (v : Value) (name : String) : Option Value :=
  v.entries?.bind (Entries.get? (.string name))

end Value

/-- The entries of a mapping, in order. -/
abbrev Mapping := List (Value × Value)

end EventRouting
