import EventRouting.Entries

/-!
# Maps that remember the order of their names

A finite map from names whose names are kept in the order of their first insertion.
-/

namespace EventRouting

/-- Entries with distinct names, in the order in which the names first came. -/
structure OrderedMap (β : Type) where
  entries : List (String × β)
  nodup : (Entries.keys entries).Nodup
deriving DecidableEq

namespace OrderedMap

variable {β : Type}

/-- The map without names. -/
def empty : OrderedMap β :=
  ⟨[], by simp⟩

instance : Inhabited (OrderedMap β) := ⟨empty⟩

/-- The names in the order of their first insertion. -/
def names (m : OrderedMap β) : List String :=
  Entries.keys m.entries

/-- How many names there are. -/
def size (m : OrderedMap β) : Nat :=
  m.entries.length

/-- Whether there are no names. -/
def isEmpty (m : OrderedMap β) : Bool :=
  m.entries.isEmpty

/-- The value of a name. -/
def get? (m : OrderedMap β) (name : String) : Option β :=
  Entries.get? name m.entries

/-- Whether the name has a value. -/
def contains (m : OrderedMap β) (name : String) : Bool :=
  (m.get? name).isSome

/-- Gives the name a value; a name that is there keeps its position. -/
def insert (m : OrderedMap β) (name : String) (value : β) : OrderedMap β :=
  ⟨Entries.insert name value m.entries, Entries.nodup_keys_insert m.nodup name value⟩

/-- Gives the name a value like `insert`, and hands out the value that had to make way. -/
def exchange (m : OrderedMap β) (name : String) (value : β) : OrderedMap β × Option β :=
  (⟨(Entries.exchange name value m.entries).1, by
      rw [Entries.exchange_eq]
      exact Entries.nodup_keys_insert m.nodup name value⟩,
    (Entries.exchange name value m.entries).2)

/-- Changes the value of a name that is there. -/
def modify (m : OrderedMap β) (name : String) (f : β → β) : OrderedMap β :=
  ⟨Entries.modify name f m.entries, by rw [Entries.keys_modify]; exact m.nodup⟩

/-- Inserts the entries of `other` in their order. -/
def merge (m other : OrderedMap β) : OrderedMap β :=
  other.entries.foldl (fun acc e => acc.insert e.1 e.2) m

/-- The map that arises by inserting the entries in their order. -/
def ofList (entries : List (String × β)) : OrderedMap β :=
  entries.foldl (fun acc e => acc.insert e.1 e.2) empty

@[ext] theorem ext {m n : OrderedMap β} (h : m.entries = n.entries) : m = n := by
  cases m
  cases n
  cases h
  rfl

/-- An exchange inserts, and what had to make way is what was read before. -/
theorem exchange_eq (m : OrderedMap β) (name : String) (value : β) :
    m.exchange name value = (m.insert name value, m.get? name) := by
  simp only [exchange, Entries.exchange_eq]
  rfl

@[simp] theorem get?_empty (name : String) : (empty : OrderedMap β).get? name = none := rfl

@[simp] theorem get?_insert_self (m : OrderedMap β) (name : String) (value : β) :
    (m.insert name value).get? name = some value :=
  Entries.get?_insert_self name value m.entries

theorem get?_insert_of_ne (m : OrderedMap β) {name other : String} (h : other ≠ name)
    (value : β) : (m.insert name value).get? other = m.get? other :=
  Entries.get?_insert_of_ne h value m.entries

theorem get?_modify_self (m : OrderedMap β) (name : String) (f : β → β) :
    (m.modify name f).get? name = (m.get? name).map f :=
  Entries.get?_modify_self name f m.entries

theorem get?_modify_of_ne (m : OrderedMap β) {name other : String} (h : other ≠ name)
    (f : β → β) : (m.modify name f).get? other = m.get? other :=
  Entries.get?_modify_of_ne h f m.entries

@[simp] theorem names_modify (m : OrderedMap β) (name : String) (f : β → β) :
    (m.modify name f).names = m.names :=
  Entries.keys_modify name f m.entries

theorem names_insert (m : OrderedMap β) (name : String) (value : β) :
    (m.insert name value).names =
      if m.contains name then m.names else m.names ++ [name] :=
  Entries.keys_insert name value m.entries

theorem mem_names_iff {m : OrderedMap β} {name : String} :
    name ∈ m.names ↔ m.contains name = true :=
  Entries.mem_keys_iff

end OrderedMap

end EventRouting
