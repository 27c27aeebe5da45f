import EventRouting.Text.Blank
import EventRouting.Text.Case
import EventRouting.Text.Split

/-!
# Sets of methods

Which methods of a path are wanted. The case of letters does not count, blanks around a method do
not either, and the members are kept in increasing order, so that equal sets have equal texts.
-/

namespace EventRouting

/-- A set of uppercase method names in increasing order. -/
structure MethodSet where
  methods : List String
  sorted : methods.Pairwise (· < ·)

namespace MethodSet

/-- Puts a name into its place. -/
def insertSorted (m : String) : List String → List String
  | [] => [m]
  | n :: rest =>
      if m < n then m :: n :: rest
      else if n < m then n :: insertSorted m rest
      else n :: rest

theorem mem_insertSorted {m a : String} {l : List String} :
    a ∈ insertSorted m l ↔ a = m ∨ a ∈ l := by
  induction l with
  | nil => simp [insertSorted]
  | cons n rest ih =>
      unfold insertSorted
      split
      · simp
      · split
        · simp only [List.mem_cons, ih]
          grind
        · next h₁ h₂ =>
          have : m = n := String.le_antisymm (String.not_lt.mp h₂) (String.not_lt.mp h₁)
          simp [this]

/-- Putting a name into its place keeps the order. -/
theorem pairwise_insertSorted {m : String} {l : List String} (h : l.Pairwise (· < ·)) :
    (insertSorted m l).Pairwise (· < ·) := by
  induction l with
  | nil => simp [insertSorted]
  | cons n rest ih =>
      rw [List.pairwise_cons] at h
      unfold insertSorted
      split
      · next hm =>
        simp only [List.pairwise_cons, List.mem_cons, forall_eq_or_imp]
        exact ⟨⟨hm, fun a ha => String.lt_trans hm (h.1 a ha)⟩, h.1, h.2⟩
      · split
        · next hn =>
          simp only [List.pairwise_cons, mem_insertSorted, forall_eq_or_imp]
          exact ⟨⟨hn, h.1⟩, ih h.2⟩
        · exact List.pairwise_cons.mpr h

/-- The empty set. -/
def empty : MethodSet :=
  ⟨[], List.Pairwise.nil⟩

/-- Adds an uppercase name. -/
def insert (s : MethodSet) (m : String) : MethodSet :=
  ⟨insertSorted m s.methods, pairwise_insertSorted s.sorted⟩

/-- A method as the set keeps it: without blanks around it, in uppercase. -/
def normal (m : List Char) : String :=
  Text.upper (String.ofList (Text.trim m))

/-- The set of the methods in a list; blank ones do not count. -/
def ofList (methods : List (List Char)) : MethodSet :=
  ((methods.map normal).filter (· != "")).foldl insert empty

/-- The set of the methods in a text, which commas separate. -/
def parse (list : String) : MethodSet :=
  ofList (Text.pieces ',' list.toList)

/-- The methods that are wanted if nothing is said. -/
def defaultText : String := "PUT,POST,PATCH,DELETE"

/-- Whether the set has a method, in letters of either case. -/
def contains (s : MethodSet) (method : String) : Bool :=
  s.methods.contains (Text.upper method)

/-- Whether the set has no methods. -/
def isEmpty (s : MethodSet) : Bool :=
  s.methods.isEmpty

/-- The methods in order, with commas in between. -/
def text (s : MethodSet) : String :=
  String.ofList (List.intercalate [','] (s.methods.map String.toList))

@[ext] theorem ext {s t : MethodSet} (h : s.methods = t.methods) : s = t := by
  cases s
  cases t
  cases h
  rfl

end MethodSet

end EventRouting
