import EventRouting.Api.Reader
import EventRouting.Proofs.Gathering

/-!
# The methods of descriptions that were read

A reading may fail and may change how many aliases can still be followed. A property that all its
results have goes along with its steps, and so every operation of an API description that was read
has one of the known methods.
-/

namespace EventRouting

namespace Yaml.Reading

variable {α β : Type} {p : α → Prop}

/-- All results of a reading have a property, however many aliases may be followed. -/
def Yields (p : α → Prop) (r : Reading α) : Prop :=
  ∀ budget a left, r.run budget = some (a, left) → p a

namespace Yields

theorem any (r : Reading α) : Yields (fun _ => True) r :=
  fun _ _ _ _ => trivial

theorem pure {a : α} (h : p a) : Yields p (pure a) := by
  intro budget b left hr
  obtain ⟨rfl, -⟩ := Prod.mk.inj (Option.some.inj hr)
  exact h

/-- What the first step yields may be used for the second one. -/
theorem bind {q : β → Prop} {r : Reading β} {f : β → Reading α} (hr : Yields q r)
    (hf : ∀ b, q b → Yields p (f b)) : Yields p (r >>= f) := by
  intro budget a left h
  rw [StateT.run_bind] at h
  obtain ⟨⟨b, between⟩, hb, ha⟩ := Option.bind_eq_some_iff.mp h
  exact hf b (hr budget b between hb) between a left ha

theorem field {fields : List (String × Node)} {name : String} {default : α}
    {read : Node → Reading α} (hd : p default) (hr : ∀ n, Yields p (read n)) :
    Yields p (field fields name default read) := by
  rw [Reading.field]
  split
  · exact hr _
  · exact pure hd

end Yields

theorem ofDocument?_yields {d : Document} {read : Nat → Node → Reading α} {a : α}
    (hr : ∀ depth n, Yields p (read depth n)) (h : ofDocument? d read = some a) : p a := by
  obtain ⟨⟨_, left⟩, hx, rfl⟩ := Option.map_eq_some_iff.mp h
  exact hr _ _ _ _ left hx

end Yaml.Reading

open Yaml Yaml.Reading

/-- All operations of the path have known methods. -/
def PathItem.KnownMethods (item : PathItem) : Prop :=
  ∀ x ∈ item.operations, isHttpMethod x.1 = true

/-- All operations of the paths have known methods. -/
def Specification.PathsKnown (paths : List (String × PathItem)) : Prop :=
  ∀ x ∈ paths, x.2.KnownMethods

/-- All operations of the description have known methods. -/
def Specification.KnownMethods (s : Specification) : Prop :=
  Specification.PathsKnown s.paths

namespace PathItem

theorem yields_readEntries (d : Document) (depth : Nat) (entries : List (Node × Node))
    {item : PathItem} (h : item.KnownMethods) :
    Yields KnownMethods (readEntries d depth entries item) := by
  -- An entry leaves the operations alone, or adds one whose key was found to be a method.
  induction entries generalizing item with
  | nil => exact .pure h
  | cons e rest ih =>
      obtain ⟨key, n⟩ := e
      rw [readEntries]
      refine .bind (.any _) fun name _ => ?_
      split
      · exact .bind (.any _) fun _ _ => ih h
      · split
        · next hm =>
          refine .bind (.any _) fun operation _ => ih fun x hx => ?_
          rcases List.mem_append.mp hx with hx | hx
          · exact h x hx
          · rwa [List.mem_singleton.mp hx]
        · exact ih h

theorem yields_read (d : Document) (depth : Nat) (n : Node) :
    Yields KnownMethods (read d depth n) :=
  .bind (.any _) fun _ _ => yields_readEntries d _ _ fun _ hx => nomatch hx

end PathItem

namespace Specification

theorem yields_readPaths (d : Document) (depth : Nat) (entries : List (Node × Node)) :
    Yields PathsKnown (readPaths d depth entries) := by
  induction entries with
  | nil => exact .pure fun _ hx => nomatch hx
  | cons e rest ih =>
      obtain ⟨key, n⟩ := e
      rw [readPaths]
      refine .bind (.any _) fun path _ => ?_
      split
      · exact ih
      · refine .bind (PathItem.yields_read d depth n) fun item hi => .bind ih fun paths hp => ?_
        exact .pure (List.forall_mem_cons.mpr ⟨hi, hp⟩)

theorem yields_read (d : Document) (depth : Nat) (n : Node) :
    Yields KnownMethods (read d depth n) := by
  refine .bind (.any _) fun r _ => .bind (.any _) fun info _ => .bind (.any _) fun servers _ =>
    .bind (q := PathsKnown) (.field (fun _ hx => nomatch hx) fun n => ?_) fun paths hp =>
      .bind (.any _) fun _ _ => .pure hp
  exact .bind (.any _) fun _ _ => yields_readPaths d _ _

/-- Nothing but the known methods makes operations of a description that is read. -/
theorem knownMethods_of_parse? {text : String} {s : Specification} (h : parse? text = some s) :
    s.KnownMethods := by
  obtain ⟨d, -, hs⟩ := Option.bind_eq_some_iff.mp h
  exact ofDocument?_yields (yields_read d) hs

theorem KnownMethods.generated {s : Specification} (h : s.KnownMethods) {methods : MethodSet}
    {a : AcceptedOperation} (ha : a ∈ s.generated methods) : isHttpMethod a.method = true := by
  obtain ⟨x, hx, hm⟩ := List.mem_flatMap.mp (List.mem_filter.mp ha).1
  obtain ⟨y, hy, rfl⟩ := List.mem_map.mp hm
  exact h x hx y (List.mem_filter.mp hy).1

end Specification

end EventRouting
