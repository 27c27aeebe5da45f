import EventRouting.Proofs.PathLayout

/-!
# What parameters are called

The name of a destination tells that a path has parameters only by what stands around them. A path
and its wildcard path give the same name, and so do two paths whose parameters have other names: the
literal text of a layout decides where its parameters are, and what they are called is read back.
-/

namespace EventRouting

namespace PathTemplate.Layout

/-- The path that has the layout. -/
def path (l : Layout) : String :=
  String.ofList l.declared

variable {l l' : Layout} {path : String}

/-- If names are changed for other names, and nothing else, the new layout is that of its path. -/
theorem Describes.of_literals_eq (h : l.Describes path) (he : l'.literals = l.literals)
    (hn : ∀ name ∈ l'.names, IsName name) : l'.Describes l'.path where
  declared_eq := String.toList_ofList.symm
  leftmost := h.leftmost.of_literals_eq he hn

/-- Paths that differ in the names of parameters only have one wildcard path. -/
theorem Describes.toWildcards_eq {path' : String} (h : l.Describes path) (h' : l'.Describes path')
    (he : l'.literals = l.literals) : toWildcards path' = toWildcards path := by
  apply String.toList_injective
  rw [h.wildcards_eq, h'.wildcards_eq, wildcards, wildcards, he]

end PathTemplate.Layout

namespace LogicalName

open PathTemplate

theorem destination_of_toWildcards_eq {path path' : String}
    (h : toWildcards path' = toWildcards path) (before method : String) :
    destination before path' method = destination before path method := by
  rw [destination, h, destination]

/-- Names ignore what parameters are called. A wildcard path is its own wildcard path, it has no
parameters, and it may stand for the path in a name. If the names in braces, and nothing else, are
changed for other names, the wildcard path and the name of the destination stay, and the parameters
have the new names in their order. -/
theorem parameter_names_left_out (before path method : String) :
    toWildcards (toWildcards path) = toWildcards path ∧
      parameters (toWildcards path) = [] ∧
      destination before path method = destination before (toWildcards path) method ∧
      ∀ l l' : Layout, l.Describes path → l'.literals = l.literals →
        (∀ name ∈ l'.names, IsName name) →
        toWildcards l'.path = toWildcards path ∧
          destination before l'.path method = destination before path method ∧
          parameters l'.path = l'.names.map String.ofList := by
  refine ⟨toWildcards_toWildcards path, parameters_toWildcards path,
    (destination_toWildcards before path method).symm, ?_⟩
  intro l l' h he hn
  have h' : l'.Describes l'.path := h.of_literals_eq he hn
  have hwildcards := h.toWildcards_eq h' he
  exact ⟨hwildcards, destination_of_toWildcards_eq hwildcards before method, h'.parameters_eq⟩

/-- The layout of `bracesPath` with other names in braces. -/
def renamedLayout : Layout :=
  .parameter "/\x7b\x7d/".toList "/*".toList
    (.parameter "/x".toList "\x7by\x7b".toList (.text "\x7d\x7b".toList))

/-- A name may hold slashes, wildcards and opening braces. -/
theorem parameter_names_left_out_bracesPath :
    renamedLayout.path = "/\x7b\x7d/\x7b/*\x7d/x\x7b\x7by\x7b\x7d\x7d\x7b" ∧
      toWildcards renamedLayout.path = toWildcards bracesPath ∧
      destination "Api" renamedLayout.path "get" = destination "Api" bracesPath "get" ∧
      parameters renamedLayout.path = ["/*", "\x7by\x7b"] := by
  have h := Layout.describes_ofPath bracesPath
  have he : renamedLayout.literals = (Layout.ofPath bracesPath).literals := by
    decide +kernel
  have hn : ∀ name ∈ renamedLayout.names, IsName name := by
    unfold IsName
    decide +kernel
  obtain ⟨-, -, -, hrenamed⟩ := parameter_names_left_out "Api" bracesPath "get"
  obtain ⟨hwildcards, hname, hparameters⟩ := hrenamed _ renamedLayout h he hn
  exact ⟨by decide +kernel, hwildcards, hname, hparameters⟩

end LogicalName

end EventRouting
