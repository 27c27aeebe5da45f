import EventRouting.Route.Name
import Mathlib.Data.List.TakeWhile

/-!
# Wildcard paths

A path in which every parameter has become a wildcard has no parameters left. So it is its own
wildcard path, and a name may be made of either.
-/

namespace EventRouting

namespace PathTemplate

/-- A name cannot be split off exactly if a brace closes at once or none closes at all. -/
theorem name?_eq_none_iff {s : List Char} :
    name? s = none ↔ s.head? = some '\x7d' ∨ '\x7d' ∉ s := by
  by_cases hm : '\x7d' ∈ s
  · have hd : s.dropWhile (· != '\x7d') ≠ [] := fun h => by
      simpa using List.dropWhile_eq_nil_iff.mp h _ hm
    obtain ⟨c, after, hc⟩ := List.exists_cons_of_ne_nil hd
    cases s with
    | nil => cases hm
    | cons x xs => by_cases hx : x = '\x7d' <;> simp [name?, hc, hx, hm]
  · have hd : s.dropWhile (· != '\x7d') = [] :=
      List.dropWhile_eq_nil_iff.mpr fun x hx => bne_iff_ne.mpr fun he => hm (he ▸ hx)
    simp [name?, hd, hm]

/-- A character that begins no parameter is literal. -/
theorem segments_cons {c : Char} {rest : List Char} (h : c ≠ '\x7b' ∨ name? rest = none) :
    segments (c :: rest) = .literal c :: segments rest := by
  rw [segments]
  by_cases hc : c = '\x7b'
  · have hn : name? rest = none := h.resolve_left fun hne => hne hc
    rw [if_pos hc]
    split
    · next name after hs =>
      rw [hn] at hs
      cases hs
    · rfl
  · rw [if_neg hc]

/-- A brace that has a name behind it begins a parameter. -/
theorem segments_parameter {rest name after : List Char} (h : name? rest = some (name, after)) :
    segments ('\x7b' :: rest) = .parameter name :: segments after := by
  rw [segments, if_pos rfl]
  split
  · next name' after' hs =>
    obtain ⟨rfl, rfl⟩ := Prod.mk.inj (Option.some.inj (hs.symm.trans h))
    rfl
  · next hs =>
    rw [h] at hs
    cases hs

/-- The characters of the wildcard path. -/
def generic (s : List Char) : List Char :=
  (segments s).map Segment.generic

@[simp] theorem generic_nil : generic [] = [] := by
  simp [generic, segments]

/-- A character that begins no parameter stays. -/
theorem generic_cons {c : Char} {rest : List Char} (h : c ≠ '\x7b' ∨ name? rest = none) :
    generic (c :: rest) = c :: generic rest := by
  rw [generic, segments_cons h, List.map_cons]
  rfl

/-- A parameter becomes a wildcard. -/
theorem generic_parameter {rest name after : List Char} (h : name? rest = some (name, after)) :
    generic ('\x7b' :: rest) = wildcard :: generic after := by
  rw [generic, segments_parameter h, List.map_cons]
  rfl

/-- All that a wildcard path holds beside wildcards was there before. -/
theorem mem_of_mem_generic {s : List Char} {x : Char} (h : x ∈ generic s) (hx : x ≠ wildcard) :
    x ∈ s := by
  fun_induction segments s with
  | case1 => simp at h
  | case2 rest name after hn ih =>
      rw [generic_parameter hn, List.mem_cons] at h
      rw [(name?_eq_some hn).1]
      simp [ih (h.resolve_left hx)]
  | case3 rest hn ih =>
      rw [generic_cons (.inr hn), List.mem_cons] at h
      exact h.elim (· ▸ List.mem_cons_self) fun hr => List.mem_cons_of_mem _ (ih hr)
  | case4 c rest hc ih =>
      rw [generic_cons (.inl hc), List.mem_cons] at h
      exact h.elim (· ▸ List.mem_cons_self) fun hr => List.mem_cons_of_mem _ (ih hr)

/-- Where no name can be split off, none can be split off the wildcard path. -/
theorem name?_generic {s : List Char} (h : name? s = none) : name? (generic s) = none := by
  rw [name?_eq_none_iff] at h ⊢
  rcases h with hhead | hnone
  · cases s with
    | nil => cases hhead
    | cons c rest =>
        obtain rfl := Option.some.inj hhead
        rw [generic_cons (.inl (by decide))]
        exact .inl rfl
  · exact .inr fun hm => hnone (mem_of_mem_generic hm (by decide))

/-- A wildcard path is literal throughout. -/
theorem segments_generic (s : List Char) : segments (generic s) = (generic s).map .literal := by
  fun_induction segments s with
  | case1 => simp [segments]
  | case2 rest name after hn ih =>
      rw [generic_parameter hn, segments_cons (.inl (by decide)), ih, List.map_cons]
  | case3 rest hn ih =>
      rw [generic_cons (.inr hn), segments_cons (.inr (name?_generic hn)), ih, List.map_cons]
  | case4 c rest hc ih =>
      rw [generic_cons (.inl hc), segments_cons (.inl hc), ih, List.map_cons]

/-- A wildcard path is its own wildcard path. -/
theorem generic_generic (s : List Char) : generic (generic s) = generic s := by
  rw [generic, segments_generic, List.map_map]
  exact List.map_id _

theorem toList_toWildcards (path : String) : (toWildcards path).toList = generic path.toList :=
  String.toList_ofList

theorem toWildcards_toWildcards (path : String) :
    toWildcards (toWildcards path) = toWildcards path := by
  apply String.toList_injective
  rw [toList_toWildcards, toList_toWildcards, generic_generic]

theorem parameters_toWildcards (path : String) : parameters (toWildcards path) = [] := by
  rw [parameters, toList_toWildcards, segments_generic, List.filterMap_map]
  exact List.filterMap_eq_nil_iff.mpr fun _ _ => rfl

end PathTemplate

namespace LogicalName

/-- A destination may be named by its path or by its wildcard path. -/
theorem destination_toWildcards (before path method : String) :
    destination before (PathTemplate.toWildcards path) method = destination before path method := by
  rw [destination, PathTemplate.toWildcards_toWildcards, destination]

end LogicalName

end EventRouting
