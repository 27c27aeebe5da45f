import EventRouting.Proofs.Overlay
import EventRouting.Proofs.QueryResolution

/-!
# Inherited query parameters

To resolve the parameters of a path and those of its operation apart, and to let the second override
the first, is to resolve both in one row. The query has each name that they stand for once, where it
first comes in that row.
-/

namespace EventRouting

namespace Entries

variable {κ β : Type} [BEq κ]

/-- To write a row of entries is to write what remains of it in an empty map. -/
theorem overlay_overlay_nil {top : List (κ × β)} (h : ∀ e ∈ top, Exact e.1)
    (base : List (κ × β)) : overlay base (overlay [] top) = overlay base top := by
  have hnil : Distinct ([] : List (κ × β)) := ⟨by simp, by simp⟩
  rw [← overlay_overlay hnil h, overlay_nil]

end Entries

namespace OrderedMap

variable {β : Type}

/-- Two rows of entries make one map, whether they are merged as rows or as maps. -/
theorem ofList_append (xs ys : List (String × β)) :
    ofList (xs ++ ys) = (ofList xs).merge (ofList ys) := by
  apply OrderedMap.ext
  have hrow : Entries.overlay [] (xs ++ ys) = Entries.overlay (Entries.overlay [] xs) ys :=
    List.foldl_append
  rw [entries_merge, entries_ofList, entries_ofList, entries_ofList, hrow,
    Entries.overlay_overlay_nil fun _ _ => inferInstance]

/-- A map made of a row of entries has the names in the order in which they first come. -/
theorem names_ofList (entries : List (String × β)) :
    (ofList entries).names = (Entries.keys entries).eraseDups := by
  rw [names, entries_ofList, Entries.keys_overlay_nil]

end OrderedMap

theorem queryNames_append (reusable : List ReusableParameter) (ps qs : List Parameter) :
    queryNames reusable (ps ++ qs) = queryNames reusable ps ++ queryNames reusable qs :=
  List.filterMap_append

/-- Parameters may be resolved in one row or in two. -/
theorem resolveQuery_append (ps qs : List Parameter) (reusable : List ReusableParameter) :
    resolveQuery (ps ++ qs) reusable =
      (resolveQuery ps reusable).merge (resolveQuery qs reusable) := by
  rw [resolveQuery_eq, resolveQuery_eq, resolveQuery_eq, queryNames_append, List.map_append,
    OrderedMap.ofList_append]

theorem names_resolveQuery (parameters : List Parameter) (reusable : List ReusableParameter) :
    (resolveQuery parameters reusable).names = (queryNames reusable parameters).eraseDups := by
  rw [resolveQuery_eq, OrderedMap.names_ofList, Entries.keys, List.map_map]
  exact congrArg List.eraseDups (List.map_id _)

/-- Every entry extracts its own name. -/
theorem entries_resolveQuery (parameters : List Parameter) (reusable : List ReusableParameter) :
    (resolveQuery parameters reusable).entries =
      (queryNames reusable parameters).eraseDups.map fun name => (name, detailExpression name) := by
  have hentry : ∀ e ∈ (resolveQuery parameters reusable).entries,
      e = (e.1, detailExpression e.1) := by
    rintro ⟨name, expression⟩ he
    have hget := OrderedMap.get?_eq_some_iff_mem.mpr he
    rw [get?_resolveQuery] at hget
    obtain ⟨-, hexpression⟩ := Option.ite_none_right_eq_some.mp hget
    rw [Option.some.inj hexpression]
  calc
    (resolveQuery parameters reusable).entries =
        (resolveQuery parameters reusable).entries.map fun e => (e.1, detailExpression e.1) :=
      (List.map_id _).symm.trans (List.map_congr_left hentry)
    _ = (resolveQuery parameters reusable).names.map fun name => (name, detailExpression name) := by
      rw [OrderedMap.names, Entries.keys, List.map_map]
      rfl
    _ = _ := by rw [names_resolveQuery]

theorem operationQuery_eq (reusable : List ReusableParameter) (item : PathItem)
    (operation : Operation) :
    operationQuery reusable item operation =
      resolveQuery (item.parameters ++ operation.parameters) reusable := by
  rw [operationQuery, resolveQuery_append]

namespace Specification

/-- Operations inherit the parameters of their path by concatenation. The query of an operation is
what the parameters of the path, followed by its own, resolve to. Each name that they stand for is
there once, in the order in which the names first come, and is extracted from the field of its
name. -/
theorem query_of_concatenation (s : Specification) (item : PathItem) (operation : Operation) :
    operationQuery s.reusableQuery item operation =
        resolveQuery (item.parameters ++ operation.parameters) s.reusableQuery ∧
      (operationQuery s.reusableQuery item operation).names.Nodup ∧
      (operationQuery s.reusableQuery item operation).entries =
        (queryNames s.reusableQuery (item.parameters ++ operation.parameters)).eraseDups.map
          fun name => (name, "$.detail." ++ name) := by
  have hquery := operationQuery_eq s.reusableQuery item operation
  refine ⟨hquery, OrderedMap.nodup _, ?_⟩
  rw [hquery, entries_resolveQuery]
  rfl

end Specification

end EventRouting
