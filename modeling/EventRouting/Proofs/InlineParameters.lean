import EventRouting.Api.Reader
import EventRouting.Proofs.QueryInheritance

/-!
# References written out

A reference to a parameter of the query may be written out: the operation then defines a parameter
of that name itself. The query stays what it was, as long as the parameter has a name. A reusable
parameter without a name is passed on under the empty name, and a parameter that is written out
without one is left out.
-/

namespace EventRouting

/-- A reference stands for the first reusable parameter of the key that it points to. -/
structure StandsFor (reusable : List ReusableParameter) (target : String)
    (r : ReusableParameter) : Prop where
  points : PointsTo target r.key
  first : ∃ before after, reusable = before ++ r :: after ∧ ∀ x ∈ before, x.key ≠ r.key

/-- A parameter of the query, as an operation defines it itself. -/
def ParameterDefinition.ofQuery (name : String) : ParameterDefinition where
  name := name
  location := some .query

namespace Parameter

variable {reusable : List ReusableParameter} {target : String} {r : ReusableParameter}

theorem queryName?_of_standsFor (h : StandsFor reusable target r) :
    (reference target).queryName? reusable = some r.name := by
  obtain ⟨before, after, he, hb⟩ := h.first
  have hfind : reusable.find? (fun x => x.key == r.key) = some r := by
    rw [List.find?_eq_some_iff_append]
    refine ⟨beq_self_eq_true _, before, after, he, ?_⟩
    intro x hx
    simpa using hb x hx
  rw [queryName?, referenceName_eq_iff.mpr h.points, hfind, Option.map_some]

theorem queryName?_ofQuery {name : String} (h : name ≠ "") :
    (inline (.ofQuery name)).queryName? reusable = some name := by
  simp [queryName?, ParameterDefinition.ofQuery, ParameterDefinition.isQuery, h]

theorem queryName?_ofQuery_empty : (inline (.ofQuery "")).queryName? reusable = none := by
  simp [queryName?, ParameterDefinition.ofQuery]

/-- The parameter stays, or it is a reference to a parameter with a name and is written out. -/
inductive WrittenOut (reusable : List ReusableParameter) : Parameter → Parameter → Prop
  | same (p : Parameter) : WrittenOut reusable p p
  | reference {target : String} {r : ReusableParameter} (stands : StandsFor reusable target r)
      (named : r.name ≠ "") : WrittenOut reusable (.reference target) (.inline (.ofQuery r.name))

theorem WrittenOut.queryName?_eq {p p' : Parameter} (h : WrittenOut reusable p p') :
    p'.queryName? reusable = p.queryName? reusable := by
  cases h with
  | same => rfl
  | reference stands named => rw [queryName?_of_standsFor stands, queryName?_ofQuery named]

end Parameter

section WrittenOut

variable {reusable : List ReusableParameter} {ps ps' qs qs' : List Parameter}

theorem queryNames_writtenOut (h : List.Forall₂ (Parameter.WrittenOut reusable) ps ps') :
    queryNames reusable ps' = queryNames reusable ps := by
  induction h with
  | nil => rfl
  | cons hp _ ih =>
      rw [queryNames, queryNames] at ih ⊢
      rw [List.filterMap_cons, List.filterMap_cons, hp.queryName?_eq, ih]

theorem resolveQuery_writtenOut (h : List.Forall₂ (Parameter.WrittenOut reusable) ps ps') :
    resolveQuery ps' reusable = resolveQuery ps reusable := by
  rw [resolveQuery_eq, resolveQuery_eq, queryNames_writtenOut h]

end WrittenOut

section Reference

variable {reusable : List ReusableParameter} {target : String} {r : ReusableParameter}

theorem resolveQuery_reference (h : StandsFor reusable target r) (hn : r.name ≠ "")
    (before after : List Parameter) :
    resolveQuery (before ++ .inline (.ofQuery r.name) :: after) reusable =
      resolveQuery (before ++ .reference target :: after) reusable := by
  have hsame : ∀ ps : List Parameter, List.Forall₂ (Parameter.WrittenOut reusable) ps ps :=
    fun ps => List.forall₂_same.mpr fun p _ => .same p
  apply resolveQuery_writtenOut
  exact List.rel_append (hsame before) (.cons (.reference h hn) (hsame after))

/-- A reference to a parameter without a name passes on the empty name. -/
theorem get?_resolveQuery_nameless (h : StandsFor reusable target r) (hr : r.name = "")
    (before after : List Parameter) :
    (resolveQuery (before ++ .reference target :: after) reusable).get? "" =
      some (detailExpression "") := by
  have hname : (Parameter.reference target).queryName? reusable = some "" := by
    rw [Parameter.queryName?_of_standsFor h, hr]
  rw [get?_resolveQuery, if_pos]
  rw [queryNames, List.mem_filterMap]
  exact ⟨.reference target, by simp, hname⟩

/-- Written out without a name, a parameter is left out. -/
theorem resolveQuery_ofQuery_empty (before after : List Parameter) :
    resolveQuery (before ++ .inline (.ofQuery "") :: after) reusable =
      resolveQuery (before ++ after) reusable :=
  (resolveQuery_of_queryName?_eq_none Parameter.queryName?_ofQuery_empty before after).symm

/-- Without a name, a parameter alone is passed on by a reference only. -/
theorem resolveQuery_ne_of_nameless (h : StandsFor reusable target r) (hr : r.name = "") :
    resolveQuery [.inline (.ofQuery r.name)] reusable ≠
      resolveQuery [.reference target] reusable := by
  intro he
  have hreference : (resolveQuery [.reference target] reusable).get? "" =
      some (detailExpression "") :=
    get?_resolveQuery_nameless h hr [] []
  have hinline : resolveQuery [.inline (.ofQuery r.name)] reusable = resolveQuery [] reusable := by
    rw [hr]
    exact resolveQuery_ofQuery_empty [] []
  rw [← he, hinline] at hreference
  cases hreference

end Reference

/-- References may be written out, as far as they stand for parameters with names: neither the query
of a row of parameters nor that of an operation changes. A reference may be written out in every row
exactly if its parameter has a name. If it has none, the reference passes on the empty name,
whatever parameters it stands among, and is left out if it is written out. -/
theorem query_of_writtenOut (reusable : List ReusableParameter) :
    (∀ ps ps', List.Forall₂ (Parameter.WrittenOut reusable) ps ps' →
      resolveQuery ps' reusable = resolveQuery ps reusable) ∧
    (∀ item item' operation operation',
      List.Forall₂ (Parameter.WrittenOut reusable) item.parameters item'.parameters →
      List.Forall₂ (Parameter.WrittenOut reusable) operation.parameters operation'.parameters →
      operationQuery reusable item' operation' = operationQuery reusable item operation) ∧
    ∀ target r, StandsFor reusable target r →
      ((∀ before after, resolveQuery (before ++ .inline (.ofQuery r.name) :: after) reusable =
        resolveQuery (before ++ .reference target :: after) reusable) ↔ r.name ≠ "") ∧
      (r.name = "" → ∀ before after,
        (resolveQuery (before ++ .reference target :: after) reusable).get? "" =
          some "$.detail." ∧
        resolveQuery (before ++ .inline (.ofQuery r.name) :: after) reusable =
          resolveQuery (before ++ after) reusable) := by
  refine ⟨fun _ _ => resolveQuery_writtenOut, ?_, ?_⟩
  · intro item item' operation operation' hitem hoperation
    rw [operationQuery, operationQuery, resolveQuery_writtenOut hitem,
      resolveQuery_writtenOut hoperation]
  · intro target r h
    refine ⟨⟨?_, resolveQuery_reference h⟩, ?_⟩
    · intro hsame hr
      exact resolveQuery_ne_of_nameless h hr (hsame [] [])
    · intro hr before after
      refine ⟨get?_resolveQuery_nameless h hr before after, ?_⟩
      rw [hr, resolveQuery_ofQuery_empty]

/-- Two reusable parameters, one of them without a name. -/
def reusableKeys : List ReusableParameter :=
  [⟨"keyB64", "key_base64"⟩, ⟨"q", ""⟩]

/-- A reference of the path is written out. Another one passes on the empty name. -/
theorem query_of_writtenOut_reusableKeys :
    operationQuery reusableKeys { parameters := [.inline (.ofQuery "key_base64")] }
        { parameters := [.inline (.ofQuery "ttl"), .reference "missing"] } =
      operationQuery reusableKeys { parameters := [.reference "#/components/parameters/keyB64"] }
        { parameters := [.inline (.ofQuery "ttl"), .reference "missing"] } ∧
    (resolveQuery [.inline (.ofQuery "ttl"), .reference "q"] reusableKeys).get? "" =
      some "$.detail." := by
  have hkey : StandsFor reusableKeys "#/components/parameters/keyB64" ⟨"keyB64", "key_base64"⟩ := by
    constructor
    · exact ⟨by decide, .inr ⟨"#/components/parameters", by decide⟩⟩
    · exact ⟨[], [_], rfl, by simp⟩
  have hnameless : StandsFor reusableKeys "q" ⟨"q", ""⟩ := by
    constructor
    · exact ⟨by decide, .inl rfl⟩
    · exact ⟨[_], [], rfl, by simp⟩
  obtain ⟨-, hoperations, hempty⟩ := query_of_writtenOut reusableKeys
  constructor
  · apply hoperations
    · exact .cons (.reference hkey (by decide)) .nil
    · exact .cons (.same _) (.cons (.same _) .nil)
  · exact ((hempty "q" _ hnameless).2 rfl [_] []).1

/-- A description whose only reusable parameter has no name. -/
def namelessText : String :=
  "components: \x7bparameters: \x7bq: \x7bin: query\x7d\x7d\x7d"

/-- Of a parameter without a name the reference is passed on under the empty name, but what is
written out for it is not. -/
theorem not_same_query_namelessText :
    ∃ s, Specification.parse? namelessText = some s ∧
      StandsFor s.reusableQuery "#/components/parameters/q" ⟨"q", ""⟩ ∧
      resolveQuery [.inline (.ofQuery "")] s.reusableQuery ≠
        resolveQuery [.reference "#/components/parameters/q"] s.reusableQuery := by
  have hrun : (Specification.parse? namelessText).map (·.reusableQuery) = some [⟨"q", ""⟩] := by
    decide +kernel
  obtain ⟨s, hread, hs⟩ := Option.map_eq_some_iff.mp hrun
  have hstands : StandsFor [⟨"q", ""⟩] "#/components/parameters/q" ⟨"q", ""⟩ := by
    constructor
    · exact ⟨by decide, .inr ⟨"#/components/parameters", by decide⟩⟩
    · exact ⟨[], [], rfl, by simp⟩
  rw [← hs] at hstands
  exact ⟨s, hread, hstands, resolveQuery_ne_of_nameless hstands rfl⟩

end EventRouting
