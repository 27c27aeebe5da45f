import EventRouting.Proofs.Writes
import EventRouting.Route.Query

/-!
# The query of an operation

The query of an operation has one entry for each name that a parameter of its path or one of its own
stands for, with the expression that extracts the name. A reference stands for the first parameter
of the query under the key that it points to, and for nothing if there is none.
-/

namespace EventRouting

namespace Text

variable {sep : Char} {s t : List Char}

theorem pieces_of_not_mem (h : sep ∉ s) : pieces sep s = [s] := by
  induction s with
  | nil => rfl
  | cons c rest ih =>
      rw [List.mem_cons, not_or] at h
      simp [pieces, Ne.symm h.1, ih h.2]

theorem lastPiece_of_not_mem (h : sep ∉ s) : lastPiece sep s = s := by
  simp [lastPiece, pieces_of_not_mem h]

theorem lastPiece_append_cons (sep : Char) (s t : List Char) :
    lastPiece sep (s ++ sep :: t) = lastPiece sep t := by
  simp only [lastPiece, pieces_append_cons]
  exact List.getLast_append_of_right_ne_nil _ _ (pieces_ne_nil sep t)

/-- The last piece is what has no separator in it and is the whole text or stands behind one. -/
theorem lastPiece_eq_iff :
    lastPiece sep s = t ↔ sep ∉ t ∧ (s = t ∨ ∃ before, s = before ++ sep :: t) := by
  constructor
  · rintro rfl
    refine ⟨not_mem_of_mem_pieces (List.getLast_mem (pieces_ne_nil sep s)), ?_⟩
    by_cases h : sep ∈ s
    · -- The last separator of a text is the first one from behind.
      obtain ⟨after, before, he, hn⟩ := List.eq_append_cons_of_mem (List.mem_reverse.mpr h)
      have hs : s = before.reverse ++ sep :: after.reverse := by
        simpa using congrArg List.reverse he
      rw [hs, lastPiece_append_cons, lastPiece_of_not_mem (by simpa using hn)]
      exact .inr ⟨before.reverse, rfl⟩
    · exact .inl (lastPiece_of_not_mem h).symm
  · rintro ⟨hn, rfl | ⟨before, rfl⟩⟩
    · exact lastPiece_of_not_mem hn
    · rw [lastPiece_append_cons, lastPiece_of_not_mem hn]

end Text

/-- A reference points to a key that holds no slash: it is the key, or ends in it behind a slash. -/
def PointsTo (target key : String) : Prop :=
  '/' ∉ key.toList ∧ (target = key ∨ ∃ before, target = before ++ "/" ++ key)

theorem referenceName_eq_iff {target key : String} :
    referenceName target = key ↔ PointsTo target key := by
  have hlast : referenceName target = key ↔ Text.lastPiece '/' target.toList = key.toList := by
    rw [referenceName]
    constructor
    · rintro rfl
      rw [String.toList_ofList]
    · intro h
      rw [h, String.ofList_toList]
  have htail : (∃ before, target.toList = before ++ '/' :: key.toList) ↔
      ∃ before, target = before ++ "/" ++ key := by
    constructor
    · rintro ⟨before, h⟩
      refine ⟨String.ofList before, String.toList_injective ?_⟩
      simp [h]
    · rintro ⟨before, rfl⟩
      exact ⟨before.toList, by simp⟩
  rw [hlast, Text.lastPiece_eq_iff, PointsTo, htail, String.toList_inj]

theorem pointsTo_referenceName (target : String) : PointsTo target (referenceName target) :=
  referenceName_eq_iff.mp rfl

namespace Entries

/-- A key of a row that is made of its keys is looked up like a member. -/
theorem get?_map_self (f : String → String) (k : String) (names : List String) :
    get? k (names.map fun n => (n, f n)) = if k ∈ names then some (f k) else none := by
  induction names with
  | nil => rfl
  | cons n rest ih =>
      by_cases h : n = k
      · simp [get?, h]
      · simp [get?, h, ih, Ne.symm h]

end Entries

namespace OrderedMap

variable {β : Type}

theorem entries_merge (m other : OrderedMap β) :
    (m.merge other).entries = Entries.overlay m.entries other.entries :=
  entries_foldl_insert m other.entries

/-- In a merged map the upper one counts first. -/
theorem get?_merge (m other : OrderedMap β) (name : String) :
    (m.merge other).get? name = (other.get? name).or (m.get? name) := by
  rw [get?, entries_merge, Entries.get?_overlay fun _ _ => inferInstance,
    Entries.get?_reverse_of_nodup other.nodup]
  rfl

end OrderedMap

/-- The names that parameters stand for, in order and with repetitions. -/
def queryNames (reusable : List ReusableParameter) (parameters : List Parameter) : List String :=
  parameters.filterMap (Parameter.queryName? reusable)

theorem resolveQuery_eq (parameters : List Parameter) (reusable : List ReusableParameter) :
    resolveQuery parameters reusable =
      .ofList ((queryNames reusable parameters).map fun name => (name, detailExpression name)) := by
  rw [resolveQuery, OrderedMap.ofList, List.foldl_map]
  rfl

theorem get?_resolveQuery (parameters : List Parameter) (reusable : List ReusableParameter)
    (name : String) :
    (resolveQuery parameters reusable).get? name =
      if name ∈ queryNames reusable parameters then some (detailExpression name) else none := by
  rw [resolveQuery_eq, OrderedMap.get?_ofList, ← List.map_reverse, Entries.get?_map_self]
  simp only [List.mem_reverse]

/-- The query has the names that parameters of path and operation stand for, and no others. -/
theorem get?_operationQuery (reusable : List ReusableParameter) (item : PathItem)
    (operation : Operation) (name : String) :
    (operationQuery reusable item operation).get? name =
      if name ∈ queryNames reusable item.parameters ++ queryNames reusable operation.parameters then
        some (detailExpression name)
      else none := by
  rw [operationQuery, OrderedMap.get?_merge, get?_resolveQuery, get?_resolveQuery]
  by_cases ho : name ∈ queryNames reusable operation.parameters
  · simp [ho]
  · simp [ho]

/-- A parameter that stands for nothing may be left out. -/
theorem resolveQuery_of_queryName?_eq_none {reusable : List ReusableParameter} {p : Parameter}
    (h : p.queryName? reusable = none) (before after : List Parameter) :
    resolveQuery (before ++ after) reusable = resolveQuery (before ++ p :: after) reusable := by
  simp [resolveQuery, List.filterMap_append, h]

namespace Specification

/-- The definition is the first one of its key that is part of the query. -/
def FirstInQuery (s : Specification) (key : String) (definition : ParameterDefinition) : Prop :=
  definition.isQuery = true ∧ ∃ before after, s.parameters = before ++ (key, definition) :: after ∧
    ∀ e ∈ before, e.1 = key → e.2.isQuery = false

/-- No definition of the key is part of the query. -/
def NoneInQuery (s : Specification) (key : String) : Prop :=
  ∀ e ∈ s.parameters, e.1 = key → e.2.isQuery = false

variable {s : Specification} {target key : String}

/-- The first parameter of the query under a key. -/
theorem find?_parameters_eq_some_iff {e : String × ParameterDefinition} :
    (s.parameters.find? fun e => e.2.isQuery && e.1 == key) = some e ↔
      e.1 = key ∧ s.FirstInQuery key e.2 := by
  have hfirst : ∀ before : List (String × ParameterDefinition),
      (∀ x ∈ before, (!(x.2.isQuery && x.1 == key)) = true) ↔
        ∀ x ∈ before, x.1 = key → x.2.isQuery = false := by
    intro before
    apply forall₂_congr
    intro x _
    by_cases hk : x.1 = key <;> simp [hk]
  simp only [List.find?_eq_some_iff_append, hfirst, Bool.and_eq_true, beq_iff_eq, FirstInQuery]
  constructor
  · rintro ⟨⟨hq, rfl⟩, hs⟩
    exact ⟨rfl, hq, hs⟩
  · rintro ⟨rfl, hq, hs⟩
    exact ⟨⟨hq, rfl⟩, hs⟩

theorem find?_parameters_eq_none_iff :
    (s.parameters.find? fun e => e.2.isQuery && e.1 == key) = none ↔ s.NoneInQuery key := by
  rw [List.find?_eq_none]
  apply forall₂_congr
  intro e _
  by_cases hk : e.1 = key <;> simp [hk]

/-- Under a key there is a first parameter of the query, or there is none. -/
theorem firstInQuery_or_noneInQuery (s : Specification) (key : String) :
    (∃ definition, s.FirstInQuery key definition) ∨ s.NoneInQuery key := by
  cases h : s.parameters.find? fun e => e.2.isQuery && e.1 == key with
  | none => exact .inr (find?_parameters_eq_none_iff.mp h)
  | some e => exact .inl ⟨e.2, (find?_parameters_eq_some_iff.mp h).2⟩

/-- A reference stands for the name of what is found under its key. -/
theorem queryName?_reference (hp : PointsTo target key) :
    (Parameter.reference target).queryName? s.reusableQuery =
      (s.parameters.find? fun e => e.2.isQuery && e.1 == key).map (·.2.name) := by
  rw [Parameter.queryName?, referenceName_eq_iff.mpr hp, reusableQuery, List.find?_map,
    List.find?_filter, Option.map_map]
  simp only [Function.comp_def, Bool.decide_and, Bool.decide_coe]

theorem queryName?_reference_of_first {definition : ParameterDefinition}
    (hp : PointsTo target key) (hf : s.FirstInQuery key definition) :
    (Parameter.reference target).queryName? s.reusableQuery = some definition.name := by
  have hfind : (s.parameters.find? fun e => e.2.isQuery && e.1 == key) = some (key, definition) :=
    find?_parameters_eq_some_iff.mpr ⟨rfl, hf⟩
  rw [queryName?_reference hp, hfind, Option.map_some]

theorem queryName?_reference_of_none (hp : PointsTo target key) (hn : s.NoneInQuery key) :
    (Parameter.reference target).queryName? s.reusableQuery = none := by
  rw [queryName?_reference hp, find?_parameters_eq_none_iff.mpr hn, Option.map_none]

end Specification

end EventRouting
