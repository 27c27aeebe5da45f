import EventRouting.Proofs.LastWriter
import EventRouting.Proofs.QueryResolution

/-!
# What becomes of references

Every reference among the parameters of a path or of a generated operation either points to no key
and is reported, or stands for a parameter of the query and is passed on by the operation's rule, or
points to keys outside the query only. Those that are reported or outside the query make no
difference to the query, so no parameter is lost without notice.
-/

namespace EventRouting

/-- Events can reach an operation: its method is wanted, and its identifier is not empty. -/
def Operation.Reachable (operation : Operation) (o : Options) (method : String) : Prop :=
  Text.upper method ∈ o.methods.methods ∧ ∃ trigger, operation.id = some trigger ∧ trigger ≠ ""

theorem Operation.reachable_iff {operation : Operation} {o : Options} {method : String} :
    operation.Reachable o method ↔
      (o.methods.contains method && operation.trigger?.isSome) = true := by
  rw [Bool.and_eq_true, MethodSet.contains, List.contains_iff_mem, Operation.trigger?,
    Option.isSome_iff_exists]
  simp only [Option.filter_eq_some_iff, bne_iff_ne]
  rfl

section Unresolved

variable {declared : List String} {target : String} {rest : List Parameter}

theorem unresolvedReferences_inline (definition : ParameterDefinition) :
    unresolvedReferences declared (.inline definition :: rest) =
      unresolvedReferences declared rest := rfl

theorem unresolvedReferences_declared (h : referenceName target ∈ declared) :
    unresolvedReferences declared (.reference target :: rest) =
      unresolvedReferences declared rest := by
  simp [unresolvedReferences, h]

theorem unresolvedReferences_undeclared (h : referenceName target ∉ declared) :
    unresolvedReferences declared (.reference target :: rest) =
      target :: unresolvedReferences declared rest := by
  simp [unresolvedReferences, h]

theorem mem_unresolvedReferences {parameters : List Parameter} :
    target ∈ unresolvedReferences declared parameters ↔
      .reference target ∈ parameters ∧ referenceName target ∉ declared := by
  rw [unresolvedReferences, List.mem_filterMap]
  constructor
  · rintro ⟨p, hp, ht⟩
    cases p with
    | inline definition => cases ht
    | reference target' =>
        simp only [List.contains_iff_mem, Option.ite_none_left_eq_some, Option.some.injEq] at ht
        obtain ⟨hd, rfl⟩ := ht
        exact ⟨hp, hd⟩
  · rintro ⟨hp, hd⟩
    exact ⟨_, hp, by simp [hd]⟩

end Unresolved

section Reports

variable (s : Specification) (o : Options)

/-- What is reported of parameters, one after the other: each reference that points to no key. -/
inductive ParametersReported (path : String) (method : Option String) :
    List Parameter → List UnresolvedReference → Prop
  | nil : ParametersReported path method [] []
  | dangling {target key : String} {rest us} (points : PointsTo target key)
      (undeclared : key ∉ Entries.keys s.parameters)
      (tail : ParametersReported path method rest us) :
      ParametersReported path method (.reference target :: rest) (⟨path, method, target⟩ :: us)
  | declared {target key : String} {rest us} (points : PointsTo target key)
      (declared : key ∈ Entries.keys s.parameters)
      (tail : ParametersReported path method rest us) :
      ParametersReported path method (.reference target :: rest) us
  | inline {definition rest us} (tail : ParametersReported path method rest us) :
      ParametersReported path method (.inline definition :: rest) us

/-- What is reported of operations, one after the other: only those that events can reach count. -/
inductive OperationsReported (path : String) :
    List (String × Operation) → List UnresolvedReference → Prop
  | nil : OperationsReported path [] []
  | reachable {method operation rest us more} (reachable : operation.Reachable o method)
      (own : ParametersReported s path (some method) operation.parameters us)
      (tail : OperationsReported path rest more) :
      OperationsReported path ((method, operation) :: rest) (us ++ more)
  | unreachable {method operation rest us} (unreachable : ¬ operation.Reachable o method)
      (tail : OperationsReported path rest us) :
      OperationsReported path ((method, operation) :: rest) us

/-- What is reported of paths, one after the other: first of the parameters of the path itself,
whatever its operations are, and then of its operations. -/
inductive PathsReported : List (String × PathItem) → List UnresolvedReference → Prop
  | nil : PathsReported [] []
  | path {path item rest us operations more}
      (own : ParametersReported s path none item.parameters us)
      (inner : OperationsReported s o path item.operations operations)
      (tail : PathsReported rest more) :
      PathsReported ((path, item) :: rest) (us ++ operations ++ more)

variable {s o} {path : String} {us : List UnresolvedReference}

theorem parametersReported_iff {method : Option String} {parameters : List Parameter} :
    ParametersReported s path method parameters us ↔
      us = (unresolvedReferences s.declaredParameters parameters).map (⟨path, method, ·⟩) := by
  induction parameters generalizing us with
  | nil =>
      constructor
      · rintro ⟨⟩
        rfl
      · rintro rfl
        exact .nil
  | cons p rest ih =>
      cases p with
      | inline definition =>
          rw [unresolvedReferences_inline]
          constructor
          · rintro (_ | _ | _ | tail)
            exact ih.mp tail
          · intro h
            exact .inline (ih.mpr h)
      | reference target =>
          have hp := pointsTo_referenceName target
          by_cases hd : referenceName target ∈ s.declaredParameters
          · rw [unresolvedReferences_declared hd]
            constructor
            · rintro (_ | ⟨points, undeclared, -⟩ | ⟨-, -, tail⟩)
              · rw [← referenceName_eq_iff.mpr points] at undeclared
                exact absurd hd undeclared
              · exact ih.mp tail
            · intro h
              exact .declared hp hd (ih.mpr h)
          · rw [unresolvedReferences_undeclared hd, List.map_cons]
            constructor
            · rintro (_ | ⟨-, -, tail⟩ | ⟨points, declared, -⟩)
              · rw [ih.mp tail]
              · rw [← referenceName_eq_iff.mpr points] at declared
                exact absurd declared hd
            · rintro rfl
              exact .dangling hp hd (ih.mpr rfl)

/-- The reports of operations, each of which counts if events can reach it. -/
def operationReports (s : Specification) (o : Options) (path : String)
    (operations : List (String × Operation)) : List UnresolvedReference :=
  operations.flatMap fun x =>
    if o.methods.contains x.1 && x.2.trigger?.isSome then
      (unresolvedReferences s.declaredParameters x.2.parameters).map (⟨path, some x.1, ·⟩)
    else []

theorem operationsReported_iff {operations : List (String × Operation)} :
    OperationsReported s o path operations us ↔ us = operationReports s o path operations := by
  induction operations generalizing us with
  | nil =>
      constructor
      · rintro ⟨⟩
        rfl
      · rintro rfl
        exact .nil
  | cons x rest ih =>
      obtain ⟨method, operation⟩ := x
      rw [operationReports, List.flatMap_cons, ← operationReports]
      by_cases hr : operation.Reachable o method
      · rw [if_pos (Operation.reachable_iff.mp hr)]
        constructor
        · rintro (_ | ⟨-, own, tail⟩ | ⟨unreachable, -⟩)
          · rw [parametersReported_iff.mp own, ih.mp tail]
          · exact absurd hr unreachable
        · rintro rfl
          exact .reachable hr (parametersReported_iff.mpr rfl) (ih.mpr rfl)
      · rw [if_neg fun h => hr (Operation.reachable_iff.mpr h), List.nil_append]
        constructor
        · rintro (_ | ⟨reachable, -⟩ | ⟨-, tail⟩)
          · exact absurd reachable hr
          · exact ih.mp tail
        · intro h
          exact .unreachable hr (ih.mpr h)

theorem pathsReported_iff {paths : List (String × PathItem)} :
    PathsReported s o paths us ↔
      us = paths.flatMap fun p =>
        (unresolvedReferences s.declaredParameters p.2.parameters).map (⟨p.1, none, ·⟩) ++
          operationReports s o p.1 p.2.operations := by
  induction paths generalizing us with
  | nil =>
      constructor
      · rintro ⟨⟩
        rfl
      · rintro rfl
        exact .nil
  | cons p rest ih =>
      obtain ⟨path, item⟩ := p
      constructor
      · rintro (_ | ⟨own, inner, tail⟩)
        rw [List.flatMap_cons, parametersReported_iff.mp own, operationsReported_iff.mp inner,
          ih.mp tail]
      · rintro rfl
        exact .path (parametersReported_iff.mpr rfl) (operationsReported_iff.mpr rfl) (ih.mpr rfl)

end Reports

namespace Specification

variable {s : Specification} {o : Options}

/-- The report goes through paths and operations and tells of each reference that points to no
key. -/
theorem unresolved_eq (s : Specification) (o : Options) :
    s.unresolved o = s.paths.flatMap fun p =>
      (unresolvedReferences s.declaredParameters p.2.parameters).map (⟨p.1, none, ·⟩) ++
        operationReports s o p.1 p.2.operations := by
  rw [unresolved]
  apply List.flatMap_congr
  intro p _
  rw [PathItem.accepted, flatMap_filter_map]
  rfl

end Specification

/-- Whose parameters count for an operation: those of its path, and its own. -/
inductive Level
  | path
  | operation
deriving DecidableEq, Repr

namespace AcceptedOperation

/-- The parameters of a level. -/
def parametersAt (a : AcceptedOperation) : Level → List Parameter
  | .path => a.item.parameters
  | .operation => a.operation.parameters

/-- The method that a report on a level names. -/
def methodAt (a : AcceptedOperation) : Level → Option String
  | .path => none
  | .operation => some a.method

/-- The operation with other parameters at a level. -/
def withParameters (a : AcceptedOperation) (parameters : List Parameter) :
    Level → AcceptedOperation
  | .path => { a with item := { a.item with parameters := parameters } }
  | .operation => { a with operation := { a.operation with parameters := parameters } }

/-- The query parameters of the operation. -/
def query (a : AcceptedOperation) (reusable : List ReusableParameter) : QueryParameters :=
  operationQuery reusable a.item a.operation

/-- A name that a parameter of some level stands for is passed on. -/
theorem get?_query_of_mem {a : AcceptedOperation} {reusable : List ReusableParameter}
    {level : Level} {p : Parameter} (hp : p ∈ a.parametersAt level) {name : String}
    (hn : p.queryName? reusable = some name) :
    (a.query reusable).get? name = some (detailExpression name) := by
  have hname : name ∈ queryNames reusable (a.parametersAt level) :=
    List.mem_filterMap.mpr ⟨p, hp, hn⟩
  rw [query, get?_operationQuery, if_pos]
  apply List.mem_append.mpr
  cases level with
  | path => exact .inl hname
  | operation => exact .inr hname

/-- A parameter that stands for nothing may be left out, at either level. -/
theorem query_withParameters {a : AcceptedOperation} {reusable : List ReusableParameter}
    {level : Level} {before after : List Parameter} {p : Parameter}
    (hs : a.parametersAt level = before ++ p :: after) (hn : p.queryName? reusable = none) :
    (a.withParameters (before ++ after) level).query reusable = a.query reusable := by
  have hresolve := resolveQuery_of_queryName?_eq_none hn before after
  rw [← hs] at hresolve
  cases level with
  | path => exact congrArg (·.merge (resolveQuery a.operation.parameters reusable)) hresolve
  | operation => exact congrArg (resolveQuery a.item.parameters reusable).merge hresolve

/-- An occurrence of a reference among the parameters that count for an operation. -/
structure Occurrence (a : AcceptedOperation) where
  level : Level
  before : List Parameter
  target : String
  after : List Parameter
  occurs : a.parametersAt level = before ++ .reference target :: after

namespace Occurrence

variable {a : AcceptedOperation}

/-- The operation without this occurrence of the reference. -/
def removed (r : a.Occurrence) : AcceptedOperation :=
  a.withParameters (r.before ++ r.after) r.level

/-- How the reference is reported if it points nowhere. -/
def report (r : a.Occurrence) : UnresolvedReference :=
  ⟨a.path, a.methodAt r.level, r.target⟩

end Occurrence

end AcceptedOperation

/-- What becomes of a reference. -/
inductive ReferenceFate
  | reported
  | forwarded (name : String)
  | ignored
deriving DecidableEq, Repr

/-- The fates of a reference, by what it points to. A reference that is not forwarded makes no
difference to the query. -/
inductive AcceptedOperation.Occurrence.Meets (s : Specification) (o : Options) (c : Compilation)
    {a : AcceptedOperation} (r : a.Occurrence) : ReferenceFate → Prop
  | reported (listed : r.report ∈ c.unresolved)
      (removable : r.removed.query s.reusableQuery = a.query s.reusableQuery) :
      Meets s o c r .reported
  | forwarded {key : String} {definition : ParameterDefinition} (points : PointsTo r.target key)
      (first : s.FirstInQuery key definition)
      (passed : ((a.endpoint s.reusableQuery o c.baseUrl).rule o.policy).target.query.get?
        definition.name = some (detailExpression definition.name)) :
      Meets s o c r (.forwarded definition.name)
  | ignored {key : String} (points : PointsTo r.target key)
      (declared : key ∈ Entries.keys s.parameters) (outside : s.NoneInQuery key)
      (removable : r.removed.query s.reusableQuery = a.query s.reusableQuery) :
      Meets s o c r .ignored

namespace Specification

variable {s : Specification} {o : Options}

/-- Events can reach an operation that the description declares. -/
structure Reaches (s : Specification) (o : Options) (a : AcceptedOperation) : Prop where
  path : (a.path, a.item) ∈ s.paths
  operation : (a.method, a.operation) ∈ a.item.operations
  reachable : a.operation.Reachable o a.method

/-- The operations that events can reach are those for which a rule is made. -/
theorem reaches_iff {a : AcceptedOperation} : s.Reaches o a ↔ a ∈ s.generated o.methods := by
  obtain ⟨path, item, method, operation⟩ := a
  rw [generated, List.mem_filter, accepted, List.mem_flatMap]
  constructor
  · rintro ⟨hpath, hoperation, hreachable⟩
    obtain ⟨hwanted, htrigger⟩ := Bool.and_eq_true_iff.mp (Operation.reachable_iff.mp hreachable)
    refine ⟨⟨_, hpath, List.mem_map.mpr ⟨_, List.mem_filter.mpr ⟨hoperation, hwanted⟩, rfl⟩⟩, ?_⟩
    exact htrigger
  · rintro ⟨⟨p, hpath, hm⟩, htrigger⟩
    obtain ⟨x, hx, ⟨⟩⟩ := List.mem_map.mp hm
    obtain ⟨hoperation, hwanted⟩ := List.mem_filter.mp hx
    refine ⟨hpath, hoperation, ?_⟩
    exact Operation.reachable_iff.mpr (Bool.and_eq_true_iff.mpr ⟨hwanted, htrigger⟩)

/-- A reference of an operation that events can reach is reported if it points nowhere. -/
theorem Reaches.report_mem_unresolved {a : AcceptedOperation} (h : s.Reaches o a)
    (r : a.Occurrence) (hd : referenceName r.target ∉ s.declaredParameters) :
    r.report ∈ s.unresolved o := by
  have htarget : r.target ∈ unresolvedReferences s.declaredParameters (a.parametersAt r.level) := by
    rw [mem_unresolvedReferences, r.occurs]
    exact ⟨by simp, hd⟩
  rw [unresolved_eq, List.mem_flatMap]
  refine ⟨_, h.path, List.mem_append.mpr ?_⟩
  obtain ⟨level, before, target, after, occurs⟩ := r
  cases level with
  | path => exact .inl (List.mem_map.mpr ⟨target, htarget, rfl⟩)
  | operation =>
      refine .inr (List.mem_flatMap.mpr ⟨_, h.operation, ?_⟩)
      rw [if_pos (Operation.reachable_iff.mp h.reachable)]
      exact List.mem_map.mpr ⟨target, htarget, rfl⟩

/-- What is reported points nowhere. -/
theorem undeclared_of_mem_unresolved {u : UnresolvedReference} (h : u ∈ s.unresolved o) :
    referenceName u.reference ∉ s.declaredParameters := by
  have hmap : ∀ {path method parameters}, u ∈ (unresolvedReferences s.declaredParameters
      parameters).map (⟨path, method, ·⟩) → referenceName u.reference ∉ s.declaredParameters := by
    intro path method parameters hm
    obtain ⟨target, ht, rfl⟩ := List.mem_map.mp hm
    exact (mem_unresolvedReferences.mp ht).2
  rw [unresolved_eq, List.mem_flatMap] at h
  obtain ⟨p, -, hm⟩ := h
  rcases List.mem_append.mp hm with hown | hinner
  · exact hmap hown
  · obtain ⟨x, -, hx⟩ := List.mem_flatMap.mp hinner
    split at hx
    · exact hmap hx
    · cases hx

variable {c : Compilation} {a : AcceptedOperation}

/-- A reference to no key is reported, and to nothing else. -/
theorem Reaches.report_mem_iff (h : s.Reaches o a) (r : a.Occurrence) {key : String}
    (hp : PointsTo r.target key) :
    r.report ∈ s.unresolved o ↔ key ∉ Entries.keys s.parameters := by
  rw [← referenceName_eq_iff.mpr hp]
  exact ⟨undeclared_of_mem_unresolved, h.report_mem_unresolved r⟩

theorem noneInQuery_of_undeclared {key : String} (h : key ∉ Entries.keys s.parameters) :
    s.NoneInQuery key := by
  intro e he hk
  exact absurd (hk ▸ List.mem_map_of_mem he) h

theorem FirstInQuery.mem_keys {key : String} {definition : ParameterDefinition}
    (h : s.FirstInQuery key definition) : key ∈ Entries.keys s.parameters := by
  obtain ⟨-, before, after, hs, -⟩ := h
  simp [hs, Entries.keys]

theorem FirstInQuery.not_noneInQuery {key : String} {definition : ParameterDefinition}
    (h : s.FirstInQuery key definition) : ¬ s.NoneInQuery key := by
  obtain ⟨hq, before, after, hs, -⟩ := h
  intro hn
  have hout := hn (key, definition) (by simp [hs]) rfl
  exact Bool.noConfusion (hq.symm.trans hout)

/-- Of a key there is one first parameter of the query at most. -/
theorem FirstInQuery.name_eq {target key key' : String} {d d' : ParameterDefinition}
    (hp : PointsTo target key) (hp' : PointsTo target key') (h : s.FirstInQuery key d)
    (h' : s.FirstInQuery key' d') : d.name = d'.name :=
  Option.some.inj ((queryName?_reference_of_first hp h).symm.trans
    (queryName?_reference_of_first hp' h'))

/-- No reference of an operation that events can reach is without a fate. -/
theorem Reaches.exists_fate (h : s.Reaches o a) (hc : c.unresolved = s.unresolved o)
    (r : a.Occurrence) : ∃ fate, r.Meets s o c fate := by
  have hp := pointsTo_referenceName r.target
  have hmem : .reference r.target ∈ a.parametersAt r.level := by simp [r.occurs]
  by_cases hd : referenceName r.target ∈ Entries.keys s.parameters
  · rcases s.firstInQuery_or_noneInQuery (referenceName r.target) with ⟨definition, hf⟩ | hn
    · refine ⟨_, .forwarded hp hf ?_⟩
      exact AcceptedOperation.get?_query_of_mem hmem (queryName?_reference_of_first hp hf)
    · refine ⟨_, .ignored hp hd hn ?_⟩
      exact AcceptedOperation.query_withParameters r.occurs (queryName?_reference_of_none hp hn)
  · have hn := noneInQuery_of_undeclared hd
    refine ⟨_, .reported ?_ ?_⟩
    · rw [hc]
      exact h.report_mem_unresolved r hd
    · exact AcceptedOperation.query_withParameters r.occurs (queryName?_reference_of_none hp hn)

/-- No reference of an operation that events can reach has two fates. -/
theorem Reaches.fate_unique (h : s.Reaches o a) (hc : c.unresolved = s.unresolved o)
    {r : a.Occurrence} {fate fate' : ReferenceFate} (hm : r.Meets s o c fate)
    (hm' : r.Meets s o c fate') : fate = fate' := by
  -- The one key of the reference is undeclared, has a parameter of the query, or has none.
  have hundeclared : ∀ {key}, r.report ∈ c.unresolved → PointsTo r.target key →
      key ∉ Entries.keys s.parameters := by
    intro key listed points
    rw [hc] at listed
    exact (h.report_mem_iff r points).mp listed
  have hsame : ∀ {key key'}, PointsTo r.target key → PointsTo r.target key' → key = key' := by
    intro key key' points points'
    exact (referenceName_eq_iff.mpr points).symm.trans (referenceName_eq_iff.mpr points')
  cases hm with
  | reported listed =>
      cases hm' with
      | reported => rfl
      | forwarded points first => exact absurd first.mem_keys (hundeclared listed points)
      | ignored points declared => exact absurd declared (hundeclared listed points)
  | forwarded points first =>
      cases hm' with
      | reported listed => exact absurd first.mem_keys (hundeclared listed points)
      | forwarded points' first' => rw [first.name_eq points points' first']
      | ignored points' _ outside =>
          obtain rfl := hsame points points'
          exact absurd outside first.not_noneInQuery
  | ignored points declared outside =>
      cases hm' with
      | reported listed => exact absurd declared (hundeclared listed points)
      | forwarded points' first' =>
          obtain rfl := hsame points points'
          exact absurd outside first'.not_noneInQuery
      | ignored => rfl

/-- No reference disappears without notice. The report lists those that point to no key, path by
path, and every reference that counts for an operation that events can reach meets one fate. -/
theorem references_accounted (h : s.compile o = .ok c) :
    (∀ us, PathsReported s o s.paths us ↔ us = c.unresolved) ∧
      (∀ a, s.Reaches o a ↔ a ∈ s.generated o.methods) ∧
      ∀ a, s.Reaches o a → ∀ r : a.Occurrence, ∃! fate, r.Meets s o c fate := by
  have hc := unresolved_of_compile h
  refine ⟨?_, fun a => reaches_iff, ?_⟩
  · intro us
    rw [pathsReported_iff, hc, unresolved_eq]
  · intro a ha r
    obtain ⟨fate, hm⟩ := ha.exists_fate hc r
    exact ⟨fate, hm, fun _ hm' => ha.fate_unique hc hm' hm⟩

/-- A path whose parameters refer to a key twice declared, and to the empty key behind a slash. -/
def pageItem : PathItem where
  parameters := [.reference "#/components/parameters/Page", .reference "#/components/parameters/"]
  operations :=
    [("post", {
        id := some "add"
        parameters := [.reference "#/components/parameters/Trace", .reference "Limit"] }),
      ("put", { parameters := [.reference "Limit"] }),
      ("get", { id := some "list", parameters := [.reference "Limit"] })]

/-- An API of which one operation is reached, and one path has none. -/
def pageApi : Specification where
  servers := [{ url := some "https://api.example.com" }]
  paths := [("/items", pageItem), ("/empty", { parameters := [.reference "Limit"] })]
  parameters :=
    [("Page", { name := "X-Page", location := some .header }),
      ("Page", { name := "page", location := some .query }),
      ("Page", { name := "number", location := some .query }),
      ("Trace", { name := "X-Trace", location := some .header })]

/-- The operation of `pageApi` that events reach. -/
def pageAdd : AcceptedOperation where
  path := "/items"
  item := pageItem
  method := "post"
  operation := {
    id := some "add"
    parameters := [.reference "#/components/parameters/Trace", .reference "Limit"] }

/-- A reference of the path, to the key that is declared twice. -/
def pageReference : pageAdd.Occurrence :=
  ⟨.path, [], "#/components/parameters/Page", [.reference "#/components/parameters/"], rfl⟩

/-- A reference of the operation, to a header. -/
def traceReference : pageAdd.Occurrence :=
  ⟨.operation, [], "#/components/parameters/Trace", [.reference "Limit"], rfl⟩

/-- A reference of the operation, to no key. -/
def limitReference : pageAdd.Occurrence :=
  ⟨.operation, [.reference "#/components/parameters/Trace"], "Limit", [], rfl⟩

/-- Of four references, two are reported, one is passed on and one is ignored. What the operations
that are not reached refer to is not reported, but what the path without operations refers to is. -/
theorem references_accounted_pageApi :
    pageApi.Reaches {} pageAdd ∧ ∃ c, pageApi.compile {} = .ok c ∧
      c.unresolved =
        [⟨"/items", none, "#/components/parameters/"⟩, ⟨"/items", some "post", "Limit"⟩,
          ⟨"/empty", none, "Limit"⟩] ∧
      PathsReported pageApi {} pageApi.paths c.unresolved ∧
      (∀ fate, pageReference.Meets pageApi {} c fate ↔ fate = .forwarded "page") ∧
      (∀ fate, traceReference.Meets pageApi {} c fate ↔ fate = .ignored) ∧
      ∀ fate, limitReference.Meets pageApi {} c fate ↔ fate = .reported := by
  have ha : pageApi.Reaches {} pageAdd := by
    constructor
    · exact .head _
    · exact .head _
    · exact ⟨by decide +kernel, "add", rfl, by decide⟩
  obtain ⟨c, h⟩ := exists_ok_of_isOk (by decide +kernel : (pageApi.compile {}).isOk = true)
  have hc : c.unresolved =
      [⟨"/items", none, "#/components/parameters/"⟩, ⟨"/items", some "post", "Limit"⟩,
        ⟨"/empty", none, "Limit"⟩] := by
    rw [unresolved_of_compile h]
    decide +kernel
  obtain ⟨hreport, -, hfate⟩ := references_accounted h
  have hmeets : ∀ {r : pageAdd.Occurrence} {fate}, r.Meets pageApi {} c fate →
      ∀ fate', r.Meets pageApi {} c fate' ↔ fate' = fate := by
    intro r fate hm fate'
    constructor
    · intro hm'
      exact (hfate pageAdd ha r).unique hm' hm
    · rintro rfl
      exact hm
  -- The first declaration of the key is passed over, since it is of a header.
  have hfirst : pageApi.FirstInQuery "Page" { name := "page", location := some .query } :=
    ⟨rfl, [_], [_, _], rfl, by decide⟩
  have hpassed : (pageAdd.query pageApi.reusableQuery).get? "page" = some "$.detail.page" := by
    decide +kernel
  refine ⟨ha, c, h, hc, (hreport _).mpr rfl, hmeets ?_, hmeets ?_, hmeets ?_⟩
  · apply AcceptedOperation.Occurrence.Meets.forwarded _ hfirst hpassed
    exact ⟨by decide, .inr ⟨"#/components/parameters", by decide⟩⟩
  · apply AcceptedOperation.Occurrence.Meets.ignored (pointsTo_referenceName _)
    · decide +kernel
    · unfold NoneInQuery
      decide +kernel
    · decide +kernel
  · apply AcceptedOperation.Occurrence.Meets.reported
    · rw [hc]
      decide +kernel
    · decide +kernel

end Specification

end EventRouting
