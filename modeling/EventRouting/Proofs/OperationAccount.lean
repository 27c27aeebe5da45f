import EventRouting.Proofs.Outcome

/-!
# The account of all operations

The operations of a description are gone through in order, paths outside and operations inside. Each
of them becomes a destination, is skipped, or is not wanted at all. The report holds the first two
kinds, in their order and with all repetitions, and the third kind leaves no trace anywhere.
-/

namespace EventRouting

/-- An operation with the path and the method under which it is declared. -/
structure DeclaredOperation where
  path : String
  method : String
  operation : Operation

/-- The operations that a path declares. -/
def PathItem.declared (item : PathItem) (path : String) : List DeclaredOperation :=
  item.operations.map fun o => ⟨path, o.1, o.2⟩

/-- All operations, those of the first path first. -/
def Specification.declared (s : Specification) : List DeclaredOperation :=
  s.paths.flatMap fun p => p.2.declared p.1

namespace DeclaredOperation

/-- Whether the set of methods has the operation's, in letters of either case. -/
def Wanted (o : Options) (d : DeclaredOperation) : Prop :=
  Text.upper d.method ∈ o.methods.methods

/-- The name that the operation's destination has, or would have. -/
def name (o : Options) (d : DeclaredOperation) : String :=
  LogicalName.destination o.namePrefix d.path d.method

end DeclaredOperation

/-- What is reported of operations that are gone through in order: each of them is accounted for by
one rule. -/
inductive Accounted (o : Options) :
    List DeclaredOperation → List GeneratedDestination → List SkippedOperation → Prop
  | nil : Accounted o [] [] []
  | generated {d : DeclaredOperation} {rest ds ss} {trigger : String} (wanted : d.Wanted o)
      (id : d.operation.id = some trigger) (nonempty : trigger ≠ "")
      (tail : Accounted o rest ds ss) :
      Accounted o (d :: rest)
        (⟨d.name o, d.name o ++ o.policy.ruleSuffix, d.path, d.method, trigger⟩ :: ds) ss
  | skipped {d : DeclaredOperation} {rest ds ss} (wanted : d.Wanted o)
      (id : d.operation.id = none ∨ d.operation.id = some "") (tail : Accounted o rest ds ss) :
      Accounted o (d :: rest) ds (⟨d.path, d.method, d.name o, .missingTrigger⟩ :: ss)
  | unwanted {d : DeclaredOperation} {rest ds ss} (unwanted : ¬ d.Wanted o)
      (tail : Accounted o rest ds ss) : Accounted o (d :: rest) ds ss

namespace Accounted

variable {o : Options} {xs : List DeclaredOperation} {ds ds' : List GeneratedDestination}
  {ss ss' : List SkippedOperation}

/-- Operations can be accounted for in one way only. -/
theorem deterministic (h : Accounted o xs ds ss) (h' : Accounted o xs ds' ss') :
    ds = ds' ∧ ss = ss' := by
  induction h generalizing ds' ss' with
  | nil =>
      cases h'
      exact ⟨rfl, rfl⟩
  | generated wanted id nonempty _ ih =>
      cases h' with
      | generated _ id' _ tail' =>
          obtain ⟨rfl, rfl⟩ := ih tail'
          obtain rfl := Option.some.inj (id.symm.trans id')
          exact ⟨rfl, rfl⟩
      | skipped _ id' _ => simp [id, nonempty] at id'
      | unwanted unwanted' _ => exact absurd wanted unwanted'
  | skipped wanted id _ ih =>
      cases h' with
      | generated _ id' nonempty' _ => simp [id', nonempty'] at id
      | skipped _ _ tail' =>
          obtain ⟨rfl, rfl⟩ := ih tail'
          exact ⟨rfl, rfl⟩
      | unwanted unwanted' _ => exact absurd wanted unwanted'
  | unwanted unwanted _ ih =>
      cases h' with
      | generated wanted' _ _ _ => exact absurd wanted' unwanted
      | skipped wanted' _ _ => exact absurd wanted' unwanted
      | unwanted _ tail' => exact ih tail'

end Accounted

/-- An identifier is missing or empty exactly if events cannot trigger the operation. -/
theorem Operation.trigger?_eq_none_iff {op : Operation} :
    op.trigger? = none ↔ op.id = none ∨ op.id = some "" := by
  rw [trigger?]
  cases op.id with
  | none => simp
  | some id => by_cases h : id = "" <;> simp [Option.filter, h]

theorem Operation.trigger?_eq_some_iff {op : Operation} {trigger : String} :
    op.trigger? = some trigger ↔ op.id = some trigger ∧ trigger ≠ "" := by
  rw [trigger?, Option.filter_eq_some_iff]
  simp

/-- The operation as it is declared. -/
def AcceptedOperation.declared (a : AcceptedOperation) : DeclaredOperation :=
  ⟨a.path, a.method, a.operation⟩

namespace AcceptedOperation

variable (o : Options) (a : AcceptedOperation)

theorem name_declared : a.declared.name o = a.name o :=
  (a.name_eq o).symm

/-- What is reported of an operation with an identifier is what the account asks for. -/
theorem destination_eq {trigger : String} (h : a.operation.trigger? = some trigger) :
    a.destination o =
      ⟨a.declared.name o, a.declared.name o ++ o.policy.ruleSuffix, a.path, a.method, trigger⟩ := by
  rw [destination, AcceptedOperation.trigger, h, name_declared]
  rfl

theorem skipped_eq : a.skipped o = ⟨a.path, a.method, a.declared.name o, .missingTrigger⟩ := by
  rw [skipped, name_declared]

end AcceptedOperation

/-- Two filters in a row account for operations one after the other. -/
theorem accounted_filter (o : Options) (as : List AcceptedOperation) :
    Accounted o (as.map AcceptedOperation.declared)
      (((as.filter fun a => o.methods.contains a.method).filter AcceptedOperation.isGenerated).map
        (AcceptedOperation.destination o))
      (((as.filter fun a => o.methods.contains a.method).filter (! ·.isGenerated)).map
        (AcceptedOperation.skipped o)) := by
  induction as with
  | nil => exact .nil
  | cons a rest ih =>
      by_cases hw : o.methods.contains a.method = true
      · have wanted : a.declared.Wanted o := List.contains_iff_mem.mp hw
        cases ht : a.operation.trigger? with
        | none =>
            have hg : a.isGenerated = false := AcceptedOperation.isGenerated_of_none ht
            simp only [List.map_cons, List.filter_cons, hw, if_true, hg, Bool.not_false,
              AcceptedOperation.skipped_eq]
            exact .skipped wanted (Operation.trigger?_eq_none_iff.mp ht) ih
        | some trigger =>
            have hg : a.isGenerated = true := AcceptedOperation.isGenerated_of_some ht
            obtain ⟨id, nonempty⟩ := Operation.trigger?_eq_some_iff.mp ht
            simp only [List.map_cons, List.filter_cons, hw, if_true, hg, Bool.not_true,
              AcceptedOperation.destination_eq o a ht]
            exact .generated wanted id nonempty ih
      · have unwanted : ¬ a.declared.Wanted o := fun h => hw (List.contains_iff_mem.mpr h)
        simp only [List.map_cons, List.filter_cons, hw]
        exact .unwanted unwanted ih

namespace Specification

/-- The reported destinations and skipped operations account for all operations. -/
theorem accounted (s : Specification) (o : Options) :
    Accounted o s.declared (s.destinations o) (s.skipped o) := by
  let all : List AcceptedOperation :=
    s.paths.flatMap fun p => p.2.operations.map fun x => ⟨p.1, p.2, x.1, x.2⟩
  have hdeclared : s.declared = all.map AcceptedOperation.declared := by
    simp [all, declared, PathItem.declared, AcceptedOperation.declared, List.map_flatMap,
      Function.comp_def]
  have haccepted : s.accepted o.methods = all.filter fun a => o.methods.contains a.method := by
    simp [all, Specification.accepted, PathItem.accepted, List.filter_flatMap, List.filter_map,
      Function.comp_def]
  rw [hdeclared, destinations, generated, skipped, haccepted]
  exact accounted_filter o all

end Specification

/-- The path without its unwanted operations. -/
def PathItem.wanted (item : PathItem) (methods : MethodSet) : PathItem :=
  { item with operations := item.operations.filter fun x => methods.contains x.1 }

/-- The description without its unwanted operations. -/
def Specification.wanted (s : Specification) (methods : MethodSet) : Specification :=
  { s with paths := s.paths.map fun p => (p.1, p.2.wanted methods) }

/-- The operation, as it is declared if the unwanted ones beside it are left out. -/
def AcceptedOperation.alone (methods : MethodSet) (a : AcceptedOperation) : AcceptedOperation :=
  { a with item := a.item.wanted methods }

namespace PathItem

theorem accepted_wanted (item : PathItem) (methods : MethodSet) (path : String) :
    (item.wanted methods).accepted methods path =
      (item.accepted methods path).map (AcceptedOperation.alone methods) := by
  simp [accepted, wanted, AcceptedOperation.alone, Function.comp_def]

end PathItem

namespace Specification

variable (s : Specification) (o : Options)

theorem accepted_wanted (methods : MethodSet) :
    (s.wanted methods).accepted methods =
      (s.accepted methods).map (AcceptedOperation.alone methods) := by
  simp [accepted, wanted, List.flatMap_map, List.map_flatMap, PathItem.accepted_wanted]

theorem generated_wanted (methods : MethodSet) :
    (s.wanted methods).generated methods =
      (s.generated methods).map (AcceptedOperation.alone methods) := by
  rw [generated, accepted_wanted, List.filter_map]
  rfl

theorem unresolved_wanted : (s.wanted o.methods).unresolved o = s.unresolved o := by
  rw [unresolved, wanted, List.flatMap_map]
  apply List.flatMap_congr
  intro p _
  rw [PathItem.accepted_wanted, List.filter_map, List.flatMap_map]
  rfl

/-- Unwanted operations have no part in a compilation. -/
theorem compile_wanted : (s.wanted o.methods).compile o = s.compile o := by
  have hd : (s.wanted o.methods).destinations o = s.destinations o := by
    rw [destinations, generated_wanted, List.map_map]
    rfl
  have hs : (s.wanted o.methods).skipped o = s.skipped o := by
    rw [skipped, accepted_wanted, List.filter_map, List.map_map]
    rfl
  have hu : (s.wanted o.methods).uses o = s.uses o := by
    rw [uses, generated_wanted, List.flatMap_map]
    rfl
  have hr : ∀ baseUrl, (s.wanted o.methods).resources o baseUrl = s.resources o baseUrl := by
    intro baseUrl
    rw [resources, generated_wanted, List.flatMap_map]
    rfl
  simp only [compile_eq, collisions, inventory, ungranted, hd, hs, hu, hr, unresolved_wanted]
  rfl

/-- Every operation is accounted for, in order and in one way only: it has become a destination, it
was skipped for want of an identifier, or its method is not wanted. In the last case the compilation
is the same without it. A destination is named alike by its path and by its wildcard path. -/
theorem operations_accounted {s : Specification} {o : Options} {c : Compilation}
    (h : s.compile o = .ok c) :
    (∀ ds ss, Accounted o s.declared ds ss ↔ ds = c.destinations ∧ ss = c.skipped) ∧
      (∀ d ∈ c.destinations, d.name =
        LogicalName.destination o.namePrefix (PathTemplate.toWildcards d.path) d.method) ∧
      (s.wanted o.methods).compile o = .ok c := by
  have hc := compiled_of_compile h
  have haccount : Accounted o s.declared c.destinations c.skipped := by
    rw [hc.destinations, skipped_of_compile h]
    exact s.accounted o
  refine ⟨fun ds ss => ⟨fun hs => hs.deterministic haccount, ?_⟩, ?_, by rwa [compile_wanted]⟩
  · rintro ⟨rfl, rfl⟩
    exact haccount
  · intro d hd
    rw [hc.destinations] at hd
    obtain ⟨a, -, rfl⟩ := List.mem_map.mp hd
    rfl

/-- Paths that repeat, a method in capitals, an empty identifier and an unwanted method. -/
def repeatedApi : Specification where
  servers := [{ url := some "https://api.example.com" }]
  paths :=
    [("/items/\x7bid\x7d", {
        operations := [("put", { id := some "store" }), ("PUT", { id := some "" }),
          ("trace", { id := some "trace" })] }),
      ("/items/\x7bid\x7d", {
        operations := [("Delete", { id := some "drop" }), ("put", { id := some "again" })] })]

/-- One operation of five is skipped, one is not wanted, and two destinations have one name. -/
theorem operations_accounted_repeatedApi :
    ∃ c, repeatedApi.compile {} = .ok c ∧
      Accounted {} repeatedApi.declared c.destinations c.skipped ∧
      c.destinations =
        [⟨"ItemsPut", "ItemsPutRule", "/items/\x7bid\x7d", "put", "store"⟩,
          ⟨"ItemsDelete", "ItemsDeleteRule", "/items/\x7bid\x7d", "Delete", "drop"⟩,
          ⟨"ItemsPut", "ItemsPutRule", "/items/\x7bid\x7d", "put", "again"⟩] ∧
      c.skipped = [⟨"/items/\x7bid\x7d", "PUT", "ItemsPUT", .missingTrigger⟩] ∧
      (repeatedApi.wanted (Options.methods {})).compile {} = .ok c := by
  obtain ⟨c, h⟩ := exists_ok_of_isOk
    (by decide +kernel : (repeatedApi.compile {}).isOk = true)
  obtain ⟨haccount, -, hwanted⟩ := operations_accounted h
  refine ⟨c, h, (haccount _ _).mpr ⟨rfl, rfl⟩, ?_, ?_, hwanted⟩
  · rw [(compiled_of_compile h).destinations]
    decide +kernel
  · rw [skipped_of_compile h]
    decide +kernel

end Specification

end EventRouting
