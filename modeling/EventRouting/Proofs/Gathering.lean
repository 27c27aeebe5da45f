import EventRouting.Compilation.Progress
import EventRouting.Proofs.Wildcard
import EventRouting.Proofs.Writes

/-!
# What a compilation gathers

An operation is accepted if its method is wanted, and it is generated if it also has an identifier.
The accepted operations keep the order of the description: paths outside, operations inside, with
all repetitions. Everything that a compilation gathers on its one way through the description can be
said of these operations list by list: which names are used, which resources are generated, and what
is reported.
-/

namespace EventRouting

/-- The operations of a path with wanted methods. -/
def PathItem.accepted (item : PathItem) (methods : MethodSet) (path : String) :
    List AcceptedOperation :=
  (item.operations.filter fun o => methods.contains o.1).map fun o => ⟨path, item, o.1, o.2⟩

/-- The operations of all paths with wanted methods. -/
def Specification.accepted (s : Specification) (methods : MethodSet) : List AcceptedOperation :=
  s.paths.flatMap fun p => p.2.accepted methods p.1

namespace AcceptedOperation

/-- Whether events can trigger the operation. -/
def isGenerated (a : AcceptedOperation) : Bool :=
  a.operation.trigger?.isSome

theorem isGenerated_of_none {a : AcceptedOperation} (h : a.operation.trigger? = none) :
    a.isGenerated = false := by
  rw [isGenerated, h, Option.isSome_none]

theorem isGenerated_of_some {a : AcceptedOperation} {trigger : String}
    (h : a.operation.trigger? = some trigger) : a.isGenerated = true := by
  rw [isGenerated, h, Option.isSome_some]

/-- The names of destination and rule, with their user. -/
def uses (o : Options) (a : AcceptedOperation) : List (String × Origin) :=
  [(a.name o, a.origin), (a.ruleName o, a.origin)]

/-- A destination is named by the wildcards of its path, and so it is by the path itself. -/
theorem name_eq (o : Options) (a : AcceptedOperation) :
    a.name o = LogicalName.destination o.namePrefix a.path a.method :=
  LogicalName.destination_toWildcards o.namePrefix a.path a.method

end AcceptedOperation

/-- The accepted operations that events can trigger. -/
def Specification.generated (s : Specification) (methods : MethodSet) : List AcceptedOperation :=
  (s.accepted methods).filter AcceptedOperation.isGenerated

namespace NameCollision

/-- The collisions of uses of names with earlier uses, of which the latest comes first. -/
def against (earlier : List (String × Origin)) : List (String × Origin) → List NameCollision
  | [] => []
  | use :: rest =>
      ((Entries.get? use.1 earlier).map fun existing => ⟨use.1, existing, use.2⟩).toList ++
        against (use :: earlier) rest

theorem against_append (earlier xs ys : List (String × Origin)) :
    against earlier (xs ++ ys) = against earlier xs ++ against (xs.reverse ++ earlier) ys := by
  induction xs generalizing earlier with
  | nil => rfl
  | cons u rest ih => simp [against, ih, List.append_assoc]

theorem against_eq_nil_iff {earlier uses : List (String × Origin)} :
    against earlier uses = [] ↔
      (Entries.keys uses).Nodup ∧ ∀ k ∈ Entries.keys uses, k ∉ Entries.keys earlier := by
  induction uses generalizing earlier with
  | nil => simp [against]
  | cons u rest ih =>
      simp only [against, List.append_eq_nil_iff, Option.toList_eq_nil_iff, Option.map_eq_none_iff,
        Entries.get?_eq_none_iff_not_mem, ih, Entries.keys_cons, List.nodup_cons, List.mem_cons,
        not_or, forall_eq_or_imp]
      constructor
      · rintro ⟨hn, hr, hk⟩
        exact ⟨⟨fun hm => (hk u.1 hm).1 rfl, hr⟩, hn, fun k hm => (hk k hm).2⟩
      · rintro ⟨⟨hm, hr⟩, hn, hk⟩
        exact ⟨hn, hr, fun k hr => ⟨fun he => hm (he ▸ hr), hk k hr⟩⟩

/-- Of the earlier uses only the latest one of each name counts. -/
theorem against_congr {earlier earlier' : List (String × Origin)}
    (h : ∀ name, Entries.get? name earlier = Entries.get? name earlier')
    (uses : List (String × Origin)) : against earlier uses = against earlier' uses := by
  induction uses generalizing earlier earlier' with
  | nil => rfl
  | cons u rest ih =>
      have hrest : ∀ name,
          Entries.get? name (u :: earlier) = Entries.get? name (u :: earlier') := by
        intro name
        simp only [Entries.get?, h]
      rw [against, against, h, ih hrest]

/-- A map that the earlier uses were written into remembers all of them that count. -/
theorem against_written (origins : OrderedMap Origin) (earlier uses : List (String × Origin)) :
    against (earlier.foldl (fun m u => m.insert u.1 u.2) origins).entries uses =
      against (earlier.reverse ++ origins.entries) uses := by
  apply against_congr
  intro name
  rw [OrderedMap.entries_foldl_insert, Entries.get?_overlay fun _ _ => inferInstance,
    Entries.get?_append]

end NameCollision

namespace Specification

variable (s : Specification) (o : Options) (baseUrl : String)

/-- The destinations, in the order of their operations. -/
def destinations : List GeneratedDestination :=
  (s.generated o.methods).map (AcceptedOperation.destination o)

/-- The operations that are skipped. -/
def skipped : List SkippedOperation :=
  ((s.accepted o.methods).filter (! ·.isGenerated)).map (AcceptedOperation.skipped o)

/-- The references that point nowhere: of each path first its own, then those of its generated
operations. -/
def unresolved : List UnresolvedReference :=
  s.paths.flatMap fun p =>
    p.2.unresolved s.declaredParameters p.1 ++
      ((p.2.accepted o.methods p.1).filter AcceptedOperation.isGenerated).flatMap
        (AcceptedOperation.unresolved s.declaredParameters)

/-- All uses of names in their order: the shared ones, then those of the generated operations. -/
def uses : List (String × Origin) :=
  (o.policy.sharedNames.map (·, .shared)) ++
    (s.generated o.methods).flatMap (AcceptedOperation.uses o)

/-- The names that are used again. -/
def collisions : List NameCollision :=
  NameCollision.against [] (s.uses o)

/-- The generated resources in the order in which they come: the shared ones first. -/
def resources : List (String × Resource) :=
  (Inventory.shared o.policy).entries ++
    (s.generated o.methods).flatMap fun a =>
      (a.endpoint s.reusableQuery o baseUrl).resources o.policy

/-- The generated resources by their names, before anything is granted. -/
def ungranted : Inventory :=
  .ofList (s.resources o baseUrl)

/-- The generated resources, with the role permitted to call every destination. -/
def inventory : Inventory :=
  (s.ungranted o baseUrl).grant o.policy.roleName ((s.destinations o).map (·.name))

end Specification

/-- What a part of the way adds to what was gathered before. -/
structure Gain where
  resources : List (String × Resource) := []
  uses : List (String × Origin) := []
  destinations : List GeneratedDestination := []
  skipped : List SkippedOperation := []
  unresolved : List UnresolvedReference := []

namespace Gain

/-- What two parts of the way add, one behind the other. -/
def append (g h : Gain) : Gain where
  resources := g.resources ++ h.resources
  uses := g.uses ++ h.uses
  destinations := g.destinations ++ h.destinations
  skipped := g.skipped ++ h.skipped
  unresolved := g.unresolved ++ h.unresolved

/-- What is added before the first path. -/
def ofShared (p : Policy) : Gain where
  resources := (Inventory.shared p).entries
  uses := (Inventory.shared p).names.map (·, .shared)

/-- What resources of one user add. -/
def ofWrites (origin : Origin) (entries : List (String × Resource)) : Gain where
  resources := entries
  uses := entries.map fun e => (e.1, origin)

variable (s : Specification) (o : Options) (baseUrl : String)

/-- What an operation with an identifier adds. -/
def ofGenerated (a : AcceptedOperation) : Gain where
  resources := (a.endpoint s.reusableQuery o baseUrl).resources o.policy
  uses := a.uses o
  destinations := [a.destination o]
  unresolved := a.unresolved s.declaredParameters

/-- What operations with wanted methods add. -/
def ofOperations (as : List AcceptedOperation) : Gain where
  resources := (as.filter AcceptedOperation.isGenerated).flatMap fun a =>
    (a.endpoint s.reusableQuery o baseUrl).resources o.policy
  uses := (as.filter AcceptedOperation.isGenerated).flatMap (AcceptedOperation.uses o)
  destinations := (as.filter AcceptedOperation.isGenerated).map (AcceptedOperation.destination o)
  skipped := (as.filter (! ·.isGenerated)).map (AcceptedOperation.skipped o)
  unresolved := (as.filter AcceptedOperation.isGenerated).flatMap
    (AcceptedOperation.unresolved s.declaredParameters)

/-- What paths with all their operations add. -/
def ofPaths (paths : List (String × PathItem)) : Gain :=
  { ofOperations s o baseUrl (paths.flatMap fun p => p.2.accepted o.methods p.1) with
    unresolved := paths.flatMap fun p =>
      p.2.unresolved s.declaredParameters p.1 ++
        ((p.2.accepted o.methods p.1).filter AcceptedOperation.isGenerated).flatMap
          (AcceptedOperation.unresolved s.declaredParameters) }

theorem ofWrites_cons (origin : Origin) (e : String × Resource) (rest : List (String × Resource)) :
    ofWrites origin (e :: rest) = (ofWrites origin [e]).append (ofWrites origin rest) := rfl

/-- A generated operation adds its report, then what it writes, then its destination. -/
theorem ofGenerated_eq (a : AcceptedOperation) :
    ofGenerated s o baseUrl a =
      ((append {} { unresolved := a.unresolved s.declaredParameters }).append
        (ofWrites a.origin ((a.endpoint s.reusableQuery o baseUrl).resources o.policy))).append
        { destinations := [a.destination o] } := by
  simp [ofGenerated, append, ofWrites, Endpoint.resources, AcceptedOperation.uses,
    AcceptedOperation.endpoint, AcceptedOperation.ruleName]

theorem ofOperations_cons (a : AcceptedOperation) (rest : List AcceptedOperation) :
    ofOperations s o baseUrl (a :: rest) =
      (ofOperations s o baseUrl [a]).append (ofOperations s o baseUrl rest) := by
  cases h : a.isGenerated <;> simp [ofOperations, append, h]

theorem ofOperations_skipped {a : AcceptedOperation} (h : a.isGenerated = false) :
    ofOperations s o baseUrl [a] = { skipped := [a.skipped o] } := by
  simp [ofOperations, h]

theorem ofOperations_generated {a : AcceptedOperation} (h : a.isGenerated = true) :
    ofOperations s o baseUrl [a] = ofGenerated s o baseUrl a := by
  simp [ofOperations, ofGenerated, h]

theorem ofPaths_cons (e : String × PathItem) (rest : List (String × PathItem)) :
    ofPaths s o baseUrl (e :: rest) =
      (ofPaths s o baseUrl [e]).append (ofPaths s o baseUrl rest) := by
  simp [ofPaths, ofOperations, append]

/-- A path adds its own report before anything that its operations add. -/
theorem ofPaths_singleton (e : String × PathItem) :
    ofPaths s o baseUrl [e] =
      append { unresolved := e.2.unresolved s.declaredParameters e.1 }
        (ofOperations s o baseUrl (e.2.accepted o.methods e.1)) := by
  simp [ofPaths, ofOperations, append]

end Gain

namespace Progress

/-- Before anything is gathered. -/
def nothing : Progress where
  resources := .empty
  origins := .empty

/-- What was gathered on a part of the way. A collision is one with a use that came before the part,
or with an earlier one of the part itself. -/
structure Gains (p : Progress) (g : Gain) (p' : Progress) : Prop where
  resources : p'.resources = g.resources.foldl (fun m e => m.insert e.1 e.2) p.resources
  origins : p'.origins = g.uses.foldl (fun m u => m.insert u.1 u.2) p.origins
  destinations : p'.destinations = p.destinations ++ g.destinations
  skipped : p'.skipped = p.skipped ++ g.skipped
  collisions : p'.collisions = p.collisions ++ NameCollision.against p.origins.entries g.uses
  unresolved : p'.unresolved = p.unresolved ++ g.unresolved

namespace Gains

/-- What is said adds nothing. -/
theorem of_notes (p : Progress) (notes : List Note) : p.Gains {} { p with notes := notes } := by
  constructor <;> simp [NameCollision.against]

theorem trans {p p' p'' : Progress} {g h : Gain} (hg : p.Gains g p') (hh : p'.Gains h p'') :
    p.Gains (g.append h) p'' where
  resources := by rw [hh.resources, hg.resources, Gain.append, List.foldl_append]
  origins := by rw [hh.origins, hg.origins, Gain.append, List.foldl_append]
  destinations := by rw [hh.destinations, hg.destinations, Gain.append, List.append_assoc]
  skipped := by rw [hh.skipped, hg.skipped, Gain.append, List.append_assoc]
  collisions := by
    rw [hh.collisions, hg.collisions, hg.origins, NameCollision.against_written, Gain.append,
      NameCollision.against_append, List.append_assoc]
  unresolved := by rw [hh.unresolved, hg.unresolved, Gain.append, List.append_assoc]

/-- What every step adds adds up along the whole way. -/
theorem foldl {α : Type} {f : Progress → α → Progress} (gain : List α → Gain) (nil : gain [] = {})
    (cons : ∀ x rest, gain (x :: rest) = (gain [x]).append (gain rest))
    (step : ∀ (p : Progress) x, p.Gains (gain [x]) (f p x)) (xs : List α) (p : Progress) :
    p.Gains (gain xs) (xs.foldl f p) := by
  induction xs generalizing p with
  | nil =>
      rw [nil]
      exact of_notes p p.notes
  | cons x rest ih =>
      rw [cons]
      exact (step p x).trans (ih (f p x))

/-- The shared resources have different names, so that none of them is a collision. -/
theorem start (policy : Policy) : nothing.Gains (.ofShared policy) (.start policy) where
  resources := (OrderedMap.ofList_entries _).symm
  origins := rfl
  destinations := rfl
  skipped := rfl
  collisions := by
    have hkeys : Entries.keys ((Inventory.shared policy).names.map (·, Origin.shared)) =
        (Inventory.shared policy).names := by
      simp [Entries.keys, Function.comp_def]
    have hnone : NameCollision.against [] (Gain.ofShared policy).uses = [] := by
      rw [NameCollision.against_eq_nil_iff, Gain.ofShared, hkeys]
      exact ⟨(Inventory.shared policy).nodup, fun _ _ => by simp⟩
    exact hnone.symm
  unresolved := rfl

theorem report (p : Progress) (references : List UnresolvedReference) :
    p.Gains { unresolved := references } (p.report references) := by
  constructor <;> simp [Progress.report, NameCollision.against]

theorem write (origin : Origin) (p : Progress) (e : String × Resource) :
    p.Gains (.ofWrites origin [e]) (p.write origin e) := by
  constructor <;>
    simp [Progress.write, OrderedMap.exchange_eq, Gain.ofWrites, NameCollision.against,
      OrderedMap.get?]

theorem skip (o : Options) (p : Progress) (a : AcceptedOperation) :
    p.Gains { skipped := [a.skipped o] } (p.skip o a) := by
  constructor <;> simp [Progress.skip, NameCollision.against]

theorem of_destination (p : Progress) (d : GeneratedDestination) :
    p.Gains { destinations := [d] } { p with destinations := p.destinations ++ [d] } := by
  constructor <;> simp [NameCollision.against]

variable (s : Specification) (o : Options) (baseUrl : String)

/-- A generated operation is reported, its destination and its rule are written, and it is counted
among the destinations. -/
theorem generate (p : Progress) (a : AcceptedOperation) :
    p.Gains (.ofGenerated s o baseUrl a) (p.generate s o baseUrl a) := by
  have announced := of_notes p (p.notes ++ [.creating (a.name o) a.trigger])
  have reported := announced.trans (report _ (a.unresolved s.declaredParameters))
  have written := reported.trans
    (foldl (.ofWrites a.origin) rfl (Gain.ofWrites_cons a.origin) (write a.origin)
      ((a.endpoint s.reusableQuery o baseUrl).resources o.policy) _)
  rw [Gain.ofGenerated_eq]
  exact written.trans (of_destination _ (a.destination o))

/-- An operation is skipped or generated, and adds what is said of operations of its kind. -/
theorem visit (p : Progress) (a : AcceptedOperation) :
    p.Gains (.ofOperations s o baseUrl [a]) (p.visit s o baseUrl a) := by
  cases h : a.operation.trigger? with
  | none =>
      rw [Gain.ofOperations_skipped s o baseUrl (AcceptedOperation.isGenerated_of_none h),
        Progress.visit, h]
      exact skip o p a
  | some trigger =>
      rw [Gain.ofOperations_generated s o baseUrl (AcceptedOperation.isGenerated_of_some h),
        Progress.visit, h]
      exact generate s o baseUrl p a

/-- The unwanted operations of a path are passed over. -/
theorem visitPath_eq (p : Progress) (e : String × PathItem) :
    p.visitPath s o baseUrl e =
      (e.2.accepted o.methods e.1).foldl (Progress.visit s o baseUrl)
        (p.report (e.2.unresolved s.declaredParameters e.1)) := by
  rw [PathItem.accepted, List.foldl_map, List.foldl_filter]
  rfl

theorem visitPath (p : Progress) (e : String × PathItem) :
    p.Gains (.ofPaths s o baseUrl [e]) (p.visitPath s o baseUrl e) := by
  rw [Gain.ofPaths_singleton, visitPath_eq]
  exact (report p _).trans
    (foldl (.ofOperations s o baseUrl) rfl (Gain.ofOperations_cons s o baseUrl)
      (visit s o baseUrl) _ _)

/-- On its whole way a compilation gathers what is said of the description list by list. -/
theorem visitPaths :
    nothing.Gains ((Gain.ofShared o.policy).append (.ofPaths s o baseUrl s.paths))
      (s.paths.foldl (Progress.visitPath s o baseUrl) (.start o.policy)) :=
  (start o.policy).trans
    (foldl (.ofPaths s o baseUrl) rfl (Gain.ofPaths_cons s o baseUrl)
      (visitPath s o baseUrl) s.paths _)

end Gains

end Progress

namespace Inventory

/-- The shared resources stand in the inventory as they were written. -/
theorem entries_shared {p : Policy} (h : p.sharedNames.Nodup) :
    (shared p).entries = p.sharedResources := by
  change (OrderedMap.ofList p.sharedResources).entries = _
  rw [OrderedMap.entries_ofList,
    Entries.overlay_eq_append (fun _ _ => inferInstance) (by rwa [Policy.keys_sharedResources])]
  · simp
  · intro k _
    rfl

end Inventory

namespace Specification

variable (s : Specification) (o : Options) (baseUrl : String)

theorem destinations_progress : (s.progress o baseUrl).destinations = s.destinations o :=
  (Progress.Gains.visitPaths s o baseUrl).destinations

theorem skipped_progress : (s.progress o baseUrl).skipped = s.skipped o :=
  (Progress.Gains.visitPaths s o baseUrl).skipped

theorem unresolved_progress : (s.progress o baseUrl).unresolved = s.unresolved o :=
  (Progress.Gains.visitPaths s o baseUrl).unresolved

/-- What was gathered is granted to the role at the end, as far as there is one. -/
theorem resources_progress : (s.progress o baseUrl).resources = s.inventory o baseUrl := by
  have hpaths := Progress.Gains.visitPaths s o baseUrl
  have hresources : (s.paths.foldl (Progress.visitPath s o baseUrl) (.start o.policy)).resources =
      s.ungranted o baseUrl := hpaths.resources
  have hdestinations : (s.paths.foldl (Progress.visitPath s o baseUrl)
      (.start o.policy)).destinations = s.destinations o := hpaths.destinations
  rw [progress, Progress.grantRole, Inventory.grantInvoke_eq, hresources, hdestinations, inventory]

/-- If the shared resources have different names, then every collision is one of all uses. -/
theorem collisions_progress (h : o.policy.sharedNames.Nodup) :
    (s.progress o baseUrl).collisions = s.collisions o := by
  have hshared : (Inventory.shared o.policy).names = o.policy.sharedNames := by
    rw [OrderedMap.names, Inventory.entries_shared h, Policy.keys_sharedResources]
  rw [collisions, uses, ← hshared]
  exact (Progress.Gains.visitPaths s o baseUrl).collisions

end Specification

end EventRouting
