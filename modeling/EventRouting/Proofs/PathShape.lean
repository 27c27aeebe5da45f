import EventRouting.Proofs.CollisionReport
import EventRouting.Proofs.NameEnding
import EventRouting.Proofs.ReadMethods
import Mathlib.Data.Finset.Card

/-!
# Collisions by the shape of a path

The shape of a destination is what its name shows of path and method. With the usual names of the
shared resources and of the rules, and methods that were read, the names of two destinations agree
exactly if their shapes do, and no name is used for anything else. So the collisions are those of
the repeated shapes: two for each destination beyond the first of its shape.
-/

namespace EventRouting

/-- The shared resources and the rules have the names that they have if nothing is set up. -/
structure Policy.UsualNames (p : Policy) : Prop where
  shared : p.sharedNames = ({} : Policy).sharedNames
  ruleSuffix : p.ruleSuffix = ({} : Policy).ruleSuffix

namespace GeneratedDestination

/-- The words of the path, and the capitalized method. -/
def shape (d : GeneratedDestination) : String × String :=
  (LogicalName.fragment (PathTemplate.toWildcards d.path), Text.capitalize d.method)

/-- The operation as the user of its two names. -/
def origin (d : GeneratedDestination) : Origin :=
  .operation d.method d.path

/-- The names of destination and rule, with their user. -/
def uses (d : GeneratedDestination) : List (String × Origin) :=
  [(d.name, d.origin), (d.ruleName, d.origin)]

/-- The destinations whose shape was there before, each behind the latest one of its shape. The
latest of the earlier destinations comes first. -/
def repetitions (earlier : List GeneratedDestination) :
    List GeneratedDestination → List (GeneratedDestination × GeneratedDestination)
  | [] => []
  | d :: rest =>
      ((earlier.find? (·.shape == d.shape)).map (·, d)).toList ++ repetitions (d :: earlier) rest

/-- What is reported of a destination that comes behind another one of its shape. -/
def collisionsWith (existing d : GeneratedDestination) : List NameCollision :=
  [⟨d.name, existing.origin, d.origin⟩, ⟨d.ruleName, existing.origin, d.origin⟩]

/-- Every destination shows a new shape or repeats one. -/
theorem length_repetitions_add_card (earlier ds : List GeneratedDestination) :
    (repetitions earlier ds).length + ((ds.reverse ++ earlier).map shape).toFinset.card =
      ds.length + (earlier.map shape).toFinset.card := by
  induction ds generalizing earlier with
  | nil => simp [repetitions]
  | cons d rest ih =>
      have hrest := ih (d :: earlier)
      simp only [repetitions, List.length_append, List.reverse_cons, List.append_assoc,
        List.singleton_append, List.length_cons]
      cases hd : earlier.find? (·.shape == d.shape) with
      | none =>
          have hnew : d.shape ∉ (earlier.map shape).toFinset := by
            rw [List.mem_toFinset, List.mem_map]
            rintro ⟨e, he, hs⟩
            exact List.find?_eq_none.mp hd e he (beq_iff_eq.mpr hs)
          rw [List.map_cons, List.toFinset_cons, Finset.card_insert_of_notMem hnew] at hrest
          simp only [Option.map_none, Option.toList_none, List.length_nil]
          omega
      | some e =>
          have hold : d.shape ∈ (earlier.map shape).toFinset := by
            have he := List.find?_some hd
            rw [List.mem_toFinset, ← beq_iff_eq.mp he]
            exact List.mem_map_of_mem (List.mem_of_find?_eq_some hd)
          rw [List.map_cons, List.toFinset_cons, Finset.insert_eq_of_mem hold] at hrest
          simp only [Option.map_some, Option.toList_some, List.length_singleton]
          omega

/-- As many destinations repeat a shape as there are more destinations than shapes. -/
theorem length_repetitions (ds : List GeneratedDestination) :
    (repetitions [] ds).length + (ds.map shape).toFinset.card = ds.length := by
  simpa using length_repetitions_add_card [] ds

/-- The names of destinations and rules tell their shapes, and are not the shared ones. -/
structure Separate (shared : List String) (ds : List GeneratedDestination) : Prop where
  name_iff : ∀ d ∈ ds, ∀ e ∈ ds, d.name = e.name ↔ d.shape = e.shape
  ruleName_iff : ∀ d ∈ ds, ∀ e ∈ ds, d.ruleName = e.ruleName ↔ d.shape = e.shape
  ruleName_ne : ∀ d ∈ ds, ∀ e ∈ ds, d.ruleName ≠ e.name
  not_shared : ∀ d ∈ ds, d.name ∉ shared ∧ d.ruleName ∉ shared

theorem Separate.mono {shared : List String} {ds es : List GeneratedDestination}
    (h : Separate shared ds) (hs : es ⊆ ds) : Separate shared es where
  name_iff d hd e he := h.name_iff d (hs hd) e (hs he)
  ruleName_iff d hd e he := h.ruleName_iff d (hs hd) e (hs he)
  ruleName_ne d hd e he := h.ruleName_ne d (hs hd) e (hs he)
  not_shared d hd := h.not_shared d (hs hd)

/-- The latest user of a name is the latest destination of its shape. -/
theorem get?_flatMap_uses {name : String} {shape : String × String}
    {earlier : List GeneratedDestination} {base : List (String × Origin)}
    (h : ∀ e ∈ earlier, e.name = name ∨ e.ruleName = name ↔ e.shape = shape)
    (hb : name ∉ Entries.keys base) :
    Entries.get? name (earlier.flatMap (·.uses.reverse) ++ base) =
      (earlier.find? (·.shape == shape)).map origin := by
  induction earlier with
  | nil => simpa [Entries.get?_eq_none_iff_not_mem] using hb
  | cons e rest ih =>
      have he := h e (by simp)
      have hrest := ih fun x hx => h x (by simp [hx])
      by_cases hs : e.shape = shape
      · rcases he.mpr hs with hn | hn <;>
          simp [uses, Entries.get?, hs, hn]
      · have hn := mt he.mp hs
        rw [not_or] at hn
        simpa [uses, Entries.get?, List.find?_cons, hs, hn.1, hn.2] using hrest

section Reports

variable {shared : List String} {d : GeneratedDestination} {earlier ds : List GeneratedDestination}
  {base : List (String × Origin)}

/-- Where names tell shapes, a destination collides with the latest one of its shape, if any. -/
theorem against_uses (h : Separate shared (d :: earlier)) (hb : Entries.keys base ⊆ shared) :
    NameCollision.against (earlier.flatMap (·.uses.reverse) ++ base) d.uses =
      ((earlier.find? (·.shape == d.shape)).map (·, d)).toList.flatMap fun r =>
        r.1.collisionsWith r.2 := by
  have hd : d ∈ d :: earlier := List.mem_cons_self
  have hown : d.name ≠ d.ruleName := (h.ruleName_ne d hd d hd).symm
  have hname : Entries.get? d.name (earlier.flatMap (·.uses.reverse) ++ base) =
      (earlier.find? (·.shape == d.shape)).map origin := by
    refine get?_flatMap_uses (fun e he => ?_) fun hs => (h.not_shared d hd).1 (hb hs)
    have he : e ∈ d :: earlier := List.mem_cons_of_mem _ he
    rw [or_iff_left (h.ruleName_ne e he d hd)]
    exact h.name_iff e he d hd
  have hrule : Entries.get? d.ruleName (earlier.flatMap (·.uses.reverse) ++ base) =
      (earlier.find? (·.shape == d.shape)).map origin := by
    refine get?_flatMap_uses (fun e he => ?_) fun hs => (h.not_shared d hd).2 (hb hs)
    have he : e ∈ d :: earlier := List.mem_cons_of_mem _ he
    rw [or_iff_right (h.ruleName_ne d hd e he).symm]
    exact h.ruleName_iff e he d hd
  rw [uses, NameCollision.against, NameCollision.against, NameCollision.against, Entries.get?,
    if_neg (by simpa using hown), hname, hrule]
  cases earlier.find? (·.shape == d.shape) <;> rfl

/-- Where names tell shapes, the collisions are those of the repeated shapes. -/
theorem against_flatMap_uses (h : Separate shared (ds ++ earlier))
    (hb : Entries.keys base ⊆ shared) :
    NameCollision.against (earlier.flatMap (·.uses.reverse) ++ base) (ds.flatMap uses) =
      (repetitions earlier ds).flatMap fun r => r.1.collisionsWith r.2 := by
  induction ds generalizing earlier with
  | nil => rfl
  | cons d rest ih =>
      have hd : Separate shared (d :: earlier) := h.mono (by simp)
      have hrest := @ih (d :: earlier) (h.mono (by simp))
      rw [List.flatMap_cons, List.append_assoc] at hrest
      rw [List.flatMap_cons, NameCollision.against_append, against_uses hd hb, hrest, repetitions,
        List.flatMap_append]

/-- The shared names come before the names of all destinations and collide with none of them. -/
theorem against_shared_append (h : Separate shared ds) (hn : shared.Nodup) :
    NameCollision.against [] (shared.map (·, .shared) ++ ds.flatMap uses) =
      (repetitions [] ds).flatMap fun r => r.1.collisionsWith r.2 := by
  have hkeys : Entries.keys (shared.map fun name => (name, Origin.shared)) = shared := by
    simp [Entries.keys, Function.comp_def]
  have hshared : NameCollision.against [] (shared.map fun name => (name, Origin.shared)) = [] :=
    NameCollision.against_eq_nil_iff.mpr ⟨hkeys.symm ▸ hn, fun _ _ => List.not_mem_nil⟩
  have hbase : Entries.keys (shared.map fun name => (name, Origin.shared)).reverse ⊆ shared := by
    rw [Entries.keys_reverse, hkeys]
    exact fun _ => List.mem_reverse.mp
  have hseparate : Separate shared (ds ++ []) := by rwa [List.append_nil]
  rw [NameCollision.against_append, hshared, List.nil_append, List.append_nil]
  exact against_flatMap_uses hseparate hbase

end Reports

end GeneratedDestination

namespace Specification

open GeneratedDestination

variable {s : Specification} {o : Options} {c : Compilation}

theorem uses_eq (s : Specification) (o : Options) :
    s.uses o = o.policy.sharedNames.map (·, .shared) ++ (s.destinations o).flatMap (·.uses) := by
  rw [uses, destinations, List.flatMap_map]
  rfl

theorem names_of_mem_destinations {d : GeneratedDestination} (hd : d ∈ s.destinations o) :
    d.name = LogicalName.destination o.namePrefix d.path d.method ∧
      d.ruleName = LogicalName.rule d.name o.policy.ruleSuffix := by
  obtain ⟨a, -, rfl⟩ := List.mem_map.mp hd
  exact ⟨a.name_eq o, rfl⟩

theorem KnownMethods.destinations (hm : s.KnownMethods) {d : GeneratedDestination}
    (hd : d ∈ s.destinations o) : isHttpMethod d.method = true := by
  obtain ⟨a, ha, rfl⟩ := List.mem_map.mp hd
  exact hm.generated ha

/-- With known methods and the usual names, the names of destinations and rules tell their
shapes. -/
theorem KnownMethods.separate (hm : s.KnownMethods) (hp : o.policy.UsualNames) :
    Separate o.policy.sharedNames (s.destinations o) := by
  have hname : ∀ d ∈ s.destinations o, ∀ e ∈ s.destinations o,
      d.name = e.name ↔ d.shape = e.shape := by
    intro d hd e he
    rw [(names_of_mem_destinations hd).1, (names_of_mem_destinations he).1, shape, shape,
      Prod.mk.injEq]
    exact LogicalName.destination_eq_iff (hm.destinations hd) (hm.destinations he)
  have hrule : ∀ d ∈ s.destinations o,
      d.ruleName = LogicalName.rule d.name ({} : Policy).ruleSuffix := by
    intro d hd
    rw [← hp.ruleSuffix]
    exact (names_of_mem_destinations hd).2
  refine ⟨hname, fun d hd e he => ?_, fun d hd e he => ?_, fun d hd => ⟨?_, ?_⟩⟩
  · rw [← hname d hd e he, hrule d hd, hrule e he]
    exact String.append_left_inj _
  · rw [hrule d hd, (names_of_mem_destinations he).1]
    exact (LogicalName.destination_ne_rule (hm.destinations he) _).symm
  · rw [hp.shared, (names_of_mem_destinations hd).1]
    exact LogicalName.destination_not_mem_sharedNames (hm.destinations hd)
  · rw [hp.shared, hrule d hd]
    exact LogicalName.rule_not_mem_sharedNames _

/-- With the usual names, collisions are collisions of shapes. In the template of a description that
was read, methods are the known ones, destinations have the same name exactly if they have the same
shape, the name of a rule is that of no destination, and neither is that of a shared resource. What
is reported are the two names of each destination whose shape was there before, one behind the
other. -/
theorem collisions_of_shapes {text : String} (hread : parse? text = some s)
    (hp : o.policy.UsualNames) (h : s.compile o = .ok c) :
    (∀ d ∈ c.destinations, isHttpMethod d.method = true) ∧
      Separate o.policy.sharedNames c.destinations ∧
      c.collisions =
        ((repetitions [] c.destinations).flatMap fun r => r.1.collisionsWith r.2) ∧
      c.collisions.length + 2 * (c.destinations.map shape).toFinset.card =
        2 * c.destinations.length := by
  have hm := knownMethods_of_parse? hread
  have hc := compiled_of_compile h
  have hcollisions : c.collisions =
      (repetitions [] c.destinations).flatMap fun r => r.1.collisionsWith r.2 := by
    rw [hc.collisions, hc.destinations, collisions, uses_eq]
    exact against_shared_append (hm.separate hp) hc.nodup
  have hlength : c.collisions.length = 2 * (repetitions [] c.destinations).length := by
    rw [hcollisions, List.length_flatMap]
    simp [collisionsWith, Nat.mul_comm]
  have hrepeated := length_repetitions c.destinations
  refine ⟨fun d hd => ?_, ?_, hcollisions, by omega⟩
  · rw [hc.destinations] at hd
    exact hm.destinations hd
  · rw [hc.destinations]
    exact hm.separate hp

/-- A path with and without a parameter, and a method in letters of either case. -/
def cacheText : String :=
  "servers: [\x7burl: u\x7d]
paths:
  /cache/\x7bk\x7d:
    put: \x7boperationId: p\x7d
    PUT: \x7boperationId: q\x7d
  /cache:
    put: \x7boperationId: r\x7d"

/-- Of three destinations the first and the last have one shape. -/
theorem collisions_of_shapes_cacheText :
    ∃ s c, parse? cacheText = some s ∧ s.compile { namePrefix := "Api" } = .ok c ∧
      Separate ({} : Policy).sharedNames c.destinations ∧
      c.collisions =
        [⟨"ApiCachePut", .operation "put" "/cache/\x7bk\x7d", .operation "put" "/cache"⟩,
          ⟨"ApiCachePutRule", .operation "put" "/cache/\x7bk\x7d", .operation "put" "/cache"⟩] ∧
      c.destinations.length = 3 ∧ (c.destinations.map shape).toFinset.card = 2 := by
  let o : Options := { namePrefix := "Api" }
  have hrun : ((parse? cacheText).map fun s =>
      ((s.compile o).isOk, s.collisions o, (s.destinations o).length)) =
      some (true,
        [⟨"ApiCachePut", .operation "put" "/cache/\x7bk\x7d", .operation "put" "/cache"⟩,
          ⟨"ApiCachePutRule", .operation "put" "/cache/\x7bk\x7d", .operation "put" "/cache"⟩],
        3) := by
    decide +kernel
  obtain ⟨s, hread, hs⟩ := Option.map_eq_some_iff.mp hrun
  obtain ⟨hok, hreport⟩ := Prod.mk.inj hs
  obtain ⟨hcollisions, hdestinations⟩ := Prod.mk.inj hreport
  obtain ⟨c, h⟩ := exists_ok_of_isOk hok
  have hc := compiled_of_compile h
  obtain ⟨-, hseparate, -, hlength⟩ := collisions_of_shapes hread ⟨rfl, rfl⟩ h
  rw [← hc.collisions] at hcollisions
  rw [← hc.destinations] at hdestinations
  rw [hcollisions, hdestinations, List.length_cons, List.length_singleton] at hlength
  exact ⟨s, c, hread, h, hseparate, hcollisions, hdestinations, by omega⟩

end Specification

end EventRouting
