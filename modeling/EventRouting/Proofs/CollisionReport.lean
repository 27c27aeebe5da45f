import EventRouting.Proofs.Outcome
import Mathlib.Data.List.Forall2
import Mathlib.Data.List.Induction

/-!
# The report of collisions

Names are used one after the other. A collision is reported for exactly those uses whose name was
used before, and it names the latest of the earlier users. A use that is reported replaces a
generated resource, so the report and the number of resources determine each other.
-/

namespace EventRouting

/-- The name at a position of a row of uses stands there again. -/
def RepeatedAt {α : Type} (uses : List (String × α)) (i : Nat) : Prop :=
  ∃ before use after,
    uses = before ++ use :: after ∧ before.length = i ∧ use.1 ∈ Entries.keys before

namespace NameCollision

/-- A collision tells of a position of a row of uses: the name there, who used it last before, and
who uses it there. -/
def ReportsAt (uses : List (String × String)) (i : Nat) (col : NameCollision) : Prop :=
  ∃ before between after,
    uses = before ++ (col.name, col.existing.text) ::
        (between ++ (col.name, col.replacement.text) :: after) ∧
      col.name ∉ Entries.keys between ∧ i = before.length + 1 + between.length

/-- Collisions that tell of every repetition in a row of uses, once each and in order. -/
def ReportExactly (uses : List (String × String)) (cols : List NameCollision) : Prop :=
  ∃ positions : List Nat, positions.Pairwise (· < ·) ∧
    (∀ i, i ∈ positions ↔ RepeatedAt uses i) ∧ List.Forall₂ (ReportsAt uses) positions cols

/-- The uses with the wording of their users. -/
def worded (uses : List (String × Origin)) : List (String × String) :=
  uses.map fun u => (u.1, u.2.text)

theorem worded_append (xs ys : List (String × Origin)) :
    worded (xs ++ ys) = worded xs ++ worded ys :=
  List.map_append

theorem keys_worded (uses : List (String × Origin)) :
    Entries.keys (worded uses) = Entries.keys uses := by
  simp [worded, Entries.keys, Function.comp_def]

/-- One more use adds at most one collision, with the latest use of its name. -/
theorem against_concat (xs : List (String × Origin)) (u : String × Origin) :
    against [] (xs ++ [u]) =
      against [] xs ++
        ((Entries.get? u.1 xs.reverse).map fun existing => ⟨u.1, existing, u.2⟩).toList := by
  simp [against_append, against]

/-- Two uses of a name without a third one in between are reported. -/
theorem mem_against {before between after : List (String × Origin)} {name : String}
    (existing origin : Origin) (h : name ∉ Entries.keys between) :
    ⟨name, existing, origin⟩ ∈
      against [] (before ++ (name, existing) :: (between ++ (name, origin) :: after)) := by
  have hlast : Entries.get? name (before ++ (name, existing) :: between).reverse = some existing :=
    Entries.get?_reverse_eq_some_iff.mpr ⟨before, between, rfl, h⟩
  rw [← List.cons_append, ← List.append_assoc, against_append, List.append_nil, against, hlast]
  simp

theorem repeatedAt_lt {α : Type} {uses : List (String × α)} {i : Nat} (h : RepeatedAt uses i) :
    i < uses.length := by
  obtain ⟨before, use, after, rfl, rfl, -⟩ := h
  simp

theorem repeatedAt_concat {α : Type} {uses : List (String × α)} {u : String × α} {i : Nat} :
    RepeatedAt (uses ++ [u]) i ↔
      RepeatedAt uses i ∨ i = uses.length ∧ u.1 ∈ Entries.keys uses := by
  constructor
  · rintro ⟨before, use, after, he, hi, hk⟩
    rcases List.eq_nil_or_concat' after with rfl | ⟨after, last, rfl⟩
    · obtain ⟨rfl, hu⟩ := List.append_inj' he rfl
      obtain rfl := (List.cons.inj hu).1
      exact Or.inr ⟨hi.symm, hk⟩
    · have he' : uses ++ [u] = (before ++ use :: after) ++ [last] := by simpa using he
      obtain ⟨rfl, -⟩ := List.append_inj' he' rfl
      exact Or.inl ⟨before, use, after, rfl, hi, hk⟩
  · rintro (⟨before, use, after, rfl, hi, hk⟩ | ⟨rfl, hk⟩)
    · exact ⟨before, use, after ++ [u], by simp, hi, hk⟩
    · exact ⟨uses, u, [], rfl, rfl, hk⟩

theorem ReportsAt.append {uses : List (String × String)} {i : Nat} {col : NameCollision}
    (h : ReportsAt uses i col) (more : List (String × String)) :
    ReportsAt (uses ++ more) i col := by
  obtain ⟨before, between, after, rfl, hk, hi⟩ := h
  exact ⟨before, between, after ++ more, by simp, hk, hi⟩

/-- The latest earlier use of a name is what a collision with the next use tells of. -/
theorem reportsAt_concat {uses : List (String × Origin)} {name : String} {existing : Origin}
    (h : Entries.get? name uses.reverse = some existing) (origin : Origin) :
    ReportsAt (worded (uses ++ [(name, origin)])) uses.length ⟨name, existing, origin⟩ := by
  obtain ⟨before, between, rfl, hk⟩ := Entries.get?_reverse_eq_some_iff.mp h
  refine ⟨worded before, worded between, [], by simp [worded], by rwa [keys_worded], ?_⟩
  simp only [worded, List.length_append, List.length_cons, List.length_map]
  omega

/-- The collisions of a row of uses tell of every repetition, once each and in order. -/
theorem reportExactly_against (uses : List (String × Origin)) :
    ReportExactly (worded uses) (against [] uses) := by
  -- A use is reported against earlier ones only, so a row grows at its end.
  induction uses using List.reverseRecOn with
  | nil =>
      refine ⟨[], List.Pairwise.nil, fun i => ?_, List.Forall₂.nil⟩
      simp [worded, RepeatedAt]
  | append_singleton xs u ih =>
      obtain ⟨positions, hp, hm, hf⟩ := ih
      have hold : List.Forall₂ (ReportsAt (worded (xs ++ [u]))) positions (against [] xs) := by
        rw [worded_append]
        exact hf.imp fun _ _ h => h.append _
      have hmem : ∀ i, RepeatedAt (worded (xs ++ [u])) i ↔
          i ∈ positions ∨ i = xs.length ∧ u.1 ∈ Entries.keys xs := by
        intro i
        rw [hm, ← keys_worded, worded_append]
        simpa [worded] using @repeatedAt_concat _ (worded xs) (u.1, u.2.text) i
      rw [against_concat]
      cases hu : Entries.get? u.1 xs.reverse with
      | none =>
          have hk : u.1 ∉ Entries.keys xs := by
            rw [Entries.get?_eq_none_iff_not_mem, Entries.keys_reverse, List.mem_reverse] at hu
            exact hu
          exact ⟨positions, hp, fun i => by simp [hmem, hk], by simpa using hold⟩
      | some existing =>
          have hk : u.1 ∈ Entries.keys xs := by
            obtain ⟨before, after, rfl, -⟩ := Entries.get?_reverse_eq_some_iff.mp hu
            simp [Entries.keys]
          refine ⟨positions ++ [xs.length], ?_, fun i => by simp [hmem, hk], ?_⟩
          · rw [List.pairwise_append]
            refine ⟨hp, List.pairwise_singleton _ _, fun i hi j hj => ?_⟩
            rw [List.mem_singleton.mp hj]
            simpa [worded] using repeatedAt_lt ((hm i).mp hi)
          · exact List.rel_append hold (List.Forall₂.cons (reportsAt_concat hu u.2) .nil)

/-- The names of a map and the names used so far are the same. -/
def InStep {β : Type} (entries : List (String × β)) (earlier : List (String × Origin)) : Prop :=
  ∀ name, Entries.contains name entries = Entries.contains name earlier

/-- A write and the use of its name keep map and uses in step. -/
theorem InStep.write {β : Type} {entries : List (String × β)} {earlier : List (String × Origin)}
    (h : InStep entries earlier) (name : String) (value : β) (origin : Origin) :
    InStep (Entries.insert name value entries) ((name, origin) :: earlier) := by
  intro k
  rw [Entries.contains_insert, h k]
  by_cases hk : name == k <;> simp [Entries.contains, Entries.get?, hk]

/-- Every write of a row adds an entry or is reported as a collision. -/
theorem length_overlay_add_against {β : Type} {writes base : List (String × β)}
    {uses earlier : List (String × Origin)} (hk : Entries.keys writes = Entries.keys uses)
    (hs : InStep base earlier) :
    (Entries.overlay base writes).length + (against earlier uses).length =
      base.length + writes.length := by
  -- Map and uses change with each write, and stay in step.
  induction writes generalizing uses base earlier with
  | nil =>
      obtain rfl : uses = [] := List.map_eq_nil_iff.mp hk.symm
      simp [against]
  | cons w rest ih =>
      obtain ⟨name, value⟩ := w
      cases uses with
      | nil => cases hk
      | cons u uses =>
          obtain ⟨name', origin⟩ := u
          obtain ⟨rfl, hr⟩ : name = name' ∧ Entries.keys rest = Entries.keys uses := by
            simpa using hk
          have hrest := ih hr (hs.write name value origin)
          rw [Entries.length_insert, hs name] at hrest
          simp only [Entries.overlay_cons, against, List.length_append, List.length_cons]
          rw [Entries.contains] at hrest
          cases hc : Entries.get? name earlier with
          | none =>
              simp only [hc, Option.isSome_none, Bool.false_eq_true, ↓reduceIte] at hrest
              simp only [Option.map_none, Option.toList_none, List.length_nil]
              omega
          | some existing =>
              simp only [hc, Option.isSome_some, ↓reduceIte] at hrest
              simp only [Option.map_some, Option.toList_some, List.length_singleton]
              omega

/-- Names that differ from each other are not repeated while they stand first. -/
theorem length_le_of_repeatedAt {α : Type} {uses : List (String × α)} {first rest : List String}
    (hk : Entries.keys uses = first ++ rest) (hn : first.Nodup) {i : Nat}
    (h : RepeatedAt uses i) : first.length ≤ i := by
  obtain ⟨before, use, after, rfl, rfl, hm⟩ := h
  by_contra hlt
  have hprefix : Entries.keys before ++ [use.1] <+: first := by
    apply List.prefix_of_prefix_length_le ⟨Entries.keys after, ?_⟩ ⟨rest, hk.symm⟩
    · simp only [List.length_append, List.length_singleton, Entries.keys, List.length_map]
      omega
    · simp [Entries.keys]
  have hd := hprefix.sublist.nodup hn
  rw [List.nodup_append] at hd
  exact hd.2.2 use.1 hm use.1 (by simp) rfl

end NameCollision

namespace Specification

open NameCollision

namespace Compiled

variable {s : Specification} {o : Options} {c : Compilation}

theorem usedNames_worded (h : s.Compiled o c) : c.usedNames o.policy = worded (s.uses o) :=
  h.usedNames_eq

theorem length_usedNames (h : s.Compiled o c) :
    (s.resources o c.baseUrl).length = 3 + 2 * c.destinations.length := by
  have hl := congrArg List.length h.keys_usedNames
  rw [c.keys_usedNames, Entries.keys, List.length_map] at hl
  rw [← hl, List.length_append, List.length_flatMap]
  simp [Policy.sharedNames, Nat.mul_comm]

/-- Nothing is reported exactly if all generated names differ. -/
theorem collisions_eq_nil_iff (h : s.Compiled o c) :
    c.collisions = [] ↔ (Entries.keys (c.usedNames o.policy)).Nodup := by
  rw [h.usedNames_worded, keys_worded, h.collisions, Specification.collisions, against_eq_nil_iff]
  simp

/-- Every generated write adds a resource to the template, unless it is reported as a collision or
takes the place of a resource of the blueprint. -/
theorem length_resources (h : s.Compiled o c) :
    c.resources.length + c.collisions.length + c.replaced.length =
      o.blueprintResources.length + 3 + 2 * c.destinations.length := by
  have hmerge : (Entries.overlay o.blueprintResources (s.inventory o c.baseUrl).document).length +
      ((s.inventory o c.baseUrl).document.filter fun e =>
        Entries.contains e.1 o.blueprintResources).length =
      o.blueprintResources.length + (s.inventory o c.baseUrl).document.length :=
    Entries.length_overlay (fun _ he => Inventory.exact_of_mem_document he)
      (Inventory.nodup_keys_document (s.inventory o c.baseUrl))
  have hreplaced : ((s.inventory o c.baseUrl).document.filter fun e =>
      Entries.contains e.1 o.blueprintResources).length = c.replaced.length := by
    rw [h.replaced, Inventory.replacedNames_document]
    simp [Inventory.document, List.filter_map, OrderedMap.names, Entries.keys, Function.comp_def]
  have hwrites : (Entries.overlay [] (s.resources o c.baseUrl)).length +
      (against [] (s.uses o)).length = 0 + (s.resources o c.baseUrl).length :=
    length_overlay_add_against (keys_resources h.nodup c.baseUrl) fun _ => rfl
  have hdocument : (s.inventory o c.baseUrl).document.length =
      (Entries.overlay [] (s.resources o c.baseUrl)).length := by
    rw [Inventory.length_document, inventory, Inventory.names_grant, ungranted, OrderedMap.names,
      OrderedMap.entries_ofList, Entries.keys, List.length_map]
  have hcollisions : c.collisions.length = (against [] (s.uses o)).length := by
    rw [h.collisions, Specification.collisions]
  rw [h.length_usedNames] at hwrites
  rw [h.resources, Mapping.overlay]
  omega

end Compiled

/-- The report of collisions is exact: it tells of every repetition among the generated names, once
each and in order, always of an operation's use. Hence it is empty exactly if no name repeats, and
the number of resources follows from the lengths of the lists of the report. -/
theorem collisions_exact {s : Specification} {o : Options} {c : Compilation}
    (h : s.compile o = .ok c) :
    ReportExactly (c.usedNames o.policy) c.collisions ∧
      (∀ i, RepeatedAt (c.usedNames o.policy) i → 3 ≤ i) ∧
      (c.collisions = [] ↔ (Entries.keys (c.usedNames o.policy)).Nodup) ∧
      c.resources.length + c.collisions.length + c.replaced.length =
        o.blueprintResources.length + 3 + 2 * c.destinations.length := by
  have hc := compiled_of_compile h
  refine ⟨?_, fun i hi => ?_, hc.collisions_eq_nil_iff, hc.length_resources⟩
  · rw [hc.usedNames_worded, hc.collisions]
    exact reportExactly_against (s.uses o)
  · exact length_le_of_repeatedAt (c.keys_usedNames o.policy) hc.nodup hi

/-- A name with three users, a destination in place of a rule and one in place of the queue. -/
theorem collisions_exact_cacheApi :
    ∃ c, cacheApi.compile cacheOptions = .ok c ∧
      c.collisions =
        [⟨"ApiCacheGet", .shared, .operation "get" "/cache/\x7bname\x7d"⟩,
          ⟨"ApiCachePut", .operation "put" "/cache/\x7bname\x7d",
            .operation "put" "/cache/\x7bkey\x7d"⟩,
          ⟨"ApiCachePutPut", .operation "put" "/cache/\x7bname\x7d",
            .operation "put" "/cache/\x7bkey\x7d"⟩,
          ⟨"ApiCachePut", .operation "put" "/cache/\x7bkey\x7d", .operation "put" "/cache"⟩,
          ⟨"ApiCachePutPut", .operation "put" "/cache/\x7bkey\x7d", .operation "put" "/cache"⟩,
          ⟨"ApiCachePutPut", .operation "put" "/cache", .operation "put" "/cachePut"⟩] ∧
      ReportExactly (c.usedNames cacheOptions.policy) c.collisions ∧
      c.resources.length + c.collisions.length + c.replaced.length = 2 + 3 + 2 * 5 := by
  obtain ⟨c, h⟩ := exists_ok_of_isOk
    (by decide +kernel : (cacheApi.compile cacheOptions).isOk = true)
  have hc := compiled_of_compile h
  obtain ⟨hreport, -, -, hlength⟩ := collisions_exact h
  refine ⟨c, h, ?_, hreport, ?_⟩
  · rw [hc.collisions]
    decide +kernel
  · have hd : c.destinations.length = 5 := by
      rw [hc.destinations]
      decide +kernel
    have hb : cacheOptions.blueprintResources.length = 2 := by decide +kernel
    rw [hlength, hd, hb]

end Specification

end EventRouting
