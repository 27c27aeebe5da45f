import EventRouting.Proofs.CrossReference
import EventRouting.Proofs.Refusal

/-!
# The order of the paths

A description with its paths in another order fails with the same error, or it compiles to the same
report in another order. Which of several writers of a name wins does depend on the order, but how
many names are used again does not. So where no name is used twice, the resources are the same,
apart from the order of the destinations that the role may invoke.
-/

namespace EventRouting

namespace NameCollision

/-- Every use of a name is a new name or a collision. -/
theorem length_names_add_against (uses : List (String × Origin)) :
    (OrderedMap.ofList uses).names.length + (against [] uses).length = uses.length := by
  have hcount : (Entries.overlay [] uses).length + (against [] uses).length = 0 + uses.length :=
    length_overlay_add_against rfl fun _ => rfl
  rw [OrderedMap.names, OrderedMap.entries_ofList, Entries.keys, List.length_map]
  omega

/-- The order of the uses decides which collisions there are, but not how many. -/
theorem length_against_perm {uses uses' : List (String × Origin)} (h : uses.Perm uses') :
    (against [] uses).length = (against [] uses').length := by
  have hnames := (OrderedMap.names_ofList_perm h).length_eq
  have hcount := length_names_add_against uses
  have hcount' := length_names_add_against uses'
  have hlength := h.length_eq
  omega

end NameCollision

/-- The destinations of one path, in the order of its operations. -/
def PathItem.destinations (item : PathItem) (o : Options) (path : String) :
    List GeneratedDestination :=
  ((item.accepted o.methods path).filter AcceptedOperation.isGenerated).map
    (AcceptedOperation.destination o)

namespace Specification

theorem destinations_eq_flatMap (s : Specification) (o : Options) :
    s.destinations o = s.paths.flatMap fun p => p.2.destinations o p.1 := by
  rw [destinations, generated, accepted, List.filter_flatMap, List.map_flatMap]
  rfl

/-- The paths of two descriptions differ in their order, and the descriptions in nothing else. -/
structure Reordered (s s' : Specification) : Prop where
  info : s'.info = s.info
  servers : s'.servers = s.servers
  paths : s.paths.Perm s'.paths
  parameters : s'.parameters = s.parameters

namespace Reordered

variable {s s' : Specification} {o : Options}

theorem accepted (h : s.Reordered s') (methods : MethodSet) :
    (s.accepted methods).Perm (s'.accepted methods) :=
  h.paths.flatMap_right _

theorem generated (h : s.Reordered s') (methods : MethodSet) :
    (s.generated methods).Perm (s'.generated methods) :=
  (h.accepted methods).filter _

theorem destinations (h : s.Reordered s') (o : Options) :
    (s.destinations o).Perm (s'.destinations o) :=
  (h.generated o.methods).map _

theorem skipped (h : s.Reordered s') (o : Options) : (s.skipped o).Perm (s'.skipped o) :=
  ((h.accepted o.methods).filter _).map _

theorem unresolved (h : s.Reordered s') (o : Options) :
    (s.unresolved o).Perm (s'.unresolved o) := by
  have hdeclared : s'.declaredParameters = s.declaredParameters := by
    rw [declaredParameters, declaredParameters, h.parameters]
  rw [Specification.unresolved, Specification.unresolved, hdeclared]
  exact h.paths.flatMap_right _

theorem length_collisions (h : s.Reordered s') (o : Options) :
    (s.collisions o).length = (s'.collisions o).length := by
  apply NameCollision.length_against_perm
  exact ((h.generated o.methods).flatMap_right _).append_left _

theorem resources (h : s.Reordered s') (o : Options) (baseUrl : String) :
    (s.resources o baseUrl).Perm (s'.resources o baseUrl) := by
  have hreusable : s'.reusableQuery = s.reusableQuery := by
    rw [reusableQuery, reusableQuery, h.parameters]
  rw [Specification.resources, Specification.resources, hreusable]
  exact ((h.generated o.methods).flatMap_right _).append_left _

/-- The names of the generated resources are the same, in some order. -/
theorem names_inventory (h : s.Reordered s') (o : Options) (baseUrl : String) :
    (s.inventory o baseUrl).names.Perm (s'.inventory o baseUrl).names := by
  rw [inventory, inventory, Inventory.names_grant, Inventory.names_grant]
  exact OrderedMap.names_ofList_perm (h.resources o baseUrl)

end Reordered

/-- Where no name repeats, the inventory holds what was written, apart from the role. -/
theorem get?_inventory_eq_some_iff {s : Specification} {o : Options} {baseUrl : String}
    (hk : (Entries.keys (s.resources o baseUrl)).Nodup) {name : String}
    (hname : name ≠ o.policy.roleName) {r : Resource} :
    (s.inventory o baseUrl).get? name = some r ↔ (name, r) ∈ s.resources o baseUrl := by
  rw [get?_inventory, Entries.get?_reverse_of_nodup hk, ← Entries.get?_eq_some_iff_mem hk]
  simp [hname]

namespace Reordered

variable {s s' : Specification} {o : Options} {baseUrl : String}

theorem nodup_keys_resources (h : s.Reordered s')
    (hk : (Entries.keys (s.resources o baseUrl)).Nodup) :
    (Entries.keys (s'.resources o baseUrl)).Nodup :=
  ((h.resources o baseUrl).map Prod.fst).nodup_iff.mp hk

/-- Where no name repeats, both inventories hold the same, apart from the role. -/
theorem get?_inventory (h : s.Reordered s') (hk : (Entries.keys (s.resources o baseUrl)).Nodup)
    {name : String} (hname : name ≠ o.policy.roleName) :
    (s.inventory o baseUrl).get? name = (s'.inventory o baseUrl).get? name := by
  apply Option.ext
  intro r
  rw [get?_inventory_eq_some_iff hk hname,
    get?_inventory_eq_some_iff (h.nodup_keys_resources hk) hname]
  exact (h.resources o baseUrl).mem_iff

end Reordered

end Specification

namespace Inventory

/-- What is no text is no name of a document. -/
theorem get?_reverse_document_of_ne_string (m : Inventory) {k : Value}
    (hk : ∀ name, k ≠ .string name) : Entries.get? k m.document.reverse = none := by
  rw [Entries.get?_eq_none_iff, Entries.keys_reverse, keys_document]
  intro k' hk'
  obtain ⟨name, -, rfl⟩ := List.mem_map.mp (List.mem_reverse.mp hk')
  apply Bool.eq_false_iff.mpr
  intro he
  exact hk name (Value.string_beq_iff.mp he).symm

end Inventory

namespace Specification

namespace Compiled

variable {s s' : Specification} {o : Options} {c c' : Compilation}

theorem baseUrl_eq (h : s.Compiled o c) (h' : s'.Compiled o c') (hs : s'.servers = s.servers) :
    c.baseUrl = c'.baseUrl := by
  have hu' := h'.baseUrl
  rw [hs] at hu'
  exact Except.ok.inj (h.baseUrl.symm.trans hu')

/-- The keys of a template's resources: those of the blueprint, and the new names behind them. -/
theorem keys_templateResources (h : s.Compiled o c) :
    Entries.keys c.resources = Entries.keys o.blueprintResources ++
      ((s.inventory o c.baseUrl).names.map .string).filter fun k =>
        !Entries.contains k o.blueprintResources := by
  rw [h.resources, Mapping.overlay, Entries.keys_overlay
    (fun _ he => Inventory.exact_of_mem_document he) (Inventory.nodup_keys_document _),
    Inventory.keys_document]

/-- A key that is no name has the value that it has in the blueprint. -/
theorem get?_resources_of_ne_string (h : s.Compiled o c) {k : Value}
    (hk : ∀ name, k ≠ .string name) :
    Entries.get? k c.resources = Entries.get? k o.blueprintResources := by
  rw [h.resources, Mapping.overlay,
    Entries.get?_overlay fun _ he => Inventory.exact_of_mem_document he,
    Inventory.get?_reverse_document_of_ne_string _ hk, Option.none_or]

/-- Where no name repeats, the role may invoke the destinations of the report. -/
theorem resource?_role (h : s.Compiled o c)
    (hk : (Entries.keys (s.resources o c.baseUrl)).Nodup) :
    c.resource? o.policy.roleName = some (Resource.role
      (ExecutionRole.forEvents.grant (c.destinations.map (·.name)))).document := by
  apply h.resource?_of_inventory
  apply h.get?_inventory_role
  rw [resources_eq h.nodup, Entries.keys_append, Policy.keys_sharedResources,
    List.nodup_append] at hk
  intro hm
  exact hk.2.2 o.policy.roleName List.mem_cons_self o.policy.roleName hm rfl

theorem nodup_keys_of_collisions_eq_nil (h : s.Compiled o c) (hnil : c.collisions = []) :
    (Entries.keys (s.resources o c.baseUrl)).Nodup :=
  h.keys_usedNames ▸ h.collisions_eq_nil_iff.mp hnil

end Compiled

namespace Reordered

variable {s s' : Specification} {o : Options} {c c' : Compilation}

/-- Both templates have the same keys, in some order. -/
theorem keys_templateResources (h : s.Reordered s') (hc : s.Compiled o c) (hc' : s'.Compiled o c') :
    (Entries.keys c.resources).Perm (Entries.keys c'.resources) := by
  rw [hc.keys_templateResources, hc'.keys_templateResources, hc.baseUrl_eq hc' h.servers]
  exact (((h.names_inventory o c'.baseUrl).map _).filter _).append_left _

/-- Where no name repeats, both templates have the same values, apart from the role. -/
theorem get?_resources (h : s.Reordered s') (hc : s.Compiled o c) (hc' : s'.Compiled o c')
    (hk : (Entries.keys (s.resources o c.baseUrl)).Nodup) {k : Value}
    (hne : k ≠ .string o.policy.roleName) :
    Entries.get? k c.resources = Entries.get? k c'.resources := by
  by_cases hs : ∃ name, k = .string name
  · obtain ⟨name, rfl⟩ := hs
    have hname : name ≠ o.policy.roleName := fun he => hne (he ▸ rfl)
    have hr := hc.resource?_eq name
    have hr' := hc'.resource?_eq name
    rw [h.get?_inventory hk hname, hc.baseUrl_eq hc' h.servers] at hr
    exact hr.trans hr'.symm
  · have hk : ∀ name, k ≠ .string name := fun name he => hs ⟨name, he⟩
    rw [hc.get?_resources_of_ne_string hk, hc'.get?_resources_of_ne_string hk]

end Reordered

/-- The order of the paths decides neither whether a compilation fails nor with what. It decides the
order of the report, but not what is in it, and not how many names are used again. If none is, the
templates hold the same resources: only the destinations that the role may invoke stand in another
order, path by path as in the descriptions. -/
theorem order_of_paths {s s' : Specification} (h : s.Reordered s') (o : Options) :
    (∀ e, s.compile o = .error e ↔ s'.compile o = .error e) ∧
      ∀ c c', s.compile o = .ok c → s'.compile o = .ok c' →
        c.collisions.length = c'.collisions.length ∧
        c.destinations.Perm c'.destinations ∧
        c.skipped.Perm c'.skipped ∧
        c.unresolved.Perm c'.unresolved ∧
        (Entries.keys c.resources).Perm (Entries.keys c'.resources) ∧
        c.destinations = (s.paths.flatMap fun p => p.2.destinations o p.1) ∧
        c'.destinations = (s'.paths.flatMap fun p => p.2.destinations o p.1) ∧
        (c.collisions = [] →
          c'.collisions = [] ∧
          (∀ k, k ≠ .string o.policy.roleName →
            Entries.get? k c.resources = Entries.get? k c'.resources) ∧
          c.resource? o.policy.roleName = some (Resource.role
            (ExecutionRole.forEvents.grant (c.destinations.map (·.name)))).document ∧
          c'.resource? o.policy.roleName = some (Resource.role
            (ExecutionRole.forEvents.grant (c'.destinations.map (·.name)))).document) := by
  constructor
  · intro e
    rw [compile_eq_error_iff, compile_eq_error_iff, h.servers]
  · intro c c' hcompile hcompile'
    have hc := compiled_of_compile hcompile
    have hc' := compiled_of_compile hcompile'
    have hlength : c.collisions.length = c'.collisions.length := by
      rw [hc.collisions, hc'.collisions]
      exact h.length_collisions o
    refine ⟨hlength, ?_, ?_, ?_, h.keys_templateResources hc hc', ?_, ?_, ?_⟩
    · rw [hc.destinations, hc'.destinations]
      exact h.destinations o
    · rw [skipped_of_compile hcompile, skipped_of_compile hcompile']
      exact h.skipped o
    · rw [unresolved_of_compile hcompile, unresolved_of_compile hcompile']
      exact h.unresolved o
    · rw [hc.destinations, destinations_eq_flatMap]
    · rw [hc'.destinations, destinations_eq_flatMap]
    · intro hnil
      have hnil' : c'.collisions = [] := by
        apply List.eq_nil_of_length_eq_zero
        rw [← hlength, hnil, List.length_nil]
      have hk := hc.nodup_keys_of_collisions_eq_nil hnil
      have hk' := hc'.nodup_keys_of_collisions_eq_nil hnil'
      exact ⟨hnil', fun k hne => h.get?_resources hc hc' hk hne, hc.resource?_role hk,
        hc'.resource?_role hk'⟩

/-- The cache, with its paths from behind. -/
def reversedApi : Specification :=
  { cacheApi with paths := cacheApi.paths.reverse }

/-- From behind other operations win the names that three of them use, but as many names are used
again. Where all names differ, the role may invoke the same destinations from behind. -/
theorem order_of_paths_reversedApi :
    cacheApi.Reordered reversedApi ∧
      (∃ c c', cacheApi.compile cacheOptions = .ok c ∧ reversedApi.compile cacheOptions = .ok c' ∧
        c.collisions.length = 6 ∧ c'.collisions.length = 6 ∧ c.destinations ≠ c'.destinations ∧
        c.destinations.Perm c'.destinations) ∧
      ∃ c c', cacheApi.compile distinctOptions = .ok c ∧
        reversedApi.compile distinctOptions = .ok c' ∧
        Entries.get? (.string "ApiTopicsPostRule") c.resources =
          Entries.get? (.string "ApiTopicsPostRule") c'.resources ∧
        c.resource? "ApiDestinationsTargetRole" = some (Resource.role
          (ExecutionRole.forEvents.grant ["ApiCacheGet", "ApiTopicsPost"])).document ∧
        c'.resource? "ApiDestinationsTargetRole" = some (Resource.role
          (ExecutionRole.forEvents.grant ["ApiTopicsPost", "ApiCacheGet"])).document := by
  have h : cacheApi.Reordered reversedApi := ⟨rfl, rfl, (List.reverse_perm _).symm, rfl⟩
  refine ⟨h, ?_, ?_⟩
  · obtain ⟨c, hc⟩ := exists_ok_of_isOk
      (by decide +kernel : (cacheApi.compile cacheOptions).isOk = true)
    obtain ⟨c', hc'⟩ := exists_ok_of_isOk
      (by decide +kernel : (reversedApi.compile cacheOptions).isOk = true)
    obtain ⟨hlength, hperm, -⟩ := (order_of_paths h cacheOptions).2 c c' hc hc'
    have hsix : c.collisions.length = 6 := by
      rw [(compiled_of_compile hc).collisions]
      decide +kernel
    refine ⟨c, c', hc, hc', hsix, hlength ▸ hsix, ?_, hperm⟩
    rw [(compiled_of_compile hc).destinations, (compiled_of_compile hc').destinations]
    decide +kernel
  · obtain ⟨c, hc⟩ := exists_ok_of_isOk
      (by decide +kernel : (cacheApi.compile distinctOptions).isOk = true)
    obtain ⟨c', hc'⟩ := exists_ok_of_isOk
      (by decide +kernel : (reversedApi.compile distinctOptions).isOk = true)
    have hnil : c.collisions = [] := by
      rw [(compiled_of_compile hc).collisions]
      decide +kernel
    have hnames : c.destinations.map (·.name) = ["ApiCacheGet", "ApiTopicsPost"] := by
      rw [(compiled_of_compile hc).destinations]
      decide +kernel
    have hnames' : c'.destinations.map (·.name) = ["ApiTopicsPost", "ApiCacheGet"] := by
      rw [(compiled_of_compile hc').destinations]
      decide +kernel
    obtain ⟨-, -, -, -, -, -, -, hdistinct⟩ := (order_of_paths h distinctOptions).2 c c' hc hc'
    obtain ⟨-, hvalues, hrole, hrole'⟩ := hdistinct hnil
    rw [hnames] at hrole
    rw [hnames'] at hrole'
    exact ⟨c, c', hc, hc', hvalues _ (by simp [distinctOptions]), hrole, hrole'⟩

end Specification

end EventRouting
