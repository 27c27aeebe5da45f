import EventRouting.Command.Summary
import EventRouting.Proofs.Refusal

/-!
# Independence of the blueprint

The blueprint decides where generated resources are put, and nothing else. Under two blueprints the
report is the same, and so is every generated resource, whatever stood under its name before. Hence
a description may be validated without the blueprint that it will be merged into.
-/

namespace EventRouting

/-- Two compilations tell the same about the description. -/
structure Compilation.SameReport (c c' : Compilation) : Prop where
  baseUrl : c.baseUrl = c'.baseUrl
  destinations : c.destinations = c'.destinations
  skipped : c.skipped = c'.skipped
  collisions : c.collisions = c'.collisions
  unresolved : c.unresolved = c'.unresolved

/-- The summary shows nothing of a template. -/
theorem Compilation.SameReport.summary {c c' : Compilation} (h : c.SameReport c') :
    c.summary = c'.summary := by
  simp only [Compilation.summary, destinationLines, collisionLines, verdict, h.baseUrl,
    h.destinations, h.skipped, h.collisions, h.unresolved]

namespace Specification

variable {s : Specification} {o : Options} {b b' : Option Value} {c c' : Compilation}

theorem sameReport_of_compile (h : s.compile { o with blueprint := b } = .ok c)
    (h' : s.compile { o with blueprint := b' } = .ok c') : c.SameReport c' := by
  obtain ⟨url, merged, -, hu, -, rfl⟩ := compile_eq_ok_iff.mp h
  obtain ⟨url', merged', -, hu', -, rfl⟩ := compile_eq_ok_iff.mp h'
  exact ⟨Except.ok.inj (hu.symm.trans hu'), rfl, rfl, rfl, rfl⟩

/-- Without its blueprint a description can be compiled as well. -/
theorem exists_compile_none (h : s.compile { o with blueprint := b } = .ok c) :
    ∃ c₀, s.compile { o with blueprint := none } = .ok c₀ := by
  obtain ⟨url, -, hv, hu, -, -⟩ := compile_eq_ok_iff.mp h
  rw [exists_ok_iff]
  intro e he
  obtain fault | ⟨-, missing⟩ | ⟨-, -, given, -⟩ := compile_eq_error_iff.mp he
  · exact Policy.validate_eq_ok_iff.mp hv (Policy.invalid_iff.mpr ⟨_, fault⟩)
  · exact BaseUrl.exists_resolve_iff.mp ⟨url, hu⟩ _ missing
  · cases given

/-- Two compilations that differ in their blueprints make the same report and generate the same
resources: under each generated name both templates have the same value. The summary is also that
of the compilation without a blueprint. -/
theorem blueprint_independent (h : s.compile { o with blueprint := b } = .ok c)
    (h' : s.compile { o with blueprint := b' } = .ok c') :
    c.SameReport c' ∧
      (s.inventory { o with blueprint := b } c.baseUrl).names =
        (s.inventory { o with blueprint := b' } c'.baseUrl).names ∧
      (∀ name ∈ (s.inventory { o with blueprint := b } c.baseUrl).names,
        ∃ v, c.resource? name = some v ∧ c'.resource? name = some v) ∧
      ∃ c₀, s.compile { o with blueprint := none } = .ok c₀ ∧ c₀.summary = c.summary := by
  have hsame := sameReport_of_compile h h'
  have hinventory : s.inventory { o with blueprint := b } c.baseUrl =
      s.inventory { o with blueprint := b' } c'.baseUrl := by
    rw [hsame.baseUrl]
    rfl
  obtain ⟨c₀, h₀⟩ := exists_compile_none h
  refine ⟨hsame, congrArg OrderedMap.names hinventory, fun name hm => ?_,
    c₀, h₀, (sameReport_of_compile h₀ h).summary⟩
  rw [OrderedMap.mem_names_iff, OrderedMap.contains, Option.isSome_iff_exists] at hm
  obtain ⟨r, hr⟩ := hm
  exact ⟨r.document, (compiled_of_compile h).resource?_of_inventory hr,
    (compiled_of_compile h').resource?_of_inventory (hinventory ▸ hr)⟩

/-- A blueprint that holds something under a generated name leaves no trace there. -/
theorem blueprint_independent_cacheApi :
    ∃ c c' v, cacheApi.compile cacheOptions = .ok c ∧
      cacheApi.compile { cacheOptions with blueprint := none } = .ok c' ∧ c.SameReport c' ∧
      Entries.get? (.string "ApiCachePut") cacheOptions.blueprintResources = some .null ∧
      c.resource? "ApiCachePut" = some v ∧ c'.resource? "ApiCachePut" = some v ∧
      c.summary = c'.summary := by
  obtain ⟨c, h⟩ := exists_ok_of_isOk (x := cacheApi.compile
    { cacheOptions with blueprint := cacheOptions.blueprint }) (by decide +kernel)
  obtain ⟨c', h'⟩ := exists_ok_of_isOk (x := cacheApi.compile
    { cacheOptions with blueprint := none }) (by decide +kernel)
  obtain ⟨hsame, -, hvalues, -⟩ := blueprint_independent h h'
  have hname : "ApiCachePut" ∈ Entries.keys (cacheApi.resources cacheOptions c.baseUrl) := by
    rw [keys_resources (compiled_of_compile h).nodup]
    decide +kernel
  obtain ⟨v, hv, hv'⟩ := hvalues "ApiCachePut" (mem_names_inventory.mpr hname)
  refine ⟨c, c', v, h, h', hsame, ?_, hv, hv', hsame.summary⟩
  simp [Options.blueprintResources, cacheOptions, Blueprint.held, Value.record, Value.field?,
    Value.entries?, Entries.get?]

end Specification

end EventRouting
