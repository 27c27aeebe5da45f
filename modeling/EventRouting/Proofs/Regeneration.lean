import EventRouting.Proofs.MergeFrame

/-!
# Regeneration

A template may be the blueprint of the next compilation. However many compilations follow one
another, the template at the end is the first blueprint, merged once with the sections of all of
them overlaid in their order. Hence the last one may be repeated without any effect.
-/

namespace EventRouting

namespace Mapping

theorem overlay_overlay {mid top : Mapping} (hm : Entries.Distinct mid)
    (ht : Entries.Distinct top) (base : Mapping) :
    (base.overlay mid).overlay top = base.overlay (mid.overlay top) :=
  Entries.overlay_overlay hm ht.exact base

theorem distinct_overlay {base top : Mapping} (hb : Entries.Distinct base)
    (ht : Entries.Distinct top) : Entries.Distinct (base.overlay top) :=
  hb.overlay ht.exact

/-- A row of overlays may begin at its second member. -/
theorem overlay_foldl {first second : Mapping} (h : Entries.Distinct second) {rest : List Mapping}
    (hr : ∀ r ∈ rest, Entries.Distinct r) :
    first.overlay (rest.foldl overlay second) = rest.foldl overlay (first.overlay second) := by
  induction rest generalizing second with
  | nil => rfl
  | cons r rest ih =>
      have hfirst : Entries.Distinct r := hr r (by simp)
      rw [List.foldl_cons, List.foldl_cons, overlay_overlay h hfirst,
        ih (distinct_overlay h hfirst) fun x hx => hr x (by simp [hx])]

theorem distinct_foldl {first : Mapping} (h : Entries.Distinct first) {rest : List Mapping}
    (hr : ∀ r ∈ rest, Entries.Distinct r) : Entries.Distinct (rest.foldl overlay first) := by
  induction rest generalizing first with
  | nil => exact h
  | cons r rest ih =>
      exact ih (distinct_overlay h (hr r (by simp))) fun x hx => hr x (by simp [hx])

end Mapping

namespace Blueprint

/-- Two merges are one, with the second section over the first. -/
theorem template_merge_merge {b : Value} {r r' : Mapping} {merged : Merged}
    (h : merge b r = .ok merged) (hr : Entries.Distinct r) (hr' : Entries.Distinct r') :
    (merge merged.template r').map Merged.template =
      (merge b (r.overlay r')).map Merged.template := by
  obtain ⟨sections, old, hs, ho, rfl⟩ := merge_eq_ok_iff.mp h
  have hheld : resources
      (Entries.insert resourcesKey (.mapping (old.overlay r)) sections) = .ok (old.overlay r) := by
    rw [resources, resourcesKey, Entries.get?_insert_self]
  rw [merge_eq_ok_iff.mpr ⟨_, _, rfl, hheld, rfl⟩, merge_eq_ok_iff.mpr ⟨_, _, hs, ho, rfl⟩]
  simp [Except.map, resourcesKey, Entries.insert_insert_self, Mapping.overlay_overlay hr hr']

/-- Merging a row of sections after another one is merging the longer row. -/
theorem template_merge_foldl {b : Value} {r r' : Mapping} {rs : List Mapping} {merged : Merged}
    (h : merge b r = .ok merged) (hd : ∀ x ∈ r :: r' :: rs, Entries.Distinct x) :
    (merge merged.template (rs.foldl Mapping.overlay r')).map Merged.template =
      (merge b ((r' :: rs).foldl Mapping.overlay r)).map Merged.template := by
  have hr : Entries.Distinct r := hd r (by simp)
  have hr' : Entries.Distinct r' := hd r' (by simp)
  have hrs : ∀ x ∈ rs, Entries.Distinct x := fun x hx => hd x (by simp [hx])
  rw [template_merge_merge h hr (Mapping.distinct_foldl hr' hrs), Mapping.overlay_foldl hr' hrs,
    List.foldl_cons]

/-- Whether something can be merged depends on the blueprint alone. -/
theorem exists_merge {b : Value} {r : Mapping} {merged : Merged} (h : merge b r = .ok merged)
    (r' : Mapping) : ∃ merged', merge b r' = .ok merged' := by
  obtain ⟨sections, old, hs, ho, -⟩ := merge_eq_ok_iff.mp h
  exact ⟨_, merge_eq_ok_iff.mpr ⟨sections, old, hs, ho, rfl⟩⟩

/-- A section that was merged last may be merged again without effect. -/
theorem template_merge_again {b : Value} {r : Mapping} {merged : Merged}
    (h : merge b r = .ok merged) (hr : Entries.Distinct r) :
    (merge merged.template r).map Merged.template = .ok merged.template := by
  have hself : r.overlay r = r :=
    Entries.overlay_eq_self fun _ he => by
      have := hr.exact _ he
      exact (Entries.get?_eq_some_iff_mem hr.nodup).mpr he
  rw [template_merge_merge h hr hr, hself, h]
  rfl

end Blueprint

namespace Inventory

theorem distinct_document (m : Inventory) : Entries.Distinct m.document :=
  ⟨fun _ he => exact_of_mem_document he, nodup_keys_document m⟩

end Inventory

/-- A compilation that waits for its blueprint: that of its own options does not count. -/
structure Generation where
  specification : Specification
  options : Options

namespace Generation

/-- Compiles, with a template as the blueprint. -/
def compile (g : Generation) (blueprint : Value) : Except CompilationError Compilation :=
  g.specification.compile { g.options with blueprint := some blueprint }

/-- The section of resources that is generated, whatever it is merged into. -/
def section? (g : Generation) : Except CompilationError Mapping := do
  g.options.policy.validate.mapError .policy
  let baseUrl ←
    (BaseUrl.resolve g.specification.servers g.options.environment).mapError .server
  return (g.specification.inventory g.options baseUrl).document

/-- Compiles one after the other, each with the template of the one before as its blueprint. -/
def chain (blueprint : Value) : List Generation → Except CompilationError Value
  | [] => .ok blueprint
  | g :: rest => do chain (← g.compile blueprint).template rest

theorem section_eq_ok_iff {g : Generation} {r : Mapping} :
    g.section? = .ok r ↔
      ∃ baseUrl, g.options.policy.validate = .ok () ∧
        BaseUrl.resolve g.specification.servers g.options.environment = .ok baseUrl ∧
        (g.specification.inventory g.options baseUrl).document = r := by
  unfold section?
  constructor
  · intro h
    obtain ⟨_, hv, h⟩ := bind_eq_ok.mp h
    obtain ⟨baseUrl, hb, h⟩ := bind_eq_ok.mp h
    exact ⟨baseUrl, mapError_eq_ok.mp hv, mapError_eq_ok.mp hb, Except.ok.inj h⟩
  · rintro ⟨baseUrl, hv, hb, rfl⟩
    exact bind_eq_ok.mpr ⟨(), mapError_eq_ok.mpr hv,
      bind_eq_ok.mpr ⟨baseUrl, mapError_eq_ok.mpr hb, rfl⟩⟩

theorem distinct_section {g : Generation} {r : Mapping} (h : g.section? = .ok r) :
    Entries.Distinct r := by
  obtain ⟨baseUrl, -, -, rfl⟩ := section_eq_ok_iff.mp h
  exact Inventory.distinct_document _

/-- A compilation generates its section and merges it into the blueprint, and no other step of it
can fail. -/
theorem compile_iff {g : Generation} {b t : Value} :
    (∃ c, g.compile b = .ok c ∧ c.template = t) ↔
      ∃ r, g.section? = .ok r ∧ (Blueprint.merge b r).map Merged.template = .ok t := by
  unfold compile
  constructor
  · rintro ⟨c, h, rfl⟩
    obtain ⟨baseUrl, merged, hv, hb, hm, rfl⟩ := Specification.compile_eq_ok_iff.mp h
    exact ⟨_, section_eq_ok_iff.mpr ⟨baseUrl, hv, hb, rfl⟩, map_eq_ok.mpr ⟨merged, hm, rfl⟩⟩
  · rintro ⟨r, hr, ht⟩
    obtain ⟨baseUrl, hv, hb, rfl⟩ := section_eq_ok_iff.mp hr
    obtain ⟨merged, hm, rfl⟩ := map_eq_ok.mp ht
    exact ⟨_, Specification.compile_eq_ok_iff.mpr ⟨baseUrl, merged, hv, hb, hm, rfl⟩, rfl⟩

/-- The sections that are generated one after the other. -/
def Sections (gs : List Generation) (rs : List Mapping) : Prop :=
  List.Forall₂ (fun g r => g.section? = .ok r) gs rs

theorem Sections.distinct {gs : List Generation} {rs : List Mapping} (h : Sections gs rs) :
    ∀ r ∈ rs, Entries.Distinct r := by
  induction h with
  | nil => simp
  | cons hr _ ih =>
      intro r hm
      rcases List.mem_cons.mp hm with rfl | hm
      · exact distinct_section hr
      · exact ih r hm

theorem chain_cons_iff {g : Generation} {gs : List Generation} {b t : Value} :
    chain b (g :: gs) = .ok t ↔
      ∃ r merged, g.section? = .ok r ∧ Blueprint.merge b r = .ok merged ∧
        chain merged.template gs = .ok t := by
  constructor
  · intro h
    obtain ⟨c, hc, ht⟩ := bind_eq_ok.mp h
    obtain ⟨r, hr, hm⟩ := compile_iff.mp ⟨c, hc, rfl⟩
    obtain ⟨merged, hm, he⟩ := map_eq_ok.mp hm
    exact ⟨r, merged, hr, hm, he ▸ ht⟩
  · rintro ⟨r, merged, hr, hm, ht⟩
    obtain ⟨c, hc, he⟩ := compile_iff.mpr ⟨r, hr, map_eq_ok.mpr ⟨merged, hm, rfl⟩⟩
    exact bind_eq_ok.mpr ⟨c, hc, he ▸ ht⟩

theorem chain_append_iff {gs gs' : List Generation} {b t : Value} :
    chain b (gs ++ gs') = .ok t ↔ ∃ t', chain b gs = .ok t' ∧ chain t' gs' = .ok t := by
  induction gs generalizing b with
  | nil => simp [chain]
  | cons g gs ih =>
      simp only [List.cons_append, chain_cons_iff, ih]
      constructor
      · rintro ⟨r, merged, hr, hm, t', hfirst, hrest⟩
        exact ⟨t', ⟨r, merged, hr, hm, hfirst⟩, hrest⟩
      · rintro ⟨t', ⟨r, merged, hr, hm, hfirst⟩, hrest⟩
        exact ⟨r, merged, hr, hm, t', hfirst, hrest⟩

/-- A row of compilations is one merge, with all sections overlaid in their order. -/
theorem chain_iff {g : Generation} {gs : List Generation} {b t : Value} :
    chain b (g :: gs) = .ok t ↔
      ∃ r rs, Sections (g :: gs) (r :: rs) ∧
        (Blueprint.merge b (rs.foldl Mapping.overlay r)).map Merged.template = .ok t := by
  induction gs generalizing g b with
  | nil =>
      rw [chain_cons_iff]
      constructor
      · rintro ⟨r, merged, hr, hm, ht⟩
        exact ⟨r, [], .cons hr .nil, map_eq_ok.mpr ⟨merged, hm, Except.ok.inj ht⟩⟩
      · rintro ⟨r, rs, hs, ht⟩
        obtain _ | ⟨hr, _ | _⟩ := hs
        obtain ⟨merged, hm, rfl⟩ := map_eq_ok.mp ht
        exact ⟨r, merged, hr, hm, rfl⟩
  | cons g' gs ih =>
      rw [chain_cons_iff]
      constructor
      · rintro ⟨r, merged, hr, hm, ht⟩
        obtain ⟨r', rs, hs, ht⟩ := ih.mp ht
        have hall : Sections (g :: g' :: gs) (r :: r' :: rs) := .cons hr hs
        exact ⟨r, r' :: rs, hall, (Blueprint.template_merge_foldl hm hall.distinct) ▸ ht⟩
      · rintro ⟨r, _, hall, ht⟩
        have hd := hall.distinct
        obtain _ | ⟨hr, hs⟩ := hall
        obtain _ | ⟨hr', hs'⟩ := hs
        obtain ⟨merged', hm', -⟩ := map_eq_ok.mp ht
        obtain ⟨merged, hm⟩ := Blueprint.exists_merge hm' r
        exact ⟨r, merged, hr, hm, ih.mpr ⟨_, _, .cons hr' hs',
          (Blueprint.template_merge_foldl hm hd).trans ht⟩⟩

/-- A compilation that is repeated replaces all that it generates. -/
theorem replaced_of_compile_again {g : Generation} {b : Value} {c c' : Compilation}
    (h : g.compile b = .ok c) (h' : g.compile c.template = .ok c') :
    c'.replaced = (g.specification.inventory g.options c'.baseUrl).names := by
  have hc := Specification.compiled_of_compile h
  have hc' := Specification.compiled_of_compile h'
  have hurl : c.baseUrl = c'.baseUrl := Except.ok.inj (hc.baseUrl.symm.trans hc'.baseUrl)
  have hr : c.resources = (Blueprint.held b).overlay
      (g.specification.inventory g.options c'.baseUrl).document := hurl ▸ hc.resources
  have hreplaced : c'.replaced = c.resources.replacedNames
      (g.specification.inventory g.options c'.baseUrl).document := hc'.replaced
  rw [hreplaced, Inventory.replacedNames_document, List.filter_eq_self]
  intro name hname
  obtain ⟨e, he, rfl⟩ := List.mem_map.mp hname
  have hm : (.string e.1, e.2.document) ∈
      (g.specification.inventory g.options c'.baseUrl).document := List.mem_map_of_mem he
  rw [hr, Mapping.overlay, Entries.contains,
    Entries.get?_overlay_of_mem (Inventory.distinct_document _) hm, Option.isSome_some]

/-- The generated names stand in the order in which they were first used. -/
theorem names_inventory {g : Generation} {b : Value} {c : Compilation}
    (h : g.compile b = .ok c) :
    (g.specification.inventory g.options c.baseUrl).names =
      (Entries.keys (c.usedNames g.options.policy)).eraseDups := by
  have hk : Entries.keys (c.usedNames g.options.policy) =
      Entries.keys (g.specification.resources g.options c.baseUrl) :=
    (Specification.compiled_of_compile h).keys_usedNames
  rw [hk, Specification.inventory, Inventory.names_grant, Specification.ungranted,
    OrderedMap.names, OrderedMap.entries_ofList, Entries.keys_overlay_nil]

/-- The template at the end of a row of compilations is the blueprint at its beginning, merged once
with all sections overlaid in their order. The last compilation may be repeated: it changes nothing
and replaces every name that it uses, once each and in the order of their first use. -/
theorem chain_collapses {gs : List Generation} {last : Generation} {b t : Value}
    (h : chain b (gs ++ [last]) = .ok t) :
    (∃ r rs, Sections (gs ++ [last]) (r :: rs) ∧
      (Blueprint.merge b (rs.foldl Mapping.overlay r)).map Merged.template = .ok t) ∧
    (∀ n, chain t (List.replicate n last) = .ok t) ∧
    ∃ c, last.compile t = .ok c ∧ c.template = t ∧
      c.replaced = (Entries.keys (c.usedNames last.options.policy)).eraseDups ∧
      c.replaced.Nodup := by
  obtain ⟨t', hbefore, hlast⟩ := chain_append_iff.mp h
  obtain ⟨c, hc, ht⟩ := bind_eq_ok.mp hlast
  obtain rfl := Except.ok.inj ht
  obtain ⟨r, hr, hm⟩ := compile_iff.mp ⟨c, hc, rfl⟩
  obtain ⟨merged, hm, he⟩ := map_eq_ok.mp hm
  obtain ⟨again, hagain, htemplate⟩ := compile_iff.mpr
    ⟨r, hr, he ▸ Blueprint.template_merge_again hm (distinct_section hr)⟩
  have hreplaced := replaced_of_compile_again hc hagain
  refine ⟨?_, ?_, again, hagain, htemplate, hreplaced.trans (names_inventory hagain),
    hreplaced ▸ OrderedMap.nodup _⟩
  · obtain ⟨g, gs', hg⟩ := List.exists_cons_of_ne_nil (by simp : gs ++ [last] ≠ [])
    rw [hg] at h ⊢
    exact chain_iff.mp h
  · intro n
    induction n with
    | zero => rfl
    | succ n ih =>
        rw [List.replicate_succ]
        exact bind_eq_ok.mpr ⟨again, hagain, htemplate ▸ ih⟩

/-- A compilation under options that make names collide. -/
def collidingCache : Generation :=
  ⟨cacheApi, cacheOptions⟩

/-- A compilation of the same description under the default policy. -/
def plainCache : Generation :=
  ⟨cacheApi, { cacheOptions with policy := {} }⟩

/-- A second policy adds its names behind those of the first. When it is repeated, all of its names
make way, and those that three operations share do so once. -/
theorem chain_collapses_cacheApi :
    ∃ t r r', chain (.record [("Resources", .null), ("Outputs", .null)])
        [collidingCache, plainCache] = .ok t ∧
      Sections [collidingCache, plainCache] [r, r'] ∧
      (Blueprint.merge (.record [("Resources", .null), ("Outputs", .null)])
        (r.overlay r')).map Merged.template = .ok t ∧
      chain t [plainCache, plainCache] = .ok t ∧
      ∃ c, plainCache.compile t = .ok c ∧ c.template = t ∧
        c.replaced = ["ApiDestinationsTargetRole", "FailedDeliveryDLQ", "ApiConnection",
          "ApiCachePut", "ApiCachePutRule", "ApiCacheGet", "ApiCacheGetRule", "ApiCachePutPut",
          "ApiCachePutPutRule"] := by
  obtain ⟨t, h⟩ := exists_ok_of_isOk (x := chain
    (.record [("Resources", .null), ("Outputs", .null)]) [collidingCache, plainCache])
    (by decide +kernel)
  have hrow : chain (.record [("Resources", .null), ("Outputs", .null)])
      ([collidingCache] ++ [plainCache]) = .ok t := h
  obtain ⟨⟨r, rs, hs, hm⟩, hrepeat, c, hc, htemplate, hreplaced, -⟩ := chain_collapses hrow
  obtain _ | ⟨hr, _ | ⟨hr', _ | _⟩⟩ := hs
  refine ⟨t, r, _, h, .cons hr (.cons hr' .nil), hm, hrepeat 2, c, hc, htemplate, ?_⟩
  have hnames : (plainCache.options.policy.sharedNames ++
      (cacheApi.destinations plainCache.options).flatMap fun d => [d.name, d.ruleName]).eraseDups =
      ["ApiDestinationsTargetRole", "FailedDeliveryDLQ", "ApiConnection", "ApiCachePut",
        "ApiCachePutRule", "ApiCacheGet", "ApiCacheGetRule", "ApiCachePutPut",
        "ApiCachePutPutRule"] := by
    decide +kernel
  rw [hreplaced, c.keys_usedNames, (Specification.compiled_of_compile hc).destinations]
  exact hnames

end Generation

end EventRouting
