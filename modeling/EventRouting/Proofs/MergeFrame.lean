import EventRouting.Proofs.Outcome
import EventRouting.Proofs.Overlay

/-!
# What a merge leaves alone

A merge is two overlays: the generated resources over those of the blueprint, and the section that
holds them over the blueprint's sections. An overlay fixes every key with its place and its value,
so nothing of the caller's is lost, moved or changed, apart from the resources that have to make
way.
-/

namespace EventRouting

namespace Mapping

/-- What a mapping is after entries were written into it. -/
structure Overlaid (base top result : Mapping) : Prop where
  /-- The old keys stand where they stood, and the new ones follow in their order. -/
  keys : Entries.keys result =
    Entries.keys base ++ (Entries.keys top).filter fun k => !Entries.contains k base
  /-- Under a key that was not written there is what was there before. -/
  kept : ∀ k v, k ∉ Entries.keys top → ((k, v) ∈ result ↔ (k, v) ∈ base)
  /-- Under a key that was written there is what was written. -/
  written : ∀ k v, (k, v) ∈ top → Entries.get? k result = some v

variable {base top : Mapping}

theorem distinct_of_strings (hs : ∀ k ∈ Entries.keys top, ∃ name, k = .string name)
    (hn : (Entries.keys top).Nodup) : Entries.Distinct top where
  exact e he := by
    obtain ⟨name, hname⟩ := hs e.1 (Entries.mem_keys_of_mem he)
    rw [hname]
    infer_instance
  nodup := hn

theorem overlaid_overlay (h : Entries.Distinct top) : Overlaid base top (base.overlay top) where
  keys := Entries.keys_overlay h.exact h.nodup
  kept _ _ hk := Entries.mem_overlay_of_not_mem h.exact hk
  written _ _ hm := Entries.get?_overlay_of_mem h hm base

/-- The names that have to make way are the written ones that were there before. -/
theorem map_replacedNames (hs : ∀ k ∈ Entries.keys top, ∃ name, k = .string name) :
    (base.replacedNames top).map .string =
      (Entries.keys top).filter fun k => Entries.contains k base := by
  induction top with
  | nil => rfl
  | cons e rest ih =>
      obtain ⟨k, v⟩ := e
      obtain ⟨name, rfl⟩ := hs k (by simp)
      have hrest := ih fun j hj => hs j (List.mem_cons_of_mem _ hj)
      rw [replacedNames] at hrest ⊢
      by_cases hc : Entries.contains (.string name) base <;> simp [hc, hrest]

end Mapping

namespace Blueprint

open Mapping

/-- A merge that succeeds writes the section of resources, and nothing else, into the sections. -/
theorem template_of_merge {sections generated : Mapping} {merged : Merged}
    (h : merge (.mapping sections) generated = .ok merged) :
    merged.template = .mapping (sections.overlay
      [(resourcesKey, .mapping ((held (.mapping sections)).overlay generated))]) := by
  obtain ⟨sections', old, hs, hr, rfl⟩ := merge_eq_ok_iff.mp h
  rw [held_of_resources hs hr]
  obtain rfl := Except.ok.inj hs
  rfl

/-- Of the sections of a blueprint a merge writes only that of the resources, which is appended if
it was missing. Of the resources it writes only the generated ones, in their order, and it tells
which of them were there before. -/
theorem merge_overlaid {sections generated : Mapping} {merged : Merged}
    (hs : ∀ k ∈ Entries.keys generated, ∃ name, k = .string name)
    (hn : (Entries.keys generated).Nodup)
    (h : merge (.mapping sections) generated = .ok merged) :
    ∃ sections' resources',
      merged.template = .mapping sections' ∧
      Overlaid sections [(resourcesKey, .mapping resources')] sections' ∧
      Overlaid (held (.mapping sections)) generated resources' ∧
      merged.replaced.map .string =
        ((Entries.keys generated).filter fun k =>
          Entries.contains k (held (.mapping sections))) ∧
      merged.replaced.Nodup := by
  have hreplaced : merged.replaced.map .string =
      (Entries.keys generated).filter fun k => Entries.contains k (held (.mapping sections)) := by
    rw [(held_merge h).2, map_replacedNames hs]
  have hsection : ∀ v : Value, Entries.Distinct [(resourcesKey, v)] := fun v =>
    distinct_of_strings (by simp [resourcesKey]) (by simp)
  refine ⟨_, _, template_of_merge h, overlaid_overlay (hsection _),
    overlaid_overlay (distinct_of_strings hs hn), hreplaced, ?_⟩
  have hd : (merged.replaced.map Value.string).Nodup := hreplaced ▸ hn.filter _
  exact hd.of_map _

/-- A blueprint with a section behind its resources, and with keys that are no texts. -/
def busSections : Mapping :=
  [(.bool false, .null),
    (.string "Resources", .mapping
      [(.bool true, .tagged "Keep" .null), (.string "Queue", .null), (.string "Bus", .null)]),
    (.string "Outputs", .record [("Resources", .null)])]

/-- One resource takes the place of the queue and another one is new; the rest stays, in order. -/
theorem merge_overlaid_bus :
    ∃ (merged : Merged) (sections' resources' : Mapping),
      merge (.mapping busSections) [(.string "Rule", .bool true), (.string "Queue", .bool true)] =
        .ok merged ∧
      merged.template = .mapping sections' ∧
      Entries.keys sections' = [.bool false, .string "Resources", .string "Outputs"] ∧
      (.string "Outputs", .record [("Resources", .null)]) ∈ sections' ∧
      Entries.keys resources' =
        [.bool true, .string "Queue", .string "Bus", .string "Rule"] ∧
      (.bool true, .tagged "Keep" .null) ∈ resources' ∧
      Entries.get? (.string "Queue") resources' = some (.bool true) ∧
      merged.replaced.map .string = [Value.string "Queue"] := by
  obtain ⟨merged, h⟩ := exists_ok_of_isOk (x := merge (.mapping busSections)
    [(.string "Rule", .bool true), (.string "Queue", .bool true)]) (by decide +kernel)
  have hheld : held (.mapping busSections) =
      [(.bool true, .tagged "Keep" .null), (.string "Queue", .null), (.string "Bus", .null)] := by
    simp [held, busSections, Value.field?, Value.entries?, Entries.get?]
  obtain ⟨sections', resources', ht, hsections, hresources, hreplaced, -⟩ :=
    merge_overlaid (by simp) (by simp) h
  rw [hheld] at hresources hreplaced
  refine ⟨merged, sections', resources', h, ht, ?_, ?_, ?_, ?_, ?_, ?_⟩
  · rw [hsections.keys]
    simp [busSections, resourcesKey, Entries.contains, Entries.get?]
  · exact (hsections.kept _ _ (by simp [resourcesKey])).mpr (by simp [busSections])
  · rw [hresources.keys]
    simp [Entries.contains, Entries.get?]
  · exact (hresources.kept _ _ (by simp)).mpr (by simp)
  · exact hresources.written _ _ (by simp)
  · rw [hreplaced]
    simp [Entries.contains, Entries.get?]

end Blueprint

end EventRouting
