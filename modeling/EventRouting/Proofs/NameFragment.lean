import EventRouting.Proofs.QueryResolution
import EventRouting.Route.Name
import Mathlib.Data.List.Forall2

/-!
# Fragments of names

The fragment of a path is put together from its segments: a slash between two paths leaves nothing
behind, and a segment adds what remains of it without wildcards, beginning with an uppercase letter.
Everything about fragments follows from these two equations. Since uppercase forms are no
punctuation, neither slashes nor wildcards are left.
-/

namespace EventRouting

namespace Text

/-- Text that is cut is put together again. -/
theorem intercalate_pieces (sep : Char) (s : List Char) : [sep].intercalate (pieces sep s) = s := by
  induction s with
  | nil => rfl
  | cons c rest ih =>
      by_cases hc : c = sep
      · rw [pieces, if_pos hc, List.intercalate_cons_of_ne_nil (pieces_ne_nil sep rest), ih, hc]
        rfl
      · rw [pieces, if_neg hc]
        cases hp : pieces sep rest with
        | nil => exact absurd hp (pieces_ne_nil sep rest)
        | cons piece more =>
            rw [hp] at ih
            cases more with
            | nil => simpa using ih
            | cons next more => simpa using ih

/-- No uppercase form begins before the letters. -/
theorem upperExpansions_letters : ∀ e ∈ upperExpansions, ∀ n ∈ e.2, 'A'.toNat ≤ n := by
  decide +kernel

theorem upperRuns_letters : ∀ r ∈ upperRuns, 'A'.toNat ≤ r.image := by
  decide +kernel

variable {x c : Char} {s : List Char}

theorem toNat_ofNat {n : Nat} (h : n.isValidChar) : (Char.ofNat n).toNat = n := by
  rw [Char.ofNat, dif_pos h]
  rfl

theorem ofNat_ne {n : Nat} (hn : 'A'.toNat ≤ n) (h0 : 0 < x.toNat) (hx : x.toNat < 'A'.toNat) :
    Char.ofNat n ≠ x := by
  rintro rfl
  by_cases hvalid : n.isValidChar
  · have hself := toNat_ofNat hvalid
    omega
  · rw [Char.ofNat, dif_neg hvalid] at h0
    exact absurd h0 (by decide)

/-- A character that comes before the letters is the uppercase form of itself only. -/
theorem eq_of_mem_upperChar (h0 : 0 < x.toNat) (hx : x.toNat < 'A'.toNat) (h : x ∈ upperChar c) :
    x = c := by
  rw [upperChar, mapChar] at h
  split at h
  · next image hi =>
    obtain ⟨before, after, he, -⟩ := List.lookup_eq_some_iff.mp hi
    obtain ⟨n, hn, hnx⟩ := List.mem_map.mp h
    have hletter := upperExpansions_letters (c.toNat, image) (by simp [he]) n hn
    exact absurd hnx (ofNat_ne hletter h0 hx)
  · split at h
    · next run hr =>
      have hletter := upperRuns_letters run (List.mem_of_find?_eq_some hr)
      have happly : 'A'.toNat ≤ run.apply c.toNat := Nat.le_add_right_of_le hletter
      exact absurd (List.mem_singleton.mp h).symm (ofNat_ne happly h0 hx)
    · exact List.mem_singleton.mp h

theorem mem_of_mem_capitalizeChars (h0 : 0 < x.toNat) (hx : x.toNat < 'A'.toNat)
    (h : x ∈ capitalizeChars s) : x ∈ s := by
  cases s with
  | nil => exact h
  | cons c rest =>
      rw [capitalizeChars, List.mem_append] at h
      rcases h with h | h
      · rw [eq_of_mem_upperChar h0 hx h]
        exact List.mem_cons_self
      · exact List.mem_cons_of_mem _ h

end Text

namespace LogicalName

/-- What a segment of a path adds to a name: nothing if it has no characters but wildcards, and
otherwise its characters without wildcards, of which the first is uppercased. -/
inductive Adds : List Char → List Char → Prop
  | nothing (n : Nat) : Adds (List.replicate n '*') []
  | word (n : Nat) {c : Char} (rest : List Char) (first : c ≠ '*') :
      Adds (List.replicate n '*' ++ c :: rest) (Text.upperChar c ++ rest.filter (· != '*'))

theorem word_replicate (n : Nat) (s : List Char) : word (List.replicate n '*' ++ s) = word s := by
  simp [word, PathTemplate.wildcard]

theorem word_cons {c : Char} (h : c ≠ '*') (rest : List Char) :
    word (c :: rest) = Text.upperChar c ++ rest.filter (· != '*') := by
  simp [word, PathTemplate.wildcard, h, Text.capitalizeChars]

theorem adds_word (s : List Char) : Adds s (word s) := by
  induction s with
  | nil => exact .nothing 0
  | cons c rest ih =>
      by_cases hc : c = '*'
      · have hw : word (c :: rest) = word rest := by
          rw [hc]
          exact word_replicate 1 rest
        rw [hw, hc]
        generalize word rest = w at ih
        cases ih with
        | nothing n => exact .nothing (n + 1)
        | word n rest first => exact .word (n + 1) rest first
      · rw [word_cons hc]
        exact .word 0 rest hc

/-- A segment adds its word, and nothing else. -/
theorem adds_iff {segment added : List Char} : Adds segment added ↔ added = word segment := by
  constructor
  · rintro (n | ⟨n, rest, first⟩)
    · simpa [word, Text.capitalizeChars] using (word_replicate n []).symm
    · rw [word_replicate, word_cons first]
  · rintro rfl
    exact adds_word segment

theorem forall₂_adds_iff {segments added : List (List Char)} :
    List.Forall₂ Adds segments added ↔ added = segments.map word := by
  constructor
  · intro h
    induction h with
    | nil => rfl
    | cons hs _ ih => rw [adds_iff.mp hs, ih, List.map_cons]
  · rintro rfl
    exact List.forall₂_map_right_iff.mpr (List.forall₂_same.mpr fun s _ => adds_word s)

theorem fragmentChars_of_not_mem {s : List Char} (h : '/' ∉ s) : fragmentChars s = word s := by
  rw [fragmentChars, Text.pieces_of_not_mem h]
  by_cases hs : s = []
  · rw [hs]
    rfl
  · simp [hs]

/-- Segment by segment, the fragment is put together. -/
theorem fragmentChars_intercalate {segments : List (List Char)} (h : ∀ s ∈ segments, '/' ∉ s) :
    fragmentChars (['/'].intercalate segments) = segments.flatMap word := by
  induction segments with
  | nil => rfl
  | cons s rest ih =>
      rw [List.forall_mem_cons] at h
      cases rest with
      | nil => simpa using fragmentChars_of_not_mem h.1
      | cons next rest =>
          rw [List.intercalate_cons_cons, List.append_assoc, List.singleton_append,
            fragmentChars_append_slash, ih h.2, fragmentChars_of_not_mem h.1, ← List.flatMap_cons]

/-- Neither slashes nor wildcards are left in a fragment. -/
theorem not_mem_fragmentChars (s : List Char) :
    '/' ∉ fragmentChars s ∧ '*' ∉ fragmentChars s := by
  have hsegment : ∀ x : Char, 0 < x.toNat → x.toNat < 'A'.toNat → x ∈ fragmentChars s →
      ∃ segment ∈ Text.pieces '/' s, x ∈ segment.filter (· != PathTemplate.wildcard) := by
    intro x h0 hx h
    obtain ⟨segment, hs, hw⟩ := List.mem_flatMap.mp h
    exact ⟨segment, List.mem_of_mem_filter hs, Text.mem_of_mem_capitalizeChars h0 hx hw⟩
  constructor
  · intro h
    obtain ⟨segment, hs, hm⟩ := hsegment '/' (by decide) (by decide) h
    exact Text.not_mem_of_mem_pieces hs (List.mem_of_mem_filter hm)
  · intro h
    obtain ⟨segment, -, hm⟩ := hsegment '*' (by decide) (by decide) h
    simp [PathTemplate.wildcard] at hm

theorem fragment_append_slash (p q : String) :
    fragment (p ++ "/" ++ q) = fragment p ++ fragment q := by
  have hp : (p ++ "/" ++ q).toList = p.toList ++ '/' :: q.toList := by simp
  rw [fragment, hp, fragmentChars_append_slash, String.ofList_append, fragment, fragment]

theorem fragment_of_wildcards {b : String} (h : ∀ c ∈ b.toList, c = '*') : fragment b = "" := by
  obtain ⟨n, hn⟩ : ∃ n, b.toList = List.replicate n '*' := ⟨_, List.eq_replicate_of_mem h⟩
  have hslash : '/' ∉ b.toList := fun hm => absurd (h _ hm) (by decide)
  rw [fragment, fragmentChars_of_not_mem hslash, hn, ← adds_iff.mp (.nothing n), String.ofList_nil]

/-- Fragments are compositional. Between two paths a slash leaves nothing behind, and no fragment
holds a slash or a wildcard. A segment of wildcards only, which may be empty, makes no difference at
the beginning of a path, at its end, or between two others, and so neither do slashes that lead,
trail or repeat. Every path falls apart into segments, and its fragment is what they add, one behind
the other. -/
theorem fragments_compose :
    (∀ p q : String, fragment (p ++ "/" ++ q) = fragment p ++ fragment q) ∧
      (∀ p : String, '/' ∉ (fragment p).toList ∧ '*' ∉ (fragment p).toList) ∧
      (∀ b : String, (∀ c ∈ b.toList, c = '*') → ∀ p q : String,
        fragment (b ++ "/" ++ p) = fragment p ∧ fragment (p ++ "/" ++ b) = fragment p ∧
          fragment (p ++ "/" ++ b ++ "/" ++ q) = fragment (p ++ "/" ++ q)) ∧
      (∀ segments added, (∀ s ∈ segments, '/' ∉ s) → List.Forall₂ Adds segments added →
        fragment (String.ofList (['/'].intercalate segments)) = String.ofList added.flatten) ∧
      ∀ path : String, ∃ segments added, path = String.ofList (['/'].intercalate segments) ∧
        (∀ s ∈ segments, '/' ∉ s) ∧ List.Forall₂ Adds segments added := by
  refine ⟨fragment_append_slash, fun p => ?_, fun b hb p q => ?_, fun segments added hs ha => ?_,
    fun path => ?_⟩
  · rw [fragment, String.toList_ofList]
    exact not_mem_fragmentChars p.toList
  · simp [fragment_append_slash, fragment_of_wildcards hb]
  · rw [fragment, String.toList_ofList, fragmentChars_intercalate hs, forall₂_adds_iff.mp ha,
      List.flatMap]
  · refine ⟨Text.pieces '/' path.toList, _, ?_, fun s hs => Text.not_mem_of_mem_pieces hs,
      forall₂_adds_iff.mpr rfl⟩
    rw [Text.intercalate_pieces, String.ofList_toList]

/-- The first letter of a segment comes behind its wildcards and has an uppercase form of two
letters. -/
theorem fragments_compose_users :
    fragment "users/**ßa*b" = "UsersSSab" ∧
      fragment ("**" ++ "/" ++ "users/**ßa*b") = "UsersSSab" := by
  obtain ⟨-, -, hblank, hsegments, -⟩ := fragments_compose
  have hwildcards : ∀ c ∈ "**".toList, c = '*' := by simp
  have hslash : ∀ s ∈ ["users".toList, "**ßa*b".toList], '/' ∉ s := by decide +kernel
  have hadds : List.Forall₂ Adds ["users".toList, "**ßa*b".toList]
      ["Users".toList, "SSab".toList] := forall₂_adds_iff.mpr (by decide +kernel)
  have hpath : String.ofList (['/'].intercalate ["users".toList, "**ßa*b".toList]) =
      "users/**ßa*b" := by decide +kernel
  have hwords : String.ofList ["Users".toList, "SSab".toList].flatten = "UsersSSab" := by
    decide +kernel
  have hfragment : fragment "users/**ßa*b" = "UsersSSab" := by
    rw [← hpath, hsegments _ _ hslash hadds, hwords]
  exact ⟨hfragment, (hblank "**" hwildcards "users/**ßa*b" "").1.trans hfragment⟩

end LogicalName

end EventRouting
