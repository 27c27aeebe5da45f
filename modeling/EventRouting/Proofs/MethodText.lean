import EventRouting.Proofs.UppercaseForm
import EventRouting.Route.MethodSet
import Mathlib.Data.List.Sort
import Mathlib.Data.String.Basic

/-!
# Texts of method sets

A set of methods is read from a text with commas. Its members are the pieces of the text, without
blanks and in uppercase, and its own text puts them in order with commas in between. To read this
text gives the set again, so that two sets are equal if their texts are.
-/

namespace EventRouting

namespace Text

/-- Pieces that are put together are cut apart again. -/
theorem pieces_intercalate {sep : Char} {row : List (List Char)} (hne : row ≠ [])
    (h : ∀ piece ∈ row, sep ∉ piece) : pieces sep ([sep].intercalate row) = row := by
  induction row with
  | nil => exact absurd rfl hne
  | cons piece rest ih =>
      rw [List.forall_mem_cons] at h
      by_cases hrest : rest = []
      · rw [hrest, List.intercalate_singleton, pieces_of_not_mem h.1]
      · rw [List.intercalate_cons_of_ne_nil hrest, List.append_assoc, List.singleton_append,
          pieces_append_cons, pieces_of_not_mem h.1, ih hrest h.2, List.singleton_append]

end Text

namespace MethodSet

variable {s t : MethodSet} {m : String} {row : List (List Char)}

theorem mem_insertAll {names : List String} :
    m ∈ (names.foldl insert s).methods ↔ m ∈ s.methods ∨ m ∈ names := by
  induction names generalizing s with
  | nil => simp
  | cons n rest ih =>
      rw [List.foldl_cons, ih, insert, mem_insertSorted, List.mem_cons]
      tauto

/-- The members are the pieces that are not blank. -/
theorem mem_ofList : m ∈ (ofList row).methods ↔ m ≠ "" ∧ ∃ piece ∈ row, normal piece = m := by
  rw [ofList, mem_insertAll, List.mem_filter, List.mem_map, bne_iff_ne, empty]
  simp [and_comm]

/-- A set is known from its members. -/
theorem eq_iff_mem : s = t ↔ ∀ m, m ∈ s.methods ↔ m ∈ t.methods := by
  constructor
  · rintro rfl m
    rfl
  · intro h
    exact ext (s.sorted.eq_of_mem_iff t.sorted h)

theorem text_eq (s : MethodSet) : s.text = ",".intercalate s.methods := by
  rw [← String.toList_inj, String.toList_intercalate, text, String.toList_ofList]
  rfl

/-- Whether reading a name gives this name and no other. -/
structure Clean (m : String) : Prop where
  not_empty : m ≠ ""
  no_comma : ',' ∉ m.toList
  normal_eq : normal m.toList = m

theorem normal_toList (piece : List Char) :
    (normal piece).toList = (Text.trim piece).flatMap Text.upperChar := by
  rw [normal, Text.upper_toList, String.toList_ofList]

theorem upper_normal (piece : List Char) : Text.upper (normal piece) = normal piece :=
  Text.upper_upper _

theorem normal_normal (piece : List Char) : normal (normal piece).toList = normal piece := by
  have htrimmed := (Text.trimmed_trim piece).flatMap_upperChar
  rw [← normal_toList] at htrimmed
  calc normal (normal piece).toList
      = Text.upper (String.ofList (normal piece).toList) := by rw [normal, htrimmed.trim_eq]
    _ = normal piece := by rw [String.ofList_toList, upper_normal]

theorem not_mem_normal {piece : List Char} (h : ',' ∉ piece) : ',' ∉ (normal piece).toList := by
  rw [normal_toList, List.mem_flatMap]
  rintro ⟨c, hc, hcomma⟩
  rw [← Text.eq_of_mem_upperChar (by decide) (by decide) hcomma] at hc
  have htrim : (Text.trim piece).Sublist piece :=
    (List.rdropWhile_prefix _ _).sublist.trans (List.dropWhile_sublist _)
  exact h (htrim.subset hc)

/-- Whether a text lists a method: one of its pieces is this method after it is trimmed and
uppercased. -/
def Lists (list : String) (m : String) : Prop :=
  m ≠ "" ∧ ∃ piece ∈ Text.pieces ',' list.toList,
    Text.upper (String.ofList (Text.trim piece)) = m

variable {list : String}

theorem mem_parse : m ∈ (parse list).methods ↔ Lists list m :=
  mem_ofList

theorem Lists.clean (h : Lists list m) : Clean m := by
  obtain ⟨hne, piece, hpiece, rfl⟩ := h
  exact ⟨hne, not_mem_normal (Text.not_mem_of_mem_pieces hpiece), normal_normal piece⟩

theorem Lists.upper_eq (h : Lists list m) : Text.upper m = m := by
  obtain ⟨-, piece, -, rfl⟩ := h
  exact upper_normal piece

theorem contains_iff : (parse list).contains m = true ↔ Lists list (Text.upper m) := by
  rw [contains, List.contains_iff_mem, mem_parse]

/-- The text of a set is cut into its members. -/
theorem pieces_text (h : ∀ m ∈ s.methods, Clean m) (hne : s.methods ≠ []) :
    Text.pieces ',' s.text.toList = s.methods.map String.toList := by
  rw [text, String.toList_ofList]
  refine Text.pieces_intercalate (by simpa using hne) fun piece hpiece => ?_
  obtain ⟨m, hm, rfl⟩ := List.mem_map.mp hpiece
  exact (h m hm).no_comma

/-- A set of clean names is read from its own text. -/
theorem parse_text (h : ∀ m ∈ s.methods, Clean m) : parse s.text = s := by
  by_cases hempty : s.methods = []
  · have htext : s.text = "" := by rw [text, hempty]; rfl
    rw [htext]
    exact ext hempty.symm
  · rw [eq_iff_mem]
    intro m
    rw [parse, mem_ofList, pieces_text h hempty]
    constructor
    · rintro ⟨-, piece, hpiece, rfl⟩
      obtain ⟨n, hn, rfl⟩ := List.mem_map.mp hpiece
      rwa [(h n hn).normal_eq]
    · intro hm
      exact ⟨(h m hm).not_empty, m.toList, List.mem_map_of_mem hm, (h m hm).normal_eq⟩

theorem parse_text_parse (list : String) : parse (parse list).text = parse list :=
  parse_text fun _ hm => (mem_parse.mp hm).clean

/-- Sets that were read are equal if they have the same methods, in letters of either case. -/
theorem parse_eq_iff_contains {other : String} :
    parse list = parse other ↔ ∀ m, (parse list).contains m = (parse other).contains m := by
  constructor
  · intro h m
    rw [h]
  · intro h
    rw [eq_iff_mem]
    -- What a set has is asked for by its uppercase form, which a member is itself.
    have hmem : ∀ a b : String, (∀ m, (parse a).contains m = (parse b).contains m) →
        ∀ m ∈ (parse a).methods, m ∈ (parse b).methods := by
      intro a b hab m hm
      have hupper := (mem_parse.mp hm).upper_eq
      have hb : (parse b).contains m = true := by
        rw [← hab m, contains_iff, hupper]
        exact mem_parse.mp hm
      rwa [contains_iff, hupper, ← mem_parse] at hb
    exact fun m => ⟨hmem list other h m, hmem other list (fun n => (h n).symm) m⟩

theorem parse_eq_iff_text {other : String} :
    parse list = parse other ↔ (parse list).text = (parse other).text := by
  constructor
  · intro h
    rw [h]
  · intro h
    rw [← parse_text_parse list, h, parse_text_parse]

/-- The text of a set that was read is canonical. The set has a method if the text that it was read
from lists it. Its own text is the strictly increasing row of these methods, with commas in between,
and is read as the same set. Two sets are equal if their texts are, and this is so if they have the
same methods or were read from texts that list the same. -/
theorem canonical_text :
    (∀ list m, (parse list).contains m = true ↔ Lists list (Text.upper m)) ∧
    (∀ list, parse (parse list).text = parse list ∧
      (parse list).text = ",".intercalate (parse list).methods ∧
      (parse list).methods.Pairwise (· < ·) ∧ (parse list).methods.Nodup ∧
      ∀ m, m ∈ (parse list).methods ↔ Lists list m) ∧
    ∀ list other,
      (parse list = parse other ↔ (parse list).text = (parse other).text) ∧
      (parse list = parse other ↔ ∀ m, (parse list).contains m = (parse other).contains m) ∧
      (parse list = parse other ↔ ∀ m, Lists list m ↔ Lists other m) := by
  refine ⟨fun list m => contains_iff, fun list => ⟨parse_text_parse list, text_eq _,
    (parse list).sorted, (parse list).sorted.imp ne_of_lt, fun m => mem_parse⟩,
    fun list other => ⟨parse_eq_iff_text, parse_eq_iff_contains, ?_⟩⟩
  simp only [eq_iff_mem, mem_parse]

example : (parse " put ,,PUT,\tpoſt").text = "POST,PUT" := by decide +kernel

end MethodSet

end EventRouting
