import EventRouting.Proofs.NameFragment
import EventRouting.Text.Blank
import Mathlib.Data.List.DropRight

/-!
# Uppercase forms

The uppercase form of a letter consists of characters that are their own uppercase forms, so a text
in uppercase stays as it is. None of them is a blank: a text without blanks around it has none in
uppercase either.
-/

namespace EventRouting

namespace Text

namespace CaseRun

variable {r r' : CaseRun} {n : Nat}

/-- Whether the images of a run lie outside of a stretch of code points. -/
def avoids (r : CaseRun) (first last : Nat) : Bool :=
  Nat.blt last r.image || Nat.blt (r.image + (r.last - r.first)) first

/-- Whether no image of a run is a letter of the other one. If the two lie in one place, images and
letters take turns there. -/
def misses (r r' : CaseRun) : Bool :=
  r.avoids r'.first r'.last ||
    (r'.step == 2 && (r.step == 2 || r.first == r.last) && r.image % 2 != r'.first % 2)

theorem covers_iff :
    r.covers n = true ↔ r.first ≤ n ∧ n ≤ r.last ∧ (n - r.first) % r.step = 0 := by
  simp [covers, and_assoc]

theorem outside_of_avoids {first last : Nat} (h : r.avoids first last = true)
    (hn : r.covers n = true) : last < r.apply n ∨ r.apply n < first := by
  obtain ⟨hfirst, hlast, -⟩ := covers_iff.mp hn
  simp only [avoids, Nat.blt_eq, Bool.or_eq_true] at h
  rw [apply]
  omega

theorem not_covers_of_misses (h : r.misses r' = true) (hn : r.covers n = true) :
    ¬r'.covers (r.apply n) = true := by
  rw [covers_iff]
  rintro ⟨hfirst', hlast', hstep'⟩
  rw [misses, Bool.or_eq_true] at h
  rcases h with h | h
  · rcases outside_of_avoids h hn with h | h <;> omega
  · obtain ⟨hfirst, hlast, hstep⟩ := covers_iff.mp hn
    simp only [Bool.and_eq_true, Bool.or_eq_true, beq_iff_eq, bne_iff_ne] at h
    obtain ⟨⟨htwo', htwo | hone⟩, hparity⟩ := h
    · rw [htwo'] at hstep'
      rw [htwo] at hstep
      rw [apply] at hfirst' hstep'
      omega
    · rw [htwo'] at hstep'
      rw [apply] at hfirst' hstep'
      omega

end CaseRun

variable {x c : Char} {s : List Char}

/-- Whether a character is its own uppercase form and no blank. -/
def Settled (x : Char) : Prop :=
  upperChar x = [x] ∧ isBlank x = false

instance : DecidablePred Settled :=
  fun x => inferInstanceAs (Decidable (upperChar x = [x] ∧ isBlank x = false))

theorem upperExpansions_settled :
    ∀ e ∈ upperExpansions, e.2 ≠ [] ∧ ∀ n ∈ e.2, Settled (Char.ofNat n) := by
  decide +kernel

theorem upperRuns_avoid :
    upperRuns.all (fun r => upperExpansions.all fun e => r.avoids e.1 e.1) = true := by
  decide +kernel

theorem upperRuns_miss : upperRuns.all (fun r => upperRuns.all r.misses) = true := by
  decide +kernel

theorem upperRuns_not_blank :
    ∀ r ∈ upperRuns, ∀ k < r.last + 1 - r.first, isBlank (Char.ofNat (r.image + k)) = false := by
  decide +kernel

/-- The image of a letter is no letter of a run, and no letter with a longer image. -/
theorem settled_apply {r : CaseRun} {n : Nat} (hr : r ∈ upperRuns) (hn : r.covers n = true) :
    Settled (Char.ofNat (r.apply n)) := by
  refine ⟨?_, ?_⟩
  · by_cases hvalid : (r.apply n).isValidChar
    · have hexpansions : upperExpansions.lookup (r.apply n) = none := by
        rw [List.lookup_eq_none_iff]
        intro e he
        have havoids := List.all_eq_true.mp (List.all_eq_true.mp upperRuns_avoid r hr) e he
        have houtside := CaseRun.outside_of_avoids havoids hn
        rw [bne_iff_ne]
        omega
      have hruns : upperRuns.find? (·.covers (r.apply n)) = none := by
        rw [List.find?_eq_none]
        intro r' hr'
        have hmisses := List.all_eq_true.mp (List.all_eq_true.mp upperRuns_miss r hr) r' hr'
        exact CaseRun.not_covers_of_misses hmisses hn
      rw [upperChar, mapChar, toNat_ofNat hvalid, hexpansions, hruns]
    · rw [Char.ofNat, dif_neg hvalid]
      decide +kernel
  · obtain ⟨hfirst, hlast, -⟩ := CaseRun.covers_iff.mp hn
    exact upperRuns_not_blank r hr (n - r.first) (by omega)

/-- A character without an uppercase form stands for itself, and all others become settled. -/
theorem upperChar_cases (c : Char) :
    upperChar c = [c] ∨ upperChar c ≠ [] ∧ ∀ x ∈ upperChar c, Settled x := by
  rw [upperChar, mapChar]
  split
  · next image hi =>
    obtain ⟨before, after, he, -⟩ := List.lookup_eq_some_iff.mp hi
    obtain ⟨hne, hsettled⟩ := upperExpansions_settled (c.toNat, image) (by simp [he])
    exact .inr ⟨by simpa using hne, by simpa using hsettled⟩
  · split
    · next r hr =>
      have hcovers := List.find?_some hr
      have hsettled := settled_apply (List.mem_of_find?_eq_some hr) hcovers
      exact .inr ⟨by simp, by simpa using hsettled⟩
    · exact .inl rfl

theorem upperChar_ne_nil (c : Char) : upperChar c ≠ [] := by
  rcases upperChar_cases c with h | ⟨h, -⟩
  · simp [h]
  · exact h

theorem upperChar_of_mem (h : x ∈ upperChar c) : upperChar x = [x] := by
  rcases upperChar_cases c with hc | ⟨-, hsettled⟩
  · rw [hc, List.mem_singleton] at h
    rw [h, hc]
  · exact (hsettled x h).1

theorem isBlank_of_mem_upperChar (hc : isBlank c = false) (h : x ∈ upperChar c) :
    isBlank x = false := by
  rcases upperChar_cases c with hself | ⟨-, hsettled⟩
  · rw [hself, List.mem_singleton] at h
    rw [h, hc]
  · exact (hsettled x h).2

/-- A text in uppercase stays as it is. -/
@[simp] theorem upper_upper (s : String) : upper (upper s) = upper s := by
  rw [← String.toList_inj, upper_toList (upper s), upper_toList]
  have hself : ∀ x ∈ s.toList.flatMap upperChar, upperChar x = [x] := by
    intro x hx
    obtain ⟨c, -, hc⟩ := List.mem_flatMap.mp hx
    exact upperChar_of_mem hc
  rw [List.flatMap_congr hself, List.flatMap_singleton']

/-- Text with no blank at either end. -/
def Trimmed (s : List Char) : Prop :=
  (∀ c ∈ s.head?, isBlank c = false) ∧ ∀ c ∈ s.getLast?, isBlank c = false

theorem trimmed_trim (s : List Char) : Trimmed (trim s) := by
  refine ⟨fun c hc => ?_, fun c hc => isBlank_getLast_trimEnd hc⟩
  have hprefix : trim s <+: s.dropWhile isBlank :=
    List.rdropWhile_prefix isBlank _
  obtain ⟨blanks, hblanks⟩ := hprefix
  have hhead : (s.dropWhile isBlank).head? = some c := by
    rw [← hblanks, List.head?_append, hc, Option.some_or]
  have hnot := List.head?_dropWhile_not isBlank s
  rw [hhead] at hnot
  simpa using hnot

theorem dropWhile_isBlank (h : ∀ c ∈ s.head?, isBlank c = false) : s.dropWhile isBlank = s := by
  cases s with
  | nil => rfl
  | cons c rest => exact List.dropWhile_cons_of_neg (by simp [h c rfl])

/-- Where no blanks are around a text, trimming leaves it. -/
theorem Trimmed.trim_eq (h : Trimmed s) : trim s = s := by
  rw [trim, dropWhile_isBlank h.1, trimEnd, dropWhile_isBlank, List.reverse_reverse]
  rw [List.head?_reverse]
  exact h.2

/-- The blanks around a text do not grow when it is uppercased. -/
theorem Trimmed.flatMap_upperChar (h : Trimmed s) : Trimmed (s.flatMap upperChar) := by
  constructor
  · cases s with
    | nil => exact h.1
    | cons c rest =>
        intro x hx
        rw [List.flatMap_cons, List.head?_append_of_ne_nil _ (upperChar_ne_nil c)] at hx
        exact isBlank_of_mem_upperChar (h.1 c rfl) (List.mem_of_mem_head? hx)
  · rcases List.eq_nil_or_concat' s with rfl | ⟨before, c, rfl⟩
    · exact h.2
    · intro x hx
      rw [List.flatMap_append, List.flatMap_singleton,
        List.getLast?_append_of_ne_nil _ (upperChar_ne_nil c)] at hx
      exact isBlank_of_mem_upperChar (h.2 c (by simp)) (List.mem_of_mem_getLast? hx)

end Text

end EventRouting
