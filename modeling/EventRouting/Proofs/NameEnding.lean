import EventRouting.Api.Specification
import EventRouting.Policy
import EventRouting.Route.Name
import Mathlib.Data.List.Infix

/-!
# How names end

Nothing separates the parts of a name, yet a name tells where its last part begins: if the case of
letters does not count, none of the known methods, the usual ending of a rule's name and the usual
names of the shared resources ends in another one of them.
-/

namespace EventRouting

namespace Text

/-- What holds of the first 128 characters holds of all of ASCII. -/
theorem ascii_forall {p : Char → Prop} (h : ∀ n : Fin 128, p (Char.ofNat n)) {c : Char}
    (hc : c.toNat < 128) : p c := by
  simpa using h ⟨c.toNat, hc⟩

/-- Only ASCII characters have lowercase forms in ASCII. -/
theorem ascii_of_toLower {c : Char} (h : c.toLower.toNat < 128) : c.toNat < 128 := by
  by_contra hc
  have hlower : c.toLower = c := by
    apply dif_neg
    rintro ⟨-, hz⟩
    have hz : c.toNat ≤ 90 := hz
    omega
  rw [hlower] at h
  exact hc h

/-- The uppercase form of an ASCII character is the character, apart from its case. -/
theorem map_toLower_upperChar {c : Char} (h : c.toNat < 128) :
    (upperChar c).map Char.toLower = [c.toLower] :=
  ascii_forall (p := fun c => (upperChar c).map Char.toLower = [c.toLower]) (by decide +kernel) h

/-- Capitalizing changes nothing but the case of an ASCII text. -/
theorem map_toLower_capitalizeChars {s : List Char} (h : ∀ c ∈ s, c.toNat < 128) :
    (capitalizeChars s).map Char.toLower = s.map Char.toLower := by
  cases s with
  | nil => rfl
  | cons c rest =>
      rw [capitalizeChars, List.map_append, map_toLower_upperChar (h c (by simp))]
      rfl

end Text

theorem isHttpMethod_iff {method : String} :
    isHttpMethod method = true ↔ asciiLower method ∈ httpMethods.map asciiLower := by
  rw [isHttpMethod, List.any_eq_true, List.mem_map]
  exact exists_congr fun m => and_congr_right fun _ => beq_iff_eq.trans eq_comm

/-- A capitalized method is still the same method, apart from its case. -/
theorem asciiLower_capitalize {method : String} (h : isHttpMethod method = true) :
    asciiLower (Text.capitalize method) = asciiLower method := by
  have hascii : ∀ m ∈ httpMethods.map asciiLower, (m.all fun c => c.toNat < 128) = true := by
    decide +kernel
  have hmethod := List.all_eq_true.mp (hascii _ (isHttpMethod_iff.mp h))
  rw [asciiLower, Text.capitalize_toList]
  apply Text.map_toLower_capitalizeChars
  intro c hc
  exact Text.ascii_of_toLower (of_decide_eq_true (hmethod _ (List.mem_map_of_mem hc)))

namespace LogicalName

/-- The endings that are no methods: that of a rule's name, and the whole names of the shared
resources, if nothing else is set up. -/
def fixedEndings : List String :=
  ({} : Policy).ruleSuffix :: ({} : Policy).sharedNames

/-- What a name may end with. -/
def endings : List String :=
  httpMethods ++ fixedEndings

/-- The text is a possible ending, apart from the case of its letters. -/
def IsEnding (e : String) : Prop :=
  asciiLower e ∈ endings.map asciiLower

theorem suffixFree_endings :
    ∀ e ∈ endings.map asciiLower, ∀ e' ∈ endings.map asciiLower, e <:+ e' → e = e' := by
  decide +kernel

theorem isEnding_capitalize {method : String} (h : isHttpMethod method = true) :
    IsEnding (Text.capitalize method) := by
  rw [IsEnding, asciiLower_capitalize h, endings, List.map_append]
  exact List.mem_append_left _ (isHttpMethod_iff.mp h)

theorem isEnding_of_mem_fixedEndings {e : String} (h : e ∈ fixedEndings) : IsEnding e :=
  List.mem_map_of_mem (List.mem_append_right _ h)

/-- A capitalized method is no fixed ending. -/
theorem capitalize_not_mem_fixedEndings {method : String} (h : isHttpMethod method = true) :
    Text.capitalize method ∉ fixedEndings := by
  have hdiffer : ∀ m ∈ httpMethods.map asciiLower, ∀ e ∈ fixedEndings, asciiLower e ≠ m := by
    decide +kernel
  exact fun he => hdiffer _ (isHttpMethod_iff.mp h) _ he (asciiLower_capitalize h)

/-- Of two endings of a text, neither is shorter than the other. -/
theorem IsEnding.eq_of_suffix {e e' : String} (he : IsEnding e) (he' : IsEnding e')
    (h : e.toList <:+ e'.toList) : e = e' := by
  have hlower : asciiLower e = asciiLower e' := suffixFree_endings _ he _ he' (h.map Char.toLower)
  have hlength : e.toList.length = e'.toList.length := by
    simpa [asciiLower] using congrArg List.length hlower
  exact String.toList_inj.mp (h.eq_of_length hlength)

/-- A name falls apart into its beginning and its ending in one way only. -/
theorem IsEnding.append_inj {e e' : String} (he : IsEnding e) (he' : IsEnding e')
    {before before' : String} : before ++ e = before' ++ e' ↔ before = before' ∧ e = e' := by
  constructor
  · intro h
    have hs : e.toList <:+ (before' ++ e').toList := by
      rw [← h, String.toList_append]
      exact List.suffix_append _ _
    have hs' : e'.toList <:+ (before' ++ e').toList := by
      rw [String.toList_append]
      exact List.suffix_append _ _
    obtain rfl : e = e' := by
      rcases List.suffix_or_suffix_of_suffix hs hs' with hs | hs
      · exact he.eq_of_suffix he' hs
      · exact (he'.eq_of_suffix he hs).symm
    exact ⟨String.append_left_inj e |>.mp h, rfl⟩
  · rintro ⟨rfl, rfl⟩
    rfl

variable {before path path' method method' : String}

/-- Destinations have the same name exactly if their paths have the same words and their methods
are the same once they are capitalized. -/
theorem destination_eq_iff (h : isHttpMethod method = true) (h' : isHttpMethod method' = true) :
    destination before path method = destination before path' method' ↔
      fragment (PathTemplate.toWildcards path) = fragment (PathTemplate.toWildcards path') ∧
        Text.capitalize method = Text.capitalize method' := by
  rw [destination, destination, (isEnding_capitalize h).append_inj (isEnding_capitalize h'),
    String.append_right_inj]

/-- The name of a destination is that of no rule. -/
theorem destination_ne_rule (h : isHttpMethod method = true) (other : String) :
    destination before path method ≠ rule other ({} : Policy).ruleSuffix := by
  have hs : ({} : Policy).ruleSuffix ∈ fixedEndings := List.mem_cons_self
  intro he
  have hm := ((isEnding_capitalize h).append_inj (isEnding_of_mem_fixedEndings hs)).mp he
  exact capitalize_not_mem_fixedEndings h (hm.2 ▸ hs)

/-- The name of a shared resource has no other ending than the whole of it. -/
theorem IsEnding.mem_sharedNames {e : String} (he : IsEnding e)
    (h : before ++ e ∈ ({} : Policy).sharedNames) : e ∈ ({} : Policy).sharedNames := by
  have hs := isEnding_of_mem_fixedEndings (List.mem_cons_of_mem _ h)
  have hwhole : before ++ e = "" ++ (before ++ e) := String.empty_append.symm
  obtain ⟨-, hsame⟩ := (he.append_inj hs).mp hwhole
  rwa [← hsame] at h

theorem destination_not_mem_sharedNames (h : isHttpMethod method = true) :
    destination before path method ∉ ({} : Policy).sharedNames := by
  intro hs
  have hm := (isEnding_capitalize h).mem_sharedNames hs
  exact capitalize_not_mem_fixedEndings h (List.mem_cons_of_mem _ hm)

theorem rule_not_mem_sharedNames (name : String) :
    rule name ({} : Policy).ruleSuffix ∉ ({} : Policy).sharedNames := by
  intro hs
  have hr := (isEnding_of_mem_fixedEndings List.mem_cons_self).mem_sharedNames hs
  exact absurd hr (by decide)

end LogicalName

end EventRouting
