import EventRouting.Proofs.CrossReference
import EventRouting.Proofs.PathLayout
import EventRouting.Proofs.PathShape
import EventRouting.Proofs.UppercaseForm

/-!
# The alphabet of names

A logical name is to consist of ASCII letters and digits. What a name gets from a path is the
literal text of the path without its slashes and wildcards, and the first character of each segment
in uppercase. Nothing else is left out, and so a name keeps to the alphabet exactly if the literal
text does.
-/

namespace EventRouting

namespace Text

/-- The text consists of ASCII letters and digits. -/
def IsAlphanumeric (s : List Char) : Prop :=
  ∀ c ∈ s, c.isAlphanum = true

instance : DecidablePred IsAlphanumeric :=
  fun s => List.decidableBAll _ s

/-- The characters outside of ASCII whose uppercase forms consist of ASCII letters. -/
def latinForms : List Char :=
  ['ß', 'ı', 'ſ', 'ﬀ', 'ﬁ', 'ﬂ', 'ﬃ', 'ﬄ', 'ﬅ', 'ﬆ']

variable {c sep : Char} {s t : List Char}

theorem isAlphanumeric_append : IsAlphanumeric (s ++ t) ↔ IsAlphanumeric s ∧ IsAlphanumeric t :=
  List.forall_mem_append

theorem isAlphanumeric_flatMap {α : Type} {items : List α} {f : α → List Char} :
    IsAlphanumeric (items.flatMap f) ↔ ∀ x ∈ items, IsAlphanumeric (f x) := by
  simp only [IsAlphanumeric, List.mem_flatMap]
  constructor
  · exact fun h x hx c hc => h c ⟨x, hx, hc⟩
  · rintro h c ⟨x, hx, hc⟩
    exact h x hx c hc

theorem isAlphanum_iff : c.isAlphanum = true ↔
    (48 ≤ c.toNat ∧ c.toNat ≤ 57) ∨ (65 ≤ c.toNat ∧ c.toNat ≤ 90) ∨
      (97 ≤ c.toNat ∧ c.toNat ≤ 122) := by
  -- what the library says, with the bounds as numbers
  change ((decide (65 ≤ c.val ∧ c.val ≤ 90) || (decide (97 ≤ c.val) && decide (c.val ≤ 122))) ||
    (decide (48 ≤ c.val) && decide (c.val ≤ 57))) = true ↔ _
  simp only [Bool.or_eq_true, Bool.and_eq_true, decide_eq_true_eq, UInt32.le_iff_toNat_le]
  change ((65 ≤ c.toNat ∧ c.toNat ≤ 90) ∨ (97 ≤ c.toNat ∧ c.toNat ≤ 122)) ∨
    (48 ≤ c.toNat ∧ c.toNat ≤ 57) ↔ _
  omega

theorem isAlphanumeric_upperChar (h : c.isAlphanum = true) : IsAlphanumeric (upperChar c) := by
  have hascii : ∀ n : Fin 128, (Char.ofNat n).isAlphanum = true →
      IsAlphanumeric (upperChar (Char.ofNat n)) := by
    decide +kernel
  have hc : c.toNat < 128 := by
    rw [isAlphanum_iff] at h
    omega
  exact ascii_forall (p := fun c => c.isAlphanum = true → IsAlphanumeric (upperChar c)) hascii hc h

theorem isAlphanum_of_toLower (h : c.toLower.isAlphanum = true) : c.isAlphanum = true := by
  have hascii : ∀ n : Fin 128, (Char.ofNat n).toLower.isAlphanum = true →
      (Char.ofNat n).isAlphanum = true := by
    decide +kernel
  have hlower : c.toLower.toNat < 128 := by
    rw [isAlphanum_iff] at h
    omega
  exact ascii_forall (p := fun c => c.toLower.isAlphanum = true → c.isAlphanum = true) hascii
    (ascii_of_toLower hlower) h

/-- All letters and digits lie between the first digit and the last small letter. -/
theorem le_of_isAlphanum_ofNat {n : Nat} (h : (Char.ofNat n).isAlphanum = true) :
    48 ≤ n ∧ n ≤ 122 := by
  by_cases hvalid : n.isValidChar
  · rw [isAlphanum_iff, toNat_ofNat hvalid] at h
    omega
  · rw [Char.ofNat, dif_neg hvalid] at h
    exact absurd h (by decide)

theorem upperExpansions_latin :
    ∀ e ∈ upperExpansions, IsAlphanumeric (e.2.map Char.ofNat) → Char.ofNat e.1 ∈ latinForms := by
  decide +kernel

theorem upperRuns_latin :
    ∀ r ∈ upperRuns, r.avoids 48 122 = true ∨ (r.first = 97 ∧ r.last = 122) ∨
      (r.first = r.last ∧ Char.ofNat r.first ∈ latinForms) := by
  decide +kernel

/-- Apart from the letters and digits themselves, ten characters become ASCII letters. -/
theorem isAlphanumeric_upperChar_iff :
    IsAlphanumeric (upperChar c) ↔ c.isAlphanum = true ∨ c ∈ latinForms := by
  constructor
  · intro h
    rw [upperChar, mapChar] at h
    split at h
    · next image hi =>
      obtain ⟨before, after, he, -⟩ := List.lookup_eq_some_iff.mp hi
      have hlatin := upperExpansions_latin (c.toNat, image) (by simp [he]) h
      rw [Char.ofNat_toNat] at hlatin
      exact .inr hlatin
    · split at h
      · next r hr =>
        have hcovers := List.find?_some hr
        obtain ⟨hfirst, hlast, -⟩ := CaseRun.covers_iff.mp hcovers
        obtain havoids | ⟨ha, hz⟩ | ⟨hone, hlatin⟩ :=
          upperRuns_latin r (List.mem_of_find?_eq_some hr)
        · have hletter := le_of_isAlphanum_ofNat (h _ (List.mem_singleton_self _))
          have houtside := CaseRun.outside_of_avoids havoids hcovers
          omega
        · exact .inl (isAlphanum_iff.mpr (by omega))
        · have hc : r.first = c.toNat := by omega
          rw [hc, Char.ofNat_toNat] at hlatin
          exact .inr hlatin
      · exact .inl (h c (List.mem_singleton_self c))
  · rintro (h | h)
    · exact isAlphanumeric_upperChar h
    · have hlatin : IsAlphanumeric (latinForms.flatMap upperChar) := by decide +kernel
      exact isAlphanumeric_flatMap.mp hlatin c h

/-- The pieces of a text hold its characters other than the separator. -/
theorem exists_mem_pieces_iff (h : c ≠ sep) : (∃ piece ∈ pieces sep s, c ∈ piece) ↔ c ∈ s := by
  induction s with
  | nil => simp [pieces]
  | cons x rest ih =>
      rw [pieces]
      split
      · next hx => simp [hx, h, ih]
      · cases hp : pieces sep rest with
        | nil => exact absurd hp (pieces_ne_nil sep rest)
        | cons piece more =>
            rw [hp] at ih
            rw [List.exists_mem_cons_iff] at ih ⊢
            rw [List.mem_cons, List.mem_cons, or_assoc, ih]

/-- Characters other than the separator may be left out before a text is cut, or afterwards. -/
theorem pieces_filter {p : Char → Bool} (h : p sep = true) :
    pieces sep (s.filter p) = (pieces sep s).map (List.filter p) := by
  induction s with
  | nil => rfl
  | cons c rest ih =>
      by_cases hc : c = sep
      · rw [hc, List.filter_cons_of_pos h, pieces, if_pos rfl, pieces, if_pos rfl, ih]
        rfl
      · cases hp : pieces sep rest with
        | nil => exact absurd hp (pieces_ne_nil sep rest)
        | cons piece more =>
            rw [hp] at ih
            by_cases hpc : p c = true
            · simp [pieces, hc, hp, hpc, ih]
            · simp [pieces, hc, hp, hpc, ih]

end Text

theorem isAlphanumeric_capitalize_method {method : String} (h : isHttpMethod method = true) :
    Text.IsAlphanumeric (Text.capitalize method).toList := by
  have hletters : ∀ m ∈ httpMethods.map asciiLower, Text.IsAlphanumeric m := by decide +kernel
  have hmethod := hletters _ (isHttpMethod_iff.mp h)
  rw [← asciiLower_capitalize h] at hmethod
  intro c hc
  exact Text.isAlphanum_of_toLower (hmethod _ (List.mem_map_of_mem hc))

namespace PathTemplate.Layout

/-- All that stands in a path outside of its parameters. -/
def literalText (l : Layout) : List Char :=
  l.literals.flatten

theorem filter_wildcards (l : Layout) :
    l.wildcards.filter (· != wildcard) = l.literalText.filter (· != wildcard) := by
  induction l with
  | text literal => simp [wildcards, literalText, literals]
  | parameter literal name rest ih =>
      rw [wildcards_parameter, literalText, literals, List.flatten_cons, List.filter_append,
        List.filter_append, List.filter_cons_of_neg (by simp), ih, literalText]

end PathTemplate.Layout

namespace LogicalName

open PathTemplate (wildcard Layout)
open Text (IsAlphanumeric)

variable {s : List Char}

/-- A word that keeps to the alphabet when it is capitalized. -/
def IsPlainWord : List Char → Prop
  | [] => True
  | first :: rest => (first.isAlphanum = true ∨ first ∈ Text.latinForms) ∧ IsAlphanumeric rest

instance : DecidablePred IsPlainWord
  | [] => .isTrue trivial
  | _ :: _ => inferInstanceAs (Decidable (_ ∧ _))

/-- All segments of the text are plain words, apart from their wildcards. -/
def IsPlain (text : List Char) : Prop :=
  ∀ segment ∈ Text.pieces '/' text, IsPlainWord (segment.filter (· != wildcard))

instance : DecidablePred IsPlain :=
  fun text => List.decidableBAll _ (Text.pieces '/' text)

theorem isAlphanumeric_capitalizeChars_iff :
    IsAlphanumeric (Text.capitalizeChars s) ↔ IsPlainWord s := by
  cases s with
  | nil => simp [Text.capitalizeChars, IsAlphanumeric, IsPlainWord]
  | cons first rest =>
      rw [Text.capitalizeChars, Text.isAlphanumeric_append, Text.isAlphanumeric_upperChar_iff,
        IsPlainWord]

theorem fragmentChars_eq_flatMap (s : List Char) :
    fragmentChars s = (Text.pieces '/' s).flatMap word := by
  have hpieces := fragmentChars_intercalate
    fun piece (hp : piece ∈ Text.pieces '/' s) => Text.not_mem_of_mem_pieces hp
  rwa [Text.intercalate_pieces] at hpieces

theorem isAlphanumeric_fragmentChars_iff : IsAlphanumeric (fragmentChars s) ↔ IsPlain s := by
  rw [fragmentChars_eq_flatMap, Text.isAlphanumeric_flatMap]
  exact forall₂_congr fun segment _ => isAlphanumeric_capitalizeChars_iff

/-- Wildcards leave no trace in a fragment. -/
theorem fragmentChars_filter (s : List Char) :
    fragmentChars (s.filter (· != wildcard)) = fragmentChars s := by
  rw [fragmentChars_eq_flatMap, Text.pieces_filter (by decide), List.flatMap_map,
    fragmentChars_eq_flatMap]
  apply List.flatMap_congr
  intro segment _
  simp [word]

variable {l : Layout} {before suffix path method : String}

/-- A name consists of the prefix, the words of the literal text and the capitalized method. -/
theorem destination_toList (h : l.Describes path) (before method : String) :
    (destination before path method).toList =
      before.toList ++ fragmentChars l.literalText ++ (Text.capitalize method).toList := by
  rw [destination, String.toList_append, String.toList_append, fragment, String.toList_ofList,
    h.wildcards_eq, ← fragmentChars_filter, l.filter_wildcards, fragmentChars_filter]

theorem isAlphanumeric_destination_iff (h : l.Describes path)
    (hb : IsAlphanumeric before.toList) (hm : isHttpMethod method = true) :
    IsAlphanumeric (destination before path method).toList ↔ IsPlain l.literalText := by
  rw [destination_toList h, Text.isAlphanumeric_append, Text.isAlphanumeric_append,
    isAlphanumeric_fragmentChars_iff, and_iff_left (isAlphanumeric_capitalize_method hm),
    and_iff_right hb]

theorem isAlphanumeric_rule_iff (name : String) (hs : IsAlphanumeric suffix.toList) :
    IsAlphanumeric (rule name suffix).toList ↔ IsAlphanumeric name.toList := by
  rw [rule, String.toList_append, Text.isAlphanumeric_append, and_iff_left hs]

/-- ASCII letters and digits are plain, together with slashes and wildcards. -/
theorem isPlain_of_alphanumeric {text : List Char}
    (h : ∀ c ∈ text, c.isAlphanum = true ∨ c = '/' ∨ c = '*') : IsPlain text := by
  intro segment hs
  have hall : IsAlphanumeric (segment.filter (· != wildcard)) := by
    intro c hc
    obtain ⟨hmem, hne⟩ := List.mem_filter.mp hc
    have hslash : c ≠ '/' := fun he => Text.not_mem_of_mem_pieces hs (he ▸ hmem)
    obtain ha | he | he := h c ((Text.exists_mem_pieces_iff hslash).mp ⟨segment, hs, hmem⟩)
    · exact ha
    · exact absurd he hslash
    · exact absurd he (bne_iff_ne.mp hne)
  cases hw : segment.filter (· != wildcard) with
  | nil => trivial
  | cons first rest =>
      rw [hw] at hall
      obtain ⟨hfirst, hrest⟩ := List.forall_mem_cons.mp hall
      exact ⟨.inl hfirst, hrest⟩

/-- Beside letters, digits, slashes and wildcards only few characters are plain. -/
theorem IsPlain.cases_of_mem {text : List Char} (h : IsPlain text) {c : Char} (hc : c ∈ text) :
    c.isAlphanum = true ∨ c = '/' ∨ c = '*' ∨ c ∈ Text.latinForms := by
  by_cases hslash : c = '/'
  · exact .inr (.inl hslash)
  by_cases hwildcard : c = '*'
  · exact .inr (.inr (.inl hwildcard))
  obtain ⟨segment, hs, hmem⟩ := (Text.exists_mem_pieces_iff hslash).mpr hc
  have hword := h segment hs
  have hmem : c ∈ segment.filter (· != wildcard) :=
    List.mem_filter.mpr ⟨hmem, bne_iff_ne.mpr hwildcard⟩
  cases hw : segment.filter (· != wildcard) with
  | nil => simp [hw] at hmem
  | cons first rest =>
      rw [hw] at hmem hword
      obtain ⟨hfirst, hrest⟩ := hword
      obtain rfl | hmem := List.mem_cons.mp hmem
      · exact hfirst.imp_right fun hl => .inr (.inr hl)
      · exact .inl (hrest c hmem)

end LogicalName

namespace Specification

open LogicalName
open PathTemplate (Layout)
open Text (IsAlphanumeric)

/-- The template has a resource under each of the two names of a destination. -/
theorem Compiled.exists_resource {s : Specification} {o : Options} {c : Compilation}
    (h : s.Compiled o c) {d : GeneratedDestination} (hd : d ∈ c.destinations) {name : String}
    (hname : name ∈ [d.name, d.ruleName]) : ∃ v, c.resource? name = some v := by
  have hused : name ∈ Entries.keys (c.usedNames o.policy) := by
    rw [c.keys_usedNames, List.mem_append, List.mem_flatMap]
    exact .inr ⟨d, hd, hname⟩
  obtain ⟨r, -, hr⟩ := h.exists_of_mem_usedNames hused
  exact ⟨_, hr⟩

/-- If the prefix and the suffix of rules consist of ASCII letters and digits, the two names of an
operation do so exactly if the literal text of its path is plain, whatever its parameters are
called. This goes for all names under which a template has resources for operations. Letters,
digits, slashes and wildcards are plain, and no other characters are but ten that become ASCII
letters at the beginning of a segment. -/
theorem alphabet_of_names (o : Options) (hbefore : IsAlphanumeric o.namePrefix.toList)
    (hsuffix : IsAlphanumeric o.policy.ruleSuffix.toList) :
    (∀ path method, isHttpMethod method = true → ∀ l : Layout, l.Describes path →
      ∀ name ∈ [destination o.namePrefix path method,
          rule (destination o.namePrefix path method) o.policy.ruleSuffix],
        IsAlphanumeric name.toList ↔ IsPlain l.literalText) ∧
    (∀ (s : Specification) c, s.KnownMethods → s.compile o = .ok c →
      ∀ d ∈ c.destinations, ∀ l : Layout, l.Describes d.path → ∀ name ∈ [d.name, d.ruleName],
        (∃ v, c.resource? name = some v) ∧
          (IsAlphanumeric name.toList ↔ IsPlain l.literalText)) ∧
    (∀ text, (∀ c ∈ text, c.isAlphanum = true ∨ c = '/' ∨ c = '*') → IsPlain text) ∧
    ∀ text, IsPlain text →
      ∀ c ∈ text, c.isAlphanum = true ∨ c = '/' ∨ c = '*' ∨ c ∈ Text.latinForms := by
  have hnames : ∀ path method, isHttpMethod method = true → ∀ l : Layout, l.Describes path →
      ∀ name ∈ [destination o.namePrefix path method,
          rule (destination o.namePrefix path method) o.policy.ruleSuffix],
        IsAlphanumeric name.toList ↔ IsPlain l.literalText := by
    intro path method hm l hl name hname
    have hdestination := isAlphanumeric_destination_iff hl hbefore hm
    obtain rfl | hrule := List.mem_cons.mp hname
    · exact hdestination
    · rw [List.mem_singleton.mp hrule, isAlphanumeric_rule_iff _ hsuffix]
      exact hdestination
  refine ⟨hnames, ?_, fun text => isPlain_of_alphanumeric, fun text h c => h.cases_of_mem⟩
  intro s c hm h d hd l hl name hname
  have hc := compiled_of_compile h
  refine ⟨hc.exists_resource hd hname, ?_⟩
  rw [hc.destinations] at hd
  obtain ⟨hdestination, hrule⟩ := names_of_mem_destinations hd
  rw [hrule, hdestination] at hname
  exact hnames d.path d.method (hm.destinations hd) l hl name hname

/-- An API with punctuation in the name of a parameter, and elsewhere in another path. -/
def hyphenApi : Specification where
  servers := [{ url := some "https://api.example.com" }]
  paths :=
    [("/v1/\x7buser-id\x7d/items*", { operations := [("put", { id := some "p" })] }),
      ("/user-items/\x7bid\x7d", { operations := [("PUT", { id := some "q" })] })]

theorem knownMethods_hyphenApi : hyphenApi.KnownMethods := by
  unfold KnownMethods PathsKnown PathItem.KnownMethods
  decide +kernel

/-- The names of the first path keep to the alphabet, and those of the second one do not. -/
theorem alphabet_of_names_hyphenApi :
    ∃ c, hyphenApi.compile { namePrefix := "Api" } = .ok c ∧
      (∃ v, c.resource? "ApiV1ItemsPutRule" = some v) ∧
      IsAlphanumeric "ApiV1ItemsPutRule".toList ∧
      (∃ v, c.resource? "ApiUser-itemsPUT" = some v) ∧
      ¬ IsAlphanumeric "ApiUser-itemsPUT".toList := by
  let o : Options := { namePrefix := "Api" }
  obtain ⟨c, h⟩ := exists_ok_of_isOk (by decide +kernel : (hyphenApi.compile o).isOk = true)
  have hdestinations : c.destinations =
      [⟨"ApiV1ItemsPut", "ApiV1ItemsPutRule", "/v1/\x7buser-id\x7d/items*", "put", "p"⟩,
        ⟨"ApiUser-itemsPUT", "ApiUser-itemsPUTRule", "/user-items/\x7bid\x7d", "PUT", "q"⟩] := by
    rw [(compiled_of_compile h).destinations]
    decide +kernel
  obtain ⟨-, hall, -, -⟩ := alphabet_of_names o (by decide +kernel) (by decide +kernel)
  have hnames := hall hyphenApi c knownMethods_hyphenApi h
  simp only [hdestinations, List.forall_mem_cons] at hnames
  obtain ⟨hitems, huser, -⟩ := hnames
  obtain ⟨-, ⟨hrule, hlegal⟩, -⟩ := hitems _ (Layout.describes_ofPath _)
  obtain ⟨⟨hdestination, hillegal⟩, -⟩ := huser _ (Layout.describes_ofPath _)
  have hplain : IsPlain (Layout.ofPath "/v1/\x7buser-id\x7d/items*").literalText := by
    decide +kernel
  have hhyphen : ¬ IsPlain (Layout.ofPath "/user-items/\x7bid\x7d").literalText := by
    decide +kernel
  exact ⟨c, h, hrule, hlegal.mpr hplain, hdestination, mt hillegal.mp hhyphen⟩

/-- With the standard options a hyphen gets from a path into the name of a resource. -/
theorem not_alphanumeric_hyphenApi :
    IsAlphanumeric ({} : Options).namePrefix.toList ∧
      IsAlphanumeric ({} : Options).policy.ruleSuffix.toList ∧
      isHttpMethod "PUT" = true ∧
      ¬ IsAlphanumeric (destination "" "/user-items/\x7bid\x7d" "PUT").toList ∧
      ∃ c v, hyphenApi.compile {} = .ok c ∧
        c.resource? (destination "" "/user-items/\x7bid\x7d" "PUT") = some v := by
  refine ⟨by decide +kernel, by decide +kernel, by decide +kernel, by decide +kernel, ?_⟩
  obtain ⟨c, h⟩ := exists_ok_of_isOk (by decide +kernel : (hyphenApi.compile {}).isOk = true)
  have hc := compiled_of_compile h
  have hd : ⟨destination "" "/user-items/\x7bid\x7d" "PUT", "User-itemsPUTRule",
      "/user-items/\x7bid\x7d", "PUT", "q"⟩ ∈ c.destinations := by
    rw [hc.destinations]
    decide +kernel
  obtain ⟨v, hv⟩ := hc.exists_resource hd List.mem_cons_self
  exact ⟨c, v, h, hv⟩

end Specification

end EventRouting
