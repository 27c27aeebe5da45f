import EventRouting.Text.CaseTable

/-!
# Letter case

Full Unicode case mapping: a letter may map to several characters, and a capital sigma becomes the
final form at the end of a word. Everything here works character by character, apart from that one
rule.
-/

namespace EventRouting.Text

/-- Looks a code point up in a table of ranges. -/
def inRanges (ranges : List (Nat × Nat)) (n : Nat) : Bool :=
  ranges.any fun r => r.1 ≤ n && n ≤ r.2

/-- The image of a character under a table of expansions and a table of runs; a character in
neither is its own image. -/
def mapChar (expansions : List (Nat × List Nat)) (runs : List CaseRun) (c : Char) : List Char :=
  match expansions.lookup c.toNat with
  | some image => image.map Char.ofNat
  | none =>
      match runs.find? (·.covers c.toNat) with
      | some run => [Char.ofNat (run.apply c.toNat)]
      | none => [c]

/-- The uppercase form of a character. -/
def upperChar (c : Char) : List Char :=
  mapChar upperExpansions upperRuns c

/-- The lowercase form of a character outside of any word. -/
def lowerChar (c : Char) : List Char :=
  mapChar lowerExpansions lowerRuns c

/-- Whether the first character that case rules do not look through is a letter of either case. -/
def startsCased (s : List Char) : Bool :=
  match s.dropWhile (fun c => inRanges caseIgnorableRanges c.toNat) with
  | [] => false
  | c :: _ => inRanges casedRanges c.toNat

/-- Lowercase of the text that follows `before`, which is held last character first. A capital
sigma that ends a word takes its final form. -/
def lowerFrom (before : List Char) : List Char → List Char
  | [] => []
  | c :: rest =>
      let image :=
        if c = 'Σ' then
          [if startsCased before && !startsCased rest then 'ς' else 'σ']
        else lowerChar c
      image ++ lowerFrom (c :: before) rest

/-- The uppercase form of a text. -/
def upper (s : String) : String :=
  String.ofList (s.toList.flatMap upperChar)

/-- The lowercase form of a text. -/
def lower (s : String) : String :=
  String.ofList (lowerFrom [] s.toList)

/-- Uppercases the first character and leaves the rest. -/
def capitalizeChars : List Char → List Char
  | [] => []
  | c :: rest => upperChar c ++ rest

/-- Uppercases the first character of a text and leaves the rest. -/
def capitalize (s : String) : String :=
  String.ofList (capitalizeChars s.toList)

@[simp] theorem upper_toList (s : String) : (upper s).toList = s.toList.flatMap upperChar := by
  simp [upper]

@[simp] theorem capitalize_toList (s : String) :
    (capitalize s).toList = capitalizeChars s.toList := by
  simp [capitalize]

/-- Uppercasing works piece by piece. -/
theorem upper_append (s t : String) : upper (s ++ t) = upper s ++ upper t := by
  simp [upper, String.ofList_append]

example : upper "straße" = "STRASSE" := by decide +kernel
example : lower "ΟΔΟΣ" = "οδος" := by decide +kernel
example : capitalize "ŉa" = "ʼNa" := by decide +kernel

end EventRouting.Text
