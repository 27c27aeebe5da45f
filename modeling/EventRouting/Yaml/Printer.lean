import EventRouting.Decimal.Style
import EventRouting.Yaml.ScalarText

/-!
# Writing values as YAML

Collections are written in block style with two spaces of indentation; a sequence under a key is not
indented. An entry whose key is long, has several lines or is a collection is written with `?` and
`:` on lines of their own.
-/

namespace EventRouting.Yaml.Printer

/-- Floating-point numbers are positional from 1e-5 up to 1e15. -/
def floatStyle : Binary64.Style where
  least := -5
  greatest := 15
  plus := false
  width := 1

/-- The text of a number. -/
def number : Number → String
  | .int n => toString n
  | .float .nan => ".nan"
  | .float (.infinite negative) => if negative then "-.inf" else ".inf"
  | .float (.finite negative m e) => floatStyle.write negative m e

/-- Where a node is written. -/
structure Place where
  /-- The column of the collection around it, if there is one. -/
  column : Option Nat := none
  /-- Whether that collection is a mapping. -/
  inMapping : Bool := false
  /-- Whether a collection may start on the same line. -/
  sameLine : Bool := true
  /-- What separates the node from what is before it. -/
  gap : List Char := []

namespace Place

/-- The column inside of the collection. -/
def inner (p : Place) : Nat :=
  match p.column with
  | some c => c + 2
  | none => 0

/-- The column of a scalar's further lines. -/
def scalarColumn (p : Place) : Nat :=
  match p.column with
  | some c => c + 2
  | none => 2

/-- The column of a sequence, which is not indented under a key. -/
def sequenceColumn (p : Place) : Nat :=
  match p.column with
  | some c => if p.inMapping && !p.sameLine then c else c + 2
  | none => 0

/-- What comes before the first entry of a collection at a column. -/
def opening (p : Place) (column : Nat) : List Char :=
  if p.sameLine then p.gap else '\n' :: ScalarText.spaces column

/-- The place behind a tag. -/
def afterTag (p : Place) : Place :=
  { p with sameLine := false, gap := [' '] }

end Place

/-- The place of an item of a sequence. -/
def itemPlace (column : Nat) : Place :=
  ⟨some column, false, true, [' ']⟩

/-- The place of a value behind a simple key. -/
def valuePlace (column : Nat) : Place :=
  ⟨some column, true, false, [' ']⟩

/-- The place of a key or a value on a line of its own. -/
def explicitPlace (column : Nat) : Place :=
  ⟨some column, true, true, [' ']⟩

/-- Ends the line, unless it has ended. -/
def endLine (s : List Char) : List Char :=
  match s.getLast? with
  | some c => if c == '\n' || c == '\u2028' || c == '\u2029' then s else s ++ ['\n']
  | none => s ++ ['\n']

/-- Lines of a collection at a column, one behind the other. -/
def joinLines (column : Nat) : List (List Char) → List Char
  | [] => []
  | [line] => line
  | line :: lines => endLine line ++ ScalarText.spaces column ++ joinLines column lines

/-- The bytes of a character in UTF-8. -/
def bytes (c : Char) : List UInt8 :=
  c.toString.toUTF8.toList

/-- A character of a tag; one that a tag may not hold is written by its bytes. -/
def tagChar (c : Char) : List Char :=
  if c.isAlphanum || ['-', ';', '/', '?', ':', '@', '&', '=', '+', '$', ',', '_', '.', '~', '*',
      '\'', '(', ')', '[', ']'].contains c then [c]
  else (bytes c).flatMap fun b => '%' :: ScalarText.hex 2 b.toNat

/-- The characters of a tag behind its exclamation mark; a lone exclamation mark has none. -/
def tagSuffix (name : String) : List Char :=
  match name.toList with
  | '!' :: rest => rest
  | rest => rest

/-- A tag as it is written. -/
def tag (name : String) : List Char :=
  match tagSuffix name with
  | [] => ['!', '<'] ++ tagChar '!' ++ ['>']
  | suffix => '!' :: suffix.flatMap tagChar

/-- The text of a value that is no collection. -/
def scalar (column : Nat) : Value → List Char
  | .null => "null".toList
  | .bool b => (if b then "true" else "false").toList
  | .number n => (number n).toList
  | .string s => ScalarText.write column s.toList
  | _ => []

/-- How many bytes a text has. -/
def byteLength (s : List Char) : Nat :=
  (String.ofList s).utf8ByteSize

/-- Whether a key can stand on the line of its value: it has one line and at most 128 bytes, of
which its tag takes up `tagLength`. -/
def isSimpleKey (tagLength : Nat) : Value → Bool
  | .sequence items => items.isEmpty && tagLength ≤ 128
  | .mapping entries => entries.isEmpty && tagLength ≤ 128
  | .tagged name v => isSimpleKey (1 + byteLength (tagSuffix name)) v
  | .string s => !ScalarText.isMultiline s.toList && tagLength + s.utf8ByteSize ≤ 128
  | v => tagLength + byteLength (scalar 0 v) ≤ 128

/-- Whether a value is tagged, or a mapping of one entry. As the only key of a mapping such a value
could not be told from a tag. -/
def isTagLike : Value → Bool
  | .tagged .. => true
  | .mapping [_] => true
  | _ => false

mutual

/-- A node at its place, without the end of its last line. `underTag` says whether a tag is written
directly before it. -/
def node (p : Place) (underTag : Bool) : Value → Option (List Char)
  | .tagged name v =>
      if underTag then none
      else do return p.gap ++ tag name ++ (← node p.afterTag true v)
  | .sequence [] => some (p.gap ++ ['[', ']'])
  | .mapping [] => some (p.gap ++ ['\x7b', '\x7d'])
  | .sequence (v :: vs) => do
      let column := p.sequenceColumn
      return p.opening column ++ joinLines column (← items column (v :: vs))
  | .mapping ((k, v) :: es) =>
      if es.isEmpty && !underTag && isTagLike k then none
      else do
        let column := p.inner
        return p.opening column ++ joinLines column (← entries column ((k, v) :: es))
  | v => some (p.gap ++ scalar p.scalarColumn v)

/-- The items of a sequence, each behind its dash. -/
def items (column : Nat) : List Value → Option (List (List Char))
  | [] => some []
  | v :: vs => do return ('-' :: (← node (itemPlace column) false v)) :: (← items column vs)

/-- The entries of a mapping. -/
def entries (column : Nat) : List (Value × Value) → Option (List (List Char))
  | [] => some []
  | (k, v) :: es => do
      let entry ←
        if isSimpleKey 0 k then do
          let key ← node { valuePlace column with gap := [] } false k
          pure (key ++ ':' :: (← node (valuePlace column) false v))
        else do
          let key := '?' :: (← node (explicitPlace column) false k)
          pure (endLine key ++ ScalarText.spaces column ++
            ':' :: (← node (explicitPlace column) false v))
      return entry :: (← entries column es)

end

end EventRouting.Yaml.Printer

namespace EventRouting

/-- A value as a YAML document. Tags directly behind one another cannot be written, and neither can
a mapping whose only key looks like a tag. -/
def Value.toYaml? (v : Value) : Option String :=
  (Yaml.Printer.node {} false v).map fun s => String.ofList (Yaml.Printer.endLine s)

end EventRouting
