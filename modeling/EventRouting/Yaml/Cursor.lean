/-!
# Places in a text

The characters that a document may hold, the classes that decide where a token ends, and a place in
a text: what is left of it, with the line and the column of the next character. Every line break
but the two Unicode separators is read as a line feed, so a line break is a single character.
-/

namespace EventRouting.Yaml

/-- The characters that may occur in a document. -/
def isAllowed (c : Char) : Bool :=
  let n := c.toNat
  n == 0x09 || n == 0x0A || n == 0x0D || (0x20 ≤ n && n ≤ 0x7E) || n == 0x85 ||
    (0xA0 ≤ n && n ≤ 0xD7FF) || (0xE000 ≤ n && n ≤ 0xFFFD) || 0x10000 ≤ n

/-- Space and tab. -/
def isGap (c : Char) : Bool :=
  c == ' ' || c == '\t'

/-- The line breaks of a text whose breaks are uniform. -/
def isBreak (c : Char) : Bool :=
  c == '\n' || c == '\u2028' || c == '\u2029'

/-- Letters, digits, the low line and the hyphen. -/
def isWordChar (c : Char) : Bool :=
  c.isAlphanum || c == '_' || c == '-'

/-- The brackets and the comma of flow collections. -/
def isFlowIndicator (c : Char) : Bool :=
  c == ',' || c == '[' || c == ']' || c == '\x7b' || c == '\x7d'

/-- Whether a word ends before this text: at a gap, a break or the end. -/
def endsWord : List Char → Bool
  | [] => true
  | c :: _ => isGap c || isBreak c

/-- Whether the line ends before this text. -/
def endsLine : List Char → Bool
  | [] => true
  | c :: _ => isBreak c

/-- Whether the text starts with the marker of a document's start or end, `---` or `...`. -/
def startsMarker : List Char → Bool
  | '-' :: '-' :: '-' :: rest => endsWord rest
  | '.' :: '.' :: '.' :: rest => endsWord rest
  | _ => false

/-- Reads every line break but the Unicode separators as a line feed. -/
def uniformBreaks : List Char → List Char
  | [] => []
  | '\r' :: '\n' :: rest => '\n' :: uniformBreaks rest
  | '\r' :: rest => '\n' :: uniformBreaks rest
  | '\x85' :: rest => '\n' :: uniformBreaks rest
  | c :: rest => c :: uniformBreaks rest

/-- A place in a text. -/
structure Cursor where
  rest : List Char
  line : Nat
  column : Nat

namespace Cursor

/-- The place behind the next character. -/
def next (p : Cursor) : Cursor :=
  match p.rest with
  | [] => p
  | c :: rest =>
      if isBreak c then ⟨rest, p.line + 1, 0⟩ else ⟨rest, p.line, p.column + 1⟩

/-- The place `n` characters further on the same line. -/
def skip (p : Cursor) (n : Nat) : Cursor :=
  ⟨p.rest.drop n, p.line, p.column + n⟩

/-- The longest run of characters of a class on the line, and the place behind it. -/
def span (p : Cursor) (class? : Char → Bool) : List Char × Cursor :=
  let run := p.rest.takeWhile class?
  (run, p.skip run.length)

/-- The beginning of a document's text, if it holds allowed characters only. A byte order mark
counts as a column but is not part of any token. -/
def start? (text : String) : Option Cursor :=
  let chars := text.toList
  if chars.all isAllowed then
    match chars with
    | '\uFEFF' :: rest => some ⟨uniformBreaks rest, 0, 1⟩
    | chars => some ⟨uniformBreaks chars, 0, 0⟩
  else none

end Cursor

end EventRouting.Yaml
