import EventRouting.Yaml.Cursor

/-!
# The text of scalars

Each function reads one scalar from the place behind its first indicator and gives the text that it
stands for together with the place behind it. Within a scalar, line breaks fold: a single one
becomes a space, of several all but the first are kept.
-/

namespace EventRouting.Yaml

/-- What separates two words of a scalar. -/
inductive Fold
  /-- Nothing so far. -/
  | none
  /-- Spaces and tabs on one line. -/
  | gap (blanks : List Char)
  /-- Line breaks; the first one is missing if it was escaped. -/
  | breaks (first : Option Char) (more : List Char)

namespace Fold

/-- The text that a separation folds to. -/
def text : Fold → List Char
  | .none => []
  | .gap blanks => blanks
  | .breaks (some '\n') [] => [' ']
  | .breaks (some '\n') more => more
  | .breaks first more => first.toList ++ more

/-- One more space or tab. On a new line they are indentation. -/
def blank (c : Char) : Fold → Fold
  | .none => .gap [c]
  | .gap blanks => .gap (blanks ++ [c])
  | .breaks first more => .breaks first more

/-- One more line break. Blanks before the first one do not count. -/
def lineBreak (c : Char) : Fold → Fold
  | .breaks first more => .breaks first (more ++ [c])
  | _ => .breaks (some c) []

/-- Whether a line has ended. -/
def hasBreak : Fold → Bool
  | .breaks .. => true
  | _ => false

end Fold

/-- A scalar that has been read: its text, the place behind it, and whether the place is on a new
line. -/
structure Scanned where
  text : List Char
  after : Cursor
  onNewLine : Bool := false

/-- One more piece of text in front. -/
def Scanned.prepend (piece : List Char) (s : Scanned) : Scanned :=
  { s with text := piece ++ s.text }

/-- Whether a plain scalar ends before this text. -/
def endsPlain (flow : Bool) : List Char → Bool
  | [] => true
  | c :: rest => (c == ':' && endsWord rest) || (flow && isFlowIndicator c)

/-- A colon that stands before an indicator of a flow collection has no meaning. -/
def isStrayColon (flow : Bool) : List Char → Bool
  | ':' :: c :: _ => flow && (isFlowIndicator c || c == '?')
  | _ => false

/-- Reads a plain scalar. Outside of flow collections it ends where a line starts left of
`indent`; a comment and a document marker end it as well. -/
def plain (flow : Bool) (indent : Nat) :
    Fold → List Char → Nat → Nat → Option Scanned
  | fold, [], line, column => some ⟨[], ⟨[], line, column⟩, fold.hasBreak⟩
  | fold, c :: rest, line, column =>
      if isBreak c then plain flow indent (fold.lineBreak c) rest (line + 1) 0
      else if isGap c then
        if fold.hasBreak && column < indent && c == '\t' then none
        else plain flow indent (fold.blank c) rest line (column + 1)
      else
        let ended := fold.hasBreak && ((!flow && column < indent) ||
          (column == 0 && startsMarker (c :: rest)))
        let comment := match fold with
          | .none => false
          | _ => c == '#'
        if ended || comment then some ⟨[], ⟨c :: rest, line, column⟩, fold.hasBreak⟩
        else if isStrayColon flow (c :: rest) then none
        else if endsPlain flow (c :: rest) then
          some ⟨[], ⟨c :: rest, line, column⟩, fold.hasBreak⟩
        else (plain flow indent .none rest line (column + 1)).map (·.prepend (fold.text ++ [c]))

/-- Reads a scalar between single quotes, in which a quote is written twice. -/
def singleQuoted : Fold → List Char → Nat → Nat → Option Scanned
  | _, [], _, _ => none
  | fold, '\'' :: '\'' :: rest, line, column =>
      (singleQuoted .none rest line (column + 2)).map (·.prepend (fold.text ++ ['\'']))
  | fold, '\'' :: rest, line, column => some ⟨fold.text, ⟨rest, line, column + 1⟩, false⟩
  | fold, c :: rest, line, column =>
      if isBreak c then singleQuoted (fold.lineBreak c) rest (line + 1) 0
      else if isGap c then singleQuoted (fold.blank c) rest line (column + 1)
      else if column == 0 && startsMarker (c :: rest) then none
      else (singleQuoted .none rest line (column + 1)).map (·.prepend (fold.text ++ [c]))

/-- The value of a hexadecimal digit. -/
def hexValue? (c : Char) : Option Nat :=
  let n := c.toNat
  if 0x30 ≤ n ∧ n ≤ 0x39 then some (n - 0x30)
  else if 0x61 ≤ n ∧ n ≤ 0x66 then some (n - 0x57)
  else if 0x41 ≤ n ∧ n ≤ 0x46 then some (n - 0x37)
  else none

/-- The number that hexadecimal digits write. -/
def hexNumber? (digits : List Char) : Option Nat :=
  digits.foldl (fun acc c => do return (← acc) * 16 + (← hexValue? c)) (some 0)

/-- The character of a code point; surrogates and larger numbers have none. -/
def charOf? (n : Nat) : Option Char :=
  if h : n.isValidChar then some (Char.ofNatAux n h) else none

/-- The character that a letter behind a backslash stands for. -/
def escapeChar? : Char → Option Char
  | '0' => some '\x00'
  | 'a' => some '\x07'
  | 'b' => some '\x08'
  | 't' | '\t' => some '\t'
  | 'n' => some '\n'
  | 'v' => some '\x0b'
  | 'f' => some '\x0c'
  | 'r' => some '\r'
  | 'e' => some '\x1b'
  | ' ' => some ' '
  | '"' => some '"'
  | '/' => some '/'
  | '\\' => some '\\'
  | 'N' => some '\x85'
  | '_' => some '\xa0'
  | 'L' => some '\u2028'
  | 'P' => some '\u2029'
  | _ => none

/-- How many hexadecimal digits follow a letter behind a backslash. -/
def escapeWidth : Char → Nat
  | 'x' => 2
  | 'u' => 4
  | 'U' => 8
  | _ => 0

/-- Reads a scalar between double quotes with its escapes. In an escape of a character by its
number, `digits` many digits are still to come and `number` is what the ones so far denote. -/
def doubleQuoted : Fold → (digits : Nat) → (number : Nat) → List Char → Nat → Nat → Option Scanned
  | _, _, _, [], _, _ => none
  | fold, digits + 1, number, c :: rest, line, column => do
      let number := number * 16 + (← hexValue? c)
      if digits = 0 then
        let d ← charOf? number
        (doubleQuoted .none 0 0 rest line (column + 1)).map (·.prepend (fold.text ++ [d]))
      else doubleQuoted fold digits number rest line (column + 1)
  | fold, 0, _, '"' :: rest, line, column => some ⟨fold.text, ⟨rest, line, column + 1⟩, false⟩
  | fold, 0, _, '\\' :: c :: rest, line, column =>
      if isBreak c then
        (doubleQuoted (.breaks none []) 0 0 rest (line + 1) 0).map (·.prepend fold.text)
      else if escapeWidth c ≠ 0 then doubleQuoted fold (escapeWidth c) 0 rest line (column + 2)
      else do
        let d ← escapeChar? c
        (doubleQuoted .none 0 0 rest line (column + 2)).map (·.prepend (fold.text ++ [d]))
  | fold, 0, _, c :: rest, line, column =>
      if c == '\\' then none
      else if isBreak c then doubleQuoted (fold.lineBreak c) 0 0 rest (line + 1) 0
      else if isGap c then doubleQuoted (fold.blank c) 0 0 rest line (column + 1)
      else if column == 0 && startsMarker (c :: rest) then none
      else (doubleQuoted .none 0 0 rest line (column + 1)).map (·.prepend (fold.text ++ [c]))

/-- What becomes of the line breaks at the end of a block scalar. -/
inductive Chomping
  | strip
  | clip
  | keep

/-- How a block scalar is read. -/
structure BlockScalar where
  literal : Bool
  chomping : Chomping
  /-- The column of its lines. -/
  indent : Nat

/-- The line breaks since the last line of a block scalar: the one that ended it, those of the empty
lines behind it, and whether that line began with a blank. -/
structure LineEnd where
  first : Option Char := none
  more : List Char := []
  blank : Bool := false

/-- The text between two lines of a block scalar. In a folded one a single break between lines that
do not begin with a blank becomes a space. -/
def LineEnd.join (e : LineEnd) (style : BlockScalar) (blankNext : Bool) : List Char :=
  if !style.literal && e.first == some '\n' && !e.blank && !blankNext then
    if e.more.isEmpty then [' '] else e.more
  else e.first.toList ++ e.more

/-- The text behind the last line of a block scalar. -/
def LineEnd.chomp (e : LineEnd) : Chomping → List Char
  | .strip => []
  | .clip => e.first.toList
  | .keep => e.first.toList ++ e.more

/-- Reads the lines of a block scalar whose indentation is known. `inLine` says whether the place is
within a line's text. -/
def blockLines (style : BlockScalar) :
    (inLine : Bool) → LineEnd → List Char → Nat → Nat → Option Scanned
  | _, e, [], line, column => some ⟨e.chomp style.chomping, ⟨[], line, column⟩, false⟩
  | true, e, c :: rest, line, column =>
      if isBreak c then blockLines style false { e with first := some c } rest (line + 1) 0
      else (blockLines style true e rest line (column + 1)).map (·.prepend [c])
  | false, e, c :: rest, line, column =>
      if isBreak c then blockLines style false { e with more := e.more ++ [c] } rest (line + 1) 0
      else if column < style.indent then
        if c == ' ' then blockLines style false e rest line (column + 1)
        else if c == '\t' then none
        else some ⟨e.chomp style.chomping, ⟨c :: rest, line, column⟩, false⟩
      else if column == style.indent then
        (blockLines style true { blank := isGap c } rest line (column + 1)).map
          (·.prepend (e.join style (isGap c) ++ [c]))
      else some ⟨e.chomp style.chomping, ⟨c :: rest, line, column⟩, false⟩

/-- Skips the empty lines at the beginning of a block scalar: their breaks, the place of the first
character that is no space, and the greatest column on the way. -/
def leadingLines (widest : Nat) : List Char → Nat → Nat → Option (List Char × Cursor × Nat)
  | [], line, column => some ([], ⟨[], line, column⟩, max widest column)
  | c :: rest, line, column =>
      if c == ' ' then leadingLines widest rest line (column + 1)
      else if c == '\t' then none
      else if isBreak c then
        (leadingLines (max widest column) rest (line + 1) 0).map fun r => (c :: r.1, r.2)
      else some ([], ⟨c :: rest, line, column⟩, max widest column)

/-- The indentation digit and the chomping sign behind `|` or `>`, in either order. -/
def blockHeader? (s : List Char) : Option (Chomping × Nat × List Char) :=
  let sign? := fun (s : List Char) => match s with
    | '+' :: rest => some (Chomping.keep, rest)
    | '-' :: rest => some (Chomping.strip, rest)
    | _ => none
  let digit? := fun (s : List Char) => match s with
    | c :: rest => if c.isDigit then some (c.toNat - 0x30, rest) else none
    | [] => none
  match sign? s with
  | some (chomping, rest) =>
      match digit? rest with
      | some (0, _) => none
      | some (n, rest) => some (chomping, n, rest)
      | none => some (chomping, 0, rest)
  | none =>
      match digit? s with
      | some (0, _) => none
      | some (n, rest) =>
          match sign? rest with
          | some (chomping, rest) => some (chomping, n, rest)
          | none => some (.clip, n, rest)
      | none => some (.clip, 0, s)

/-- Reads a block scalar from the place behind its indicator. `parent` is the column of the
collection around it, if there is one. -/
def blockScalar (literal : Bool) (parent : Option Nat) (p : Cursor) : Option Scanned := do
  let (chomping, digit, rest) ← blockHeader? p.rest
  let rest := rest.dropWhile isGap
  let rest := match rest with
    | '#' :: _ => rest.dropWhile (!isBreak ·)
    | _ => rest
  if !endsLine rest then none
  else
    let body : Cursor := match rest with
      | [] => ⟨[], p.line, p.column⟩
      | _ :: rest => ⟨rest, p.line + 1, 0⟩
    if digit ≠ 0 then
      let indent := match parent with
        | some column => column + digit
        | none => digit
      blockLines ⟨literal, chomping, indent⟩ false {} body.rest body.line body.column
    else
      let (breaks, first, widest) ← leadingLines 0 body.rest body.line body.column
      let least := match parent with
        | some column => column + 1
        | none => 0
      let style : BlockScalar := ⟨literal, chomping, max (max widest least) 1⟩
      blockLines style false { more := breaks } first.rest first.line first.column

end EventRouting.Yaml
