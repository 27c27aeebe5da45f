import EventRouting.Yaml.Scalar

/-!
# How scalars are written

A text is written plainly if it then reads back as itself, between single quotes if it must not be
taken for something else, as a literal block if it has several lines, and between double quotes with
escapes if nothing else can hold its characters.
-/

namespace EventRouting.Yaml.ScalarText

/-- The line breaks of written text. -/
def isBreak (c : Char) : Bool :=
  c == '\n' || c == '\r' || c == '\x85' || c == '\u2028' || c == '\u2029'

/-- Whether a word ends before this text. -/
def endsWord : List Char → Bool
  | [] => true
  | c :: _ => c == ' ' || c == '\t' || c == '\x00' || isBreak c

/-- The characters that are written as they are. -/
def isPrintable (c : Char) : Bool :=
  let n := c.toNat
  n == 0x0A || (0x20 ≤ n && n ≤ 0x7E) || (0xA0 ≤ n && n ≤ 0xD7FF) ||
    (0xE000 ≤ n && n ≤ 0xFFFD && n != 0xFEFF) || 0x10000 ≤ n

/-- Whether a character at the start of a plain scalar means something else before this text. -/
def isIndicatorFirst (c : Char) (rest : List Char) : Bool :=
  ['#', ',', '[', ']', '\x7b', '\x7d', '&', '*', '!', '|', '>', '\'', '"', '%', '@'].contains c ||
    c.toNat == 0x60 || ((c == '?' || c == ':' || c == '-') && endsWord rest)

/-- Whether a colon or a number sign within a plain scalar ends it: `spaced` says whether a word
ended before. -/
def endsWithin (spaced : Bool) : List Char → Bool
  | [] => false
  | c :: rest =>
      (c == ':' && endsWord rest) || (c == '#' && spaced) || endsWithin (endsWord [c]) rest

/-- Whether characters of two classes stand side by side. -/
def hasPair (first second : Char → Bool) : List Char → Bool
  | a :: b :: rest => (first a && second b) || hasPair first second (b :: rest)
  | _ => false

/-- Whether the text starts with three dashes or three points. -/
def startsMarker : List Char → Bool
  | '-' :: '-' :: '-' :: _ => true
  | '.' :: '.' :: '.' :: _ => true
  | _ => false

/-- Whether the text has several lines. -/
def isMultiline (s : List Char) : Bool :=
  s.any isBreak

/-- Whether some character needs an escape, or a blank before a line break would be lost. -/
def needsEscape (s : List Char) : Bool :=
  s.any (!isPrintable ·) || hasPair (· == ' ') isBreak s

/-- Whether a plain scalar can hold the text. -/
def fitsPlain (s : List Char) : Bool :=
  match s with
  | [] => true
  | c :: rest =>
      !(needsEscape s || isMultiline s || c == ' ' || s.getLast? == some ' ' || startsMarker s ||
        isIndicatorFirst c rest || endsWithin (endsWord [c]) rest)

/-- Whether a scalar between single quotes can hold the text. -/
def fitsSingle (s : List Char) : Bool :=
  !(needsEscape s || hasPair isBreak (· == ' ') s)

/-- Whether a literal block can hold the text. -/
def fitsLiteral (s : List Char) : Bool :=
  !(needsEscape s || s.getLast? == some ' ')

/-- Indentation. -/
def spaces (n : Nat) : List Char :=
  List.replicate n ' '

/-- The lines between single quotes: quotes are doubled, and what follows a line break is indented,
the closing quote as well. -/
def singleQuotedLines (indent : Nat) : (atStart : Bool) → List Char → List Char
  | atStart, [] => (if atStart then spaces indent else []) ++ ['\'']
  | atStart, c :: rest =>
      if isBreak c then c :: singleQuotedLines indent true rest
      else
        (if atStart then spaces indent else []) ++ (if c == '\'' then ['\'', '\''] else [c]) ++
          singleQuotedLines indent false rest

/-- The text between single quotes. -/
def singleQuoted (indent : Nat) (s : List Char) : List Char :=
  '\'' :: singleQuotedLines indent false s

/-- The uppercase hexadecimal digits of a number, at least `width` of them. -/
def hex (width n : Nat) : List Char :=
  let digits := (Nat.toDigits 16 n).map Char.toUpper
  List.replicate (width - digits.length) '0' ++ digits

/-- A character between double quotes. -/
def escaped (c : Char) : List Char :=
  if c == '"' || c == '\\' || isBreak c || !isPrintable c then
    '\\' ::
      match c with
      | '\x00' => ['0']
      | '\x07' => ['a']
      | '\x08' => ['b']
      | '\t' => ['t']
      | '\n' => ['n']
      | '\x0b' => ['v']
      | '\x0c' => ['f']
      | '\r' => ['r']
      | '\x1b' => ['e']
      | '"' => ['"']
      | '\\' => ['\\']
      | '\x85' => ['N']
      | '\u2028' => ['L']
      | '\u2029' => ['P']
      | c =>
          let n := c.toNat
          if n ≤ 0xFF then 'x' :: hex 2 n
          else if n ≤ 0xFFFF then 'u' :: hex 4 n
          else 'U' :: hex 8 n
  else [c]

/-- The text between double quotes. -/
def doubleQuoted (s : List Char) : List Char :=
  '"' :: s.flatMap escaped ++ ['"']

/-- The header of a literal block: the indentation where the first line hides it, and what becomes
of the breaks at the end. -/
def literalHeader (s : List Char) : List Char :=
  let hint := match s with
    | c :: _ => if c == ' ' || isBreak c then ['2'] else []
    | [] => []
  let chomping := match s.reverse with
    | [] => ['-']
    | [c] => if isBreak c then ['+'] else ['-']
    | c :: d :: _ => if !isBreak c then ['-'] else if isBreak d then ['+'] else []
  '|' :: hint ++ chomping

/-- The lines of a literal block, each indented unless it is empty. -/
def literalLines (indent : Nat) : (atStart : Bool) → List Char → List Char
  | _, [] => []
  | atStart, c :: rest =>
      if isBreak c then c :: literalLines indent true rest
      else (if atStart then spaces indent else []) ++ c :: literalLines indent false rest

/-- A literal block. -/
def literal (indent : Nat) (s : List Char) : List Char :=
  literalHeader s ++ ['\n'] ++ literalLines indent true s

/-- The written form of a text whose further lines are indented by `indent`. -/
def write (indent : Nat) (s : List Char) : List Char :=
  if s.contains '\n' then
    if fitsLiteral s then literal indent s else doubleQuoted s
  else if Scalar.isPlainText s && fitsPlain s then s
  else if fitsSingle s then singleQuoted indent s
  else doubleQuoted s

example : write 2 "a: b".toList = "'a: b'".toList := by decide +kernel
example : write 2 "x\ny\n".toList = "|\n  x\n  y\n".toList := by decide +kernel
example : write 2 "007".toList = "'007'".toList := by decide +kernel
example : write 2 "\t".toList = "\"\\t\"".toList := by decide +kernel

end EventRouting.Yaml.ScalarText
