import EventRouting.Yaml.Scalar
import EventRouting.Yaml.Token.Scalar

/-!
# Assignments

Lines that give names a text or a whole number, in the notation of TOML: comments, four kinds of
quoted texts, and numbers in base two, eight, ten and sixteen. Tables, lists and all other kinds of
values are refused, and so is a name that stands twice.
-/

namespace EventRouting.Toml

/-- A value that a name is given. -/
inductive Setting
  | text (s : String)
  | integer (n : Int)
deriving DecidableEq, Repr

/-- Space and tab. -/
def isGap (c : Char) : Bool :=
  c == ' ' || c == '\t'

/-- The characters that stand for themselves in comments and quoted texts. -/
def isPlain (c : Char) : Bool :=
  let n := c.toNat
  n == 0x09 || (0x20 ≤ n && n ≤ 0x7E) || 0x80 ≤ n

/-- The character that a letter behind a backslash stands for. -/
def escapeChar? : Char → Option Char
  | 'b' => some '\x08'
  | 't' => some '\t'
  | 'n' => some '\n'
  | 'f' => some '\x0c'
  | 'r' => some '\r'
  | '"' => some '"'
  | '\\' => some '\\'
  | _ => none

/-- The character whose code point the digits write. -/
def charOf? (digits : List Char) : Option Char := do
  Yaml.charOf? (← Yaml.hexNumber? digits)

/-- The text up to a double quote and what is behind the quote. -/
def basic : List Char → Option (List Char × List Char)
  | [] => none
  | '"' :: rest => some ([], rest)
  | '\\' :: 'u' :: a :: b :: c :: d :: rest => do
      let x ← charOf? [a, b, c, d]
      (basic rest).map fun r => (x :: r.1, r.2)
  | '\\' :: 'U' :: a :: b :: c :: d :: e :: f :: g :: h :: rest => do
      let x ← charOf? [a, b, c, d, e, f, g, h]
      (basic rest).map fun r => (x :: r.1, r.2)
  | '\\' :: c :: rest => do
      let x ← escapeChar? c
      (basic rest).map fun r => (x :: r.1, r.2)
  | c :: rest =>
      if c != '\\' && isPlain c then (basic rest).map fun r => (c :: r.1, r.2) else none

/-- The text up to a single quote and what is behind the quote. -/
def verbatim : List Char → Option (List Char × List Char)
  | [] => none
  | '\'' :: rest => some ([], rest)
  | c :: rest => if isPlain c then (verbatim rest).map fun r => (c :: r.1, r.2) else none

/-- Where the next character of a text of several lines stands. -/
inductive LinePlace
  | inText
  /-- Behind a backslash that hides the end of the line. -/
  | beforeBreak
  /-- In the blank space that such a backslash hides. -/
  | hidden

/-- The text up to three double quotes and what is behind them. Of five quotes, the first two belong
to the text. -/
def multilineBasic : LinePlace → List Char → Option (List Char × List Char)
  | _, [] => none
  | .beforeBreak, '\r' :: '\n' :: rest => multilineBasic .hidden rest
  | .beforeBreak, c :: rest =>
      if c == '\n' then multilineBasic .hidden rest
      else if isGap c then multilineBasic .beforeBreak rest
      else none
  | _, '"' :: '"' :: '"' :: '"' :: '"' :: rest => some (['"', '"'], rest)
  | _, '"' :: '"' :: '"' :: '"' :: rest => some (['"'], rest)
  | _, '"' :: '"' :: '"' :: rest => some ([], rest)
  | _, '\\' :: 'u' :: a :: b :: c :: d :: rest => do
      let x ← charOf? [a, b, c, d]
      (multilineBasic .inText rest).map fun r => (x :: r.1, r.2)
  | _, '\\' :: 'U' :: a :: b :: c :: d :: e :: f :: g :: h :: rest => do
      let x ← charOf? [a, b, c, d, e, f, g, h]
      (multilineBasic .inText rest).map fun r => (x :: r.1, r.2)
  | _, '\\' :: '\r' :: '\n' :: rest => multilineBasic .hidden rest
  | _, '\\' :: c :: rest =>
      if c == '\n' then multilineBasic .hidden rest
      else if isGap c then multilineBasic .beforeBreak rest
      else do
        let x ← escapeChar? c
        (multilineBasic .inText rest).map fun r => (x :: r.1, r.2)
  | .hidden, '\r' :: '\n' :: rest => multilineBasic .hidden rest
  | .inText, '\r' :: '\n' :: rest =>
      (multilineBasic .inText rest).map fun r => ('\n' :: r.1, r.2)
  | place, c :: rest =>
      let isHidden := match place with
        | .hidden => c == '\n' || isGap c
        | _ => false
      if isHidden then multilineBasic .hidden rest
      else if c != '\\' && (c == '\n' || isPlain c) then
        (multilineBasic .inText rest).map fun r => (c :: r.1, r.2)
      else none

/-- The text up to three single quotes and what is behind them. Of five quotes, the first two belong
to the text. -/
def multilineVerbatim : List Char → Option (List Char × List Char)
  | [] => none
  | '\'' :: '\'' :: '\'' :: '\'' :: '\'' :: rest => some (['\'', '\''], rest)
  | '\'' :: '\'' :: '\'' :: '\'' :: rest => some (['\''], rest)
  | '\'' :: '\'' :: '\'' :: rest => some ([], rest)
  | '\r' :: '\n' :: rest => (multilineVerbatim rest).map fun r => ('\n' :: r.1, r.2)
  | c :: rest =>
      if c == '\n' || isPlain c then (multilineVerbatim rest).map fun r => (c :: r.1, r.2) else none

/-- The text without a line break at its beginning. -/
def dropBreak : List Char → List Char
  | '\n' :: rest => rest
  | '\r' :: '\n' :: rest => rest
  | s => s

/-- Digits with single low lines between them. -/
def separated? : List Char → Option (List Char)
  | [] => none
  | [c] => if c == '_' then none else some [c]
  | c :: '_' :: rest => if c == '_' then none else (separated? rest).map (c :: ·)
  | c :: rest => if c == '_' then none else (separated? rest).map (c :: ·)

/-- A whole number of 64 bits. -/
def integer? (s : List Char) : Option Int := do
  let n : Int ← match s with
    | '0' :: 'x' :: rest => natural? 16 rest
    | '0' :: 'o' :: rest => natural? 8 rest
    | '0' :: 'b' :: rest => natural? 2 rest
    | '+' :: rest => decimal? rest
    | '-' :: rest => (decimal? rest).map (- ·)
    | s => decimal? s
  if -(Nat.pow 2 63 : Int) ≤ n ∧ n < Nat.pow 2 63 then some n else none
where
  /-- The number that digits of a base write. -/
  natural? (base : Nat) (s : List Char) : Option Int := do
    let n ← Yaml.Scalar.digits? base (← separated? s)
    return (n : Int)
  /-- Decimal digits that do not start with a zero, or a zero alone. -/
  decimal? (s : List Char) : Option Int := do
    let digits ← separated? s
    if 1 < digits.length && digits.head? == some '0' then none
    else natural? 10 s

/-- A value and what is behind it. -/
def setting? : List Char → Option (Setting × List Char)
  | '"' :: '"' :: '"' :: rest => do
      let (s, rest) ← multilineBasic .inText (dropBreak rest)
      return (.text (String.ofList s), rest)
  | '\'' :: '\'' :: '\'' :: rest => do
      let (s, rest) ← multilineVerbatim (dropBreak rest)
      return (.text (String.ofList s), rest)
  | '"' :: rest => do
      let (s, rest) ← basic rest
      return (.text (String.ofList s), rest)
  | '\'' :: rest => do
      let (s, rest) ← verbatim rest
      return (.text (String.ofList s), rest)
  | s => do
      let isPart := fun (c : Char) => c.isAlphanum || c == '_' || c == '+' || c == '-'
      let n ← integer? (s.takeWhile isPart)
      return (.integer n, s.dropWhile isPart)

/-- A name and what is behind it. -/
def name? : List Char → Option (List Char × List Char)
  | '"' :: rest => basic rest
  | '\'' :: rest => verbatim rest
  | s =>
      let isPart := fun (c : Char) => c.isAlphanum || c == '_' || c == '-'
      let name := s.takeWhile isPart
      if name.isEmpty then none else some (name, s.dropWhile isPart)

/-- What is behind the end of the line, up to which only blank space and a comment may stand. -/
def endLine? (s : List Char) : Option (List Char) :=
  let s := s.dropWhile isGap
  let s := match s with
    | '#' :: rest => rest.dropWhile isPlain
    | s => s
  match s with
  | [] => some []
  | '\n' :: rest => some rest
  | '\r' :: '\n' :: rest => some rest
  | _ => none

/-- Whether the line holds nothing but blank space and a comment. -/
def isBlankLine (s : List Char) : Bool :=
  match s.dropWhile isGap with
  | [] => true
  | c :: _ => c == '#' || c == '\n' || c == '\r'

/-- Reads line after line. Every line but the last has a character, so a round for each character
and one more are enough. -/
def lines? : (rounds : Nat) → List Char → Option (List (String × Setting))
  | _, [] => some []
  | 0, _ => none
  | rounds + 1, s =>
      if isBlankLine s then do lines? rounds (← endLine? s)
      else do
        let (name, rest) ← name? (s.dropWhile isGap)
        match rest.dropWhile isGap with
        | '=' :: rest =>
            let (setting, rest) ← setting? (rest.dropWhile isGap)
            return (String.ofList name, setting) :: (← lines? rounds (← endLine? rest))
        | _ => none

/-- The assignments of a text in order, with distinct names. A byte order mark may come first. -/
def parse? (text : String) : Option (List (String × Setting)) := do
  let s := match text.toList with
    | '\uFEFF' :: rest => rest
    | s => s
  let settings ← lines? (s.length + 1) s
  if (Entries.keys settings).Nodup then some settings else none

end EventRouting.Toml
