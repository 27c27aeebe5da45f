import EventRouting.Yaml.Cursor
import EventRouting.Yaml.Token
import EventRouting.Yaml.Token.Scalar

/-!
# Names, tags and directives

The tokens that describe a node or a document instead of being one: anchors and aliases, tags with
their percent escapes, and the two directives.
-/

namespace EventRouting.Yaml

/-- Whether a name may end before this text. -/
def endsName : List Char → Bool
  | [] => true
  | c :: _ => isGap c || isBreak c || c == '?' || c == ':' || c == ',' || c == ']' || c == '\x7d' ||
      c == '%' || c == '@' || c.toNat == 0x60

/-- Reads the name behind `&` or `*`. -/
def nodeName? (p : Cursor) : Option (List Char × Cursor) :=
  let (name, q) := p.span isWordChar
  if name.isEmpty || !endsName q.rest then none else some (name, q)

/-- The characters of a tag that stand for themselves. Within angle brackets the flow indicators
other than braces are among them. -/
def isTagChar (verbatim : Bool) (c : Char) : Bool :=
  isWordChar c || [';', '/', '?', ':', '@', '&', '=', '+', '$', '.', '!', '~', '*', '\'', '(',
    ')'].contains c || (verbatim && (c == ',' || c == '[' || c == ']'))

/-- How many bytes a character has whose first byte is `b`. -/
def byteCount (b : Nat) : Nat :=
  if b < 0x80 then 1
  else if 0xC0 ≤ b ∧ b < 0xE0 then 2
  else if 0xE0 ≤ b ∧ b < 0xF0 then 3
  else if 0xF0 ≤ b ∧ b < 0xF8 then 4
  else 0

/-- The code point whose first byte is `b`, as far as that byte tells. -/
def leadingBits (b : Nat) : Nat :=
  match byteCount b with
  | 2 => b % 0x20
  | 3 => b % 0x10
  | 4 => b % 0x08
  | _ => b

/-- The text of a tag, with the escapes resolved, and how many characters of input it takes up.
In the middle of an escaped character, `bytes` more bytes belong to it and `number` is what those so
far denote. -/
def tagText? (verbatim : Bool) : (bytes : Nat) → (number : Nat) → List Char →
    Option (List Char × Nat)
  | 0, _, [] => some ([], 0)
  | _ + 1, _, [] => none
  | 0, _, '%' :: a :: b :: rest => do
      let byte := 16 * (← hexValue? a) + (← hexValue? b)
      match byteCount byte with
      | 0 => none
      | 1 => (tagText? verbatim 0 0 rest).map fun r => (Char.ofNat byte :: r.1, r.2 + 3)
      | n + 1 => (tagText? verbatim n (leadingBits byte) rest).map fun r => (r.1, r.2 + 3)
  | bytes + 1, number, '%' :: a :: b :: rest => do
      let byte := 16 * (← hexValue? a) + (← hexValue? b)
      if byte < 0x80 ∨ 0xC0 ≤ byte then none
      else
        let number := number * 0x40 + byte % 0x40
        if bytes = 0 then
          let c ← charOf? number
          (tagText? verbatim 0 0 rest).map fun r => (c :: r.1, r.2 + 3)
        else (tagText? verbatim bytes number rest).map fun r => (r.1, r.2 + 3)
  | _ + 1, _, _ :: _ => none
  | 0, _, c :: rest =>
      if c == '%' then none
      else if isTagChar verbatim c then
        (tagText? verbatim 0 0 rest).map fun r => (c :: r.1, r.2 + 1)
      else some ([], 0)

/-- Reads the text of a tag, which must not be empty. -/
def tagUri? (verbatim : Bool) (p : Cursor) : Option (List Char × Cursor) := do
  let (text, count) ← tagText? verbatim 0 0 p.rest
  if count = 0 then none else some (text, p.skip count)

/-- Splits a tag's text off its handle: `!`, or a word between two exclamation marks. Where the
text turns out to have no handle of its own, the word belongs to the suffix of `!`. -/
def handle (p : Cursor) : List Char × Cursor :=
  let (word, q) := (p.skip 1).span isWordChar
  match q.rest with
  | '!' :: _ => ('!' :: word ++ ['!'], q.skip 1)
  | _ => ('!' :: word, q)

/-- Reads a tag from its exclamation mark on. -/
def tag? (flow : Bool) (p : Cursor) : Option (Token × Cursor) := do
  let (token, q) ← match p.rest with
    | '!' :: '<' :: _ => do
        let (uri, q) ← tagUri? true (p.skip 2)
        match q.rest with
        | '>' :: _ => some (Token.tag [] uri, q.skip 1)
        | _ => none
    | _ =>
        let (h, q) := handle p
        if 1 < h.length && h.getLast? == some '!' then do
          let (suffix, q) ← tagUri? false q
          some (Token.tag h suffix, q)
        else do
          let (more, count) ← tagText? false 0 0 q.rest
          match h.drop 1 ++ more with
          | [] => some (Token.tag [] ['!'], q)
          | suffix => some (Token.tag ['!'] suffix, q.skip count)
  let ends := match q.rest with
    | ',' :: _ => flow
    | rest => endsWord rest
  if ends then some (token, q) else none

/-- A version number of at most nine digits. -/
def versionNumber? (p : Cursor) : Option (Nat × Cursor) :=
  let (digits, q) := p.span Char.isDigit
  if digits.isEmpty || 9 < digits.length then none
  else some (digits.foldl (fun n c => 10 * n + (c.toNat - 0x30)) 0, q)

/-- Skips the spaces and tabs before the next character. -/
def Cursor.skipGap (p : Cursor) : Cursor :=
  (p.span isGap).2

/-- Reads the directive behind a percent sign, with the rest of its line. -/
def directive? (p : Cursor) : Option (Token × Cursor) := do
  let (name, q) := p.span isWordChar
  if !endsWord q.rest then none
  else
    let (token, q) ← match String.ofList name with
      | "YAML" => do
          let (major, q) ← versionNumber? q.skipGap
          match q.rest with
          | '.' :: _ =>
              let (minor, q) ← versionNumber? (q.skip 1)
              some (Token.version major minor, q)
          | _ => none
      | "TAG" => do
          let q := q.skipGap
          match q.rest with
          | '!' :: _ =>
              let (h, q) := handle q
              if h != ['!'] && !(1 < h.length && h.getLast? == some '!') then none
              else if q.rest.isEmpty || !(q.rest.take 1).all isGap then none
              else
                let (uri, q) ← tagUri? true q.skipGap
                if endsWord q.rest then some (Token.tagHandle h uri, q) else none
          | _ => none
      | _ => none
    let q := q.skipGap
    let q := match q.rest with
      | '#' :: _ => (q.span (!isBreak ·)).2
      | _ => q
    if endsLine q.rest then some (token, q.next) else none

end EventRouting.Yaml
