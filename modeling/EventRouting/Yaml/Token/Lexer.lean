import EventRouting.Yaml.Token
import EventRouting.Yaml.Token.Scalar
import EventRouting.Yaml.Token.Property

/-!
# From text to tokens

`Token.scan` cuts a text into tokens. Two things need memory beyond the place in the text: the
columns of the block collections around it, whose starts and ends become tokens, and the latest
scalar or collection of each level that may still turn out to be a key, which it does when a colon
follows on its line.
-/

namespace EventRouting.Yaml

/-- Something that may turn out to be a key. -/
structure Candidate where
  /-- Whether the text is malformed if it is no key. -/
  required : Bool
  /-- How many tokens come before it. -/
  before : Nat
  line : Nat
  column : Nat

/-- The state of scanning. -/
structure Lexer where
  place : Cursor
  /-- The tokens so far, the latest first. -/
  tokens : List Token := []
  count : Nat := 0
  /-- The column of the innermost block collection. -/
  indent : Option Nat := none
  /-- The columns of the collections around it. -/
  outerIndents : List (Option Nat) := []
  /-- Whether a key may start here. -/
  keyAllowed : Bool := true
  /-- The candidate of the innermost level. -/
  candidate : Option Candidate := none
  /-- The candidates of the levels around it, one for each open flow collection. -/
  outerCandidates : List (Option Candidate) := []

namespace Lexer

/-- Whether the place is inside of a flow collection. -/
def inFlow (s : Lexer) : Bool :=
  !s.outerCandidates.isEmpty

/-- Adds a token. -/
def emit (s : Lexer) (t : Token) : Lexer :=
  { s with tokens := t :: s.tokens, count := s.count + 1 }

/-- Adds a token behind the first `n` tokens. -/
def emitAt (s : Lexer) (n : Nat) (t : Token) : Lexer :=
  let later := s.count - n
  { s with tokens := s.tokens.take later ++ t :: s.tokens.drop later, count := s.count + 1 }

/-- Skips blanks, comments and line breaks. Tabs are skipped only where no key may start. -/
def skipGaps (flow : Bool) :
    (keyAllowed comment : Bool) → List Char → Nat → Nat → Cursor × Bool
  | keyAllowed, _, [], line, column => (⟨[], line, column⟩, keyAllowed)
  | keyAllowed, comment, c :: rest, line, column =>
      if isBreak c then skipGaps flow (keyAllowed || !flow) false rest (line + 1) 0
      else if comment || c == '#' then skipGaps flow keyAllowed true rest line (column + 1)
      else if c == ' ' || (c == '\t' && (flow || !keyAllowed)) then
        skipGaps flow keyAllowed false rest line (column + 1)
      else (⟨c :: rest, line, column⟩, keyAllowed)

/-- A candidate is given up once the line has ended or too much text lies behind it; a required one
makes the text malformed then. -/
def keep? (p : Cursor) : Option Candidate → Option (Option Candidate)
  | none => some none
  | some k =>
      if k.line < p.line || k.column + 1024 < p.column then
        if k.required then none else some none
      else some (some k)

/-- Gives up the candidates of all levels that are too far away. -/
def dropStale? (s : Lexer) : Option Lexer := do
  let candidate ← keep? s.place s.candidate
  let outer ← s.outerCandidates.mapM (keep? s.place)
  return { s with candidate := candidate, outerCandidates := outer }

/-- Gives up the candidate of the innermost level. -/
def dropCandidate? (s : Lexer) : Option Lexer :=
  match s.candidate with
  | some k => if k.required then none else some { s with candidate := none }
  | none => some s

/-- Makes what starts here a candidate, where a key may start. -/
def noteCandidate? (s : Lexer) : Option Lexer :=
  if s.keyAllowed then do
    let s ← s.dropCandidate?
    let required := !s.inFlow && s.indent == some s.place.column
    return { s with candidate := some ⟨required, s.count, s.place.line, s.place.column⟩ }
  else some s

/-- Opens a block collection at a column right of the innermost one. -/
def openBlock (s : Lexer) (column : Nat) (start : Token) (before : Option Nat) : Lexer :=
  let deeper : Bool := match s.indent with
    | some i => i < column
    | none => true
  if s.inFlow || !deeper then s
  else
    let s := { s with indent := some column, outerIndents := s.indent :: s.outerIndents }
    match before with
    | some n => s.emitAt n start
    | none => s.emit start

/-- Closes the block collections that lie right of a column, all of them for none. The collections
are those in `outer` and the innermost one. -/
def closeBlocks (column : Option Nat) (s : Lexer) : List (Option Nat) → Lexer
  | [] => s
  | next :: outer =>
      let closes : Bool := match s.indent, column with
        | some i, some c => c < i
        | some _, none => true
        | none, _ => false
      if closes then
        closeBlocks column { s.emit .blockEnd with indent := next, outerIndents := outer } outer
      else s

/-- Closes the block collections that lie right of a column. -/
def unindent (s : Lexer) (column : Option Nat) : Lexer :=
  if s.inFlow then s else closeBlocks column s s.outerIndents

/-- Goes behind the next `n` characters. -/
def advance (s : Lexer) (n : Nat) : Lexer :=
  { s with place := s.place.skip n }

/-- A document marker of three characters. -/
def marker? (s : Lexer) (t : Token) : Option Lexer := do
  let s ← (s.unindent none).dropCandidate?
  return ({ s with keyAllowed := false }.emit t).advance 3

/-- The start of a flow collection. -/
def openFlow? (s : Lexer) (t : Token) : Option Lexer := do
  let s ← s.noteCandidate?
  let s := { s with
    keyAllowed := true, candidate := none, outerCandidates := s.candidate :: s.outerCandidates }
  return (s.emit t).advance 1

/-- The end of a flow collection. -/
def closeFlow? (s : Lexer) (t : Token) : Option Lexer := do
  let s ← s.dropCandidate?
  let s := match s.outerCandidates with
    | candidate :: outer => { s with candidate := candidate, outerCandidates := outer }
    | [] => s
  return ({ s with keyAllowed := false }.emit t).advance 1

/-- A comma. -/
def flowEntry? (s : Lexer) : Option Lexer := do
  let s ← s.dropCandidate?
  return ({ s with keyAllowed := true }.emit .flowEntry).advance 1

/-- The dash of a sequence entry. -/
def blockEntry? (s : Lexer) : Option Lexer := do
  if !s.inFlow && !s.keyAllowed then none
  else
    let s ← (s.openBlock s.place.column .blockSequence none).dropCandidate?
    return ({ s with keyAllowed := true }.emit .blockEntry).advance 1

/-- The question mark of a key. -/
def key? (s : Lexer) : Option Lexer := do
  if !s.inFlow && !s.keyAllowed then none
  else
    let s ← (s.openBlock s.place.column .blockMapping none).dropCandidate?
    return ({ s with keyAllowed := !s.inFlow }.emit .key).advance 1

/-- The colon of a value. It turns a candidate into a key. -/
def value? (s : Lexer) : Option Lexer :=
  match s.candidate with
  | some k =>
      let s := (s.emitAt k.before .key).openBlock k.column .blockMapping (some k.before)
      some (({ s with candidate := none, keyAllowed := false }.emit .value).advance 1)
  | none =>
      if !s.inFlow && !s.keyAllowed then none
      else
        let s := s.openBlock s.place.column .blockMapping none
        some (({ s with keyAllowed := !s.inFlow }.emit .value).advance 1)

/-- A property of a node, which may belong to a key. -/
def property? (s : Lexer) (read : Cursor → Option (Token × Cursor)) : Option Lexer := do
  let s ← s.noteCandidate?
  let (t, after) ← read s.place
  return { s.emit t with keyAllowed := false, place := after }

/-- A scalar that may be a key. A key may follow it if it ends on a new line. -/
def inlineScalar? (s : Lexer) (isPlain : Bool) (read : Cursor → Option Scanned) :
    Option Lexer := do
  let s ← s.noteCandidate?
  let r ← read s.place
  return { s.emit (.scalar isPlain r.text) with keyAllowed := r.onNewLine, place := r.after }

/-- A block scalar. -/
def blockScalar? (s : Lexer) (literal : Bool) : Option Lexer := do
  let s ← s.dropCandidate?
  let r ← Yaml.blockScalar literal s.indent (s.place.skip 1)
  return { s.emit (.scalar false r.text) with keyAllowed := true, place := r.after }

/-- A directive. -/
def directiveLine? (s : Lexer) : Option Lexer := do
  let s ← (s.unindent none).dropCandidate?
  let (t, after) ← directive? (s.place.skip 1)
  return { s.emit t with keyAllowed := false, place := after }

/-- Whether a plain scalar may start with this character before this text. -/
def startsPlain (flow : Bool) (c : Char) (rest : List Char) : Bool :=
  if c == '-' then !(rest.take 1).any isGap
  else if c == '?' || c == ':' then !flow && !endsWord rest
  else !(isFlowIndicator c || ['#', '&', '*', '!', '|', '>', '\'', '"', '%', '@'].contains c ||
    c.toNat == 0x60 || isGap c || isBreak c)

/-- The token that starts with the next character. -/
def token? (s : Lexer) (c : Char) (rest : List Char) : Option Lexer :=
  let p := s.place
  if p.column == 0 && c == '%' then s.directiveLine?
  else if p.column == 0 && startsMarker (c :: rest) then
    s.marker? (if c == '-' then .documentStart else .documentEnd)
  else if c == '[' then s.openFlow? .flowSequence
  else if c == '\x7b' then s.openFlow? .flowMapping
  else if c == ']' then s.closeFlow? .flowSequenceEnd
  else if c == '\x7d' then s.closeFlow? .flowMappingEnd
  else if c == ',' then s.flowEntry?
  else if c == '-' && endsWord rest then s.blockEntry?
  else if c == '?' && (s.inFlow || endsWord rest) then s.key?
  else if c == ':' && (s.inFlow || endsWord rest) then s.value?
  else if c == '*' then
    s.property? fun p => (nodeName? (p.skip 1)).map fun r => (.alias r.1, r.2)
  else if c == '&' then
    s.property? fun p => (nodeName? (p.skip 1)).map fun r => (.anchor r.1, r.2)
  else if c == '!' then s.property? (tag? s.inFlow)
  else if c == '|' && !s.inFlow then s.blockScalar? true
  else if c == '>' && !s.inFlow then s.blockScalar? false
  else if c == '\'' then
    s.inlineScalar? false fun p => singleQuoted .none (p.rest.drop 1) p.line (p.column + 1)
  else if c == '"' then
    s.inlineScalar? false fun p => doubleQuoted .none 0 0 (p.rest.drop 1) p.line (p.column + 1)
  else if startsPlain s.inFlow c rest then
    let indent := match s.indent with
      | some column => column + 1
      | none => 0
    s.inlineScalar? true fun p => plain s.inFlow indent .none p.rest p.line p.column
  else none

/-- Goes to the next token, leaving the collections and candidates that end on the way. -/
def approach? (s : Lexer) : Option Lexer := do
  let (place, keyAllowed) :=
    skipGaps s.inFlow s.keyAllowed false s.place.rest s.place.line s.place.column
  let s ← { s with place := place, keyAllowed := keyAllowed }.dropStale?
  return s.unindent (some s.place.column)

/-- Scans until the text ends. Every round but the last takes up a character, so a round for each
character and one more are enough. -/
def scan? : (rounds : Nat) → Lexer → Option (List Token)
  | 0, _ => none
  | rounds + 1, s => do
      let s ← s.approach?
      match s.place.rest with
      | [] =>
          let s ← (s.unindent none).dropCandidate?
          return s.tokens.reverse
      | c :: rest => scan? rounds (← s.token? c rest)

end Lexer

/-- The tokens of a text, or nothing if it cannot be cut into tokens. -/
def Token.scan? (text : String) : Option (List Token) := do
  let start ← Cursor.start? text
  Lexer.scan? (start.rest.length + 1) { place := start }

end EventRouting.Yaml
