import EventRouting.Decimal.Style
import EventRouting.Document.Value

/-!
# Writing values as JSON

Objects and arrays are indented by two spaces. A key must be a text, a truth value or a finite
number; a tagged value becomes an object whose key is the tag.
-/

namespace EventRouting.Json.Printer

/-- Floating-point numbers are positional from 1e-5 up to 1e15; exponents have a sign and two
digits. -/
def floatStyle : Binary64.Style where
  least := -5
  greatest := 15
  plus := true
  width := 2

/-- The text of a finite number. -/
def number? : Number → Option String
  | .int n => some (toString n)
  | .float (.finite negative m e) => some (floatStyle.write negative m e)
  | .float _ => none

/-- The four hexadecimal digits of a control character. -/
def hex4 (n : Nat) : List Char :=
  let digits := Nat.toDigits 16 n
  List.replicate (4 - digits.length) '0' ++ digits

/-- A character between quotes. -/
def escaped (c : Char) : List Char :=
  match c with
  | '"' => ['\\', '"']
  | '\\' => ['\\', '\\']
  | '\x08' => ['\\', 'b']
  | '\x0c' => ['\\', 'f']
  | '\n' => ['\\', 'n']
  | '\r' => ['\\', 'r']
  | '\t' => ['\\', 't']
  | c => if c.toNat < 0x20 then ['\\', 'u'] ++ hex4 c.toNat else [c]

/-- A text between quotes. -/
def string (s : String) : String :=
  String.ofList ('"' :: s.toList.flatMap escaped ++ ['"'])

/-- The text that a key is written as. -/
def key? : Value → Option String
  | .string s => some s
  | .bool b => some (if b then "true" else "false")
  | .number n => number? n
  | _ => none

/-- A tag as a key. -/
def tagKey (name : String) : String :=
  "!" ++ name

/-- The start of a line. -/
def newline (depth : Nat) : String :=
  String.ofList ('\n' :: List.replicate (2 * depth) ' ')

/-- Lines between two brackets, or the brackets alone. -/
def block (depth : Nat) (opening closing : String) (lines : List String) : String :=
  if lines.isEmpty then opening ++ closing
  else
    opening ++ ",".intercalate (lines.map (newline (depth + 1) ++ ·)) ++ newline depth ++ closing

mutual

/-- The text of a value inside of `depth` brackets. -/
def value? (depth : Nat) : Value → Option String
  | .null => some "null"
  | .bool b => some (if b then "true" else "false")
  | .number n => some ((number? n).getD "null")
  | .string s => some (string s)
  | .sequence items => do return block depth "[" "]" (← items? (depth + 1) items)
  | .mapping entries => do return block depth "\x7b" "\x7d" (← entries? (depth + 1) entries)
  | .tagged name v => do
      return block depth "\x7b" "\x7d" [string (tagKey name) ++ ": " ++ (← value? (depth + 1) v)]

/-- The texts of the items of an array. -/
def items? (depth : Nat) : List Value → Option (List String)
  | [] => some []
  | v :: vs => do return (← value? depth v) :: (← items? depth vs)

/-- The texts of the members of an object. -/
def entries? (depth : Nat) : List (Value × Value) → Option (List String)
  | [] => some []
  | (k, v) :: es => do
      let member := string (← key? k) ++ ": " ++ (← value? depth v)
      return member :: (← entries? depth es)

end

end EventRouting.Json.Printer

namespace EventRouting

/-- A value as a JSON document, or nothing if some key cannot be written. -/
def Value.toJson? (v : Value) : Option String :=
  (Json.Printer.value? 0 v).map (· ++ "\n")

end EventRouting
