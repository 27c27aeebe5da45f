import EventRouting.Text.Case
import EventRouting.Text.PrintTable

/-!
# Quoted text

A text between double quotes, as diagnostics show file names: quotes and the backslash are escaped,
and so is every character that cannot be seen on its own.
-/

namespace EventRouting.Text

/-- The hexadecimal digits of a number, lowercase and without leading zeros. -/
def hexDigits (n : Nat) : List Char :=
  Nat.toDigits 16 n

/-- Whether a character is shown as it is. -/
def isVisible (c : Char) : Bool :=
  !inRanges extendingRanges c.toNat && !inRanges invisibleRanges c.toNat

/-- The characters that stand for one character between the quotes. -/
def quotedChar (c : Char) : List Char :=
  match c with
  | '\x00' => ['\\', '0']
  | '\t' => ['\\', 't']
  | '\r' => ['\\', 'r']
  | '\n' => ['\\', 'n']
  | '\\' => ['\\', '\\']
  | '"' => ['\\', '"']
  | '\'' => ['\\', '\'']
  | c =>
      if isVisible c then [c]
      else ['\\', 'u', '\x7b'] ++ hexDigits c.toNat ++ ['\x7d']

/-- The text between double quotes, with escapes where a character could not be seen. -/
def quoted (s : String) : String :=
  String.ofList ('"' :: s.toList.flatMap quotedChar ++ ['"'])

example : quoted "out/a.yaml" = "\"out/a.yaml\"" := by decide +kernel
example : quoted "it's\n" = "\"it\\'s\\n\"" := by decide +kernel

end EventRouting.Text
