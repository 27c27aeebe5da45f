import EventRouting.Document.Value
import EventRouting.Text.Split

/-!
# What a plain scalar means

An unquoted scalar without a tag stands for nothing, a truth value, a number or its own text.
Whole numbers may be written in base two, eight, ten or sixteen; digits behind a leading zero are a
text, and so is a decimal that is too large to be a floating-point number.
-/

namespace EventRouting.Yaml

/-- The meaning of a scalar. A whole number keeps the sign it was written with. -/
inductive Scalar
  | null
  | bool (b : Bool)
  | integer (negative : Bool) (magnitude : Nat)
  | float (x : Binary64)
  | text (s : String)
  /-- A whole number of more than 64 but at most 128 bits. -/
  | oversized
deriving DecidableEq, Repr

namespace Scalar

/-- The value of a digit in a base. -/
def digit? (base : Nat) (c : Char) : Option Nat :=
  let n := c.toNat
  let d :=
    if 0x30 ≤ n ∧ n ≤ 0x39 then n - 0x30
    else if 0x61 ≤ n ∧ n ≤ 0x7A then n - 0x61 + 10
    else if 0x41 ≤ n ∧ n ≤ 0x5A then n - 0x41 + 10
    else base
  if d < base then some d else none

/-- The number that a non-empty row of digits denotes. -/
def digits? (base : Nat) (s : List Char) : Option Nat :=
  if s.isEmpty then none
  else s.foldl (fun acc c => do return (← acc) * base + (← digit? base c)) (some 0)

/-- The words for nothing. -/
def isNull (s : List Char) : Bool :=
  s == ['n', 'u', 'l', 'l'] || s == ['N', 'u', 'l', 'l'] || s == ['N', 'U', 'L', 'L'] || s == ['~']

/-- The words for truth values. -/
def bool? (s : List Char) : Option Bool :=
  match String.ofList s with
  | "true" | "True" | "TRUE" => some true
  | "false" | "False" | "FALSE" => some false
  | _ => none

/-- Whether digits follow a leading zero, with or without a sign. -/
def hasLeadingZero (s : List Char) : Bool :=
  let unsigned := match s with
    | '-' :: rest | '+' :: rest => rest
    | s => s
  match unsigned with
  | '0' :: rest => !rest.isEmpty && rest.all Char.isDigit
  | _ => false

/-- The digits of a number without a sign, in the base that its first two characters name. -/
def unsigned? : List Char → Option Nat
  | '0' :: 'x' :: rest => digits? 16 rest
  | '0' :: 'o' :: rest => digits? 8 rest
  | '0' :: 'b' :: rest => digits? 2 rest
  | s => if hasLeadingZero s then none else digits? 10 s

/-- A whole number: its sign and its magnitude. -/
def integer? : List Char → Option (Bool × Nat)
  | '-' :: rest => (unsigned? rest).map (true, ·)
  | '+' :: rest => (unsigned? rest).map (false, ·)
  | s => (unsigned? s).map (false, ·)

/-- Splits off an exponent: its digits with their sign, or zero if there is none. -/
def exponent? : List Char → Option Int
  | [] => some 0
  | c :: rest =>
      if c = 'e' ∨ c = 'E' then
        match rest with
        | '-' :: ds => (digits? 10 ds).map fun n => -(n : Int)
        | '+' :: ds => (digits? 10 ds).map fun n => (n : Int)
        | ds => (digits? 10 ds).map fun n => (n : Int)
      else none

/-- A decimal fraction: digits with an optional point among them, and an optional exponent. -/
def decimal? (negative : Bool) (s : List Char) : Option Binary64 :=
  let whole := s.takeWhile Char.isDigit
  let rest := s.dropWhile Char.isDigit
  let (fraction, rest) := match rest with
    | '.' :: rest => (rest.takeWhile Char.isDigit, rest.dropWhile Char.isDigit)
    | rest => ([], rest)
  if whole.isEmpty && fraction.isEmpty then none
  else do
    let digits ← digits? 10 (whole ++ fraction)
    let e ← exponent? rest
    return Binary64.ofDecimal negative digits (e - fraction.length)

/-- A floating-point number. Only the words for infinity denote an infinite one. -/
def float? (s : List Char) : Option Binary64 :=
  match String.ofList s with
  | ".inf" | ".Inf" | ".INF" | "+.inf" | "+.Inf" | "+.INF" => some (.infinite false)
  | "-.inf" | "-.Inf" | "-.INF" => some (.infinite true)
  | ".nan" | ".NaN" | ".NAN" => some .nan
  | _ =>
      let x := match s with
        | '-' :: rest => decimal? true rest
        | '+' :: rest => decimal? false rest
        | s => decimal? false s
      x.filter Binary64.isFinite

/-- A whole number with the range that it falls into. -/
def sized? (s : List Char) : Option Scalar := do
  let (negative, n) ← integer? s
  let limit := fun (bits : Nat) => if negative then Nat.pow 2 (bits - 1) else Nat.pow 2 bits - 1
  if n ≤ limit 64 then some (.integer negative n)
  else if n ≤ limit 128 then some .oversized
  else none

/-- The meaning of a plain scalar without a tag. -/
def resolve (s : List Char) : Scalar :=
  if s.isEmpty || isNull s then .null
  else
    match bool? s with
    | some b => .bool b
    | none =>
        match sized? s with
        | some scalar => scalar
        | none =>
            match if hasLeadingZero s then none else float? s with
            | some x => .float x
            | none => .text (String.ofList s)

/-- Whether a text is read back as a text when it is written without quotes. -/
def isPlainText (s : List Char) : Bool :=
  match resolve s with
  | .text _ => !hasLeadingZero s
  | _ => false

example : resolve "0x1F".toList = .integer false 31 := by decide +kernel
example : resolve "-0b11".toList = .integer true 3 := by decide +kernel
example : resolve "007".toList = .text "007" := by decide +kernel
example : resolve "1e400".toList = .text "1e400" := by decide +kernel
example : resolve ".5".toList = .float (.finite false (2 ^ 52) (-53)) := by decide +kernel

end Scalar

end EventRouting.Yaml
