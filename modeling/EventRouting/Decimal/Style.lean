import EventRouting.Decimal.Shortest

/-!
# Ways to write a floating-point number

A style says which numbers are written positionally and how an exponent looks. A positional number
always has a point, so that it reads back as a floating-point number.
-/

namespace EventRouting.Binary64

/-- How finite floating-point numbers are written. -/
structure Style where
  /-- The least exponent of the leading digit that is written positionally. -/
  least : Int
  /-- The greatest exponent of the leading digit that is written positionally. -/
  greatest : Int
  /-- Whether an exponent that is not negative has a sign. -/
  plus : Bool
  /-- The least number of digits in an exponent. -/
  width : Nat

/-- The decimal digits of a number. -/
def digitsOf (n : Nat) : List Char :=
  Nat.toDigits 10 n

/-- Digits with a point so that the leading one has the exponent `lead`. -/
def positional (digits : List Char) : Int → List Char
  | .ofNat lead =>
      let whole := digits.take (lead + 1)
      let fraction := digits.drop (lead + 1)
      whole ++ List.replicate (lead + 1 - whole.length) '0' ++ ['.'] ++
        (if fraction.isEmpty then ['0'] else fraction)
  | .negSucc lead => ['0', '.'] ++ List.replicate lead '0' ++ digits

/-- The exponent as the style wants it. -/
def Style.exponent (style : Style) (lead : Int) : List Char :=
  let digits := digitsOf lead.natAbs
  (if lead < 0 then ['-'] else if style.plus then ['+'] else []) ++
    List.replicate (style.width - digits.length) '0' ++ digits

/-- One digit before the point, none behind it if there is no second one, and the exponent. -/
def Style.scientific (style : Style) (digits : List Char) (lead : Int) : List Char :=
  let fraction := digits.drop 1
  digits.take 1 ++ (if fraction.isEmpty then [] else '.' :: fraction) ++ ['e'] ++
    style.exponent lead

/-- A finite number in the given style, by its shortest digits. -/
def Style.write (style : Style) (negative : Bool) (significand : Nat) (exponent : Int) : String :=
  let sign := if negative then ['-'] else []
  if significand = 0 then String.ofList (sign ++ ['0', '.', '0'])
  else
    let (n, e) := shortest significand exponent
    let digits := digitsOf n
    let lead := e + digits.length - 1
    String.ofList (sign ++
      if style.least ≤ lead ∧ lead ≤ style.greatest then positional digits lead
      else style.scientific digits lead)

end EventRouting.Binary64
