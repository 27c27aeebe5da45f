/-!
# Binary floating point

Numbers `± significand * 2 ^ exponent` with 53 significant bits, and the one that is nearest to a
decimal fraction. All arithmetic is on natural numbers, so nothing is lost on the way.
-/

namespace EventRouting

/-- A 64-bit binary floating-point number. A finite one has `significand < 2 ^ 53` and
`-1074 ≤ exponent`; the significand has its full 53 bits unless the exponent is the least one. -/
inductive Binary64
  | nan
  | infinite (negative : Bool)
  | finite (negative : Bool) (significand : Nat) (exponent : Int)
deriving DecidableEq, Repr, Inhabited

namespace Binary64

/-- The least exponent. -/
def leastExponent : Int := -1074

/-- The greatest exponent of a finite number. -/
def greatestExponent : Int := 971

/-- The two zeros are equal and a number without value equals itself. -/
def same : Binary64 → Binary64 → Bool
  | .nan, .nan => true
  | .infinite s, .infinite t => s == t
  | .finite s m e, .finite t n f => (m == 0 && n == 0) || (s == t && m == n && e == f)
  | _, _ => false

/-- The quotient rounded to the nearest integer, a half to the even one. -/
def roundDiv (num den : Nat) : Nat :=
  let q := num / den
  let twice := 2 * (num % den)
  if twice < den then q
  else if den < twice then q + 1
  else q + q % 2

/-- `num / (den * 2 ^ e)` as a fraction. -/
def scaled (num den : Nat) : Int → Nat × Nat
  | .ofNat e => (num, den * Nat.pow 2 e)
  | .negSucc e => (num * Nat.pow 2 (e + 1), den)

/-- The floating-point number nearest to the positive fraction `num / den`. -/
def ofFraction (negative : Bool) (num den : Nat) : Binary64 :=
  let guess := max ((num.log2 : Int) - den.log2 - 53) leastExponent
  let quotient := fun e => let f := scaled num den e; f.1 / f.2
  let e := if quotient guess < Nat.pow 2 53 then guess else guess + 1
  let f := scaled num den e
  let m := roundDiv f.1 f.2
  let (m, e) := if m < Nat.pow 2 53 then (m, e) else (Nat.pow 2 52, e + 1)
  if greatestExponent < e then .infinite negative else .finite negative m e

/-- How many decimal digits a number has. -/
def digitCount (n : Nat) : Nat :=
  (Nat.toDigits 10 n).length

/-- The floating-point number nearest to `digits * 10 ^ scale`. Scales that lie far out of range are
decided by the count of digits alone. -/
def ofDecimal (negative : Bool) (digits : Nat) (scale : Int) : Binary64 :=
  if digits = 0 then .finite negative 0 leastExponent
  else
    let magnitude := (digitCount digits : Int) + scale
    if magnitude < -400 then .finite negative 0 leastExponent
    else if 400 < magnitude then .infinite negative
    else
      match scale with
      | .ofNat s => ofFraction negative (digits * Nat.pow 10 s) 1
      | .negSucc s => ofFraction negative digits (Nat.pow 10 (s + 1))

/-- Whether the number is neither infinite nor without value. -/
def isFinite : Binary64 → Bool
  | .finite .. => true
  | _ => false

theorem same_refl (x : Binary64) : same x x = true := by
  cases x <;> simp [same]

theorem same_comm (x y : Binary64) : same x y = same y x := by
  cases x <;> cases y <;> grind [same]

example : ofDecimal false 1 0 = .finite false (2 ^ 52) (-52) := by decide +kernel
example : ofDecimal false 1 400 = .infinite false := by decide +kernel
example : ofDecimal false 5 (-324) = .finite false 1 (-1074) := by decide +kernel

end Binary64

end EventRouting
