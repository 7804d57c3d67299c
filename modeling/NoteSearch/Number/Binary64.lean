/-!
# Double-precision numbers

Confidences and thresholds are binary64 numbers, kept as sign, mantissa and exponent so that their
arithmetic is exact integer arithmetic followed by one rounding. A finite value is
`mantissa * 2 ^ exponent`; every operation here returns the canonical form, in which the mantissa has
53 bits or the exponent is the least one.
-/

namespace NoteSearch

inductive Binary64
  | finite (negative : Bool) (mantissa : Nat) (exponent : Int)
  | infinite (negative : Bool)
  | nan
  deriving DecidableEq, Repr, Inhabited

namespace Binary64

/-- The least exponent, that of the subnormal numbers. -/
def minExponent : Int := -1074

/-- The exponent of the largest finite numbers. -/
def maxExponent : Int := 971

def zero : Binary64 := .finite false 0 minExponent

/-- `num / (den * 2 ^ exponent)` as a quotient of naturals. -/
def scaled (num den : Nat) (exponent : Int) : Nat × Nat :=
  if 0 ≤ exponent then (num, den * Nat.pow 2 exponent.toNat)
  else (num * Nat.pow 2 (-exponent).toNat, den)

/-- The integer nearest to a quotient, the even one of two equally near. -/
def roundHalfEven (num den : Nat) : Nat :=
  let quotient := num / den
  let twice := 2 * (num % den)
  if den < twice ∨ (twice = den ∧ quotient % 2 = 1) then quotient + 1 else quotient

/-- The exponent at which a positive quotient has a mantissa of 53 bits, or the least exponent. -/
def exponentOf (num den : Nat) : Int :=
  let guess : Int := (Nat.log2 num : Int) - Nat.log2 den - 52
  let (n, d) := scaled num den guess
  max minExponent (if n / d < Nat.pow 2 52 then guess - 1 else guess)

/-- The number nearest to `num / den`, with the given sign. -/
def ofRatio (negative : Bool) (num den : Nat) : Binary64 :=
  if num = 0 then .finite negative 0 minExponent
  else
    let exponent := exponentOf num den
    let (n, d) := scaled num den exponent
    let mantissa := roundHalfEven n d
    let (mantissa, exponent) :=
      if mantissa = Nat.pow 2 53 then (Nat.pow 2 52, exponent + 1) else (mantissa, exponent)
    if maxExponent < exponent then .infinite negative else .finite negative mantissa exponent

def ofInt (n : Int) : Binary64 :=
  ofRatio (decide (n < 0)) n.natAbs 1

/-- The number nearest to a decimal number `digits * 10 ^ exponent`. Beyond 310 places the result is
infinite or zero whatever the digits are. -/
def ofDecimal (negative : Bool) (digits : Nat) (exponent : Int) : Binary64 :=
  let size : Int := exponent + (Nat.toDigits 10 digits).length
  if digits = 0 ∨ size < -330 then .finite negative 0 minExponent
  else if 330 < size then .infinite negative
  else if 0 ≤ exponent then ofRatio negative (digits * Nat.pow 10 exponent.toNat) 1
  else ofRatio negative digits (Nat.pow 10 (-exponent).toNat)

/-- The magnitude of a finite number as a quotient. -/
def ratio (mantissa : Nat) (exponent : Int) : Nat × Nat :=
  if 0 ≤ exponent then (mantissa * Nat.pow 2 exponent.toNat, 1)
  else (mantissa, Nat.pow 2 (-exponent).toNat)

/-- The signed mantissa of a finite number at a lower exponent. -/
def signedAt (lower : Int) (negative : Bool) (mantissa : Nat) (exponent : Int) : Int :=
  let size : Int := (mantissa * Nat.pow 2 (exponent - lower).toNat : Nat)
  if negative then -size else size

def lt : Binary64 → Binary64 → Bool
  | .finite s m e, .finite s' m' e' =>
      let lower := min e e'
      decide (signedAt lower s m e < signedAt lower s' m' e')
  | .finite .., .infinite negative => !negative
  | .infinite negative, .finite .. => negative
  | .infinite a, .infinite b => a && !b
  | _, _ => false

def le : Binary64 → Binary64 → Bool
  | .finite s m e, .finite s' m' e' =>
      let lower := min e e'
      decide (signedAt lower s m e ≤ signedAt lower s' m' e')
  | .finite .., .infinite negative => !negative
  | .infinite negative, .finite .. => negative
  | .infinite a, .infinite b => a || !b
  | _, _ => false

/-- The number nearest to `n * 2 ^ exponent`. -/
def ofScaled (n : Int) (exponent : Int) : Binary64 :=
  let (num, den) := ratio n.natAbs exponent
  ofRatio (decide (n < 0)) num den

def sub : Binary64 → Binary64 → Binary64
  | .finite s m e, .finite s' m' e' =>
      let lower := min e e'
      ofScaled (signedAt lower s m e - signedAt lower s' m' e') lower
  | .finite .., .infinite negative => .infinite (!negative)
  | .infinite negative, .finite .. => .infinite negative
  | .infinite a, .infinite b => if a == b then .nan else .infinite a
  | _, _ => .nan

/-- The value as an integer, when it is one. -/
def toInt? : Binary64 → Option Int
  | .finite negative m e =>
      let (num, den) := ratio m e
      if num % den = 0 then some (if negative then -((num / den : Nat) : Int) else (num / den : Nat))
      else none
  | _ => none

end Binary64

end NoteSearch
