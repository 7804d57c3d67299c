import NoteSearch.Number.Shortest

/-!
# Numbers with a given number of places

Messages may ask for a number of decimal places or of significant digits. The value is rounded exactly,
a half to the even digit. The full form of a number keeps its point and its zeros where they say nothing.
-/

namespace NoteSearch.Binary64

/-- The digits of `n`, at least `width` of them. -/
def padDigits (width n : Nat) : Text :=
  let digits := Nat.toDigits 10 n
  List.replicate (width - digits.length) '0' ++ digits

/-- A number with its fraction after a point; the short form of a whole number has no point. -/
def pointed (full : Bool) (whole fraction : Text) : Text :=
  if fraction.isEmpty && !full then whole else whole ++ '.' :: fraction

/-- A quotient with `places` decimal places. -/
def fixed (full : Bool) (num den places : Nat) : Text :=
  let digits := padDigits (places + 1) (roundHalfEven (num * Nat.pow 10 places) den)
  pointed full (digits.take (digits.length - places)) (digits.drop (digits.length - places))

/-- The `count` leading digits of a positive quotient and the exponent of the first one. -/
def leadingDigits (num den count : Nat) : Text × Int :=
  let place := leadingPlace num den - (count - 1)
  let (n, d) :=
    if 0 ≤ place then (num, den * Nat.pow 10 place.toNat) else (num * Nat.pow 10 (-place).toNat, den)
  let digits := Nat.toDigits 10 (roundHalfEven n d)
  (digits.take count, place + digits.length - 1)

/-- The leading digits, also of zero. -/
def significant (num den count : Nat) : Text × Int :=
  if num = 0 then (List.replicate count '0', 0) else leadingDigits num den count

/-- An exponent with its sign and at least two digits. -/
def exponentText (mark : Char) (exponent : Int) : Text :=
  mark :: (if exponent < 0 then '-' else '+') :: padDigits 2 exponent.natAbs

/-- One digit before the point and `places` after it, with the exponent. -/
def scientific (full : Bool) (mark : Char) (num den places : Nat) : Text :=
  let (digits, exponent) := significant num den (places + 1)
  pointed full (digits.take 1) (digits.drop 1) ++ exponentText mark exponent

def dropZeros (digits : Text) : Text :=
  (digits.reverse.dropWhile (· == '0')).reverse

/-- `count` significant digits, positional for moderate exponents; the short form has no trailing
zeros. -/
def general (full : Bool) (mark : Char) (num den count : Nat) : Text :=
  let count := max count 1
  let (digits, exponent) := significant num den count
  let keep (digits : Text) : Text := if full then digits else dropZeros digits
  if exponent < -4 ∨ (count : Int) ≤ exponent then
    pointed full (digits.take 1) (keep (digits.drop 1)) ++ exponentText mark exponent
  else if exponent < 0 then
    pointed full ['0'] (List.replicate (exponent.natAbs - 1) '0' ++ keep digits)
  else pointed full (digits.take (exponent.toNat + 1)) (keep (digits.drop (exponent.toNat + 1)))

end NoteSearch.Binary64
