import NoteSearch.Number.Binary64
import NoteSearch.Text.Basic

/-!
# The shortest decimal form of a number

A finite number is written with the fewest digits that read back to it, and among those with the
nearest ones. Exponents from -4 to 15 are written positionally, always with a point; the others with
a power of ten.
-/

namespace NoteSearch.Binary64

/-- The exponent of the first decimal digit of a positive quotient. -/
def leadingPlace (num den : Nat) : Int :=
  if den ≤ num then (Nat.toDigits 10 (num / den)).length - 1
  else -((Nat.toDigits 10 ((den - 1) / num)).length : Int)

/-- `digits * 10 ^ place` as a quotient. -/
def decimalRatio (digits : Nat) (place : Int) : Nat × Nat :=
  if 0 ≤ place then (digits * Nat.pow 10 place.toNat, 1) else (digits, Nat.pow 10 (-place).toNat)

/-- The multiples of `10 ^ place` next to `num / den` that read back to it, the nearer one if both
do and the even one if they are equally near. -/
def nearestAt? (num den : Nat) (place : Int) : Option Nat :=
  let value := ofRatio false num den
  let (n, d) :=
    if 0 ≤ place then (num, den * Nat.pow 10 place.toNat) else (num * Nat.pow 10 (-place).toNat, den)
  let reads (digits : Nat) : Bool :=
    let (a, b) := decimalRatio digits place
    ofRatio false a b == value
  let below := n / d
  let above := below + 1
  match reads below, reads above with
  | true, true => some (roundHalfEven n d)
  | true, false => some below
  | false, true => some above
  | false, false => none

/-- The digits and the place of the last one, tried with `count` digits up to `count + more`. -/
def shortestFrom (num den : Nat) : (more count : Nat) → Nat × Int
  | 0, count => (roundHalfEven num den, leadingPlace num den - count)
  | more + 1, count =>
      let place := leadingPlace num den - count + 1
      match nearestAt? num den place with
      | some digits => (digits, place)
      | none => shortestFrom num den more (count + 1)

/-- Digits without trailing zeros, and the exponent of the first digit. -/
def shortest (num den : Nat) : Text × Int :=
  let (digits, place) := shortestFrom num den 17 1
  let text := Nat.toDigits 10 digits
  let first := place + text.length - 1
  ((text.reverse.dropWhile (· == '0')).reverse, first)

/-- The layout of a run of digits whose first one stands at the exponent `first`. -/
def layout (digits : Text) (first : Int) : Text :=
  if first < -4 ∨ 15 < first then
    let tail := digits.drop 1
    let power := Nat.toDigits 10 first.natAbs
    digits.take 1 ++ (if tail.isEmpty then [] else '.' :: tail) ++ ['e', if first < 0 then '-' else '+']
      ++ List.replicate (2 - power.length) '0' ++ power
  else if first < 0 then ['0', '.'] ++ List.replicate (first.natAbs - 1) '0' ++ digits
  else
    let whole := digits.take (first.toNat + 1)
    let places := digits.drop (first.toNat + 1)
    whole ++ List.replicate (first.toNat + 1 - whole.length) '0' ++ ['.']
      ++ (if places.isEmpty then ['0'] else places)

/-- The shortest text that reads back to the number. -/
def toText : Binary64 → Text
  | .nan => "nan".toList
  | .infinite negative => if negative then "-inf".toList else "inf".toList
  | .finite negative mantissa exponent =>
      let body :=
        if mantissa = 0 then "0.0".toList
        else
          let (num, den) := ratio mantissa exponent
          let (digits, first) := shortest num den
          layout digits first
      if negative then '-' :: body else body

end NoteSearch.Binary64
