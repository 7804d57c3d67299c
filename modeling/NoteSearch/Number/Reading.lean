import NoteSearch.Character.Digit
import NoteSearch.Number.Binary64
import NoteSearch.Text.Basic

/-!
# Reading numbers

Numbers arrive as text from the environment, from option records and from the command line. Digits may
be grouped by single underscores. An option takes ASCII digits, leading zeros grouped in any way, and a
fraction of zeros; the command line takes the digits of every script.
-/

namespace NoteSearch.Number

/-- The text without its underscores, when they stand one by one between other characters. -/
def joinGroups? (t : Text) : Option Text :=
  let groups := t.splitAll '_'
  if groups.all fun group => !group.isEmpty then some groups.flatten else none

/-- Whether the number is negative, and the text after its sign. -/
def splitSign : Text → Bool × Text
  | '-' :: rest => (true, rest)
  | '+' :: rest => (false, rest)
  | rest => (false, rest)

/-- The number that decimal digits of any script spell. -/
def ofDigits (digits : Text) : Nat :=
  digits.foldl (fun n c => 10 * n + (decimalValue? c).getD 0) 0

def signed (negative : Bool) (n : Nat) : Int :=
  if negative then -(n : Int) else n

/-- Longer numbers are not read. -/
def maxDigits : Nat := 4300

/-- Blanks that may surround the number in an option; the information separators may not. -/
def isOptionBlank (c : Char) : Bool :=
  isBlank c && !decide (28 ≤ c.toNat ∧ c.toNat ≤ 31)

def trimOption (t : Text) : Text :=
  ((t.dropWhile isOptionBlank).reverse.dropWhile isOptionBlank).reverse

/-- The text without a fraction of zeros. -/
def dropZeroFraction (t : Text) : Text :=
  match t.splitAt? '.' with
  | some (whole, zeros) => if !zeros.isEmpty && zeros.all (· == '0') then whole else t
  | none => t

/-- The text without leading zeros and the underscores among them; of zeros alone and before a point the
last character stays. What follows the zeros has to go on like a number. -/
def dropLeadingZeros? (t : Text) : Option Text :=
  let zeros := if t.head? == some '0' then t.takeWhile fun c => c == '0' || c == '_' else []
  let last := zeros.drop (zeros.length - 1)
  match t.drop zeros.length with
  | [] => if last.isEmpty then none else some last
  | c :: rest =>
      if c.isDigit || c == '-' then some (c :: rest)
      else if c == '.' && !last.isEmpty then some (last ++ c :: rest)
      else none

/-- Why the text of an option spells no integer. -/
inductive IntFault
  | unreadable
  | tooLong
  deriving DecidableEq, Repr

/-- An integer whose digits are not grouped and do not begin with a spare zero; only a minus sign may
stand before it. -/
def plainInt (t : Text) : Except IntFault Int :=
  let negative := t.head? == some '-'
  let body := if negative then t.drop 1 else t
  let digits := body.takeWhile Char.isDigit
  let spareZero := digits.head? == some '0' && digits != ['0']
  if digits.isEmpty || spareZero then .error .unreadable
  else if maxDigits < digits.length then .error .tooLong
  else if digits.length < body.length then .error .unreadable
  else .ok (signed negative (ofDigits digits))

/-- The text of an integer in plain form: without a plus sign, spare zeros, a fraction of zeros and the
underscores that group its digits. -/
def tidyInt? (t : Text) : Option Text :=
  let (negative, body) := splitSign t
  if t.head? == some '+' && body.head? == some '-' then none
  else ((dropLeadingZeros? body).bind fun digits => joinGroups? (dropZeroFraction digits)).map fun digits =>
    if negative then '-' :: digits else digits

/-- The integer that the text of an option spells. -/
def optionInt (t : Text) : Except IntFault Int :=
  let t := trimOption t
  match plainInt t with
  | .error .unreadable =>
      match tidyInt? t with
      | some tidy => plainInt tidy
      | none => .error .unreadable
  | read => read

/-- The integer that an argument of the command line spells. -/
def argumentInt? (t : Text) : Option Int :=
  let (negative, body) := splitSign t.strip
  match joinGroups? body with
  | some digits =>
      if digits.all isDecimal && decide (digits.length ≤ maxDigits) then
        some (signed negative (ofDigits digits))
      else none
  | none => none

/-- A power of ten after the digits of a number; no text is no power. -/
def exponent? : Text → Option Int
  | [] => some 0
  | c :: rest =>
      if c == 'e' || c == 'E' then
        let (negative, digits) := splitSign rest
        if !digits.isEmpty && digits.all Char.isDigit then some (signed negative (ofDigits digits))
        else none
      else none

/-- An unsigned decimal number with at least one digit. -/
def decimal? (negative : Bool) (t : Text) : Option Binary64 :=
  let whole := t.takeWhile Char.isDigit
  let (places, tail) :=
    match t.dropWhile Char.isDigit with
    | '.' :: rest => (rest.takeWhile Char.isDigit, rest.dropWhile Char.isDigit)
    | rest => ([], rest)
  if whole.isEmpty && places.isEmpty then none
  else (exponent? tail).map fun power =>
    .ofDecimal negative (ofDigits (whole ++ places)) (power - places.length)

/-- A floating-point number without grouped digits. -/
def plainFloat? (t : Text) : Option Binary64 :=
  let (negative, body) := splitSign t
  let name := String.ofList (body.map Char.toLower)
  if name == "inf" || name == "infinity" then some (.infinite negative)
  else if name == "nan" then some .nan
  else decimal? negative body

/-- The floating-point number that the text of an option spells. Blanks may surround it only when nothing
is grouped. -/
def optionFloat? (t : Text) : Option Binary64 :=
  (plainFloat? (trimOption t)).or ((joinGroups? t).bind plainFloat?)

end NoteSearch.Number
