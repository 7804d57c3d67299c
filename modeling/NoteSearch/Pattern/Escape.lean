import NoteSearch.Pattern.Syntax

/-!
# Escapes and sets

A backslash takes the meaning from a special character or gives one to a letter: a category, an anchor, a
code point in digits or by name, or what a group read. In brackets stand the members of a set, single ones
and ranges. Which names characters have is no part of the language of patterns, so it is left open, and so
is how deep the reader of a pattern can go.
-/

namespace NoteSearch.Pattern

/-- What patterns are read with. -/
class Dialect where
  /-- The character of a name. -/
  named? : Text → Option Char
  /-- So many groups and conditions may stand inside of one another. It hangs on the room that the caller
  leaves, of which a reader takes some for each. -/
  maxNesting : Nat

/-- A dialect that knows no character by name. -/
@[reducible]
def Dialect.nameless : Dialect where
  named? _ := none
  maxNesting := 490

/-! ### Numbers -/

def isHexDigit (c : Char) : Bool :=
  c.isDigit || ('a' ≤ c && c ≤ 'f') || ('A' ≤ c && c ≤ 'F')

def isOctalDigit (c : Char) : Bool :=
  '0' ≤ c && c ≤ '7'

def digitOf (c : Char) : Nat :=
  if c.isDigit then c.toNat - 48 else c.toLower.toNat - 87

/-- The number that digits of a base spell. -/
def numberOf (base : Nat) (digits : Text) : Nat :=
  digits.foldl (fun n c => base * n + digitOf c) 0

/-- Exactly `count` hexadecimal digits as a number. -/
def readHex? (count : Nat) (t : Text) : Option (Nat × Text) :=
  let digits := t.take count
  if digits.length = count && digits.all isHexDigit then some (numberOf 16 digits, t.drop count)
  else none

/-- At most `count` octal digits as a number. -/
def readOctal (count : Nat) (t : Text) : Text × Text :=
  let digits := (t.take count).takeWhile isOctalDigit
  (digits, t.drop digits.length)

/-! ### Escapes -/

/-- What an escape stands for, in a set or outside. -/
inductive Escape
  | code (n : Nat)
  | category (kind : Category) (negated : Bool)
  | anchor (place : Anchor)
  | reread (index : Nat)

def control? : Char → Option Nat
  | 'a' => some 7
  | 'f' => some 12
  | 'n' => some 10
  | 'r' => some 13
  | 't' => some 9
  | 'v' => some 11
  | _ => none

def category? : Char → Option (Category × Bool)
  | 'd' => some (.digit, false)
  | 'D' => some (.digit, true)
  | 's' => some (.blank, false)
  | 'S' => some (.blank, true)
  | 'w' => some (.word, false)
  | 'W' => some (.word, true)
  | _ => none

def anchor? : Char → Option Anchor
  | 'A' => some .textStart
  | 'Z' => some .textEnd
  | 'b' => some .boundary
  | 'B' => some .noBoundary
  | _ => none

section

variable [Dialect]

/-- The code point of a character that is called by its name, which stands in braces. -/
def readNamed? : Text → Option (Nat × Text)
  | '\x7b' :: rest =>
      (Text.splitAt? '\x7d' rest).bind fun (name, after) =>
        if name.isEmpty then none else (Dialect.named? name).map fun c => (c.toNat, after)
  | _ => none

/-- Escapes that mean the same in a set and outside: code points in hexadecimal or by name, categories,
controls and characters that are no letters. -/
def readCommonEscape? (c : Char) (rest : Text) : Option (Escape × Text) :=
  let code (read : Option (Nat × Text)) := read.map fun (n, after) => (Escape.code n, after)
  match control? c, category? c with
  | some n, _ => some (.code n, rest)
  | none, some (kind, negated) => some (.category kind negated, rest)
  | none, none =>
      if c == 'x' then code (readHex? 2 rest)
      else if c == 'u' then code (readHex? 4 rest)
      else if c == 'U' then code ((readHex? 8 rest).filter fun (n, _) => decide (n < 0x110000))
      else if c == 'N' then code (readNamed? rest)
      else if c.isAlphanum then none
      else some (.code c.toNat, rest)

/-- The escape after a backslash in a set. -/
def readSetEscape? : Text → Option (Escape × Text)
  | [] => none
  | 'b' :: rest => some (.code 8, rest)
  | c :: rest =>
      if isOctalDigit c then
        let (digits, after) := readOctal 2 rest
        let n := numberOf 8 (c :: digits)
        if n ≤ 0o377 then some (.code n, after) else none
      else readCommonEscape? c rest

/-- A number after a backslash: a code point in octal when it has three octal digits, else a
reference to a group that may be referred to. -/
def readReference? (captured : Nat → Bool) (c : Char) (rest : Text) : Option (Escape × Text) :=
  let reread (digits : Text) : Option Escape :=
    let index := numberOf 10 digits
    if captured index then some (.reread index) else none
  match rest with
  | d :: after =>
      if !d.isDigit then (reread [c]).map (·, rest)
      else
        match after with
        | e :: last =>
            if isOctalDigit c && isOctalDigit d && isOctalDigit e then
              let n := numberOf 8 [c, d, e]
              if n ≤ 0o377 then some (.code n, last) else none
            else (reread [c, d]).map (·, after)
        | [] => (reread [c, d]).map (·, after)
  | [] => (reread [c]).map (·, rest)

/-- The escape after a backslash outside a set. -/
def readEscape? (captured : Nat → Bool) : Text → Option (Escape × Text)
  | [] => none
  | c :: rest =>
      match anchor? c with
      | some place => some (.anchor place, rest)
      | none =>
          if c == '0' then
            let (digits, after) := readOctal 2 rest
            some (.code (numberOf 8 digits), after)
          else if c.isDigit then readReference? captured c rest
          else readCommonEscape? c rest

end

/-! ### Sets -/

/-- A code point as a member of a set. Half of a surrogate pair is no character. -/
def codeItem (n : Nat) : SetItem :=
  if n.isValidChar then .literal (Char.ofNat n) else .range n n

/-- What a set holds for an escape, and the code point when it may bound a range. -/
def setItem? : Escape → Option (SetItem × Option Nat)
  | .code n => some (codeItem n, some n)
  | .category kind negated => some (.category kind negated, none)
  | _ => none

section

variable [Dialect]

/-- The next member of a set, or the lower end of a range. -/
def readSetMember? : Text → Option ((SetItem × Option Nat) × Text)
  | [] => none
  | '\\' :: rest => (readSetEscape? rest).bind fun (escape, after) => (setItem? escape).map (·, after)
  | c :: rest => some ((.literal c, some c.toNat), rest)

/-- Adds a member to those read, as the lower end of a range when a dash and an upper end follow. A
dash before the closing bracket is a member. -/
def addMember? (back : List SetItem) (member : SetItem × Option Nat) :
    Text → Option (List SetItem × Text)
  | '-' :: ']' :: rest => some (.literal '-' :: member.1 :: back, ']' :: rest)
  | '-' :: rest =>
      match member.2, readSetMember? rest with
      | some low, some ((_, some high), after) =>
          if high < low then none else some (.range low high :: back, after)
      | _, _ => none
  | rest => some (member.1 :: back, rest)

/-- The members of a set up to its bracket; a bracket that comes first is a member. -/
def readSet? : (fuel : Nat) → (back : List SetItem) → Text → Option (List SetItem × Text)
  | 0, _, _ => none
  | fuel + 1, back, t =>
      match t with
      | ']' :: rest =>
          if back.isEmpty then
            (addMember? back (.literal ']', some ']'.toNat) rest).bind fun (back, after) =>
              readSet? fuel back after
          else some (back.reverse, rest)
      | _ =>
          (readSetMember? t).bind fun (member, rest) =>
            (addMember? back member rest).bind fun (back, after) => readSet? fuel back after

/-- The set after an opening bracket. -/
def readCharSet? (t : Text) : Option (CharSet × Text) :=
  let (negated, inside) := match t with
    | '^' :: rest => (true, rest)
    | _ => (false, t)
  (readSet? (inside.length + 1) [] inside).map fun (items, after) => (.ofItems items negated, after)

end

end NoteSearch.Pattern
