import NoteSearch.FirstSeen
import NoteSearch.Json.Printer
import NoteSearch.Text.Quoted
import NoteSearch.Text.Utf8

/-!
# Values of log fields

A log field may hold values that have no JSON form of their own. A set is written as a sorted list,
bytes as the text that they spell, an error as its text, a complex number as a literal and a value of
any other kind as the text that shows it. A number that is not finite is written as null. An integer
beyond 64 bits, a value that is nested too deeply and a value of another kind that no text shows cannot
be written. Texts consist of whole characters: a text with half of a surrogate pair, which cannot be
written either, is no value here.
-/

namespace NoteSearch.Log

inductive Value
  | null
  | bool (b : Bool)
  | int (n : Int)
  | float (x : Binary64)
  | str (t : Text)
  | list (items : List Value)
  | object (fields : List (String × Value))
  | set (members : List Value)
  | bytes (data : List Byte)
  | error (message : Text)
  | complex (re im : Binary64)
  /-- A value of another kind, with the text that shows it if there is one. It is equal to no other value
  and has no place in an order. -/
  | other (kind : String) (shown : Option Text)
  deriving Inhabited, Repr

mutual

/-- A document as a value. -/
def Value.ofJson : Json → Value
  | .null => .null
  | .bool b => .bool b
  | .int n => .int n
  | .float x => .float x
  | .str t => .str t
  | .list items => .list (Value.ofItems items)
  | .object fields => .object (Value.ofFields fields)

def Value.ofItems : List Json → List Value
  | [] => []
  | item :: rest => Value.ofJson item :: Value.ofItems rest

def Value.ofFields : List (String × Json) → List (String × Value)
  | [] => []
  | (name, item) :: rest => (name, Value.ofJson item) :: Value.ofFields rest

end

/-- Why a value cannot be written. -/
inductive WriteError
  | oversizedInt
  | tooDeep
  | halfPair
  | notShown (kind : String)
  deriving DecidableEq, Repr

def WriteError.message : WriteError → String
  | .oversizedInt => "Integer exceeds 64-bit range"
  | .tooDeep => "Recursion limit reached"
  | .halfPair => "str is not valid UTF-8: surrogates not allowed"
  | .notShown kind => "Type is not JSON serializable: " ++ kind

/-- The level at which a value is nested too deeply, when the entry itself is the first level. -/
def maxDepth : Nat := 255

/-- The part of a complex number, whole numbers without a fraction. -/
def partText (x : Binary64) : Text :=
  let t := x.toText
  match t.reverse with
  | '0' :: '.' :: whole => whole.reverse
  | _ => t

/-- A complex number as a literal; a real part of positive zero is left out. -/
def complexText (re im : Binary64) : Text :=
  if re == .zero then partText im ++ ['j']
  else
    let imaginary := partText im
    let signed := if imaginary.head? == some '-' then imaginary else '+' :: imaginary
    '(' :: partText re ++ signed ++ ['j', ')']

/-- An integer as a number. It is not rounded: its mantissa is as long as it needs. -/
def exactly (n : Int) : Binary64 :=
  .finite (decide (n < 0)) n.natAbs 0

/-- The number that a value stands for, to compare by. -/
def rank? : Value → Option Binary64
  | .int n => some (exactly n)
  | .bool b => some (exactly b.toNat)
  | .float x => some x
  | _ => none

/-- The two parts of the number that a value stands for. -/
def parts? : Value → Option (Binary64 × Binary64)
  | .complex re im => some (re, im)
  | value => (rank? value).map (·, .zero)

def text? : Value → Option Text
  | .str t => some t
  | _ => none

def bytes? : Value → Option (List Byte)
  | .bytes data => some data
  | _ => none

/-- Whether two members of a set are the same member. Errors are all different, and so are values of other
kinds. -/
def sameMember (a b : Value) : Bool :=
  let same (x y : Binary64) : Bool := x.le y && y.le x
  match a, b with
  | .null, .null => true
  | .str s, .str t => s == t
  | .bytes s, .bytes t => s == t
  | a, b =>
      match parts? a, parts? b with
      | some x, some y => same x.1 y.1 && same x.2 y.2
      | _, _ => false

/-- A text with every character above the printable ones of ASCII escaped, those beyond sixteen bits as two
units, to sort by. -/
def asciiKey (t : Text) : Text :=
  let escape (unit : Nat) : Text := '\\' :: 'u' :: Text.hex 4 unit
  t.flatMap fun c =>
    if c.toNat < 0x7F then [c]
    else if c.toNat < 0x10000 then escape c.toNat
    else escape (0xD800 + (c.toNat - 0x10000) / 0x400) ++ escape (0xDC00 + (c.toNat - 0x10000) % 0x400)

/-- A member of a set with what is written of it. -/
abbrev Member := Value × Json

/-- Members in the order of their keys, if all have one. -/
def sortBy? {κ : Type} (key? : Value → Option κ) (le : κ → κ → Bool) (members : List Member) :
    Option (List Member) :=
  (members.mapM fun member => (key? member.1).map (·, member)).map fun keyed =>
    (keyed.mergeSort fun a b => le a.1 b.1).map Prod.snd

/-- What is written of a set, in order: numbers by size, texts by code points and bytes by their numbers. A
mixture has no order of its own, and where it is written its members come as they are stored, which nothing
fixes; they are put in the order of their written forms here, to have one form for each set. -/
def sortMembers (members : List Member) : List Json :=
  let members := members.foldl
    (fun done a => if done.any fun b => sameMember a.1 b.1 then done else done ++ [a]) []
  let sorted := (sortBy? rank? Binary64.le members).orElse fun _ =>
    (sortBy? text? Text.le members).orElse fun _ =>
      (sortBy? bytes? (fun a b => decide (a ≤ b)) members)
  match sorted with
  | some sorted => sorted.map Prod.snd
  | none =>
      (members.map Prod.snd).mergeSort fun a b => (asciiKey a.compact).le (asciiKey b.compact)

def writeInt (n : Int) : Except WriteError Json :=
  if -0x8000000000000000 ≤ n ∧ n < 0x10000000000000000 then .ok (.int n) else .error .oversizedInt

def writeFloat : Binary64 → Json
  | .finite s m e => .float (.finite s m e)
  | _ => .null

/-- A container at a depth, if it may stand there. -/
def within (depth : Nat) (inside : Except WriteError Json) : Except WriteError Json :=
  if depth < maxDepth then inside else .error .tooDeep

mutual

/-- The JSON form of a value at a depth. -/
def Value.write (depth : Nat) : Value → Except WriteError Json
  | .null => .ok .null
  | .bool b => .ok (.bool b)
  | .int n => writeInt n
  | .float x => .ok (writeFloat x)
  | .str t => .ok (.str t)
  | .list items => within depth ((Value.writeList (depth + 1) items).map .list)
  | .object fields => within depth ((Value.writeFields (depth + 1) fields).map .object)
  | .set members =>
      within depth ((Value.writeList (depth + 1) members).map fun written =>
        .list (sortMembers (members.zip written)))
  | .bytes data => .ok (.str (Utf8.decodeLossy data))
  | .error message => .ok (.str message)
  | .complex re im => .ok (.str (complexText re im))
  | .other _ (some shown) => .ok (.str shown)
  | .other kind none => .error (.notShown kind)

def Value.writeList (depth : Nat) : List Value → Except WriteError (List Json)
  | [] => .ok []
  | item :: rest =>
      (Value.write depth item).bind fun item => (Value.writeList depth rest).map (item :: ·)

def Value.writeFields (depth : Nat) : List (String × Value) → Except WriteError (List (String × Json))
  | [] => .ok []
  | (name, item) :: rest =>
      (Value.write depth item).bind fun item =>
        (Value.writeFields depth rest).map ((name, item) :: ·)

end

end NoteSearch.Log
