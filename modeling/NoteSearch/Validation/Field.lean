import NoteSearch.Number.Reading
import NoteSearch.Validation.Issue

/-!
# Reading fields

Fields are read leniently: a number may be written as a string, a truth value as a word or as zero or
one, and a floating-point number without a fraction counts as an integer. Upper bounds are checked
before lower ones, and a number that is none fails every bound.
-/

namespace NoteSearch.Field

/-- Whether an integer has 64 bits. -/
def isWord64 (n : Int) : Bool :=
  decide (-0x8000000000000000 ≤ n ∧ n < 0x8000000000000000)

/-- A floating-point number as an integer of 64 bits other than the least one. -/
def intOfFloat (x : Binary64) : Checked Int :=
  match x with
  | .finite .. =>
      match x.toInt? with
      | some n => if isWord64 n && isWord64 (n - 1) then .ok n else Checked.fail .oversizedInt
      | none => Checked.fail .fractionalInt
  | _ => Checked.fail .notFinite

def int : Json → Checked Int
  | .int n => .ok n
  | .bool b => .ok (if b then 1 else 0)
  | .float x => intOfFloat x
  | .str t =>
      match Number.optionInt t with
      | .ok n => .ok n
      | .error .unreadable => Checked.fail .unreadableInt
      | .error .tooLong => Checked.fail .oversizedInt
  | _ => Checked.fail .notInt

def float : Json → Checked Binary64
  | .float x => .ok x
  | .bool b => .ok (.ofInt (if b then 1 else 0))
  | .int n =>
      match Binary64.ofInt n with
      | .finite s m e => .ok (.finite s m e)
      | _ => Checked.fail .notNumber
  | .str t =>
      match Number.optionFloat? t with
      | some x => .ok x
      | none => Checked.fail .unreadableNumber
  | _ => Checked.fail .notNumber

/-- Zero and one as truth values. -/
def boolOfInt (n : Int) : Checked Bool :=
  if n = 0 then .ok false else if n = 1 then .ok true else Checked.fail .unreadableBool

def bool : Json → Checked Bool
  | .bool b => .ok b
  | .int n => if isWord64 n then boolOfInt n else Checked.fail .notBool
  | .float x =>
      match intOfFloat x with
      | .ok n => boolOfInt n
      | .error _ => Checked.fail .notBool
  | .str t =>
      let word := String.ofList (t.map Char.toLower)
      if ["1", "on", "t", "true", "y", "yes"].contains word then .ok true
      else if ["0", "off", "f", "false", "n", "no"].contains word then .ok false
      else Checked.fail .unreadableBool
  | _ => Checked.fail .notBool

def text : Json → Checked Text
  | .str t => .ok t
  | _ => Checked.fail .notString

def optionalText : Json → Checked (Option Text)
  | .null => .ok none
  | document => (text document).map some

/-- One of several words, each with the value it stands for. -/
def choice {α : Type} (choices : List (String × α)) (document : Json) : Checked α :=
  let chosen :=
    match document with
    | .str t => choices.lookup (String.ofList t)
    | _ => none
  match chosen with
  | some a => .ok a
  | none => Checked.fail (.notChoice (choices.map Prod.fst))

/-- An integer from `low` on. -/
def natFrom (low : Nat) (document : Json) : Checked { n : Nat // low ≤ n } :=
  match int document with
  | .error issues => .error issues
  | .ok n =>
      if h : low ≤ n.toNat ∧ 0 ≤ n then .ok ⟨n.toNat, h.1⟩ else Checked.fail (.atLeast low)

/-- An integer between two bounds. -/
def natWithin (low high : Nat) (document : Json) : Checked { n : Nat // low ≤ n ∧ n ≤ high } :=
  match int document with
  | .error issues => .error issues
  | .ok n =>
      if (high : Int) < n then Checked.fail (.atMost high)
      else if h : (low ≤ n.toNat ∧ n.toNat ≤ high) ∧ 0 ≤ n then .ok ⟨n.toNat, h.1⟩
      else Checked.fail (.atLeast low)

/-- A number that two further checks let pass, the upper bound first. -/
def floatWithin (upper : Binary64 → Bool) (upperCause : Cause) (lower : Binary64 → Bool)
    (lowerCause : Cause) (document : Json) :
    Checked { x : Binary64 // lower x = true ∧ upper x = true } :=
  match float document with
  | .error issues => .error issues
  | .ok x =>
      if hu : upper x = true then
        if hl : lower x = true then .ok ⟨x, hl, hu⟩ else Checked.fail lowerCause
      else Checked.fail upperCause

/-- The field of an object read by `read`; a missing field has the default value, or is an issue when
there is none. -/
def get {α : Type} (fields : List (String × Json)) (name : String) (read : Json → Checked α)
    (default : Option α) : Checked α :=
  (match fields.lookup name, default with
  | some document, _ => read document
  | none, some value => .ok value
  | none, none => Checked.fail .missing).under name

/-- The fields that no record of this kind has. -/
def unknown (known : List String) (fields : List (String × Json)) : Checked Unit :=
  match fields.filter fun (name, _) => !known.contains name with
  | [] => .ok ()
  | others => .error (others.map fun (name, _) => ⟨[name], .unknownField⟩)

end NoteSearch.Field
