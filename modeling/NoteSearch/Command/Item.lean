import NoteSearch.Character.Digit
import NoteSearch.Command.Misuse

/-!
# Items of the command line

Every argument is a switch, something that looks like a switch but is none, or plain. Two dashes end the
switches: all after them is plain. A long switch may be cut short as long as it stays the only one that
fits, and a value may be attached to a switch.
-/

namespace NoteSearch.Command

inductive Item
  | plain (t : Text)
  /-- The two dashes after which there are no switches. -/
  | marker
  /-- A switch, whether it is spelled with one dash, and what is attached to it: the value after the
  equals sign, or all that follows a short one. -/
  | switch (s : Switch) (short : Bool) (attached : Option Text)
  /-- What looks like a switch. -/
  | unknown (t : Text)
  deriving DecidableEq, Repr

def markerText : Text := ['-', '-']

namespace Item

def isShort (spelling : Text) : Bool :=
  spelling.length == 2

/-- The switches that an argument may stand for: a long one cut short, or a short one with something
right after it. -/
def candidates (table : List (Text × Switch)) (argument : Text) : List (Text × Item) :=
  if markerText.isPrefixOf argument then
    let (stem, attached) :=
      match Text.splitAt? '=' argument with
      | some (stem, value) => (stem, some value)
      | none => (argument, none)
    (table.filter fun (spelling, _) => stem.isPrefixOf spelling).map fun (spelling, s) =>
      (spelling, .switch s (isShort spelling) attached)
  else
    (table.filter fun (spelling, _) => spelling == argument.take 2).map fun (spelling, s) =>
      (spelling, .switch s true (some (argument.drop 2)))

/-- The switch that is spelled out, alone or before an equals sign and its value. -/
def spelledOut? (table : List (Text × Switch)) (argument : Text) : Option Item :=
  match table.lookup argument with
  | some s => some (.switch s (isShort argument) none)
  | none =>
      match Text.splitAt? '=' argument with
      | some (spelling, value) =>
          (table.lookup spelling).map fun s => .switch s (isShort spelling) (some value)
      | none => none

/-- The digits of a negative number, with or without a point; a line end may follow. -/
def isNegativeNumber (argument : Text) : Bool :=
  match argument with
  | '-' :: digits =>
      let digits := if digits.getLast? == some '\n' then digits.dropLast else digits
      let digits := match digits.dropWhile isDecimal with
        | '.' :: fraction => fraction
        | _ => digits
      !digits.isEmpty && digits.all isDecimal
  | _ => false

/-- What an argument is, if it is not the marker. -/
def ofArgument (table : List (Text × Switch)) (argument : Text) : Except Misuse Item :=
  match argument with
  | '-' :: _ :: _ =>
      match spelledOut? table argument with
      | some item => .ok item
      | none =>
          match candidates table argument with
          | [(_, item)] => .ok item
          | [] =>
              .ok (if isNegativeNumber argument || argument.contains ' ' then .plain argument
                else .unknown argument)
          | several => .error (.ambiguous argument (several.map Prod.fst))
  | _ => .ok (.plain argument)

/-- The items of a command line, each with its argument. -/
def ofArguments (table : List (Text × Switch)) : List Text → Except Misuse (List (Text × Item))
  | [] => .ok []
  | argument :: rest =>
      if argument = markerText then .ok ((argument, .marker) :: rest.map fun t => (t, .plain t))
      else
        (ofArgument table argument).bind fun item =>
          (ofArguments table rest).map ((argument, item) :: ·)

end Item

end NoteSearch.Command
