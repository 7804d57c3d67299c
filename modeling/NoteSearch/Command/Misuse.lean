import NoteSearch.Command.Switch
import NoteSearch.Log.Level
import NoteSearch.Text.Quoted

/-!
# Misuse of the command line

What is wrong with the arguments of the command line, and how the user is told.
-/

namespace NoteSearch.Command

inductive Misuse
  | ambiguous (argument : Text) (candidates : List Text)
  | unexpectedValue (s : Switch) (value : Text)
  | missingValue (s : Switch)
  | notInt (s : Switch) (value : Text)
  | unknownLevel (value : Text)
  | unknownCommand (value : Text)
  | missing (names : List String)
  | unrecognized (arguments : List Text)
  deriving DecidableEq, Repr

namespace Misuse

/-- Texts with a separator between them. -/
def joined (separator : Text) : List Text → Text
  | [] => []
  | [t] => t
  | t :: rest => t ++ separator ++ joined separator rest

/-- A value that is none of the choices. -/
def notAmong (choices : List String) (value : Text) : Text :=
  "invalid choice: ".toList ++ Text.quoted value ++ " (choose from ".toList
    ++ joined [',', ' '] (choices.map fun choice => Text.quoted choice.toList) ++ [')']

/-- A message about one argument. -/
def about (label : String) (t : Text) : Text :=
  ("argument " ++ label ++ ": ").toList ++ t

def message : Misuse → Text
  | .ambiguous argument candidates =>
      "ambiguous option: ".toList ++ argument ++ " could match ".toList ++ joined [',', ' '] candidates
  | .unexpectedValue s value => about s.label ("ignored explicit argument ".toList ++ Text.quoted value)
  | .missingValue s => about s.label "expected one argument".toList
  | .notInt s value => about s.label ("invalid int value: ".toList ++ Text.quoted value)
  | .unknownLevel value =>
      about Switch.logLevel.label (notAmong (Log.Level.choices.map Prod.fst) value)
  | .unknownCommand value => about "command" (notAmong (Name.all.map Name.text) value)
  | .missing names => ("the following arguments are required: " ++ ", ".intercalate names).toList
  | .unrecognized arguments => "unrecognized arguments: ".toList ++ joined [' '] arguments

end Misuse

end NoteSearch.Command
