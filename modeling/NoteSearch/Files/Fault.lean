import NoteSearch.Files.Path
import NoteSearch.Text.Quoted

/-!
# Files that cannot be read

A file that cannot be opened is reported with the number of what is wrong and with its path.
-/

namespace NoteSearch

/-- Why a file cannot be opened. -/
inductive FileFault
  | missing
  | denied
  | notDirectory
  | isDirectory
  | nameTooLong
  | other (code : Nat) (description : String)
  deriving DecidableEq, Repr

namespace FileFault

def code : FileFault → Nat
  | .missing => 2
  | .denied => 13
  | .notDirectory => 20
  | .isDirectory => 21
  | .nameTooLong => 36
  | .other code _ => code

def description : FileFault → String
  | .missing => "No such file or directory"
  | .denied => "Permission denied"
  | .notDirectory => "Not a directory"
  | .isDirectory => "Is a directory"
  | .nameTooLong => "File name too long"
  | .other _ description => description

/-- The report that the file at a path cannot be opened. -/
def message (fault : FileFault) (path : Path) : Text :=
  ("[Errno " ++ toString fault.code ++ "] " ++ fault.description ++ ": ").toList
    ++ Text.quoted path.toText

end FileFault

end NoteSearch
