import NoteSearch.Text.Basic

/-!
# Paths

A path is kept as its components. Empty components and single dots say nothing and are dropped; double
dots stay, since what they lead to depends on the files. A path begins at the working directory or at a
root, and two slashes at the beginning are a root of their own.
-/

namespace NoteSearch

structure Path where
  root : Text
  components : List Text
  deriving DecidableEq, Repr

namespace Path

/-- The root that a text begins with. -/
def rootOf : Text → Text
  | '/' :: '/' :: '/' :: _ => ['/']
  | '/' :: '/' :: _ => ['/', '/']
  | '/' :: _ => ['/']
  | _ => []

def ofText (t : Text) : Path where
  root := rootOf t
  components := (Text.splitAll '/' t).filter fun name => !name.isEmpty && name != ['.']

/-- Components with slashes between them. -/
def joined : List Text → Text
  | [] => []
  | [name] => name
  | name :: rest => name ++ '/' :: joined rest

/-- The path as a text; the working directory itself is a dot. -/
def toText (path : Path) : Text :=
  if path.root.isEmpty && path.components.isEmpty then ['.'] else path.root ++ joined path.components

/-- The last component, no text when there is none. -/
def name (path : Path) : Text :=
  path.components.getLast?.getD []

/-- Whether the path begins at a root. -/
def isAbsolute (path : Path) : Bool :=
  !path.root.isEmpty

end Path

end NoteSearch
