import NoteSearch.Files.Fault
import NoteSearch.Text.Utf8

/-!
# A tree of files

The working directory holds files by name; a name with slashes lies in folders of the directory. A path is
followed component by component, and nothing is known of what lies outside but that it is there.
-/

namespace NoteSearch

structure FileTree where
  /-- The components of each file's name with the bytes of the file. -/
  files : List (List Text × List Byte)

namespace FileTree

/-- A tree of files whose names are given as texts. -/
def ofNames (files : List (Text × List Byte)) : FileTree where
  files := files.map fun (name, bytes) => ((Path.ofText name).components, bytes)

/-- The longest name of a component and the longest path, in bytes. -/
def maxNameBytes : Nat := 255
def maxPathBytes : Nat := 4095

def byteCount (t : Text) : Nat :=
  t.foldl (fun count c => count + c.utf8Size) 0

def file? (tree : FileTree) (components : List Text) : Option (List Byte) :=
  tree.files.lookup components

/-- Whether some file lies in the folder of these components. -/
def isFolder (tree : FileTree) (components : List Text) : Bool :=
  components.isEmpty
    || tree.files.any fun (name, _) => components.isPrefixOf name && components != name

/-- A place to which a path leads. -/
inductive Place
  | inside (components : List Text)
  | outside

/-- The place that a component leads to. -/
def enter (tree : FileTree) (place : Place) (name : Text) : Except FileFault Place :=
  let occupied := match place with
    | .inside components => (tree.file? components).isSome
    | .outside => false
  if occupied then .error .notDirectory
  else if maxNameBytes < byteCount name then .error .nameTooLong
  else match place with
    | .outside => if name == ['.', '.'] then .ok .outside else .error .missing
    | .inside components =>
        if name == ['.', '.'] then
          .ok (if components.isEmpty then .outside else .inside components.dropLast)
        else
          let next := components ++ [name]
          if (tree.file? next).isSome || tree.isFolder next then .ok (.inside next)
          else .error .missing

/-- The bytes of the file at a path. -/
def read (tree : FileTree) (path : Path) : Except FileFault (List Byte) :=
  if maxPathBytes < byteCount path.toText then .error .nameTooLong
  else
    let start := if path.isAbsolute then Place.outside else .inside []
    match path.components.foldlM tree.enter start with
    | .error fault => .error fault
    | .ok .outside => .error .isDirectory
    | .ok (.inside components) =>
        match tree.file? components with
        | some bytes => .ok bytes
        | none => .error .isDirectory

end FileTree

end NoteSearch
