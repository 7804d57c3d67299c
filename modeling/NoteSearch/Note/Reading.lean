import NoteSearch.Note.Basic
import NoteSearch.Validation.Field

/-!
# Reading notes

Notes and pages are read from objects. Fields that are not known are passed over.
-/

namespace NoteSearch

/-- Reads an id: a text is a name and what reads as an integer is a number. -/
def NoteId.ofJson (document : Json) : Checked NoteId :=
  match document with
  | .str t => .ok (.name t)
  | _ =>
      match Field.int document with
      | .ok n => .ok (.number n)
      | .error issues =>
          .error (issues.map (Issue.under "int")
            ++ [⟨["str"], .notString⟩])

def NoteId.toJson : NoteId → Json
  | .number n => .int n
  | .name t => .str t

namespace Note

def formats : List (String × NoteFormat) :=
  [("plaintext", .plaintext), ("markdown", .markdown)]

def ofFields (fields : List (String × Json)) : Checked Note :=
  let id := Field.get fields "id" NoteId.ofJson none
  let content := Field.get fields "content" Field.text (some [])
  let nickname := Field.get fields "nickname" Field.optionalText (some none)
  let title := Field.get fields "title" Field.optionalText (some none)
  let format := Field.get fields "format" (Field.choice formats) (some .plaintext)
  let path := Field.get fields "path" Field.optionalText (some none)
  let isFavorite := Field.get fields "is_favorite" Field.bool (some false)
  ((((((id.both content).both nickname).both title).both format).both path).both isFavorite).map
    fun ((((((id, content), nickname), title), format), path), isFavorite) =>
      { id, content, nickname, title, format, path, isFavorite }

/-- Reads a note that is an item of a list. -/
def ofJson : Json → Checked Note
  | .object fields => ofFields fields
  | _ => Checked.fail (.notRecord "Note")

def toFields (note : Note) : List (String × Json) :=
  [("id", note.id.toJson), ("content", .str note.content), ("nickname", Json.ofText? note.nickname),
    ("title", Json.ofText? note.title), ("format", .str note.format.name.toList),
    ("path", Json.ofText? note.path), ("is_favorite", .bool note.isFavorite)]

/-- Reads the notes of a list. -/
def listOfJson : Json → Checked (List Note)
  | .list items => Checked.all 0 (items.map ofJson)
  | _ => Checked.fail .notTuple

end Note

namespace Page

/-- A time that a search took: zero or more. -/
def duration (document : Json) : Checked Binary64 :=
  (Field.floatWithin (fun _ => true) (.atLeast 0) (fun x => Binary64.zero.le x) (.atLeast 0)
    document).map Subtype.val

def ofFields (fields : List (String × Json)) : Checked Page :=
  let notes := Field.get fields "notes" Note.listOfJson (some [])
  let totalCount := Field.get fields "total_count" (Field.natFrom 0) (some ⟨0, by decide⟩)
  let number := Field.get fields "page" (Field.natFrom 0) (some ⟨0, by decide⟩)
  let size := Field.get fields "page_size" (Field.natFrom 1) (some ⟨50, by decide⟩)
  let hasMore := Field.get fields "has_more" Field.bool (some false)
  let queryMillis := Field.get fields "query_time_ms" duration (some .zero)
  (((((notes.both totalCount).both number).both size).both hasMore).both queryMillis).map
    fun (((((notes, totalCount), number), size), hasMore), queryMillis) =>
      { notes, totalCount := totalCount.val, number := number.val, size := size.val, hasMore
        queryMillis }

/-- The fields of a page other than its notes. -/
def headerFields (page : Page) : List (String × Json) :=
  [("total_count", .int page.totalCount), ("page", .int page.number), ("page_size", .int page.size),
    ("has_more", .bool page.hasMore), ("query_time_ms", .float page.queryMillis)]

end Page

end NoteSearch
