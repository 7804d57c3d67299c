import Mathlib.Data.List.Forall2
import NoteSearch.Proofs.Log.Entry

/-!
# Redacted fields

What users wrote does not get into the log, not even by whether it can be written: records that differ
only in fields that hold queries or notes have the same entry, or fail for the same reason. Two moments
change nothing in an entry but its timestamp.
-/

namespace NoteSearch.Log

/-- Fields of the same names in the same order, with the same values but for names that are left open. -/
def AgreeApartFrom {α : Type} (leftOpen : String → Prop) (fields others : List (String × α)) : Prop :=
  List.Forall₂ (fun a b => a.1 = b.1 ∧ (¬leftOpen a.1 → a.2 = b.2)) fields others

theorem AgreeApartFrom.refl {α : Type} {leftOpen : String → Prop} (fields : List (String × α)) :
    AgreeApartFrom leftOpen fields fields :=
  List.forall₂_same.mpr fun _ _ => ⟨rfl, fun _ => rfl⟩

/-- The same entry apart from some names, or the same reason why there is none. -/
def AlikeApartFrom (leftOpen : String → Prop) : Except EntryError Entry → Except EntryError Entry → Prop
  | .ok entry, .ok other => AgreeApartFrom leftOpen entry other
  | .error e, .error other => e = other
  | _, _ => False

theorem AlikeApartFrom.refl {leftOpen : String → Prop} (outcome : Except EntryError Entry) :
    AlikeApartFrom leftOpen outcome outcome := by
  cases outcome with
  | error e => rfl
  | ok entry => exact AgreeApartFrom.refl entry

/-! ### Two records -/

variable {a b : Record} {timestamp : Text} {context : Trace.Context} {message : Message}

theorem redact_eq_of_agree {name : String} {value other : Value}
    (hagree : ¬HoldsUserText name → value = other) : redact name value = redact name other := by
  by_cases hname : HoldsUserText name
  · rw [redact_of_holdsUserText hname, redact_of_holdsUserText hname]
  · rw [hagree hname]

theorem changes_eq_of_agree (hagree : AgreeApartFrom HoldsUserText a.extra b.extra) :
    a.changes = b.changes := by
  rw [Record.changes, Record.changes]
  generalize a.extra = extra at hagree ⊢
  generalize b.extra = others at hagree ⊢
  induction hagree with
  | nil => rfl
  | @cons first other rest others hfirst _ ih =>
      obtain ⟨name, value⟩ := first
      obtain ⟨otherName, otherValue⟩ := other
      obtain ⟨rfl, hvalue⟩ := hfirst
      cases hwritten : isWritten name with
      | false =>
          rw [List.filter_cons_of_neg (by simp [hwritten]), List.filter_cons_of_neg (by simp [hwritten]), ih]
      | true =>
          rw [List.filter_cons_of_pos (by exact hwritten), List.filter_cons_of_pos (by exact hwritten),
            List.map_cons, List.map_cons, ih, redact_eq_of_agree hvalue]

/-- Apart from its timestamp an entry is the same at every moment. -/
theorem alike_entry (record : Record) (context : Trace.Context) (s t : Text) :
    AlikeApartFrom (· = "timestamp") (record.entry s context) (record.entry t context) := by
  rw [Record.entry, Record.entry]
  cases formatMessage record.template record.arguments with
  | error e => rfl
  | ok message =>
      obtain ⟨rest, hrest⟩ : ∃ rest, ∀ timestamp, headFields timestamp context record message
          = ("timestamp", .ok (.str timestamp)) :: rest := ⟨_, fun _ => rfl⟩
      simp only [fields_eq, hrest, foldl_assign_cons]
      generalize (record.changes.filter _).foldl _ rest = others
      cases record.changes.reverse.lookup "timestamp" with
      | some written => exact AlikeApartFrom.refl _
      | none =>
          simp only [Option.getD_none, collect]
          cases collect others with
          | error e => rfl
          | ok entry =>
              have hsame : AgreeApartFrom (· = "timestamp") entry entry := AgreeApartFrom.refl entry
              exact .cons ⟨rfl, fun hopen => absurd rfl hopen⟩ hsame

/-- Two records with the same message, level, logger and failure, whose extra fields have the same names
and differ only in values that hold what users wrote, have the same entry, or fail for the same reason;
at different moments the entries differ in nothing but the timestamp. -/
theorem Record.entry_eq_and_alike_of_agree
    (hmessage : formatMessage a.template a.arguments = formatMessage b.template b.arguments)
    (hlogger : a.logger = b.logger) (hseverity : a.severity = b.severity)
    (hfailure : a.failure = b.failure) (hextra : AgreeApartFrom HoldsUserText a.extra b.extra)
    (context : Trace.Context) (s t : Text) :
    a.entry s context = b.entry s context ∧
      AlikeApartFrom (· = "timestamp") (a.entry s context) (b.entry t context) := by
  have hhead (message : Message) : headFields s context a message = headFields s context b message := by
    rw [headFields, headFields, hlogger, hseverity, hfailure]
  have hentry : a.entry s context = b.entry s context := by
    rw [Record.entry, Record.entry, hmessage]
    simp only [fields_eq, hhead, changes_eq_of_agree hextra]
  exact ⟨hentry, hentry ▸ alike_entry b context s t⟩

/-- A record whose secret fields are texts, in several spellings of their names. -/
def plainSecrets : Record where
  logger := "notes.search".toList
  severity := 30
  template := "found %d notes".toList
  arguments := [.int 3]
  extra := [("Query", .str "budget".toList), ("limit", .int 5), ("RAW_QUERY", .str "title:budget".toList),
    ("content", .str "the budget is tight".toList)]

/-- The same record with secret fields that could not be written. -/
def strangeSecrets : Record :=
  { plainSecrets with
    extra := [("Query", .int 0x10000000000000000), ("limit", .int 5), ("RAW_QUERY", .other "Handle" none),
      ("content", .list [.null, .int (-0x8000000000000001)])] }

/-- The entry of both. -/
def secretsEntry : Entry :=
  [("timestamp", .str "1".toList), ("level", .str "WARNING".toList), ("message", .str "found 3 notes".toList),
    ("logger", .str "notes.search".toList), ("trace_id", .str []), ("span_id", .str []),
    ("component", .str "search".toList), ("Query", .str redactedText), ("limit", .int 5),
    ("RAW_QUERY", .str redactedText), ("content", .str redactedText)]

theorem Record.entry_eq_and_alike_of_agree_strange :
    AgreeApartFrom HoldsUserText plainSecrets.extra strangeSecrets.extra ∧
      plainSecrets.entry "1".toList [] = .ok secretsEntry ∧
      strangeSecrets.entry "1".toList [] = .ok secretsEntry ∧
      AlikeApartFrom (· = "timestamp") (plainSecrets.entry "1".toList [])
        (strangeSecrets.entry "2".toList []) := by
  have hagree : AgreeApartFrom HoldsUserText plainSecrets.extra strangeSecrets.extra := by
    refine .cons ⟨rfl, fun h => absurd (by decide +kernel) h⟩ (.cons ⟨rfl, fun _ => rfl⟩
      (.cons ⟨rfl, fun h => absurd (by decide +kernel) h⟩
        (.cons ⟨rfl, fun h => absurd (by decide +kernel) h⟩ .nil)))
  obtain ⟨hsame, halike⟩ := entry_eq_and_alike_of_agree (a := plainSecrets) (b := strangeSecrets)
    rfl rfl rfl rfl hagree [] "1".toList "2".toList
  have hentry : plainSecrets.entry "1".toList [] = .ok secretsEntry := rfl
  exact ⟨hagree, hentry, hsame ▸ hentry, halike⟩

end NoteSearch.Log
