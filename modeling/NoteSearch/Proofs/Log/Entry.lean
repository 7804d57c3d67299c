import NoteSearch.Log.Entry
import NoteSearch.Proofs.FirstSeen
import NoteSearch.Proofs.Text.Pieces

/-!
# The fields of a log entry

An entry has the fields of its record, all of them or none: it is there exactly when each field can be
written. The fields that every entry has come first and the extra fields follow, and of the extra fields
of one name the last one counts, also in the place of a field that every entry has.
-/

namespace NoteSearch.Log

variable {timestamp : Text} {context : Trace.Context} {record : Record} {message : Message} {entry : Entry}

/-! ### Messages -/

theorem Message.text?_eq_some_iff {t : Text} : message.text? = some t ↔ message = .ofText t := by
  rw [text?, ofText]
  induction message generalizing t with
  | nil => cases t <;> simp
  | cons place rest ih =>
      cases place with
      | none => cases t <;> simp [List.mapM_cons]
      | some c =>
          rw [List.mapM_cons]
          cases t with
          | nil => cases rest.mapM id <;> simp
          | cons d t =>
              rw [List.map_cons, List.cons_eq_cons, ← ih]
              cases rest.mapM id <;> simp

theorem Message.exists_text?_iff : (∃ t, message.text? = some t) ↔ none ∉ message := by
  rw [text?]
  induction message with
  | nil => exact iff_of_true ⟨[], rfl⟩ List.not_mem_nil
  | cons place rest ih =>
      cases place with
      | none => simp [List.mapM_cons]
      | some c =>
          rw [List.mem_cons, or_iff_right (Option.some_ne_none c).symm, ← ih, List.mapM_cons]
          cases rest.mapM id <;> simp

theorem none_mem_truncate_iff {limit : Nat} :
    none ∈ truncate (Message.ofText ellipsis) limit message ↔ none ∈ message.take limit := by
  have hellipsis : none ∉ Message.ofText ellipsis := by decide
  rw [truncate]
  split
  case isTrue => rw [List.mem_append, or_iff_left hellipsis]
  case isFalse hshort => rw [List.take_of_length_le (by omega)]

theorem writeMessage_eq_ok_iff {json : Json} :
    writeMessage message = .ok json ↔ ∃ t, message = .ofText t ∧ json = .str t := by
  simp only [writeMessage, ← Message.text?_eq_some_iff]
  cases message.text? <;> simp [eq_comm]

theorem exists_writeMessage_iff :
    (∃ json, writeMessage message = .ok json) ↔ none ∉ message := by
  rw [← Message.exists_text?_iff, writeMessage]
  cases message.text? <;> simp

/-! ### Collecting -/

theorem collect_eq_ok_iff {fields : List (String × Except WriteError Json)} :
    collect fields = .ok entry ↔ fields = entry.map fun field => (field.1, .ok field.2) := by
  induction fields generalizing entry with
  | nil => cases entry <;> simp [collect]
  | cons field rest ih =>
      obtain ⟨name, written⟩ := field
      cases written with
      | error e => cases entry <;> simp [collect]
      | ok json =>
          rw [collect]
          constructor
          · intro h
            cases hrest : collect rest with
            | error e => rw [hrest] at h; cases h
            | ok others =>
                rw [hrest] at h
                obtain rfl := Except.ok.inj h
                rw [List.map_cons, ih.mp hrest]
          · intro h
            cases entry with
            | nil => cases h
            | cons first others =>
                obtain ⟨hfirst, hothers⟩ := List.cons.inj h
                obtain ⟨rfl, hjson⟩ := Prod.mk.inj hfirst
                obtain rfl := Except.ok.inj hjson
                rw [ih.mpr hothers]
                rfl

theorem exists_collect_iff {fields : List (String × Except WriteError Json)} :
    (∃ entry, collect fields = .ok entry) ↔ ∀ field ∈ fields, ∃ json, field.2 = .ok json := by
  induction fields with
  | nil => simp [collect]
  | cons field rest ih =>
      obtain ⟨name, written⟩ := field
      rw [List.forall_mem_cons, ← ih]
      cases written with
      | error e => simp [collect]
      | ok json => cases hrest : collect rest <;> simp [collect, hrest, Except.map]

theorem lookup_of_collect {fields : List (String × Except WriteError Json)}
    (hcollect : collect fields = .ok entry) (name : String) :
    fields.lookup name = (entry.lookup name).map .ok := by
  rw [collect_eq_ok_iff.mp hcollect]
  exact lookup_map_snd (fun _ => Except.ok) entry name

/-! ### The fields of a record -/

/-- Names of fields that hold what users wrote. The case of the name does not matter. -/
def HoldsUserText (name : String) : Prop :=
  String.ofList (Text.lower name.toList) ∈ ["query", "content", "note_content", "raw_query"]

instance (name : String) : Decidable (HoldsUserText name) :=
  inferInstanceAs (Decidable (_ ∈ _))

theorem isRedacted_iff {name : String} : isRedacted name = true ↔ HoldsUserText name := by
  rw [isRedacted, List.contains_iff_mem]
  rfl

theorem redact_of_holdsUserText {name : String} (hname : HoldsUserText name) (value : Value) :
    redact name value = .str redactedText :=
  if_pos (isRedacted_iff.mpr hname)

/-- What is written of a field is a fixed text, a text that is cut, or the value itself. -/
theorem redact_cases (name : String) (value : Value) :
    (HoldsUserText name ∧ redact name value = .str redactedText) ∨
    (¬HoldsUserText name ∧ ∃ t, value = .str t ∧
      redact name value = .str (truncate ellipsis maxValueLength t)) ∨
    (¬HoldsUserText name ∧ (∀ t, value ≠ .str t) ∧ redact name value = value) := by
  by_cases hname : HoldsUserText name
  · exact .inl ⟨hname, redact_of_holdsUserText hname value⟩
  · have hplain : ¬isRedacted name = true := isRedacted_iff.not.mpr hname
    cases value with
    | str t => exact .inr (.inl ⟨hname, t, rfl, if_neg hplain⟩)
    | _ => exact .inr (.inr ⟨hname, nofun, if_neg hplain⟩)

/-- The value of an extra field that is written, the last one of its name. -/
def Record.written? (record : Record) (name : String) : Option Value :=
  if isWritten name then record.extra.reverse.lookup name else none

/-- The extra fields of a record that are written, with what is written of them. -/
def Record.changes (record : Record) : List (String × Except WriteError Json) :=
  (record.extra.filter fun field => isWritten field.1).map fun field =>
    (field.1, writeField (redact field.1 field.2))

theorem fields_eq :
    fields timestamp context record message
      = record.changes.foldl (fun done (name, written) => assign name written done)
          (headFields timestamp context record message) := by
  rw [Record.changes, List.foldl_map]
  rfl

theorem lookup_fields (name : String) :
    (fields timestamp context record message).lookup name
      = ((record.written? name).map fun value => writeField (redact name value)).or
          ((headFields timestamp context record message).lookup name) := by
  rw [fields_eq, lookup_foldl_assign_pairs, Record.changes, ← List.map_reverse, ← List.filter_reverse,
    lookup_map_snd fun name value => writeField (redact name value), lookup_filter_fst isWritten]
  rfl

/-- The names of the fields that every entry has, and of the two that tell a part of the logger's name and
a failure. -/
def Record.headNames (record : Record) : List String :=
  ["timestamp", "level", "message", "logger", "trace_id", "span_id"]
    ++ (if '.' ∈ record.logger then ["component"] else [])
    ++ (if record.failure.isSome then ["exception"] else [])

/-- The names of all fields in the order of the entry. -/
def Record.names (record : Record) : List String :=
  (record.headNames ++ (record.extra.map Prod.fst).filter isWritten).eraseDups

theorem isSome_component?_iff {logger : Text} : (component? logger).isSome ↔ '.' ∈ logger := by
  rw [component?, Text.splitAtLast?, Option.isSome_map, Option.isSome_map]
  by_cases hdot : '.' ∈ logger
  · obtain ⟨after, before, hsplit, hafter⟩ := List.eq_append_cons_of_mem (List.mem_reverse.mpr hdot)
    rw [hsplit, Text.splitAt?_append hafter]
    exact iff_of_true rfl hdot
  · rw [Text.splitAt?_eq_none (mt List.mem_reverse.mp hdot)]
    exact iff_of_false Bool.false_ne_true hdot

theorem map_fst_headFields :
    (headFields timestamp context record message).map Prod.fst = record.headNames := by
  have hcomponent : (component? record.logger).isSome ↔ '.' ∈ record.logger := isSome_component?_iff
  rw [headFields, Record.headNames, List.map_append, List.map_append]
  congr 1
  · congr 1
    cases hname : component? record.logger with
    | none => rw [if_neg (by simp [← hcomponent, hname])]; rfl
    | some name => rw [if_pos (by simp [← hcomponent, hname])]; rfl
  · cases record.failure <;> rfl

theorem nodup_headNames : record.headNames.Nodup := by
  rw [Record.headNames]
  by_cases hdot : '.' ∈ record.logger <;> cases record.failure <;> simp [hdot]

theorem map_fst_fields : (fields timestamp context record message).map Prod.fst = record.names := by
  have hhead : ((headFields timestamp context record message).map Prod.fst).Nodup :=
    map_fst_headFields ▸ nodup_headNames
  have hchanges : record.changes.map Prod.fst = (record.extra.map Prod.fst).filter isWritten := by
    rw [Record.changes, List.map_map, List.filter_map]
    rfl
  rw [fields_eq, map_fst_foldl_assign_pairs _ hhead, map_fst_headFields, hchanges, Record.names]

/-! ### The entry of a record -/

/-- An entry is there exactly when the message can be filled in and all fields can be written. -/
theorem Record.entry_eq_ok_iff :
    record.entry timestamp context = .ok entry ↔
      ∃ message, formatMessage record.template record.arguments = .ok message ∧
        collect (fields timestamp context record message) = .ok entry := by
  rw [Record.entry]
  cases formatMessage record.template record.arguments with
  | error e => simp
  | ok message => cases hcollect : collect (fields timestamp context record message) <;> simp [hcollect]

end NoteSearch.Log
