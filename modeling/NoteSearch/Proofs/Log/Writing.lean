import NoteSearch.Proofs.Json.Printer
import NoteSearch.Proofs.Log.Entry
import NoteSearch.Proofs.Result

/-!
# What can be written

A value can be written exactly when all that it holds has a written form, which an integer beyond 64 bits
has not, and it is not nested too deeply. A record can be written exactly when its message and all values
that are not kept out of its entry can, and one that can is one object on one line.
-/

namespace NoteSearch.Log

namespace Value

mutual

/-- What a value holds that holds nothing itself. -/
def leaves : Value → List Value
  | .list items => leavesOfList items
  | .set members => leavesOfList members
  | .object fields => leavesOfFields fields
  | leaf => [leaf]

def leavesOfList : List Value → List Value
  | [] => []
  | item :: rest => leaves item ++ leavesOfList rest

def leavesOfFields : List (String × Value) → List Value
  | [] => []
  | (_, item) :: rest => leaves item ++ leavesOfFields rest

end

mutual

/-- How many levels of lists, sets and objects a value is nested. -/
def levels : Value → Nat
  | .list items => levelsOfList items + 1
  | .set members => levelsOfList members + 1
  | .object fields => levelsOfFields fields + 1
  | _ => 0

def levelsOfList : List Value → Nat
  | [] => 0
  | item :: rest => max (levels item) (levelsOfList rest)

def levelsOfFields : List (String × Value) → Nat
  | [] => 0
  | (_, item) :: rest => max (levels item) (levelsOfFields rest)

end

/-- Integers have a written form if they have 64 bits, with a sign or without one, and values of other
kinds if a text shows them. -/
def HasForm : Value → Prop
  | .int n => -0x8000000000000000 ≤ n ∧ n < 0x10000000000000000
  | .other _ shown => shown.isSome
  | _ => True

/-! ### Writing at a depth -/

/-- A container may stand at a depth when what it holds may stand one level deeper. -/
theorem exists_within_iff {α : Type} {inside : Except WriteError α} {f : α → Json} {depth levels : Nat}
    {HaveForm : Prop}
    (hinside : depth + 1 ≤ maxDepth → ((∃ a, inside = .ok a) ↔ HaveForm ∧ depth + 1 + levels ≤ maxDepth)) :
    (∃ json, within depth (inside.map f) = .ok json) ↔ HaveForm ∧ depth + (levels + 1) ≤ maxDepth := by
  rw [within]
  split
  case isTrue hdepth => rw [exists_map_iff, hinside hdepth, Nat.add_right_comm, Nat.add_assoc]
  case isFalse hdepth => exact iff_of_false (by simp) fun h => hdepth (by omega)

theorem add_max_le_iff {n a b bound : Nat} : n + max a b ≤ bound ↔ n + a ≤ bound ∧ n + b ≤ bound := by
  omega

mutual

theorem exists_write_iff {depth : Nat} (hdepth : depth ≤ maxDepth) :
    ∀ value : Value, (∃ json, value.write depth = .ok json) ↔
      (∀ leaf ∈ value.leaves, leaf.HasForm) ∧ depth + value.levels ≤ maxDepth
  | .list items | .set items => by
      rw [write, leaves, levels]
      exact exists_within_iff fun hinside => exists_writeList_iff hinside items
  | .object fields => by
      rw [write, leaves, levels]
      exact exists_within_iff fun hinside => exists_writeFields_iff hinside fields
  | .int n => by
      rw [write, writeInt]
      split <;> simp_all [leaves, levels, HasForm]
  | .other kind shown => by cases shown <;> simp [write, leaves, levels, HasForm, hdepth]
  | .null | .bool _ | .float _ | .str _ | .bytes _ | .error _ | .complex _ _ => by
      simp [write, leaves, levels, HasForm, hdepth]

theorem exists_writeList_iff {depth : Nat} (hdepth : depth ≤ maxDepth) :
    ∀ items : List Value, (∃ json, writeList depth items = .ok json) ↔
      (∀ leaf ∈ leavesOfList items, leaf.HasForm) ∧ depth + levelsOfList items ≤ maxDepth
  | [] => by simp [writeList, leavesOfList, levelsOfList, hdepth]
  | item :: rest => by
      rw [writeList, exists_bind_map_iff, leavesOfList, levelsOfList, List.forall_mem_append,
        add_max_le_iff, and_and_and_comm]
      exact and_congr (exists_write_iff hdepth item) (exists_writeList_iff hdepth rest)

theorem exists_writeFields_iff {depth : Nat} (hdepth : depth ≤ maxDepth) :
    ∀ fields : List (String × Value), (∃ json, writeFields depth fields = .ok json) ↔
      (∀ leaf ∈ leavesOfFields fields, leaf.HasForm) ∧ depth + levelsOfFields fields ≤ maxDepth
  | [] => by simp [writeFields, leavesOfFields, levelsOfFields, hdepth]
  | (name, item) :: rest => by
      rw [writeFields, exists_bind_map_iff, leavesOfFields, levelsOfFields, List.forall_mem_append,
        add_max_le_iff, and_and_and_comm]
      exact and_congr (exists_write_iff hdepth item) (exists_writeFields_iff hdepth rest)

end

/-- A value that can be written as a field of an entry. -/
structure IsWritable (value : Value) : Prop where
  hasForm : ∀ leaf ∈ value.leaves, leaf.HasForm
  shallow : value.levels ≤ 253

theorem exists_writeField_iff {value : Value} :
    (∃ json, writeField value = .ok json) ↔ value.IsWritable := by
  rw [writeField, exists_write_iff (show 2 ≤ maxDepth by decide)]
  have hlevels : 2 + value.levels ≤ maxDepth ↔ value.levels ≤ 253 := by
    rw [maxDepth]
    omega
  rw [hlevels]
  exact ⟨fun h => ⟨h.1, h.2⟩, fun h => ⟨h.hasForm, h.shallow⟩⟩

theorem isWritable_str (t : Text) : (Value.str t).IsWritable where
  hasForm := by simp [leaves, HasForm]
  shallow := Nat.zero_le _

end Value

/-! ### Records -/

variable {timestamp : Text} {context : Trace.Context} {record : Record} {message : Message} {entry : Entry}

theorem exists_writeField_redact_iff {name : String} {value : Value} :
    (∃ json, writeField (redact name value) = .ok json) ↔ HoldsUserText name ∨ value.IsWritable := by
  rw [Value.exists_writeField_iff]
  obtain ⟨hname, hredact⟩ | ⟨hname, t, rfl, hredact⟩ | ⟨hname, -, hredact⟩ := redact_cases name value
  · rw [hredact]
    exact iff_of_true (Value.isWritable_str _) (.inl hname)
  · rw [hredact]
    exact iff_of_true (Value.isWritable_str _) (.inr (Value.isWritable_str t))
  · rw [hredact, or_iff_right hname]

/-- A record that can be written under a trace context. -/
structure Record.IsWritable (record : Record) (context : Trace.Context) : Prop where
  /-- The template and the arguments fit, and nothing that remains of the message is half of a pair. -/
  message : ∃ message, formatMessage record.template record.arguments = .ok message ∧
    none ∉ message.take maxMessageLength
  extra : ∀ name value, record.written? name = some value → HoldsUserText name ∨ value.IsWritable
  /-- An id is written if no extra field takes its place. -/
  ids : ∀ name ∈ [Trace.traceKey, Trace.spanKey], record.written? name = none →
    (Value.ofJson (contextId context name)).IsWritable

/-- Of the fields that every entry has only the message and the ids can fail to be written. -/
theorem forall_mem_headFields_iff :
    (∀ field ∈ headFields timestamp context record message,
      record.written? field.1 = none → ∃ json, field.2 = .ok json) ↔
    none ∉ message.take maxMessageLength ∧
      ∀ name ∈ [Trace.traceKey, Trace.spanKey], record.written? name = none →
        (Value.ofJson (contextId context name)).IsWritable := by
  have hreserved : record.written? "message" = none := if_neg (by decide)
  have hparts : ∀ field ∈ ((component? record.logger).map fun name =>
        (("component", .ok (.str name)) : String × Except WriteError Json)).toList
      ++ (record.failure.map fun failure => ("exception", .ok (.str failure.summary))).toList,
      ∃ json, field.2 = .ok json := by
    cases component? record.logger <;> cases record.failure <;> simp
  rw [headFields, List.append_assoc, List.forall_mem_append,
    and_iff_left fun field hfield _ => hparts field hfield]
  simp [exists_writeMessage_iff, none_mem_truncate_iff, Value.exists_writeField_iff, hreserved]

/-- An extra field that takes the place of another one is written in its stead. -/
theorem forall_mem_fields_iff :
    (∀ field ∈ fields timestamp context record message, ∃ json, field.2 = .ok json) ↔
      (∀ name value, record.written? name = some value → HoldsUserText name ∨ value.IsWritable) ∧
      ∀ field ∈ headFields timestamp context record message,
        record.written? field.1 = none → ∃ json, field.2 = .ok json := by
  have hfields : ((fields timestamp context record message).map Prod.fst).Nodup :=
    map_fst_fields ▸ nodup_eraseDups _
  have hhead : ((headFields timestamp context record message).map Prod.fst).Nodup :=
    map_fst_headFields ▸ nodup_headNames
  simp only [Prod.forall, ← lookup_eq_some_iff_mem hfields, ← lookup_eq_some_iff_mem hhead, lookup_fields,
    Option.or_eq_some_iff, Option.map_eq_some_iff, Option.map_eq_none_iff, ← exists_writeField_redact_iff]
  constructor
  · intro h
    exact ⟨fun name value hvalue => h name _ (.inl ⟨value, hvalue, rfl⟩),
      fun name written hlookup hnone => h name written (.inr ⟨hnone, hlookup⟩)⟩
  · rintro ⟨hextra, hrest⟩ name written (⟨value, hvalue, rfl⟩ | ⟨hnone, hlookup⟩)
    · exact hextra name value hvalue
    · exact hrest name written hlookup hnone

/-- A record has an entry exactly when its message and all that is written of its values have a form, and
then the entry is one object with the fields of the record, on one line. -/
theorem Record.exists_entry_iff (record : Record) (timestamp : Text) (context : Trace.Context) :
    ((∃ entry, record.entry timestamp context = .ok entry) ↔ record.IsWritable context) ∧
    ∀ entry, record.entry timestamp context = .ok entry →
      entry.map Prod.fst = record.names ∧ entry.line.OnOneLine := by
  constructor
  · simp only [entry_eq_ok_iff]
    rw [exists_comm]
    simp only [exists_and_left, exists_collect_iff, forall_mem_fields_iff, forall_mem_headFields_iff]
    constructor
    · rintro ⟨message, hmessage, hextra, hfull, hids⟩
      exact ⟨⟨message, hmessage, hfull⟩, hextra, hids⟩
    · rintro ⟨⟨message, hmessage, hfull⟩, hextra, hids⟩
      exact ⟨message, hmessage, hextra, hfull, hids⟩
  · intro entry hentry
    obtain ⟨message, -, hcollect⟩ := entry_eq_ok_iff.mp hentry
    have hnames := congrArg (List.map Prod.fst) (collect_eq_ok_iff.mp hcollect)
    rw [map_fst_fields, List.map_map] at hnames
    exact ⟨hnames.symm, Json.onOneLine_compact _⟩

/-- A record with integers that 64 bits just hold, one beyond them in a field that is redacted, and a line
break. -/
def edgeRecord : Record where
  logger := "notes.search".toList
  template := "saved".toList
  extra := [("sizes", .list [.int 0xFFFFFFFFFFFFFFFF, .int (-0x8000000000000000)]),
    ("Query", .int 0x10000000000000000), ("cause", .error "disk\nfull".toList)]

theorem Record.exists_entry_iff_edge :
    ∃ entry, edgeRecord.entry "1".toList [] = .ok entry ∧ edgeRecord.IsWritable [] ∧
      entry.map Prod.fst = ["timestamp", "level", "message", "logger", "trace_id", "span_id", "component",
        "sizes", "Query", "cause"] ∧
      entry.line.OnOneLine := by
  obtain ⟨entry, hentry⟩ : ∃ entry, edgeRecord.entry "1".toList [] = .ok entry := ⟨_, rfl⟩
  obtain ⟨hwritable, hthere⟩ := exists_entry_iff edgeRecord "1".toList []
  obtain ⟨hnames, hline⟩ := hthere entry hentry
  exact ⟨entry, hentry, hwritable.mp ⟨entry, hentry⟩, hnames, hline⟩

/-- A record with an integer that 64 bits cannot hold. -/
def oversizedRecord : Record where
  logger := "root".toList
  template := "n".toList
  extra := [("i", .int 0x10000000000000000)]

theorem not_forall_exists_entry :
    ¬∀ (record : Record) (timestamp : Text) (ids : Trace.Ids),
      (∃ message, formatMessage record.template record.arguments = .ok message) →
      (∀ field ∈ record.extra, field.2.levels < 200 ∧ ∀ kind shown, .other kind shown ∉ field.2.leaves) →
      ∃ entry, record.entry timestamp (Trace.ofIds ids) = .ok entry := by
  intro h
  have hplain : ∀ field ∈ oversizedRecord.extra,
      field.2.levels < 200 ∧ ∀ kind shown, .other kind shown ∉ field.2.leaves := by
    simp [oversizedRecord, Value.levels, Value.leaves]
  obtain ⟨entry, hentry⟩ := h oversizedRecord [] ⟨[], []⟩ ⟨_, rfl⟩ hplain
  have hoversized : oversizedRecord.entry [] (Trace.ofIds ⟨[], []⟩) = .error (.write .oversizedInt) := rfl
  rw [hoversized] at hentry
  cases hentry

end NoteSearch.Log
