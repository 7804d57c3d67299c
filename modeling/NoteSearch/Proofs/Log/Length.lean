import NoteSearch.Proofs.Log.Entry

/-!
# How long the texts of an entry are

Messages and texts are cut, so that they are at most as long as an ellipsis after the limit, and what is
redacted is short. A value of another kind that is written as a text is not cut: its text is as long as it
is.
-/

namespace NoteSearch.Log

variable {timestamp : Text} {context : Trace.Context} {record : Record} {message : Message} {entry : Entry}

theorem length_truncate_le {α : Type} (ellipsis : List α) (limit : Nat) (t : List α) :
    (truncate ellipsis limit t).length ≤ limit + ellipsis.length := by
  rw [truncate]
  split
  · rw [List.length_append, List.length_take]
    omega
  · omega

/-! ### Values that are written as texts -/

/-- The text of a value that is no text and is written as one. -/
def Value.spelled? : Value → Option Text
  | .bytes data => some (Utf8.decodeLossy data)
  | .error message => some message
  | .complex re im => some (complexText re im)
  | .other _ shown => shown
  | _ => none

theorem within_ne_str {α : Type} {depth : Nat} {inside : Except WriteError α} {f : α → Json} {t : Text}
    (hf : ∀ a, f a ≠ .str t) : within depth (inside.map f) ≠ .ok (.str t) := by
  intro h
  rw [within] at h
  split at h
  · cases inside with
    | error e => cases h
    | ok a => exact hf a (Except.ok.inj h)
  · cases h

theorem Value.write_eq_str_iff {depth : Nat} {value : Value} {t : Text} :
    value.write depth = .ok (.str t) ↔ value = .str t ∨ value.spelled? = some t := by
  cases value with
  | list _ | object _ | set _ =>
      rw [write]
      exact iff_of_false (within_ne_str fun _ => Json.noConfusion) (by simp [spelled?])
  | int n =>
      rw [write, writeInt]
      split <;> simp [spelled?]
  | float x => cases x <;> simp [write, spelled?, writeFloat]
  | other kind shown => cases shown <;> simp [write, spelled?]
  | _ => simp [write, spelled?]

/-! ### The entry -/

theorem exists_message_of_entry (hentry : record.entry timestamp context = .ok entry) :
    ∃ t, entry.lookup "message" = some (.str t) ∧ t.length ≤ maxMessageLength + 3 := by
  obtain ⟨message, -, hcollect⟩ := Record.entry_eq_ok_iff.mp hentry
  have hreserved : record.written? "message" = none := if_neg (by decide)
  have hfield := lookup_of_collect hcollect "message"
  rw [lookup_fields, hreserved] at hfield
  obtain ⟨json, hjson, hwritten⟩ := Option.map_eq_some_iff.mp hfield.symm
  obtain ⟨t, hmessage, rfl⟩ := writeMessage_eq_ok_iff.mp hwritten.symm
  have hcut := length_truncate_le (Message.ofText ellipsis) maxMessageLength message
  rw [hmessage, Message.ofText, List.length_map] at hcut
  exact ⟨t, hjson, hcut⟩

/-- The message of an entry is cut, and of the extra fields that are written as texts the redacted ones and
those that are texts are short. All others are short only if their own text is. -/
theorem Record.length_le_iff_of_entry (hentry : record.entry timestamp context = .ok entry) :
    (∃ t, entry.lookup "message" = some (.str t) ∧ t.length ≤ maxMessageLength + 3) ∧
    ∀ name value t, record.written? name = some value → entry.lookup name = some (.str t) →
      (t.length ≤ maxValueLength + 3 ↔
        HoldsUserText name ∨ (∃ s, value = .str s) ∨
          ∃ own, value.spelled? = some own ∧ own.length ≤ maxValueLength + 3) := by
  refine ⟨exists_message_of_entry hentry, fun name value t hvalue hlookup => ?_⟩
  obtain ⟨message, -, hcollect⟩ := Record.entry_eq_ok_iff.mp hentry
  have hfield := lookup_of_collect hcollect name
  rw [lookup_fields, hvalue, hlookup] at hfield
  have hwritten : writeField (redact name value) = .ok (.str t) := Option.some.inj hfield
  rw [writeField, Value.write_eq_str_iff] at hwritten
  obtain ⟨hname, hredact⟩ | ⟨hname, s, rfl, hredact⟩ | ⟨hname, hother, hredact⟩ := redact_cases name value
  · rw [hredact] at hwritten
    obtain rfl : redactedText = t := by simpa [Value.spelled?] using hwritten
    exact iff_of_true (by decide) (.inl hname)
  · rw [hredact] at hwritten
    obtain rfl : truncate ellipsis maxValueLength s = t := by simpa [Value.spelled?] using hwritten
    exact iff_of_true (length_truncate_le ellipsis maxValueLength s) (.inr (.inl ⟨s, rfl⟩))
  · rw [hredact, or_iff_right (hother t)] at hwritten
    simp [hname, hother, hwritten]

/-- A record with a long text and an error whose text is just as long. -/
def longRecord : Record where
  logger := "root".toList
  template := "m".toList
  extra := [("detail", .str (List.replicate 504 'a')), ("cause", .error (List.replicate 504 'a'))]

/-- The text is cut in the entry of the record, the error is not. -/
def longEntry : Entry :=
  [("timestamp", .str []), ("level", .str "INFO".toList), ("message", .str "m".toList),
    ("logger", .str "root".toList), ("trace_id", .str []), ("span_id", .str []),
    ("detail", .str (List.replicate 500 'a' ++ ellipsis)), ("cause", .str (List.replicate 504 'a'))]

set_option maxRecDepth 4000 in
theorem Record.length_le_iff_of_entry_long :
    longRecord.entry [] [] = .ok longEntry ∧
      (∃ t, longEntry.lookup "message" = some (.str t) ∧ t.length ≤ maxMessageLength + 3) ∧
      (List.replicate 500 'a' ++ ellipsis).length ≤ maxValueLength + 3 ∧
      ¬(List.replicate 504 'a').length ≤ maxValueLength + 3 := by
  have hentry : longRecord.entry [] [] = .ok longEntry := rfl
  obtain ⟨hmessage, hvalues⟩ := length_le_iff_of_entry hentry
  have hdetail := hvalues "detail" _ _ rfl rfl
  have hcause := hvalues "cause" _ _ rfl rfl
  refine ⟨hentry, hmessage, hdetail.mpr (.inr (.inl ⟨_, rfl⟩)), hcause.not.mpr ?_⟩
  have hname : ¬HoldsUserText "cause" := by decide +kernel
  rintro (hsecret | ⟨s, htext⟩ | ⟨own, hown, hlength⟩)
  · exact hname hsecret
  · cases htext
  · obtain rfl := Option.some.inj hown
    rw [List.length_replicate] at hlength
    exact absurd hlength (by decide)

theorem not_forall_length_le :
    ¬∀ (record : Record) (timestamp : Text) (context : Trace.Context) (entry : Entry),
      record.entry timestamp context = .ok entry →
      ∀ name value t, record.written? name = some value → entry.lookup name = some (.str t) →
        t.length ≤ maxValueLength + 3 := by
  intro h
  have hlong := h longRecord [] [] _ rfl "cause" _ (List.replicate 504 'a') rfl rfl
  rw [List.length_replicate] at hlong
  exact absurd hlong (by decide)

end NoteSearch.Log
