import Mathlib.Algebra.Ring.Nat
import NoteSearch.Proofs.FirstSeen
import NoteSearch.Proofs.Match.Transparency

/-!
# Batches note by note

A batch shows of every note what a finder finds in that note alone, whatever the processor and the
finder were used for before. The entries have the distinct ids in the order in which they first come;
an entry is that of the last note with its id, and the matches of all notes are counted. So notes that
are added to a batch replace the entries of their own ids and leave the others as they are. A query
with a term that breaks the search has no batch, even of no notes.
-/

namespace NoteSearch

/-! ### The notes of two lists -/

namespace Batch

theorem totalMatches_append (body : TermSet) (first second : List Note) :
    totalMatches body (first ++ second) = totalMatches body first + totalMatches body second := by
  show ((first ++ second).map _).sum = _
  rw [List.map_append, List.sum_append]
  rfl

/-- The entries of the notes that are added take the place of those of the same ids. -/
theorem lookup_entries_append (body title : TermSet) (options : HighlightOptions)
    (first second : List Note) (id : NoteId) :
    (entries body title options (first ++ second)).lookup id
      = if id ∈ second.map Note.id then (entries body title options second).lookup id
        else (entries body title options first).lookup id := by
  simp only [entries, lookup_foldl_assign, List.findRev?_eq_find?_reverse, List.reverse_append,
    List.find?_append]
  -- the last note with the id is one of the second list, if that has any
  by_cases hmem : id ∈ second.map Note.id
  · obtain ⟨note, hnote, hid⟩ := List.mem_map.mp hmem
    have hsome : (second.reverse.find? fun note => id == note.id).isSome :=
      List.find?_isSome.mpr ⟨note, List.mem_reverse.mpr hnote, beq_iff_eq.mpr hid.symm⟩
    rw [if_pos hmem, Option.or_of_isSome hsome]
  · have hnone : (second.reverse.find? fun note => id == note.id) = none := by
      apply List.find?_eq_none.mpr
      intro note hnote hid
      exact hmem (List.mem_map.mpr ⟨note, List.mem_reverse.mp hnote, (eq_of_beq hid).symm⟩)
    rw [if_neg hmem, hnone, Option.none_or]

end Batch

section

variable [Pattern.Dialect]

/-- A cache that finders and batch processors can come to have. -/
def Cache.Used (cache : Cache) : Prop :=
  ∃ capacity created, ∃ uses : List Use,
    create capacity = .ok created ∧ cache = uses.foldl after created

theorem Cache.Used.sound {cache : Cache} (h : cache.Used) : cache.Sound := by
  obtain ⟨capacity, created, uses, hcreate, rfl⟩ := h
  exact (sound_of_create hcreate).foldl_after uses

namespace Batch

/-! ### One note -/

/-- What a finder finds of the query in a text where the values of the given fields count. -/
def fieldMatches (finder : Cache) (query : Query) (options : HighlightOptions) (fields : List Text)
    (t : Text) : Except Pattern.Fault (List Match) :=
  (finder.find t query.allTerms (query.fieldValues fields) options).found

/-- What a query shows of a note that is looked at alone. -/
def highlightAlone (finder : Cache) (query : Query) (options : HighlightOptions) (note : Note) :
    Except Pattern.Fault NoteHighlights :=
  (fieldMatches finder query options bodyFields note.content).bind fun body =>
    (fieldMatches finder query options titleFields note.displayTitle).map fun title =>
      { snippets := buildSnippets note.content body options, title }

/-- No term of the query breaks the search. -/
def IsSearchable (query : Query) (options : HighlightOptions) : Prop :=
  ∃ body title, fieldSet query options bodyFields = .ok body ∧
    fieldSet query options titleFields = .ok title

theorem isSearchable_of_literalTerms {options : HighlightOptions} (hliteral : options.literalTerms)
    (query : Query) : IsSearchable query options :=
  ⟨_, _, TermSet.compile_of_literalTerms _ hliteral, TermSet.compile_of_literalTerms _ hliteral⟩

section Alone

variable {cache finder : Cache} {query : Query} {options : HighlightOptions} {body title : TermSet}

theorem fieldMatches_eq_ok (hfinder : finder.Sound) {fields : List Text} {set : TermSet}
    (hset : fieldSet query options fields = .ok set) (t : Text) :
    fieldMatches finder query options fields t = .ok (set.find t) :=
  hfinder.found_find_of_compile t hset

theorem fieldMatches_eq_error (hfinder : finder.Sound) {fields : List Text} {fault : Pattern.Fault}
    (hset : fieldSet query options fields = .error fault) {t : Text} (hsome : t ≠ []) :
    fieldMatches finder query options fields t = .error fault := by
  have hempty : ¬t.isEmpty := by simpa using hsome
  rw [fieldMatches, hfinder.found_find, if_neg hempty, ← fieldSet, hset]
  rfl

theorem highlightAlone_eq_ok (hfinder : finder.Sound)
    (hbody : fieldSet query options bodyFields = .ok body)
    (htitle : fieldSet query options titleFields = .ok title) (note : Note) :
    highlightAlone finder query options note = .ok (highlightNote body title options note) := by
  rw [highlightAlone, fieldMatches_eq_ok hfinder hbody, fieldMatches_eq_ok hfinder htitle]
  rfl

/-! ### All notes -/

theorem result_run_eq_ok (hcache : cache.Sound) {query : Text}
    (hbody : fieldSet (.parse query) options bodyFields = .ok body)
    (htitle : fieldSet (.parse query) options titleFields = .ok title) (notes : List Note) :
    (run cache notes query options).result
      = .ok (resultOf body title (.parse query) options notes) := by
  rw [hcache.result_run, hbody, htitle]
  rfl

/-- A term that breaks the search breaks every batch of the query, and the search of every note alone
that has a text and a title to look at. -/
theorem exists_fault_of_not_isSearchable (hfinder : finder.Sound) {query : Text}
    (hbroken : ¬IsSearchable (.parse query) options) :
    ∃ fault,
      (∀ cache : Cache, cache.Sound → ∀ notes, (run cache notes query options).result = .error fault) ∧
        ∀ note, note.content ≠ [] → note.displayTitle ≠ [] →
          highlightAlone finder (.parse query) options note = .error fault := by
  cases hbody : fieldSet (.parse query) options bodyFields with
  | error fault =>
      refine ⟨fault, fun cache hcache notes => ?_, fun note hcontent _ => ?_⟩
      · rw [hcache.result_run, hbody]
        rfl
      · rw [highlightAlone, fieldMatches_eq_error hfinder hbody hcontent]
        rfl
  | ok body =>
      cases htitle : fieldSet (.parse query) options titleFields with
      | error fault =>
          refine ⟨fault, fun cache hcache notes => ?_, fun note _ hshown => ?_⟩
          · rw [hcache.result_run, hbody, htitle]
            rfl
          · rw [highlightAlone, fieldMatches_eq_ok hfinder hbody,
              fieldMatches_eq_error hfinder htitle hshown]
            rfl
      | ok title => exact absurd ⟨body, title, hbody, htitle⟩ hbroken

theorem lookup_entries (hfinder : finder.Sound)
    (hbody : fieldSet query options bodyFields = .ok body)
    (htitle : fieldSet query options titleFields = .ok title) (notes : List Note) (id : NoteId) :
    ((entries body title options notes).lookup id).map Except.ok
      = (notes.findRev? fun note => id == note.id).map (highlightAlone finder query options) := by
  rw [entries, lookup_foldl_assign, Option.map_map]
  congr 1
  funext note
  exact (highlightAlone_eq_ok hfinder hbody htitle note).symm

/-- The matches in the contents of the notes are found one note after another, and are added up. -/
theorem exists_counts_of_totalMatches (hfinder : finder.Sound)
    (hbody : fieldSet query options bodyFields = .ok body) (notes : List Note) :
    ∃ counts : List Nat,
      List.Forall₂ (fun note count => (fieldMatches finder query options bodyFields note.content).map
        List.length = .ok count) notes counts ∧
      totalMatches body notes = counts.sum := by
  refine ⟨notes.map fun note => (body.find note.content).length, ?_, rfl⟩
  rw [List.forall₂_map_right_iff, List.forall₂_same]
  intro note _
  rw [fieldMatches_eq_ok hfinder hbody]
  rfl

end Alone

/-- When no term of the query breaks the search, which none does when terms are literals, a batch has
the distinct ids of its notes; the entry of an id is what the last note with it shows alone, and the
matches in the contents of all notes are counted. So a batch of two lists counts what both count, and has
the entries of the second and, for the ids that are not in it, those of the first. With a term that
breaks the search, every batch of the query is that fault, and so is every note alone that has a text and
a title. -/
theorem run_eq_alone {finder : Cache} (hfinder : finder.Used) (query : Text)
    (options : HighlightOptions) :
    (options.literalTerms → IsSearchable (.parse query) options) ∧
      (IsSearchable (.parse query) options →
        (∀ cache : Cache, cache.Used → ∀ notes : List Note,
          ∃ result counts, (run cache notes query options).result = .ok result ∧
            result.entries.map Prod.fst = (notes.map Note.id).eraseDups ∧
            (∀ id, (result.entries.lookup id).map Except.ok
              = (notes.findRev? fun note => id == note.id).map
                (highlightAlone finder (.parse query) options)) ∧
            List.Forall₂ (fun note count =>
              (fieldMatches finder (.parse query) options bodyFields note.content).map List.length
                = .ok count) notes counts ∧
            result.totalMatches = counts.sum) ∧
        ∀ whole front back : Cache, whole.Used → front.Used → back.Used → ∀ first second : List Note,
          ∃ result earlier later, (run whole (first ++ second) query options).result = .ok result ∧
            (run front first query options).result = .ok earlier ∧
            (run back second query options).result = .ok later ∧
            result.totalMatches = earlier.totalMatches + later.totalMatches ∧
            ∀ id, result.entries.lookup id
              = if id ∈ second.map Note.id then later.entries.lookup id
                else earlier.entries.lookup id) ∧
      (¬IsSearchable (.parse query) options →
        ∃ fault,
          (∀ cache : Cache, cache.Used → ∀ notes : List Note,
            (run cache notes query options).result = .error fault) ∧
          ∀ note, note.content ≠ [] → note.displayTitle ≠ [] →
            highlightAlone finder (.parse query) options note = .error fault) := by
  refine ⟨fun hliteral => isSearchable_of_literalTerms hliteral _, ?_, ?_⟩
  · rintro ⟨body, title, hbody, htitle⟩
    constructor
    · intro cache hcache notes
      obtain ⟨counts, hcounts, htotal⟩ := exists_counts_of_totalMatches hfinder.sound hbody notes
      exact ⟨_, counts, result_run_eq_ok hcache.sound hbody htitle notes, map_fst_foldl_assign _ _ _,
        lookup_entries hfinder.sound hbody htitle notes, hcounts, htotal⟩
    · intro whole front back hwhole hfront hback first second
      exact ⟨_, _, _, result_run_eq_ok hwhole.sound hbody htitle _,
        result_run_eq_ok hfront.sound hbody htitle _, result_run_eq_ok hback.sound hbody htitle _,
        totalMatches_append body first second, lookup_entries_append body title options first second⟩
  · intro hbroken
    obtain ⟨fault, hrun, halone⟩ := exists_fault_of_not_isSearchable hfinder.sound hbroken
    exact ⟨fault, fun cache hcache notes => hrun cache hcache.sound notes, halone⟩

end Batch

end

namespace Batch

section

attribute [local instance] Pattern.Dialect.nameless

/-- Two notes, of which the first has a number as its id and the second a name that spells it. -/
def earlierNotes : List Note :=
  [{ id := .number 1, content := "one, one".toList }, { id := .name "1".toList, content := "one".toList }]

/-- A note with the id of the first of them. -/
def revisedNote : Note :=
  { id := .number 1, content := "no one".toList, title := some "On one".toList }

theorem run_eq_alone_revised :
    ∃ busy : Cache, Cache.default.Used ∧ busy.Used ∧
      ∃ result earlier later,
        (run busy (earlierNotes ++ [revisedNote]) "one title:on".toList {}).result = .ok result ∧
          (run busy earlierNotes "one title:on".toList {}).result = .ok earlier ∧
          (run .default [revisedNote] "one title:on".toList {}).result = .ok later ∧
          result.entries.map Prod.fst = [.number 1, .name "1".toList] ∧
          (result.entries.lookup (.number 1)).map Except.ok
            = some (highlightAlone .default (.parse "one title:on".toList) {} revisedNote) ∧
          result.totalMatches = earlier.totalMatches + later.totalMatches ∧
          result.entries.lookup (.name "1".toList) = earlier.entries.lookup (.name "1".toList) := by
  have hdefault : Cache.default.Used := ⟨128, .default, [], rfl, rfl⟩
  have hbusy : ((Cache.crowdedUses {} { caseSensitive := true } { literalTerms := false }).foldl
      Cache.after Cache.default).Used := ⟨128, .default, _, rfl, rfl⟩
  obtain ⟨hliteral, hsearchable, _⟩ := run_eq_alone hdefault "one title:on".toList {}
  obtain ⟨halone, happend⟩ := hsearchable (hliteral rfl)
  obtain ⟨result, _, hresult, hids, hentry, _⟩ := halone _ hbusy (earlierNotes ++ [revisedNote])
  obtain ⟨whole, earlier, later, hwhole, hearlier, hlater, htotal, hkept⟩ :=
    happend _ _ _ hbusy hbusy hdefault earlierNotes [revisedNote]
  obtain rfl := Except.ok.inj (hwhole.symm.trans hresult)
  exact ⟨_, hdefault, hbusy, _, earlier, later, hwhole, hearlier, hlater, hids.trans (by decide),
    hentry (.number 1), htotal, hkept _⟩

/-- A query that is to be ASCII and not so has no batch, even of no notes. -/
theorem not_forall_exists_result_run :
    ¬∀ (notes : List Note) (query : Text) (options : HighlightOptions),
      ∃ result, (run .default notes query options).result = .ok result ∧
        result.entries.map Prod.fst = (notes.map Note.id).eraseDups := by
  intro hforall
  obtain ⟨result, hresult, _⟩ := hforall [] "(?a)(?u)x".toList { literalTerms := false }
  have hfault : (run .default [] "(?a)(?u)x".toList { literalTerms := false }).result.isOk = false := by
    decide
  rw [hresult] at hfault
  exact nomatch hfault

end

end Batch

end NoteSearch
