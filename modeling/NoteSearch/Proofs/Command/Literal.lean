import NoteSearch.Proofs.Batch
import NoteSearch.Proofs.Match.Literal
import NoteSearch.Proofs.Options
import NoteSearch.Proofs.Query.WellFormed
import NoteSearch.Proofs.Segment.Components
import NoteSearch.Proofs.Snippet.Source

/-!
# What the command line highlights

Whatever a command line, its host's settings and its query say, the terms of a query stand for
themselves. So every term in a printed document is spelled like a part of the query that is looked for
where the term is shown: those of snippets like a term, a phrase or the value of a body field, those of
titles like a term, a phrase or the value of a title field.
-/

namespace NoteSearch

/-- The text is spelled like a term or a phrase of the query or like a value of one of the given fields,
up to case unless `caseSensitive`. -/
def Query.Asks (query : Query) (caseSensitive : Bool) (fields : List Text) (t : Text) : Prop :=
  ∃ literal ∈ query.allTerms.map Text.strip ++ query.fieldValues fields, Spells caseSensitive t literal

/-- All that is shown of a note is asked for where it is shown. -/
structure NoteHighlights.Asked (query : Query) (caseSensitive : Bool) (shown : NoteHighlights) :
    Prop where
  snippets : ∀ snippet ∈ shown.snippets, ∀ h ∈ snippet.highlights,
    query.Asks caseSensitive Batch.bodyFields h.term
  title : ∀ m ∈ shown.title, query.Asks caseSensitive Batch.titleFields m.term

/-! ### Batches -/

namespace Batch

variable [Pattern.Dialect] {raw : Text} {options : HighlightOptions}

theorem asks_of_mem_find (hliteral : options.literalTerms) {fields : List Text} {set : TermSet}
    (hset : fieldSet (.parse raw) options fields = .ok set) {t : Text} {m : Match}
    (hm : m ∈ set.find t) : (Query.parse raw).Asks options.caseSensitive fields m.term := by
  obtain ⟨literal, hmem, hspells⟩ := exists_spells_of_mem_find hliteral hset hm
  have hvalues : ((Query.parse raw).fieldValues fields).map Text.strip
      = (Query.parse raw).fieldValues fields :=
    (List.map_congr_left fun _ hvalue => Query.strip_eq_of_mem_fieldValues hvalue).trans
      (List.map_id' _)
  exact ⟨literal, hvalues ▸ hmem, hspells⟩

theorem asked_highlightNote (hliteral : options.literalTerms) {body title : TermSet}
    (hbody : fieldSet (.parse raw) options bodyFields = .ok body)
    (htitle : fieldSet (.parse raw) options titleFields = .ok title) (note : Note) :
    (highlightNote body title options note).Asked (.parse raw) options.caseSensitive where
  snippets snippet hsnippet h hh := by
    obtain ⟨-, m, hm, -, rfl⟩ := Snippet.exists_match_of_mem_highlights hsnippet hh
    have hasks := asks_of_mem_find hliteral hbody hm
    exact hasks
  title m hm := asks_of_mem_find hliteral htitle hm

theorem asked_of_run {cache : Cache} (hcache : cache.Sound) (hliteral : options.literalTerms)
    {notes : List Note} {result : BatchResult}
    (hresult : (run cache notes raw options).result = .ok result) (id : NoteId) :
    ((result.entries.lookup id).getD ⟨[], []⟩).Asked (.parse raw) options.caseSensitive := by
  obtain ⟨body, title, hbody, htitle⟩ := isSearchable_of_literalTerms hliteral (.parse raw)
  obtain rfl := Except.ok.inj (hresult.symm.trans (result_run_eq_ok hcache hbody htitle notes))
  rw [resultOf, entries, lookup_foldl_assign]
  cases notes.findRev? fun note => id == note.id with
  | none =>
      exact ⟨fun _ h => absurd h List.not_mem_nil, fun _ h => absurd h List.not_mem_nil⟩
  | some note => exact asked_highlightNote hliteral hbody htitle note

end Batch

/-! ### Documents -/

namespace Json

/-- The text that a document is, none for any other document. -/
def text? : Json → Option Text
  | .str t => some t
  | _ => none

/-- The items of the list under a name, none when there is no list. -/
def itemsAt (name : String) (document : Json) : List Json :=
  match document.field? name with
  | some (.list items) => items
  | _ => []

end Json

namespace Command

/-- The terms of the segments under a name. -/
def segmentTerms (name : String) (document : Json) : List (Option Text) :=
  (document.itemsAt name).flatMap fun segment => (segment.itemsAt "terms").map Json.text?

/-- The terms that the entry of a snippet shows, those of its highlights and those of its segments. -/
def snippetTerms (entry : Json) : List (Option Text) :=
  (((entry.field? "snippet").getD .null).itemsAt "highlights").map
      (fun highlight => (highlight.field? "term").bind Json.text?)
    ++ segmentTerms "segments" entry

/-- The terms that the snippets in a document show. -/
def bodyTerms (document : Json) : List (Option Text) :=
  (document.itemsAt "notes").flatMap fun note => (note.itemsAt "snippets").flatMap snippetTerms

/-- The terms that the titles in a document show. -/
def titleTerms (document : Json) : List (Option Text) :=
  (document.itemsAt "notes").flatMap (segmentTerms "title")

theorem itemsAt_notes (result : BatchResult) (notes : List Note) :
    (batchDocument result notes).itemsAt "notes" = notes.map (noteDocument result) :=
  rfl

theorem exists_match_of_mem_segmentTerms {name : String} {document : Json} {t : Text}
    {found : List Match} (hitems : document.itemsAt name = (renderText t found).map Segment.document)
    {term : Option Text} (hterm : term ∈ segmentTerms name document) :
    ∃ m ∈ found, term = some m.term := by
  rw [segmentTerms, hitems, List.flatMap_map] at hterm
  obtain ⟨s, hs, hterm⟩ := List.mem_flatMap.mp hterm
  have hlisted : s.document.itemsAt "terms" = s.terms.map .str := rfl
  rw [hlisted, List.map_map] at hterm
  obtain ⟨listed, hmem, rfl⟩ := List.mem_map.mp hterm
  obtain ⟨m, hm, rfl⟩ := Segment.exists_match_of_mem_terms hs hmem
  exact ⟨m, hm, rfl⟩

theorem exists_match_of_mem_snippetTerms {snippet : Snippet} {term : Option Text}
    (hterm : term ∈ snippetTerms (snippetDocument snippet)) :
    ∃ h ∈ snippet.highlights, term = some h.term := by
  rcases List.mem_append.mp hterm with hhighlight | hsegment
  · have hitems : (snippet.document).itemsAt "highlights"
        = snippet.highlights.map Match.document := rfl
    obtain ⟨document, hdocument, rfl⟩ := List.mem_map.mp hhighlight
    obtain ⟨h, hh, rfl⟩ := List.mem_map.mp (hitems ▸ hdocument)
    exact ⟨h, hh, rfl⟩
  · exact exists_match_of_mem_segmentTerms rfl hsegment

/-- The document of a batch with literal terms shows only what the query asks for. -/
theorem asks_of_mem_terms [Pattern.Dialect] {cache : Cache} (hcache : cache.Sound)
    {options : HighlightOptions} (hliteral : options.literalTerms) {notes : List Note} {raw : Text}
    {result : BatchResult} (hresult : (Batch.run cache notes raw options).result = .ok result) :
    let document := batchDocument result notes
    (∀ term ∈ bodyTerms document, ∃ t, term = some t ∧
        (Query.parse raw).Asks options.caseSensitive Batch.bodyFields t) ∧
      ∀ term ∈ titleTerms document, ∃ t, term = some t ∧
        (Query.parse raw).Asks options.caseSensitive Batch.titleFields t := by
  have hasked := Batch.asked_of_run hcache hliteral hresult
  constructor
  · intro term hterm
    rw [bodyTerms, itemsAt_notes, List.flatMap_map] at hterm
    obtain ⟨note, -, hterm⟩ := List.mem_flatMap.mp hterm
    obtain ⟨entry, hentry, hterm⟩ := List.mem_flatMap.mp hterm
    obtain ⟨snippet, hsnippet, rfl⟩ := List.mem_map.mp hentry
    obtain ⟨h, hh, rfl⟩ := exists_match_of_mem_snippetTerms hterm
    exact ⟨h.term, rfl, (hasked note.id).snippets snippet hsnippet h hh⟩
  · intro term hterm
    rw [titleTerms, itemsAt_notes, List.flatMap_map] at hterm
    obtain ⟨note, -, hterm⟩ := List.mem_flatMap.mp hterm
    obtain ⟨m, hm, rfl⟩ := exists_match_of_mem_segmentTerms rfl hterm
    exact ⟨m.term, rfl, (hasked note.id).title m hm⟩

/-! ### Runs -/

theorem Ending.cases_of_exitCode_eq_zero {ending : Ending} (hexit : ending.exitCode = 0) :
    (∃ topic, ending = .stopped ⟨topic, .help⟩) ∨ ∃ document, ending = .printed document := by
  cases ending with
  | printed document => exact .inr ⟨document, rfl⟩
  | stopped stop =>
      obtain ⟨topic, halt⟩ := stop
      cases halt with
      | help => exact .inl ⟨topic, rfl⟩
      | misuse cause => exact absurd hexit (by simp [exitCode])
  | _ => exact absurd hexit (by simp [exitCode])

theorem exitCode_of_readNote {host : Host} {path : Path} {ending : Ending}
    (hread : readNote host path = .error ending) : ending.exitCode = 1 := by
  rw [readNote] at hread
  split at hread
  · obtain rfl := Except.error.inj hread
    rfl
  · split at hread
    · obtain rfl := Except.error.inj hread
      rfl
    · split at hread
      · obtain rfl := Except.error.inj hread
        rfl
      · exact absurd hread (by simp)

/-- Notes that cannot be read make a run fail. -/
theorem exitCode_of_readNotes {host : Host} {files : List Path} {ending : Ending}
    (hread : readNotes host files = .error ending) : ending.exitCode = 1 := by
  rw [readNotes] at hread
  split at hread
  · split at hread
    · obtain rfl := Except.error.inj hread
      rfl
    · exact absurd hread (by simp)
  · obtain ⟨path, -, hpath⟩ := exists_mem_of_mapM_eq_error hread
    exact exitCode_of_readNote hpath

section Runs

variable [Pattern.Dialect]

theorem exists_of_run_eq_printed {host : Host} {argv : List Text} {document : Json}
    (hprinted : (run host argv).ending = .printed document) :
    ∃ arguments file settings, Arguments.ofList argv = .ok arguments ∧ settingsText host = .ok file ∧
      Settings.load host.environment file = .ok settings ∧
        (runCommand host settings arguments).1 = .printed document := by
  rw [run] at hprinted
  cases harguments : Arguments.ofList argv with
  | error stop => simp [harguments] at hprinted
  | ok arguments =>
      cases hfile : settingsText host with
      | error error => simp [harguments, hfile] at hprinted
      | ok file =>
          cases hsettings : Settings.load host.environment file with
          | error issues => simp [harguments, hfile, hsettings] at hprinted
          | ok settings =>
              simp only [harguments, hfile, hsettings] at hprinted
              exact ⟨arguments, file, settings, rfl, rfl, hsettings, hprinted⟩

theorem exists_of_runHighlight_eq_printed {host : Host} {settings : Settings} {arguments : Arguments}
    {document : Json} (hprinted : (runHighlight host settings arguments).1 = .printed document) :
    ∃ options notes result, highlightOptions settings arguments.choices = .ok options ∧
      (Batch.run (startCache settings) notes arguments.subject options).result = .ok result ∧
      document = batchDocument result notes := by
  rw [runHighlight] at hprinted
  cases hoptions : highlightOptions settings arguments.choices with
  | error issues => simp [hoptions] at hprinted
  | ok options =>
      cases hnotes : readNotes host arguments.files with
      | error ending =>
          simp only [hoptions, hnotes] at hprinted
          have hfailed := exitCode_of_readNotes hnotes
          rw [hprinted] at hfailed
          exact absurd hfailed (by simp [Ending.exitCode])
      | ok notes =>
          cases hresult : (Batch.run (startCache settings) notes arguments.subject options).result with
          | error fault => simp [hoptions, hnotes, hresult] at hprinted
          | ok result =>
              simp only [hoptions, hnotes, hresult] at hprinted
              exact ⟨options, notes, result, rfl, hresult, (Ending.printed.inj hprinted).symm⟩

theorem sound_startCache (settings : Settings) : (startCache settings).Sound := by
  rw [startCache]
  cases hcache : settings.cache with
  | error => exact Cache.sound_of_entries_eq_nil rfl
  | ok cache => exact Cache.sound_of_create hcache

/-- A run that does not fail shows help or prints a document, and all terms that the document of a
highlighting command shows are asked for by its query. -/
theorem asks_of_exitCode_eq_zero {host : Host} {argv : List Text}
    (hexit : (run host argv).ending.exitCode = 0) :
    (∃ topic, (run host argv).ending = .stopped ⟨topic, .help⟩) ∨
      ∃ arguments file settings document, Arguments.ofList argv = .ok arguments ∧
        settingsText host = .ok file ∧ Settings.load host.environment file = .ok settings ∧
        (run host argv).ending = .printed document ∧
        (arguments.name = .highlight →
          let query := Query.parse arguments.subject
          let caseSensitive := settings.caseSensitive || arguments.choices.caseSensitive
          (∀ term ∈ bodyTerms document, ∃ t, term = some t ∧
              query.Asks caseSensitive Batch.bodyFields t) ∧
            ∀ term ∈ titleTerms document, ∃ t, term = some t ∧
              query.Asks caseSensitive Batch.titleFields t) := by
  rcases Ending.cases_of_exitCode_eq_zero hexit with hhelp | ⟨document, hprinted⟩
  · exact .inl hhelp
  · obtain ⟨arguments, file, settings, harguments, hfile, hsettings, hcommand⟩ :=
      exists_of_run_eq_printed hprinted
    refine .inr ⟨arguments, file, settings, document, harguments, hfile, hsettings, hprinted, ?_⟩
    intro hname query caseSensitive
    simp only [runCommand, hname] at hcommand
    obtain ⟨options, notes, result, hoptions, hresult, rfl⟩ :=
      exists_of_runHighlight_eq_printed hcommand
    obtain ⟨hliteral, hcase⟩ := flags_of_highlightOptions hoptions
    have hasks := asks_of_mem_terms (sound_startCache settings) hliteral hresult
    rwa [hcase] at hasks

end Runs

section

attribute [local instance] Pattern.Dialect.nameless

/-- The document that a run prints, none when it prints none. -/
def Ending.document? : Ending → Option Json
  | .printed document => some document
  | _ => none

/-- A host whose environment and whose environment file ask for patterns. -/
def patternHost : Host where
  environment := [("ENABLE_REGEX_SAFE".toList, "false".toList)]
  read path :=
    let content :=
      if path = settingsPath then "Enable_Regex_Safe=0\nCASE_SENSITIVE=no\n" else "axb or A.B"
    .ok (content.toList.map fun c => c.toNat.toUInt8)

/-- A command line whose query is full of the marks of patterns. -/
def patternLine : List Text :=
  ["highlight", "a.b title:(t", "(T)"].map String.toList

theorem asks_of_exitCode_eq_zero_pattern :
    (run patternHost patternLine).ending.exitCode = 0 ∧
      ∃ arguments file settings document, Arguments.ofList patternLine = .ok arguments ∧
        settingsText patternHost = .ok file ∧
        Settings.load patternHost.environment file = .ok settings ∧
        (run patternHost patternLine).ending = .printed document ∧
        arguments.name = .highlight ∧
        bodyTerms document = [some "A.B".toList, some "A.B".toList] ∧
        titleTerms document = [some "(T".toList] ∧
        let query := Query.parse arguments.subject
        let caseSensitive := settings.caseSensitive || arguments.choices.caseSensitive
        query.Asks caseSensitive Batch.bodyFields "A.B".toList ∧
          query.Asks caseSensitive Batch.titleFields "(T".toList := by
  have hexit : (run patternHost patternLine).ending.exitCode = 0 := by decide +kernel
  have hnamed : (Arguments.ofList patternLine).toOption.map Arguments.name = some .highlight := by
    decide +kernel
  have hterms : (run patternHost patternLine).ending.document?.map
      (fun document => (bodyTerms document, titleTerms document))
        = some ([some "A.B".toList, some "A.B".toList], [some "(T".toList]) := by
    decide +kernel
  obtain ⟨topic, hhelp⟩
      | ⟨arguments, file, settings, document, harguments, hfile, hsettings, hprinted, hasks⟩ :=
    asks_of_exitCode_eq_zero hexit
  · rw [hhelp] at hterms
    exact absurd hterms (by simp [Ending.document?])
  · have hname : arguments.name = .highlight := by
      rw [harguments] at hnamed
      exact Option.some.inj hnamed
    rw [hprinted] at hterms
    obtain ⟨hbody, htitle⟩ := Prod.mk.inj (Option.some.inj hterms)
    obtain ⟨hbodyAsks, htitleAsks⟩ := hasks hname
    obtain ⟨t, ht, hbodyAsked⟩ := hbodyAsks (some "A.B".toList) (by simp [hbody])
    obtain ⟨u, hu, htitleAsked⟩ := htitleAsks (some "(T".toList) (by simp [htitle])
    obtain rfl := Option.some.inj ht
    obtain rfl := Option.some.inj hu
    exact ⟨hexit, arguments, file, settings, document, harguments, hfile, hsettings, hprinted, hname,
      hbody, htitle, hbodyAsked, htitleAsked⟩

end

end Command

end NoteSearch
