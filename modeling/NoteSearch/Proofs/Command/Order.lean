import NoteSearch.Proofs.Command.Progress

/-!
# Where files may stand

The files of a command may stand before and after its switches, and it does not matter where they stand
unless a file behind a switch begins with a dash: nothing in front of the switches is refused for that,
and behind them everything is. That files are what they were in the other order is seen by counting them:
a switch or a marker among them would have made one less.
-/

namespace NoteSearch.Command

namespace Progress

variable {name : Name} {q : Text} {final : Progress}

/-- What has been read of a command with files when its subject has been taken. -/
def begun (q : Text) : Progress :=
  { choices := {}, stage := .files, subject := some q }

theorem stage_begun (q : Text) : (begun q).stage ≠ .subject :=
  Stage.noConfusion

theorem take_subject (htakes : name.takesFiles) (q : Text) :
    take name { choices := {} } q = begun q := by
  have hafter : afterSubject name = .files := if_pos htakes
  rw [take, hafter]
  rfl

/-- The marker goes with the subject when it stands next to it. -/
theorem read_subject (htakes : name.takesFiles) {u : Text} (items : List (Text × Item)) :
    read name { choices := {} } ((q, .plain u) :: items)
      = read name (begun q) (Item.behindMarker items) := by
  rcases items with _ | ⟨⟨mark, item⟩, rest⟩
  · exact congrArg (read name · []) (take_subject htakes q)
  · cases item with
    | marker => rw [read, if_pos rfl, take_subject htakes, Item.behindMarker]
    | plain v => exact congrArg (read name · _) (take_subject htakes q)
    | switch s short attached => exact congrArg (read name · _) (take_subject htakes q)
    | unknown v => exact congrArg (read name · _) (take_subject htakes q)

end Progress

namespace Arguments

variable {name : Name} {arguments options : List Text} {given : List (Text × Item)} {q : Text}
  {parsed : Arguments} {final : Progress}

/-! ### Command lines of a command -/

theorem name_ne_marker (name : Name) : name.text.toList ≠ markerText := by
  cases name with
  | highlight => decide
  | suggest => decide
  | complete => decide

theorem ofArgument_name (name : Name) :
    Item.ofArgument (Switch.table none) name.text.toList = .ok (.plain name.text.toList) := by
  cases name with
  | highlight => rfl
  | suggest => rfl
  | complete => rfl

theorem ofText?_name (name : Name) : Name.ofText? name.text.toList = some name := by
  cases name with
  | highlight => rfl
  | suggest => rfl
  | complete => rfl

theorem ofList_command (name : Name) (arguments : List Text) :
    ofList (name.text.toList :: arguments)
      = match Item.ofArguments (Switch.table none) arguments with
        | .error cause => .error ⟨none, .misuse cause⟩
        | .ok _ => readCommand name {} [] arguments := by
  rw [ofList, Item.ofArguments_cons (name_ne_marker name), ofArgument_name]
  cases hitems : Item.ofArguments (Switch.table none) arguments with
  | error cause => rfl
  | ok items =>
      show readItems {} [] ((name.text.toList, .plain name.text.toList) :: items) = _
      rw [readItems, ofText?_name, Item.map_fst_of_ofArguments hitems]

/-- The arguments of a command are read to the end. -/
def ReadTo (name : Name) (arguments : List Text) (final : Progress) : Prop :=
  ∃ items, Item.ofArguments (Switch.table (some name)) arguments = .ok items ∧
    Progress.read name { choices := {} } items = .ok final

theorem ofList_of_readTo {items : List (Text × Item)}
    (hmain : Item.ofArguments (Switch.table none) arguments = .ok items)
    (hread : ReadTo name arguments final) (hsubject : final.subject = some q) :
    ofList (name.text.toList :: arguments) = finish name q final [] := by
  obtain ⟨own, hown, hfinal⟩ := hread
  rw [ofList_command, hmain]
  simp only [readCommand, hown, hfinal, hsubject]

theorem finish_of_clean (htakes : name.takesFiles) (hclean : final.Clean) :
    finish name q final []
      = .ok ⟨name, q, (final.files.erase markerText ++ final.extras).map Path.ofText,
          final.choices⟩ := by
  have hany : (final.extras.any fun t => t.head? == some '-') = false := by
    simpa [Progress.Clean] using hclean
  rw [finish, List.nil_append, htakes, hany]
  exact if_neg (by simp)

theorem finish_of_not_clean (hdash : ∃ t ∈ final.extras, t.head? = some '-') :
    finish name q final [] = .error ⟨none, .misuse (.unrecognized final.extras)⟩ := by
  have hany : (final.extras.any fun t => t.head? == some '-') = true := by simpa using hdash
  obtain ⟨t, ht, -⟩ := hdash
  have hsome : final.extras.isEmpty = false := by simpa using List.ne_nil_of_mem ht
  rw [finish, List.nil_append, hany, hsome]
  exact if_pos (by simp)

theorem exists_readTo_of_ofList (htakes : name.takesFiles)
    (h : ofList (name.text.toList :: arguments) = .ok parsed) :
    (∃ items, Item.ofArguments (Switch.table none) arguments = .ok items) ∧
      ∃ final, ReadTo name arguments final ∧ final.subject = some parsed.subject ∧ final.Clean ∧
        parsed = ⟨name, parsed.subject,
          (final.files.erase markerText ++ final.extras).map Path.ofText, final.choices⟩ := by
  rw [ofList_command] at h
  cases hmain : Item.ofArguments (Switch.table none) arguments with
  | error cause =>
      rw [hmain] at h
      exact absurd h (by simp)
  | ok items =>
      simp only [hmain, readCommand] at h
      refine ⟨⟨items, rfl⟩, ?_⟩
      split at h
      · exact absurd h (by simp)
      · next final hread =>
          split at h
          · exact absurd h (by simp)
          · next subject hsubject =>
              have hclean : final.Clean := by
                intro t ht hdash
                rw [finish_of_not_clean ⟨t, ht, hdash⟩] at h
                exact absurd h (by simp)
              rw [finish_of_clean htakes hclean] at h
              obtain rfl := Except.ok.inj h
              refine ⟨final, ?_, hsubject, hclean, rfl⟩
              split at hread
              · exact absurd hread (by simp [fail])
              · next own hown => exact ⟨own, hown, hread⟩

/-! ### The subject -/

/-- An argument that a command takes as its subject. -/
structure IsSubject (name : Name) (q : Text) : Prop where
  ne_marker : q ≠ markerText
  plain : Item.ofArgument (Switch.table (some name)) q = .ok (.plain q)

/-- What is read as the subject alone is one. -/
theorem isSubject_of_ofList (htakes : name.takesFiles)
    (h : ofList [name.text.toList, q] = .ok parsed) : IsSubject name q := by
  obtain ⟨-, final, ⟨items, hitems, hread⟩, hsubject, -, -⟩ := exists_readTo_of_ofList htakes h
  have hnone : final.subject ≠ none := by simp [hsubject]
  by_cases hmarker : q = markerText
  · rw [hmarker, Item.ofArguments_marker] at hitems
    obtain rfl := Except.ok.inj hitems
    obtain rfl := Except.ok.inj hread
    exact absurd rfl hnone
  · obtain ⟨item, later, hitem, hlater, rfl⟩ := Item.exists_of_ofArguments_cons hmarker hitems
    obtain rfl := Except.ok.inj hlater
    have hfits := Item.fits_of_ofArgument hitem
    cases item with
    | plain u =>
        obtain rfl : u = q := hfits
        exact ⟨hmarker, hitem⟩
    | marker => exact hfits.elim
    | switch s short attached =>
        obtain ⟨choices, hend | ⟨_, _, _, hvalue, -⟩⟩ := Progress.exists_of_read_switch hread
        · obtain rfl := Except.ok.inj hend
          exact absurd rfl hnone
        · exact absurd hvalue (by simp)
    | unknown u =>
        rw [Progress.read_unknown] at hread
        obtain rfl := Except.ok.inj hread
        exact absurd rfl hnone

theorem readTo_subject_iff (htakes : name.takesFiles) (hq : IsSubject name q) :
    ReadTo name (q :: arguments) final ↔
      ∃ items, Item.ofArguments (Switch.table (some name)) arguments = .ok items ∧
        Progress.read name (.begun q) (Item.behindMarker items) = .ok final := by
  constructor
  · rintro ⟨items, hitems, hread⟩
    obtain ⟨item, later, hitem, hlater, rfl⟩ := Item.exists_of_ofArguments_cons hq.ne_marker hitems
    obtain rfl : Item.plain q = item := Except.ok.inj (hq.plain.symm.trans hitem)
    rw [Progress.read_subject htakes] at hread
    exact ⟨later, hlater, hread⟩
  · rintro ⟨items, hitems, hread⟩
    refine ⟨_, Item.ofArguments_cons_of_ok hq.ne_marker hq.plain hitems, ?_⟩
    rw [Progress.read_subject htakes, hread]

/-! ### Switches -/

/-- Arguments that are switches of a command with their values. -/
structure AreSwitches (name : Name) (options : List Text) (given : List (Text × Item)) : Prop where
  items_eq : Item.ofArguments (Switch.table (some name)) options = .ok given
  switches : Switches given

namespace AreSwitches

theorem items_ne_nil (h : AreSwitches name options given) (hsome : options ≠ []) : given ≠ [] := by
  rintro rfl
  exact hsome (Item.map_fst_of_ofArguments h.items_eq).symm

theorem marker_notMem (h : AreSwitches name options given) : markerText ∉ options := by
  intro hmem
  obtain ⟨front, behind, rfl, hfront⟩ := List.eq_append_cons_of_mem hmem
  obtain ⟨first, last, -, hlast, hgiven⟩ := Item.exists_of_ofArguments_append hfront h.items_eq
  rw [Item.ofArguments_marker] at hlast
  obtain rfl := Except.ok.inj hlast
  exact h.switches.ne_marker (markerText, .marker) (by simp [hgiven]) rfl

end AreSwitches

/-! ### The marker -/

/-- How many texts are other paths than the marker. -/
def countOther (ts : List Text) : Nat :=
  (ts.map Path.ofText).countP (· != Path.ofText markerText)

theorem countOther_append (ts us : List Text) : countOther (ts ++ us) = countOther ts + countOther us := by
  rw [countOther, List.map_append, List.countP_append]
  rfl

theorem countOther_marker (ts : List Text) : countOther (markerText :: ts) = countOther ts := by
  rw [countOther, List.map_cons, List.countP_cons_of_neg (by simp)]
  rfl

theorem countOther_erase (ts : List Text) : countOther (ts.erase markerText) = countOther ts := by
  by_cases hmem : markerText ∈ ts
  · have hperm := (List.perm_cons_erase hmem).map Path.ofText
    rw [← countOther_marker]
    exact (hperm.countP_eq _).symm
  · rw [List.erase_of_not_mem hmem]

theorem AreSwitches.countOther_pos (h : AreSwitches name options given) (hsome : options ≠ []) :
    0 < countOther options := by
  obtain ⟨t, s, short, attached, rest, rfl⟩ := h.switches.exists_switch (h.items_ne_nil hsome)
  have hunmarked := h.marker_notMem
  have hitems := h.items_eq
  obtain rfl : t :: rest.map Prod.fst = options := Item.map_fst_of_ofArguments hitems
  obtain ⟨item, later, hitem, -, heq⟩ :=
    Item.exists_of_ofArguments_cons (List.ne_of_not_mem_cons hunmarked).symm hitems
  obtain ⟨-, rfl⟩ := Prod.mk.inj (List.cons.inj heq).1
  have hother := bne_iff_ne.mpr (Item.ofText_ne_of_switch hitem)
  exact List.countP_pos_iff.mpr ⟨Path.ofText t, List.mem_cons_self, hother⟩

/-- Once the marker is read everything is kept: a switch in front of it would leave the marker where
nothing takes it. -/
theorem kept_of_marker {front : List (Text × Item)} {rest : List Text}
    (hfits : ∀ entry ∈ front, Item.Fits entry)
    (hread : Progress.read name (.begun q) (front ++ (markerText, .marker) :: Item.plains rest) = .ok final)
    (hclean : final.Clean) :
    final.files = front.map Prod.fst ++ markerText :: rest ∧ final.extras = [] := by
  have hmarked : NotPlainFirst ((markerText, .marker) :: Item.plains rest) := by
    intro t u
    simp
  have hstage := Progress.stage_begun q
  obtain ⟨reached, hreached, hpassed⟩ := Progress.exists_read_front hmarked front hfits hstage hread
  rcases hpassed with ⟨arguments, rfl, rfl⟩ | ⟨hnothing, -⟩
  · have hfiles : ((Progress.begun q).takeAll name arguments).stage = .files :=
      Progress.stage_takeAll hstage arguments
    rw [Progress.read_marked (by simp [hfiles]), Progress.takeAll_of_files hfiles,
      Progress.takeAll_of_files rfl] at hreached
    obtain rfl := Except.ok.inj hreached
    rw [Item.map_fst_plains]
    exact ⟨rfl, rfl⟩
  · rw [Progress.read_marked (by simp [hnothing]), Progress.takeAll_of_nothing hnothing] at hreached
    obtain rfl := Except.ok.inj hreached
    exact absurd rfl (hclean markerText (by simp))

/-- The marker is not among files in front of switches that are kept as they are: it would make files of
the switches. -/
theorem marker_notMem_of_countOther (htakes : name.takesFiles) (hq : IsSubject name q)
    (hoptions : AreSwitches name options given) (hsome : options ≠ []) {files : List Text}
    (hread : ReadTo name (q :: (files ++ options)) final) (hclean : final.Clean)
    (hcount : countOther (final.files ++ final.extras) = countOther files) : markerText ∉ files := by
  intro hmem
  obtain ⟨front, behind, rfl, hfront⟩ := List.eq_append_cons_of_mem hmem
  obtain ⟨items, hitems, hread⟩ := (readTo_subject_iff htakes hq).mp hread
  rw [List.append_assoc, List.cons_append] at hitems
  obtain ⟨first, last, hfirst, hlast, rfl⟩ := Item.exists_of_ofArguments_append hfront hitems
  rw [Item.ofArguments_marker] at hlast
  obtain rfl := Except.ok.inj hlast
  have hpos := hoptions.countOther_pos hsome
  have hmap := Item.map_fst_of_ofArguments hfirst
  have hfits := Item.fits_of_mem_ofArguments hfront hfirst
  cases first with
  | nil =>
      rw [List.nil_append, Item.behindMarker, Progress.read_plains_end (Progress.stage_begun q),
        Progress.takeAll_of_files rfl] at hread
      obtain rfl := Except.ok.inj hread
      obtain rfl : [] = front := hmap
      simp only [Progress.begun, List.nil_append, List.append_nil, countOther_append,
        countOther_marker] at hcount
      omega
  | cons entry first =>
      rw [List.cons_append, Item.behindMarker_cons_of_fits (hfits entry List.mem_cons_self)] at hread
      obtain ⟨hfiles, hextras⟩ := kept_of_marker hfits hread hclean
      rw [hfiles, hextras, hmap, List.append_nil] at hcount
      simp only [countOther_append, countOther_marker] at hcount
      omega

theorem countOther_of_map_eq {files : List Text}
    (h : (final.files.erase markerText ++ final.extras).map Path.ofText = files.map Path.ofText) :
    countOther (final.files ++ final.extras) = countOther files := by
  rw [countOther_append, ← countOther_erase final.files, ← countOther_append]
  exact congrArg (List.countP (· != Path.ofText markerText)) h

/-! ### Files and switches -/

theorem length_le_kept {files : List Text}
    (h : (final.files.erase markerText ++ final.extras).map Path.ofText = files.map Path.ofText) :
    files.length ≤ final.kept := by
  have hlength := congrArg List.length h
  have herase := List.length_erase_le (a := markerText) (l := final.files)
  simp only [List.length_map, List.length_append, Progress.kept] at hlength ⊢
  omega

/-- Files of which none is lost in front of switches are plain, and then the switches do nothing but
choose. -/
theorem eq_plains_of_kept {files : List Text} {items : List (Text × Item)}
    (hmarker : markerText ∉ files)
    (hitems : Item.ofArguments (Switch.table (some name)) files = .ok items)
    (hgiven : Switches given) (hsome : given ≠ [])
    (hread : Progress.read name (.begun q) (items ++ given) = .ok final) (hclean : final.Clean)
    (hkept : files.length ≤ final.kept) :
    items = Item.plains files ∧ final = ⟨final.choices, .nothing, some q, files, []⟩ ∧
      ∀ (start : Progress) (rest : List (Text × Item)), start.choices = {} → start.stage = .files →
        Progress.read name start (given ++ rest)
          = Progress.read name { start with stage := .nothing, choices := final.choices } rest := by
  have hfits := Item.fits_of_mem_ofArguments hmarker hitems
  have hmap := Item.map_fst_of_ofArguments hitems
  have hchoose : Progress.OnlyChoose name given := Progress.onlyChoose_of_switches hgiven
  obtain ⟨reached, hreached, hpassed⟩ :=
    Progress.exists_read_front hgiven.notPlainFirst items hfits (Progress.stage_begun q) hread
  rcases hpassed with ⟨arguments, rfl, rfl⟩ | ⟨hnothing, hloss⟩
  · obtain rfl : arguments = files := (Item.map_fst_plains arguments).symm.trans hmap
    have hstage : ((Progress.begun q).takeAll name arguments).stage ≠ .subject := by
      rw [Progress.stage_takeAll (Progress.stage_begun q)]
      exact Progress.stage_begun q
    have hread : Progress.read name _ (given ++ []) = _ :=
      Progress.read_switches_closed hgiven hsome hstage []
    rw [List.append_nil, hreached, Progress.takeAll_of_files rfl] at hread
    obtain ⟨hfinal, hsame⟩ := hchoose _ final rfl hread.symm
    refine ⟨rfl, hfinal, fun start rest hchoices hstage => ?_⟩
    rw [Progress.read_switches_closed hgiven hsome (by simp [hstage])]
    exact hsame { start with stage := .nothing } rest hchoices rfl
  · -- what is lost in front of the switches, the switches do not bring back
    obtain ⟨hfinal, -⟩ := hchoose reached final hnothing hreached
    rw [hfinal] at hkept hclean
    rcases hloss with hless | hdash
    · have hlength : items.length = files.length := by rw [← hmap, List.length_map]
      have hsame : { reached with choices := final.choices }.kept = reached.kept := rfl
      have hnone : (Progress.begun q).kept = 0 := rfl
      omega
    · exact absurd hclean hdash

theorem ofArguments_plains_of_append {table : List (Text × Switch)} {before after : List Text}
    (hmarker : markerText ∉ before)
    (h : Item.ofArguments table (before ++ after) = .ok (Item.plains (before ++ after))) :
    Item.ofArguments table before = .ok (Item.plains before) ∧
      Item.ofArguments table after = .ok (Item.plains after) := by
  obtain ⟨first, later, hfirst, hlater, hsplit⟩ := Item.exists_of_ofArguments_append hmarker h
  have hlength : first.length = (Item.plains before).length := by
    rw [← List.length_map Prod.fst, Item.map_fst_of_ofArguments hfirst, Item.plains, List.length_map]
  rw [Item.plains, List.map_append] at hsplit
  obtain ⟨rfl, rfl⟩ := List.append_inj hsplit.symm hlength
  exact ⟨hfirst, hlater⟩

section

variable {before after : List Text}

/-- With the switches between the files those behind come back as arguments that nothing takes. -/
theorem readTo_between (htakes : name.takesFiles) (hq : IsSubject name q)
    (hoptions : AreSwitches name options given) (hsome : options ≠ [])
    (hmarker : markerText ∉ before ++ after)
    (hread : ReadTo name (q :: (before ++ after ++ options)) final) (hclean : final.Clean)
    (hkept : (before ++ after).length ≤ final.kept) :
    final.files = before ++ after ∧ final.extras = [] ∧
      ReadTo name (q :: (before ++ options ++ after))
        { final with files := before, extras := after } := by
  obtain ⟨hbefore, hafter⟩ := not_or.mp (List.mem_append.not.mp hmarker)
  obtain ⟨items, hitems, hread⟩ := (readTo_subject_iff htakes hq).mp hread
  obtain ⟨first, last, hfirst, hlast, rfl⟩ := Item.exists_of_ofArguments_append hmarker hitems
  obtain rfl : given = last := Except.ok.inj (hoptions.items_eq.symm.trans hlast)
  have hall : markerText ∉ before ++ after ++ options := by
    rw [List.mem_append]
    exact not_or.mpr ⟨hmarker, hoptions.marker_notMem⟩
  rw [Item.behindMarker_of_fits (Item.fits_of_mem_ofArguments hall hitems)] at hread
  obtain ⟨rfl, hfinal, hsame⟩ := eq_plains_of_kept hmarker hfirst hoptions.switches
    (hoptions.items_ne_nil hsome) hread hclean hkept
  refine ⟨by rw [hfinal], by rw [hfinal], (readTo_subject_iff htakes hq).mpr ?_⟩
  obtain ⟨hfront, hback⟩ := ofArguments_plains_of_append hbefore hfirst
  have hmid : markerText ∉ before ++ options := by
    rw [List.mem_append]
    exact not_or.mpr ⟨hbefore, hoptions.marker_notMem⟩
  have hbetween := Item.ofArguments_append_of_ok hmid
    (Item.ofArguments_append_of_ok hbefore hfront hoptions.items_eq) hback
  have hunmarked : markerText ∉ before ++ options ++ after := by
    rw [List.mem_append]
    exact not_or.mpr ⟨hmid, hafter⟩
  refine ⟨_, hbetween, ?_⟩
  rw [Item.behindMarker_of_fits (Item.fits_of_mem_ofArguments hunmarked hbetween), List.append_assoc,
    Progress.read_plains (Progress.stage_begun q), Progress.takeAll_of_files rfl, hsame _ _ rfl rfl,
    Progress.read_plains_end Stage.noConfusion, Progress.takeAll_of_nothing rfl, hfinal]
  rfl

/-- Switches may stand anywhere between the files of a command, unless a file behind them begins with a
dash. -/
theorem ofList_switches_between (htakes : name.takesFiles) {q : Text}
    (hq : ofList [name.text.toList, q] = .ok ⟨name, q, [], {}⟩) {options : List Text}
    {given : List (Text × Item)}
    (hoptions : Item.ofArguments (Switch.table (some name)) options = .ok given)
    (hgiven : Switches given) {before after : List Text}
    (hparsed : ofList (name.text.toList :: q :: (before ++ after ++ options)) = .ok parsed)
    (hfiles : parsed.files = (before ++ after).map Path.ofText) :
    ofList (name.text.toList :: q :: (before ++ options ++ after))
      = if options ≠ [] ∧ ∃ file ∈ after, file.head? = some '-' then
          .error ⟨none, .misuse (.unrecognized after)⟩
        else .ok parsed := by
  by_cases hsome : options = []
  · rw [hsome, List.append_nil] at hparsed
    rw [hsome, List.append_nil, if_neg (fun h => h.1 rfl)]
    exact hparsed
  have hsubject := isSubject_of_ofList htakes hq
  have hswitches : AreSwitches name options given := ⟨hoptions, hgiven⟩
  obtain ⟨hmain, final, hread, hasked, hclean, hresult⟩ := exists_readTo_of_ofList htakes hparsed
  have hpaths : (final.files.erase markerText ++ final.extras).map Path.ofText
      = (before ++ after).map Path.ofText := by
    rw [← hfiles, hresult]
  have hmarker := marker_notMem_of_countOther htakes hsubject hswitches hsome hread hclean
    (countOther_of_map_eq hpaths)
  obtain ⟨hall, hextras, hbetween⟩ :=
    readTo_between htakes hsubject hswitches hsome hmarker hread hclean (length_le_kept hpaths)
  rw [hall, hextras, List.append_nil, List.erase_of_not_mem hmarker] at hresult
  have hunmarked : markerText ∉ q :: (before ++ after ++ options) := by
    rw [List.mem_cons, List.mem_append]
    exact not_or.mpr ⟨hsubject.ne_marker.symm, not_or.mpr ⟨hmarker, hswitches.marker_notMem⟩⟩
  have hperm : (before ++ options ++ after).Perm (before ++ after ++ options) := by
    rw [List.append_assoc, List.append_assoc]
    exact List.perm_append_comm.append_left before
  obtain ⟨items, hitems⟩ := Item.exists_ofArguments_of_perm (hperm.cons q) hunmarked hmain
  rw [ofList_of_readTo hitems hbetween hasked]
  by_cases hdash : ∃ file ∈ after, file.head? = some '-'
  · rw [if_pos ⟨hsome, hdash⟩]
    exact finish_of_not_clean hdash
  · have hbehind : { final with files := before, extras := after }.Clean :=
      fun t ht hhead => hdash ⟨t, ht, hhead⟩
    have hfront : markerText ∉ before := fun hmem => hmarker (List.mem_append_left _ hmem)
    rw [if_neg (fun h => hdash h.2), finish_of_clean htakes hbehind, hresult,
      List.erase_of_not_mem hfront]

/-- A limit between two files. -/
theorem ofList_switches_between_limit :
    Name.complete.takesFiles ∧
      ofList ["complete".toList, "mi".toList] = .ok ⟨.complete, "mi".toList, [], {}⟩ ∧
      Item.ofArguments (Switch.table (some .complete)) ["--lim".toList, "3".toList]
        = .ok [("--lim".toList, .switch .limit false none), ("3".toList, .plain "3".toList)] ∧
      Switches [("--lim".toList, .switch .limit false none), ("3".toList, .plain "3".toList)] ∧
      ofList ("complete".toList :: "mi".toList
          :: (["- a.txt".toList] ++ ["b.txt".toList] ++ ["--lim".toList, "3".toList]))
        = .ok ⟨.complete, "mi".toList, ["- a.txt".toList, "b.txt".toList].map Path.ofText,
            { limit := some 3 }⟩ ∧
      ofList ("complete".toList :: "mi".toList
          :: (["- a.txt".toList] ++ ["--lim".toList, "3".toList] ++ ["b.txt".toList]))
        = .ok ⟨.complete, "mi".toList, ["- a.txt".toList, "b.txt".toList].map Path.ofText,
            { limit := some 3 }⟩ := by
  have htakes : Name.complete.takesFiles := rfl
  have hq : ofList ["complete".toList, "mi".toList] = .ok ⟨.complete, "mi".toList, [], {}⟩ := by rfl
  have hoptions : Item.ofArguments (Switch.table (some .complete)) ["--lim".toList, "3".toList]
      = .ok [("--lim".toList, .switch .limit false none), ("3".toList, .plain "3".toList)] := by rfl
  have hgiven : Switches [("--lim".toList, .switch .limit false none), ("3".toList, .plain "3".toList)] :=
    .valued rfl .nothing
  have hparsed : ofList ("complete".toList :: "mi".toList
        :: (["- a.txt".toList] ++ ["b.txt".toList] ++ ["--lim".toList, "3".toList]))
      = .ok ⟨.complete, "mi".toList, ["- a.txt".toList, "b.txt".toList].map Path.ofText,
          { limit := some 3 }⟩ := by rfl
  have hbetween := ofList_switches_between htakes hq hoptions hgiven hparsed rfl
  rw [if_neg (by decide)] at hbetween
  exact ⟨htakes, hq, hoptions, hgiven, hparsed, hbetween⟩

/-- A file that is taken in front of switches need not be taken behind them. -/
theorem not_forall_ofList_switches_between :
    ¬ ∀ (name : Name) (q : Text) (before after options : List Text) (given : List (Text × Item))
        (parsed : Arguments), name.takesFiles →
        Item.ofArguments (Switch.table (some name)) options = .ok given → Switches given →
        ofList (name.text.toList :: q :: (before ++ after ++ options)) = .ok parsed →
        parsed.subject = q → parsed.files = (before ++ after).map Path.ofText →
          ofList (name.text.toList :: q :: (before ++ options ++ after)) = .ok parsed := by
  intro h
  have hbetween := h .complete "mi".toList [] ["- todo.txt".toList] ["--limit".toList, "3".toList]
    [("--limit".toList, .switch .limit false none), ("3".toList, .plain "3".toList)]
    ⟨.complete, "mi".toList, [Path.ofText "- todo.txt".toList], { limit := some 3 }⟩ rfl (by rfl)
    (.valued rfl .nothing) (by rfl) rfl rfl
  have hrefused : ofList ["complete".toList, "mi".toList, "--limit".toList, "3".toList,
      "- todo.txt".toList] = .error ⟨none, .misuse (.unrecognized ["- todo.txt".toList])⟩ := by rfl
  exact absurd (hrefused.symm.trans hbetween) (by simp)

end

end Arguments

end NoteSearch.Command
