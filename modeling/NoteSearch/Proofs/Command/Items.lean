import NoteSearch.Command.Item
import NoteSearch.Files.Path
import NoteSearch.Proofs.Result
import NoteSearch.Proofs.Text.Pieces

/-!
# The items of joined arguments

Up to the marker every argument is read for itself, so the items of joined arguments are the joined
items. Only what begins with a dash can be anything but plain, and no switch would be the same path as
the marker.
-/

namespace NoteSearch

/-- The first component of a path that begins with a dash. -/
theorem Path.head?_components_of_dash (rest : Text) :
    (Path.ofText ('-' :: rest)).components.head? = some ('-' :: rest.takeWhile (· != '/')) := by
  obtain ⟨pieces, hsplit⟩ := Text.exists_splitAll_eq '/' ('-' :: rest)
  have hfirst : ('-' :: rest).takeWhile (· != '/') = '-' :: rest.takeWhile (· != '/') := rfl
  rw [ofText, hsplit, hfirst]
  simp

namespace Command

namespace Item

variable {table : List (Text × Switch)} {argument : Text} {item : Item} {items : List (Text × Item)}

/-! ### One argument -/

theorem exists_switch_of_spelledOut? (h : spelledOut? table argument = some item) :
    ∃ s short attached, item = .switch s short attached := by
  rw [spelledOut?] at h
  split at h
  · exact ⟨_, _, _, (Option.some.inj h).symm⟩
  · split at h
    · obtain ⟨s, -, rfl⟩ := Option.map_eq_some_iff.mp h
      exact ⟨_, _, _, rfl⟩
    · exact absurd h (by simp)

theorem exists_switch_of_mem_candidates {spelling : Text}
    (h : (spelling, item) ∈ candidates table argument) :
    ∃ s short attached, item = .switch s short attached := by
  rw [candidates] at h
  split at h
  · obtain ⟨_, -, heq⟩ := List.mem_map.mp h
    exact ⟨_, _, _, (Prod.mk.inj heq).2.symm⟩
  · obtain ⟨_, -, heq⟩ := List.mem_map.mp h
    exact ⟨_, _, _, (Prod.mk.inj heq).2.symm⟩

/-- What can be read of an argument that is not the marker: a switch, itself as a plain argument, or
something with a dash in front. -/
def Fits : Text × Item → Prop
  | (t, .plain u) => u = t
  | (_, .marker) => False
  | (_, .switch ..) => True
  | (t, .unknown _) => t.head? = some '-'

/-- What is left of items when the marker does not count at the beginning. -/
def behindMarker : List (Text × Item) → List (Text × Item)
  | (_, .marker) :: rest => rest
  | items => items

theorem behindMarker_cons_of_fits {entry : Text × Item} (h : Fits entry) (rest : List (Text × Item)) :
    behindMarker (entry :: rest) = entry :: rest := by
  obtain ⟨t, item⟩ := entry
  cases item with
  | plain u => rfl
  | marker => exact h.elim
  | switch s short attached => rfl
  | unknown u => rfl

theorem behindMarker_of_fits (h : ∀ entry ∈ items, Fits entry) : behindMarker items = items := by
  cases items with
  | nil => rfl
  | cons entry rest => exact behindMarker_cons_of_fits (h entry List.mem_cons_self) rest

theorem fits_of_ofArgument (h : ofArgument table argument = .ok item) : Fits (argument, item) := by
  rw [ofArgument.eq_def] at h
  split at h
  · split at h
    · next hspelled =>
        obtain ⟨_, _, _, rfl⟩ := exists_switch_of_spelledOut? hspelled
        obtain rfl := Except.ok.inj h
        exact trivial
    · split at h
      · next hcandidates =>
          obtain rfl := Except.ok.inj h
          obtain ⟨_, _, _, rfl⟩ := exists_switch_of_mem_candidates
            (hcandidates ▸ List.mem_singleton_self _)
          exact trivial
      · obtain rfl := Except.ok.inj h
        split
        · exact rfl
        · exact rfl
      · exact absurd h (by simp)
  · obtain rfl := Except.ok.inj h
    exact rfl

/-! ### Joined arguments -/

/-- Plain arguments as items. -/
def plains (arguments : List Text) : List (Text × Item) :=
  arguments.map fun t => (t, .plain t)

theorem ofArguments_cons (hmarker : argument ≠ markerText) (rest : List Text) :
    ofArguments table (argument :: rest)
      = (ofArgument table argument).bind fun item =>
          (ofArguments table rest).map ((argument, item) :: ·) :=
  if_neg hmarker

theorem ofArguments_marker (rest : List Text) :
    ofArguments table (markerText :: rest) = .ok ((markerText, .marker) :: plains rest) :=
  if_pos rfl

theorem ofArguments_append {front : List Text} (hfront : markerText ∉ front) (rest : List Text) :
    ofArguments table (front ++ rest)
      = (ofArguments table front).bind fun items => (ofArguments table rest).map (items ++ ·) := by
  induction front with
  | nil =>
      rw [List.nil_append, ofArguments]
      cases ofArguments table rest with
      | error cause => rfl
      | ok items => rfl
  | cons argument front ih =>
      have hargument : argument ≠ markerText := (List.ne_of_not_mem_cons hfront).symm
      rw [List.cons_append, ofArguments_cons hargument, ofArguments_cons hargument,
        ih (List.not_mem_of_not_mem_cons hfront)]
      cases ofArgument table argument with
      | error cause => rfl
      | ok item =>
          cases ofArguments table front with
          | error cause => rfl
          | ok items =>
              cases ofArguments table rest with
              | error cause => rfl
              | ok later => rfl

theorem exists_of_ofArguments_append {front rest : List Text} (hfront : markerText ∉ front)
    (h : ofArguments table (front ++ rest) = .ok items) :
    ∃ first later, ofArguments table front = .ok first ∧ ofArguments table rest = .ok later ∧
      items = first ++ later := by
  rw [ofArguments_append hfront] at h
  obtain ⟨first, hfirst, h⟩ := bind_eq_ok_iff.mp h
  obtain ⟨later, hlater, rfl⟩ := map_eq_ok_iff.mp h
  exact ⟨first, later, hfirst, hlater, rfl⟩

theorem ofArguments_append_of_ok {front rest : List Text} (hfront : markerText ∉ front)
    {first later : List (Text × Item)} (hfirst : ofArguments table front = .ok first)
    (hlater : ofArguments table rest = .ok later) :
    ofArguments table (front ++ rest) = .ok (first ++ later) := by
  rw [ofArguments_append hfront, hfirst, hlater]
  rfl

theorem exists_of_ofArguments_cons {rest : List Text} (hmarker : argument ≠ markerText)
    (h : ofArguments table (argument :: rest) = .ok items) :
    ∃ item later, ofArgument table argument = .ok item ∧ ofArguments table rest = .ok later ∧
      items = (argument, item) :: later := by
  rw [ofArguments_cons hmarker] at h
  obtain ⟨item, hitem, h⟩ := bind_eq_ok_iff.mp h
  obtain ⟨later, hlater, rfl⟩ := map_eq_ok_iff.mp h
  exact ⟨item, later, hitem, hlater, rfl⟩

theorem ofArguments_cons_of_ok {rest : List Text} (hmarker : argument ≠ markerText)
    (hitem : ofArgument table argument = .ok item) (hrest : ofArguments table rest = .ok items) :
    ofArguments table (argument :: rest) = .ok ((argument, item) :: items) := by
  rw [ofArguments_cons hmarker, hitem, hrest]
  rfl

theorem map_fst_plains (arguments : List Text) : (plains arguments).map Prod.fst = arguments := by
  rw [plains, List.map_map]
  exact List.map_id' arguments

theorem map_fst_of_ofArguments {arguments : List Text}
    (h : ofArguments table arguments = .ok items) : items.map Prod.fst = arguments := by
  induction arguments generalizing items with
  | nil =>
      obtain rfl := Except.ok.inj h
      rfl
  | cons argument rest ih =>
      by_cases hmarker : argument = markerText
      · rw [hmarker, ofArguments_marker] at h
        obtain rfl := Except.ok.inj h
        rw [List.map_cons, map_fst_plains, hmarker]
      · obtain ⟨item, later, -, hlater, rfl⟩ := exists_of_ofArguments_cons hmarker h
        rw [List.map_cons, ih hlater]

theorem exists_ofArguments_iff {arguments : List Text} (hmarker : markerText ∉ arguments) :
    (∃ items, ofArguments table arguments = .ok items) ↔
      ∀ argument ∈ arguments, ∃ item, ofArgument table argument = .ok item := by
  induction arguments with
  | nil => exact ⟨fun _ _ hmem => absurd hmem List.not_mem_nil, fun _ => ⟨[], rfl⟩⟩
  | cons argument rest ih =>
      have hfirst : argument ≠ markerText := (List.ne_of_not_mem_cons hmarker).symm
      have hrest := ih (List.not_mem_of_not_mem_cons hmarker)
      rw [List.forall_mem_cons, ← hrest]
      constructor
      · rintro ⟨items, hitems⟩
        obtain ⟨item, later, hitem, hlater, -⟩ := exists_of_ofArguments_cons hfirst hitems
        exact ⟨⟨item, hitem⟩, ⟨later, hlater⟩⟩
      · rintro ⟨⟨item, hitem⟩, ⟨later, hlater⟩⟩
        exact ⟨_, ofArguments_cons_of_ok hfirst hitem hlater⟩

/-- Without the marker the order of the arguments does not decide whether they can be read. -/
theorem exists_ofArguments_of_perm {arguments others : List Text} (hperm : others.Perm arguments)
    (hmarker : markerText ∉ arguments) (h : ∃ items, ofArguments table arguments = .ok items) :
    ∃ items, ofArguments table others = .ok items := by
  have hothers : markerText ∉ others := fun hmem => hmarker (hperm.mem_iff.mp hmem)
  rw [exists_ofArguments_iff hmarker] at h
  rw [exists_ofArguments_iff hothers]
  exact fun argument hmem => h argument (hperm.mem_iff.mp hmem)

theorem fits_of_mem_ofArguments {arguments : List Text} (hmarker : markerText ∉ arguments)
    (h : ofArguments table arguments = .ok items) : ∀ entry ∈ items, Fits entry := by
  induction arguments generalizing items with
  | nil =>
      obtain rfl := Except.ok.inj h
      exact fun _ hmem => absurd hmem List.not_mem_nil
  | cons argument rest ih =>
      obtain ⟨item, later, hitem, hlater, rfl⟩ :=
        exists_of_ofArguments_cons (List.ne_of_not_mem_cons hmarker).symm h
      exact List.forall_mem_cons.mpr
        ⟨fits_of_ofArgument hitem, ih (List.not_mem_of_not_mem_cons hmarker) hlater⟩

/-! ### Switches as paths -/

variable {s : Switch} {short : Bool} {attached : Option Text}

/-- No switch begins with two dashes and a slash. -/
theorem ofArgument_slash (name : Name) (rest : Text) :
    ofArgument (Switch.table (some name)) ('-' :: '-' :: '/' :: rest)
      ≠ .ok (.switch s short attached) := by
  have hstem : Text.splitAt? '=' ('-' :: '-' :: '/' :: rest)
      = (Text.splitAt? '=' rest).map fun sides => ('-' :: '-' :: '/' :: sides.1, sides.2) := by
    have hbehind : ('-' :: '-' :: '/' :: rest).dropWhile (· != '=') = rest.dropWhile (· != '=') := rfl
    rw [Text.splitAt?, Text.splitAt?, hbehind]
    cases rest.dropWhile (· != '=') with
    | nil => rfl
    | cons d after => rfl
  have hspelled : spelledOut? (Switch.table (some name)) ('-' :: '-' :: '/' :: rest) = none := by
    rw [spelledOut?, hstem]
    cases name <;> cases Text.splitAt? '=' rest <;>
      simp [Switch.table, Switch.ofTopic, Switch.spellings, List.lookup_cons]
  have hcandidates : candidates (Switch.table (some name)) ('-' :: '-' :: '/' :: rest) = [] := by
    rw [candidates, hstem]
    cases name <;> cases Text.splitAt? '=' rest <;>
      simp [Switch.table, Switch.ofTopic, Switch.spellings, markerText]
  rw [ofArgument, hspelled, hcandidates]
  intro h
  have hitem := Except.ok.inj h
  split at hitem
  · exact absurd hitem (by simp)
  · exact absurd hitem (by simp)

theorem ofArgument_marker (name : Name) :
    ofArgument (Switch.table (some name)) markerText ≠ .ok (.switch s short attached) := by
  have hambiguous : ∃ cause, ofArgument (Switch.table (some name)) markerText = .error cause := by
    cases name with
    | highlight => exact ⟨_, rfl⟩
    | suggest => exact ⟨_, rfl⟩
    | complete => exact ⟨_, rfl⟩
  obtain ⟨cause, herror⟩ := hambiguous
  rw [herror]
  exact fun h => absurd h (by simp)

theorem exists_dash_of_switch {table : List (Text × Switch)} {argument : Text}
    (h : ofArgument table argument = .ok (.switch s short attached)) :
    ∃ rest, argument = '-' :: rest := by
  rw [ofArgument.eq_def] at h
  split at h
  · exact ⟨_, rfl⟩
  · exact absurd (Except.ok.inj h) (by simp)

/-- The path that a switch would be is not the one that the marker would be. -/
theorem ofText_ne_of_switch {name : Name} {argument : Text}
    (h : ofArgument (Switch.table (some name)) argument = .ok (.switch s short attached)) :
    Path.ofText argument ≠ Path.ofText markerText := by
  intro hpath
  obtain ⟨rest, rfl⟩ := exists_dash_of_switch h
  have hhead := congrArg (fun path => path.components.head?) hpath
  simp only [markerText, Path.head?_components_of_dash, Option.some.injEq, List.cons.injEq,
    true_and] at hhead
  cases rest with
  | nil => exact absurd hhead (by decide)
  | cons c more =>
      have hc : c ≠ '/' := by
        rintro rfl
        exact absurd hhead (by simp)
      rw [List.takeWhile_cons_of_pos (by simpa using hc)] at hhead
      obtain ⟨rfl, hmore⟩ := List.cons.inj hhead
      cases more with
      | nil => exact ofArgument_marker name h
      | cons d others =>
          have hd : d = '/' := by
            by_contra hd
            rw [List.takeWhile_cons_of_pos (by simpa using hd)] at hmore
            exact absurd hmore (by simp)
          rw [hd] at h
          exact ofArgument_slash name others h

end Item

end Command

end NoteSearch
