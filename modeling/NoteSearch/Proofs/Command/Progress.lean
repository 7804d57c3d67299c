import NoteSearch.Command.Arguments
import NoteSearch.Proofs.Command.Items

/-!
# Reading past the subject

Once a command has its subject, every plain argument is kept, as a file or as an argument that nothing
takes, and switches with their values are not. From the first switch on no argument is taken as a file.
-/

namespace NoteSearch.Command

/-- Switches, each followed by its value if it takes one and has none attached. -/
inductive Switches : List (Text × Item) → Prop
  | nothing : Switches []
  | alone {t : Text} {s : Switch} {short : Bool} {attached : Option Text} {rest : List (Text × Item)}
      (hfull : s.takesValue = false ∨ attached.isSome) (hrest : Switches rest) :
      Switches ((t, .switch s short attached) :: rest)
  | valued {t value u : Text} {s : Switch} {short : Bool} {rest : List (Text × Item)}
      (htakes : s.takesValue) (hrest : Switches rest) :
      Switches ((t, .switch s short none) :: (value, .plain u) :: rest)

theorem Switches.exists_switch {given : List (Text × Item)} (h : Switches given) (hsome : given ≠ []) :
    ∃ t s short attached rest, given = (t, .switch s short attached) :: rest := by
  cases h with
  | nothing => contradiction
  | alone => exact ⟨_, _, _, _, _, rfl⟩
  | valued => exact ⟨_, _, _, _, _, rfl⟩

theorem Switches.ne_marker {given : List (Text × Item)} (h : Switches given) :
    ∀ entry ∈ given, entry.2 ≠ .marker := by
  induction h with
  | nothing => exact fun _ hmem => absurd hmem List.not_mem_nil
  | alone _ _ ih => exact List.forall_mem_cons.mpr ⟨Item.noConfusion, ih⟩
  | valued _ _ ih =>
      exact List.forall_mem_cons.mpr
        ⟨Item.noConfusion, List.forall_mem_cons.mpr ⟨Item.noConfusion, ih⟩⟩

/-- A plain argument is not what comes first. -/
def NotPlainFirst (items : List (Text × Item)) : Prop :=
  ∀ t u, items.head? ≠ some (t, .plain u)

theorem Switches.notPlainFirst {given : List (Text × Item)} (h : Switches given) :
    NotPlainFirst given := by
  intro t u
  by_cases hsome : given = []
  · simp [hsome]
  · obtain ⟨_, _, _, _, _, rfl⟩ := h.exists_switch hsome
    simp

namespace Choices

variable {choices chosen : Choices} {s : Switch} {short took : Bool} {attached : Option Text}
  {next : Option (Text × Item)}

/-- A switch that is complete in itself does not look at what comes next. -/
theorem apply_of_full (hfull : s.takesValue = false ∨ attached.isSome) :
    choices.apply s short attached next = choices.apply s short attached none := by
  rw [apply.eq_def, apply.eq_def]
  cases htakes : s.takesValue with
  | false =>
      cases attached with
      | none => rfl
      | some value => rfl
  | true =>
      rw [htakes] at hfull
      obtain ⟨value, rfl⟩ := Option.isSome_iff_exists.mp (hfull.resolve_left Bool.true_eq_false.mp)
      rfl

/-- What a switch takes as its value is a plain argument. -/
theorem exists_plain_of_apply (h : choices.apply s short attached next = .ok (chosen, true)) :
    ∃ value u, next = some (value, .plain u) := by
  rw [apply.eq_def] at h
  split at h
  · obtain ⟨_, -, heq⟩ := map_eq_ok_iff.mp h
    exact absurd (Prod.mk.inj heq).2 Bool.false_ne_true
  · split at h
    · exact ⟨_, _, rfl⟩
    · exact absurd h (by simp [fail])
  · obtain ⟨_, -, heq⟩ := map_eq_ok_iff.mp h
    exact absurd (Prod.mk.inj heq).2 Bool.false_ne_true
  · obtain ⟨_, -, heq⟩ := map_eq_ok_iff.mp h
    exact absurd (Prod.mk.inj heq).2 Bool.false_ne_true

theorem eq_false_of_apply_none (h : choices.apply s short attached none = .ok (chosen, took)) :
    took = false := by
  cases took with
  | false => rfl
  | true =>
      obtain ⟨_, _, hnext⟩ := exists_plain_of_apply h
      exact absurd hnext (by simp)

end Choices

namespace Progress

variable {name : Name} {progress final : Progress} {t : Text} {s : Switch} {short : Bool}
  {attached : Option Text} {rest : List (Text × Item)}

/-- How many arguments are kept. -/
def kept (progress : Progress) : Nat :=
  progress.files.length + progress.extras.length

/-- Nothing with a dash in front is among the arguments that nothing takes. -/
def Clean (progress : Progress) : Prop :=
  ∀ t ∈ progress.extras, t.head? ≠ some '-'

/-! ### Plain arguments -/

theorem stage_take (hstage : progress.stage ≠ .subject) :
    (progress.take name t).stage = progress.stage := by
  rw [take]
  split
  · contradiction
  · rfl
  · rfl

theorem kept_take (hstage : progress.stage ≠ .subject) :
    (progress.take name t).kept = progress.kept + 1 := by
  rw [take]
  split
  · contradiction
  · simp only [kept, List.length_append, List.length_singleton]
    omega
  · simp only [kept, List.length_append, List.length_singleton]
    omega

theorem read_marker (hstage : progress.stage ≠ .subject) (rest : List (Text × Item)) :
    read name progress ((t, .marker) :: rest) = read name (progress.take name t) rest := by
  rw [read, if_neg hstage]

theorem read_plain (hstage : progress.stage ≠ .subject) {u : Text} (rest : List (Text × Item)) :
    read name progress ((t, .plain u) :: rest) = read name (progress.take name t) rest := by
  rcases rest with _ | ⟨⟨mark, item⟩, rest⟩
  · rfl
  · cases item with
    | plain v => rfl
    | switch s short attached => rfl
    | unknown v => rfl
    | marker =>
        have htaken : (progress.take name t).stage ≠ .subject := by rwa [stage_take hstage]
        rw [read_marker htaken]
        exact if_neg hstage

/-- Takes plain arguments one after the other. -/
def takeAll (name : Name) (progress : Progress) (arguments : List Text) : Progress :=
  arguments.foldl (take name) progress

theorem read_plains (hstage : progress.stage ≠ .subject) (arguments : List Text)
    (rest : List (Text × Item)) :
    read name progress (Item.plains arguments ++ rest)
      = read name (progress.takeAll name arguments) rest := by
  induction arguments generalizing progress with
  | nil => rfl
  | cons argument arguments ih =>
      have htaken : (progress.take name argument).stage ≠ .subject := by rwa [stage_take hstage]
      exact (read_plain hstage _).trans (ih htaken)

theorem stage_takeAll (hstage : progress.stage ≠ .subject) (arguments : List Text) :
    (progress.takeAll name arguments).stage = progress.stage := by
  induction arguments generalizing progress with
  | nil => rfl
  | cons argument arguments ih =>
      have htaken : (progress.take name argument).stage ≠ .subject := by rwa [stage_take hstage]
      exact (ih htaken).trans (stage_take hstage)

theorem read_plains_end (hstage : progress.stage ≠ .subject) (arguments : List Text) :
    read name progress (Item.plains arguments) = .ok (progress.takeAll name arguments) := by
  have hread : read name progress (Item.plains arguments ++ []) = _ := read_plains hstage arguments []
  rwa [List.append_nil, read] at hread

/-- All behind the marker is kept, and the marker with it. -/
theorem read_marked (hstage : progress.stage ≠ .subject) (arguments : List Text) :
    read name progress ((t, .marker) :: Item.plains arguments)
      = .ok (progress.takeAll name (t :: arguments)) := by
  have htaken : (progress.take name t).stage ≠ .subject := by rwa [stage_take hstage]
  rw [read_marker hstage, read_plains_end htaken]
  rfl

/-- Arguments are taken one after the other into a list that grows by each. -/
theorem takeAll_eq (holding : List Text → Progress)
    (hstep : ∀ before t, (holding before).take name t = holding (before ++ [t]))
    (before arguments : List Text) :
    (holding before).takeAll name arguments = holding (before ++ arguments) := by
  induction arguments generalizing before with
  | nil =>
      rw [List.append_nil]
      rfl
  | cons argument arguments ih =>
      have hrest := ih (before ++ [argument])
      rw [List.append_assoc, List.singleton_append] at hrest
      rw [takeAll, List.foldl_cons, hstep]
      exact hrest

theorem takeAll_of_files (hstage : progress.stage = .files) (arguments : List Text) :
    progress.takeAll name arguments = { progress with files := progress.files ++ arguments } := by
  refine takeAll_eq (fun files => { progress with files }) (fun before t => ?_) progress.files arguments
  rw [take, hstage]

theorem takeAll_of_nothing (hstage : progress.stage = .nothing) (arguments : List Text) :
    progress.takeAll name arguments = { progress with extras := progress.extras ++ arguments } := by
  refine takeAll_eq (fun extras => { progress with extras }) (fun before t => ?_) progress.extras
    arguments
  rw [take, hstage]

/-! ### Switches -/

/-- What has been read when a switch has made its choices. -/
def afterSwitch (progress : Progress) (choices : Choices) : Progress :=
  { progress.closeFiles with choices }

theorem closeFiles_eq (hstage : progress.stage ≠ .subject) :
    progress.closeFiles = { progress with stage := .nothing } := by
  rw [closeFiles]
  split
  · rfl
  · next hfiles =>
      have hnothing : progress.stage = .nothing := by
        cases hnow : progress.stage with
        | subject => contradiction
        | files => contradiction
        | nothing => rfl
      rw [← hnothing]

theorem afterSwitch_eq (hstage : progress.stage ≠ .subject) (choices : Choices) :
    progress.afterSwitch choices = { progress with stage := .nothing, choices } := by
  rw [afterSwitch, closeFiles_eq hstage]

theorem afterSwitch_of_nothing (hstage : progress.stage = .nothing) (choices : Choices) :
    progress.afterSwitch choices = { progress with choices } := by
  have hpast : progress.stage ≠ .subject := by simp [hstage]
  rw [afterSwitch_eq hpast, ← hstage]

theorem read_switch (rest : List (Text × Item)) :
    read name progress ((t, .switch s short attached) :: rest)
      = (progress.choices.apply s short attached rest.head?).bind fun (choices, tookNext) =>
        match rest with
        | [] => .ok (progress.afterSwitch choices)
        | next :: others =>
            if tookNext then read name (progress.afterSwitch choices) others
            else read name (progress.afterSwitch choices) (next :: others) := by
  rw [read]
  rfl

/-- After a switch reading goes on with what comes next, or behind it when that is its value. -/
theorem exists_of_read_switch
    (h : read name progress ((t, .switch s short attached) :: rest) = .ok final) :
    ∃ choices, read name (progress.afterSwitch choices) rest = .ok final ∨
      ∃ value u others, rest = (value, .plain u) :: others ∧
        read name (progress.afterSwitch choices) others = .ok final := by
  rw [read_switch] at h
  obtain ⟨⟨choices, took⟩, happly, h⟩ := bind_eq_ok_iff.mp h
  refine ⟨choices, ?_⟩
  cases rest with
  | nil => exact .inl h
  | cons next others =>
      cases took with
      | false => exact .inl h
      | true =>
          obtain ⟨value, u, hnext⟩ := Choices.exists_plain_of_apply happly
          obtain rfl := Option.some.inj hnext
          exact .inr ⟨value, u, others, rfl, h⟩

theorem read_alone (hfull : s.takesValue = false ∨ attached.isSome) (rest : List (Text × Item)) :
    read name progress ((t, .switch s short attached) :: rest)
      = ((progress.choices.apply s short attached none).map Prod.fst).bind fun choices =>
        read name (progress.afterSwitch choices) rest := by
  rw [read_switch, Choices.apply_of_full hfull]
  cases happly : progress.choices.apply s short attached none with
  | error halt => rfl
  | ok result =>
      obtain ⟨choices, took⟩ := result
      obtain rfl := Choices.eq_false_of_apply_none happly
      cases rest with
      | nil => rfl
      | cons next others => rfl

theorem read_valued (htakes : s.takesValue) {value u : Text} (rest : List (Text × Item)) :
    read name progress ((t, .switch s short none) :: (value, .plain u) :: rest)
      = (progress.choices.setValue value s).bind fun choices =>
        read name (progress.afterSwitch choices) rest := by
  have happly : progress.choices.apply s short none (some (value, .plain u))
      = (progress.choices.setValue value s).map (·, true) := by
    rw [Choices.apply.eq_def, htakes]
  rw [read_switch, List.head?_cons, happly]
  cases progress.choices.setValue value s with
  | error halt => rfl
  | ok choices => rfl

/-- The first switch ends the files, whether or not there are any. -/
theorem read_switches_closed {given : List (Text × Item)} (h : Switches given) (hsome : given ≠ [])
    (hstage : progress.stage ≠ .subject) (rest : List (Text × Item)) :
    read name progress (given ++ rest) = read name { progress with stage := .nothing } (given ++ rest) := by
  obtain ⟨t, s, short, attached, given, rfl⟩ := h.exists_switch hsome
  have hclosed : { progress with stage := .nothing }.stage ≠ Stage.subject := Stage.noConfusion
  rw [List.cons_append, read_switch, read_switch]
  simp only [afterSwitch_eq hstage, afterSwitch_eq hclosed]

/-- Items that choose and keep nothing, and choose the same wherever they stand. -/
def OnlyChoose (name : Name) (given : List (Text × Item)) : Prop :=
  ∀ progress final : Progress, progress.stage = .nothing → read name progress given = .ok final →
    final = { progress with choices := final.choices } ∧
      ∀ (start : Progress) (rest : List (Text × Item)), start.choices = progress.choices →
        start.stage = .nothing →
          read name start (given ++ rest) = read name { start with choices := final.choices } rest

theorem OnlyChoose.behind (one : List (Text × Item)) (effect : Choices → Reading Choices)
    {given : List (Text × Item)}
    (hone : ∀ (progress : Progress) (rest : List (Text × Item)), read name progress (one ++ rest)
      = (effect progress.choices).bind fun choices => read name (progress.afterSwitch choices) rest)
    (h : OnlyChoose name given) : OnlyChoose name (one ++ given) := by
  intro progress final hstage hread
  rw [hone] at hread
  obtain ⟨choices, heffect, hread⟩ := bind_eq_ok_iff.mp hread
  rw [afterSwitch_of_nothing hstage] at hread
  obtain ⟨hfinal, hsame⟩ := h { progress with choices } final hstage hread
  refine ⟨hfinal, fun start rest hchoices hstart => ?_⟩
  rw [List.append_assoc, hone, hchoices, heffect]
  refine (congrArg (read name · _) (afterSwitch_of_nothing hstart choices)).trans ?_
  exact hsame { start with choices } rest rfl hstart

theorem onlyChoose_of_switches {given : List (Text × Item)} (h : Switches given) :
    OnlyChoose name given := by
  induction h with
  | nothing =>
      intro progress final _ hread
      obtain rfl := Except.ok.inj hread
      refine ⟨rfl, fun start rest hchoices _ => ?_⟩
      rw [← hchoices]
      rfl
  | @alone t s short attached _ hfull _ ih =>
      exact .behind [(t, .switch s short attached)]
        (fun choices => (choices.apply s short attached none).map Prod.fst)
        (fun _ rest => read_alone hfull rest) ih
  | @valued t value u s short _ htakes _ ih =>
      exact .behind [(t, .switch s short none), (value, .plain u)]
        (fun choices => choices.setValue value s) (fun _ rest => read_valued htakes rest) ih

/-! ### Anything -/

/-- What reading has reached behind some arguments, all of which might have been kept: either all are
plain, or a switch has been passed and some are lost or a kept one has a dash in front. -/
def Passed (name : Name) (start : Progress) (front : List (Text × Item)) (reached : Progress) : Prop :=
  (∃ arguments, front = Item.plains arguments ∧ reached = start.takeAll name arguments) ∨
    reached.stage = .nothing ∧
      (reached.kept < start.kept + front.length ∨ ¬reached.Clean)

theorem Passed.cons_plain {front : List (Text × Item)} {reached : Progress}
    (hstage : progress.stage ≠ .subject) (h : Passed name (progress.take name t) front reached) :
    Passed name progress ((t, .plain t) :: front) reached := by
  rcases h with ⟨arguments, rfl, rfl⟩ | ⟨hnothing, hlost | hdash⟩
  · exact .inl ⟨t :: arguments, rfl, rfl⟩
  · rw [kept_take hstage] at hlost
    exact .inr ⟨hnothing, .inl (by rw [List.length_cons]; omega)⟩
  · exact .inr ⟨hnothing, .inr hdash⟩

/-- Behind a switch one argument less can have been kept. -/
theorem Passed.of_afterSwitch {front : List (Text × Item)} {reached : Progress} {choices : Choices}
    (hstage : progress.stage ≠ .subject) {lost : List (Text × Item)} (hlost : lost ≠ [])
    (h : Passed name (progress.afterSwitch choices) front reached) :
    Passed name progress (lost ++ front) reached := by
  rw [afterSwitch_eq hstage] at h
  have hcount := List.length_pos_iff.mpr hlost
  rcases h with ⟨arguments, rfl, rfl⟩ | ⟨hnothing, hless | hdash⟩
  · rw [takeAll_of_nothing rfl]
    refine .inr ⟨rfl, .inl ?_⟩
    simp only [kept, List.length_append, Item.plains, List.length_map]
    omega
  · refine .inr ⟨hnothing, .inl ?_⟩
    simp only [kept, List.length_append] at hless ⊢
    omega
  · exact .inr ⟨hnothing, .inr hdash⟩

/-- What has been read when something that looks like a switch is none. -/
def afterUnknown (progress : Progress) (t : Text) : Progress :=
  { progress.closeFiles with extras := progress.closeFiles.extras ++ [t] }

theorem read_unknown {u : Text} (rest : List (Text × Item)) :
    read name progress ((t, .unknown u) :: rest) = read name (progress.afterUnknown t) rest := by
  rw [read]
  rfl

theorem afterUnknown_eq (hstage : progress.stage ≠ .subject) :
    progress.afterUnknown t = { progress with stage := .nothing, extras := progress.extras ++ [t] } := by
  rw [afterUnknown, closeFiles_eq hstage]

theorem Passed.cons_unknown {front : List (Text × Item)} {reached : Progress} {u : Text}
    (hstage : progress.stage ≠ .subject) (hdash : t.head? = some '-')
    (h : Passed name (progress.afterUnknown t) front reached) :
    Passed name progress ((t, .unknown u) :: front) reached := by
  rw [afterUnknown_eq hstage] at h
  rcases h with ⟨arguments, rfl, rfl⟩ | ⟨hnothing, hless | hother⟩
  · rw [takeAll_of_nothing rfl]
    exact .inr ⟨rfl, .inr fun hclean => hclean t (by simp) hdash⟩
  · refine .inr ⟨hnothing, .inl ?_⟩
    simp only [kept, List.length_append, List.length_cons, List.length_nil] at hless ⊢
    omega
  · exact .inr ⟨hnothing, .inr hother⟩

theorem exists_read_front (hrest : NotPlainFirst rest) (front : List (Text × Item)) {progress : Progress}
    (hfits : ∀ entry ∈ front, Item.Fits entry) (hstage : progress.stage ≠ .subject)
    (hread : read name progress (front ++ rest) = .ok final) :
    ∃ reached, read name reached rest = .ok final ∧ Passed name progress front reached := by
  match front, hfits, hread with
  | [], _, hread => exact ⟨progress, hread, .inl ⟨[], rfl, rfl⟩⟩
  | (t, .plain u) :: front, hfits, hread =>
      obtain ⟨hplain, hlater⟩ := List.forall_mem_cons.mp hfits
      obtain rfl : u = t := hplain
      rw [List.cons_append, read_plain hstage] at hread
      have htaken : (progress.take name u).stage ≠ .subject := by rwa [stage_take hstage]
      obtain ⟨reached, hreached, hpassed⟩ := exists_read_front hrest front hlater htaken hread
      exact ⟨reached, hreached, hpassed.cons_plain hstage⟩
  | (t, .marker) :: front, hfits, _ => exact (hfits _ List.mem_cons_self).elim
  | (t, .unknown u) :: front, hfits, hread =>
      obtain ⟨hdash, hlater⟩ := List.forall_mem_cons.mp hfits
      rw [List.cons_append, read_unknown] at hread
      have hclosed : (progress.afterUnknown t).stage ≠ .subject := by simp [afterUnknown_eq hstage]
      obtain ⟨reached, hreached, hpassed⟩ := exists_read_front hrest front hlater hclosed hread
      exact ⟨reached, hreached, hpassed.cons_unknown hstage hdash⟩
  | (t, .switch s short attached) :: front, hfits, hread =>
      obtain ⟨-, hlater⟩ := List.forall_mem_cons.mp hfits
      obtain ⟨choices, hnext⟩ := exists_of_read_switch hread
      have hclosed : (progress.afterSwitch choices).stage ≠ .subject := by simp [afterSwitch_eq hstage]
      rcases hnext with hnext | ⟨value, u, others, hsplit, hnext⟩
      · obtain ⟨reached, hreached, hpassed⟩ := exists_read_front hrest front hlater hclosed hnext
        exact ⟨reached, hreached, hpassed.of_afterSwitch hstage (List.cons_ne_nil _ [])⟩
      · -- the value comes from the front, since nothing plain comes behind it
        cases front with
        | nil => exact absurd (congrArg List.head? hsplit) (hrest value u)
        | cons entry front =>
            obtain ⟨rfl, rfl⟩ := List.cons.inj hsplit
            obtain ⟨-, hlater⟩ := List.forall_mem_cons.mp hlater
            obtain ⟨reached, hreached, hpassed⟩ := exists_read_front hrest front hlater hclosed hnext
            exact ⟨reached, hreached, hpassed.of_afterSwitch hstage (List.cons_ne_nil _ [_])⟩
termination_by front.length

end Progress

end NoteSearch.Command
