import NoteSearch.Proofs.Snippet.Window

/-!
# The ends of a window, step by step

An end of a window moves over words and blanks one character at a time, and each step reads the text at
an offset. Here the moves are such walks, in which a read outside the text fails. No read does: a walk
reads only between its limit and the offset where it stands, and a match that fits the text moves an end
to an offset that the text has. So the walks lead where the runs of characters end, and both ends of a
window stay in range whatever the tolerance and the order of the matches.
-/

namespace NoteSearch

namespace Text

variable {t : Text} {i : Int} {c : Char}

/-- An offset without a character at which a text was read. -/
structure Outside where
  offset : Int
  deriving DecidableEq, Repr

/-- The character at an offset, which has to lie inside the text. -/
def read (t : Text) (i : Int) : Except Outside Char :=
  match t.at? i with
  | some c => .ok c
  | none => .error ⟨i⟩

theorem at?_eq_some_iff : t.at? i = some c ↔ 0 ≤ i ∧ t[i.toNat]? = some c := by
  by_cases hi : i < 0
  · simp [at?, hi, Int.not_le.mpr hi]
  · simp [at?, hi, Int.not_lt.mp hi]

theorem read_eq_ok_iff : t.read i = .ok c ↔ t.at? i = some c := by
  rw [read]
  split
  · next hat => rw [hat, Except.ok.injEq, Option.some.injEq]
  · next hat => simp [hat]

/-- Reads succeed inside the text and nowhere else. -/
theorem exists_read_iff : (∃ c, t.read i = .ok c) ↔ 0 ≤ i ∧ i < t.length := by
  simp only [read_eq_ok_iff, at?_eq_some_iff, exists_and_left]
  constructor
  · rintro ⟨hi, c, hget⟩
    obtain ⟨hlt, -⟩ := List.getElem?_eq_some_iff.mp hget
    omega
  · rintro ⟨hi, hlt⟩
    exact ⟨hi, _, List.getElem?_eq_getElem (by omega)⟩

end Text

namespace Window

variable {p : Char → Bool} {t : Text} {found : List Match}
  {floor tolerance anchor start stop limit i : Int} {c : Char}

/-! ### Runs by the character read first -/

theorem runAfter_of_read (hread : t.read i = .ok c) :
    runAfter p t i = if p c then 1 + runAfter p t (i + 1) else 0 := by
  obtain ⟨hi, hget⟩ := Text.at?_eq_some_iff.mp (Text.read_eq_ok_iff.mp hread)
  obtain ⟨hlt, hc⟩ := List.getElem?_eq_some_iff.mp hget
  have hnext : (i + 1).toNat = i.toNat + 1 := by omega
  rw [runAfter, runAfter, hnext, List.drop_eq_getElem_cons hlt, hc, List.takeWhile_cons]
  split
  · rw [List.length_cons]
    omega
  · rfl

theorem runBefore_of_read (hread : t.read (i - 1) = .ok c) :
    runBefore p t i = if p c then 1 + runBefore p t (i - 1) else 0 := by
  obtain ⟨hi, hget⟩ := Text.at?_eq_some_iff.mp (Text.read_eq_ok_iff.mp hread)
  have hlast : i.toNat = (i - 1).toNat + 1 := by omega
  rw [runBefore, runBefore, hlast, List.take_add_one, hget, Option.toList_some,
    List.reverse_append, List.reverse_singleton, List.singleton_append, List.takeWhile_cons]
  split
  · rw [List.length_cons]
    omega
  · rfl

namespace Stepwise

open Text (Outside)

/-! ### Walks -/

/-- Goes on over characters with a property, up to a limit. -/
def onward (p : Char → Bool) (t : Text) (limit i : Int) : Except Outside Int := do
  if i < limit then
    if p (← t.read i) then onward p t limit (i + 1) else return i
  else return i
termination_by (limit - i).toNat
decreasing_by omega

/-- Goes back over characters with a property, down to a limit. -/
def backward (p : Char → Bool) (t : Text) (limit i : Int) : Except Outside Int := do
  if limit < i then
    if p (← t.read (i - 1)) then backward p t limit (i - 1) else return i
  else return i
termination_by (i - limit).toNat
decreasing_by omega

/-- A walk onward leads to the end of the run, or to its limit if that comes first. -/
theorem onward_eq_ok (hi : 0 ≤ i) (hlimit : limit ≤ t.length) :
    onward p t limit i = .ok (max i (min limit (i + runAfter p t i))) := by
  fun_induction onward p t limit i with
  | case1 i hlt ih =>
      obtain ⟨c, hread⟩ := Text.exists_read_iff.mpr ⟨hi, Int.lt_of_lt_of_le hlt hlimit⟩
      have hrest := runAfter_nonneg p t (i + 1)
      rw [hread, runAfter_of_read hread]
      change (if p c then onward p t limit (i + 1) else .ok i) = _
      split
      · rw [ih (by omega)]
        congr 1
        omega
      · congr 1
        omega
  | case2 i hend =>
      change Except.ok i = _
      congr 1
      omega

/-- A walk back leads to the beginning of the run, or to its limit if that comes first. -/
theorem backward_eq_ok (hlimit : 0 ≤ limit) (hi : i ≤ t.length) :
    backward p t limit i = .ok (min i (max limit (i - runBefore p t i))) := by
  fun_induction backward p t limit i with
  | case1 i hlt ih =>
      have hinside : 0 ≤ i - 1 ∧ i - 1 < t.length := by omega
      obtain ⟨c, hread⟩ := Text.exists_read_iff.mpr hinside
      have hrest := runBefore_nonneg p t (i - 1)
      rw [hread, runBefore_of_read hread]
      change (if p c then backward p t limit (i - 1) else .ok i) = _
      split
      · rw [ih (by omega)]
        congr 1
        omega
      · congr 1
        omega
  | case2 i hend =>
      change Except.ok i = _
      congr 1
      omega

/-! ### Single reads -/

def readsBlank (t : Text) (i : Int) : Except Outside Bool := do
  return isBlank (← t.read i)

def splitsWord (t : Text) (i : Int) : Except Outside Bool := do
  if 0 < i ∧ i < t.length then
    if ← readsBlank t (i - 1) then return false else return !(← readsBlank t i)
  else return false

/-- Whether a word could begin here. -/
def beginsWord (t : Text) (i : Int) : Except Outside Bool := do
  if i = 0 then return true else readsBlank t (i - 1)

/-- Whether a word could end here. -/
def endsWord (t : Text) (i : Int) : Except Outside Bool := do
  if i = t.length then return true else readsBlank t i

theorem readsBlank_eq_ok (hi : 0 ≤ i) (hlt : i < t.length) :
    readsBlank t i = .ok (blankAt t i) := by
  obtain ⟨c, hread⟩ := Text.exists_read_iff.mpr ⟨hi, hlt⟩
  rw [readsBlank, hread, blankAt_of_at? (Text.read_eq_ok_iff.mp hread)]
  rfl

/-- It can be told at every offset whether a cut splits a word, since none does at the ends of a text
or beyond them. -/
theorem splitsWord_eq_ok (t : Text) (i : Int) : splitsWord t i = .ok (Window.splitsWord t i) := by
  rw [splitsWord, Window.splitsWord]
  split
  · next hinside =>
      rw [readsBlank_eq_ok (by omega) (by omega), readsBlank_eq_ok (by omega) hinside.2,
        decide_eq_true hinside]
      cases blankAt t (i - 1) <;> rfl
  · next hend =>
      rw [decide_eq_false hend]
      rfl

theorem beginsWord_eq_ok (hi : 0 ≤ i) (htext : i ≤ t.length) :
    beginsWord t i = .ok (decide (i = 0 ∨ blankAt t (i - 1))) := by
  rw [beginsWord]
  split
  · next hzero =>
      rw [decide_eq_true (.inl hzero)]
      rfl
  · next hpos =>
      rw [readsBlank_eq_ok (by omega) (by omega)]
      simp [hpos]

theorem endsWord_eq_ok (hi : 0 ≤ i) (htext : i ≤ t.length) :
    endsWord t i = .ok (decide (i = t.length ∨ blankAt t i)) := by
  rw [endsWord]
  split
  · next hend =>
      rw [decide_eq_true (.inl hend)]
      rfl
  · next hinside =>
      rw [readsBlank_eq_ok hi (by omega)]
      simp [hinside]

/-! ### Starts -/

def startOffWord (t : Text) (floor tolerance anchor start : Int) : Except Outside Int := do
  if ← splitsWord t start then
    let back ← backward isInk t (max floor (start - tolerance)) start
    if ← beginsWord t back then return back
    else
      let forward ← onward isInk t anchor start
      return if forward < anchor then forward else start
  else return start

def settleStart (t : Text) (found : List Match) (floor tolerance anchor start : Int) :
    Except Outside Int := do
  let start ← startOffWord t floor tolerance anchor start
  onward isBlank t anchor (found.foldl (startOffMatch floor tolerance anchor) start)

theorem startOffWord_eq_ok (tolerance : Int) (hzero : 0 ≤ floor) (hfloor : floor ≤ start)
    (hanchor : start ≤ anchor) (htext : anchor ≤ t.length) :
    startOffWord t floor tolerance anchor start
      = .ok (Window.startOffWord t floor tolerance anchor start) := by
  have hback : backward isInk t (max floor (start - tolerance)) start
      = .ok (min start (max (max floor (start - tolerance)) (wordStart t start))) :=
    backward_eq_ok (by omega) (by omega)
  have hforward : onward isInk t anchor start = .ok (min anchor (wordEnd t start)) := by
    have hrun := runAfter_nonneg isInk t start
    rw [onward_eq_ok (by omega) htext, wordEnd]
    congr 1
    omega
  rw [startOffWord, splitsWord_eq_ok, hback, hforward, Window.startOffWord]
  cases Window.splitsWord t start with
  | false => rfl
  | true =>
      simp only [bind, Except.bind, pure, Except.pure, if_true]
      rw [beginsWord_eq_ok (by omega) (by omega)]
      simp only [decide_eq_true_eq]
      split <;> rfl

theorem settleStart_eq_ok (found : List Match) (tolerance : Int) (hzero : 0 ≤ floor)
    (hfloor : floor ≤ start) (hanchor : start ≤ anchor) (htext : anchor ≤ t.length) :
    settleStart t found floor tolerance anchor start
      = .ok (Window.settleStart t found floor tolerance anchor start) := by
  have hword := startOffWord_bounds t tolerance hfloor hanchor
  have hmatch := foldl_startOffMatch_bounds found tolerance hword.1 hword.2
  rw [settleStart, startOffWord_eq_ok tolerance hzero hfloor hanchor htext, Window.settleStart]
  exact onward_eq_ok (by omega) htext

/-! ### Ends -/

def endOffWord (t : Text) (tolerance anchor stop : Int) : Except Outside Int := do
  if ← splitsWord t stop then
    let forward ← onward isInk t (min t.length (stop + tolerance)) stop
    if ← endsWord t forward then return forward
    else
      let back ← backward isInk t anchor stop
      return if anchor < back then back else stop
  else return stop

def settleEnd (t : Text) (found : List Match) (tolerance anchor stop : Int) :
    Except Outside Int := do
  let stop ← endOffWord t tolerance anchor stop
  backward isBlank t anchor (found.foldl (endOffMatch tolerance anchor) stop)

theorem endOffWord_eq_ok (tolerance : Int) (hzero : 0 ≤ anchor) (hanchor : anchor ≤ stop)
    (htext : stop ≤ t.length) :
    endOffWord t tolerance anchor stop = .ok (Window.endOffWord t tolerance anchor stop) := by
  have hforward : onward isInk t (min t.length (stop + tolerance)) stop
      = .ok (max stop (min (min (t.length : Int) (stop + tolerance)) (wordEnd t stop))) :=
    onward_eq_ok (by omega) (by omega)
  have hback : backward isInk t anchor stop = .ok (max anchor (wordStart t stop)) := by
    have hrun := runBefore_nonneg isInk t stop
    rw [backward_eq_ok hzero htext, wordStart]
    congr 1
    omega
  rw [endOffWord, splitsWord_eq_ok, hback, hforward, Window.endOffWord]
  cases Window.splitsWord t stop with
  | false => rfl
  | true =>
      simp only [bind, Except.bind, pure, Except.pure, if_true]
      rw [endsWord_eq_ok (by omega) (by omega)]
      simp only [decide_eq_true_eq]
      split <;> rfl

/-- Matches that end inside the text keep the end there, from where the walk back over blanks begins. -/
theorem settleEnd_eq_ok (tolerance : Int) (hzero : 0 ≤ anchor) (hanchor : anchor ≤ stop)
    (htext : stop ≤ t.length) (hfits : ∀ m ∈ found, m.stop ≤ t.length) :
    settleEnd t found tolerance anchor stop
      = .ok (Window.settleEnd t found tolerance anchor stop) := by
  have hmoved := movedEnd_bounds tolerance hanchor htext hfits
  rw [settleEnd, endOffWord_eq_ok tolerance hzero hanchor htext, Window.settleEnd]
  exact backward_eq_ok hzero hmoved.2

/-- A match that goes on beyond the text takes the end with it, and the walk back begins outside. -/
example : settleEnd "ab".toList [⟨1, 5, .primary, "bcde".toList⟩] 12 0 2 = .error ⟨4⟩ := by
  cbv

end Stepwise

/-- Ends that are settled step by step never read outside the text. They are the ends of the window; the
start lies between the floor and the anchor, and the end between the anchor and the end of the text. -/
theorem stepwise_settle_eq_ok_and_bounds (t : Text) (found : List Match) (tolerance : Int) :
    (∀ floor start anchor : Int, 0 ≤ floor → floor ≤ start → start ≤ anchor → anchor ≤ t.length →
      Stepwise.settleStart t found floor tolerance anchor start
          = .ok (settleStart t found floor tolerance anchor start) ∧
        floor ≤ settleStart t found floor tolerance anchor start ∧
        settleStart t found floor tolerance anchor start ≤ anchor) ∧
      ((∀ m ∈ found, m.fits t.length) →
        ∀ anchor stop : Int, 0 ≤ anchor → anchor ≤ stop → stop ≤ t.length →
          Stepwise.settleEnd t found tolerance anchor stop
              = .ok (settleEnd t found tolerance anchor stop) ∧
            anchor ≤ settleEnd t found tolerance anchor stop ∧
            settleEnd t found tolerance anchor stop ≤ t.length) := by
  constructor
  · intro floor start anchor hzero hfloor hanchor htext
    exact ⟨Stepwise.settleStart_eq_ok found tolerance hzero hfloor hanchor htext,
      settleStart_bounds t found tolerance hfloor hanchor⟩
  · intro hfits anchor stop hzero hanchor htext
    have hstops : ∀ m ∈ found, m.stop ≤ t.length := fun m hm => (Match.fits_iff.mp (hfits m hm)).2.2
    exact ⟨Stepwise.settleEnd_eq_ok tolerance hzero hanchor htext hstops,
      settleEnd_bounds tolerance hanchor htext hstops⟩

/-- Two words with blanks around them. -/
def paddedText : Text := " ab cd ".toList

/-- The two words, the later one first. -/
def laterFirst : List Match :=
  [⟨4, 6, .secondary, "cd".toList⟩, ⟨1, 3, .primary, "ab".toList⟩]

/-- With a tolerance below zero no end moves outward, and both walk to the other side of their words. -/
theorem stepwise_settle_eq_ok_and_bounds_padded :
    ((0 : Int) ≤ 0 ∧ (0 : Int) ≤ 2 ∧ (2 : Int) ≤ 7 ∧ (7 : Int) ≤ paddedText.length) ∧
      (Stepwise.settleStart paddedText laterFirst 0 (-2) 7 2 = .ok 4 ∧ (0 : Int) ≤ 4 ∧ (4 : Int) ≤ 7) ∧
      (∀ m ∈ laterFirst, m.fits paddedText.length) ∧
      ((0 : Int) ≤ 0 ∧ (0 : Int) ≤ 5 ∧ (5 : Int) ≤ paddedText.length) ∧
      Stepwise.settleEnd paddedText laterFirst (-2) 0 5 = .ok 3 ∧
      (0 : Int) ≤ 3 ∧ (3 : Int) ≤ paddedText.length := by
  have hfits : ∀ m ∈ laterFirst, m.fits paddedText.length := by decide
  have hstart : settleStart paddedText laterFirst 0 (-2) 7 2 = 4 := by decide
  have hend : settleEnd paddedText laterFirst (-2) 0 5 = 3 := by decide
  have hsettled := stepwise_settle_eq_ok_and_bounds paddedText laterFirst (-2)
  have hfrom := hsettled.1 0 2 7 (by decide) (by decide) (by decide) (by decide)
  have hto := hsettled.2 hfits 0 5 (by decide) (by decide) (by decide)
  rw [hstart] at hfrom
  rw [hend] at hto
  exact ⟨by decide, hfrom, hfits, by decide, hto⟩

end Window

end NoteSearch
