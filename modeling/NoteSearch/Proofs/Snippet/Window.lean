import NoteSearch.Proofs.Match.Order
import NoteSearch.Snippet.Window

/-!
# The ends of a window

How far a window grows and how far its ends move. A start stays between the floor and the anchor, an
end between the anchor and the end of the text. The word moves keep to the tolerance. The match moves
carry an end over matched characters only, but each of them by up to the tolerance; where matches do
not overlap there is at most one of them. An end that comes back to the start of a match may cut another
one there, and in no other way does it come to cut a match that it could leave out.
-/

namespace NoteSearch.Window

variable {t : Text} {found : List Match} {floor tolerance anchor start stop : Int}

theorem boundaryTolerance_nonneg : 0 ≤ boundaryTolerance := by decide

/-! ### Growing -/

section Grow

variable {textLength spanStart spanEnd : Int}

theorem expand_bounds (length : Int) (hfloor : floor ≤ spanStart) (htext : spanEnd ≤ textLength) :
    (floor ≤ (expand textLength spanStart spanEnd length floor).1 ∧
        (expand textLength spanStart spanEnd length floor).1 ≤ spanStart) ∧
      spanEnd ≤ (expand textLength spanStart spanEnd length floor).2 ∧
        (expand textLength spanStart spanEnd length floor).2 ≤ textLength := by
  simp only [expand]
  omega

/-- A window is no longer than asked for, unless what it has to show is. -/
theorem expand_length_le (textLength spanStart spanEnd length floor : Int) :
    (expand textLength spanStart spanEnd length floor).2
      - (expand textLength spanStart spanEnd length floor).1 ≤ max length (spanEnd - spanStart) := by
  simp only [expand]
  omega

end Grow

/-! ### Runs of characters -/

theorem runAfter_nonneg (p : Char → Bool) (t : Text) (i : Int) : 0 ≤ runAfter p t i :=
  Int.natCast_nonneg _

theorem runBefore_nonneg (p : Char → Bool) (t : Text) (i : Int) : 0 ≤ runBefore p t i :=
  Int.natCast_nonneg _

theorem getElem?_of_lt_length_takeWhile {p : Char → Bool} {l : List Char} {k : Nat}
    (h : k < (l.takeWhile p).length) : ∃ c, l[k]? = some c ∧ p c := by
  have hread := List.prefix_iff_getElem?.mp (List.takeWhile_prefix p) k h
  exact ⟨_, hread, List.all_eq_true.mp List.all_takeWhile _ (List.getElem_mem h)⟩

theorem getElem?_length_takeWhile {p : Char → Bool} {l : List Char}
    (h : (l.takeWhile p).length < l.length) :
    ∃ c, l[(l.takeWhile p).length]? = some c ∧ ¬ p c := by
  induction l with
  | nil => exact absurd h (Nat.lt_irrefl 0)
  | cons c rest ih =>
      by_cases hc : p c
      · rw [List.takeWhile_cons_of_pos hc, List.length_cons, List.length_cons] at h
        rw [List.takeWhile_cons_of_pos hc, List.length_cons, List.getElem?_cons_succ]
        exact ih (Nat.lt_of_succ_lt_succ h)
      · rw [List.takeWhile_cons_of_neg hc]
        exact ⟨c, rfl, hc⟩

theorem getElem?_drop_eq_at? {i : Int} (hi : 0 ≤ i) (k : Nat) :
    (t.drop i.toNat)[k]? = t.at? (i + k) := by
  rw [List.getElem?_drop, Text.at?, if_neg (by omega)]
  congr 1
  omega

theorem getElem?_reverse_take_eq_at? {i : Int} (hi : i ≤ t.length) {k : Nat} (hk : (k : Int) < i) :
    (t.take i.toNat).reverse[k]? = t.at? (i - 1 - k) := by
  rw [List.getElem?_reverse (by rw [List.length_take]; omega), List.length_take,
    List.getElem?_take_of_lt (by omega), Text.at?, if_neg (by omega)]
  congr 1
  omega

theorem at?_of_runAfter {p : Char → Bool} {i j : Int} (hi : 0 ≤ i) (hij : i ≤ j)
    (hj : j < i + runAfter p t i) : ∃ c, t.at? j = some c ∧ p c := by
  rw [runAfter] at hj
  have hinside : (j - i).toNat < ((t.drop i.toNat).takeWhile p).length := by omega
  obtain ⟨c, hread, hc⟩ := getElem?_of_lt_length_takeWhile hinside
  have hindex : i + (j - i).toNat = j := by omega
  rw [getElem?_drop_eq_at? hi, hindex] at hread
  exact ⟨c, hread, hc⟩

theorem at?_of_runBefore {p : Char → Bool} {i j : Int} (hi : i ≤ t.length)
    (hrun : i - runBefore p t i ≤ j) (hj : j < i) : ∃ c, t.at? j = some c ∧ p c := by
  have hlength := (List.takeWhile_prefix p (l := (t.take i.toNat).reverse)).length_le
  rw [List.length_reverse, List.length_take] at hlength
  rw [runBefore] at hrun
  have hinside : (i - 1 - j).toNat < ((t.take i.toNat).reverse.takeWhile p).length := by omega
  obtain ⟨c, hread, hc⟩ := getElem?_of_lt_length_takeWhile hinside
  have hindex : i - 1 - (i - 1 - j).toNat = j := by omega
  rw [getElem?_reverse_take_eq_at? hi (by omega), hindex] at hread
  exact ⟨c, hread, hc⟩

/-- A run ends at a character without its property, or with the text. -/
theorem at?_runAfter_end {p : Char → Bool} {i : Int} (hi : 0 ≤ i)
    (hend : i + runAfter p t i < t.length) : ∃ c, t.at? (i + runAfter p t i) = some c ∧ ¬ p c := by
  have hlength : ((t.drop i.toNat).takeWhile p).length < (t.drop i.toNat).length := by
    rw [runAfter] at hend
    rw [List.length_drop]
    omega
  obtain ⟨c, hread, hc⟩ := getElem?_length_takeWhile hlength
  rw [getElem?_drop_eq_at? hi] at hread
  exact ⟨c, hread, hc⟩

theorem at?_runBefore_begin {p : Char → Bool} {i : Int} (hi : i ≤ t.length)
    (hbegin : 0 < i - runBefore p t i) : ∃ c, t.at? (i - runBefore p t i - 1) = some c ∧ ¬ p c := by
  have hlength : ((t.take i.toNat).reverse.takeWhile p).length < (t.take i.toNat).reverse.length := by
    rw [runBefore] at hbegin
    rw [List.length_reverse, List.length_take]
    omega
  obtain ⟨c, hread, hc⟩ := getElem?_length_takeWhile hlength
  have hindex : i - runBefore p t i - 1 = i - 1 - runBefore p t i := by omega
  rw [getElem?_reverse_take_eq_at? hi (Int.sub_pos.mp hbegin)] at hread
  rw [hindex]
  exact ⟨c, hread, hc⟩

theorem blankAt_of_at? {i : Int} {c : Char} (hread : t.at? i = some c) : blankAt t i = isBlank c := by
  rw [blankAt, hread, Option.any_some]

theorem blankAt_of_runAfter {i j : Int} (hi : 0 ≤ i) (hij : i ≤ j)
    (hj : j < i + runAfter isBlank t i) : blankAt t j := by
  obtain ⟨c, hread, hblank⟩ := at?_of_runAfter hi hij hj
  rw [blankAt_of_at? hread, hblank]

theorem blankAt_of_runBefore {i j : Int} (hi : i ≤ t.length) (hrun : i - runBefore isBlank t i ≤ j)
    (hj : j < i) : blankAt t j := by
  obtain ⟨c, hread, hblank⟩ := at?_of_runBefore hi hrun hj
  rw [blankAt_of_at? hread, hblank]

theorem isInk_iff {c : Char} : isInk c ↔ ¬ isBlank c := by
  rw [isInk, Bool.not_eq_true', Bool.not_eq_true]

theorem not_blankAt_of_lt_wordEnd {i j : Int} (hi : 0 ≤ i) (hij : i ≤ j) (hj : j < wordEnd t i) :
    ¬ blankAt t j := by
  obtain ⟨c, hread, hink⟩ := at?_of_runAfter hi hij hj
  rw [blankAt_of_at? hread]
  exact isInk_iff.mp hink

theorem not_blankAt_of_wordStart_le {i j : Int} (hi : i ≤ t.length) (hword : wordStart t i ≤ j)
    (hj : j < i) : ¬ blankAt t j := by
  obtain ⟨c, hread, hink⟩ := at?_of_runBefore hi hword hj
  rw [blankAt_of_at? hread]
  exact isInk_iff.mp hink

theorem blankAt_wordEnd {i : Int} (hi : 0 ≤ i) (hend : wordEnd t i < t.length) :
    blankAt t (wordEnd t i) := by
  obtain ⟨c, hread, hblank⟩ := at?_runAfter_end hi hend
  rw [wordEnd, blankAt_of_at? hread]
  exact Decidable.not_not.mp (mt isInk_iff.mpr hblank)

theorem blankAt_before_wordStart {i : Int} (hi : i ≤ t.length) (hbegin : 0 < wordStart t i) :
    blankAt t (wordStart t i - 1) := by
  obtain ⟨c, hread, hblank⟩ := at?_runBefore_begin hi hbegin
  rw [wordStart, blankAt_of_at? hread]
  exact Decidable.not_not.mp (mt isInk_iff.mpr hblank)

theorem not_blankAt_of_all_isInk (hink : t.all isInk) (i : Int) : ¬ blankAt t i := by
  rw [blankAt, Text.at?, Option.any_eq_true]
  rintro ⟨c, hread, hblank⟩
  split at hread
  · cases hread
  · have hc := List.all_eq_true.mp hink c (List.mem_of_getElem? hread)
    rw [isInk, hblank] at hc
    cases hc

/-! ### Starts -/

theorem startOffWord_bounds (t : Text) (tolerance : Int) (hfloor : floor ≤ start)
    (hanchor : start ≤ anchor) :
    floor ≤ startOffWord t floor tolerance anchor start ∧
      startOffWord t floor tolerance anchor start ≤ anchor := by
  have hword : 0 ≤ runAfter isInk t start := runAfter_nonneg isInk t start
  simp only [startOffWord, wordEnd]
  split
  · split <;> omega
  · omega

theorem sub_tolerance_le_startOffWord (t : Text) (htolerance : 0 ≤ tolerance)
    (floor anchor start : Int) :
    start - tolerance ≤ startOffWord t floor tolerance anchor start := by
  have hword : 0 ≤ runAfter isInk t start := runAfter_nonneg isInk t start
  simp only [startOffWord, wordEnd]
  split
  · split <;> omega
  · omega

theorem foldl_startOffMatch_bounds (found : List Match) (tolerance : Int) (hfloor : floor ≤ start)
    (hanchor : start ≤ anchor) :
    floor ≤ found.foldl (startOffMatch floor tolerance anchor) start ∧
      found.foldl (startOffMatch floor tolerance anchor) start ≤ anchor := by
  refine List.foldlRecOn found _ (motive := fun x => floor ≤ x ∧ x ≤ anchor) ⟨hfloor, hanchor⟩ ?_
  intro x hx m _
  simp only [startOffMatch]
  omega

/-- A start stays in a match that reaches below the floor and beyond the anchor. -/
theorem foldl_startOffMatch_eq
    (hstay : ∀ m ∈ found, m.CutAt start → m.start < floor ∧ anchor < m.stop) :
    found.foldl (startOffMatch floor tolerance anchor) start = start := by
  refine List.foldlRecOn found _ (motive := fun x => x = start) rfl ?_
  rintro _ rfl m hm
  have hcut := hstay m hm
  simp only [Match.CutAt] at hcut
  simp only [startOffMatch]
  omega

theorem settleStart_bounds (t : Text) (found : List Match) (tolerance : Int)
    (hfloor : floor ≤ start) (hanchor : start ≤ anchor) :
    floor ≤ settleStart t found floor tolerance anchor start ∧
      settleStart t found floor tolerance anchor start ≤ anchor := by
  have hword := startOffWord_bounds t tolerance hfloor hanchor
  have hmatch := foldl_startOffMatch_bounds found tolerance hword.1 hword.2
  simp only [settleStart]
  omega

/-! ### Ends -/

theorem endOffWord_bounds (tolerance : Int) (hanchor : anchor ≤ stop) (htext : stop ≤ t.length) :
    anchor ≤ endOffWord t tolerance anchor stop ∧ endOffWord t tolerance anchor stop ≤ t.length := by
  have hword : 0 ≤ runBefore isInk t stop := runBefore_nonneg isInk t stop
  simp only [endOffWord, wordStart]
  split
  · split <;> omega
  · omega

/-- A word moves an end on by the tolerance at most, and then to its own end. -/
theorem endOffWord_le (t : Text) (htolerance : 0 ≤ tolerance) (anchor stop : Int) :
    endOffWord t tolerance anchor stop ≤ stop ∨
      endOffWord t tolerance anchor stop ≤ stop + tolerance ∧
        (endOffWord t tolerance anchor stop = t.length ∨
          blankAt t (endOffWord t tolerance anchor stop)) := by
  have hword : 0 ≤ runBefore isInk t stop := runBefore_nonneg isInk t stop
  simp only [endOffWord, wordStart]
  split
  · split
    · next hend => exact .inr ⟨by omega, hend⟩
    · omega
  · omega

theorem foldl_endOffMatch_bounds (tolerance : Int) (hanchor : anchor ≤ stop)
    (htext : stop ≤ t.length) (hfits : ∀ m ∈ found, m.stop ≤ t.length) :
    anchor ≤ found.foldl (endOffMatch tolerance anchor) stop ∧
      found.foldl (endOffMatch tolerance anchor) stop ≤ t.length := by
  refine List.foldlRecOn found _ (motive := fun x => anchor ≤ x ∧ x ≤ t.length)
    ⟨hanchor, htext⟩ ?_
  intro x hx m hm
  have := hfits m hm
  simp only [endOffMatch]
  omega

/-- An end after its word move and its match moves, before it is trimmed. -/
def movedEnd (t : Text) (found : List Match) (tolerance anchor stop : Int) : Int :=
  found.foldl (endOffMatch tolerance anchor) (endOffWord t tolerance anchor stop)

theorem settleEnd_eq (t : Text) (found : List Match) (tolerance anchor stop : Int) :
    settleEnd t found tolerance anchor stop
      = min (movedEnd t found tolerance anchor stop)
          (max anchor (movedEnd t found tolerance anchor stop
            - runBefore isBlank t (movedEnd t found tolerance anchor stop))) :=
  rfl

theorem settleEnd_le_movedEnd (t : Text) (found : List Match) (tolerance anchor stop : Int) :
    settleEnd t found tolerance anchor stop ≤ movedEnd t found tolerance anchor stop :=
  Int.min_le_left _ _

theorem movedEnd_bounds (tolerance : Int) (hanchor : anchor ≤ stop) (htext : stop ≤ t.length)
    (hfits : ∀ m ∈ found, m.stop ≤ t.length) :
    anchor ≤ movedEnd t found tolerance anchor stop ∧
      movedEnd t found tolerance anchor stop ≤ t.length := by
  have hword := endOffWord_bounds tolerance hanchor htext
  exact foldl_endOffMatch_bounds tolerance hword.1 hword.2 hfits

theorem settleEnd_bounds (tolerance : Int) (hanchor : anchor ≤ stop) (htext : stop ≤ t.length)
    (hfits : ∀ m ∈ found, m.stop ≤ t.length) :
    anchor ≤ settleEnd t found tolerance anchor stop ∧
      settleEnd t found tolerance anchor stop ≤ t.length := by
  have hmoved := movedEnd_bounds tolerance hanchor htext hfits
  rw [settleEnd_eq]
  omega

/-- An end moves on over matched characters only. -/
theorem exists_holds_of_lt_foldl_endOffMatch {p : Int} (hstop : stop ≤ p)
    (hp : p < found.foldl (endOffMatch tolerance anchor) stop) : ∃ m ∈ found, m.Holds p := by
  induction found generalizing stop with
  | nil => exact absurd hp (by rw [List.foldl_nil]; omega)
  | cons m rest ih =>
      rw [List.foldl_cons] at hp
      by_cases hm : m.Holds p
      · exact ⟨m, List.mem_cons_self, hm⟩
      · have hstep : endOffMatch tolerance anchor stop m ≤ p := by
          simp only [Match.Holds] at hm
          simp only [endOffMatch]
          omega
        obtain ⟨later, hlater, hholds⟩ := ih hstep hp
        exact ⟨later, List.mem_cons_of_mem _ hlater, hholds⟩

theorem foldl_endOffMatch_le_length (htolerance : 0 ≤ tolerance) (found : List Match)
    (anchor stop : Int) :
    found.foldl (endOffMatch tolerance anchor) stop ≤ stop + found.length * tolerance := by
  induction found generalizing stop with
  | nil => simp only [List.foldl_nil, List.length_nil]; omega
  | cons m rest ih =>
      have hrest := ih (endOffMatch tolerance anchor stop m)
      have hstep : endOffMatch tolerance anchor stop m ≤ stop + tolerance := by
        simp only [endOffMatch]
        omega
      rw [List.foldl_cons, List.length_cons, Int.natCast_add, Int.add_mul]
      omega

theorem movedEnd_le_length (t : Text) (htolerance : 0 ≤ tolerance) (found : List Match)
    (anchor stop : Int) :
    movedEnd t found tolerance anchor stop ≤ stop + (1 + found.length) * tolerance := by
  have hword := endOffWord_le t htolerance anchor stop
  have hmatch := foldl_endOffMatch_le_length htolerance found anchor
    (endOffWord t tolerance anchor stop)
  rw [movedEnd, Int.add_mul]
  omega

/-! ### Ends among matches that do not overlap -/

theorem endOffMatch_of_not_cutAt {m : Match} (hfree : ¬ m.CutAt stop) :
    endOffMatch tolerance anchor stop m = stop :=
  if_neg hfree

theorem foldl_endOffMatch_eq (hfree : ∀ m ∈ found, ¬ m.CutAt stop) :
    found.foldl (endOffMatch tolerance anchor) stop = stop := by
  refine List.foldlRecOn found _ (motive := fun x => x = stop) rfl ?_
  rintro _ rfl m hm
  exact endOffMatch_of_not_cutAt (hfree m hm)

/-- A match that has moved an end is the last one to do so. -/
theorem foldl_endOffMatch_cons_of_cutAt {m : Match} {rest : List Match}
    (hdisjoint : (m :: rest).Pairwise fun a b => a.stop ≤ b.start) (hcut : m.CutAt stop) :
    (m :: rest).foldl (endOffMatch tolerance anchor) stop = endOffMatch tolerance anchor stop m := by
  rw [List.foldl_cons]
  apply foldl_endOffMatch_eq
  intro later hlater hmoved
  have := List.rel_of_pairwise_cons hdisjoint hlater
  simp only [Match.CutAt] at hcut hmoved
  simp only [endOffMatch] at hmoved
  omega

theorem foldl_endOffMatch_le (htolerance : 0 ≤ tolerance)
    (hdisjoint : found.Pairwise fun a b => a.stop ≤ b.start) (anchor stop : Int) :
    found.foldl (endOffMatch tolerance anchor) stop ≤ stop + tolerance := by
  induction found with
  | nil => exact Int.le_add_of_nonneg_right htolerance
  | cons m rest ih =>
      by_cases hcut : m.CutAt stop
      · rw [foldl_endOffMatch_cons_of_cutAt hdisjoint hcut]
        simp only [Match.CutAt] at hcut
        simp only [endOffMatch]
        omega
      · rw [List.foldl_cons, endOffMatch_of_not_cutAt hcut]
        exact ih hdisjoint.of_cons

theorem movedEnd_le_of_disjoint (t : Text) (htolerance : 0 ≤ tolerance)
    (hdisjoint : found.Pairwise fun a b => a.stop ≤ b.start) (anchor stop : Int) :
    movedEnd t found tolerance anchor stop ≤ stop + 2 * tolerance := by
  have hword := endOffWord_le t htolerance anchor stop
  have hmatch := foldl_endOffMatch_le htolerance hdisjoint anchor
    (endOffWord t tolerance anchor stop)
  rw [movedEnd]
  omega

/-- The word move and the match move do not add up when matches hold no blanks: an end that has gone
on to the end of a word is in no match. -/
theorem movedEnd_le_of_ink (htolerance : 0 ≤ tolerance)
    (hdisjoint : found.Pairwise fun a b => a.stop ≤ b.start)
    (hfits : ∀ m ∈ found, m.stop ≤ t.length)
    (hink : ∀ m ∈ found, ∀ i, m.Holds i → ¬ blankAt t i) (anchor stop : Int) :
    movedEnd t found tolerance anchor stop ≤ stop + tolerance := by
  rw [movedEnd]
  rcases endOffWord_le t htolerance anchor stop with hback | ⟨hnear, hend⟩
  · have := foldl_endOffMatch_le htolerance hdisjoint anchor (endOffWord t tolerance anchor stop)
    omega
  · have hfree : ∀ m ∈ found, ¬ m.CutAt (endOffWord t tolerance anchor stop) := by
      rintro m hm ⟨hstart, hstop⟩
      rcases hend with hend | hblank
      · have := hfits m hm
        omega
      · exact hink m hm _ ⟨by omega, hstop⟩ hblank
    rwa [foldl_endOffMatch_eq hfree]

/-! ### Ends that come back -/

theorem foldl_endOffMatch_eq_of_le_start (hlater : ∀ m ∈ found, stop ≤ m.start) :
    found.foldl (endOffMatch tolerance anchor) stop = stop :=
  foldl_endOffMatch_eq fun m hm hcut => absurd hcut.1 (Int.not_lt.mpr (hlater m hm))

/-- An end that comes back lies where a match starts that goes on too far beyond where the end was. -/
theorem exists_start_of_foldl_endOffMatch_lt (hsorted : found.Pairwise fun a b => a.start ≤ b.start)
    (hback : found.foldl (endOffMatch tolerance anchor) stop < stop) :
    ∃ c ∈ found, found.foldl (endOffMatch tolerance anchor) stop = c.start ∧
      stop + tolerance < c.stop := by
  induction found generalizing stop with
  | nil => exact absurd hback (Int.lt_irrefl _)
  | cons m rest ih =>
      obtain ⟨hfirst, hrest⟩ := List.pairwise_cons.mp hsorted
      rw [List.foldl_cons] at hback ⊢
      by_cases hstep : endOffMatch tolerance anchor stop m < stop
      · have hmoved : endOffMatch tolerance anchor stop m = m.start ∧ stop + tolerance < m.stop := by
          simp only [endOffMatch] at hstep ⊢
          omega
        rw [hmoved.1, foldl_endOffMatch_eq_of_le_start hfirst]
        exact ⟨m, List.mem_cons_self, rfl, hmoved.2⟩
      · have hon := Int.not_lt.mp hstep
        obtain ⟨c, hc, hstart, hreach⟩ := ih hrest (Int.lt_of_lt_of_le hback hon)
        exact ⟨c, List.mem_cons_of_mem _ hc, hstart, by omega⟩

/-- A moved end that cuts a match from the anchor on has come back to the start of another match. -/
theorem exists_start_of_cutAt_foldl_endOffMatch
    (hsorted : found.Pairwise fun a b => a.start ≤ b.start) {m : Match} (hm : m ∈ found)
    (hlater : anchor ≤ m.start) (hcut : m.CutAt (found.foldl (endOffMatch tolerance anchor) stop)) :
    ∃ c ∈ found, found.foldl (endOffMatch tolerance anchor) stop = c.start ∧
      m.stop + tolerance < c.stop := by
  induction found generalizing stop with
  | nil => exact absurd hm List.not_mem_nil
  | cons first rest ih =>
      obtain ⟨hfirst, hrest⟩ := List.pairwise_cons.mp hsorted
      rw [List.foldl_cons] at hcut ⊢
      rcases List.mem_cons.mp hm with rfl | hm
      · -- its own move takes the end out of the match, and only a move back can lead into it again
        have hleft : endOffMatch tolerance anchor stop m ≤ m.start ∨
            m.stop ≤ endOffMatch tolerance anchor stop m := by
          simp only [endOffMatch]
          omega
        rcases hleft with hbefore | hafter
        · rw [foldl_endOffMatch_eq_of_le_start fun c hc =>
            Int.le_trans hbefore (hfirst c hc)] at hcut
          exact absurd hcut.1 (Int.not_lt.mpr hbefore)
        · obtain ⟨c, hc, hstart, hreach⟩ :=
            exists_start_of_foldl_endOffMatch_lt hrest (Int.lt_of_lt_of_le hcut.2 hafter)
          exact ⟨c, List.mem_cons_of_mem _ hc, hstart, by omega⟩
      · obtain ⟨c, hc, hstart⟩ := ih hrest hm hcut
        exact ⟨c, List.mem_cons_of_mem _ hc, hstart⟩

theorem blankAt_of_settleEnd_le (hlength : movedEnd t found tolerance anchor stop ≤ t.length) {i : Int}
    (hi : settleEnd t found tolerance anchor stop ≤ i)
    (hmoved : i < movedEnd t found tolerance anchor stop) : blankAt t i := by
  rw [settleEnd_eq] at hi
  exact blankAt_of_runBefore hlength (by omega) hmoved

/-- Trimming leads into no match that ends in ink. -/
theorem cutAt_movedEnd_of_cutAt_settleEnd
    (hlength : movedEnd t found tolerance anchor stop ≤ t.length) {m : Match}
    (hink : ¬ blankAt t (m.stop - 1)) (hcut : m.CutAt (settleEnd t found tolerance anchor stop)) :
    m.CutAt (movedEnd t found tolerance anchor stop) := by
  have hle := settleEnd_le_movedEnd t found tolerance anchor stop
  refine ⟨Int.lt_of_lt_of_le hcut.1 hle, Int.not_le.mp fun hover => hink ?_⟩
  have := hcut.2
  exact blankAt_of_settleEnd_le hlength (by omega) (by omega)

/-- An end cuts no match when matches share no characters and end in ink. -/
theorem not_cutAt_settleEnd (htolerance : 0 ≤ tolerance) (hanchor : anchor ≤ stop)
    (htext : stop ≤ t.length) (hordered : Ordered t found) (hapart : found.Pairwise Match.Apart)
    (hink : ∀ m ∈ found, ¬ blankAt t (m.stop - 1))
    (hlater : ∀ m ∈ found, anchor < m.stop → anchor ≤ m.start) :
    ∀ m ∈ found, ¬ m.CutAt (settleEnd t found tolerance anchor stop) := by
  intro m hm hcut
  have hbounds := movedEnd_bounds tolerance hanchor htext fun m hm => (hordered.fits m hm).2.2
  have hmoved := cutAt_movedEnd_of_cutAt_settleEnd hbounds.2 (hink m hm) hcut
  obtain ⟨c, hc, hstart, hreach⟩ := exists_start_of_cutAt_foldl_endOffMatch hordered.sorted hm
    (hlater m hm (Int.lt_of_le_of_lt hbounds.1 hmoved.2)) hmoved
  have hover := hordered.stop_le_start hapart hm hc (by omega)
  rw [movedEnd, hstart] at hmoved
  exact absurd hmoved.2 (Int.not_lt.mpr hover)

end NoteSearch.Window
