import NoteSearch.Proofs.Match.Order
import NoteSearch.Proofs.Match.Scan
import NoteSearch.Proofs.Match.Transparency
import NoteSearch.Proofs.Text.Slice

/-!
# Looking for literals

When terms stand for themselves, every term has the leftmost stretches of the text that are spelled
like it and do not overlap, and a search gives those of all terms by their starts, in the order of the
terms where starts are the same.
-/

namespace NoteSearch

/-- The literal stands in the text at an offset. -/
def OccursAt (caseSensitive : Bool) (t literal : Text) (i : Nat) : Prop :=
  Spells caseSensitive (Text.slice t i (i + literal.length)) literal

/-- What a search for literals is asked for: every term without the blanks at its ends, with the part
it plays. A blank term keeps its place. -/
def wantedLiterals (terms fieldTerms : List Text) : List (Text × MatchKind) :=
  (match terms with
    | [] => []
    | first :: later =>
        (first.strip, .primary) :: later.map fun term => (term.strip, .secondary))
    ++ fieldTerms.map fun term => (term.strip, .field)

/-- The leftmost occurrences of a literal that do not overlap, as matches. -/
structure LiteralMatches (caseSensitive : Bool) (t : Text) (wanted : Text × MatchKind)
    (found : List Match) : Prop where
  fits : ∀ m ∈ found, 0 ≤ m.start ∧ m.start < m.stop ∧ m.stop ≤ t.length
  term_eq : ∀ m ∈ found, m.term = t.slice m.start m.stop
  spells : ∀ m ∈ found, Spells caseSensitive m.term wanted.1
  kind_eq : ∀ m ∈ found, m.kind = wanted.2
  disjoint : found.Pairwise fun a b => a.stop ≤ b.start
  /-- An occurrence starts a match or lies inside one that starts before it. -/
  covers : wanted.1 ≠ [] → ∀ i : Nat, OccursAt caseSensitive t wanted.1 i → ∃ m ∈ found, m.Holds i
  blank : wanted.1 = [] → found = []

theorem occursAt_append {caseSensitive : Bool} {before after literal : Text} :
    OccursAt caseSensitive (before ++ after) literal before.length
      ↔ Spells caseSensitive (after.take literal.length) literal := by
  rw [OccursAt, Text.slice_append_right]

theorem OccursAt.exists_append {caseSensitive : Bool} {t literal : Text} {i : Nat}
    (h : OccursAt caseSensitive t literal i) (hsome : literal ≠ []) :
    ∃ before after, t = before ++ after ∧ before.length = i := by
  have hlength := List.Forall₂.length_eq h
  have hpos := List.length_pos_iff.mpr hsome
  rw [Text.slice, List.length_drop, List.length_take] at hlength
  refine ⟨t.take i, t.drop i, (List.take_append_drop i t).symm, ?_⟩
  rw [List.length_take]
  omega

/-! ### One term -/

section Slot

variable {caseSensitive : Bool} {t : Text} {wanted : Text × MatchKind}

theorem mem_slotMatches {m : Match}
    (hm : m ∈ TermSet.slotMatches caseSensitive t (.ofLiteral wanted)) :
    ∃ before after, t = before ++ after ∧
      Spells caseSensitive (after.take wanted.1.length) wanted.1 ∧ 0 < wanted.1.length ∧
        m = ⟨before.length, before.length + wanted.1.length, wanted.2, after.take wanted.1.length⟩ := by
  obtain ⟨f, hf, rfl⟩ := List.mem_map.mp hm
  obtain ⟨before, after, more, rfl, hstands, rfl⟩ :=
    (leftmost_scan literalLengthAt?_le t).stands f hf
  obtain ⟨hlength, hspells⟩ := literalLengthAt?_eq_some_iff.mp hstands
  have hspells : Spells caseSensitive (after.take wanted.1.length) wanted.1 := hspells
  rw [hlength]
  refine ⟨before, after, rfl, hspells, by omega, ?_⟩
  simp only [Found.between, hspells.length_eq, Slot.ofLiteral]

theorem slotMatches_eq_nil (hblank : wanted.1 = []) :
    TermSet.slotMatches caseSensitive t (.ofLiteral wanted) = [] := by
  apply List.eq_nil_iff_forall_not_mem.mpr
  intro m hm
  obtain ⟨_, _, _, _, hpos, _⟩ := mem_slotMatches hm
  rw [hblank] at hpos
  exact absurd hpos (Nat.lt_irrefl 0)

theorem literalMatches_slotMatches (caseSensitive : Bool) (t : Text) (wanted : Text × MatchKind) :
    LiteralMatches caseSensitive t wanted
      (TermSet.slotMatches caseSensitive t (.ofLiteral wanted)) where
  fits m hm := by
    obtain ⟨before, after, rfl, hspells, hpos, rfl⟩ := mem_slotMatches hm
    have hlength := hspells.length_eq
    rw [List.length_take] at hlength
    simp only [List.length_append]
    omega
  term_eq m hm := by
    obtain ⟨before, after, rfl, _, _, rfl⟩ := mem_slotMatches hm
    exact (Text.slice_append_right before after wanted.1.length).symm
  spells m hm := by
    obtain ⟨before, after, rfl, hspells, _, rfl⟩ := mem_slotMatches hm
    exact hspells
  kind_eq m hm := by
    obtain ⟨before, after, rfl, _, _, rfl⟩ := mem_slotMatches hm
    rfl
  disjoint := by
    refine List.pairwise_map.mpr ((leftmost_scan literalLengthAt?_le t).disjoint.imp ?_)
    intro f g hle
    rw [Found.stop] at hle
    show (f.start : Int) + f.text.length ≤ g.start
    omega
  covers hsome i hoccurs := by
    obtain ⟨before, after, rfl, rfl⟩ := hoccurs.exists_append hsome
    obtain ⟨more, hmore⟩ := Nat.exists_eq_succ_of_ne_zero (List.length_pos_iff.mpr hsome).ne'
    have hstands : literalLengthAt? caseSensitive wanted.1 (.between before after) = some (more + 1) :=
      literalLengthAt?_eq_some_iff.mpr ⟨hmore.symm, occursAt_append.mp hoccurs⟩
    obtain ⟨f, hf, hstart, hstop⟩ :=
      (leftmost_scan literalLengthAt?_le _).covers before after more rfl hstands
    refine ⟨_, List.mem_map.mpr ⟨f, hf, rfl⟩, ?_⟩
    rw [Found.stop] at hstop
    constructor
    · show (f.start : Int) ≤ before.length
      omega
    · show (before.length : Int) < f.start + f.text.length
      omega
  blank := slotMatches_eq_nil

end Slot

/-! ### All terms -/

section Lists

variable {α β : Type}

theorem zip_replicate_of_length_le {items : List α} {n : Nat} (hle : items.length ≤ n) (b : β) :
    items.zip (List.replicate n b) = items.map fun a => (a, b) := by
  induction items generalizing n with
  | nil => rfl
  | cons a items ih =>
      cases n with
      | zero => exact absurd hle (Nat.not_succ_le_zero _)
      | succ n =>
          rw [List.replicate_succ, List.zip_cons_cons, ih (Nat.le_of_succ_le_succ hle),
            List.map_cons]

theorem flatMap_filter_of_eq_nil {items : List α} {p : α → Bool} {f : α → List β}
    (hnone : ∀ a ∈ items, p a = false → f a = []) :
    (items.filter p).flatMap f = items.flatMap f := by
  induction items with
  | nil => rfl
  | cons a items ih =>
      have hrest := ih fun b hb => hnone b (List.mem_cons_of_mem a hb)
      cases hp : p a with
      | true => rw [List.filter_cons_of_pos hp, List.flatMap_cons, List.flatMap_cons, hrest]
      | false =>
          rw [List.filter_cons_of_neg (by simp [hp]), List.flatMap_cons,
            hnone a List.mem_cons_self hp, List.nil_append, hrest]

end Lists

theorem requested_ofTerms (terms fieldTerms : List Text) (options : HighlightOptions) :
    TermSet.requested (Signature.ofTerms terms fieldTerms options)
      = (wantedLiterals terms fieldTerms).filter fun wanted => !wanted.1.isEmpty := by
  cases terms with
  | nil => simp [TermSet.requested, Signature.ofTerms, wantedLiterals, Function.comp_def]
  | cons first later =>
      have hlater : (later.map Text.strip).length ≤ later.length + 1 := by simp
      simp [TermSet.requested, Signature.ofTerms, wantedLiterals, Function.comp_def,
        zip_replicate_of_length_le hlater]

theorem mem_strip_of_mem_wantedLiterals {terms fieldTerms : List Text} {wanted : Text × MatchKind}
    (hwanted : wanted ∈ wantedLiterals terms fieldTerms) :
    wanted.1 ∈ terms.map Text.strip ++ fieldTerms.map Text.strip := by
  rcases List.mem_append.mp hwanted with hterm | hfield
  · apply List.mem_append_left
    cases terms with
    | nil => exact absurd hterm List.not_mem_nil
    | cons first later =>
        rcases List.mem_cons.mp hterm with rfl | hlater
        · exact List.mem_cons_self
        · obtain ⟨term, hmem, rfl⟩ := List.mem_map.mp hlater
          exact List.mem_cons_of_mem _ (List.mem_map_of_mem hmem)
  · obtain ⟨term, hterm, rfl⟩ := List.mem_map.mp hfield
    exact List.mem_append_right _ (List.mem_map_of_mem hterm)

section Search

variable [Pattern.Dialect] {terms fieldTerms : List Text} {options : HighlightOptions} {set : TermSet}

theorem find_of_compile_ofTerms (t : Text) (hliteral : options.literalTerms)
    (hset : TermSet.compile (Signature.ofTerms terms fieldTerms options) = .ok set) :
    set.find t = Match.sortByStart ((wantedLiterals terms fieldTerms).flatMap fun wanted =>
      TermSet.slotMatches options.caseSensitive t (.ofLiteral wanted)) := by
  have hcompile := TermSet.compile_of_literalTerms (.ofTerms terms fieldTerms options) hliteral
  obtain rfl := Except.ok.inj (hset.symm.trans hcompile)
  rw [TermSet.find, requested_ofTerms, List.flatMap_map]
  -- blank terms have no slot, and would find nothing in one
  congr 1
  apply flatMap_filter_of_eq_nil
  intro wanted _ hblank
  exact slotMatches_eq_nil (by simpa using hblank)

/-- What a search for literals finds is spelled like one of them. -/
theorem exists_spells_of_mem_find {t : Text} (hliteral : options.literalTerms)
    (hset : TermSet.compile (Signature.ofTerms terms fieldTerms options) = .ok set) {m : Match}
    (hm : m ∈ set.find t) :
    ∃ literal ∈ terms.map Text.strip ++ fieldTerms.map Text.strip,
      Spells options.caseSensitive m.term literal := by
  rw [find_of_compile_ofTerms t hliteral hset, (Match.sortByStart_perm _).mem_iff] at hm
  obtain ⟨wanted, hwanted, hm⟩ := List.mem_flatMap.mp hm
  exact ⟨wanted.1, mem_strip_of_mem_wantedLiterals hwanted,
    (literalMatches_slotMatches options.caseSensitive t wanted).spells m hm⟩

/-- However a cache was used before, a search for literals gives a result. It has for each term the
leftmost occurrences that do not overlap, by their starts, those with one start in the order of the
terms. -/
theorem exists_literalMatches_of_find {capacity : Int} {cache : Cache}
    (hcache : Cache.create capacity = .ok cache) (uses : List Cache.Use) (t : Text)
    (terms fieldTerms : List Text) {options : HighlightOptions} (hliteral : options.literalTerms) :
    ∃ found, ((uses.foldl Cache.after cache).find t terms fieldTerms options).found = .ok found ∧
      ∃ slots : List (List Match),
        List.Forall₂ (LiteralMatches options.caseSensitive t) (wantedLiterals terms fieldTerms) slots ∧
          found = Match.sortByStart slots.flatten ∧
          found.Perm slots.flatten ∧
          (found.Pairwise fun a b => a.start ≤ b.start) ∧
          ∀ start, (found.filter fun m => m.start == start)
            = slots.flatten.filter fun m => m.start == start := by
  have hsound := (Cache.sound_of_create hcache).foldl_after uses
  have hset := TermSet.compile_of_literalTerms (.ofTerms terms fieldTerms options) hliteral
  refine ⟨_, hsound.found_find_of_compile t hset,
    (wantedLiterals terms fieldTerms).map fun wanted =>
      TermSet.slotMatches options.caseSensitive t (.ofLiteral wanted), ?_, ?_⟩
  · rw [List.forall₂_map_right_iff, List.forall₂_same]
    exact fun wanted _ => literalMatches_slotMatches options.caseSensitive t wanted
  · rw [find_of_compile_ofTerms t hliteral hset, List.flatMap_def]
    exact ⟨rfl, Match.sortByStart_perm _, Match.pairwise_sortByStart _,
      Match.filter_start_sortByStart _⟩

end Search

section

attribute [local instance] Pattern.Dialect.nameless

/-- A text in which a term with a dot stands twice in other case, and once with another character in
the place of the dot. -/
def dottedText : Text := "A.B a.b axb".toList

theorem exists_literalMatches_of_find_dotted :
    ∃ cache, Cache.create 1 = .ok cache ∧ ({} : HighlightOptions).literalTerms ∧
      ∃ slots : List (List Match),
        List.Forall₂ (LiteralMatches false dottedText)
            [([], .primary), ("a.b".toList, .secondary), ("B".toList, .field)] slots ∧
          (((Cache.crowdedUses {} {} {}).foldl Cache.after cache).find dottedText
              [" ".toList, " a.b".toList] ["B ".toList] {}).found
            = .ok (Match.sortByStart slots.flatten) := by
  have hsingle : Cache.create 1 = .ok { capacity := 1 } := rfl
  have hliteral : ({} : HighlightOptions).literalTerms := rfl
  obtain ⟨_, hfound, slots, hslots, rfl, _⟩ := exists_literalMatches_of_find hsingle
    (Cache.crowdedUses {} {} {}) dottedText [" ".toList, " a.b".toList] ["B ".toList] hliteral
  have hwanted : wantedLiterals [" ".toList, " a.b".toList] ["B ".toList]
      = [([], .primary), ("a.b".toList, .secondary), ("B".toList, .field)] := by decide
  exact ⟨_, hsingle, hliteral, slots, hwanted ▸ hslots, hfound⟩

end

end NoteSearch
