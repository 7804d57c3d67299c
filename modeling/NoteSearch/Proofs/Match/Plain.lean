import NoteSearch.Proofs.Batch
import NoteSearch.Proofs.Match.Literal
import NoteSearch.Proofs.Text.Pieces

/-!
# Plain terms as patterns

A term without special characters, read as a pattern, is its characters one after another, and that
pattern stands at a place exactly when the term itself stands there. So a search for plain terms gives
one list of matches, in raw mode and out of it.
-/

namespace NoteSearch

/-- The characters that mean more than themselves in a pattern. -/
def specialChars : List Char :=
  ['.', '^', '$', '*', '+', '?', '\x7b', '\x7d', '[', ']', '\\', '|', '(', ')']

/-- A text whose characters stand for themselves in a pattern. -/
def IsPlain (t : Text) : Prop :=
  ∀ c ∈ t, c ∉ specialChars

instance (t : Text) : Decidable (IsPlain t) :=
  List.decidableBAll (· ∉ specialChars) t

theorem IsPlain.strip {t : Text} (h : IsPlain t) : IsPlain t.strip :=
  fun c hc => h c (Text.strip_subset t hc)

/-! ### Reading -/

namespace Pattern

/-- The pattern of the characters of a text, one after another. -/
def literals (t : Text) : Pattern :=
  .ofList (t.map fun c => .char (.literal c))

section Reading

variable [Dialect] {first : Bool} {groups : Groups}

theorem readSeq_cons_of_notMem {c : Char} (hplain : c ∉ specialChars) (fuel : Nat) (back : List Item)
    (rest : Text) :
    readSeq (fuel + 1) false first back groups (c :: rest)
      = readSeq fuel false first (literalItem c :: back) groups rest := by
  simp only [specialChars, List.mem_cons, List.not_mem_nil, or_false, not_or] at hplain
  -- the equation of a character asks that it is none of those with a meaning
  rw [readSeq]
  all_goals simp only [hplain, false_implies, Bool.false_and, Bool.false_eq_true, if_false]

theorem readSeq_of_isPlain {t : Text} (hplain : IsPlain t) {fuel : Nat} (hfuel : t.length < fuel)
    (back : List Item) :
    readSeq fuel false first back groups t
      = .ok (.ofList (back.reverse.map Item.pattern ++ t.map fun c => .char (.literal c)), groups, []) := by
  induction t generalizing fuel back with
  | nil =>
      obtain ⟨fuel, rfl⟩ := Nat.exists_eq_add_one_of_ne_zero (Nat.ne_of_gt hfuel)
      rw [readSeq, List.map_nil, List.append_nil]
  | cons c rest ih =>
      obtain ⟨hc, hrest⟩ := List.forall_mem_cons.mp hplain
      obtain ⟨fuel, rfl⟩ := Nat.exists_eq_add_one_of_ne_zero (Nat.ne_zero_of_lt hfuel)
      rw [readSeq_cons_of_notMem hc, ih hrest (Nat.lt_of_succ_lt_succ hfuel)]
      simp [literalItem]

theorem ofText_of_isPlain {t : Text} (hplain : IsPlain t) : ofText t = .ok (literals t) := by
  have hfuel : t.length < 2 * t.length + 1 := by omega
  simp [ofText, readChoice, readSeq_of_isPlain hplain hfuel, choice, literals, clash, Except.bind]

end Reading

/-! ### Matching -/

theorem run_literals (mode : Mode) (t : Text) (next : Next) (s : State) :
    run mode (literals t) next s
      = (s.place.read? mode.same t).bind fun place => next { s with place } := by
  induction t generalizing s with
  | nil => rfl
  | cons c rest ih =>
      obtain ⟨⟨offset, before, left⟩, groups⟩ := s
      have hseq : literals (c :: rest) = .seq (.char (.literal c)) (literals rest) := rfl
      cases left with
      | nil => rfl
      | cons d left =>
          rw [hseq, run, run, Place.read?]
          show (if (CharSet.literal c).has mode d then _ else none) = _
          rw [CharSet.has]
          by_cases hsame : mode.same d c
          · rw [if_pos hsame, if_pos hsame]
            exact ih _
          · rw [if_neg hsame, if_neg hsame]
            rfl

end Pattern

theorem Place.offset_of_read? {same : Char → Char → Bool} {place after : Place} {wanted : Text}
    (hread : place.read? same wanted = some after) : after.offset = place.offset + wanted.length := by
  induction wanted generalizing place with
  | nil =>
      obtain rfl := Option.some.inj hread
      rfl
  | cons c wanted ih =>
      obtain ⟨offset, before, rest⟩ := place
      cases rest with
      | nil => exact absurd hread (by simp [read?])
      | cons d rest =>
          rw [read?] at hread
          split at hread
          · rw [ih hread, List.length_cons, Nat.add_right_comm, Nat.add_assoc]
          · exact absurd hread (by simp)

/-- A text that is not empty stands as a pattern where it stands as a literal. -/
theorem Pattern.lengthAt?_literals {t : Text} (hsome : t ≠ []) (caseSensitive : Bool) (place : Place) :
    lengthAt? { caseSensitive } (literals t) place = literalLengthAt? caseSensitive t place := by
  have hsame : ({ caseSensitive } : Mode).same = sameChar caseSensitive := rfl
  rw [lengthAt?, run_literals, hsame, literalLengthAt?]
  cases hread : place.read? (sameChar caseSensitive) t with
  | none => rfl
  | some after =>
      have hoffset := Place.offset_of_read? hread
      simp [hoffset, hsome]

/-! ### Searching -/

/-- The slot of a plain term that is taken as a pattern. -/
def Slot.ofPlain (request : Text × MatchKind) : Slot :=
  ⟨request.1, request.2, .pattern (.literals request.1)⟩

namespace TermSet

theorem mem_of_mem_requested {signature : Signature} {request : Text × MatchKind}
    (hrequest : request ∈ requested signature) :
    request.1 ≠ [] ∧ request.1 ∈ signature.terms ++ signature.fieldTerms := by
  obtain ⟨hmem, hsome⟩ := List.mem_filter.mp hrequest
  refine ⟨by simpa using hsome, ?_⟩
  rcases List.mem_append.mp hmem with hterm | hfield
  · exact List.mem_append_left _ (List.of_mem_zip hterm).1
  · obtain ⟨term, hterm, rfl⟩ := List.mem_map.mp hfield
    exact List.mem_append_right _ hterm

theorem slotMatches_ofPlain {request : Text × MatchKind} (hsome : request.1 ≠ []) (caseSensitive : Bool)
    (t : Text) :
    slotMatches caseSensitive t (.ofPlain request) = slotMatches caseSensitive t (.ofLiteral request) := by
  have hlength : (Needle.pattern (.literals request.1)).lengthAt? caseSensitive
      = (Needle.literal request.1).lengthAt? caseSensitive :=
    funext fun place => Pattern.lengthAt?_literals hsome caseSensitive place
  simp only [slotMatches, Slot.ofPlain, Slot.ofLiteral, hlength]

/-- Plain terms find the same whether they are patterns or not. -/
theorem find_ofPlain (signature : Signature) (caseSensitive : Bool) (t : Text) :
    find ⟨caseSensitive, (requested signature).map .ofPlain⟩ t
      = find ⟨caseSensitive, (requested signature).map .ofLiteral⟩ t := by
  rw [find, find, List.flatMap_map, List.flatMap_map]
  congr 1
  apply List.flatMap_congr
  intro request hrequest
  exact slotMatches_ofPlain (mem_of_mem_requested hrequest).1 caseSensitive t

variable [Pattern.Dialect]

theorem slot_of_isPlain {request : Text × MatchKind} (hplain : IsPlain request.1) :
    slot false request = .ok (some (.ofPlain request)) := by
  rw [slot, needle, Pattern.ofText_of_isPlain hplain]
  rfl

theorem compile_of_isPlain (signature : Signature) (hraw : signature.literalTerms = false)
    (hplain : ∀ term ∈ signature.terms ++ signature.fieldTerms, IsPlain term) :
    compile signature = .ok ⟨signature.caseSensitive, (requested signature).map .ofPlain⟩ := by
  apply compile_eq_ok
  intro request hrequest
  rw [hraw]
  exact slot_of_isPlain (hplain _ (mem_of_mem_requested hrequest).2)

end TermSet

/-- Whatever two finders were used for before, one that takes plain terms as patterns and one that
takes them as they are give the same matches in the same order. -/
theorem found_find_of_isPlain [Pattern.Dialect] {cache other : Cache} (hcache : cache.Used)
    (hother : other.Used) (t : Text) {terms fieldTerms : List Text}
    (hplain : ∀ term ∈ terms ++ fieldTerms, IsPlain term) {raw literal : HighlightOptions}
    (hraw : raw.literalTerms = false) (hliteral : literal.literalTerms = true)
    (hcase : raw.caseSensitive = literal.caseSensitive) :
    ∃ found, (cache.find t terms fieldTerms raw).found = .ok found ∧
      (other.find t terms fieldTerms literal).found = .ok found := by
  have hstripped : ∀ term ∈ terms.map Text.strip ++ fieldTerms.map Text.strip, IsPlain term := by
    intro term hterm
    rw [← List.map_append] at hterm
    obtain ⟨given, hgiven, rfl⟩ := List.mem_map.mp hterm
    exact (hplain given hgiven).strip
  have hpatterns := TermSet.compile_of_isPlain (.ofTerms terms fieldTerms raw) hraw hstripped
  have hliterals :=
    TermSet.compile_of_literalTerms (.ofTerms terms fieldTerms literal) hliteral
  -- the two signatures differ in nothing but whether the terms are patterns
  have hcompared : (Signature.ofTerms terms fieldTerms raw).caseSensitive = literal.caseSensitive := hcase
  rw [hcompared] at hpatterns
  have hfind := TermSet.find_ofPlain (.ofTerms terms fieldTerms raw) literal.caseSensitive t
  refine ⟨_, hcache.sound.found_find_of_compile t hpatterns, ?_⟩
  rw [hother.sound.found_find_of_compile t hliterals]
  exact congrArg Except.ok hfind.symm

section

attribute [local instance] Pattern.Dialect.nameless

/-- A text in which plain terms overlap themselves and stand with other letters of their case class. -/
def overlappingText : Text := "#\u212Aey k aaaa - ſ#".toList

theorem found_find_of_isPlain_overlapping :
    Cache.default.Used ∧
      (∀ term ∈ ["#key".toList, "aa".toList, " k A".toList] ++ ["- S".toList], IsPlain term) ∧
      ({ literalTerms := false } : HighlightOptions).literalTerms = false ∧
      ({} : HighlightOptions).literalTerms = true ∧
      ({ literalTerms := false } : HighlightOptions).caseSensitive
        = ({} : HighlightOptions).caseSensitive ∧
      ∃ found,
        (Cache.default.find overlappingText ["#key".toList, "aa".toList, " k A".toList] ["- S".toList]
            { literalTerms := false }).found = .ok found ∧
          (Cache.default.find overlappingText ["#key".toList, "aa".toList, " k A".toList]
            ["- S".toList] {}).found = .ok found := by
  have hused : Cache.default.Used := ⟨128, .default, [], rfl, rfl⟩
  have hplain : ∀ term ∈ ["#key".toList, "aa".toList, " k A".toList] ++ ["- S".toList],
      IsPlain term := by decide
  exact ⟨hused, hplain, rfl, rfl, rfl,
    found_find_of_isPlain hused hused overlappingText hplain rfl rfl rfl⟩

end

end NoteSearch
