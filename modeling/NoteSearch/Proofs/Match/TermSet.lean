import Mathlib.Data.List.ReduceOption
import NoteSearch.Match.Finder
import NoteSearch.Proofs.Result

/-!
# Which term sets can be made

A term set is made from the slots of its terms, one after another, so it can be made when each term has a
slot or is passed over. Literals always have one, and blank terms ask for none.
-/

namespace NoteSearch

/-- The slot of a literal. -/
def Slot.ofLiteral (wanted : Text × MatchKind) : Slot :=
  ⟨wanted.1, wanted.2, .literal wanted.1⟩

/-- No term of the signature breaks the search. -/
def Signature.isSearchable [Pattern.Dialect] (signature : Signature) : Bool :=
  (TermSet.compile signature).isOk

namespace TermSet

theorem requested_of_isBlank {signature : Signature} (hblank : signature.isBlank) :
    requested signature = [] := by
  rw [Signature.isBlank, Bool.and_eq_true, List.all_eq_true, List.all_eq_true] at hblank
  obtain ⟨hterms, hfields⟩ := hblank
  apply List.filter_eq_nil_iff.mpr
  rintro ⟨term, kind⟩ hrequest
  rcases List.mem_append.mp hrequest with hterm | hfield
  · simpa using hterms term (List.of_mem_zip hterm).1
  · obtain ⟨field, hmem, heq⟩ := List.mem_map.mp hfield
    obtain rfl : field = term := congrArg Prod.fst heq
    simpa using hfields field hmem

variable [Pattern.Dialect]

theorem compile_eq_ok {signature : Signature} {slotOf : Text × MatchKind → Slot}
    (h : ∀ request ∈ requested signature,
      slot signature.literalTerms request = .ok (some (slotOf request))) :
    compile signature = .ok ⟨signature.caseSensitive, (requested signature).map slotOf⟩ := by
  have hslots : ((requested signature).map fun request => some (slotOf request)).reduceOption
      = (requested signature).map slotOf := by
    rw [List.reduceOption, List.filterMap_map]
    exact congrFun List.filterMap_eq_map' _
  rw [compile, mapM_eq_ok h, ← hslots]
  rfl

theorem compile_of_literalTerms (signature : Signature) (hliteral : signature.literalTerms) :
    compile signature
      = .ok ⟨signature.caseSensitive, (requested signature).map Slot.ofLiteral⟩ := by
  apply compile_eq_ok
  intro request _
  rw [hliteral]
  rfl

theorem compile_of_isBlank {signature : Signature} (hblank : signature.isBlank) :
    compile signature = .ok { caseSensitive := signature.caseSensitive } := by
  rw [compile, requested_of_isBlank hblank]
  rfl

end TermSet

theorem Signature.isSearchable_of_literalTerms [Pattern.Dialect] {signature : Signature}
    (hliteral : signature.literalTerms) : signature.isSearchable := by
  rw [isSearchable, TermSet.compile_of_literalTerms signature hliteral]
  rfl

end NoteSearch
