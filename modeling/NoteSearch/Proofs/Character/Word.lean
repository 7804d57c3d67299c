import NoteSearch.Character.Lower
import NoteSearch.Character.Word

/-!
# Word characters and lower case

Lower case makes word characters of word characters and of no others. The rules of the case map are
compared with the ranges of word characters: nearly every rule moves its whole range from inside of one
range to inside of another, and what is left is compared code point by code point.
-/

namespace NoteSearch

/-- Whether all code points from `first` to `last` are in the ranges or all are not, where that can be
seen from the ranges next to them. -/
def uniform? : List (Nat × Nat) → Nat → Nat → Option Bool
  | [], _, _ => some false
  | (low, high) :: rest, first, last =>
      bif high.blt first then uniform? rest first last
      else bif last.blt low then some false
      else bif low.ble first && last.ble high then some true
      else none

theorem inRanges_of_uniform? {ranges : List (Nat × Nat)} (hranges : ∀ range ∈ ranges, range.1 ≤ range.2)
    {first last : Nat} {inside : Bool} (h : uniform? ranges first last = some inside) {n : Nat}
    (hfirst : first ≤ n) (hlast : n ≤ last) : inRanges ranges n = inside := by
  induction ranges with
  | nil => exact Option.some.inj h
  | cons range rest ih =>
      obtain ⟨low, high⟩ := range
      obtain ⟨hrange, hrest⟩ := List.forall_mem_cons.mp hranges
      simp only [uniform?, cond_eq_ite, Nat.blt_eq, Bool.and_eq_true, Nat.ble_eq] at h
      rw [inRanges]
      split at h
      · rw [if_neg (by omega), if_neg (by omega)]
        exact ih hrest h
      · split at h
        · rw [if_pos (by omega)]
          exact Option.some.inj h
        · split at h
          · rw [if_neg (by omega), if_pos (by omega)]
            exact Option.some.inj h
          · exact absurd h (by simp)

namespace CaseRule

/-- Where the rule moves a code point. -/
def move (rule : CaseRule) (n : Nat) : Nat :=
  (n + rule.offset).toNat

/-- The code points from `first` to `last` are above ASCII and move to characters above ASCII, and they
and their images are all word characters or none of them is. -/
def alikeOn (rule : CaseRule) (first last : Nat) : Bool :=
  let first' := rule.move first
  let last' := rule.move last
  Nat.ble 128 first && Nat.ble 128 first' &&
    (last'.blt 0xD800 || Nat.blt 0xDFFF first' && last'.blt 0x110000) &&
    match uniform? alphanumericRanges first last, uniform? alphanumericRanges first' last' with
    | some inside, some inside' => inside == inside'
    | _, _ => false

def keepsWord (rule : CaseRule) (n : Nat) : Bool :=
  isWord (rule.apply (Char.ofNat n)) == isWord (Char.ofNat n)

/-- The whole range of the rule is moved alike, or else each of its code points is. -/
def alike (rule : CaseRule) : Bool :=
  rule.alikeOn rule.first rule.last ||
    (List.range' rule.first (rule.last + 1 - rule.first)).all fun n =>
      !rule.covers n || rule.alikeOn n n || rule.keepsWord n

end CaseRule

theorem lowerRules_alike : lowerRules.all CaseRule.alike = true := by
  decide +kernel

theorem alphanumericRanges_ordered : ∀ range ∈ alphanumericRanges, range.1 ≤ range.2 := by
  decide +kernel

theorem toNat_ofNat_of_isValidChar {n : Nat} (h : n.isValidChar) : (Char.ofNat n).toNat = n := by
  rw [Char.ofNat, dif_pos h]
  rfl

theorem isWord_eq_inRanges {c : Char} (hc : 128 ≤ c.toNat) :
    isWord c = inRanges alphanumericRanges c.toNat := by
  have hline : (c == '_') = false := by
    refine beq_eq_false_iff_ne.mpr fun h => ?_
    rw [h] at hc
    exact absurd hc (by decide)
  rw [isWord, isAlphanumeric, if_neg (by omega), hline, Bool.or_false]

theorem CaseRule.isWord_apply_of_alikeOn {rule : CaseRule} {first last : Nat}
    (h : rule.alikeOn first last) {c : Char} (hfirst : first ≤ c.toNat) (hlast : c.toNat ≤ last) :
    isWord (rule.apply c) = isWord c := by
  simp only [alikeOn, Bool.and_eq_true, Nat.ble_eq, Bool.or_eq_true, Nat.blt_eq] at h
  obtain ⟨⟨⟨habove, habove'⟩, hvalid⟩, hinside⟩ := h
  have hlow : rule.move first ≤ rule.move c.toNat := Int.toNat_le_toNat (by omega)
  have hhigh : rule.move c.toNat ≤ rule.move last := Int.toNat_le_toNat (by omega)
  have himage : (rule.apply c).toNat = rule.move c.toNat := by
    have hscalar : (rule.move c.toNat).isValidChar := by
      simp only [Nat.isValidChar]
      omega
    exact toNat_ofNat_of_isValidChar hscalar
  rw [isWord_eq_inRanges (by omega), isWord_eq_inRanges (by omega), himage]
  split at hinside
  · next inside inside' hrange hrange' =>
      rw [inRanges_of_uniform? alphanumericRanges_ordered hrange hfirst hlast,
        inRanges_of_uniform? alphanumericRanges_ordered hrange' hlow hhigh]
      exact (eq_of_beq hinside).symm
  · exact absurd hinside Bool.false_ne_true

theorem CaseRule.isWord_apply {rule : CaseRule} (h : rule.alike) {c : Char}
    (hc : rule.covers c.toNat) : isWord (rule.apply c) = isWord c := by
  have hrange := hc
  simp only [covers, decide_eq_true_eq] at hrange
  rcases Bool.or_eq_true_iff.mp h with hwhole | heach
  · exact isWord_apply_of_alikeOn hwhole hrange.1 hrange.2.1
  · have hmem : c.toNat ∈ List.range' rule.first (rule.last + 1 - rule.first) := by
      rw [List.mem_range'_1]
      omega
    have hone := List.all_eq_true.mp heach c.toNat hmem
    rw [hc, Bool.not_true, Bool.false_or, Bool.or_eq_true_iff] at hone
    rcases hone with hone | hone
    · exact isWord_apply_of_alikeOn hone (Nat.le_refl _) (Nat.le_refl _)
    · have hsame := eq_of_beq hone
      rwa [Char.ofNat_toNat] at hsame

/-- The lower-case form of a word character is one, and of another character it is none. -/
theorem isWord_lowerChar (c : Char) : isWord (lowerChar c) = isWord c := by
  rw [lowerChar]
  split
  · next hascii =>
      have hall : ∀ n < 128, isWord (Char.ofNat n).toLower = isWord (Char.ofNat n) := by decide +kernel
      have hone := hall c.toNat hascii
      rwa [Char.ofNat_toNat] at hone
  · rw [applyCase]
    split
    · next rule hfind =>
        have halike := List.all_eq_true.mp lowerRules_alike rule (List.mem_of_find?_eq_some hfind)
        have hcovers := List.find?_some hfind
        exact rule.isWord_apply halike hcovers
    · rfl

end NoteSearch
