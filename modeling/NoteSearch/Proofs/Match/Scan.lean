import Mathlib.Data.List.Forall2
import NoteSearch.Match.Scan

/-!
# What a scan finds

A scan takes, from left to right, every stretch that stands outside the one it took before. So what it
takes stands where it says, no two stretches overlap, and every place where something stands is inside
a stretch that was taken. `Leftmost` holds these three facts, whatever is looked for. A literal stands
where the text spells it, up to case.
-/

namespace NoteSearch

/-- The place between two parts of a text. -/
def Place.between (before after : Text) : Place :=
  ⟨before.length, before.reverse, after⟩

namespace Found

def stop (found : Found) : Nat :=
  found.start + found.text.length

/-- The stretch of a given length after `before`. -/
def between (before after : Text) (length : Nat) : Found :=
  ⟨before.length, after.take length⟩

theorem stop_between {before after : Text} {length : Nat} (hwithin : length ≤ after.length) :
    (between before after length).stop = before.length + length := by
  rw [stop, between, List.length_take, Nat.min_eq_left hwithin]

end Found

/-- The leftmost stretches of a text that do not overlap. -/
structure Leftmost (lengthAt? : Place → Option Nat) (t : Text) (found : List Found) : Prop where
  stands : ∀ f ∈ found, ∃ before after more, t = before ++ after ∧
    lengthAt? (.between before after) = some (more + 1) ∧ f = .between before after (more + 1)
  disjoint : found.Pairwise fun f g => f.stop ≤ g.start
  /-- Whatever stands in the text begins inside a stretch that was taken. -/
  covers : ∀ before after more, t = before ++ after →
    lengthAt? (.between before after) = some (more + 1) →
      ∃ f ∈ found, f.start ≤ before.length ∧ before.length < f.stop

/-- A scan of the rest of a text, after `before`: the next `skip` characters are inside the stretch
taken last. -/
inductive Scanned (lengthAt? : Place → Option Nat) : Text → Nat → Text → List Found → Prop
  | done {before : Text} {skip : Nat} : Scanned lengthAt? before skip [] []
  | skip {before : Text} {skip : Nat} {c : Char} {rest : Text} {found : List Found}
      (hlater : Scanned lengthAt? (before ++ [c]) skip rest found) :
      Scanned lengthAt? before (skip + 1) (c :: rest) found
  | take {before : Text} {c : Char} {rest : Text} {more : Nat} {found : List Found}
      (hstands : lengthAt? (.between before (c :: rest)) = some (more + 1))
      (hlater : Scanned lengthAt? (before ++ [c]) more rest found) :
      Scanned lengthAt? before 0 (c :: rest) (.between before (c :: rest) (more + 1) :: found)
  | pass {before : Text} {c : Char} {rest : Text} {found : List Found}
      (hnone : ∀ more, lengthAt? (.between before (c :: rest)) ≠ some (more + 1))
      (hlater : Scanned lengthAt? (before ++ [c]) 0 rest found) :
      Scanned lengthAt? before 0 (c :: rest) found

section Scan

variable {lengthAt? : Place → Option Nat} {before rest : Text} {skip : Nat} {found : List Found}

theorem scanned_scanFrom (lengthAt? : Place → Option Nat) (before : Text) (skip : Nat) (rest : Text) :
    Scanned lengthAt? before skip rest
      (scanFrom lengthAt? before.length before.reverse skip rest) := by
  induction rest generalizing before skip with
  | nil =>
      rw [scanFrom]
      exact .done
  | cons c rest ih =>
      have hlater := fun skip => ih (before ++ [c]) skip
      simp only [List.length_append, List.length_singleton, List.reverse_concat] at hlater
      cases skip with
      | succ skip =>
          rw [scanFrom]
          exact .skip (hlater skip)
      | zero =>
          rw [scanFrom]
          split
          · next more hstands => exact .take hstands (hlater more)
          · next hnone => exact .pass hnone (hlater 0)

theorem scanned_scan (lengthAt? : Place → Option Nat) (t : Text) :
    Scanned lengthAt? [] 0 t (scan lengthAt? t) :=
  scanned_scanFrom lengthAt? [] 0 t

namespace Scanned

theorem le_start (h : Scanned lengthAt? before skip rest found) {f : Found} (hf : f ∈ found) :
    before.length + skip ≤ f.start := by
  induction h with
  | done => exact absurd hf List.not_mem_nil
  | skip _ ih =>
      have := ih hf
      rw [List.length_append, List.length_singleton] at this
      omega
  | take _ _ ih =>
      rcases List.mem_cons.mp hf with rfl | hf
      · exact Nat.le_refl _
      · have := ih hf
        rw [List.length_append, List.length_singleton] at this
        omega
  | pass _ _ ih =>
      have := ih hf
      rw [List.length_append, List.length_singleton] at this
      omega

theorem stands (h : Scanned lengthAt? before skip rest found) {f : Found} (hf : f ∈ found) :
    ∃ left right more, before ++ rest = left ++ right ∧
      lengthAt? (.between left right) = some (more + 1) ∧ f = .between left right (more + 1) := by
  induction h with
  | done => exact absurd hf List.not_mem_nil
  | skip _ ih =>
      rw [List.append_cons]
      exact ih hf
  | take hstands _ ih =>
      rcases List.mem_cons.mp hf with rfl | hf
      · exact ⟨_, _, _, rfl, hstands, rfl⟩
      · rw [List.append_cons]
        exact ih hf
  | pass _ _ ih =>
      rw [List.append_cons]
      exact ih hf

theorem text_ne_nil (h : Scanned lengthAt? before skip rest found) {f : Found} (hf : f ∈ found) :
    f.text ≠ [] := by
  induction h with
  | done => exact absurd hf List.not_mem_nil
  | skip _ ih => exact ih hf
  | take _ _ ih =>
      rcases List.mem_cons.mp hf with rfl | hf
      · exact List.cons_ne_nil _ _
      · exact ih hf
  | pass _ _ ih => exact ih hf

theorem disjoint (h : Scanned lengthAt? before skip rest found) :
    found.Pairwise fun f g => f.stop ≤ g.start := by
  induction h with
  | done => exact .nil
  | skip _ ih => exact ih
  | @take before c rest more found _ hlater ih =>
      refine List.pairwise_cons.mpr ⟨fun g hg => ?_, ih⟩
      have hnext := hlater.le_start hg
      have hlength := List.length_take_le (more + 1) (c :: rest)
      simp only [Found.stop, Found.between, List.length_append, List.length_singleton] at hnext ⊢
      omega
  | pass _ _ ih => exact ih

/-- What stands outside the stretch taken last begins inside one that the scan takes. -/
theorem covers (hwithin : ∀ place n, lengthAt? place = some n → n ≤ place.rest.length)
    (h : Scanned lengthAt? before skip rest found) {left right : Text} {more : Nat}
    (hsplit : before ++ rest = left ++ right) (hskip : before.length + skip ≤ left.length)
    (hstands : lengthAt? (.between left right) = some (more + 1)) :
    ∃ f ∈ found, f.start ≤ left.length ∧ left.length < f.stop := by
  induction h with
  | done =>
      -- nothing stands at the end of the text
      have hlength := congrArg List.length hsplit
      have hright := hwithin _ _ hstands
      simp only [List.length_append, List.length_nil, Place.between] at hlength hright
      omega
  | @skip before skip c rest found _ ih =>
      rw [List.append_cons] at hsplit
      refine ih hsplit ?_
      rw [List.length_append, List.length_singleton]
      omega
  | @take before c rest taken found hhere _ ih =>
      by_cases hinside : left.length < before.length + (taken + 1)
      · have hstop : (Found.between before (c :: rest) (taken + 1)).stop = before.length + (taken + 1) :=
          Found.stop_between (hwithin _ _ hhere)
        exact ⟨_, List.mem_cons_self, hskip, hstop ▸ hinside⟩
      · rw [List.append_cons] at hsplit
        obtain ⟨f, hf, hcovers⟩ := ih hsplit (by
          rw [List.length_append, List.length_singleton]
          omega)
        exact ⟨f, List.mem_cons_of_mem _ hf, hcovers⟩
  | @pass before c rest found hnone _ ih =>
      by_cases hhere : left.length = before.length
      · obtain ⟨rfl, rfl⟩ := List.append_inj hsplit hhere.symm
        exact absurd hstands (hnone more)
      · rw [List.append_cons] at hsplit
        refine ih hsplit ?_
        rw [List.length_append, List.length_singleton]
        omega

end Scanned

theorem leftmost_scan (hwithin : ∀ place n, lengthAt? place = some n → n ≤ place.rest.length)
    (t : Text) : Leftmost lengthAt? t (scan lengthAt? t) where
  stands _ hf := (scanned_scan lengthAt? t).stands hf
  disjoint := (scanned_scan lengthAt? t).disjoint
  covers _ _ _ hsplit hstands :=
    (scanned_scan lengthAt? t).covers hwithin hsplit (Nat.zero_le _) hstands

end Scan

/-! ### Literals -/

/-- The piece of text is the literal, character by character and up to case unless `caseSensitive`. -/
def Spells (caseSensitive : Bool) (piece literal : Text) : Prop :=
  List.Forall₂ (fun c d => sameChar caseSensitive c d) piece literal

theorem Place.isSome_read?_iff (same : Char → Char → Bool) (place : Place) (wanted : Text) :
    (place.read? same wanted).isSome
      ↔ List.Forall₂ (fun c d => same c d) (place.rest.take wanted.length) wanted := by
  induction wanted generalizing place with
  | nil => simp [read?]
  | cons d wanted ih =>
      obtain ⟨offset, previous, rest⟩ := place
      cases rest with
      | nil => simp [read?]
      | cons c rest =>
          by_cases hsame : same c d
          · simp [read?, hsame, ih]
          · simp [read?, hsame]

theorem literalLengthAt?_eq_some_iff {caseSensitive : Bool} {literal : Text} {place : Place} {n : Nat} :
    literalLengthAt? caseSensitive literal place = some n
      ↔ n = literal.length ∧ Spells caseSensitive (place.rest.take literal.length) literal := by
  rw [Spells, ← Place.isSome_read?_iff, literalLengthAt?, Option.map_eq_some_iff,
    Option.isSome_iff_exists]
  constructor
  · rintro ⟨next, hnext, rfl⟩
    exact ⟨rfl, next, hnext⟩
  · rintro ⟨rfl, next, hnext⟩
    exact ⟨next, hnext, rfl⟩

theorem literalLengthAt?_le {caseSensitive : Bool} {literal : Text} (place : Place) (n : Nat)
    (hstands : literalLengthAt? caseSensitive literal place = some n) : n ≤ place.rest.length := by
  obtain ⟨rfl, hspells⟩ := literalLengthAt?_eq_some_iff.mp hstands
  have hlength := hspells.length_eq
  rw [List.length_take] at hlength
  omega

end NoteSearch
