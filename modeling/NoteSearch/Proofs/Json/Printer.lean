import Mathlib.Data.List.Basic
import NoteSearch.Json.Printer

/-!
# Documents on one line

A document is written on one line, whatever its texts hold: controls, line breaks among them, are escaped
in texts and stand nowhere else.
-/

namespace NoteSearch

/-- A text without control characters, so that it stands on one line. -/
def Text.OnOneLine (t : Text) : Prop :=
  ∀ c ∈ t, 32 ≤ c.toNat

namespace Text

variable {s t : Text} {c : Char}

instance : Decidable t.OnOneLine :=
  decidable_of_iff (t.all fun c => 32 ≤ c.toNat) (by simp [OnOneLine])

theorem onOneLine_nil : OnOneLine [] :=
  List.forall_mem_nil _

theorem onOneLine_cons : OnOneLine (c :: t) ↔ 32 ≤ c.toNat ∧ t.OnOneLine :=
  List.forall_mem_cons

theorem onOneLine_append : OnOneLine (s ++ t) ↔ s.OnOneLine ∧ t.OnOneLine :=
  List.forall_mem_append

theorem OnOneLine.of_subset (ht : t.OnOneLine) (hsubset : s ⊆ t) : s.OnOneLine :=
  fun c hc => ht c (hsubset hc)

theorem onOneLine_replicate (n : Nat) (hc : 32 ≤ c.toNat) : OnOneLine (List.replicate n c) :=
  fun _ hmem => List.eq_of_mem_replicate hmem ▸ hc

theorem onOneLine_toDigits (n : Nat) : OnOneLine (Nat.toDigits 10 n) := by
  intro c hc
  have hdigit : c.isDigit := Nat.isDigit_of_mem_toDigits (by decide) (by decide) hc
  rw [Char.isDigit, Bool.and_eq_true, decide_eq_true_iff] at hdigit
  have hzero : 48 ≤ c.toNat := hdigit.1
  omega

end Text

open Text

/-! ### Numbers -/

theorem onOneLine_int (n : Int) : OnOneLine (toString n).toList := by
  cases n with
  | ofNat n =>
      have hdigits : (toString (Int.ofNat n)).toList = Nat.toDigits 10 n := Nat.toList_repr
      rw [hdigits]
      exact onOneLine_toDigits n
  | negSucc n =>
      have hdigits : (toString (Int.negSucc n)).toList = '-' :: Nat.toDigits 10 (n + 1) := by
        rw [← Nat.toList_repr]
        exact String.toList_append
      rw [hdigits]
      exact onOneLine_cons.mpr ⟨by decide, onOneLine_toDigits (n + 1)⟩

namespace Binary64

theorem onOneLine_layout {digits : Text} (hdigits : digits.OnOneLine) (first : Int) :
    OnOneLine (layout digits first) := by
  have htake (n : Nat) : OnOneLine (digits.take n) := hdigits.of_subset (List.take_subset n digits)
  have hdrop (n : Nat) : OnOneLine (digits.drop n) := hdigits.of_subset (List.drop_subset n digits)
  have hzeros (n : Nat) : OnOneLine (List.replicate n '0') := onOneLine_replicate n (by decide)
  rw [layout]
  split
  · have hpoint : OnOneLine (if (digits.drop 1).isEmpty then [] else '.' :: digits.drop 1) := by
      split
      · exact onOneLine_nil
      · exact onOneLine_cons.mpr ⟨by decide, hdrop 1⟩
    have hpower : OnOneLine ['e', if first < 0 then '-' else '+'] := by split <;> decide
    simp only [onOneLine_append]
    exact ⟨⟨⟨⟨htake 1, hpoint⟩, hpower⟩, hzeros _⟩, onOneLine_toDigits _⟩
  · split
    · simp only [onOneLine_append]
      exact ⟨⟨by decide, hzeros _⟩, hdigits⟩
    · have hplaces (places : Text) (h : places.OnOneLine) :
          OnOneLine (if places.isEmpty then ['0'] else places) := by
        split
        · decide
        · exact h
      simp only [onOneLine_append]
      exact ⟨⟨⟨htake _, hzeros _⟩, by decide⟩, hplaces _ (hdrop _)⟩

theorem onOneLine_toText (x : Binary64) : x.toText.OnOneLine := by
  cases x with
  | nan => decide
  | infinite negative => cases negative <;> decide
  | finite negative mantissa exponent =>
      have hbody : OnOneLine (if mantissa = 0 then "0.0".toList
          else layout (shortest (ratio mantissa exponent).1 (ratio mantissa exponent).2).1
            (shortest (ratio mantissa exponent).1 (ratio mantissa exponent).2).2) := by
        split
        · decide
        · apply onOneLine_layout
          rw [shortest]
          exact (onOneLine_toDigits _).of_subset fun c hc => List.mem_reverse.mp
            ((List.dropWhile_subset _) (List.mem_reverse.mp hc))
      rw [toText]
      split
      · exact onOneLine_cons.mpr ⟨by decide, hbody⟩
      · exact hbody

end Binary64

namespace Json

theorem onOneLine_escapeChar (c : Char) : OnOneLine (escapeChar c) := by
  rw [escapeChar]
  iterate 7 (split; · decide)
  split
  case isTrue hcontrol =>
    have hdigit : ∀ d < 16, 32 ≤ (Nat.digitChar d).toNat := by decide
    simp only [onOneLine_cons]
    exact ⟨by decide, by decide, by decide, by decide, hdigit _ (by omega), hdigit _ (by omega),
      onOneLine_nil⟩
  case isFalse hplain => exact onOneLine_cons.mpr ⟨by omega, onOneLine_nil⟩

theorem onOneLine_printText (t : Text) : OnOneLine (printText t) := by
  rw [printText, List.cons_append, onOneLine_cons, onOneLine_append]
  refine ⟨by decide, fun c hc => ?_, by decide⟩
  obtain ⟨d, -, hd⟩ := List.mem_flatMap.mp hc
  exact onOneLine_escapeChar d c hd

theorem onOneLine_printNumber (x : Binary64) : OnOneLine (printNumber x) := by
  have hnull : OnOneLine "null".toList := by decide
  cases x with
  | finite negative mantissa exponent => exact Binary64.onOneLine_toText (.finite negative mantissa exponent)
  | infinite _ | nan => exact hnull

theorem onOneLine_separated {pieces : List Text} (hpieces : ∀ piece ∈ pieces, OnOneLine piece) :
    OnOneLine (separated [] pieces) := by
  induction pieces using separated.induct with
  | case1 => exact onOneLine_nil
  | case2 piece => exact hpieces piece (List.mem_singleton_self piece)
  | case3 piece rest _ ih =>
      obtain ⟨hpiece, hrest⟩ := List.forall_mem_cons.mp hpieces
      rw [separated, List.append_assoc, onOneLine_append, List.cons_append, onOneLine_cons]
      exact ⟨hpiece, by decide, ih hrest⟩
      simpa

/-! ### Documents -/

mutual

theorem onOneLine_compact : ∀ document : Json, document.compact.OnOneLine
  | .null => by decide
  | .bool b => by cases b <;> decide
  | .int n => onOneLine_int n
  | .float x => onOneLine_printNumber x
  | .str t => onOneLine_printText t
  | .list items => by
      rw [compact, List.cons_append, onOneLine_cons, onOneLine_append]
      exact ⟨by decide, onOneLine_separated (onOneLine_compactList items), by decide⟩
  | .object fields => by
      rw [compact, List.cons_append, onOneLine_cons, onOneLine_append]
      exact ⟨by decide, onOneLine_separated (onOneLine_compactFields fields), by decide⟩

theorem onOneLine_compactList : ∀ items : List Json, ∀ piece ∈ compactList items, OnOneLine piece
  | [] => List.forall_mem_nil _
  | item :: rest => by
      rw [compactList, List.forall_mem_cons]
      exact ⟨onOneLine_compact item, onOneLine_compactList rest⟩

theorem onOneLine_compactFields :
    ∀ fields : List (String × Json), ∀ piece ∈ compactFields fields, OnOneLine piece
  | [] => List.forall_mem_nil _
  | (name, value) :: rest => by
      rw [compactFields, List.forall_mem_cons, onOneLine_append, onOneLine_cons]
      exact ⟨⟨onOneLine_printText _, by decide, onOneLine_compact value⟩, onOneLine_compactFields rest⟩

end

end Json

end NoteSearch
