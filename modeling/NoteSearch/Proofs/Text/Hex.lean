import Mathlib.Data.Nat.Digits.Defs
import NoteSearch.Pattern.Reader
import NoteSearch.Text.Quoted

/-!
# Hexadecimal numbers

A number that is written in hexadecimal is read back, whatever zeros are put in front of it. So different
numbers are written differently, and only zero is written with nothing but zeros.
-/

namespace NoteSearch.Text

open Pattern (digitOf numberOf)

theorem digitOf_digitChar : ∀ d < 16, digitOf (Nat.digitChar d) = d := by
  decide

theorem numberOf_concat (base : Nat) (digits : Text) (c : Char) :
    numberOf base (digits ++ [c]) = base * numberOf base digits + digitOf c := by
  rw [numberOf, numberOf, List.foldl_append, List.foldl_cons, List.foldl_nil]

theorem numberOf_toDigits (n : Nat) : numberOf 16 (Nat.toDigits 16 n) = n := by
  induction n using Nat.strongRecOn with
  | ind n ih =>
      by_cases hn : n < 16
      · have hone := numberOf_concat 16 [] n.digitChar
        rw [Nat.toDigits_of_lt_base hn, ← List.nil_append [n.digitChar], hone, digitOf_digitChar n hn]
        exact Nat.zero_add n
      · have hlast := digitOf_digitChar (n % 16) (Nat.mod_lt n (by decide))
        rw [Nat.toDigits_of_base_le (by decide) (by omega), numberOf_concat, ih (n / 16) (by omega),
          hlast]
        omega

theorem numberOf_zeros_append (base width : Nat) (digits : Text) :
    numberOf base (List.replicate width '0' ++ digits) = numberOf base digits := by
  have hzeros : numberOf base (List.replicate width '0') = 0 := by
    induction width with
    | zero => rfl
    | succ width ih =>
        rw [List.replicate_succ', numberOf_concat, ih]
        rfl
  rw [numberOf, List.foldl_append, ← numberOf, hzeros, numberOf]

theorem numberOf_hex (width n : Nat) : numberOf 16 (hex width n) = n := by
  rw [hex, numberOf_zeros_append, numberOf_toDigits]

theorem hex_injective (width : Nat) : Function.Injective (hex width) := fun m n heq => by
  rw [← numberOf_hex width m, heq, numberOf_hex]

theorem any_ne_zero_hex (width : Nat) {n : Nat} (hn : n ≠ 0) : (hex width n).any (· != '0') := by
  by_contra hzeros
  have hall : hex width n = List.replicate (hex width n).length '0' ++ [] := by
    rw [List.append_nil]
    exact List.eq_replicate_iff.mpr ⟨rfl, by simpa using hzeros⟩
  have hvalue := numberOf_hex width n
  rw [hall, numberOf_zeros_append] at hvalue
  exact hn hvalue.symm

end NoteSearch.Text
