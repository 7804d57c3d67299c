import NoteSearch.Text.Basic

/-!
# Slices of a text

How long a slice is, and what a slice of a slice is in the offsets of the text.
-/

namespace NoteSearch.Text

theorem length_slice {t : Text} {start stop : Int} (hstart : 0 ≤ start) (hle : start ≤ stop)
    (hstop : stop ≤ t.length) : ((t.slice start stop).length : Int) = stop - start := by
  rw [Text.slice, List.length_drop, List.length_take]
  omega

theorem slice_append_right (before after : Text) (length : Nat) :
    Text.slice (before ++ after) before.length (before.length + length) = after.take length := by
  have hstop : ((before.length : Int) + length).toNat = before.length + length := by omega
  rw [Text.slice, hstop, Int.toNat_natCast, List.take_length_add_append, List.drop_left]

theorem slice_slice (t : Text) {start stop first last : Int} (hstart : 0 ≤ start) (hfirst : 0 ≤ first)
    (hlast : 0 ≤ last) (hstop : start + last ≤ stop) :
    (t.slice start stop).slice first last = t.slice (start + first) (start + last) := by
  have hend : min (start.toNat + last.toNat) stop.toNat = (start + last).toNat := by omega
  have hbegin : start.toNat + first.toNat = (start + first).toNat := by omega
  rw [Text.slice, Text.slice, Text.slice, List.take_drop, List.take_take, List.drop_drop, hend, hbegin]

end NoteSearch.Text
