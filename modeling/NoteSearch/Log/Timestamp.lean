import NoteSearch.Number.Places

/-!
# Timestamps

A moment is a number of microseconds since the beginning of 1970. JSON lines hold it with the offset of
universal time, plain lines with milliseconds.
-/

namespace NoteSearch.Log

/-- Year, month and day of the day that comes `days` after the first one of 1970. Years are counted from
March on, so that the leap day is the last one. -/
def civilDate (days : Nat) : Nat × Nat × Nat :=
  let shifted := days + 719468
  let cycle := shifted / 146097
  let day := shifted % 146097
  let year := (day - day / 1460 + day / 36524 - day / 146096) / 365
  let dayOfYear := day - (365 * year + year / 4 - year / 100)
  let month := (5 * dayOfYear + 2) / 153
  let date := dayOfYear - (153 * month + 2) / 5 + 1
  let number := if month < 10 then month + 3 else month - 9
  (year + 400 * cycle + (if number ≤ 2 then 1 else 0), number, date)

/-- A date and a time of day, with a separator between them. -/
def dateAndTime (separator : Char) (seconds : Nat) : Text :=
  let (year, month, day) := civilDate (seconds / 86400)
  let two := Binary64.padDigits 2
  let time := seconds % 86400
  Binary64.padDigits 4 year ++ '-' :: two month ++ '-' :: two day ++ separator :: two (time / 3600)
    ++ ':' :: two (time / 60 % 60) ++ ':' :: two (time % 60)

/-- The timestamp of a JSON line; whole seconds have no fraction. -/
def isoTimestamp (micros : Nat) : Text :=
  let fraction := micros % 1000000
  dateAndTime 'T' (micros / 1000000)
    ++ (if fraction = 0 then [] else '.' :: Binary64.padDigits 6 fraction) ++ "+00:00".toList

/-- The timestamp of a plain line. -/
def plainTimestamp (micros : Nat) : Text :=
  dateAndTime ' ' (micros / 1000000) ++ ',' :: Binary64.padDigits 3 (micros / 1000 % 1000)

end NoteSearch.Log
