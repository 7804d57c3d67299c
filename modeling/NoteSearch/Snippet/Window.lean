import NoteSearch.Match.Basic

/-!
# Windows on a text

A window grows around the matches it has to show, to the right first. Its ends then move off the
middle of words and matches: outward by a bounded number of characters, or else inward, but never into
the matches to show.
-/

namespace NoteSearch.Window

/-- How far an end moves outward to finish a word or a match. -/
def boundaryTolerance : Int := 12

/-- Grows a span to `length` characters, after the span first and not below `floor`. -/
def expand (textLength spanStart spanEnd length floor : Int) : Int × Int :=
  let room := max 0 (length - (spanEnd - spanStart))
  let stop := min textLength (spanEnd + room)
  (max floor (spanStart - (room - (stop - spanEnd))), stop)

/-- The length of the run of characters with a property that begins at an offset. -/
def runAfter (p : Char → Bool) (t : Text) (i : Int) : Int :=
  ((t.drop i.toNat).takeWhile p).length

/-- The length of the run of characters with a property that ends at an offset. -/
def runBefore (p : Char → Bool) (t : Text) (i : Int) : Int :=
  ((t.take i.toNat).reverse.takeWhile p).length

def isInk (c : Char) : Bool :=
  !isBlank c

/-- Where the word that reaches up to an offset begins. -/
def wordStart (t : Text) (i : Int) : Int :=
  i - runBefore isInk t i

/-- Where the word that goes on at an offset ends. -/
def wordEnd (t : Text) (i : Int) : Int :=
  i + runAfter isInk t i

def blankAt (t : Text) (i : Int) : Bool :=
  (t.at? i).any isBlank

/-- Whether there is a word on both sides of an offset, so that a cut there splits it. -/
def splitsWord (t : Text) (i : Int) : Bool :=
  decide (0 < i ∧ i < t.length) && !blankAt t (i - 1) && !blankAt t i

/-- Moves a start back to the start of its word, or forward to its end if that is too far away. -/
def startOffWord (t : Text) (floor tolerance anchor start : Int) : Int :=
  if splitsWord t start then
    let back := min start (max (max floor (start - tolerance)) (wordStart t start))
    if back = 0 ∨ blankAt t (back - 1) then back
    else
      let forward := min anchor (wordEnd t start)
      if forward < anchor then forward else start
  else start

/-- Moves a start off the inside of a match: to the start of the match when that is near and allowed,
else to its end when that is not beyond the anchor. -/
def startOffMatch (floor tolerance anchor start : Int) (m : Match) : Int :=
  if m.start < start ∧ start < m.stop then
    if start - m.start ≤ tolerance ∧ floor ≤ m.start then m.start
    else if m.stop ≤ anchor then m.stop
    else start
  else start

/-- The start of a window whose matches to show begin at `anchor`. -/
def settleStart (t : Text) (found : List Match) (floor tolerance anchor start : Int) : Int :=
  let start := startOffWord t floor tolerance anchor start
  let start := found.foldl (startOffMatch floor tolerance anchor) start
  max start (min anchor (start + runAfter isBlank t start))

/-- Moves an end on to the end of its word, or back to its start if that is too far away. -/
def endOffWord (t : Text) (tolerance anchor stop : Int) : Int :=
  if splitsWord t stop then
    let forward := max stop (min (min (t.length : Int) (stop + tolerance)) (wordEnd t stop))
    if forward = t.length ∨ blankAt t forward then forward
    else
      let back := max anchor (wordStart t stop)
      if anchor < back then back else stop
  else stop

/-- Moves an end off the inside of a match: to the end of the match when that is near, else to its
start when that is not before the anchor. -/
def endOffMatch (tolerance anchor stop : Int) (m : Match) : Int :=
  if m.start < stop ∧ stop < m.stop then
    if m.stop - stop ≤ tolerance then m.stop
    else if anchor ≤ m.start then m.start
    else stop
  else stop

/-- The end of a window whose matches to show end at `anchor`. -/
def settleEnd (t : Text) (found : List Match) (tolerance anchor stop : Int) : Int :=
  let stop := endOffWord t tolerance anchor stop
  let stop := found.foldl (endOffMatch tolerance anchor) stop
  min stop (max anchor (stop - runBefore isBlank t stop))

end NoteSearch.Window
