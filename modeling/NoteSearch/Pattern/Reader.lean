import NoteSearch.Character.Name
import NoteSearch.Number.Reading
import NoteSearch.Pattern.Escape

/-!
# Reading a pattern

A character stands for itself unless it is one of the fourteen special ones. A bracket opens a set, a
parenthesis a group, and a star, plus, question mark or brace repeats the item before it, unless that
item is an anchor or already repeated. A brace that is no repetition stands for itself. Behind a
parenthesis a question mark tells groups of other kinds, conditions and switches; switches for the whole
pattern stand at its start. What cannot be read this way is no pattern. Two faults are not found in the
grammar but in the numbers and the switches, and a search does not get over them.
-/

namespace NoteSearch.Pattern

/-! ### What goes wrong -/

/-- What breaks a search. -/
inductive Fault
  /-- Characters are to be taken as ASCII and not so, for the whole pattern. -/
  | clashingFlags
  | tooManyDigits (count : Nat)
  deriving DecidableEq, Repr

def Fault.message : Fault → String
  | .clashingFlags => "ASCII and UNICODE flags are incompatible"
  | .tooManyDigits count =>
      "Exceeds the limit (" ++ toString Number.maxDigits
        ++ " digits) for integer string conversion: value has " ++ toString count
        ++ " digits; use sys.set_int_max_str_digits() to increase the limit"

/-- Why a text is no pattern. -/
inductive Refusal
  | malformed
  | tooLarge
  | tooDeep
  | fault (fault : Fault)
  deriving DecidableEq, Repr

/-- A step of the grammar. -/
def required {α : Type} : Option α → Except Refusal α
  | some a => .ok a
  | none => .error .malformed

/-! ### Groups -/

/-- What is known of the groups and the switches read so far. -/
structure Groups where
  /-- How many groups and conditions are around. -/
  around : Nat := 0
  opened : Nat := 0
  /-- The groups that are closed, with their widths. -/
  closed : List (Nat × Width) := []
  names : List (Text × Nat) := []
  /-- Inside of a look back, how many groups were opened before it. -/
  openedBefore : Option Nat := none
  /-- The last group that a condition goes by. -/
  asked : Nat := 0
  /-- A look back has no fixed width. -/
  uneven : Bool := false
  /-- The switches of the whole pattern. -/
  flags : List Flag := []

namespace Groups

def isClosed (groups : Groups) (index : Nat) : Bool :=
  (groups.closed.lookup index).isSome

def widthOf (groups : Groups) (index : Nat) : Width :=
  (groups.closed.lookup index).getD {}

/-- A look back may refer to groups only that are closed before it. -/
def isInSight (groups : Groups) (index : Nat) : Bool :=
  groups.openedBefore.all fun opened => groups.isClosed index && decide (index ≤ opened)

/-- Whether what a group has read may be referred to. -/
def isCaptured (groups : Groups) (index : Nat) : Bool :=
  groups.isClosed index && groups.isInSight index

/-- Opens a group, whose number is the next one. A name may be given once. -/
def open? (groups : Groups) : Option Text → Option (Nat × Groups)
  | none => some (groups.opened + 1, { groups with opened := groups.opened + 1 })
  | some name =>
      if (groups.names.lookup name).isSome then none
      else
        let index := groups.opened + 1
        some (index, { groups with opened := index, names := (name, index) :: groups.names })

def close (groups : Groups) (index : Nat) (inner : Pattern) : Groups :=
  { groups with closed := (index, inner.width groups.widthOf) :: groups.closed }

/-- Goes into a look back, of which the outermost counts. -/
def enterBack (groups : Groups) : Groups :=
  { groups with openedBefore := groups.openedBefore.or (some groups.opened) }

/-- A look back at the width of a pattern, which has to be the same wherever it matches. -/
def lookBack (groups : Groups) (negated : Bool) (inner : Pattern) : Pattern × Groups :=
  let width := inner.width groups.widthOf
  let even := width.least == width.most && decide (width.least ≤ 0xFFFFFFFF)
  (.look width.least negated inner, { groups with uneven := groups.uneven || !even })

end Groups

/-! ### Repetitions -/

/-- An item of a sequence, and whether a repetition may follow it. -/
structure Item where
  pattern : Pattern
  repeatable : Bool := true

/-- Repetition numbers from here on are refused. -/
def repeatLimit : Nat := 0xFFFFFFFF

/-- The bounds in braces after an opening brace, none when the brace stands for itself. -/
def readBounds? (t : Text) : Option ((Text × Option Text) × Text) :=
  let low := t.takeWhile Char.isDigit
  match t.dropWhile Char.isDigit with
  | '\x7d' :: rest => if low.isEmpty then none else some ((low, some low), rest)
  | ',' :: rest =>
      let high := rest.takeWhile Char.isDigit
      match rest.dropWhile Char.isDigit with
      | '\x7d' :: after => some ((low, if high.isEmpty then none else some high), after)
      | _ => none
  | _ => none

def bound (digits : Text) : Except Refusal Nat :=
  if Number.maxDigits < digits.length then .error (.fault (.tooManyDigits digits.length))
  else if repeatLimit ≤ numberOf 10 digits then .error .tooLarge
  else .ok (numberOf 10 digits)

/-- The numbers of repetitions that bounds allow. -/
def bounds (low : Text) : Option Text → Except Refusal (Nat × Option Nat)
  | none => (bound low).map fun least => (least, none)
  | some high =>
      (bound low).bind fun least =>
        (bound high).bind fun most =>
          if most < least then .error .malformed else .ok (least, some most)

/-- How greedy a repetition is, by the mark after it. -/
def readGreed : Text → Greed × Text
  | '?' :: rest => (.lazy, rest)
  | '+' :: rest => (.possessive, rest)
  | rest => (.greedy, rest)

/-- Repeats the last item read. -/
def repeatLast? (least : Nat) (most : Option Nat) (back : List Item) (rest : Text) :
    Option (List Item × Text) :=
  match back with
  | [] => none
  | item :: earlier =>
      if !item.repeatable then none
      else
        let (greed, after) := readGreed rest
        some (⟨.many least most greed item.pattern, false⟩ :: earlier, after)

/-! ### Items -/

def literalItem (c : Char) : Item := ⟨.char (.literal c), true⟩

def escapeItem : Escape → Item
  | .code n =>
      ⟨.char (if n.isValidChar then .literal (Char.ofNat n) else .set [.range n n] false), true⟩
  | .category kind negated => ⟨.char (.set [.category kind negated] false), true⟩
  | .anchor place => ⟨.anchor place, false⟩
  | .reread index => ⟨.reread index, true⟩

/-- A group name up to its closing character. -/
def readName? (closing : Char) (t : Text) : Option (Text × Text) :=
  (t.splitAt? closing).filter fun (name, _) => isName name

/-- The text after a comment, whose end is the first parenthesis without a backslash. -/
def skipComment? : Text → Option Text
  | [] => none
  | '\\' :: _ :: rest => skipComment? rest
  | c :: rest => if c == ')' then some rest else skipComment? rest

/-- The text after the comment of a spaced pattern, which ends with its line. -/
def skipLine? : Text → Option Text
  | [] => some []
  | ['\\'] => none
  | '\\' :: _ :: rest => skipLine? rest
  | c :: rest => if c == '\n' then some rest else skipLine? rest

/-- Blanks that a spaced pattern may hold. -/
def isSpacing (c : Char) : Bool :=
  c == ' ' || decide (9 ≤ c.toNat ∧ c.toNat ≤ 13)

/-! ### Switches -/

def flag? : Char → Option Flag
  | 'i' => some .ignoreCase
  | 'm' => some .multiLine
  | 's' => some .dotAll
  | 'x' => some .spaced
  | 'a' => some .ascii
  | 'u' => some .unicode
  | 't' => some .template
  | _ => none

/-- The switches of some letters, and the text after them. -/
def readFlags : Text → List Flag × Text
  | [] => ([], [])
  | c :: rest =>
      match flag? c with
      | none => ([], c :: rest)
      | some flag =>
          let (flags, after) := readFlags rest
          (flag :: flags, after)

/-- Characters are taken as ASCII or not so. -/
def clash (flags : List Flag) : Bool :=
  flags.contains .ascii && flags.contains .unicode

/-- Some switches can be turned on for a part of a pattern, and fewer of them off. -/
def isPartSwitch (on off : List Flag) : Bool :=
  !on.contains .template && off.all fun flag =>
    !([.ascii, .unicode, .template].contains flag) && !on.contains flag

/-- What an opening parenthesis begins. -/
inductive Opening
  | plain
  | capture (name : Option Text)
  | look (back negated : Bool)
  | atomic
  | reread (name : Text)
  | comment
  | condition (name : Text)
  | switchAll (flags : List Flag)
  | switchPart (on off : List Flag)

/-- The switches after a question mark: up to a parenthesis those of the whole pattern, up to a colon those
of a group, of which some may be turned off after a minus sign. -/
def readSwitches? (t : Text) : Option (Opening × Text) :=
  let (on, rest) := readFlags t
  if clash on then none
  else
    match rest with
    | ')' :: after => if on.isEmpty then none else some (.switchAll on, after)
    | ':' :: after => if on.isEmpty || !isPartSwitch on [] then none else some (.switchPart on [], after)
    | '-' :: more =>
        match readFlags more with
        | (off, ':' :: after) =>
            if off.isEmpty || !isPartSwitch on off then none else some (.switchPart on off, after)
        | _ => none
    | _ => none

/-- The kind of a group and the text of its inside; of a comment, a reference or switches of the whole
pattern, the text after. -/
def readOpening? : Text → Option (Opening × Text)
  | '?' :: ':' :: rest => some (.plain, rest)
  | '?' :: '=' :: rest => some (.look false false, rest)
  | '?' :: '!' :: rest => some (.look false true, rest)
  | '?' :: '<' :: '=' :: rest => some (.look true false, rest)
  | '?' :: '<' :: '!' :: rest => some (.look true true, rest)
  | '?' :: '>' :: rest => some (.atomic, rest)
  | '?' :: '#' :: rest => (skipComment? rest).map (.comment, ·)
  | '?' :: '(' :: rest => (Text.splitAt? ')' rest).map fun (name, after) => (.condition name, after)
  | '?' :: 'P' :: '<' :: rest => (readName? '>' rest).map fun (name, after) => (.capture (some name), after)
  | '?' :: 'P' :: '=' :: rest => (readName? ')' rest).map fun (name, after) => (.reread name, after)
  | '?' :: rest => readSwitches? rest
  | rest => some (.capture none, rest)

/-- There are no more groups than this. -/
def groupLimit : Nat := 0x3FFFFFFF

/-- The group that a condition goes by. A number may come before its group. -/
def readCondition? (groups : Groups) (name : Text) : Option (Nat × Groups) :=
  let asked : Option (Nat × Groups) :=
    if isName name then (groups.names.lookup name).map (·, groups)
    else
      match Number.argumentInt? name with
      | some (.ofNat (index + 1)) =>
          if index + 1 < groupLimit then
            some (index + 1, { groups with asked := max groups.asked (index + 1) })
          else none
      | _ => none
  asked.filter fun (index, groups) => groups.isInSight index

/-! ### Sequences -/

/-- What reading a part gives: the part, the groups and the text after it. -/
abbrev Read (α : Type) := Except Refusal (α × Groups × Text)

/-- Reads what stands inside of parentheses up to the closing one. -/
def readEnclosed [Dialect] {α : Type} (inside : Groups → Text → Read α) (groups : Groups) (t : Text) :
    Read α :=
  if groups.around < Dialect.maxNesting then
    (inside { groups with around := groups.around + 1 } t).bind fun (a, after, rest) =>
      match rest with
      | ')' :: rest =>
          .ok (a, { after with around := groups.around, openedBefore := groups.openedBefore }, rest)
      | _ => .error .malformed
  else .error .tooDeep

/-- The item that an opening parenthesis begins; `inside` reads what it is around, `branches` the two ways
of a condition. -/
def readItem [Dialect] (inside : (spaced : Bool) → Groups → Text → Read Pattern)
    (branches : Groups → Text → Read (Pattern × Pattern)) (spaced : Bool) (groups : Groups)
    (opening : Opening) (t : Text) : Read Item :=
  let enclosed := readEnclosed (inside spaced)
  match opening with
  | .plain => (enclosed groups t).map fun (p, groups, rest) => (⟨p, true⟩, groups, rest)
  | .capture name =>
      (required (groups.open? name)).bind fun (index, groups) =>
        (enclosed groups t).map fun (p, groups, rest) =>
          (⟨.group index p, true⟩, groups.close index p, rest)
  | .look false negated =>
      (enclosed groups t).map fun (p, groups, rest) => (⟨.look 0 negated p, true⟩, groups, rest)
  | .look true negated =>
      (readEnclosed (fun groups => inside spaced groups.enterBack) groups t).map fun (p, groups, rest) =>
        let (p, groups) := groups.lookBack negated p
        (⟨p, true⟩, groups, rest)
  | .atomic => (enclosed groups t).map fun (p, groups, rest) => (⟨.atomic p, true⟩, groups, rest)
  | .switchPart on off =>
      let spaced := (spaced || on.contains .spaced) && !off.contains .spaced
      (readEnclosed (inside spaced) groups t).map fun (p, groups, rest) =>
        (⟨.switched on off p, true⟩, groups, rest)
  | .reread name =>
      (required ((groups.names.lookup name).filter groups.isCaptured)).map fun index =>
        (⟨.reread index, true⟩, groups, t)
  | .condition name =>
      (required (readCondition? groups name)).bind fun (index, groups) =>
        (readEnclosed branches groups t).map fun ((yes, no), groups, rest) =>
          (⟨.ifRead index yes no, true⟩, groups, rest)
  | .comment | .switchAll _ => .error .malformed

section

variable [Dialect]

mutual

/-- Alternatives up to the end of the pattern or of the group, of which those read are kept backwards;
`top` says that no group is around. -/
def readChoice (fuel : Nat) (spaced top : Bool) (back : List Pattern) (groups : Groups) (t : Text) :
    Read Pattern :=
  match fuel with
  | 0 => .error .malformed
  | fuel + 1 =>
      (readSeq fuel spaced (top && back.isEmpty) [] groups t).bind fun (last, groups, rest) =>
        match rest with
        | '|' :: after =>
            let spaced := if top then groups.flags.contains .spaced else spaced
            readChoice fuel spaced top (last :: back) groups after
        | _ => .ok (.choice (last :: back).reverse, groups, rest)

/-- The two ways of a condition, of which the second may be left out. -/
def readBranches (fuel : Nat) (spaced : Bool) (groups : Groups) (t : Text) : Read (Pattern × Pattern) :=
  match fuel with
  | 0 => .error .malformed
  | fuel + 1 =>
      (readSeq fuel spaced false [] groups t).bind fun (yes, groups, rest) =>
        match rest with
        | '|' :: after =>
            (readSeq fuel spaced false [] groups after).map fun (no, groups, rest) => ((yes, no), groups, rest)
        | _ => .ok ((yes, .empty), groups, rest)

/-- A sequence of items, of which those read are kept backwards; `first` says that switches for the whole
pattern may stand at its start. -/
def readSeq (fuel : Nat) (spaced first : Bool) (back : List Item) (groups : Groups) (t : Text) :
    Read Pattern :=
  match fuel with
  | 0 => .error .malformed
  | fuel + 1 =>
      let done : Read Pattern := .ok (.ofList (back.reverse.map Item.pattern), groups, t)
      let next (item : Item) (rest : Text) : Read Pattern :=
        readSeq fuel spaced first (item :: back) groups rest
      let repeating (least : Nat) (most : Option Nat) (rest : Text) : Read Pattern :=
        (required (repeatLast? least most back rest)).bind fun (back, after) =>
          readSeq fuel spaced first back groups after
      match t with
      | [] => done
      | '|' :: _ => done
      | ')' :: _ => done
      | c :: rest =>
          if spaced && isSpacing c then readSeq fuel spaced first back groups rest
          else if spaced && c == '#' then
            (required (skipLine? rest)).bind fun after => readSeq fuel spaced first back groups after
          else
            match c with
            | '\\' =>
                (required (readEscape? groups.isCaptured rest)).bind fun (escape, after) =>
                  next (escapeItem escape) after
            | '[' => (required (readCharSet? rest)).bind fun (set, after) => next ⟨.char set, true⟩ after
            | '*' => repeating 0 none rest
            | '+' => repeating 1 none rest
            | '?' => repeating 0 (some 1) rest
            | '\x7b' =>
                match readBounds? rest with
                | none => next (literalItem '\x7b') rest
                -- a backslash that ends the pattern is found before the bounds are looked at
                | some (_, ['\\']) => .error .malformed
                | some ((low, high), after) =>
                    (bounds low high).bind fun (least, most) => repeating least most after
            | '.' => next ⟨.char .any, true⟩ rest
            | '^' => next ⟨.anchor .lineStart, false⟩ rest
            | '$' => next ⟨.anchor .lineEnd, false⟩ rest
            | '(' =>
                (required (readOpening? rest)).bind fun (opening, inside) =>
                  match opening with
                  | .comment => readSeq fuel spaced first back groups inside
                  | .switchAll flags =>
                      let groups := { groups with flags := groups.flags ++ flags }
                      if first && back.isEmpty then
                        readSeq fuel (groups.flags.contains .spaced) first back groups inside
                      else .error .malformed
                  | _ =>
                      (readItem (fun spaced => readChoice fuel spaced false []) (readBranches fuel spaced)
                          spaced groups opening inside).bind fun (item, groups, after) =>
                        readSeq fuel spaced first (item :: back) groups after
            | c => next (literalItem c) rest

end

/-- The pattern that a text spells. What the switches and the groups make of it as a whole is looked at
after its parts: first whether the switches clash. -/
def ofText (t : Text) : Except Refusal Pattern :=
  (readChoice (2 * t.length + 2) false true [] {} t).bind fun (p, groups, rest) =>
    if clash groups.flags then .error (.fault .clashingFlags)
    else if !rest.isEmpty || decide (groups.opened < groups.asked) || groups.uneven
        || (groups.flags.contains .template && p.repeats) then
      .error .malformed
    else if groups.flags.isEmpty then .ok p
    else .ok (.switched groups.flags [] p)

end

end NoteSearch.Pattern
