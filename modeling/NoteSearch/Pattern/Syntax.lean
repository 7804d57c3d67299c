import NoteSearch.Character.Blank
import NoteSearch.Character.CaseClass
import NoteSearch.Character.Digit
import NoteSearch.Character.Upper
import NoteSearch.Character.Word
import NoteSearch.Text.Basic

/-!
# Search patterns

In raw mode a term is a pattern. A pattern reads characters, anchors itself to places in the text,
repeats, chooses, remembers what a group read, looks ahead and back, and goes one of two ways by what a
group read. How its characters and anchors are taken is the mode, which a pattern can switch for all or
for a part of itself.
-/

namespace NoteSearch

/-! ### Modes -/

inductive Flag
  | ignoreCase
  | multiLine
  | dotAll
  | spaced
  | ascii
  | unicode
  | template
  deriving DecidableEq, Repr

/-- How a pattern takes characters and anchors. -/
structure Mode where
  caseSensitive : Bool
  /-- Anchors to the ends of the text hold at the ends of its lines. -/
  multiLine : Bool := false
  /-- The dot accepts a line feed. -/
  dotAll : Bool := false
  /-- Only ASCII characters belong to a category or have case. -/
  ascii : Bool := false
  deriving DecidableEq, Repr

namespace Mode

def turn (value : Bool) (mode : Mode) : Flag → Mode
  | .ignoreCase => { mode with caseSensitive := !value }
  | .multiLine => { mode with multiLine := value }
  | .dotAll => { mode with dotAll := value }
  | .ascii => { mode with ascii := value }
  | .unicode => { mode with ascii := !value }
  | .spaced | .template => mode

/-- The mode after some switches are turned on and others off. -/
def switch (on off : List Flag) (mode : Mode) : Mode :=
  off.foldl (turn false) (on.foldl (turn true) mode)

/-- The form by which characters are compared. -/
def fold (mode : Mode) (c : Char) : Char :=
  if mode.caseSensitive then c else if mode.ascii then c.toLower else lowerChar c

def same (mode : Mode) (a b : Char) : Bool :=
  if mode.ascii then mode.fold a == mode.fold b else sameChar mode.caseSensitive a b

/-- The characters beside itself that a character may stand for. -/
def variants (mode : Mode) (c : Char) : List Char :=
  if mode.caseSensitive then [] else if mode.ascii then [c.toLower, c.toUpper] else caseVariants c

end Mode

/-! ### Characters -/

/-- The named sets of characters. -/
inductive Category
  | digit
  | blank
  | word
  deriving DecidableEq, Repr

def Category.has (ascii : Bool) : Category → Char → Bool
  | .digit, c => if ascii then c.isDigit else isDecimal c
  | .blank, c => if ascii then decide (c.toNat = 32 ∨ (9 ≤ c.toNat ∧ c.toNat ≤ 13)) else isBlank c
  | .word, c => if ascii then c.isAlphanum || c == '_' else isWord c

/-- A member of a character set in brackets. -/
inductive SetItem
  | literal (c : Char)
  | range (low high : Nat)
  | category (kind : Category) (negated : Bool)
  deriving DecidableEq, Repr

/-- Whether a member of a set stands for the character. When case does not count, a character beyond
sixteen bits stands for those whose lower-case form it is, so an upper-case one stands for none; and a
range that goes beyond sixteen bits stands also for those whose upper-case form begins in it. -/
def SetItem.has (mode : Mode) (c : Char) : SetItem → Bool
  | .literal d =>
      if !mode.caseSensitive && decide (0xFFFF < d.toNat) then mode.fold c == d else mode.same c d
  | .range low high =>
      let inside (d : Char) : Bool := decide (low ≤ d.toNat ∧ d.toNat ≤ high)
      inside c || (mode.variants c).any inside
        || (!mode.caseSensitive && decide (0xFFFF < high) && (upperForm (mode.fold c)).head?.any inside)
  | .category kind negated => kind.has mode.ascii (mode.fold c) != negated

/-- What one position of a pattern reads. -/
inductive CharSet
  | literal (c : Char)
  | other (c : Char)
  | any
  | set (items : List SetItem) (negated : Bool)
  deriving DecidableEq, Repr

def CharSet.has (mode : Mode) (c : Char) : CharSet → Bool
  | .literal d => mode.same c d
  | .other d => !mode.same c d
  | .any => mode.dotAll || c != '\n'
  | .set items negated => (items.any (SetItem.has mode c)) != negated

/-- The set of some members, each of which counts once; a character alone is no set. -/
def CharSet.ofItems (items : List SetItem) (negated : Bool) : CharSet :=
  match items.eraseDups with
  | [.literal c] => if negated then .other c else .literal c
  | items => .set items negated

/-- The members of what a position accepts, unless it is a negation or the dot. -/
def CharSet.items? : CharSet → Option (List SetItem)
  | .literal c => some [.literal c]
  | .set items false => some items
  | _ => none

/-! ### Patterns -/

/-- Places that a pattern can require without reading. -/
inductive Anchor
  | textStart
  | lineStart
  | lineEnd
  | textEnd
  | boundary
  | noBoundary
  deriving DecidableEq, Repr

/-- In which order the numbers of repetitions are tried, and whether only the first is. -/
inductive Greed
  | greedy
  | lazy
  | possessive
  deriving DecidableEq, Repr

inductive Pattern
  | empty
  | char (set : CharSet)
  | anchor (place : Anchor)
  | seq (first second : Pattern)
  | either (first second : Pattern)
  | group (index : Nat) (inner : Pattern)
  | reread (index : Nat)
  | many (least : Nat) (most : Option Nat) (greed : Greed) (inner : Pattern)
  /-- What stands, or does not stand, from `back` characters before a place on. -/
  | look (back : Nat) (negated : Bool) (inner : Pattern)
  /-- One of two patterns, the first when the group has read something. -/
  | ifRead (index : Nat) (yes no : Pattern)
  | atomic (inner : Pattern)
  | switched (on off : List Flag) (inner : Pattern)
  deriving DecidableEq, Repr

namespace Pattern

def ofList : List Pattern → Pattern
  | [] => .empty
  | p :: rest => .seq p (ofList rest)

def toList : Pattern → List Pattern
  | .empty => []
  | .seq first second => first.toList ++ second.toList
  | p => [p]

/-- Whether a pattern reads a character, a place or what a group read. -/
def isSimple : Pattern → Bool
  | .char _ => true
  | .anchor _ => true
  | .reread _ => true
  | _ => false

/-- The members of the set that a pattern of one position is. -/
def items? : List Pattern → Option (List SetItem)
  | [.char set] => set.items?
  | _ => none

/-- What all alternatives begin with. -/
def sharedStart : List Pattern → List (List Pattern) → List Pattern
  | [], _ => []
  | p :: rest, others =>
      if p.isSimple && others.all (fun other => other.head? == some p) then
        p :: sharedStart rest (others.map (List.drop 1))
      else []

/-- The first of some alternatives that matches. -/
def eitherOf : List Pattern → Pattern
  | [] => .empty
  | [p] => p
  | p :: rest => .either p (eitherOf rest)

/-- A choice of alternatives. What all begin with is read first; if one character is left of each, they
make a set. -/
def choice : List Pattern → Pattern
  | [] => .empty
  | [p] => p
  | first :: others =>
      let start := sharedStart first.toList (others.map toList)
      let rests := (first :: others).map fun p => p.toList.drop start.length
      let rest :=
        match rests.mapM items? with
        | some sets => .char (.set sets.flatten.eraseDups false)
        | none => eitherOf (rests.map ofList)
      ofList (start ++ [rest])

/-- Whether any part of a pattern is repeated. -/
def repeats : Pattern → Bool
  | .empty | .char _ | .anchor _ | .reread _ => false
  | .seq first second | .either first second | .ifRead _ first second => first.repeats || second.repeats
  | .group _ inner | .look _ _ inner | .atomic inner | .switched _ _ inner => inner.repeats
  | .many _ _ _ _ => true

end Pattern

/-! ### Widths -/

/-- How many characters a pattern reads, at least and at most. -/
structure Width where
  least : Nat := 0
  most : Nat := 0
  deriving DecidableEq, Repr

namespace Width

/-- Greater widths are not told apart. -/
def limit : Nat := 0x10000000000000000

def add (first second : Width) : Width :=
  ⟨min (first.least + second.least) limit, min (first.most + second.most) limit⟩

def either (first second : Width) : Width :=
  ⟨min first.least second.least, max first.most second.most⟩

def times (width : Width) (least : Nat) (most : Option Nat) : Width :=
  let upper := match most with
    | some most => width.most * most
    | none => if width.most = 0 then 0 else limit
  ⟨min (width.least * least) limit, min upper limit⟩

end Width

/-- The width of a pattern, from the widths of the groups. -/
def Pattern.width (groups : Nat → Width) : Pattern → Width
  | .empty | .anchor _ | .look _ _ _ => {}
  | .char _ => ⟨1, 1⟩
  | .seq first second => (first.width groups).add (second.width groups)
  | .either yes no | .ifRead _ yes no => (yes.width groups).either (no.width groups)
  | .group _ inner | .atomic inner | .switched _ _ inner => inner.width groups
  | .reread index => groups index
  | .many least most _ inner => (inner.width groups).times least most

end NoteSearch
