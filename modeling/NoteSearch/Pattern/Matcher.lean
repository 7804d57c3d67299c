import NoteSearch.Pattern.Syntax

/-!
# Where a pattern matches

Matching tries the alternatives of a pattern in their order and takes the first way to go on, so a
part of a pattern is a function of what follows it. A repetition runs on as long as it moves: after
the required rounds, a round that starts where the round before it started is not tried, which bounds
the rounds by the length of the text.
-/

namespace NoteSearch

/-- A place in a text: its offset, the text before it, read backwards, and the text after it. -/
structure Place where
  offset : Nat
  before : Text
  rest : Text
  deriving DecidableEq, Repr

namespace Place

def start (t : Text) : Place :=
  ⟨0, [], t⟩

/-- The place one character further on. -/
def step (p : Place) (c : Char) (rest : Text) : Place :=
  ⟨p.offset + 1, c :: p.before, rest⟩

/-- The place some characters before. -/
def back? : (count : Nat) → Place → Option Place
  | 0, p => some p
  | count + 1, ⟨offset, c :: before, rest⟩ => back? count ⟨offset - 1, before, c :: rest⟩
  | _ + 1, ⟨_, [], _⟩ => none

/-- Exactly one side of the place is a word character. -/
def atBoundary (ascii : Bool) (p : Place) : Bool :=
  p.before.head?.any (Category.word.has ascii) != p.rest.head?.any (Category.word.has ascii)

def satisfies (mode : Mode) (p : Place) : Anchor → Bool
  | .textStart => p.before.isEmpty
  | .lineStart => p.before.isEmpty || (mode.multiLine && p.before.head? == some '\n')
  | .lineEnd => p.rest.isEmpty || p.rest == ['\n'] || (mode.multiLine && p.rest.head? == some '\n')
  | .textEnd => p.rest.isEmpty
  | .boundary => p.atBoundary mode.ascii
  | .noBoundary => !p.atBoundary mode.ascii

/-- Reads a given text up to the case of its characters. -/
def read? (same : Char → Char → Bool) (p : Place) : Text → Option Place
  | [] => some p
  | c :: wanted =>
      match p with
      | ⟨offset, before, d :: rest⟩ =>
          if same d c then read? same ⟨offset + 1, d :: before, rest⟩ wanted else none
      | ⟨_, _, []⟩ => none

end Place

namespace Pattern

/-- What a group has read: where it was last gone into, and where it last ended with what text. -/
structure Capture where
  start : Nat
  read : Option (Nat × Text) := none

/-- How far matching has come, and what each group has read. -/
structure State where
  place : Place
  groups : List (Nat × Capture) := []

namespace State

/-- Goes into a group. -/
def enter (s : State) (index : Nat) : State :=
  let read := (s.groups.lookup index).bind Capture.read
  { s with groups := (index, ⟨s.place.offset, read⟩) :: s.groups }

/-- Comes out of a group that was gone into at a place. -/
def leave (s : State) (index : Nat) (entry : Place) : State :=
  let read := entry.rest.take (s.place.offset - entry.offset)
  { s with groups := (index, ⟨entry.offset, some (s.place.offset, read)⟩) :: s.groups }

/-- What a group read, unless it was gone into again further on. -/
def captured? (s : State) (index : Nat) : Option Text :=
  (s.groups.lookup index).bind fun capture =>
    (capture.read.filter fun (stop, _) => decide (capture.start ≤ stop)).map Prod.snd

end State

/-- The rest of a match. -/
abbrev Next := State → Option State

/-- The order and the bounds of a repetition. -/
structure Rounds where
  least : Nat
  most : Option Nat
  lazily : Bool

/-- Whether a further round is allowed after `count` of them. -/
def Rounds.allows (rounds : Rounds) (count : Nat) : Bool :=
  rounds.most.all fun most => decide (count < most)

/-- Repeats `body`, of which `count` rounds are done; the last round beyond the required ones began
at `last`. -/
def repeatFrom (rounds : Rounds) (body : Next → Next) (next : Next) :
    (fuel count : Nat) → (last : Option Nat) → Next
  | 0, _, _, _ => none
  | fuel + 1, count, last, s =>
      if count < rounds.least then body (repeatFrom rounds body next fuel (count + 1) last) s
      else
        let further (_ : Unit) : Option State :=
          if rounds.allows count && last != some s.place.offset then
            body (repeatFrom rounds body next fuel (count + 1) (some s.place.offset)) s
          else none
        if rounds.lazily then (next s).orElse further else (further ()).orElse fun _ => next s

/-- Repeats `body` from the start. Rounds that do not move end the repetition, so the text that is
left bounds their number. -/
def repeated (rounds : Rounds) (body : Next → Next) (next : Next) : Next := fun s =>
  repeatFrom rounds body next (rounds.least + s.place.rest.length + 2) 0 none s

/-- Takes the first way through `body` and no other one. -/
def committed (body : Next → Next) (next : Next) : Next := fun s =>
  match body some s with
  | none => none
  | some after => next after

/-- Matches a pattern and what follows it. -/
def run (mode : Mode) : Pattern → Next → Next
  | .empty, next, s => next s
  | .char set, next, s =>
      match s.place.rest with
      | [] => none
      | c :: rest => if set.has mode c then next { s with place := s.place.step c rest } else none
  | .anchor place, next, s => if s.place.satisfies mode place then next s else none
  | .seq first second, next, s => run mode first (run mode second next) s
  | .either first second, next, s =>
      (run mode first next s).orElse fun _ => run mode second next s
  | .group index inner, next, s =>
      run mode inner (fun after => next (after.leave index s.place)) (s.enter index)
  | .reread index, next, s =>
      match s.captured? index with
      | none => none
      | some wanted =>
          match s.place.read? (fun a b => mode.fold a == mode.fold b) wanted with
          | none => none
          | some place => next { s with place }
  | .many least most greed inner, next, s =>
      match greed with
      | .possessive => committed (repeated ⟨least, most, false⟩ (committed (run mode inner))) next s
      | .greedy => repeated ⟨least, most, false⟩ (run mode inner) next s
      | .lazy => repeated ⟨least, most, true⟩ (run mode inner) next s
  | .look back negated inner, next, s =>
      let found := (s.place.back? back).bind fun place => run mode inner some { s with place }
      match found, negated with
      | some after, false => next { s with groups := after.groups }
      | none, true => next s
      | _, _ => none
  | .ifRead index yes no, next, s =>
      if (s.captured? index).isSome then run mode yes next s else run mode no next s
  | .atomic inner, next, s => committed (run mode inner) next s
  | .switched on off inner, next, s => run (mode.switch on off) inner next s

/-- The length of the first match at a place that reads anything. -/
def lengthAt? (mode : Mode) (p : Pattern) (place : Place) : Option Nat :=
  let accept : Next := fun s => if s.place.offset = place.offset then none else some s
  (run mode p accept ⟨place, []⟩).map fun s => s.place.offset - place.offset

end Pattern

end NoteSearch
