import NoteSearch.FirstSeen
import NoteSearch.Snippet.Basic

/-!
# Segments

A text with matches is shown as plain and highlighted segments that together are the text. Matches are
cut to the text; those that overlap share a segment, which lists every kind and term once. Matches
that only touch stay apart.
-/

namespace NoteSearch

structure Segment where
  text : Text
  highlighted : Bool
  /-- The kind of the first match of a highlighted segment. -/
  kind : Option MatchKind := none
  kinds : List MatchKind := []
  terms : List Text := []
  deriving DecidableEq, Repr

/-- A match cut to the text. -/
structure Clamped where
  start : Nat
  stop : Nat
  source : Match
  deriving DecidableEq, Repr

/-- The part of a match inside a text, unless it is empty. -/
def Match.clamp? (length : Nat) (m : Match) : Option Clamped :=
  let start := m.start.toNat
  let stop := min length m.stop.toNat
  if start < stop then some ⟨start, stop, m⟩ else none

/-- Overlapping matches and the stretch that they cover. -/
structure Cluster where
  start : Nat
  stop : Nat
  members : List Match
  deriving DecidableEq, Repr

namespace Cluster

def single (c : Clamped) : Cluster :=
  ⟨c.start, c.stop, [c.source]⟩

def add (cluster : Cluster) (c : Clamped) : Cluster :=
  { cluster with stop := max cluster.stop c.stop, members := cluster.members ++ [c.source] }

/-- Folds matches into clusters, the first of which is open. -/
def gather (current : Cluster) : List Clamped → List Cluster
  | [] => [current]
  | c :: rest =>
      if c.start < current.stop then gather (current.add c) rest
      else current :: gather (single c) rest

/-- The clusters of matches sorted by start. -/
def ofClamped : List Clamped → List Cluster
  | [] => []
  | c :: rest => gather (single c) rest

end Cluster

namespace Segment

def plain (t : Text) : Segment :=
  { text := t, highlighted := false }

/-- The highlighted segment of a cluster that covers `t`. -/
def ofCluster (t : Text) (cluster : Cluster) : Segment where
  text := t
  highlighted := true
  kind := (cluster.members.map Match.kind).head?
  kinds := distinct (cluster.members.map Match.kind)
  terms := distinct (cluster.members.map Match.term)

/-- The segments of a text of which the part before `cursor` is done, given what is left of it and the
clusters in that. -/
def ofClusters (left : Text) (cursor : Nat) : List Cluster → List Segment
  | [] => if left.isEmpty then [] else [plain left]
  | cluster :: rest =>
      let gap := cluster.start - cursor
      let inside := left.drop gap
      let size := cluster.stop - cluster.start
      let before := if gap = 0 then [] else [plain (left.take gap)]
      before ++ ofCluster (inside.take size) cluster
        :: ofClusters (inside.drop size) cluster.stop rest

end Segment

/-- The clusters of a list of matches in a text. -/
def clusters (t : Text) (found : List Match) : List Cluster :=
  let length := t.length
  Cluster.ofClamped ((Match.sortByStart found).filterMap (Match.clamp? length))

/-- The segments of a text with matches in any order. -/
def renderText (t : Text) (found : List Match) : List Segment :=
  match clusters t found with
  | [] => [.plain t]
  | first :: rest => Segment.ofClusters t 0 (first :: rest)

/-- The segments of a snippet. -/
def renderSnippet (snippet : Snippet) : List Segment :=
  renderText snippet.text snippet.highlights

end NoteSearch
