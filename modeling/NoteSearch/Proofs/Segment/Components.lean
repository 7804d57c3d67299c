import NoteSearch.Proofs.FirstSeen
import NoteSearch.Proofs.Segment.Layout

/-!
# Segments as components of overlapping matches

Highlighted segments meet where no match is cut, so a segment is a component of matches that overlap.
It lists the kinds and terms of the matches that lie in it, each where it first occurs. The order of
the matches decides the order in these lists and nothing else.
-/

namespace NoteSearch

namespace Segment

variable {t : Text} {found : List Match}

theorem ne_nil_of_placed {i : Nat} {s : Segment} (h : (i, s) ∈ placed 0 (renderText t found))
    (hlit : s.highlighted) : t ≠ [] := by
  rintro rfl
  rw [renderText_nil] at h
  obtain ⟨rfl, rfl⟩ := Prod.mk.inj (List.mem_singleton.mp h)
  exact Bool.false_ne_true hlit

theorem exists_cluster_of_placed {i : Nat} {s : Segment} (h : (i, s) ∈ placed 0 (renderText t found))
    (hlit : s.highlighted) :
    ∃ cluster ∈ clusters t found, cluster.start = i ∧ cluster.stop = i + s.text.length ∧
      s = cluster.segment t := by
  have hlaid := laid_renderText found (ne_nil_of_placed h hlit)
  obtain ⟨cluster, hcluster, rfl, rfl⟩ := hlaid.mem_placed_iff.mp ⟨h, hlit⟩
  have hfits := fits_of_mem_clusters cluster hcluster
  refine ⟨cluster, hcluster, rfl, ?_, rfl⟩
  rw [Cluster.length_segment hfits.2]
  omega

/-- A segment begins at a highlighted character when none of the matches is cut there. -/
theorem boundaryAt_iff {p : Nat} (h : HighlightsAt (renderText t found) p) :
    BoundaryAt (renderText t found) p ↔ ∀ c ∈ Clamped.ofMatches t found, ¬c.CutAt p := by
  obtain ⟨i, shown, hshown, hlit, hstart, hstop⟩ := h
  have hlaid := laid_renderText found (ne_nil_of_placed hshown hlit)
  have hclustered := clustered_clusters t found
  constructor
  · rintro ⟨s, hs⟩ c hc hcut
    obtain ⟨cluster, hcluster, hwithin⟩ := hclustered.exists_cluster hc
    obtain ⟨hplaced, _⟩ := hlaid.mem_placed_iff.mpr ⟨cluster, hcluster, rfl, rfl⟩
    have hlength := Cluster.length_segment (fits_of_mem_clusters cluster hcluster).2
    have hapart := placed_apart hplaced hs
    simp only [Clamped.CutAt] at hcut
    omega
  · intro hspared
    obtain ⟨cluster, hcluster, rfl, hend, rfl⟩ := exists_cluster_of_placed hshown hlit
    -- a later place in the cluster would cut one of its matches
    have hbegin : p = cluster.start := by
      apply Nat.le_antisymm _ hstart
      apply Nat.le_of_not_lt
      intro hlt
      obtain ⟨c, hc, hcut⟩ := hclustered.exists_cutAt hcluster hlt (by omega)
      exact hspared c hc hcut
    exact ⟨_, hbegin ▸ hshown⟩

/-- What a segment lists is what the matches in it have, each where it first occurs. -/
theorem lists_of_placed {i : Nat} {s : Segment} (h : (i, s) ∈ placed 0 (renderText t found))
    (hlit : s.highlighted) :
    (s.kinds = ((Clamped.lyingIn (Clamped.ofMatches t found) i (i + s.text.length)).map
        fun c => c.source.kind).eraseDups ∧
      s.terms = ((Clamped.lyingIn (Clamped.ofMatches t found) i (i + s.text.length)).map
        fun c => c.source.term).eraseDups) ∧
      s.kind = s.kinds.head? ∧ s.kinds ≠ [] := by
  obtain ⟨cluster, hcluster, hstart, hstop, hs⟩ := exists_cluster_of_placed h hlit
  have hclustered := clustered_clusters t found
  have hmembers := hclustered.members_eq (Clamped.sorted_ofMatches t found) hcluster
  have hkinds : s.kinds = distinct (cluster.members.map Match.kind) := by rw [hs]; rfl
  have hterms : s.terms = distinct (cluster.members.map Match.term) := by rw [hs]; rfl
  have hkind : s.kind = (cluster.members.map Match.kind).head? := by rw [hs]; rfl
  have hfirst : s.kind = s.kinds.head? := by rw [hkind, hkinds, head?_distinct]
  refine ⟨⟨?_, ?_⟩, hfirst, ?_⟩
  · rw [hkinds, distinct_eq_eraseDups, hmembers, hstart, hstop, List.map_map]
    rfl
  · rw [hterms, distinct_eq_eraseDups, hmembers, hstart, hstop, List.map_map]
    rfl
  · obtain ⟨m, hm⟩ := List.exists_mem_of_ne_nil _ (hclustered.members_ne_nil hcluster)
    have hkind' : m.kind ∈ s.kinds := by
      rw [hkinds, mem_distinct]
      exact List.mem_map_of_mem hm
    exact List.ne_nil_of_mem hkind'

/-! ### Terms of the matches -/

theorem exists_cluster_of_mem_terms {left : Text} {cursor : Nat} {shown : List Cluster} {s : Segment}
    (hs : s ∈ ofClusters left cursor shown) {term : Text} (hterm : term ∈ s.terms) :
    ∃ cluster ∈ shown, ∃ m ∈ cluster.members, m.term = term := by
  have hplain (piece : Text) : term ∉ (plain piece).terms := List.not_mem_nil
  induction shown generalizing left cursor with
  | nil =>
      rw [ofClusters] at hs
      split at hs
      · exact absurd hs List.not_mem_nil
      · obtain rfl := List.mem_singleton.mp hs
        exact absurd hterm (hplain left)
  | cons cluster rest ih =>
      rw [ofClusters] at hs
      rcases List.mem_append.mp hs with hgap | hs
      · split at hgap
        · exact absurd hgap List.not_mem_nil
        · obtain rfl := List.mem_singleton.mp hgap
          exact absurd hterm (hplain _)
      · rcases List.mem_cons.mp hs with rfl | hlater
        · rw [ofCluster, mem_distinct] at hterm
          exact ⟨cluster, List.mem_cons_self, List.mem_map.mp hterm⟩
        · obtain ⟨other, hother, hmember⟩ := ih hlater
          exact ⟨other, List.mem_cons_of_mem _ hother, hmember⟩

/-- The terms that a segment lists are those of matches. -/
theorem exists_match_of_mem_terms {s : Segment} (hs : s ∈ renderText t found) {term : Text}
    (hterm : term ∈ s.terms) : ∃ m ∈ found, m.term = term := by
  by_cases hnone : clusters t found = []
  · rw [renderText_of_clusters_eq_nil hnone] at hs
    obtain rfl := List.mem_singleton.mp hs
    exact absurd hterm List.not_mem_nil
  · rw [renderText_of_clusters_ne_nil hnone] at hs
    obtain ⟨cluster, hcluster, m, hm, rfl⟩ := exists_cluster_of_mem_terms hs hterm
    obtain ⟨part, hsubset, hjoins⟩ := (clustered_clusters t found).exists_joins hcluster
    rw [hjoins.members] at hm
    obtain ⟨c, hc, rfl⟩ := List.mem_map.mp hm
    obtain ⟨source, hsource, hcut⟩ := Clamped.mem_ofMatches.mp (hsubset hc)
    obtain ⟨rfl, -⟩ := Match.clamp?_eq_some_iff.mp hcut
    exact ⟨source, hsource, rfl⟩

/-! ### Any order of the matches -/

/-- The same text shown in the same way, with the same kinds and terms in some order. -/
structure Alike (a b : Segment) : Prop where
  text : a.text = b.text
  highlighted : a.highlighted = b.highlighted
  kinds : ∀ kind, kind ∈ a.kinds ↔ kind ∈ b.kinds
  terms : ∀ term, term ∈ a.terms ↔ term ∈ b.terms

theorem Alike.refl (s : Segment) : Alike s s :=
  ⟨rfl, rfl, fun _ => Iff.rfl, fun _ => Iff.rfl⟩

theorem alike_ofCluster (piece : Text) {a b : Cluster} (h : a.Alike b) :
    Alike (ofCluster piece a) (ofCluster piece b) where
  text := rfl
  highlighted := rfl
  kinds kind := by
    rw [ofCluster, ofCluster, mem_distinct, mem_distinct, (h.members.map _).mem_iff]
  terms term := by
    rw [ofCluster, ofCluster, mem_distinct, mem_distinct, (h.members.map _).mem_iff]

theorem forall₂_ofClusters {first second : List Cluster}
    (h : List.Forall₂ Cluster.Alike first second) (left : Text) (cursor : Nat) :
    List.Forall₂ Alike (ofClusters left cursor first) (ofClusters left cursor second) := by
  induction h generalizing left cursor with
  | nil => exact List.forall₂_same.mpr fun s _ => Alike.refl s
  | @cons a b first second hab _ ih =>
      simp only [ofClusters, hab.start, hab.stop]
      have hlater := List.Forall₂.cons
        (alike_ofCluster ((left.drop (b.start - cursor)).take (b.stop - b.start)) hab)
        (ih ((left.drop (b.start - cursor)).drop (b.stop - b.start)) b.stop)
      split
      · exact hlater
      · exact .cons (Alike.refl _) hlater

theorem forall₂_renderText_of_perm (t : Text) {found found' : List Match} (h : found.Perm found') :
    List.Forall₂ Alike (renderText t found) (renderText t found') := by
  have halike := (clustered_clusters t found).alike_of_perm (clustered_clusters t found')
    (Clamped.ofMatches_perm t h) fun c hc => ((Clamped.sorted_ofMatches t found).fits c hc).1
  rw [renderText, renderText]
  generalize clusters t found = first at halike
  generalize clusters t found' = second at halike
  cases halike with
  | nil => exact .cons (Alike.refl _) .nil
  | cons hfirst hrest => exact forall₂_ofClusters (.cons hfirst hrest) t 0

end Segment

/-- At a highlighted character a segment begins unless some match is cut there. A highlighted segment
lists the distinct kinds and terms of the matches that lie in it, by their original starts, and has the
first of the kinds. Another order of the matches gives the same segments with the same kinds and terms. -/
theorem renderText_components (t : Text) (found : List Match) :
    (∀ p, Segment.HighlightsAt (renderText t found) p →
        (Segment.BoundaryAt (renderText t found) p ↔
          ∀ c ∈ Clamped.ofMatches t found, ¬c.CutAt p)) ∧
      (∀ i s, (i, s) ∈ Segment.placed 0 (renderText t found) → s.highlighted →
        (s.kinds = ((Clamped.lyingIn (Clamped.ofMatches t found) i (i + s.text.length)).map
            fun c => c.source.kind).eraseDups ∧
          s.terms = ((Clamped.lyingIn (Clamped.ofMatches t found) i (i + s.text.length)).map
            fun c => c.source.term).eraseDups) ∧
          s.kind = s.kinds.head? ∧ s.kinds ≠ []) ∧
      ∀ found', found.Perm found' →
        List.Forall₂ Segment.Alike (renderText t found) (renderText t found') :=
  ⟨fun _ hlit => Segment.boundaryAt_iff hlit, fun _ _ hs hlit => Segment.lists_of_placed hs hlit,
    fun _ hperm => Segment.forall₂_renderText_of_perm t hperm⟩

/-- A chain of two matches and a third that only touches it, not by their starts. -/
def touchingMatches : List Match :=
  [⟨5, 9, .field, "fghi".toList⟩, ⟨2, 5, .secondary, "cde".toList⟩, ⟨0, 3, .primary, "abc".toList⟩]

def chainSegment : Segment where
  text := "abcde".toList
  highlighted := true
  kind := some .primary
  kinds := [.primary, .secondary]
  terms := ["abc".toList, "cde".toList]

def touchingSegment : Segment where
  text := "f".toList
  highlighted := true
  kind := some .field
  kinds := [.field]
  terms := ["fghi".toList]

theorem renderText_components_touching :
    (Segment.HighlightsAt (renderText "abcdef".toList touchingMatches) 5 ∧
        (0, chainSegment) ∈ Segment.placed 0 (renderText "abcdef".toList touchingMatches) ∧
        chainSegment.highlighted ∧ touchingMatches.Perm touchingMatches.reverse) ∧
      Segment.BoundaryAt (renderText "abcdef".toList touchingMatches) 5 ∧
      (chainSegment.kinds = ((Clamped.lyingIn (Clamped.ofMatches "abcdef".toList touchingMatches) 0
          5).map fun c => c.source.kind).eraseDups ∧
        chainSegment.kind = chainSegment.kinds.head?) ∧
      List.Forall₂ Segment.Alike (renderText "abcdef".toList touchingMatches)
        (renderText "abcdef".toList touchingMatches.reverse) := by
  have hsorted : Match.sortByStart touchingMatches = touchingMatches.reverse := by
    simp [Match.sortByStart, touchingMatches, List.mergeSort, List.MergeSort.Internal.splitInTwo]
  have hsegments : renderText "abcdef".toList touchingMatches = [chainSegment, touchingSegment] := by
    rw [renderText, clusters, hsorted]
    decide
  have hlit : Segment.HighlightsAt (renderText "abcdef".toList touchingMatches) 5 := by
    rw [hsegments]
    exact ⟨5, touchingSegment, by decide, rfl, by decide, by decide⟩
  have hplaced : (0, chainSegment) ∈ Segment.placed 0 (renderText "abcdef".toList touchingMatches) := by
    rw [hsegments]
    decide
  have hperm := touchingMatches.reverse_perm.symm
  obtain ⟨hboundary, hlists, horder⟩ := renderText_components "abcdef".toList touchingMatches
  obtain ⟨⟨hkinds, _⟩, hkind, _⟩ := hlists 0 chainSegment hplaced rfl
  have hspared : ∀ c ∈ Clamped.ofMatches "abcdef".toList touchingMatches,
      ¬(c.start < 5 ∧ 5 < c.stop) := by
    rw [Clamped.ofMatches, hsorted]
    decide
  exact ⟨⟨hlit, hplaced, rfl, hperm⟩, (hboundary 5 hlit).mpr hspared, ⟨hkinds, hkind⟩,
    horder _ hperm⟩

end NoteSearch
