import Mathlib.Data.List.Chain
import NoteSearch.Proofs.Segment.Cluster

/-!
# Where the segments of a text lie

The segments of a text are the text, cut at the ends of its clusters: what a cluster covers is
highlighted, what lies between two clusters or at an end of the text is plain. `Laid` is the run over
the clusters as a relation, from a cursor before which all is done. A segment shows as highlighted
exactly the characters that some match holds.
-/

namespace NoteSearch

namespace Cluster

/-- The segment of a cluster. -/
def segment (t : Text) (cluster : Cluster) : Segment :=
  .ofCluster ((t.drop cluster.start).take (cluster.stop - cluster.start)) cluster

theorem length_segment {t : Text} {cluster : Cluster} (hfits : cluster.stop ≤ t.length) :
    (cluster.segment t).text.length = cluster.stop - cluster.start := by
  rw [segment, Segment.ofCluster, List.length_take, List.length_drop]
  omega

end Cluster

namespace Segment

/-- Segments with the offsets at which they begin. -/
def placed (offset : Nat) : List Segment → List (Nat × Segment)
  | [] => []
  | s :: rest => (offset, s) :: placed (offset + s.text.length) rest

/-- The character at a position is inside a highlighted segment. -/
def HighlightsAt (segments : List Segment) (p : Nat) : Prop :=
  ∃ i s, (i, s) ∈ placed 0 segments ∧ s.highlighted ∧ i ≤ p ∧ p < i + s.text.length

/-- A segment begins at a position. -/
def BoundaryAt (segments : List Segment) (p : Nat) : Prop :=
  ∃ s, (p, s) ∈ placed 0 segments

theorem le_of_mem_placed {offset i : Nat} {segments : List Segment} {s : Segment}
    (h : (i, s) ∈ placed offset segments) : offset ≤ i := by
  induction segments generalizing offset with
  | nil => exact absurd h List.not_mem_nil
  | cons first rest ih =>
      rcases List.mem_cons.mp h with heq | h
      · exact Nat.le_of_eq (congrArg Prod.fst heq).symm
      · exact Nat.le_trans (Nat.le_add_right _ _) (ih h)

/-- Of two segments one is over when the other begins. -/
theorem placed_apart {offset i j : Nat} {segments : List Segment} {a b : Segment}
    (ha : (i, a) ∈ placed offset segments) (hb : (j, b) ∈ placed offset segments) :
    i = j ∨ i + a.text.length ≤ j ∨ j + b.text.length ≤ i := by
  induction segments generalizing offset with
  | nil => exact absurd ha List.not_mem_nil
  | cons first rest ih =>
      rcases List.mem_cons.mp ha with heq | ha <;> rcases List.mem_cons.mp hb with heq' | hb
      · obtain ⟨rfl, rfl⟩ := Prod.mk.inj heq
        obtain ⟨rfl, rfl⟩ := Prod.mk.inj heq'
        exact .inl rfl
      · obtain ⟨rfl, rfl⟩ := Prod.mk.inj heq
        exact .inr (.inl (le_of_mem_placed hb))
      · obtain ⟨rfl, rfl⟩ := Prod.mk.inj heq'
        exact .inr (.inr (le_of_mem_placed ha))
      · exact ih ha hb

/-- The segments of a text from a cursor on, for the clusters that lie there. -/
inductive Laid (t : Text) : Nat → List Cluster → List Segment → Prop
  | done {cursor : Nat} (hend : t.length ≤ cursor) : Laid t cursor [] []
  | tail {cursor : Nat} (hopen : cursor < t.length) : Laid t cursor [] [plain (t.drop cursor)]
  | gap {cursor : Nat} {cluster : Cluster} {clusters : List Cluster} {segments : List Segment}
      (hgap : cursor < cluster.start) (hfits : cluster.start ≤ t.length)
      (hrest : Laid t cluster.start (cluster :: clusters) segments) :
      Laid t cursor (cluster :: clusters)
        (plain ((t.drop cursor).take (cluster.start - cursor)) :: segments)
  | cluster {cluster : Cluster} {clusters : List Cluster} {segments : List Segment}
      (hsome : cluster.start < cluster.stop) (hfits : cluster.stop ≤ t.length)
      (hrest : Laid t cluster.stop clusters segments) :
      Laid t cluster.start (cluster :: clusters) (cluster.segment t :: segments)

theorem drop_drop_sub (t : Text) {i j : Nat} (h : i ≤ j) : (t.drop i).drop (j - i) = t.drop j := by
  rw [List.drop_drop, Nat.add_sub_cancel' h]

theorem laid_ofClusters {t : Text} {cursor : Nat} {clusters : List Cluster}
    (hfits : ∀ cluster ∈ clusters, cluster.start < cluster.stop ∧ cluster.stop ≤ t.length)
    (hapart : clusters.Pairwise fun a b => a.stop ≤ b.start)
    (hcursor : ∀ cluster ∈ clusters, cursor ≤ cluster.start) :
    Laid t cursor clusters (ofClusters (t.drop cursor) cursor clusters) := by
  induction clusters generalizing cursor with
  | nil =>
      rw [ofClusters]
      by_cases hend : t.length ≤ cursor
      · rw [List.drop_eq_nil_of_le hend]
        exact .done hend
      · have hopen : t.drop cursor ≠ [] := List.drop_eq_nil_iff.not.mpr hend
        rw [if_neg (by simpa using hopen)]
        exact .tail (Nat.lt_of_not_le hend)
  | cons cluster rest ih =>
      obtain ⟨hnext, hlater⟩ := List.pairwise_cons.mp hapart
      obtain ⟨hsome, hinside⟩ := hfits cluster List.mem_cons_self
      have hstart := hcursor cluster List.mem_cons_self
      have hrest := ih (fun next hmem => hfits next (List.mem_cons_of_mem _ hmem)) hlater hnext
      -- past a gap, if there is one, the cursor stands where the cluster starts
      have hcluster := Laid.cluster hsome hinside hrest
      simp only [ofClusters]
      rw [drop_drop_sub t hstart, drop_drop_sub t (Nat.le_of_lt hsome)]
      by_cases hgap : cluster.start - cursor = 0
      · obtain rfl : cursor = cluster.start := by omega
        rw [if_pos hgap]
        exact hcluster
      · rw [if_neg hgap]
        exact .gap (by omega) (by omega) hcluster

namespace Laid

variable {t : Text} {cursor : Nat} {clusters : List Cluster} {segments : List Segment}

theorem flatMap_text (h : Laid t cursor clusters segments) :
    segments.flatMap Segment.text = t.drop cursor := by
  induction h with
  | done hend => exact (List.drop_eq_nil_of_le hend).symm
  | tail _ => simp [plain]
  | @gap cursor cluster clusters segments hgap _ _ ih =>
      rw [List.flatMap_cons, ih, ← drop_drop_sub t (Nat.le_of_lt hgap)]
      exact List.take_append_drop _ _
  | @cluster cluster clusters segments hsome _ _ ih =>
      rw [List.flatMap_cons, ih, ← drop_drop_sub t (Nat.le_of_lt hsome)]
      exact List.take_append_drop _ _

theorem text_ne_nil (h : Laid t cursor clusters segments) : ∀ s ∈ segments, s.text ≠ [] := by
  induction h with
  | done => exact fun s hs => absurd hs List.not_mem_nil
  | tail hopen =>
      intro s hs
      obtain rfl := List.mem_singleton.mp hs
      exact List.drop_eq_nil_iff.not.mpr (Nat.not_le.mpr hopen)
  | @gap cursor cluster _ _ hgap hfits _ ih =>
      intro s hs
      rcases List.mem_cons.mp hs with rfl | hs
      · rw [← List.length_pos_iff, plain, List.length_take, List.length_drop]
        omega
      · exact ih s hs
  | cluster hsome hfits _ ih =>
      intro s hs
      rcases List.mem_cons.mp hs with rfl | hs
      · rw [← List.length_pos_iff, Cluster.length_segment hfits]
        omega
      · exact ih s hs

theorem highlighted_of_mem_head? (h : Laid t cursor clusters segments) {cluster : Cluster}
    (hcluster : cluster ∈ clusters.head?) (hcursor : cursor = cluster.start) :
    ∀ s ∈ segments.head?, s.highlighted := by
  cases h with
  | done => exact absurd hcluster (by simp)
  | tail => exact absurd hcluster (by simp)
  | gap hgap =>
      obtain rfl := Option.some.inj hcluster
      exact absurd hgap (Nat.not_lt.mpr (Nat.le_of_eq hcursor.symm))
  | cluster =>
      intro s hs
      obtain rfl := Option.some.inj hs
      rfl

/-- After a gap comes a cluster, so no two plain segments meet. -/
theorem isChain (h : Laid t cursor clusters segments) :
    segments.IsChain fun a b => a.highlighted ∨ b.highlighted := by
  induction h with
  | done => exact .nil
  | tail => exact .singleton _
  | gap _ _ hrest ih =>
      have hnext := hrest.highlighted_of_mem_head? rfl rfl
      exact List.isChain_cons.mpr ⟨fun s hs => .inr (hnext s hs), ih⟩
  | cluster _ _ _ ih => exact List.isChain_cons.mpr ⟨fun _ _ => .inl rfl, ih⟩

/-- The highlighted segments are those of the clusters, each where its cluster starts. -/
theorem mem_placed_iff (h : Laid t cursor clusters segments) {i : Nat} {s : Segment} :
    ((i, s) ∈ placed cursor segments ∧ s.highlighted) ↔
      ∃ cluster ∈ clusters, i = cluster.start ∧ s = cluster.segment t := by
  induction h with
  | done => simp [placed]
  | tail =>
      constructor
      · rintro ⟨hmem, hlit⟩
        obtain ⟨rfl, rfl⟩ := Prod.mk.inj (List.mem_singleton.mp hmem)
        exact absurd hlit Bool.false_ne_true
      · rintro ⟨cluster, hcluster, _⟩
        exact absurd hcluster List.not_mem_nil
  | @gap cursor cluster clusters segments hgap hfits _ ih =>
      have hlength : cursor + ((t.drop cursor).take (cluster.start - cursor)).length
          = cluster.start := by
        rw [List.length_take, List.length_drop]
        omega
      rw [← ih, placed, plain, hlength, List.mem_cons]
      constructor
      · rintro ⟨heq | hmem, hlit⟩
        · obtain ⟨rfl, rfl⟩ := Prod.mk.inj heq
          exact absurd hlit Bool.false_ne_true
        · exact ⟨hmem, hlit⟩
      · rintro ⟨hmem, hlit⟩
        exact ⟨.inr hmem, hlit⟩
  | @cluster cluster clusters segments hsome hfits _ ih =>
      have hlength : cluster.start + (cluster.segment t).text.length = cluster.stop := by
        rw [Cluster.length_segment hfits]
        omega
      rw [placed, hlength, List.mem_cons]
      constructor
      · rintro ⟨heq | hmem, hlit⟩
        · obtain ⟨rfl, rfl⟩ := Prod.mk.inj heq
          exact ⟨cluster, List.mem_cons_self, rfl, rfl⟩
        · obtain ⟨later, hlater, heq⟩ := ih.mp ⟨hmem, hlit⟩
          exact ⟨later, List.mem_cons_of_mem _ hlater, heq⟩
      · rintro ⟨later, hlater, rfl, rfl⟩
        rcases List.mem_cons.mp hlater with rfl | hlater
        · exact ⟨.inl rfl, rfl⟩
        · obtain ⟨hmem, hlit⟩ := ih.mpr ⟨later, hlater, rfl, rfl⟩
          exact ⟨.inr hmem, hlit⟩

theorem highlightsAt_iff (h : Laid t 0 clusters segments)
    (hfits : ∀ cluster ∈ clusters, cluster.start < cluster.stop ∧ cluster.stop ≤ t.length) {p : Nat} :
    HighlightsAt segments p ↔ ∃ cluster ∈ clusters, cluster.start ≤ p ∧ p < cluster.stop := by
  constructor
  · rintro ⟨i, s, hmem, hlit, hstart, hstop⟩
    obtain ⟨cluster, hcluster, rfl, rfl⟩ := h.mem_placed_iff.mp ⟨hmem, hlit⟩
    have hinside := hfits cluster hcluster
    rw [Cluster.length_segment hinside.2] at hstop
    exact ⟨cluster, hcluster, hstart, by omega⟩
  · rintro ⟨cluster, hcluster, hstart, hstop⟩
    obtain ⟨hmem, hlit⟩ := h.mem_placed_iff.mpr ⟨cluster, hcluster, rfl, rfl⟩
    refine ⟨cluster.start, cluster.segment t, hmem, hlit, hstart, ?_⟩
    rw [Cluster.length_segment (hfits cluster hcluster).2]
    omega

end Laid

end Segment

theorem renderText_of_clusters_eq_nil {t : Text} {found : List Match}
    (hnone : clusters t found = []) : renderText t found = [.plain t] := by
  rw [renderText, hnone]

theorem renderText_of_clusters_ne_nil {t : Text} {found : List Match}
    (hsome : clusters t found ≠ []) :
    renderText t found = Segment.ofClusters t 0 (clusters t found) := by
  rw [renderText]
  cases hclusters : clusters t found with
  | nil => exact absurd hclusters hsome
  | cons first rest => rfl

theorem fits_of_mem_clusters {t : Text} {found : List Match} :
    ∀ cluster ∈ clusters t found, cluster.start < cluster.stop ∧ cluster.stop ≤ t.length :=
  fun _ hcluster =>
    (clustered_clusters t found).fits (Clamped.sorted_ofMatches t found) hcluster

theorem laid_renderText {t : Text} (found : List Match) (hsome : t ≠ []) :
    Segment.Laid t 0 (clusters t found) (renderText t found) := by
  by_cases hnone : clusters t found = []
  · rw [renderText_of_clusters_eq_nil hnone, hnone]
    exact .tail (List.length_pos_iff.mpr hsome)
  · rw [renderText_of_clusters_ne_nil hnone]
    exact Segment.laid_ofClusters fits_of_mem_clusters (clustered_clusters t found).pairwise
      fun _ _ => Nat.zero_le _

theorem renderText_nil (found : List Match) : renderText [] found = [.plain []] := by
  apply renderText_of_clusters_eq_nil
  apply List.eq_nil_iff_forall_not_mem.mpr
  intro cluster hcluster
  have hfits := fits_of_mem_clusters cluster hcluster
  rw [List.length_nil] at hfits
  omega

theorem flatMap_text_renderText (t : Text) (found : List Match) :
    (renderText t found).flatMap Segment.text = t := by
  cases t with
  | nil =>
      rw [renderText_nil]
      rfl
  | cons c rest => exact (laid_renderText found (List.cons_ne_nil c rest)).flatMap_text

theorem highlightsAt_renderText_iff {t : Text} (found : List Match) {p : Nat} (hp : p < t.length) :
    Segment.HighlightsAt (renderText t found) p ↔ ∃ m ∈ found, m.Holds p := by
  have hsome : t ≠ [] := List.ne_nil_of_length_pos (Nat.zero_lt_of_lt hp)
  rw [(laid_renderText found hsome).highlightsAt_iff fits_of_mem_clusters,
    (clustered_clusters t found).exists_holds_iff (Clamped.sorted_ofMatches t found),
    Clamped.exists_holds_iff hp]

/-- The segments put together are the text. They highlight exactly what matches hold of it, none is
empty unless the text is, and no two plain ones are adjacent. -/
theorem renderText_layout (t : Text) (found : List Match) :
    (renderText t found).flatMap Segment.text = t ∧
      (∀ p : Nat, p < t.length →
        (Segment.HighlightsAt (renderText t found) p ↔ ∃ m ∈ found, m.Holds p)) ∧
      (t ≠ [] → ∀ s ∈ renderText t found, s.text ≠ []) ∧
      (renderText t found).IsChain fun a b => a.highlighted ∨ b.highlighted := by
  by_cases hempty : t = []
  · subst hempty
    rw [renderText_nil]
    exact ⟨rfl, fun p hp => absurd hp (Nat.not_lt_zero p), fun hsome => absurd rfl hsome,
      .singleton _⟩
  · have hlaid := laid_renderText found hempty
    refine ⟨hlaid.flatMap_text, ?_, fun _ => hlaid.text_ne_nil, hlaid.isChain⟩
    intro p hp
    rw [hlaid.highlightsAt_iff fits_of_mem_clusters,
      (clustered_clusters t found).exists_holds_iff (Clamped.sorted_ofMatches t found),
      Clamped.exists_holds_iff hp]

/-- Matches beyond both ends of a text, one inside another, one that is empty and one inverted. -/
def looseMatches : List Match :=
  [⟨4, 20, .field, "x".toList⟩, ⟨-3, 2, .primary, "y".toList⟩, ⟨1, 2, .secondary, "z".toList⟩,
    ⟨3, 3, .primary, "y".toList⟩, ⟨3, 1, .primary, "y".toList⟩]

theorem renderText_layout_loose :
    (1 < "short".toList.length ∧ "short".toList ≠ []) ∧
      (Segment.HighlightsAt (renderText "short".toList looseMatches) 1 ↔
        ∃ m ∈ looseMatches, m.Holds 1) ∧
      ∀ s ∈ renderText "short".toList looseMatches, s.text ≠ [] := by
  obtain ⟨_, hlit, hsome, _⟩ := renderText_layout "short".toList looseMatches
  exact ⟨⟨by decide, by decide⟩, hlit 1 (by decide), hsome (by decide)⟩

end NoteSearch
