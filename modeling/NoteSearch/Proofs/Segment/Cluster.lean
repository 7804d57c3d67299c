import Mathlib.Data.List.Forall2
import NoteSearch.Proofs.Match.Order
import NoteSearch.Segment

/-!
# The clusters of a list of matches

The matches of a cluster overlap one another without a gap: each boundary inside the cluster would cut
one of them. Clusters hold all matches and follow one another, at most touching. `Clustered` says this
of a list of matches in order and its clusters, and decides the clusters: any order of the matches
gives the same stretches with the same members.
-/

namespace NoteSearch

theorem Match.clamp?_eq_some_iff {length : Nat} {m : Match} {c : Clamped} :
    m.clamp? length = some c ↔
      c = ⟨m.start.toNat, min length m.stop.toNat, m⟩ ∧ m.start.toNat < min length m.stop.toNat := by
  simp only [Match.clamp?, Option.ite_none_right_eq_some, Option.some.injEq]
  constructor
  · rintro ⟨hlt, rfl⟩
    exact ⟨rfl, hlt⟩
  · rintro ⟨rfl, hlt⟩
    exact ⟨hlt, rfl⟩

namespace Clamped

/-- The character at a position belongs to the match. -/
def Holds (c : Clamped) (p : Nat) : Prop :=
  c.start ≤ p ∧ p < c.stop

/-- A boundary at a position would cut the match in two. -/
def CutAt (c : Clamped) (p : Nat) : Prop :=
  c.start < p ∧ p < c.stop

/-- The matches inside a text, cut to it and by their original starts. -/
def ofMatches (t : Text) (found : List Match) : List Clamped :=
  (Match.sortByStart found).filterMap (Match.clamp? t.length)

/-- The matches that lie between two offsets. -/
def lyingIn (cut : List Clamped) (start stop : Nat) : List Clamped :=
  cut.filter fun c => decide (start ≤ c.start ∧ c.stop ≤ stop)

/-- Matches cut to a text, by their starts. -/
structure Sorted (length : Nat) (cut : List Clamped) : Prop where
  fits : ∀ c ∈ cut, c.start < c.stop ∧ c.stop ≤ length
  starts : cut.Pairwise fun a b => a.start ≤ b.start

theorem mem_ofMatches {t : Text} {found : List Match} {c : Clamped} :
    c ∈ ofMatches t found ↔ ∃ m ∈ found, m.clamp? t.length = some c := by
  simp only [ofMatches, List.mem_filterMap, (Match.sortByStart_perm found).mem_iff]

theorem sorted_ofMatches (t : Text) (found : List Match) : Sorted t.length (ofMatches t found) where
  fits c hc := by
    obtain ⟨m, _, hcut⟩ := mem_ofMatches.mp hc
    obtain ⟨rfl, hlt⟩ := Match.clamp?_eq_some_iff.mp hcut
    exact ⟨hlt, Nat.min_le_left _ _⟩
  starts := by
    rw [ofMatches, List.pairwise_filterMap]
    apply (Match.pairwise_sortByStart found).imp
    intro a b hab c hc d hd
    obtain ⟨rfl, _⟩ := Match.clamp?_eq_some_iff.mp hc
    obtain ⟨rfl, _⟩ := Match.clamp?_eq_some_iff.mp hd
    exact Int.toNat_le_toNat hab

theorem lyingIn_append (first second : List Clamped) (start stop : Nat) :
    lyingIn (first ++ second) start stop = lyingIn first start stop ++ lyingIn second start stop :=
  List.filter_append _ _

theorem lyingIn_eq_self {cut : List Clamped} {start stop : Nat}
    (h : ∀ c ∈ cut, start ≤ c.start ∧ c.stop ≤ stop) : lyingIn cut start stop = cut :=
  List.filter_eq_self.mpr fun c hc => decide_eq_true (h c hc)

theorem lyingIn_eq_nil {cut : List Clamped} {start stop : Nat} (hfits : ∀ c ∈ cut, c.start < c.stop)
    (h : ∀ c ∈ cut, c.stop ≤ start ∨ stop ≤ c.start) : lyingIn cut start stop = [] := by
  apply List.filter_eq_nil_iff.mpr
  intro c hc
  have hlength := hfits c hc
  have hapart := h c hc
  rw [decide_eq_true_eq]
  omega

/-- Cutting a match to the text leaves what it holds of the text. -/
theorem exists_holds_iff {t : Text} {found : List Match} {p : Nat} (hp : p < t.length) :
    (∃ c ∈ ofMatches t found, c.Holds p) ↔ ∃ m ∈ found, m.Holds p := by
  constructor
  · rintro ⟨c, hc, hholds⟩
    obtain ⟨m, hm, hcut⟩ := mem_ofMatches.mp hc
    obtain ⟨rfl, _⟩ := Match.clamp?_eq_some_iff.mp hcut
    simp only [Holds] at hholds
    refine ⟨m, hm, ?_⟩
    simp only [Match.Holds]
    omega
  · rintro ⟨m, hm, hholds⟩
    simp only [Match.Holds] at hholds
    have hlt : m.start.toNat < min t.length m.stop.toNat := by omega
    refine ⟨_, mem_ofMatches.mpr ⟨m, hm, Match.clamp?_eq_some_iff.mpr ⟨rfl, hlt⟩⟩, ?_⟩
    simp only [Holds]
    omega

theorem ofMatches_perm (t : Text) {found found' : List Match} (h : found.Perm found') :
    (ofMatches t found).Perm (ofMatches t found') := by
  have hsorted := (Match.sortByStart_perm found).trans (h.trans (Match.sortByStart_perm found').symm)
  exact hsorted.filterMap _

end Clamped

namespace Cluster

/-- A cluster reaches exactly as far as its matches, and no boundary inside it spares them all. -/
structure Joins (cluster : Cluster) (part : List Clamped) : Prop where
  members : cluster.members = part.map Clamped.source
  first : ∃ c ∈ part, c.start = cluster.start
  last : ∃ c ∈ part, c.stop = cluster.stop
  within : ∀ c ∈ part, cluster.start ≤ c.start ∧ c.stop ≤ cluster.stop
  linked : ∀ p, cluster.start < p → p < cluster.stop → ∃ c ∈ part, c.CutAt p

theorem Joins.ne_nil {cluster : Cluster} {part : List Clamped} (h : cluster.Joins part) :
    part ≠ [] := by
  obtain ⟨c, hc, _⟩ := h.first
  exact List.ne_nil_of_mem hc

theorem joins_single (c : Clamped) : (single c).Joins [c] where
  members := rfl
  first := ⟨c, List.mem_singleton.mpr rfl, rfl⟩
  last := ⟨c, List.mem_singleton.mpr rfl, rfl⟩
  within other hother := by
    obtain rfl := List.mem_singleton.mp hother
    exact ⟨Nat.le_refl _, Nat.le_refl _⟩
  linked _ hstart hstop := ⟨c, List.mem_singleton.mpr rfl, hstart, hstop⟩

theorem Joins.add {cluster : Cluster} {part : List Clamped} (h : cluster.Joins part) {c : Clamped}
    (hstart : cluster.start ≤ c.start) (hoverlap : c.start < cluster.stop) :
    (cluster.add c).Joins (part ++ [c]) where
  members := by rw [Cluster.add, h.members, List.map_append, List.map_singleton]
  first := by
    obtain ⟨first, hfirst, heq⟩ := h.first
    exact ⟨first, List.mem_append_left _ hfirst, heq⟩
  last := by
    rcases Nat.le_total cluster.stop c.stop with hle | hle
    · exact ⟨c, List.mem_append_right _ (List.mem_singleton.mpr rfl), (Nat.max_eq_right hle).symm⟩
    · obtain ⟨last, hlast, heq⟩ := h.last
      exact ⟨last, List.mem_append_left _ hlast, heq.trans (Nat.max_eq_left hle).symm⟩
  within other hother := by
    have hstop : (cluster.add c).stop = max cluster.stop c.stop := rfl
    have hsame : (cluster.add c).start = cluster.start := rfl
    rcases List.mem_append.mp hother with hold | hnew
    · have := h.within other hold
      omega
    · obtain rfl := List.mem_singleton.mp hnew
      omega
  linked p hafter hbefore := by
    have hstop : (cluster.add c).stop = max cluster.stop c.stop := rfl
    have hsame : (cluster.add c).start = cluster.start := rfl
    -- a boundary from the old stop on lies in the new match, which begins before it
    by_cases hp : p < cluster.stop
    · obtain ⟨other, hother, hcut⟩ := h.linked p (by omega) hp
      exact ⟨other, List.mem_append_left _ hother, hcut⟩
    · exact ⟨c, List.mem_append_right _ (List.mem_singleton.mpr rfl), by omega, by omega⟩

end Cluster

/-- The clusters of matches in order: each joins the next matches, and those after them start at its
stop or later. -/
inductive Clustered : List Clamped → List Cluster → Prop
  | nil : Clustered [] []
  | cons {part rest : List Clamped} {cluster : Cluster} {clusters : List Cluster}
      (hjoins : cluster.Joins part) (hapart : ∀ c ∈ rest, cluster.stop ≤ c.start)
      (hrest : Clustered rest clusters) : Clustered (part ++ rest) (cluster :: clusters)

theorem clustered_gather {current : Cluster} {part rest : List Clamped} (hjoins : current.Joins part)
    (hstart : ∀ c ∈ rest, current.start ≤ c.start)
    (hsorted : rest.Pairwise fun a b => a.start ≤ b.start) :
    Clustered (part ++ rest) (Cluster.gather current rest) := by
  induction rest generalizing current part with
  | nil => exact .cons hjoins (fun c hc => absurd hc List.not_mem_nil) .nil
  | cons c rest ih =>
      obtain ⟨hfirst, hlater⟩ := List.pairwise_cons.mp hsorted
      rw [Cluster.gather]
      split
      · next hoverlap =>
          have hadd := hjoins.add (hstart c List.mem_cons_self) hoverlap
          have hgather := ih hadd (fun d hd => hstart d (List.mem_cons_of_mem _ hd)) hlater
          rwa [List.append_assoc, List.singleton_append] at hgather
      · next hapart =>
          have hstop : current.stop ≤ c.start := Nat.le_of_not_lt hapart
          refine .cons hjoins ?_ (ih (Cluster.joins_single c) hfirst hlater)
          intro d hd
          rcases List.mem_cons.mp hd with rfl | hd
          · exact hstop
          · exact Nat.le_trans hstop (hfirst d hd)

theorem clustered_clusters (t : Text) (found : List Match) :
    Clustered (Clamped.ofMatches t found) (clusters t found) := by
  have hstarts := (Clamped.sorted_ofMatches t found).starts
  have hclusters : clusters t found = Cluster.ofClamped (Clamped.ofMatches t found) := rfl
  rw [hclusters]
  cases hcut : Clamped.ofMatches t found with
  | nil => exact .nil
  | cons c rest =>
      rw [hcut] at hstarts
      obtain ⟨hfirst, hlater⟩ := List.pairwise_cons.mp hstarts
      exact clustered_gather (Cluster.joins_single c) hfirst hlater

namespace Clustered

variable {length : Nat} {cut cut' : List Clamped} {clusters clusters' : List Cluster}
  {cluster : Cluster}

theorem exists_joins (h : Clustered cut clusters) (hcluster : cluster ∈ clusters) :
    ∃ part, part ⊆ cut ∧ cluster.Joins part := by
  induction h with
  | nil => exact absurd hcluster List.not_mem_nil
  | @cons part rest first clusters hjoins _ _ ih =>
      rcases List.mem_cons.mp hcluster with rfl | hcluster
      · exact ⟨part, List.subset_append_left _ _, hjoins⟩
      · obtain ⟨later, hsubset, hlater⟩ := ih hcluster
        exact ⟨later, List.Subset.trans hsubset (List.subset_append_right _ _), hlater⟩

theorem exists_cluster (h : Clustered cut clusters) {c : Clamped} (hc : c ∈ cut) :
    ∃ cluster ∈ clusters, cluster.start ≤ c.start ∧ c.stop ≤ cluster.stop := by
  induction h with
  | nil => exact absurd hc List.not_mem_nil
  | @cons part rest first clusters hjoins _ _ ih =>
      rcases List.mem_append.mp hc with hc | hc
      · exact ⟨first, List.mem_cons_self, hjoins.within c hc⟩
      · obtain ⟨cluster, hcluster, hwithin⟩ := ih hc
        exact ⟨cluster, List.mem_cons_of_mem _ hcluster, hwithin⟩

theorem exists_cutAt (h : Clustered cut clusters) (hcluster : cluster ∈ clusters) {p : Nat}
    (hstart : cluster.start < p) (hstop : p < cluster.stop) : ∃ c ∈ cut, c.CutAt p := by
  obtain ⟨part, hsubset, hjoins⟩ := h.exists_joins hcluster
  obtain ⟨c, hc, hcut⟩ := hjoins.linked p hstart hstop
  exact ⟨c, hsubset hc, hcut⟩

theorem exists_first (h : Clustered cut clusters) (hcluster : cluster ∈ clusters) :
    ∃ c ∈ cut, c.start = cluster.start ∧ c.stop ≤ cluster.stop := by
  obtain ⟨part, hsubset, hjoins⟩ := h.exists_joins hcluster
  obtain ⟨c, hc, hstart⟩ := hjoins.first
  exact ⟨c, hsubset hc, hstart, (hjoins.within c hc).2⟩

theorem fits (h : Clustered cut clusters) (hsorted : Clamped.Sorted length cut)
    (hcluster : cluster ∈ clusters) : cluster.start < cluster.stop ∧ cluster.stop ≤ length := by
  obtain ⟨part, hsubset, hjoins⟩ := h.exists_joins hcluster
  obtain ⟨last, hlast, hstop⟩ := hjoins.last
  have hfits := hsorted.fits last (hsubset hlast)
  have := (hjoins.within last hlast).1
  omega

/-- What the clusters hold is what the matches hold. -/
theorem exists_holds_iff (h : Clustered cut clusters) (hsorted : Clamped.Sorted length cut) {p : Nat} :
    (∃ cluster ∈ clusters, cluster.start ≤ p ∧ p < cluster.stop) ↔ ∃ c ∈ cut, c.Holds p := by
  constructor
  · rintro ⟨cluster, hcluster, hstart, hstop⟩
    rcases Nat.lt_or_eq_of_le hstart with hlt | rfl
    · obtain ⟨c, hc, hcut⟩ := h.exists_cutAt hcluster hlt hstop
      exact ⟨c, hc, Nat.le_of_lt hcut.1, hcut.2⟩
    · obtain ⟨c, hc, hfirst, _⟩ := h.exists_first hcluster
      have hfits := (hsorted.fits c hc).1
      exact ⟨c, hc, Nat.le_of_eq hfirst, by omega⟩
  · rintro ⟨c, hc, hholds⟩
    obtain ⟨cluster, hcluster, hwithin⟩ := h.exists_cluster hc
    simp only [Clamped.Holds] at hholds
    exact ⟨cluster, hcluster, by omega, by omega⟩

theorem pairwise (h : Clustered cut clusters) : clusters.Pairwise fun a b => a.stop ≤ b.start := by
  induction h with
  | nil => exact .nil
  | cons _ hapart hrest ih =>
      refine List.pairwise_cons.mpr ⟨?_, ih⟩
      intro later hlater
      obtain ⟨c, hc, hstart, _⟩ := hrest.exists_first hlater
      have := hapart c hc
      omega

/-- The members of a cluster are the matches that lie in it, in order. -/
theorem members_eq (h : Clustered cut clusters) (hsorted : Clamped.Sorted length cut)
    (hcluster : cluster ∈ clusters) :
    cluster.members = (Clamped.lyingIn cut cluster.start cluster.stop).map Clamped.source := by
  have hfits : ∀ c ∈ cut, c.start < c.stop := fun c hc => (hsorted.fits c hc).1
  clear hsorted
  induction h with
  | nil => exact absurd hcluster List.not_mem_nil
  | @cons part rest first clusters hjoins hapart hrest ih =>
      have hpart : ∀ c ∈ part, c.start < c.stop := fun c hc => hfits c (List.mem_append_left _ hc)
      have hlater : ∀ c ∈ rest, c.start < c.stop := fun c hc => hfits c (List.mem_append_right _ hc)
      rw [Clamped.lyingIn_append]
      rcases List.mem_cons.mp hcluster with rfl | hcluster
      · rw [Clamped.lyingIn_eq_self hjoins.within,
          Clamped.lyingIn_eq_nil hlater fun c hc => .inr (hapart c hc), List.append_nil,
          hjoins.members]
      · -- the first match of a later cluster starts after all that the first cluster has
        have hbefore : ∀ c ∈ part, c.stop ≤ cluster.start := by
          intro c hc
          obtain ⟨next, hnext, hstart, _⟩ := hrest.exists_first hcluster
          have hstop := hapart next hnext
          have hwithin := (hjoins.within c hc).2
          omega
        rw [Clamped.lyingIn_eq_nil hpart fun c hc => .inl (hbefore c hc), List.nil_append]
        exact ih hcluster hlater

theorem members_ne_nil (h : Clustered cut clusters) (hcluster : cluster ∈ clusters) :
    cluster.members ≠ [] := by
  obtain ⟨part, _, hjoins⟩ := h.exists_joins hcluster
  rw [hjoins.members]
  exact List.map_eq_nil_iff.not.mpr hjoins.ne_nil

end Clustered

/-! ### Any order of the matches -/

/-- The same stretch with the same members in some order. -/
structure Cluster.Alike (a b : Cluster) : Prop where
  start : a.start = b.start
  stop : a.stop = b.stop
  members : a.members.Perm b.members

namespace Cluster

/-- The first cluster of matches in order, and the matches after it. -/
structure Leads (first : Cluster) (part rest : List Clamped) : Prop where
  joins : first.Joins part
  apart : ∀ c ∈ rest, first.stop ≤ c.start
  fits : ∀ c ∈ part ++ rest, c.start < c.stop

namespace Leads

variable {part part' rest rest' : List Clamped} {first first' : Cluster}

theorem start_lt_stop (h : first.Leads part rest) : first.start < first.stop := by
  obtain ⟨head, hhead, hstart⟩ := h.joins.first
  have hlength := h.fits head (List.mem_append_left _ hhead)
  have := (h.joins.within head hhead).2
  omega

theorem start_le (h : first.Leads part rest) : ∀ c ∈ part ++ rest, first.start ≤ c.start := by
  intro c hc
  rcases List.mem_append.mp hc with hpart | hrest
  · exact (h.joins.within c hpart).1
  · have hstop := h.apart c hrest
    have := h.start_lt_stop
    omega

theorem not_cutAt_stop (h : first.Leads part rest) : ∀ c ∈ part ++ rest, ¬c.CutAt first.stop := by
  intro c hc hcut
  simp only [Clamped.CutAt] at hcut
  rcases List.mem_append.mp hc with hpart | hrest
  · have := (h.joins.within c hpart).2
    omega
  · have := h.apart c hrest
    omega

theorem start_le_start (h : first.Leads part rest) (h' : first'.Leads part' rest')
    (hsubset : part' ++ rest' ⊆ part ++ rest) : first.start ≤ first'.start := by
  obtain ⟨head, hhead, hstart⟩ := h'.joins.first
  have := h.start_le head (hsubset (List.mem_append_left _ hhead))
  omega

theorem stop_le_stop (h : first.Leads part rest) (h' : first'.Leads part' rest')
    (hsubset : part' ++ rest' ⊆ part ++ rest) (hstart : first'.start = first.start) :
    first'.stop ≤ first.stop := by
  apply Nat.le_of_not_lt
  intro hlt
  have hinside : first'.start < first.stop := hstart ▸ h.start_lt_stop
  obtain ⟨c, hc, hcut⟩ := h'.joins.linked first.stop hinside hlt
  exact h.not_cutAt_stop c (hsubset (List.mem_append_left _ hc)) hcut

theorem ends_eq_of_perm (h : first.Leads part rest) (h' : first'.Leads part' rest')
    (hperm : (part ++ rest).Perm (part' ++ rest')) :
    first.start = first'.start ∧ first.stop = first'.stop := by
  have hstart : first.start = first'.start :=
    Nat.le_antisymm (h.start_le_start h' hperm.symm.subset) (h'.start_le_start h hperm.subset)
  have hstop := h.stop_le_stop h' hperm.symm.subset hstart.symm
  exact ⟨hstart, Nat.le_antisymm (h'.stop_le_stop h hperm.subset hstart) hstop⟩

/-- The stop of the first cluster divides the matches. -/
theorem filter_stop (h : first.Leads part rest) :
    ((part ++ rest).filter fun c => decide (c.start < first.stop)) = part ∧
      ((part ++ rest).filter fun c => !decide (c.start < first.stop)) = rest := by
  have hpart : ∀ c ∈ part, c.start < first.stop := by
    intro c hc
    have hlength := h.fits c (List.mem_append_left _ hc)
    have := (h.joins.within c hc).2
    omega
  have hrest : ∀ c ∈ rest, ¬c.start < first.stop := fun c hc => Nat.not_lt.mpr (h.apart c hc)
  constructor
  · rw [List.filter_append, List.filter_eq_self.mpr fun c hc => decide_eq_true (hpart c hc),
      List.filter_eq_nil_iff.mpr fun c hc => by simpa using hrest c hc, List.append_nil]
  · rw [List.filter_append, List.filter_eq_nil_iff.mpr fun c hc => by simpa using hpart c hc,
      List.filter_eq_self.mpr fun c hc => by simpa using hrest c hc, List.nil_append]

end Leads

end Cluster

/-- The matches decide their clusters, whatever their order. -/
theorem Clustered.alike_of_perm {cut cut' : List Clamped} {clusters clusters' : List Cluster}
    (h : Clustered cut clusters) (h' : Clustered cut' clusters') (hperm : cut.Perm cut')
    (hfits : ∀ c ∈ cut, c.start < c.stop) : List.Forall₂ Cluster.Alike clusters clusters' := by
  induction h generalizing cut' clusters' with
  | nil =>
      cases h' with
      | nil => exact .nil
      | cons hjoins' _ _ =>
          have hnone := List.append_eq_nil_iff.mp hperm.nil_eq.symm
          exact absurd hnone.1 hjoins'.ne_nil
  | @cons part rest first clusters hjoins hapart hrest ih =>
      cases h' with
      | nil =>
          have hnone := List.append_eq_nil_iff.mp hperm.eq_nil
          exact absurd hnone.1 hjoins.ne_nil
      | @cons part' rest' first' clusters' hjoins' hapart' hrest' =>
          have hleads : first.Leads part rest := ⟨hjoins, hapart, hfits⟩
          have hleads' : first'.Leads part' rest' :=
            ⟨hjoins', hapart', fun c hc => hfits c (hperm.mem_iff.mpr hc)⟩
          obtain ⟨hstart, hstop⟩ := hleads.ends_eq_of_perm hleads' hperm
          -- one stop divides both lists, so what is left of them is in some order the same too
          have hparts := hperm.filter fun c => decide (c.start < first.stop)
          have hrests := hperm.filter fun c => !decide (c.start < first.stop)
          rw [hleads.filter_stop.1, hstop, hleads'.filter_stop.1] at hparts
          rw [hleads.filter_stop.2, hstop, hleads'.filter_stop.2] at hrests
          have hmembers : first.members.Perm first'.members := by
            rw [hjoins.members, hjoins'.members]
            exact hparts.map _
          have hlater : ∀ c ∈ rest, c.start < c.stop :=
            fun c hc => hfits c (List.mem_append_right _ hc)
          exact .cons ⟨hstart, hstop, hmembers⟩ (ih hrest' hrests hlater)

end NoteSearch
