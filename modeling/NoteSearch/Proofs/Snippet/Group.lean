import NoteSearch.Proofs.Match.Order

/-!
# The groups of a list of matches

Folding loses and repeats no match: the members of the groups, one group after the other, are the
matches. A group reaches from the first start to the last stop of its members. Groups keep to the
length that they may have, except where a single match is longer.
-/

namespace NoteSearch

namespace Group

/-- A group reaches exactly as far as its members do. -/
structure Spans (group : Group) : Prop where
  first : ∃ m ∈ group.members, m.start = group.start
  last : ∃ m ∈ group.members, m.stop = group.stop
  within : ∀ m ∈ group.members, group.start ≤ m.start ∧ m.stop ≤ group.stop

theorem spans_single (m : Match) : (single m).Spans where
  first := ⟨m, List.mem_singleton.mpr rfl, rfl⟩
  last := ⟨m, List.mem_singleton.mpr rfl, rfl⟩
  within other hother := by
    obtain rfl := List.mem_singleton.mp hother
    exact ⟨Int.le_refl _, Int.le_refl _⟩

theorem Spans.add {group : Group} (h : group.Spans) {m : Match} (hm : group.start ≤ m.start) :
    (group.add m).Spans where
  first := by
    obtain ⟨first, hfirst, hstart⟩ := h.first
    exact ⟨first, List.mem_append_left _ hfirst, hstart⟩
  last := by
    rcases Int.le_total group.stop m.stop with hle | hle
    · exact ⟨m, List.mem_append_right _ (List.mem_singleton.mpr rfl), (Int.max_eq_right hle).symm⟩
    · obtain ⟨last, hlast, hstop⟩ := h.last
      exact ⟨last, List.mem_append_left _ hlast, hstop.trans (Int.max_eq_left hle).symm⟩
  within other hother := by
    have hstop : (group.add m).stop = max group.stop m.stop := rfl
    have hstart : (group.add m).start = group.start := rfl
    rcases List.mem_append.mp hother with hold | hnew
    · have := h.within other hold
      omega
    · obtain rfl := List.mem_singleton.mp hnew
      omega

theorem flatMap_members_gather (contextWindow maxSpan : Int) (current : Group)
    (rest : List Match) :
    (gather contextWindow maxSpan current rest).flatMap members = current.members ++ rest := by
  induction rest generalizing current with
  | nil => simp only [gather, List.flatMap_cons, List.flatMap_nil]
  | cons m rest ih =>
      rw [gather]
      split
      · rw [ih, add, List.append_assoc, List.singleton_append]
      · rw [List.flatMap_cons, ih, single, List.singleton_append]

theorem spans_of_mem_gather {contextWindow maxSpan : Int} {current : Group} {rest : List Match}
    (hcurrent : current.Spans) (hstart : ∀ m ∈ rest, current.start ≤ m.start)
    (hsorted : rest.Pairwise fun a b => a.start ≤ b.start) {group : Group}
    (hgroup : group ∈ gather contextWindow maxSpan current rest) : group.Spans := by
  induction rest generalizing current with
  | nil =>
      obtain rfl := List.mem_singleton.mp hgroup
      exact hcurrent
  | cons m rest ih =>
      obtain ⟨hfirst, hrest⟩ := List.pairwise_cons.mp hsorted
      have hm := hstart m List.mem_cons_self
      rw [gather] at hgroup
      split at hgroup
      · exact ih (hcurrent.add hm) (fun later hlater => hstart later (List.mem_cons_of_mem _ hlater))
          hrest hgroup
      · rcases List.mem_cons.mp hgroup with rfl | hgroup
        · exact hcurrent
        · exact ih (spans_single m) hfirst hrest hgroup

/-- A group that is longer than allowed has a single member. -/
theorem span_le_of_mem_gather {contextWindow maxSpan : Int} {current : Group} {rest : List Match}
    (hcurrent : current.stop - current.start ≤ maxSpan ∨ ∃ m, current = single m) {group : Group}
    (hgroup : group ∈ gather contextWindow maxSpan current rest) :
    group.stop - group.start ≤ maxSpan ∨ ∃ m, group = single m := by
  induction rest generalizing current with
  | nil =>
      obtain rfl := List.mem_singleton.mp hgroup
      exact hcurrent
  | cons m rest ih =>
      rw [gather] at hgroup
      split at hgroup
      · next hadmits =>
          rw [admits, decide_eq_true_eq] at hadmits
          exact ih (.inl hadmits.2) hgroup
      · rcases List.mem_cons.mp hgroup with rfl | hgroup
        · exact hcurrent
        · exact ih (.inr ⟨m, rfl⟩) hgroup

end Group

theorem flatMap_members_groupNearby (contextWindow maxSpan : Int) (found : List Match) :
    (groupNearby contextWindow maxSpan found).flatMap Group.members = found := by
  cases found with
  | nil => rfl
  | cons m rest => exact Group.flatMap_members_gather contextWindow maxSpan (.single m) rest

theorem spans_of_mem_groupNearby {contextWindow maxSpan : Int} {found : List Match}
    (hsorted : found.Pairwise fun a b => a.start ≤ b.start) {group : Group}
    (hgroup : group ∈ groupNearby contextWindow maxSpan found) : group.Spans := by
  cases found with
  | nil => exact absurd hgroup List.not_mem_nil
  | cons m rest =>
      obtain ⟨hfirst, hrest⟩ := List.pairwise_cons.mp hsorted
      exact Group.spans_of_mem_gather (Group.spans_single m) hfirst hrest hgroup

theorem span_le_of_mem_groupNearby {contextWindow maxSpan : Int} {found : List Match}
    {group : Group} (hgroup : group ∈ groupNearby contextWindow maxSpan found) :
    group.stop - group.start ≤ maxSpan ∨ ∃ m, group = Group.single m := by
  cases found with
  | nil => exact absurd hgroup List.not_mem_nil
  | cons m rest => exact Group.span_le_of_mem_gather (.inr ⟨m, rfl⟩) hgroup

/-- A later group does not start before an earlier one. -/
theorem pairwise_groupNearby (contextWindow maxSpan : Int) {found : List Match}
    (hsorted : found.Pairwise fun a b => a.start ≤ b.start) :
    (groupNearby contextWindow maxSpan found).Pairwise fun a b => a.start ≤ b.start := by
  have hmembers := hsorted
  rw [← flatMap_members_groupNearby contextWindow maxSpan found, List.pairwise_flatMap] at hmembers
  apply hmembers.2.imp_of_mem
  intro a b ha hb hab
  obtain ⟨first, hfirst, hstart⟩ := (spans_of_mem_groupNearby hsorted ha).first
  obtain ⟨first', hfirst', hstart'⟩ := (spans_of_mem_groupNearby hsorted hb).first
  rw [← hstart, ← hstart']
  exact hab first hfirst first' hfirst'

end NoteSearch
