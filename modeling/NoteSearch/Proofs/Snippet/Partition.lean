import Mathlib.Data.List.Chain
import NoteSearch.Proofs.Snippet.Group

/-!
# Groups as the greedy partition

The groups are the one way to cut a list of matches into consecutive pieces that keep both limits and
of which none could have taken in the first match of the next. A piece reaches from the start of its
first match to the furthest stop of all of them, and it is this furthest stop, not the last one, from
which the gap to the next match is measured. Nothing is asked of the matches: they may be nested, in
any order and longer than a group may become.
-/

namespace NoteSearch

/-- The furthest stop of some matches, none when there are none. -/
def furthestStop? (found : List Match) : Option Int :=
  (found.map Match.stop).max?

theorem furthestStop?_append_singleton {found : List Match} {reach : Int}
    (hreach : furthestStop? found = some reach) (m : Match) :
    furthestStop? (found ++ [m]) = some (max reach m.stop) := by
  rw [furthestStop?, List.max?_eq_some_iff] at hreach ⊢
  obtain ⟨hmem, hle⟩ := hreach
  rw [List.map_append, List.map_singleton]
  constructor
  · rcases Int.le_total reach m.stop with hstop | hstop
    · rw [Int.max_eq_right hstop]
      exact List.mem_append_right _ (List.mem_singleton.mpr rfl)
    · rw [Int.max_eq_left hstop]
      exact List.mem_append_left _ hmem
  · intro stop hstop
    rcases List.mem_append.mp hstop with hold | hnew
    · have := hle stop hold
      omega
    · obtain rfl := List.mem_singleton.mp hnew
      omega

theorem stop_le_of_furthestStop? {found : List Match} {reach : Int}
    (hreach : furthestStop? found = some reach) {m : Match} (hm : m ∈ found) : m.stop ≤ reach :=
  (List.max?_eq_some_iff.mp hreach).2 _ (List.mem_map_of_mem hm)

namespace Group

/-- A group that its members give, each of which was near enough to join those before it. -/
structure Joined (contextWindow maxSpan : Int) (group : Group) : Prop where
  start_eq : group.members.head?.map Match.start = some group.start
  stop_eq : furthestStop? group.members = some group.stop
  span_le : 2 ≤ group.members.length → group.stop - group.start ≤ maxSpan
  gap_le : ∀ before m after reach, group.members = before ++ m :: after →
    furthestStop? before = some reach → m.start - reach ≤ contextWindow

/-- Groups of which none could have taken in the first member of the next. -/
structure Greedy (contextWindow maxSpan : Int) (found : List Match) (groups : List Group) : Prop where
  members_eq : groups.flatMap members = found
  joined : ∀ group ∈ groups, group.Joined contextWindow maxSpan
  refused : groups.IsChain fun group next => ∀ m, next.members.head? = some m →
    contextWindow < m.start - group.stop ∨ maxSpan < max group.stop m.stop - group.start

section

variable {contextWindow maxSpan : Int} {group other current : Group} {m : Match}
  {rest : List Match} {later : List Group}

theorem admits_iff : group.admits contextWindow maxSpan m
    ↔ m.start - group.stop ≤ contextWindow ∧ max group.stop m.stop - group.start ≤ maxSpan :=
  decide_eq_true_iff

theorem not_admits_iff : ¬group.admits contextWindow maxSpan m
    ↔ contextWindow < m.start - group.stop ∨ maxSpan < max group.stop m.stop - group.start := by
  rw [admits_iff]
  omega

namespace Joined

theorem single (m : Match) : (single m).Joined contextWindow maxSpan where
  start_eq := rfl
  stop_eq := rfl
  span_le hlength := absurd hlength (by simp [Group.single])
  gap_le before other after reach hsplit hreach := by
    have hbefore : before = [] := by
      have hlength := congrArg List.length hsplit
      simp only [Group.single, List.length_append, List.length_cons, List.length_nil] at hlength
      exact List.eq_nil_of_length_eq_zero (by omega)
    rw [hbefore] at hreach
    exact absurd hreach (by simp [furthestStop?])

theorem members_ne_nil (h : group.Joined contextWindow maxSpan) : group.members ≠ [] := by
  intro hnil
  have hstart := h.start_eq
  rw [hnil] at hstart
  exact absurd hstart (by simp)

theorem add (h : group.Joined contextWindow maxSpan) (hadmits : group.admits contextWindow maxSpan m) :
    (group.add m).Joined contextWindow maxSpan where
  start_eq := by
    obtain ⟨first, later, hmembers⟩ := List.exists_cons_of_ne_nil h.members_ne_nil
    have hstart := h.start_eq
    rw [hmembers] at hstart
    simpa [Group.add, hmembers] using hstart
  stop_eq := furthestStop?_append_singleton h.stop_eq m
  span_le _ := (admits_iff.mp hadmits).2
  gap_le before last after reach hsplit hreach := by
    rcases List.eq_nil_or_concat after with rfl | ⟨after, final, rfl⟩
    · obtain ⟨hbefore, hlast⟩ := List.append_inj' hsplit rfl
      obtain rfl := List.singleton_inj.mp hlast
      rw [← hbefore, h.stop_eq] at hreach
      obtain rfl := Option.some.inj hreach
      exact (admits_iff.mp hadmits).1
    · have hsplit : group.members ++ [m] = (before ++ last :: after) ++ [final] := by
        simpa [Group.add] using hsplit
      have hold := (List.append_inj' hsplit rfl).1
      exact h.gap_le before last after reach hold hreach

/-- The members give the whole group. -/
theorem eq_of_members_eq (h : group.Joined contextWindow maxSpan)
    (hother : other.Joined contextWindow maxSpan) (hmembers : group.members = other.members) :
    group = other := by
  have hstart := h.start_eq
  have hstop := h.stop_eq
  rw [hmembers, hother.start_eq] at hstart
  rw [hmembers, hother.stop_eq] at hstop
  cases group
  cases other
  simp_all

/-- A joined group would have admitted each of its members after the first. -/
theorem admits_of_members_eq (h : group.Joined contextWindow maxSpan)
    (hcurrent : current.Joined contextWindow maxSpan) {after : List Match}
    (hmembers : group.members = current.members ++ m :: after) :
    current.admits contextWindow maxSpan m := by
  have hgap := h.gap_le current.members m after current.stop hmembers hcurrent.stop_eq
  have hstart : group.start = current.start := by
    obtain ⟨first, others, hfirst⟩ := List.exists_cons_of_ne_nil hcurrent.members_ne_nil
    have hgroup := h.start_eq
    have hhead := hcurrent.start_eq
    rw [hfirst] at hhead
    rw [hmembers, hfirst] at hgroup
    exact Option.some.inj (hgroup.symm.trans hhead)
  have hreach : current.stop ≤ group.stop := by
    obtain ⟨last, hlast, hstop⟩ :=
      List.mem_map.mp (List.max?_eq_some_iff.mp hcurrent.stop_eq).1
    rw [← hstop]
    exact stop_le_of_furthestStop? h.stop_eq (hmembers ▸ List.mem_append_left _ hlast)
  have hstop : m.stop ≤ group.stop :=
    stop_le_of_furthestStop? h.stop_eq
      (hmembers ▸ List.mem_append_right _ List.mem_cons_self)
  have hspan : group.stop - group.start ≤ maxSpan := by
    have hlength := List.length_pos_iff.mpr hcurrent.members_ne_nil
    apply h.span_le
    rw [hmembers, List.length_append, List.length_cons]
    omega
  rw [admits_iff]
  omega

end Joined

/-! ### The fold is greedy -/

theorem exists_gather_eq_cons (contextWindow maxSpan : Int) (current : Group) (rest : List Match) :
    ∃ group later, gather contextWindow maxSpan current rest = group :: later ∧
      ∃ taken, group.members = current.members ++ taken := by
  induction rest generalizing current with
  | nil => exact ⟨current, [], rfl, [], (List.append_nil _).symm⟩
  | cons m rest ih =>
      rw [gather]
      split
      · obtain ⟨group, later, hgather, taken, htaken⟩ := ih (current.add m)
        refine ⟨group, later, hgather, m :: taken, ?_⟩
        rw [htaken, add, List.append_assoc, List.singleton_append]
      · exact ⟨current, _, rfl, [], (List.append_nil _).symm⟩

theorem joined_of_mem_gather (hcurrent : current.Joined contextWindow maxSpan)
    (hgroup : group ∈ gather contextWindow maxSpan current rest) :
    group.Joined contextWindow maxSpan := by
  induction rest generalizing current with
  | nil =>
      obtain rfl := List.mem_singleton.mp hgroup
      exact hcurrent
  | cons m rest ih =>
      rw [gather] at hgroup
      split at hgroup
      · next hadmits => exact ih (hcurrent.add hadmits) hgroup
      · rcases List.mem_cons.mp hgroup with rfl | hgroup
        · exact hcurrent
        · exact ih (.single m) hgroup

theorem isChain_gather (current : Group) (rest : List Match) :
    (gather contextWindow maxSpan current rest).IsChain fun group next =>
      ∀ m, next.members.head? = some m → ¬group.admits contextWindow maxSpan m := by
  induction rest generalizing current with
  | nil => exact .singleton current
  | cons m rest ih =>
      rw [gather]
      split
      · exact ih (current.add m)
      · next hrefused =>
          obtain ⟨group, later, hgather, taken, htaken⟩ :=
            exists_gather_eq_cons contextWindow maxSpan (single m) rest
          have hlater := ih (single m)
          rw [hgather] at hlater ⊢
          refine .cons_cons ?_ hlater
          intro first hfirst
          rw [htaken, single, List.singleton_append, List.head?_cons] at hfirst
          obtain rfl := Option.some.inj hfirst
          exact hrefused

/-! ### Nothing else is -/

theorem Greedy.tail {found : List Match} (h : Greedy contextWindow maxSpan found (group :: later)) :
    Greedy contextWindow maxSpan (later.flatMap members) later where
  members_eq := rfl
  joined next hnext := h.joined next (List.mem_cons_of_mem _ hnext)
  refused := h.refused.tail

/-- Groups that begin with what the open group has taken and are greedy from there on. -/
theorem Greedy.eq_gather {found : List Match}
    (h : Greedy contextWindow maxSpan found (group :: later))
    (hcurrent : current.Joined contextWindow maxSpan) (hfound : found = current.members ++ rest)
    (htaken : current.members <+: group.members) :
    group :: later = gather contextWindow maxSpan current rest := by
  induction rest generalizing found current group later with
  | nil =>
      obtain ⟨taken, htaken⟩ := htaken
      have hsplit := h.members_eq
      rw [hfound, List.flatMap_cons, ← htaken, List.append_assoc, List.append_cancel_left_eq,
        List.append_eq_nil_iff] at hsplit
      obtain ⟨rfl, hrest⟩ := hsplit
      have hlater : later = [] := by
        apply List.eq_nil_iff_forall_not_mem.mpr
        intro next hnext
        have hjoined := h.joined next (List.mem_cons_of_mem _ hnext)
        exact hjoined.members_ne_nil (List.flatMap_eq_nil_iff.mp hrest next hnext)
      have hgroup := h.joined group List.mem_cons_self
      rw [gather, hlater, hgroup.eq_of_members_eq hcurrent (by rw [← htaken, List.append_nil])]
  | cons m rest ih =>
      obtain ⟨taken, htaken⟩ := htaken
      have hsplit := h.members_eq
      rw [hfound, List.flatMap_cons, ← htaken, List.append_assoc, List.append_cancel_left_eq] at hsplit
      have hgroup := h.joined group List.mem_cons_self
      cases taken with
      | nil =>
          -- the group ends here, so the next one begins with the match, and that was refused
          obtain rfl := hgroup.eq_of_members_eq hcurrent (by rw [← htaken, List.append_nil])
          cases later with
          | nil => exact absurd hsplit (by simp)
          | cons next later =>
              have hnext := h.joined next (List.mem_cons_of_mem _ List.mem_cons_self)
              obtain ⟨first, others, hfirst⟩ := List.exists_cons_of_ne_nil hnext.members_ne_nil
              rw [List.nil_append, List.flatMap_cons, hfirst, List.cons_append] at hsplit
              obtain ⟨rfl, hrest⟩ := List.cons.inj hsplit
              have hrefused := (List.isChain_cons_cons.mp h.refused).1 first (by rw [hfirst]; rfl)
              have htail : next :: later = gather contextWindow maxSpan (single first) rest := by
                apply ih h.tail (.single first)
                · rw [List.flatMap_cons, hfirst, List.cons_append, hrest]
                  rfl
                · exact ⟨others, hfirst.symm⟩
              rw [gather, if_neg (not_admits_iff.mpr hrefused), htail]
      | cons other taken =>
          rw [List.cons_append] at hsplit
          obtain ⟨rfl, -⟩ := List.cons.inj hsplit
          have hadmits := hgroup.admits_of_members_eq hcurrent htaken.symm
          have hgrown := ih h (hcurrent.add hadmits)
            (by rw [hfound, add, List.append_assoc, List.singleton_append])
            ⟨taken, by rw [add, List.append_assoc, List.singleton_append, htaken]⟩
          rw [gather, if_pos hadmits, hgrown]

end

end Group

/-- The groups are the greedy partition of the matches, and there is no other. -/
theorem groupNearby_eq_iff_greedy (contextWindow maxSpan : Int) (found : List Match)
    (groups : List Group) :
    groupNearby contextWindow maxSpan found = groups
      ↔ Group.Greedy contextWindow maxSpan found groups := by
  constructor
  · rintro rfl
    refine ⟨flatMap_members_groupNearby contextWindow maxSpan found, ?_, ?_⟩
    · intro group hgroup
      cases found with
      | nil => exact absurd hgroup List.not_mem_nil
      | cons m rest => exact Group.joined_of_mem_gather (.single m) hgroup
    · cases found with
      | nil => exact .nil
      | cons m rest =>
          apply (Group.isChain_gather (.single m) rest).imp
          intro group next hrefused first hfirst
          exact Group.not_admits_iff.mp (hrefused first hfirst)
  · intro h
    cases groups with
    | nil =>
        obtain rfl := h.members_eq
        rfl
    | cons group later =>
        have hgroup := h.joined group List.mem_cons_self
        obtain ⟨first, others, hfirst⟩ := List.exists_cons_of_ne_nil hgroup.members_ne_nil
        have hfound : found = first :: (others ++ later.flatMap Group.members) := by
          rw [← h.members_eq, List.flatMap_cons, hfirst, List.cons_append]
        subst hfound
        exact (h.eq_gather (.single first) rfl ⟨others, hfirst.symm⟩).symm

end NoteSearch
