import NoteSearch.Proofs.Match.Recency

/-!
# Larger caches keep more

What a cache keeps is the end of one list, the different signatures that it was asked for; its capacity
only says how much of that list. So of two caches that are used alike the larger one keeps all that the
smaller one keeps, and in the same order. It never misses what the smaller one has.
-/

namespace NoteSearch

theorem recent_suffix_recent {α : Type} [DecidableEq α] {m n : Nat} (hle : m ≤ n) (items : List α) :
    recent m items <:+ recent n items := by
  have hdrop : items.dedup.length - n ≤ items.dedup.length - m := Nat.sub_le_sub_left hle _
  rw [recent, recent, List.rtake, List.rtake]
  exact List.drop_suffix_drop_left _ hdrop

namespace Cache

section

variable [Pattern.Dialect]

theorem hits_le_hits_fetch (cache : Cache) (signature : Signature) :
    cache.hits ≤ (cache.fetch signature).cache.hits := by
  by_cases hmem : signature ∈ cache.signatures
  · rw [(fetch_of_mem hmem).2.1]
    exact Nat.le_succ _
  · rw [(counts_fetch_of_notMem hmem).1]

namespace History

/-- The invariant of two caches of different capacities that are used alike. -/
structure Nested (small large : History) : Prop where
  kept_small : small.Kept
  kept_large : large.Kept
  capacity_le : small.cache.capacity ≤ large.cache.capacity
  asked_eq : small.asked = large.asked
  hits_le : small.cache.hits ≤ large.cache.hits

namespace Nested

variable {small large : History}

theorem signatures_suffix (h : Nested small large) :
    small.cache.signatures <:+ large.cache.signatures := by
  rw [h.kept_small.signatures_eq, h.kept_large.signatures_eq, made, made, h.asked_eq]
  exact recent_suffix_recent h.capacity_le _

theorem hits_fetch_le (h : Nested small large) (signature : Signature) :
    (small.cache.fetch signature).cache.hits ≤ (large.cache.fetch signature).cache.hits := by
  have hle := h.hits_le
  -- a hit of the smaller cache is one of the larger cache too, a miss may be a hit there
  by_cases hmem : signature ∈ small.cache.signatures
  · obtain ⟨_, hsmall, _⟩ := fetch_of_mem hmem
    obtain ⟨_, hlarge, _⟩ := fetch_of_mem (h.signatures_suffix.subset hmem)
    omega
  · obtain ⟨hsmall, _⟩ := counts_fetch_of_notMem hmem
    have hlarge := large.cache.hits_le_hits_fetch signature
    omega

theorem perform (h : Nested small large) (operation : Operation) :
    Nested (small.perform operation) (large.perform operation) where
  kept_small := h.kept_small.perform operation
  kept_large := h.kept_large.perform operation
  capacity_le := by
    rw [capacity_perform, capacity_perform]
    exact h.capacity_le
  asked_eq := by
    cases operation with
    | fetch signature => exact congrArg (· ++ [signature]) h.asked_eq
    | clear => rfl
    | contains => exact h.asked_eq
    | size => exact h.asked_eq
    | stats => exact h.asked_eq
  hits_le := by
    cases operation with
    | fetch signature => exact h.hits_fetch_le signature
    | clear => exact Nat.le_refl 0
    | contains => exact h.hits_le
    | size => exact h.hits_le
    | stats => exact h.hits_le

theorem foldl_perform (h : Nested small large) (operations : List Operation) :
    Nested (operations.foldl History.perform small) (operations.foldl History.perform large) := by
  induction operations generalizing small large with
  | nil => exact h
  | cons operation operations ih => exact ih (h.perform operation)

end Nested

end History

/-- After any operations a cache keeps, as its most recent signatures and in the same order, all that a
smaller cache keeps after the same operations, and it had a hit at least as often. -/
theorem signatures_suffix_of_capacity_le {m n : Int} (hpos : 1 ≤ m) (hle : m ≤ n)
    (operations : List Operation) :
    ∃ small large, create m = .ok small ∧ create n = .ok large ∧
      let less := (operations.foldl History.perform { cache := small }).cache
      let more := (operations.foldl History.perform { cache := large }).cache
      less.signatures <:+ more.signatures ∧
        (∀ signature, less.contains signature → more.contains signature) ∧
        less.hits ≤ more.hits := by
  obtain ⟨small, hsmall, hm, hentries, hhits, hmisses⟩ := create_eq_ok hpos
  obtain ⟨large, hlarge, hn, hentries', hhits', hmisses'⟩ := create_eq_ok (Int.le_trans hpos hle)
  have hempty : History.Nested { cache := small } { cache := large } :=
    { kept_small := History.kept_of_empty hentries hhits hmisses
      kept_large := History.kept_of_empty hentries' hhits' hmisses'
      capacity_le := by
        rw [hm, hn]
        exact Int.toNat_le_toNat hle
      asked_eq := rfl
      hits_le := by rw [hhits, hhits'] }
  have hnested := hempty.foldl_perform operations
  refine ⟨small, large, hsmall, hlarge, hnested.signatures_suffix, ?_, hnested.hits_le⟩
  intro signature hcontains
  rw [contains, List.contains_iff_mem] at hcontains ⊢
  exact hnested.signatures_suffix.subset hcontains

end

section

attribute [local instance] Pattern.Dialect.nameless

theorem signatures_suffix_of_capacity_le_comeback :
    (1 : Int) ≤ 2 ∧ (2 : Int) ≤ 3 ∧ ∃ small large, create 2 = .ok small ∧ create 3 = .ok large ∧
      let less := (comebackOperations.foldl History.perform { cache := small }).cache
      let more := (comebackOperations.foldl History.perform { cache := large }).cache
      less.signatures <:+ more.signatures ∧ less.hits ≤ more.hits := by
  have hpos : (1 : Int) ≤ 2 := by decide
  have hle : (2 : Int) ≤ 3 := by decide
  obtain ⟨small, large, hsmall, hlarge, hsignatures, _, hhits⟩ :=
    signatures_suffix_of_capacity_le hpos hle comebackOperations
  exact ⟨hpos, hle, small, large, hsmall, hlarge, hsignatures, hhits⟩

end

end Cache

end NoteSearch
