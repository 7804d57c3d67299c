import Mathlib.Data.List.Dedup
import Mathlib.Data.List.DropRight
import NoteSearch.Proofs.Match.TermSet

/-!
# What a cache keeps

A cache is known by what it was asked for since it was last cleared: it keeps the most recent of the
different signatures, as many as it has room for, in the order in which they were last asked for. Every
request is counted as a hit or as a miss, and what was missed is still kept or was pushed out. All this
holds of the signatures that have a term set; one with a term that breaks the search is missed whenever it
is asked for, and is never kept.
-/

namespace NoteSearch

/-! ### The most recent items of a list -/

section Recent

variable {α : Type}

theorem rtake_of_length_le {items : List α} {n : Nat} (hle : items.length ≤ n) :
    items.rtake n = items := by
  rw [List.rtake, Nat.sub_eq_zero_of_le hle, List.drop_zero]

theorem rtake_append_right {front back : List α} {n : Nat} (h : front = [] ∨ n ≤ back.length) :
    (front ++ back).rtake n = back.rtake n := by
  rcases h with rfl | hle
  · rfl
  · have hdrop : (front ++ back).length - n = front.length + (back.length - n) := by
      rw [List.length_append]
      omega
    rw [List.rtake, hdrop, List.drop_length_add_append, List.rtake]

theorem length_rtake_le (items : List α) (n : Nat) : (items.rtake n).length ≤ n := by
  rw [List.rtake, List.length_drop]
  omega

variable [DecidableEq α]

theorem length_filter_ne {items : List α} (hnodup : items.Nodup) {a : α} (hmem : a ∈ items) :
    (items.filter fun b => b != a).length = items.length - 1 := by
  rw [← hnodup.erase_eq_filter, List.length_erase_of_mem hmem]

/-- The last `n` of the different items of a list, each where it last occurs. -/
def recent (n : Nat) (items : List α) : List α :=
  items.dedup.rtake n

theorem recent_nil (n : Nat) : recent n ([] : List α) = [] := by
  rw [recent, List.dedup_nil, List.rtake_nil]

theorem nodup_recent (n : Nat) (items : List α) : (recent n items).Nodup :=
  (List.nodup_dedup items).sublist (List.drop_sublist _ _)

theorem dedup_append_singleton (items : List α) (a : α) :
    (items ++ [a]).dedup = (items.dedup.filter fun b => b != a) ++ [a] := by
  induction items with
  | nil => rfl
  | cons b items ih =>
      rw [List.cons_append]
      by_cases hmem : b ∈ items
      · rw [List.dedup_cons_of_mem (List.mem_append_left _ hmem), ih, List.dedup_cons_of_mem hmem]
      · rw [List.dedup_cons_of_notMem hmem]
        by_cases hlast : b = a
        · subst hlast
          rw [List.dedup_cons_of_mem (by simp), ih, List.filter_cons_of_neg (by simp)]
        · rw [List.dedup_cons_of_notMem (by simp [hmem, hlast]), ih,
            List.filter_cons_of_pos (by simpa using hlast), List.cons_append]

/-- There are older items than the recent ones only when `n` of those fill the room. -/
theorem exists_dedup_eq_append_recent (n : Nat) (items : List α) :
    ∃ older, items.dedup = older ++ recent n items ∧ List.Disjoint older (recent n items) ∧
      (older = [] ∨ n ≤ (recent n items).length) := by
  refine ⟨items.dedup.take (items.dedup.length - n), (List.take_append_drop _ _).symm,
    List.disjoint_take_drop (List.nodup_dedup items) (Nat.le_refl _), ?_⟩
  by_cases hfull : items.dedup.length ≤ n
  · left
    rw [Nat.sub_eq_zero_of_le hfull, List.take_zero]
  · right
    rw [recent, List.rtake, List.length_drop]
    omega

theorem recent_append_of_mem {n : Nat} {items : List α} {a : α} (hmem : a ∈ recent n items) :
    recent n (items ++ [a]) = ((recent n items).filter fun b => b != a) ++ [a] := by
  obtain ⟨older, hdedup, hdisjoint, hfull⟩ := exists_dedup_eq_append_recent n items
  have hlength := length_filter_ne (nodup_recent n items) hmem
  have hle := length_rtake_le items.dedup n
  rw [← recent] at hle
  have hpos := List.length_pos_of_mem hmem
  have holder : (older.filter fun b => b != a) = older := by
    apply List.filter_eq_self.mpr
    rintro b hb
    have hne : b ≠ a := fun heq => hdisjoint (heq ▸ hb) hmem
    simpa using hne
  -- without `a` the recent items fill the `n - 1` places before it, if there are any older ones
  obtain ⟨n, rfl⟩ : ∃ m, n = m + 1 := ⟨n - 1, by omega⟩
  rw [recent, dedup_append_singleton, List.rtake_concat_succ, hdedup, List.filter_append, holder,
    rtake_append_right (hfull.imp_right fun _ => by omega), rtake_of_length_le (by omega)]

theorem recent_append_of_notMem {n : Nat} {items : List α} {a : α} (hpos : 0 < n)
    (hmem : a ∉ recent n items) : recent n (items ++ [a]) = (recent n items ++ [a]).rtake n := by
  obtain ⟨older, hdedup, _, hfull⟩ := exists_dedup_eq_append_recent n items
  have hrecent : ((recent n items).filter fun b => b != a) = recent n items := by
    apply List.filter_eq_self.mpr
    rintro b hb
    have hne : b ≠ a := fun heq => hmem (heq ▸ hb)
    simpa using hne
  obtain ⟨n, rfl⟩ : ∃ m, n = m + 1 := ⟨n - 1, by omega⟩
  have holder : (older.filter fun b => b != a) = [] ∨ n ≤ (recent (n + 1) items).length := by
    rcases hfull with rfl | hle
    · exact .inl rfl
    · exact .inr (by omega)
  rw [recent, dedup_append_singleton, List.rtake_concat_succ, List.rtake_concat_succ, hdedup,
    List.filter_append, hrecent, rtake_append_right holder]

end Recent

namespace Cache

/-! ### One request

A hit makes the signature the most recent one. A miss adds it and pushes out what there is no more
room for. -/

theorem mem_signatures_iff {cache : Cache} {signature : Signature} :
    signature ∈ cache.signatures ↔ ∃ set, cache.entries.lookup signature = some set := by
  rw [← Option.isSome_iff_exists, List.lookup_isSome_iff, signatures, List.mem_map]
  simp only [beq_iff_eq, @eq_comm _ signature]

section Fetch

variable {cache : Cache} {signature : Signature}

theorem lookup_of_notMem (hmem : signature ∉ cache.signatures) :
    cache.entries.lookup signature = none := by
  rw [Option.eq_none_iff_forall_ne_some]
  exact fun set hset => hmem (mem_signatures_iff.mpr ⟨set, hset⟩)

variable [Pattern.Dialect]

theorem fetch_of_mem (hmem : signature ∈ cache.signatures) :
    (cache.fetch signature).cache.signatures
        = (cache.signatures.filter fun other => other != signature) ++ [signature] ∧
      (cache.fetch signature).cache.hits = cache.hits + 1 ∧
      (cache.fetch signature).cache.misses = cache.misses ∧
      (cache.fetch signature).evicted = [] := by
  obtain ⟨set, hset⟩ := mem_signatures_iff.mp hmem
  rw [fetch, hset]
  refine ⟨?_, rfl, rfl, rfl⟩
  simp only [signatures, List.map_append, List.map_cons, List.map_nil, List.filter_map,
    Function.comp_def]

theorem fetch_of_notMem (hmem : signature ∉ cache.signatures) (hmade : signature.isSearchable) :
    (cache.fetch signature).cache.signatures
        = (cache.signatures ++ [signature]).rtake cache.capacity ∧
      (cache.fetch signature).cache.hits = cache.hits ∧
      (cache.fetch signature).cache.misses = cache.misses + 1 ∧
      (cache.fetch signature).cache.size + (cache.fetch signature).evicted.length
        = cache.size + 1 := by
  cases hset : TermSet.compile signature with
  | error fault =>
      rw [Signature.isSearchable, hset] at hmade
      exact absurd hmade Bool.false_ne_true
  | ok set =>
      rw [fetch, lookup_of_notMem hmem, hset]
      refine ⟨?_, rfl, rfl, ?_⟩
      · simp only [signatures, List.rtake, List.map_drop, List.map_append, List.map_cons, List.map_nil,
          List.length_append, List.length_map, List.length_cons, List.length_nil]
      · simp only [size, List.length_drop, List.length_map, List.length_take, List.length_append,
          List.length_cons, List.length_nil]
        omega

/-- A signature without a term set is missed, and that is all. -/
theorem fetch_of_not_isSearchable (hmem : signature ∉ cache.signatures)
    (hbroken : signature.isSearchable = false) :
    (cache.fetch signature).cache = { cache with misses := cache.misses + 1 } ∧
      (cache.fetch signature).evicted = [] := by
  cases hset : TermSet.compile signature with
  | error fault =>
      rw [fetch, lookup_of_notMem hmem, hset]
      exact ⟨rfl, rfl⟩
  | ok set =>
      rw [Signature.isSearchable, hset] at hbroken
      exact absurd hbroken.symm Bool.false_ne_true

theorem counts_fetch_of_notMem (hmem : signature ∉ cache.signatures) :
    (cache.fetch signature).cache.hits = cache.hits ∧
      (cache.fetch signature).cache.misses = cache.misses + 1 := by
  cases hmade : signature.isSearchable with
  | true =>
      obtain ⟨_, hhits, hmisses, _⟩ := fetch_of_notMem hmem hmade
      exact ⟨hhits, hmisses⟩
  | false =>
      rw [(fetch_of_not_isSearchable hmem hmade).1]
      exact ⟨rfl, rfl⟩

theorem capacity_fetch (cache : Cache) (signature : Signature) :
    (cache.fetch signature).cache.capacity = cache.capacity := by
  rw [fetch]
  split
  · rfl
  · split <;> rfl

end Fetch

theorem size_eq_length_signatures (cache : Cache) : cache.size = cache.signatures.length := by
  rw [size, signatures, List.length_map]

/-! ### Any number of requests -/

inductive Operation
  | fetch (signature : Signature)
  | contains (signature : Signature)
  | size
  | stats
  | clear
  deriving DecidableEq

/-- A cache with what it was asked for and what it pushed out since it was last cleared. -/
structure History where
  cache : Cache
  asked : List Signature := []
  evicted : List Signature := []

namespace History

variable [Pattern.Dialect]

/-- Only asking for a signature and clearing leave a trace. -/
def perform (history : History) : Operation → History
  | .fetch signature =>
      { cache := (history.cache.fetch signature).cache
        asked := history.asked ++ [signature]
        evicted := history.evicted ++ (history.cache.fetch signature).evicted }
  | .clear => { cache := history.cache.clear }
  | .contains _ | .size | .stats => history

/-- The signatures that a cache was asked for and that have a term set. -/
def made (history : History) : List Signature :=
  history.asked.filter Signature.isSearchable

/-- How often a cache was asked for a signature that has none. -/
def broken (history : History) : Nat :=
  history.asked.countP fun signature => !signature.isSearchable

/-- The invariant of a history. -/
structure Kept (history : History) : Prop where
  signatures_eq : history.cache.signatures = recent history.cache.capacity history.made
  counted : history.cache.hits + history.cache.misses = history.asked.length
  accounted : history.cache.size + history.evicted.length + history.broken = history.cache.misses

theorem kept_of_empty {cache : Cache} (hentries : cache.entries = []) (hhits : cache.hits = 0)
    (hmisses : cache.misses = 0) : Kept { cache } where
  signatures_eq := by
    rw [signatures, hentries, made, List.filter_nil, recent_nil, List.map_nil]
  counted := by rw [hhits, hmisses, List.length_nil]
  accounted := by rw [size, hentries, hmisses, broken, List.countP_nil, List.length_nil, List.length_nil]

/-- What is stored has been asked for, and has a term set. -/
theorem Kept.isSearchable_of_mem {history : History} (h : history.Kept) {signature : Signature}
    (hmem : signature ∈ history.cache.signatures) : signature.isSearchable := by
  rw [h.signatures_eq, recent, List.rtake] at hmem
  exact (List.mem_filter.mp (List.mem_dedup.mp (List.mem_of_mem_drop hmem))).2

theorem made_fetch (history : History) {signature : Signature} (hmade : signature.isSearchable) :
    (history.perform (.fetch signature)).made = history.made ++ [signature] ∧
      (history.perform (.fetch signature)).broken = history.broken := by
  constructor
  · rw [made, perform, List.filter_append, List.filter_singleton, hmade]
    rfl
  · rw [broken, perform, List.countP_append, List.countP_singleton, hmade]
    rfl

theorem made_fetch_of_not_isSearchable (history : History) {signature : Signature}
    (hbroken : signature.isSearchable = false) :
    (history.perform (.fetch signature)).made = history.made ∧
      (history.perform (.fetch signature)).broken = history.broken + 1 := by
  constructor
  · rw [made, perform, List.filter_append, List.filter_singleton, hbroken]
    exact List.append_nil _
  · rw [broken, perform, List.countP_append, List.countP_singleton, hbroken]
    rfl

section Step

variable {history : History} (h : history.Kept) {signature : Signature}
include h

/-- A hit moves the signature to the end; none is stored twice, so the size stays the same. -/
theorem Kept.fetch_of_mem (hmem : signature ∈ history.cache.signatures) :
    (history.perform (.fetch signature)).Kept := by
  obtain ⟨hmade, hbroken⟩ := made_fetch history (h.isSearchable_of_mem hmem)
  obtain ⟨hkept, hcounted, haccounted⟩ := h
  obtain ⟨hsignatures, hhits, hmisses, hevicted⟩ := Cache.fetch_of_mem hmem
  have hlength := length_filter_ne (hkept ▸ nodup_recent _ _) hmem
  have hpos := List.length_pos_of_mem hmem
  constructor
  · rw [hmade, perform, capacity_fetch, recent_append_of_mem (hkept ▸ hmem), ← hkept]
    exact hsignatures
  · rw [perform, hhits, hmisses, List.length_append, List.length_singleton]
    omega
  · rw [size_eq_length_signatures] at haccounted
    rw [hbroken]
    simp only [perform, hevicted, List.append_nil, hmisses, size_eq_length_signatures,
      hsignatures, List.length_append, List.length_singleton, hlength]
    omega

theorem Kept.fetch_of_notMem (hmem : signature ∉ history.cache.signatures)
    (hsearchable : signature.isSearchable) : (history.perform (.fetch signature)).Kept := by
  obtain ⟨hkept, hcounted, haccounted⟩ := h
  obtain ⟨hsignatures, hhits, hmisses, hsize⟩ := Cache.fetch_of_notMem hmem hsearchable
  obtain ⟨hmade, hbroken⟩ := made_fetch history hsearchable
  constructor
  · rw [hmade, perform, capacity_fetch,
      recent_append_of_notMem history.cache.capacity_pos (hkept ▸ hmem), ← hkept]
    exact hsignatures
  · rw [perform, hhits, hmisses, List.length_append, List.length_singleton]
    omega
  · rw [hbroken]
    simp only [perform, hmisses, List.length_append]
    omega

theorem Kept.fetch_of_not_isSearchable (hmem : signature ∉ history.cache.signatures)
    (hunsearchable : signature.isSearchable = false) : (history.perform (.fetch signature)).Kept := by
  obtain ⟨hkept, hcounted, haccounted⟩ := h
  obtain ⟨hcache, hevicted⟩ := Cache.fetch_of_not_isSearchable hmem hunsearchable
  obtain ⟨hmade, hbroken⟩ := made_fetch_of_not_isSearchable history hunsearchable
  constructor
  · rw [hmade, perform, hcache]
    exact hkept
  · rw [perform, hcache, List.length_append, List.length_singleton]
    show history.cache.hits + (history.cache.misses + 1) = history.asked.length + 1
    omega
  · rw [hbroken, perform, hcache, hevicted, List.append_nil]
    show history.cache.size + history.evicted.length + (history.broken + 1) = history.cache.misses + 1
    omega

theorem Kept.perform (operation : Operation) : (history.perform operation).Kept := by
  cases operation with
  | fetch signature =>
      by_cases hmem : signature ∈ history.cache.signatures
      · exact h.fetch_of_mem hmem
      · cases hsearchable : signature.isSearchable with
        | true => exact h.fetch_of_notMem hmem hsearchable
        | false => exact h.fetch_of_not_isSearchable hmem hsearchable
  | clear => exact kept_of_empty rfl rfl rfl
  | contains => exact h
  | size => exact h
  | stats => exact h

end Step

theorem capacity_perform (history : History) (operation : Operation) :
    (history.perform operation).cache.capacity = history.cache.capacity := by
  cases operation with
  | fetch signature => exact capacity_fetch _ _
  | clear => rfl
  | contains => rfl
  | size => rfl
  | stats => rfl

theorem kept_foldl_perform {history : History} (h : history.Kept) (operations : List Operation) :
    (operations.foldl perform history).Kept ∧
      (operations.foldl perform history).cache.capacity = history.cache.capacity := by
  induction operations generalizing history with
  | nil => exact ⟨h, rfl⟩
  | cons operation operations ih =>
      obtain ⟨hkept, hcapacity⟩ := ih (h.perform operation)
      exact ⟨hkept, hcapacity.trans (capacity_perform history operation)⟩

end History

theorem create_eq_ok {capacity : Int} (hcapacity : 1 ≤ capacity) :
    ∃ cache, create capacity = .ok cache ∧ cache.capacity = capacity.toNat ∧
      cache.entries = [] ∧ cache.hits = 0 ∧ cache.misses = 0 := by
  have hpos : 0 < capacity.toNat := by omega
  rw [create, dif_pos hpos]
  exact ⟨_, rfl, rfl, rfl, rfl, rfl⟩

section

variable [Pattern.Dialect]

/-- After any operations on a new cache, its signatures are the most recent of those asked for since
the last clearing that have a term set, oldest first. The next request is a hit exactly when it is for
one of them; all requests are counted, and what was missed is kept, was pushed out or has no term set.
When all terms are literals, or none breaks the search otherwise, every signature has one. -/
theorem signatures_eq_recent_asked {capacity : Int} (hcapacity : 1 ≤ capacity)
    (operations : List Operation) :
    ∃ cache, create capacity = .ok cache ∧
      let history := operations.foldl History.perform { cache }
      history.cache.signatures = recent capacity.toNat history.made ∧
        (∀ signature,
          let next := (history.cache.fetch signature).cache
          (history.cache.contains signature
              ↔ signature ∈ recent capacity.toNat history.made) ∧
            (next.hits, next.misses)
              = if signature ∈ recent capacity.toNat history.made
                then (history.cache.hits + 1, history.cache.misses)
                else (history.cache.hits, history.cache.misses + 1)) ∧
        history.cache.hits + history.cache.misses = history.asked.length ∧
        history.cache.size + history.evicted.length + history.broken = history.cache.misses ∧
        history.cache.size ≤ capacity ∧
        ((∀ signature ∈ history.asked, signature.literalTerms ∨ signature.isSearchable) →
          history.made = history.asked ∧ history.broken = 0) := by
  obtain ⟨cache, hcreate, hcreated, hentries, hhits, hmisses⟩ := create_eq_ok hcapacity
  have hempty := History.kept_of_empty hentries hhits hmisses
  obtain ⟨hkept, hroom⟩ := History.kept_foldl_perform hempty operations
  rw [hcreated] at hroom
  refine ⟨cache, hcreate, ?_⟩
  generalize operations.foldl History.perform { cache } = history at hkept hroom
  have hsignatures := hkept.signatures_eq
  rw [hroom] at hsignatures
  refine ⟨hsignatures, fun signature => ⟨?_, ?_⟩, hkept.counted, hkept.accounted, ?_, ?_⟩
  · rw [contains, List.contains_iff_mem, hsignatures]
  · by_cases hmem : signature ∈ history.cache.signatures
    · obtain ⟨_, hhits, hmisses, _⟩ := fetch_of_mem hmem
      rw [if_pos (hsignatures ▸ hmem), hhits, hmisses]
    · obtain ⟨hhits, hmisses⟩ := counts_fetch_of_notMem hmem
      rw [if_neg (hsignatures ▸ hmem), hhits, hmisses]
  · have hle := length_rtake_le history.made.dedup capacity.toNat
    rw [size_eq_length_signatures, hsignatures, recent]
    omega
  · intro hasked
    have hmade : ∀ signature ∈ history.asked, signature.isSearchable := by
      intro signature hmem
      rcases hasked signature hmem with hliteral | hsearchable
      · exact Signature.isSearchable_of_literalTerms hliteral
      · exact hsearchable
    exact ⟨List.filter_eq_self.mpr hmade, List.countP_eq_zero.mpr fun signature hmem => by
      rw [hmade signature hmem, Bool.not_true]
      exact Bool.false_ne_true⟩

end

section

attribute [local instance] Pattern.Dialect.nameless

def wordSignature (word : String) : Signature :=
  ⟨[word.toList], [], false, true⟩

/-- A term that is to be ASCII and not so breaks the search. -/
def clashingSignature : Signature :=
  ⟨["(?a)(?u)x".toList], [], false, false⟩

/-- In a cache for two, `one` is pushed out and asked for again, which pushes out `three`, because
`two` was asked for after it. -/
def comebackOperations : List Operation :=
  [.fetch (wordSignature "one"), .fetch (wordSignature "two"), .fetch (wordSignature "three"),
    .contains (wordSignature "three"), .fetch (wordSignature "two"), .stats,
    .fetch clashingSignature, .fetch (wordSignature "one")]

theorem signatures_eq_recent_asked_comeback :
    (1 : Int) ≤ 2 ∧ ∃ cache, create 2 = .ok cache ∧
      (comebackOperations.foldl History.perform { cache }).cache.signatures
        = [wordSignature "two", wordSignature "one"] := by
  have hcapacity : (1 : Int) ≤ 2 := by decide
  obtain ⟨cache, hcreate, hsignatures, _⟩ := signatures_eq_recent_asked hcapacity comebackOperations
  have hasked : (comebackOperations.foldl History.perform { cache }).asked
      = [wordSignature "one", wordSignature "two", wordSignature "three", wordSignature "two",
          clashingSignature, wordSignature "one"] := rfl
  rw [History.made, hasked] at hsignatures
  exact ⟨hcapacity, cache, hcreate, hsignatures.trans (by decide)⟩

/-- The only request is missed, but nothing is kept and nothing was pushed out. -/
theorem not_forall_signatures_eq_recent_asked :
    ¬∀ (capacity : Int) (operations : List Operation), 1 ≤ capacity →
      ∃ cache, create capacity = .ok cache ∧
        let history := operations.foldl History.perform { cache }
        history.cache.signatures = recent capacity.toNat history.asked ∧
          history.cache.size + history.evicted.length = history.cache.misses := by
  intro hforall
  obtain ⟨cache, hcreate, _, haccounted⟩ := hforall 128 [.fetch clashingSignature] (by decide)
  obtain rfl : default = cache := Except.ok.inj hcreate
  exact absurd haccounted (by decide)

end

end Cache

end NoteSearch
