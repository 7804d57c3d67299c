import NoteSearch.Batch
import NoteSearch.Proofs.Match.Recency

/-!
# A cache changes no result

A signature holds all that its term set is made from. So it does not matter whether a set was kept from
an earlier request, made again after it was pushed out, or made past the cache because every term is
blank: finders and batches answer as they would with a cache that was never used.
-/

namespace NoteSearch

namespace TermSet

theorem find_nil (set : TermSet) : set.find [] = [] := by
  have hnothing : set.slots.flatMap (slotMatches set.caseSensitive []) = [] :=
    List.flatMap_eq_nil_iff.mpr fun _ _ => rfl
  rw [find, hnothing, Match.sortByStart, List.mergeSort_nil]

end TermSet

namespace Batch

/-- What a query looks for where the values of the given fields count. -/
def fieldSet [Pattern.Dialect] (query : Query) (options : HighlightOptions) (fields : List Text) :
    Except Pattern.Fault TermSet :=
  TermSet.compile (.ofTerms query.allTerms (query.fieldValues fields) options)

/-- What the term sets of a query give. -/
def resultOf (body title : TermSet) (query : Query) (options : HighlightOptions) (notes : List Note) :
    BatchResult where
  entries := entries body title options notes
  queryTerms := query.allTerms
  operators := query.operators
  totalMatches := totalMatches body notes

end Batch

namespace Cache

section

variable [Pattern.Dialect]

/-- Every stored term set is the one that its signature is compiled to. -/
def Sound (cache : Cache) : Prop :=
  ∀ entry ∈ cache.entries, TermSet.compile entry.1 = .ok entry.2

theorem sound_of_entries_eq_nil {cache : Cache} (hentries : cache.entries = []) : cache.Sound := by
  intro entry hentry
  rw [hentries] at hentry
  exact absurd hentry List.not_mem_nil

namespace Sound

variable {cache other : Cache}

theorem set_fetch (h : cache.Sound) (signature : Signature) :
    (cache.fetch signature).set = TermSet.compile signature := by
  rw [fetch]
  cases hset : cache.entries.lookup signature with
  | none =>
      cases TermSet.compile signature with
      | error fault => rfl
      | ok set => rfl
  | some set =>
      obtain ⟨before, after, hentries, -⟩ := List.lookup_eq_some_iff.mp hset
      exact (h (signature, set) (hentries ▸ List.mem_append_right before List.mem_cons_self)).symm

theorem fetch (h : cache.Sound) (signature : Signature) : (cache.fetch signature).cache.Sound := by
  have hset := h.set_fetch signature
  intro entry hentry
  rw [Cache.fetch] at hset hentry
  cases hlookup : cache.entries.lookup signature with
  | none =>
      simp only [hlookup] at hentry
      cases hmade : TermSet.compile signature with
      | error fault =>
          simp only [hmade] at hentry
          exact h entry hentry
      | ok set =>
          simp only [hmade] at hentry
          rcases List.mem_append.mp (List.mem_of_mem_drop hentry) with hold | hnew
          · exact h entry hold
          · obtain rfl := List.mem_singleton.mp hnew
            exact hmade
  | some set =>
      simp only [hlookup] at hset hentry
      rcases List.mem_append.mp hentry with hold | hnew
      · exact h entry (List.mem_filter.mp hold).1
      · obtain rfl := List.mem_singleton.mp hnew
        exact hset.symm

/-- The path past the cache gives what the cache would give. -/
theorem set_compile (h : cache.Sound) (terms fieldTerms : List Text) (options : HighlightOptions) :
    (cache.compile terms fieldTerms options).set
      = TermSet.compile (Signature.ofTerms terms fieldTerms options) := by
  rw [compile]
  split
  · next hblank => exact (TermSet.compile_of_isBlank hblank).symm
  · exact h.set_fetch _

theorem compile (h : cache.Sound) (terms fieldTerms : List Text) (options : HighlightOptions) :
    (cache.compile terms fieldTerms options).cache.Sound := by
  rw [Cache.compile]
  split
  · exact h
  · exact h.fetch _

theorem found_find (h : cache.Sound) (t : Text) (terms fieldTerms : List Text)
    (options : HighlightOptions) :
    (cache.find t terms fieldTerms options).found
      = if t.isEmpty then .ok []
        else (TermSet.compile (Signature.ofTerms terms fieldTerms options)).map (·.find t) := by
  rw [find]
  split
  · rfl
  · exact congrArg (Except.map (·.find t)) (h.set_compile terms fieldTerms options)

theorem found_find_of_compile (h : cache.Sound) (t : Text) {terms fieldTerms : List Text}
    {options : HighlightOptions} {set : TermSet}
    (hset : TermSet.compile (Signature.ofTerms terms fieldTerms options) = .ok set) :
    (cache.find t terms fieldTerms options).found = .ok (set.find t) := by
  rw [h.found_find, hset]
  split
  · next hempty => rw [List.isEmpty_iff.mp hempty, TermSet.find_nil]
  · rfl

theorem find (h : cache.Sound) (t : Text) (terms fieldTerms : List Text) (options : HighlightOptions) :
    (cache.find t terms fieldTerms options).cache.Sound := by
  rw [Cache.find]
  split
  · exact h
  · exact h.compile terms fieldTerms options

theorem run (h : cache.Sound) (notes : List Note) (query : Text) (options : HighlightOptions) :
    (Batch.run cache notes query options).cache.Sound := by
  rw [Batch.run]
  split
  · exact h.compile _ _ options
  · exact (h.compile _ _ options).compile _ _ options

/-- The sets of a batch do not hang on the cache that they are taken from. -/
theorem result_run (h : cache.Sound) (notes : List Note) (query : Text) (options : HighlightOptions) :
    (Batch.run cache notes query options).result
      = (Batch.fieldSet (.parse query) options Batch.bodyFields).bind fun body =>
          (Batch.fieldSet (.parse query) options Batch.titleFields).map fun title =>
            Batch.resultOf body title (.parse query) options notes := by
  have hbody := h.set_compile (Query.parse query).allTerms
    ((Query.parse query).fieldValues Batch.bodyFields) options
  have htitle := (h.compile (Query.parse query).allTerms
    ((Query.parse query).fieldValues Batch.bodyFields) options).set_compile (Query.parse query).allTerms
    ((Query.parse query).fieldValues Batch.titleFields) options
  rw [← Batch.fieldSet] at hbody htitle
  rw [Batch.run, hbody]
  cases Batch.fieldSet (.parse query) options Batch.bodyFields with
  | error fault => rfl
  | ok body =>
      rw [← htitle]
      rfl

end Sound

/-! ### A cache in use -/

/-- What can be done with a finder and a batch processor that share a cache. -/
inductive Use
  | operation (operation : Operation)
  | compile (terms fieldTerms : List Text) (options : HighlightOptions)
  | find (t : Text) (terms fieldTerms : List Text) (options : HighlightOptions)
  | process (notes : List Note) (query : Text) (options : HighlightOptions)

def after (cache : Cache) : Use → Cache
  | .operation operation => (History.perform { cache } operation).cache
  | .compile terms fieldTerms options => (cache.compile terms fieldTerms options).cache
  | .find t terms fieldTerms options => (cache.find t terms fieldTerms options).cache
  | .process notes query options => (Batch.run cache notes query options).cache

theorem Sound.after {cache : Cache} (h : cache.Sound) (use : Use) : (cache.after use).Sound := by
  cases use with
  | operation operation =>
      cases operation with
      | fetch signature => exact h.fetch signature
      | clear => exact sound_of_entries_eq_nil rfl
      | contains => exact h
      | size => exact h
      | stats => exact h
  | compile terms fieldTerms options => exact h.compile terms fieldTerms options
  | find t terms fieldTerms options => exact h.find t terms fieldTerms options
  | process notes query options => exact h.run notes query options

theorem Sound.foldl_after {cache : Cache} (h : cache.Sound) (uses : List Use) :
    (uses.foldl Cache.after cache).Sound := by
  induction uses generalizing cache with
  | nil => exact h
  | cons use uses ih => exact ih (h.after use)

theorem sound_of_create {capacity : Int} {cache : Cache} (hcreate : create capacity = .ok cache) :
    cache.Sound := by
  apply sound_of_entries_eq_nil
  rw [create] at hcreate
  split at hcreate
  · obtain rfl := Except.ok.inj hcreate
    rfl
  · exact absurd hcreate (by simp)

end

section

attribute [local instance] Pattern.Dialect.nameless

/-- Uses that push out one another's term sets: a word looked for as it is by default and with its
case, as a pattern in a batch, and a blank term, which asks for nothing. -/
def crowdedUses (plain cased raw : HighlightOptions) : List Use :=
  [.find "One one".toList ["one".toList] [] plain,
    .compile ["one".toList] [] cased,
    .process [{ id := .number 1, content := "no one".toList }] "one title:o".toList raw,
    .compile [" ".toList] [] plain]

end

end Cache

end NoteSearch
