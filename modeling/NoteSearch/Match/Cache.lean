import NoteSearch.Match.TermSet

/-!
# The cache of term sets

Term sets of recent queries are kept, a bounded number of them. Asking for one makes it the most
recent; a new one beyond the bound pushes out the least recent. Looking whether one is there changes
nothing. Where no set can be made the fault is handed on.
-/

namespace NoteSearch

structure Cache where
  capacity : Nat
  /-- Signatures with their sets, the least recently asked for first. -/
  entries : List (Signature × TermSet) := []
  hits : Nat := 0
  misses : Nat := 0
  capacity_pos : 0 < capacity := by decide

namespace Cache

def defaultCapacity : Nat := 128

/-- An empty cache of the default capacity. -/
def default : Cache := { capacity := defaultCapacity }

/-- The message for a capacity that no cache can have. -/
def capacityMessage (capacity : Int) : String :=
  "max_size must be at least 1, got " ++ toString capacity

/-- An empty cache, unless the capacity is below one. -/
def create (capacity : Int) : Except String Cache :=
  if h : 0 < capacity.toNat then .ok { capacity := capacity.toNat, capacity_pos := h }
  else .error (capacityMessage capacity)

def size (cache : Cache) : Nat :=
  cache.entries.length

/-- The stored signatures, the least recently asked for first. -/
def signatures (cache : Cache) : List Signature :=
  cache.entries.map Prod.fst

def contains (cache : Cache) (signature : Signature) : Bool :=
  cache.signatures.contains signature

def clear (cache : Cache) : Cache :=
  { cache with entries := [], hits := 0, misses := 0 }

/-- What asking a cache for a term set gives. -/
structure Fetch where
  set : Except Pattern.Fault TermSet
  cache : Cache
  /-- The signatures pushed out, the least recent first. -/
  evicted : List Signature := []
  /-- Terms passed over while the set was made. -/
  warnings : Nat := 0

/-- The term set of a signature, stored or made now. A set that cannot be made is not stored, though the
cache has missed it. -/
def fetch [Pattern.Dialect] (cache : Cache) (signature : Signature) : Fetch :=
  match cache.entries.lookup signature with
  | some set =>
      let others := cache.entries.filter fun entry => entry.1 != signature
      { set := .ok set
        cache := { cache with entries := others ++ [(signature, set)], hits := cache.hits + 1 } }
  | none =>
      let warnings := TermSet.warnings signature
      match TermSet.compile signature with
      | .error fault =>
          { set := .error fault, cache := { cache with misses := cache.misses + 1 }, warnings }
      | .ok set =>
          let entries := cache.entries ++ [(signature, set)]
          let excess := entries.length - cache.capacity
          { set := .ok set
            cache := { cache with entries := entries.drop excess, misses := cache.misses + 1 }
            evicted := (entries.take excess).map Prod.fst
            warnings }

end Cache

end NoteSearch
