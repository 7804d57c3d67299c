import NoteSearch.Match.Cache
import NoteSearch.Options.Basic

/-!
# Finding the terms of a query

The finder strips the terms it is given and takes their term set from a cache. Blank terms keep their
place in the order, and when all are blank there is nothing to look for and the cache is not asked.
-/

namespace NoteSearch

namespace Signature

/-- The signature of the stripped terms. -/
def ofTerms (terms fieldTerms : List Text) (options : HighlightOptions) : Signature where
  terms := terms.map Text.strip
  fieldTerms := fieldTerms.map Text.strip
  caseSensitive := options.caseSensitive
  literalTerms := options.literalTerms

/-- No term is left to look for. -/
def isBlank (signature : Signature) : Bool :=
  signature.terms.all List.isEmpty && signature.fieldTerms.all List.isEmpty

end Signature

namespace Cache

/-- What looking for terms in a text gives. -/
structure Search where
  found : Except Pattern.Fault (List Match)
  cache : Cache
  evicted : List Signature := []
  warnings : Nat := 0

section

variable [Pattern.Dialect]

/-- The term set of a query's terms. -/
def compile (cache : Cache) (terms fieldTerms : List Text) (options : HighlightOptions) : Fetch :=
  let signature := Signature.ofTerms terms fieldTerms options
  if signature.isBlank then { set := .ok { caseSensitive := signature.caseSensitive }, cache }
  else cache.fetch signature

/-- The matches of a query's terms in a text. Nothing is looked for in an empty text. -/
def find (cache : Cache) (t : Text) (terms fieldTerms : List Text) (options : HighlightOptions) :
    Search :=
  if t.isEmpty then { found := .ok [], cache }
  else
    let fetch := cache.compile terms fieldTerms options
    { found := fetch.set.map fun set => set.find t
      cache := fetch.cache
      evicted := fetch.evicted
      warnings := fetch.warnings }

end

end Cache

/-- The matches of terms in a text, with no cache to share. -/
def findMatches [Pattern.Dialect] (t : Text) (terms fieldTerms : List Text)
    (options : HighlightOptions) : Cache.Search :=
  Cache.find { capacity := 1 } t terms fieldTerms options

end NoteSearch
