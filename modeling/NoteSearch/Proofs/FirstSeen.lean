import Mathlib.Data.List.Induction
import NoteSearch.FirstSeen

/-!
# Distinct items

Listing each item where it first occurs is erasing every later duplicate. An association list that is
filled item by item has the distinct keys, and for each of them the value of the last item that has it.
-/

namespace NoteSearch

section Distinct

variable {α : Type} [BEq α]

theorem distinctFrom_eq_eraseDups (seen items : List α) :
    distinctFrom seen items = (items.filter fun a => !seen.contains a).eraseDups := by
  induction items generalizing seen with
  | nil => rfl
  | cons a rest ih =>
      rw [distinctFrom]
      by_cases hseen : seen.contains a
      · rw [if_pos hseen, ih, List.filter_cons_of_neg (by simpa using hseen)]
      · have hlater : (rest.filter fun b => !(a :: seen).contains b)
            = (rest.filter fun b => !seen.contains b).filter fun b => !b == a := by
          rw [List.filter_filter]
          apply List.filter_congr
          intro b _
          rw [List.contains_cons, Bool.not_or]
        rw [if_neg hseen, ih, List.filter_cons_of_pos (by simpa using hseen), List.eraseDups_cons,
          hlater]

theorem distinct_eq_eraseDups (items : List α) : distinct items = items.eraseDups := by
  have hall : (items.filter fun a => !([] : List α).contains a) = items :=
    List.filter_eq_self.mpr fun _ _ => rfl
  rw [distinct, distinctFrom_eq_eraseDups, hall]

theorem head?_distinct (items : List α) : (distinct items).head? = items.head? := by
  rw [distinct_eq_eraseDups]
  cases items with
  | nil => rfl
  | cons a rest => rw [List.eraseDups_cons, List.head?_cons, List.head?_cons]

theorem mem_distinct [LawfulBEq α] {a : α} {items : List α} : a ∈ distinct items ↔ a ∈ items := by
  rw [distinct_eq_eraseDups, List.mem_eraseDups]

end Distinct

/-! ### Association lists -/

section Assign

variable {α β κ : Type} [BEq κ] [LawfulBEq κ]

theorem map_fst_assign (key : κ) (value : β) (done : List (κ × β)) :
    (assign key value done).map Prod.fst
      = if key ∈ done.map Prod.fst then done.map Prod.fst else done.map Prod.fst ++ [key] := by
  induction done with
  | nil => rfl
  | cons entry rest ih =>
      obtain ⟨other, old⟩ := entry
      rw [assign]
      by_cases hkey : other == key
      · obtain rfl := eq_of_beq hkey
        rw [if_pos hkey, List.map_cons, List.map_cons, if_pos List.mem_cons_self]
      · have hother : key ≠ other := fun heq => hkey (beq_iff_eq.mpr heq.symm)
        rw [if_neg hkey, List.map_cons, ih, List.map_cons]
        by_cases hmem : key ∈ rest.map Prod.fst
        · rw [if_pos hmem, if_pos (List.mem_cons_of_mem _ hmem)]
        · rw [if_neg hmem, if_neg (List.not_mem_cons_of_ne_of_not_mem hother hmem), List.cons_append]

theorem lookup_assign (key k : κ) (value : β) (done : List (κ × β)) :
    (assign key value done).lookup k = if k == key then some value else done.lookup k := by
  induction done with
  | nil =>
      rw [assign, List.lookup_cons]
      cases k == key <;> rfl
  | cons entry rest ih =>
      obtain ⟨other, old⟩ := entry
      rw [assign]
      by_cases hkey : other == key
      · rw [if_pos hkey, List.lookup_cons, List.lookup_cons, eq_of_beq hkey]
        cases k == key <;> rfl
      · rw [if_neg hkey, List.lookup_cons, List.lookup_cons, ih]
        cases hother : k == other with
        | false => rfl
        | true =>
            obtain rfl := eq_of_beq hother
            exact (if_neg hkey).symm

theorem eraseDups_concat (items : List κ) (a : κ) :
    (items ++ [a]).eraseDups
      = if a ∈ items.eraseDups then items.eraseDups else items.eraseDups ++ [a] := by
  have hsingle : [a].eraseDups = [a] := List.eraseDups_cons
  rw [List.eraseDups_append, List.removeAll]
  by_cases hmem : a ∈ items
  · rw [if_pos (List.mem_eraseDups.mpr hmem), List.filter_cons_of_neg (by simpa using hmem),
      List.filter_nil, List.eraseDups_nil, List.append_nil]
  · rw [if_neg (List.mem_eraseDups.not.mpr hmem), List.filter_cons_of_pos (by simpa using hmem),
      List.filter_nil, hsingle]

theorem eraseDups_of_nodup {items : List κ} (h : items.Nodup) : items.eraseDups = items := by
  induction items using List.reverseRecOn with
  | nil => rfl
  | append_singleton items a ih =>
      obtain ⟨hitems, -, hapart⟩ := List.nodup_append.mp h
      have hnew : a ∉ items := fun hmem => hapart a hmem a (List.mem_singleton_self a) rfl
      rw [eraseDups_concat, ih hitems, if_neg hnew]

theorem nodup_eraseDups (items : List κ) : items.eraseDups.Nodup := by
  induction items using List.reverseRecOn with
  | nil => exact List.nodup_nil
  | append_singleton items a ih =>
      rw [eraseDups_concat]
      split
      case isTrue => exact ih
      case isFalse hnew =>
        refine List.nodup_append.mpr ⟨ih, by simp, fun b hb c hc heq => hnew ?_⟩
        rwa [← List.mem_singleton.mp hc, ← heq]

theorem filter_eraseDups (p : κ → Bool) (items : List κ) :
    items.eraseDups.filter p = (items.filter p).eraseDups := by
  induction items using List.reverseRecOn with
  | nil => rfl
  | append_singleton items a ih =>
      rw [eraseDups_concat, List.filter_append]
      cases hp : p a with
      | false =>
          have hdropped : [a].filter p = [] := List.filter_cons_of_neg (by simp [hp])
          rw [hdropped, List.append_nil, ← ih]
          split
          · rfl
          · rw [List.filter_append, hdropped, List.append_nil]
      | true =>
          have hkept : [a].filter p = [a] := List.filter_cons_of_pos hp
          have hmem : a ∈ (items.filter p).eraseDups ↔ a ∈ items.eraseDups := by
            rw [List.mem_eraseDups, List.mem_eraseDups, List.mem_filter]
            exact and_iff_left hp
          rw [hkept, eraseDups_concat, ← ih]
          by_cases hseen : a ∈ items.eraseDups
          · rw [if_pos hseen, if_pos (ih ▸ hmem.mpr hseen)]
          · rw [if_neg hseen, if_neg (ih ▸ hmem.not.mpr hseen), List.filter_append, hkept]

theorem map_fst_foldl_assign (key : α → κ) (value : α → β) (items : List α) :
    (items.foldl (fun done a => assign (key a) (value a) done) []).map Prod.fst
      = (items.map key).eraseDups := by
  induction items using List.reverseRecOn with
  | nil => rfl
  | append_singleton items a ih =>
      rw [List.foldl_append, List.foldl_cons, List.foldl_nil, map_fst_assign, ih, List.map_append,
        List.map_cons, List.map_nil, eraseDups_concat]

/-- Of the items with one key the last one counts. -/
theorem lookup_foldl_assign (key : α → κ) (value : α → β) (items : List α) (k : κ) :
    (items.foldl (fun done a => assign (key a) (value a) done) []).lookup k
      = (items.findRev? fun a => k == key a).map value := by
  rw [List.findRev?_eq_find?_reverse]
  induction items using List.reverseRecOn with
  | nil => rfl
  | append_singleton items a ih =>
      rw [List.foldl_append, List.foldl_cons, List.foldl_nil, lookup_assign, List.reverse_append,
        List.reverse_singleton, List.singleton_append, List.find?_cons, ih]
      cases k == key a <;> rfl

/-- Of some changes to an association list the last one to a key counts. -/
theorem lookup_foldl_assign_pairs (changes done : List (κ × β)) (k : κ) :
    (changes.foldl (fun done (key, value) => assign key value done) done).lookup k
      = (changes.reverse.lookup k).or (done.lookup k) := by
  induction changes generalizing done with
  | nil => rfl
  | cons change changes ih =>
      rw [List.foldl_cons, ih, lookup_assign, List.reverse_cons, List.lookup_append, Option.or_assoc,
        List.lookup_cons, List.lookup_nil]
      cases k == change.1 <;> rfl

theorem map_fst_foldl_assign_pairs (changes : List (κ × β)) {done : List (κ × β)}
    (hdone : (done.map Prod.fst).Nodup) :
    (changes.foldl (fun done (key, value) => assign key value done) done).map Prod.fst
      = (done.map Prod.fst ++ changes.map Prod.fst).eraseDups := by
  induction changes using List.reverseRecOn with
  | nil => rw [List.foldl_nil, List.map_nil, List.append_nil, eraseDups_of_nodup hdone]
  | append_singleton changes change ih =>
      rw [List.foldl_append, List.foldl_cons, List.foldl_nil, map_fst_assign, ih, List.map_append,
        List.map_singleton, ← List.append_assoc, eraseDups_concat]

/-- The entry that comes first stays first, under the last change to its key. -/
theorem foldl_assign_cons (changes : List (κ × β)) (k : κ) (value : β) (rest : List (κ × β)) :
    changes.foldl (fun done (key, value) => assign key value done) ((k, value) :: rest)
      = (k, (changes.reverse.lookup k).getD value)
        :: (changes.filter fun change => change.1 != k).foldl
            (fun done (key, value) => assign key value done) rest := by
  induction changes generalizing value rest with
  | nil => rfl
  | cons change changes ih =>
      obtain ⟨key, new⟩ := change
      rw [List.foldl_cons, List.reverse_cons, List.lookup_append]
      simp only [assign]
      by_cases hkey : k = key
      · subst hkey
        rw [if_pos (beq_self_eq_true k), ih, List.filter_cons_of_neg (by simp), List.lookup_cons_self]
        cases changes.reverse.lookup k <;> rfl
      · rw [if_neg (by simpa using hkey), ih, List.filter_cons_of_pos (by simpa using Ne.symm hkey),
          List.lookup_cons, beq_false_of_ne hkey, List.lookup_nil, Option.or_none]
        rfl

theorem lookup_map_snd (f : κ → α → β) (items : List (κ × α)) (k : κ) :
    (items.map fun item => (item.1, f item.1 item.2)).lookup k = (items.lookup k).map (f k) := by
  induction items with
  | nil => rfl
  | cons item rest ih =>
      rw [List.map_cons, List.lookup_cons, List.lookup_cons, ih]
      cases hkey : k == item.1 with
      | false => rfl
      | true => rw [eq_of_beq hkey, Option.map_some]

/-- Under distinct keys an entry is there exactly when it is found by its key. -/
theorem lookup_eq_some_iff_mem {items : List (κ × β)} (hitems : (items.map Prod.fst).Nodup) {k : κ} {b : β} :
    items.lookup k = some b ↔ (k, b) ∈ items := by
  rw [List.lookup_eq_some_iff]
  constructor
  · rintro ⟨earlier, later, rfl, -⟩
    exact List.mem_append_right _ List.mem_cons_self
  · intro hmem
    obtain ⟨earlier, later, rfl⟩ := List.append_of_mem hmem
    refine ⟨earlier, later, rfl, fun item hitem => bne_iff_ne.mpr fun heq => ?_⟩
    rw [List.map_append, List.map_cons] at hitems
    exact (List.nodup_append.mp hitems).2.2 item.1 (List.mem_map_of_mem hitem) k List.mem_cons_self heq.symm

theorem lookup_filter_fst (p : κ → Bool) (items : List (κ × α)) (k : κ) :
    (items.filter fun item => p item.1).lookup k = if p k then items.lookup k else none := by
  induction items with
  | nil => cases p k <;> rfl
  | cons item rest ih =>
      obtain ⟨key, value⟩ := item
      by_cases hkey : k = key
      · subst hkey
        cases hp : p k with
        | false =>
            rw [List.filter_cons_of_neg (by simp [hp]), ih, hp]
            rfl
        | true =>
            rw [List.filter_cons_of_pos (by exact hp), List.lookup_cons_self, List.lookup_cons_self]
            rfl
      · have hother : (k == key) = false := beq_false_of_ne hkey
        rw [List.lookup_cons, hother, ← ih]
        cases hp : p key with
        | false => rw [List.filter_cons_of_neg (by simp [hp])]
        | true => rw [List.filter_cons_of_pos (by exact hp), List.lookup_cons, hother]

end Assign

end NoteSearch
