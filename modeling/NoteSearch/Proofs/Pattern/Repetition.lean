import NoteSearch.Proofs.Match.Scan

/-!
# Greedy repetitions of a set of characters

A greedy repetition of a set without an upper bound reads the whole run of characters of the set that
stands at a place, if what follows in the pattern accepts the end of the run. It fails where the run
is too short.
-/

namespace NoteSearch.Pattern

theorem step_between (before : Text) (c : Char) (rest : Text) :
    (Place.between before (c :: rest)).step c rest = .between (before ++ [c]) rest := by
  rw [Place.step, Place.between, Place.between, List.length_append, List.length_singleton,
    List.reverse_concat]

section

variable {mode : Mode} {set : CharSet} {next : Next} {least : Nat}
  {groups : List (Nat × Capture)} {before run after : Text}

theorem run_char_of_has {c : Char} (hc : set.has mode c) (rest : Text) :
    Pattern.run mode (.char set) next ⟨.between before (c :: rest), groups⟩
      = next ⟨.between (before ++ [c]) rest, groups⟩ := by
  rw [← step_between]
  exact if_pos hc

theorem run_char_of_not_has {rest : Text} (hrest : rest.head?.any (set.has mode) = false) :
    Pattern.run mode (.char set) next ⟨.between before rest, groups⟩ = none := by
  cases rest with
  | nil => rfl
  | cons c rest => exact if_neg (by simpa using hrest)

/-- A run that is long enough is read to its end. -/
theorem repeatFrom_of_le (hrun : ∀ c ∈ run, set.has mode c)
    (hafter : after.head?.any (set.has mode) = false)
    (hnext : (next ⟨.between (before ++ run) after, groups⟩).isSome) {fuel count : Nat}
    (hfuel : run.length < fuel) (hlong : least ≤ count + run.length) {last : Option Nat}
    (hlast : ∀ k, last = some k → k < before.length) :
    repeatFrom ⟨least, none, false⟩ (Pattern.run mode (.char set)) next fuel count last
        ⟨.between before (run ++ after), groups⟩
      = next ⟨.between (before ++ run) after, groups⟩ := by
  induction run generalizing before fuel count last with
  | nil =>
      obtain ⟨fuel, rfl⟩ := Nat.exists_eq_add_one_of_ne_zero (Nat.ne_of_gt hfuel)
      have hcount : ¬count < least := by
        rw [List.length_nil] at hlong
        omega
      rw [List.nil_append, List.append_nil, repeatFrom, if_neg hcount]
      simp only [run_char_of_not_has hafter]
      split <;> simp
  | cons c run ih =>
      obtain ⟨fuel, rfl⟩ := Nat.exists_eq_add_one_of_ne_zero (Nat.ne_zero_of_lt hfuel)
      obtain ⟨hc, hrun⟩ := List.forall_mem_cons.mp hrun
      rw [List.append_cons] at hnext ⊢
      rw [List.length_cons] at hfuel hlong
      have hread : ∀ last : Option Nat, (∀ k, last = some k → k < (before ++ [c]).length) →
          repeatFrom ⟨least, none, false⟩ (Pattern.run mode (.char set)) next fuel (count + 1)
              last ⟨.between (before ++ [c]) (run ++ after), groups⟩
            = next ⟨.between (before ++ [c] ++ run) after, groups⟩ :=
        fun last hlast => ih hrun hnext (by omega) (by omega) hlast
      have hshorter : before.length < (before ++ [c]).length := by simp
      rw [List.cons_append, repeatFrom]
      by_cases hcount : count < least
      · rw [if_pos hcount, run_char_of_has hc]
        exact hread last fun k hk => Nat.lt_trans (hlast k hk) hshorter
      · have hmoves : (last != some before.length) = true :=
          bne_iff_ne.mpr fun heq => Nat.lt_irrefl _ (hlast _ heq)
        have hfurther := hread (some before.length) (by rintro k ⟨rfl⟩; exact hshorter)
        obtain ⟨final, hfinal⟩ := Option.isSome_iff_exists.mp hnext
        have hoffset : (Place.between before (c :: (run ++ after))).offset = before.length := rfl
        rw [if_neg hcount]
        simp only [Bool.false_eq_true, if_false, Rounds.allows, Option.all_none, hoffset, hmoves,
          Bool.and_self, if_true, run_char_of_has hc, hfurther, hfinal, Option.orElse_some]

/-- A run that is too short is not read at all. -/
theorem repeatFrom_of_lt (hrun : ∀ c ∈ run, set.has mode c)
    (hafter : after.head?.any (set.has mode) = false) {fuel count : Nat}
    (hshort : count + run.length < least) {last : Option Nat} :
    repeatFrom ⟨least, none, false⟩ (Pattern.run mode (.char set)) next fuel count last
        ⟨.between before (run ++ after), groups⟩ = none := by
  induction run generalizing before fuel count last with
  | nil =>
      cases fuel with
      | zero => rfl
      | succ fuel =>
          rw [repeatFrom, if_pos (by simpa using hshort), List.nil_append, run_char_of_not_has hafter]
  | cons c run ih =>
      cases fuel with
      | zero => rfl
      | succ fuel =>
          obtain ⟨hc, hrun⟩ := List.forall_mem_cons.mp hrun
          rw [List.length_cons] at hshort
          have hcount : count < least := by omega
          rw [List.cons_append, repeatFrom, if_pos hcount, run_char_of_has hc]
          exact ih hrun (by omega)

theorem run_many_of_le (hrun : ∀ c ∈ run, set.has mode c)
    (hafter : after.head?.any (set.has mode) = false) (hlong : least ≤ run.length)
    (hnext : (next ⟨.between (before ++ run) after, groups⟩).isSome) :
    Pattern.run mode (.many least none .greedy (.char set)) next
        ⟨.between before (run ++ after), groups⟩
      = next ⟨.between (before ++ run) after, groups⟩ := by
  apply repeatFrom_of_le hrun hafter hnext
  · show run.length < least + (run ++ after).length + 2
    rw [List.length_append]
    omega
  · omega
  · exact fun k hk => absurd hk (by simp)

theorem run_many_of_lt (hrun : ∀ c ∈ run, set.has mode c)
    (hafter : after.head?.any (set.has mode) = false) (hshort : run.length < least) :
    Pattern.run mode (.many least none .greedy (.char set)) next
        ⟨.between before (run ++ after), groups⟩ = none :=
  repeatFrom_of_lt hrun hafter (by omega)

end

end NoteSearch.Pattern
