import Mathlib.Data.List.Forall2

/-!
# Results and faults

A computation in steps gives a result when all its steps do, and a list is read when each of its items
is. A fault is that of a step.
-/

namespace NoteSearch

variable {ε α β γ : Type} {x : Except ε α}

theorem bind_eq_ok_iff {f : α → Except ε β} {b : β} :
    x.bind f = .ok b ↔ ∃ a, x = .ok a ∧ f a = .ok b := by
  cases x <;> simp [Except.bind]

theorem map_eq_ok_iff {f : α → β} {b : β} : x.map f = .ok b ↔ ∃ a, x = .ok a ∧ f a = b := by
  cases x <;> simp [Except.map]

theorem exists_map_iff {f : α → β} : (∃ b, x.map f = .ok b) ↔ ∃ a, x = .ok a := by
  cases x <;> simp [Except.map]

theorem exists_bind_map_iff {y : Except ε β} {f : α → β → γ} :
    (∃ c, (x.bind fun a => y.map (f a)) = .ok c) ↔ (∃ a, x = .ok a) ∧ ∃ b, y = .ok b := by
  cases x <;> cases y <;> simp [Except.bind, Except.map]

theorem mapM_cons_eq_bind {f : α → Except ε β} {a : α} {items : List α} :
    (a :: items).mapM f = (f a).bind fun b => (items.mapM f).map (b :: ·) := by
  rw [List.mapM_cons]
  cases f a with
  | error e => rfl
  | ok b => cases items.mapM f <;> rfl

/-- A list is read item by item, and each item is read. -/
theorem mapM_eq_ok_iff {f : α → Except ε β} {items : List α} {results : List β} :
    items.mapM f = .ok results ↔ List.Forall₂ (fun a b => f a = .ok b) items results := by
  induction items generalizing results with
  | nil => cases results <;> simp [pure, Except.pure]
  | cons a items ih =>
      simp only [mapM_cons_eq_bind, bind_eq_ok_iff, map_eq_ok_iff, ih, List.forall₂_cons_left_iff]
      constructor
      · rintro ⟨b, ha, later, hlater, rfl⟩
        exact ⟨b, later, ha, hlater, rfl⟩
      · rintro ⟨b, later, ha, hlater, rfl⟩
        exact ⟨b, ha, later, hlater, rfl⟩

theorem mapM_eq_ok {f : α → Except ε β} {g : α → β} {items : List α}
    (h : ∀ a ∈ items, f a = .ok (g a)) : items.mapM f = .ok (items.map g) := by
  rw [mapM_eq_ok_iff, List.forall₂_map_right_iff, List.forall₂_same]
  exact h

theorem exists_mem_of_mapM_eq_error {f : α → Except ε β} {items : List α} {e : ε}
    (hfailed : items.mapM f = .error e) : ∃ a ∈ items, f a = .error e := by
  induction items with
  | nil => exact nomatch hfailed
  | cons a items ih =>
      rw [mapM_cons_eq_bind] at hfailed
      cases ha : f a with
      | error first =>
          rw [ha] at hfailed
          obtain rfl := Except.error.inj hfailed
          exact ⟨a, List.mem_cons_self, ha⟩
      | ok b =>
          rw [ha] at hfailed
          cases hlater : items.mapM f with
          | error later =>
              rw [hlater] at hfailed
              obtain rfl := Except.error.inj hfailed
              obtain ⟨c, hc, hfc⟩ := ih hlater
              exact ⟨c, List.mem_cons_of_mem _ hc, hfc⟩
          | ok bs =>
              rw [hlater] at hfailed
              exact nomatch hfailed

end NoteSearch
