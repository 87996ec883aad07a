import LogtalkNavigation.Failure
import Mathlib.Data.List.Forall2

/-! Results that may be failures, and lists of them. A list is made if each of its members is, and otherwise fails as
one of them does. -/

namespace LogtalkNavigation

theorem ok_of_bind {α β : Type} {first : Except Failure α} {next : α → Except Failure β} {result : β}
    (ended : (first >>= next) = .ok result) : ∃ value, first = .ok value ∧ next value = .ok result := by
  cases first with
  | error failure => cases ended
  | ok value => exact ⟨value, rfl, ended⟩

theorem mapM_eq_ok_iff_forall₂ {α β : Type} (each : α → Except Failure β) (items : List α) (results : List β) :
    items.mapM each = .ok results ↔ List.Forall₂ (fun item result => each item = .ok result) items results := by
  induction items generalizing results with
  | nil =>
      rw [List.mapM_nil, List.forall₂_nil_left_iff]
      constructor
      · intro made
        cases made
        rfl
      · rintro rfl
        rfl
  | cons item rest ih =>
      rw [List.mapM_cons, List.forall₂_cons_left_iff]
      constructor
      · intro ended
        obtain ⟨first, one, ended⟩ := ok_of_bind ended
        obtain ⟨others, all, ended⟩ := ok_of_bind ended
        cases ended
        exact ⟨first, others, one, (ih others).mp all, rfl⟩
      · rintro ⟨first, others, one, all, rfl⟩
        rw [one, (ih others).mpr all]
        rfl

theorem mapM_eq_ok_iff {α β : Type} {each : α → Except Failure β} {fits : α → Prop} {made : α → β}
    (every : ∀ item result, each item = .ok result ↔ fits item ∧ result = made item) (items : List α)
    (results : List β) :
    items.mapM each = .ok results ↔ (∀ item ∈ items, fits item) ∧ results = items.map made := by
  have mapped : List.Forall₂ (fun item result => result = made item) items results ↔
      results = items.map made := by
    rw [← List.forall₂_eq_eq_eq, List.forall₂_map_right_iff]
    exact ⟨List.Forall₂.flip, List.Forall₂.flip⟩
  rw [mapM_eq_ok_iff_forall₂]
  simp only [every]
  rw [List.forall₂_and_left, mapped]

theorem error_of_mapM {α β : Type} {each : α → Except Failure β} {items : List α} {failure : Failure}
    (failed : items.mapM each = .error failure) : ∃ item ∈ items, each item = .error failure := by
  induction items with
  | nil => cases failed
  | cons item rest ih =>
      rw [List.mapM_cons] at failed
      cases one : each item with
      | error other =>
          rw [one] at failed
          cases failed
          exact ⟨item, List.mem_cons_self, one⟩
      | ok first =>
          cases all : rest.mapM each with
          | error other =>
              rw [one, all] at failed
              cases failed
              obtain ⟨later, among, here⟩ := ih all
              exact ⟨later, List.mem_cons_of_mem item among, here⟩
          | ok others =>
              rw [one, all] at failed
              cases failed

end LogtalkNavigation
