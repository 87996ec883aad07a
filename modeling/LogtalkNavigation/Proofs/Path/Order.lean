import LogtalkNavigation.Path.Basic

/-! The order of texts and paths. Both are total orders, so sorting by them puts a list in the one order there is. -/

namespace LogtalkNavigation

namespace Text

theorem le_cons_iff (a b : Char) (left right : Text) :
    le (a :: left) (b :: right) = true ↔ a.toNat < b.toNat ∨ a = b ∧ le left right = true := by
  simp [le]

theorem le_refl (text : Text) : le text text = true := by
  induction text with
  | nil => rfl
  | cons c text ih => exact (le_cons_iff c c text text).mpr (.inr ⟨rfl, ih⟩)

theorem le_trans (one two three : Text) (first : le one two = true) (second : le two three = true) :
    le one three = true := by
  induction one generalizing two three with
  | nil => cases three <;> rfl
  | cons a one ih =>
      cases two with
      | nil => cases first
      | cons b two =>
          cases three with
          | nil => cases second
          | cons c three =>
              rw [le_cons_iff] at first second ⊢
              rcases first with less | ⟨rfl, first⟩
              · rcases second with more | ⟨rfl, _⟩
                · exact .inl (Nat.lt_trans less more)
                · exact .inl less
              · rcases second with more | ⟨rfl, second⟩
                · exact .inl more
                · exact .inr ⟨rfl, ih two three first second⟩

theorem le_total (one two : Text) : le one two = true ∨ le two one = true := by
  induction one generalizing two with
  | nil => exact .inl (by cases two <;> rfl)
  | cons a one ih =>
      cases two with
      | nil => exact .inr rfl
      | cons b two =>
          rw [le_cons_iff, le_cons_iff]
          rcases Nat.lt_trichotomy a.toNat b.toNat with less | same | more
          · exact .inl (.inl less)
          · obtain rfl : a = b := Char.toNat_inj.mp same
            rcases ih two with first | second
            · exact .inl (.inr ⟨rfl, first⟩)
            · exact .inr (.inr ⟨rfl, second⟩)
          · exact .inr (.inl more)

theorem le_antisymm (one two : Text) (first : le one two = true) (second : le two one = true) : one = two := by
  induction one generalizing two with
  | nil =>
      cases two with
      | nil => rfl
      | cons b two => cases second
  | cons a one ih =>
      cases two with
      | nil => cases first
      | cons b two =>
          rw [le_cons_iff] at first second
          rcases first with less | ⟨rfl, first⟩
          · rcases second with more | ⟨rfl, _⟩ <;> omega
          · rcases second with more | ⟨_, second⟩
            · omega
            · rw [ih two first second]

end Text

namespace Path

theorem namesLe_cons_iff (a b : Name) (left right : List Name) :
    namesLe (a :: left) (b :: right) = true ↔
      a = b ∧ namesLe left right = true ∨ a ≠ b ∧ Text.le a.1 b.1 = true := by
  by_cases same : a = b <;> simp [namesLe, same]

theorem namesLe_trans (one two three : List Name) (first : namesLe one two = true)
    (second : namesLe two three = true) : namesLe one three = true := by
  induction one generalizing two three with
  | nil => cases three <;> rfl
  | cons a one ih =>
      cases two with
      | nil => cases first
      | cons b two =>
          cases three with
          | nil => cases second
          | cons c three =>
              rw [namesLe_cons_iff] at first second ⊢
              rcases first with ⟨rfl, first⟩ | ⟨apart, first⟩
              · rcases second with ⟨rfl, second⟩ | later
                · exact .inl ⟨rfl, ih two three first second⟩
                · exact .inr later
              · rcases second with ⟨rfl, _⟩ | ⟨further, second⟩
                · exact .inr ⟨apart, first⟩
                · refine .inr ⟨?_, Text.le_trans _ _ _ first second⟩
                  rintro rfl
                  exact apart (Subtype.ext (Text.le_antisymm _ _ first second))

theorem namesLe_total (one two : List Name) : namesLe one two = true ∨ namesLe two one = true := by
  induction one generalizing two with
  | nil => exact .inl (by cases two <;> rfl)
  | cons a one ih =>
      cases two with
      | nil => exact .inr rfl
      | cons b two =>
          rw [namesLe_cons_iff, namesLe_cons_iff]
          by_cases same : a = b
          · subst same
            rcases ih two with first | second
            · exact .inl (.inl ⟨rfl, first⟩)
            · exact .inr (.inl ⟨rfl, second⟩)
          · rcases Text.le_total a.1 b.1 with first | second
            · exact .inl (.inr ⟨same, first⟩)
            · exact .inr (.inr ⟨Ne.symm same, second⟩)

theorem le_iff (p q : Path) :
    le p q = true ↔ p.anchor = q.anchor ∧ namesLe p.names q.names = true ∨
      p.anchor ≠ q.anchor ∧ Text.le p.anchor.text q.anchor.text = true := by
  by_cases same : p.anchor = q.anchor <;> simp [le, same]

theorem anchorText_injective (one other : Anchor) (same : one.text = other.text) : one = other := by
  cases one <;> cases other <;> first | rfl | cases same

theorem le_trans (p q r : Path) (first : le p q = true) (second : le q r = true) : le p r = true := by
  rw [le_iff] at first second ⊢
  rcases first with ⟨same, first⟩ | ⟨apart, first⟩
  · rw [same]
    rcases second with ⟨also, second⟩ | later
    · exact .inl ⟨also, namesLe_trans _ _ _ first second⟩
    · exact .inr later
  · rcases second with ⟨also, _⟩ | ⟨further, second⟩
    · rw [← also]
      exact .inr ⟨apart, first⟩
    · refine .inr ⟨fun same => apart ?_, Text.le_trans _ _ _ first second⟩
      rw [← same] at second
      exact anchorText_injective _ _ (Text.le_antisymm _ _ first second)

theorem le_total (p q : Path) : (le p q || le q p) = true := by
  rw [Bool.or_eq_true, le_iff, le_iff]
  by_cases same : p.anchor = q.anchor
  · rcases namesLe_total p.names q.names with first | second
    · exact .inl (.inl ⟨same, first⟩)
    · exact .inr (.inl ⟨same.symm, second⟩)
  · rcases Text.le_total p.anchor.text q.anchor.text with first | second
    · exact .inl (.inr ⟨same, first⟩)
    · exact .inr (.inr ⟨Ne.symm same, second⟩)

end Path

end LogtalkNavigation
