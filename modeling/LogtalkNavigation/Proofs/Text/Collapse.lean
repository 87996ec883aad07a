import LogtalkNavigation.Text.Blank
import Mathlib.Data.List.Chain

/-! Runs of blanks collapsed. Places in a collapsed text are not those of the text itself: they differ by what was
left out in front of them, and agree exactly where no blank follows another one. -/

namespace LogtalkNavigation.Text

def Single (text : Text) : Prop := text.IsChain fun c d => isBlank c = true → isBlank d = false

def surplus (text : Text) : Nat := text.length - (collapse text).length

instance (text : Text) : Decidable (Single text) :=
  inferInstanceAs (Decidable (text.IsChain fun c d => isBlank c = true → isBlank d = false))

theorem single_cons (c : Char) (rest : Text) :
    Single (c :: rest) ↔ (isBlank c = true → ∀ d ∈ rest.head?, isBlank d = false) ∧ Single rest := by
  rw [Single, List.isChain_cons]
  apply and_congr_left'
  constructor
  · intro apart blank d next
    exact apart d next blank
  · intro apart d next blank
    exact apart blank d next

-- Where the parts meet, one of the two characters is no blank.
theorem single_append {front back : Text} (first : Single front) (second : Single back)
    (meeting : (∀ c ∈ front.getLast?, isBlank c = false) ∨ ∀ c ∈ back.head?, isBlank c = false) :
    Single (front ++ back) := by
  apply List.isChain_append.mpr
  refine ⟨first, second, ?_⟩
  intro c last d next blank
  rcases meeting with visible | visible
  · rw [visible c last] at blank
    cases blank
  · exact visible d next

theorem single_of_visible {text : Text} (visible : ∀ c ∈ text, isBlank c = false) : Single text := by
  induction text with
  | nil => exact .nil
  | cons c rest ih =>
      apply (single_cons c rest).mpr
      constructor
      · intro blank
        rw [visible c List.mem_cons_self] at blank
        cases blank
      · exact ih fun d inside => visible d (List.mem_cons_of_mem c inside)

theorem length_collapseFrom_le (within : Bool) (text : Text) : (collapseFrom within text).length ≤ text.length := by
  induction text generalizing within with
  | nil => exact Nat.le_refl 0
  | cons c rest ih =>
      have after := ih true
      have apart := ih false
      rw [collapseFrom]
      split
      · split <;> simp only [List.length_cons] <;> omega
      · simp only [List.length_cons]
        omega

/-- Nothing is left out of a text exactly if its blanks stand alone, the one before the text included. -/
theorem length_collapseFrom_eq_iff (within : Bool) (text : Text) :
    (collapseFrom within text).length = text.length ↔
      (within = true → ∀ c ∈ text.head?, isBlank c = false) ∧ Single text := by
  induction text generalizing within with
  | nil => simp [collapseFrom, Single]
  | cons c rest ih =>
      rw [single_cons, collapseFrom]
      cases blank : isBlank c with
      | false => simp [blank, ih false]
      | true =>
          cases within with
          | false => simp [ih true]
          | true =>
              have short := length_collapseFrom_le true rest
              have shorter : (collapseFrom true rest).length ≠ rest.length + 1 := by omega
              simp [blank, shorter]

theorem surplus_eq_zero_iff (text : Text) : surplus text = 0 ↔ Single text := by
  have short := length_collapseFrom_le false text
  have whole := length_collapseFrom_eq_iff false text
  simp only [Bool.false_eq_true, false_implies, true_and] at whole
  rw [← whole, surplus, collapse]
  omega

-- What stands behind a visible character collapses by itself.
theorem collapseFrom_append (within : Bool) (front : Text) {c : Char} (visible : isBlank c = false) (rest : Text) :
    collapseFrom within (front ++ c :: rest) = collapseFrom within (front ++ [c]) ++ collapse rest := by
  induction front generalizing within with
  | nil => simp [collapseFrom, visible, collapse]
  | cons d front ih =>
      simp only [List.cons_append, collapseFrom, ih]
      split
      · split <;> rfl
      · rfl

theorem drop_collapse (front : Text) {c : Char} (visible : isBlank c = false) (rest : Text) :
    (collapse (front ++ c :: rest)).drop (front ++ [c]).length = (collapse rest).drop (surplus (front ++ [c])) := by
  have short := length_collapseFrom_le false (front ++ [c])
  rw [collapse, collapseFrom_append false front visible, List.drop_append, List.drop_of_length_le short,
    List.nil_append]
  rfl

end LogtalkNavigation.Text
