import LogtalkNavigation.Position
import LogtalkNavigation.Proofs.Results

/-! Which ranges there are. A stretch of a line has a range exactly if the line and both of its ends are coordinates
that a position may have, and then the range has just these. -/

namespace LogtalkNavigation

def Range.stretch (line start stop : Nat) : Range := ⟨⟨line, start⟩, ⟨line, stop⟩⟩

def Located.atStart (line : Nat) : Located := ⟨.stretch line 0 0, .stretch line 0 0⟩

theorem coordinate_natural (field : String) {value : Nat} (within : value ≤ maxCoordinate) :
    Position.coordinate field value = .ok value := by
  rw [Position.coordinate, if_pos ⟨Int.natCast_nonneg value, Int.ofNat_le.mpr within⟩, Int.toNat_natCast]

theorem natural_of_coordinate {field : String} {value : Int} {coordinate : Nat}
    (counted : Position.coordinate field value = .ok coordinate) :
    value = coordinate ∧ coordinate ≤ maxCoordinate := by
  unfold Position.coordinate at counted
  split at counted
  case isTrue within =>
    cases counted
    omega
  case isFalse => split at counted <;> cases counted

theorem ofInts_eq_ok_iff (line character : Int) (position : Position) :
    Position.ofInts line character = .ok position ↔ line = position.line ∧ character = position.character ∧
      position.line ≤ maxCoordinate ∧ position.character ≤ maxCoordinate := by
  constructor
  · intro placed
    obtain ⟨row, counted, rest⟩ := ok_of_bind placed
    obtain ⟨column, numbered, made⟩ := ok_of_bind rest
    cases made
    obtain ⟨sameLine, lineWithin⟩ := natural_of_coordinate counted
    obtain ⟨sameColumn, columnWithin⟩ := natural_of_coordinate numbered
    exact ⟨sameLine, sameColumn, lineWithin, columnWithin⟩
  · rintro ⟨rfl, rfl, lineWithin, columnWithin⟩
    rw [Position.ofInts, coordinate_natural "line" lineWithin, coordinate_natural "character" columnWithin]
    rfl

theorem onLine_eq_ok_iff (index : Int) (start stop : Nat) (range : Range) :
    Range.onLine index start stop = .ok range ↔ ∃ line : Nat, index = line ∧ line ≤ maxCoordinate ∧
      start ≤ maxCoordinate ∧ stop ≤ maxCoordinate ∧ range = .stretch line start stop := by
  constructor
  · intro placed
    obtain ⟨first, began, rest⟩ := ok_of_bind placed
    obtain ⟨last, ended, made⟩ := ok_of_bind rest
    cases made
    obtain ⟨⟨line, column⟩, ⟨other, final⟩⟩ := first, last
    simp only [ofInts_eq_ok_iff, Int.ofNat_inj] at began ended
    obtain ⟨rfl, rfl, lineWithin, startWithin⟩ := began
    obtain ⟨same, rfl, _, stopWithin⟩ := ended
    refine ⟨line, rfl, lineWithin, startWithin, stopWithin, ?_⟩
    rw [Range.stretch, Int.ofNat_inj.mp same]
  · rintro ⟨line, rfl, lineWithin, startWithin, stopWithin, rfl⟩
    rw [Range.onLine, (ofInts_eq_ok_iff line start ⟨line, start⟩).mpr ⟨rfl, rfl, lineWithin, startWithin⟩,
      (ofInts_eq_ok_iff line stop ⟨line, stop⟩).mpr ⟨rfl, rfl, lineWithin, stopWithin⟩]
    rfl

theorem lineStart_eq_ok_iff (index : Int) (located : Located) :
    lineStart index = .ok located ↔ index ≤ maxCoordinate ∧ located = .atStart index.toNat := by
  constructor
  · intro placed
    obtain ⟨position, began, made⟩ := ok_of_bind placed
    obtain ⟨line, column⟩ := position
    cases made
    obtain ⟨same, none, lineWithin, _⟩ := (ofInts_eq_ok_iff _ _ _).mp began
    dsimp only at same none lineWithin
    have first : line = index.toNat := by omega
    have zero : column = 0 := by omega
    subst first zero
    exact ⟨by omega, rfl⟩
  · rintro ⟨within, rfl⟩
    have began := (ofInts_eq_ok_iff (max index 0) 0 ⟨index.toNat, 0⟩).mpr
      ⟨by dsimp only; omega, rfl, by dsimp only; omega, Nat.zero_le _⟩
    rw [lineStart, began]
    rfl

end LogtalkNavigation
